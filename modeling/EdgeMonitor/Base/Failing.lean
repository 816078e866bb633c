import Mathlib

/-!
# Programs that return an error code

Library `Base`. A program either returns a result or fails with an error; the state that it
has reached is kept in both cases. What it ensures is composed step by step.
-/

namespace EdgeMonitor.Base

universe u

variable {ε σ α β : Type u}

/-- From a state in `P` the program returns a result in `Q`, or fails in a state in `E`. -/
def Ensures (P : σ → Prop) (m : EStateM ε σ α) (Q : α → σ → Prop) (E : σ → Prop) : Prop :=
  ∀ s, P s → match m s with
    | .ok a s' => Q a s'
    | .error _ s' => E s'

/-- Run a program for its effect on the state, whatever it returns. -/
def attempt (m : EStateM ε σ α) : EStateM ε σ PUnit := fun s ↦
  match m s with
  | .ok _ s' => .ok ⟨⟩ s'
  | .error _ s' => .ok ⟨⟩ s'

/-- Clean up when a program fails, and return its error. -/
def orElseClean (m : EStateM ε σ α) (cleanup : EStateM ε σ PUnit) : EStateM ε σ α := fun s ↦
  match m s with
  | .ok a s' => .ok a s'
  | .error e s' => (attempt cleanup >>= fun _ ↦ throw e : EStateM ε σ α) s'

namespace Ensures

variable {P P' : σ → Prop} {Q Q' : α → σ → Prop} {E E' : σ → Prop} {m : EStateM ε σ α}

theorem mono (h : Ensures P m Q E) (hP : ∀ s, P' s → P s) (hQ : ∀ a s, Q a s → Q' a s)
    (hE : ∀ s, E s → E' s) : Ensures P' m Q' E' := by
  intro s hs
  have hm := h s (hP s hs)
  cases hr : m s with
  | ok a s' =>
    rw [hr] at hm
    exact hQ a s' hm
  | error e s' =>
    rw [hr] at hm
    exact hE s' hm

theorem pure {a : α} (h : ∀ s, P s → Q a s) : Ensures P (Pure.pure a : EStateM ε σ α) Q E := h

theorem throw {e : ε} (h : ∀ s, P s → E s) : Ensures P (MonadExcept.throw e : EStateM ε σ α) Q E :=
  h

theorem bind {f : α → EStateM ε σ β} {R : β → σ → Prop} (h : Ensures P m Q E)
    (hf : ∀ a, Ensures (Q a) (f a) R E) : Ensures P (m >>= f) R E := by
  intro s hs
  have hm := h s hs
  change match EStateM.bind m f s with
    | .ok a s' => R a s'
    | .error _ s' => E s'
  unfold EStateM.bind
  cases hr : m s with
  | ok a s' =>
    rw [hr] at hm
    exact hf a s' hm
  | error e s' =>
    rw [hr] at hm
    exact hm

/-- A program that depends on the state is taken state by state. -/
theorem get_bind {f : σ → EStateM ε σ α} (h : ∀ t, P t → Ensures (· = t) (f t) Q E) :
    Ensures P (get >>= f) Q E := fun s hs ↦ h s hs s rfl

theorem update {f : σ → σ} {R : PUnit → σ → Prop} (h : ∀ s, P s → R ⟨⟩ (f s)) :
    Ensures P (modify f : EStateM ε σ PUnit) R E := h

theorem attempt {R : PUnit → σ → Prop} (h : Ensures P m Q E) (hQ : ∀ a s, Q a s → R ⟨⟩ s)
    (hE : ∀ s, E s → R ⟨⟩ s) : Ensures P (attempt m) R E' := by
  intro s hs
  have hm := h s hs
  unfold Base.attempt
  cases hr : m s with
  | ok a s' =>
    rw [hr] at hm
    exact hQ a s' hm
  | error e s' =>
    rw [hr] at hm
    exact hE s' hm

theorem orElseClean {cleanup : EStateM ε σ PUnit} (h : Ensures P m Q E)
    (hc : Ensures E cleanup (fun _ ↦ E') E') : Ensures P (orElseClean m cleanup) Q E' := by
  intro s hs
  have hm := h s hs
  unfold Base.orElseClean
  cases hr : m s with
  | ok a s' =>
    rw [hr] at hm
    exact hm
  | error e s' =>
    rw [hr] at hm
    have hclean : Ensures E (Base.attempt cleanup) (fun _ ↦ E') E' :=
      attempt hc (fun _ _ h ↦ h) fun _ h ↦ h
    exact bind hclean (fun _ ↦ throw fun _ h ↦ h) s' hm

end Ensures

end EdgeMonitor.Base
