import Mathlib

/-!
# Checks that gather refusals

Library `Base`. A check of some input yields a value, refuses the input, or raises an exception.
Checks of several parts run all of them: a refusal of one part does not keep the others from
being looked at, but an exception ends the whole check at once.
-/

namespace EdgeMonitor.Base

universe u v

/-- The result of a check. -/
inductive Check (ε : Type u) (α : Type v) where
  | valid (a : α)
  | invalid
  | raised (e : ε)

namespace Check

variable {ε : Type u} {α β : Type v}

/-- Check one part after another. -/
def seq (f : Check ε (α → β)) (x : Unit → Check ε α) : Check ε β :=
  match f with
  | raised e => raised e
  | valid f =>
    match x () with
    | valid a => valid (f a)
    | invalid => invalid
    | raised e => raised e
  | invalid =>
    match x () with
    | raised e => raised e
    | _ => invalid

instance : Applicative (Check ε) where
  pure := valid
  seq := seq
  map f x := seq (valid f) fun _ ↦ x

/-- A check without exceptions. -/
def ofOption : Option α → Check ε α
  | some a => valid a
  | none => invalid

/-- Check all elements of a list. -/
def all {γ : Type v} (f : γ → Check ε α) : List γ → Check ε (List α)
  | [] => valid []
  | c :: cs => List.cons <$> f c <*> all f cs

/-- The exception of a refusal, or of the check itself. -/
def toExcept (refusal : ε) : Check ε α → Except ε α
  | valid a => .ok a
  | invalid => .error refusal
  | raised e => .error e

/-- The check raises one exception, and just when a condition holds. -/
def RaisesWhen (x : Check ε α) (e : ε) (p : Prop) : Prop :=
  (p → x = raised e) ∧ (¬ p → ∀ e', x ≠ raised e')

/-! ### Rules -/

theorem pure_eq (a : α) : (pure a : Check ε α) = valid a := rfl

theorem map_eq (f : α → β) (x : Check ε α) : f <$> x =
    match x with
    | valid a => valid (f a)
    | invalid => invalid
    | raised e => raised e := by
  cases x <;> rfl

theorem map_eq_valid {f : α → β} {x : Check ε α} {b : β} :
    f <$> x = valid b ↔ ∃ a, x = valid a ∧ f a = b := by
  cases x <;> simp [map_eq]

theorem seq_eq_valid {f : Check ε (α → β)} {x : Check ε α} {b : β} :
    f <*> x = valid b ↔ ∃ g a, f = valid g ∧ x = valid a ∧ g a = b := by
  change seq f (fun _ ↦ x) = valid b ↔ _
  cases f <;> cases x <;> simp [seq]

section
variable {e refusal : ε} {p q : Prop}

/-- A check that raises nothing. -/
theorem raisesWhen_false {x : Check ε α} (h : ∀ e', x ≠ raised e') : x.RaisesWhen e False :=
  ⟨False.elim, fun _ ↦ h⟩

theorem RaisesWhen.congr {x : Check ε α} (h : x.RaisesWhen e p) (hpq : p ↔ q) :
    x.RaisesWhen e q := by
  rwa [← propext hpq]

theorem RaisesWhen.map {x : Check ε α} (h : x.RaisesWhen e p) (f : α → β) :
    (f <$> x).RaisesWhen e p := by
  obtain ⟨hraised, hnot⟩ := h
  constructor
  · intro hp
    rw [hraised hp]
    rfl
  · intro hp e'
    cases x with
    | raised e'' => exact absurd rfl (hnot hp e'')
    | _ => simp [map_eq]

/-- Two parts raise when one of them does. -/
theorem RaisesWhen.seq {f : Check ε (α → β)} {x : Check ε α} (hf : f.RaisesWhen e p)
    (hx : x.RaisesWhen e q) : (f <*> x).RaisesWhen e (p ∨ q) := by
  change (Check.seq f fun _ ↦ x).RaisesWhen e (p ∨ q)
  by_cases hp : p
  · rw [hf.1 hp]
    exact ⟨fun _ ↦ rfl, fun hnot ↦ absurd (.inl hp) hnot⟩
  · have hquiet := hf.2 hp
    by_cases hq : q
    · rw [hx.1 hq]
      refine ⟨fun _ ↦ ?_, fun hnot ↦ absurd (.inr hq) hnot⟩
      cases f with
      | raised e' => exact absurd rfl (hquiet e')
      | _ => rfl
    · have hquiet' := hx.2 hq
      refine ⟨fun hor ↦ absurd hor (not_or.mpr ⟨hp, hq⟩), fun _ e' ↦ ?_⟩
      cases f with
      | raised e'' => exact absurd rfl (hquiet e'')
      | _ =>
        cases x with
        | raised e'' => exact absurd rfl (hquiet' e'')
        | _ => simp [Check.seq]

/-- A part that raises nothing changes nothing. -/
theorem RaisesWhen.seq_quiet {f : Check ε (α → β)} {x : Check ε α} (hf : f.RaisesWhen e p)
    (hx : ∀ e', x ≠ raised e') : (f <*> x).RaisesWhen e p :=
  (hf.seq (raisesWhen_false hx)).congr (by rw [or_false])

/-- A list raises when one of its elements does. -/
theorem RaisesWhen.all {γ : Type v} {f : γ → Check ε α} {r : γ → Prop}
    (h : ∀ c, (f c).RaisesWhen e (r c)) (cs : List γ) :
    (all f cs).RaisesWhen e (∃ c ∈ cs, r c) := by
  induction cs with
  | nil => exact (raisesWhen_false (by simp [Check.all])).congr (by simp)
  | cons c cs ih => exact (((h c).map List.cons).seq ih).congr (by simp)

/-- Without that exception the check succeeds or refuses. -/
theorem RaisesWhen.toExcept {x : Check ε α} (h : x.RaisesWhen e p) (hne : refusal ≠ e) :
    (∃ a, x.toExcept refusal = .ok a) ∨ x.toExcept refusal = .error refusal ↔ ¬ p := by
  constructor
  · intro hresult hp
    rw [h.1 hp] at hresult
    obtain ⟨a, ha⟩ | herror := hresult
    · cases ha
    · exact hne (Except.error.inj herror).symm
  · intro hp
    cases x with
    | valid a => exact .inl ⟨a, rfl⟩
    | invalid => exact .inr rfl
    | raised e' => exact absurd rfl (h.2 hp e')

end

end Check
end EdgeMonitor.Base
