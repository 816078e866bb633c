import Mathlib

/-!
# Programs whose steps may raise

Library `Base`. A program works on a state in named steps. One step may raise instead of
taking effect, and leaves some damage; what follows takes effect again. A program may also
raise an error of its own. The state is not rolled back.
-/

namespace EdgeMonitor.Base

universe u

/-- A step that raises, with what it leaves behind. -/
structure StepFault (L D : Type u) where
  step : L
  damage : D

/-- The state of a program, with the fault that lies ahead. -/
structure Faulty (S L D : Type u) where
  state : S
  fault : Option (StepFault L D)

/-- Why a program stops: a step raised, or it found an error. -/
inductive Raised (ε : Type u) where
  | fault
  | error (e : ε)

/-- A program that may raise. -/
abbrev Raising (S L D ε α : Type u) := EStateM (Raised ε) (Faulty S L D) α

namespace Raising
variable {S L D ε α β : Type u}

/-- The fault raises at a step. -/
def Hits (fault : Option (StepFault L D)) (step : L) : Prop := ∃ x, fault = some x ∧ x.step = step

/-- A step: what it does to the state, or its error, and the damage when it raises. -/
def step [DecidableEq L] (label : L) (effect : S → Except ε (α × S)) (damaged : D → S → S) :
    Raising S L D ε α := fun x ↦
  match x.fault with
  | some ⟨l, d⟩ =>
    if l = label then .error .fault ⟨damaged d x.state, none⟩
    else
      match effect x.state with
      | .ok (a, s) => .ok a ⟨s, x.fault⟩
      | .error e => .error (.error e) ⟨x.state, none⟩
  | none =>
    match effect x.state with
    | .ok (a, s) => .ok a ⟨s, none⟩
    | .error e => .error (.error e) ⟨x.state, none⟩

/-- Raise an error, or go on. -/
def ofExcept (r : Except ε α) : Raising S L D ε α := fun x ↦
  match r with
  | .ok a => .ok a x
  | .error e => .error (.error e) ⟨x.state, none⟩

/-- Read the state. -/
def read (f : S → α) : Raising S L D ε α := fun x ↦ .ok (f x.state) x

/-- Change the state, without raising. -/
def assign (f : S → S) : Raising S L D ε PUnit := fun x ↦ .ok ⟨⟩ ⟨f x.state, x.fault⟩

/-- `try: … except BaseException: …; raise`. -/
def onError (m : Raising S L D ε α) (handler : Raising S L D ε β) : Raising S L D ε α := fun x ↦
  match m x with
  | .ok a x' => .ok a x'
  | .error e x' =>
    match handler x' with
    | .ok _ x'' => .error e x''
    | .error e' x'' => .error e' x''

/-- `try: … finally: …`. -/
def ensuring (m : Raising S L D ε α) (cleanup : Raising S L D ε β) : Raising S L D ε α := fun x ↦
  match m x with
  | .ok a x' =>
    match cleanup x' with
    | .ok _ x'' => .ok a x''
    | .error e x'' => .error e x''
  | .error e x' =>
    match cleanup x' with
    | .ok _ x'' => .error e x''
    | .error e' x'' => .error e' x''

/-- From a state in `P` with the given fault ahead, the program returns a result in `Q`
with the fault still ahead, or raises with the fault behind it in a state in `E`. -/
def Meets (fault : Option (StepFault L D)) (P : S → Prop) (m : Raising S L D ε α)
    (Q : α → S → Prop) (E : S → Prop) : Prop :=
  ∀ s, P s → match m ⟨s, fault⟩ with
    | .ok a x => x.fault = fault ∧ Q a x.state
    | .error _ x => x.fault = (none : Option (StepFault L D)) ∧ E x.state

namespace Meets
variable {fault : Option (StepFault L D)} {P P' : S → Prop} {Q Q' : α → S → Prop} {E E' : S → Prop}
  {m : Raising S L D ε α}

theorem mono (h : Meets fault P m Q E) (hP : ∀ s, P' s → P s) (hQ : ∀ a s, Q a s → Q' a s)
    (hE : ∀ s, E s → E' s) : Meets fault P' m Q' E' := by
  intro s hs
  have hm := h s (hP s hs)
  cases hx : m ⟨s, fault⟩ with
  | ok a x =>
    rw [hx] at hm
    exact ⟨hm.1, hQ a _ hm.2⟩
  | error e x =>
    rw [hx] at hm
    exact ⟨hm.1, hE _ hm.2⟩

/-- A precondition is taken state by state. -/
theorem of_forall (h : ∀ t, P t → Meets fault (· = t) m Q E) : Meets fault P m Q E :=
  fun s hs ↦ h s hs s rfl

theorem pure {a : α} (h : ∀ s, P s → Q a s) :
    Meets fault P (Pure.pure a : Raising S L D ε α) Q E := fun s hs ↦ ⟨rfl, h s hs⟩

theorem bind {f : α → Raising S L D ε β} {R : β → S → Prop} (h : Meets fault P m Q E)
    (hf : ∀ a, Meets fault (Q a) (f a) R E) : Meets fault P (m >>= f) R E := by
  intro s hs
  have hm := h s hs
  simp only [Bind.bind, EStateM.bind]
  cases hx : m ⟨s, fault⟩ with
  | ok a x =>
    obtain ⟨s', fault'⟩ := x
    rw [hx] at hm
    obtain ⟨rfl, hs'⟩ := hm
    exact hf a s' hs'
  | error e x =>
    rw [hx] at hm
    exact hm

theorem step [DecidableEq L] {label : L} {effect : S → Except ε (α × S)} {damaged : D → S → S}
    (hok : ∀ s a s', P s → ¬ Hits fault label → effect s = .ok (a, s') → Q a s')
    (herror : ∀ s e, P s → ¬ Hits fault label → effect s = .error e → E s)
    (hfault : ∀ s d, P s → fault = some ⟨label, d⟩ → E (damaged d s)) :
    Meets fault P (Raising.step label effect damaged) Q E := by
  intro s hs
  rcases fault with _ | ⟨l, d⟩
  · have hmiss : ¬ Hits (none : Option (StepFault L D)) label := by
      rintro ⟨x, hx, -⟩
      cases hx
    unfold Raising.step
    cases heffect : effect s with
    | ok r => exact ⟨rfl, hok s _ _ hs hmiss heffect⟩
    | error e => exact ⟨rfl, herror s e hs hmiss heffect⟩
  · by_cases hl : l = label
    · subst hl
      simpa only [Raising.step, if_true, true_and] using hfault s d hs rfl
    · have hmiss : ¬ Hits (some (⟨l, d⟩ : StepFault L D)) label := by
        rintro ⟨x, hx, rfl⟩
        cases hx
        exact hl rfl
      simp only [Raising.step, if_neg hl]
      cases heffect : effect s with
      | ok r => exact ⟨rfl, hok s _ _ hs hmiss heffect⟩
      | error e => exact ⟨rfl, herror s e hs hmiss heffect⟩

theorem ofExcept {r : Except ε α} (hok : ∀ s a, P s → r = .ok a → Q a s)
    (herror : ∀ s e, P s → r = .error e → E s) :
    Meets fault P (Raising.ofExcept r : Raising S L D ε α) Q E := by
  intro s hs
  unfold Raising.ofExcept
  cases r with
  | ok a => exact ⟨rfl, hok s a hs rfl⟩
  | error e => exact ⟨rfl, herror s e hs rfl⟩

theorem read {f : S → α} (h : ∀ s, P s → Q (f s) s) :
    Meets fault P (Raising.read f : Raising S L D ε α) Q E := fun s hs ↦ ⟨rfl, h s hs⟩

theorem assign {f : S → S} {R : PUnit → S → Prop} (h : ∀ s, P s → R ⟨⟩ (f s)) :
    Meets fault P (Raising.assign f : Raising S L D ε PUnit) R E := fun s hs ↦ ⟨rfl, h s hs⟩

theorem onError {handler : Raising S L D ε β} (h : Meets fault P m Q E)
    (hhandler : Meets none E handler (fun _ ↦ E') E') :
    Meets fault P (Raising.onError m handler) Q E' := by
  intro s hs
  have hm := h s hs
  unfold Raising.onError
  cases hx : m ⟨s, fault⟩ with
  | ok a x =>
    rw [hx] at hm
    exact hm
  | error e x =>
    obtain ⟨s', fault'⟩ := x
    rw [hx] at hm
    obtain ⟨rfl, hs'⟩ := hm
    have hh := hhandler s' hs'
    cases hy : handler ⟨s', none⟩ with
    | ok _ y =>
      rw [hy] at hh
      simpa only [hy] using hh
    | error _ y =>
      rw [hy] at hh
      simpa only [hy] using hh

theorem ensuring {cleanup : Raising S L D ε β} (h : Meets fault P m Q E)
    (hreturn : ∀ a, Meets fault (Q a) cleanup (fun _ ↦ Q' a) E')
    (hraise : Meets none E cleanup (fun _ ↦ E') E') :
    Meets fault P (Raising.ensuring m cleanup) Q' E' := by
  intro s hs
  have hm := h s hs
  unfold Raising.ensuring
  cases hx : m ⟨s, fault⟩ with
  | ok a x =>
    obtain ⟨s', fault'⟩ := x
    rw [hx] at hm
    obtain ⟨rfl, hs'⟩ := hm
    have hh := hreturn a s' hs'
    cases hy : cleanup ⟨s', fault'⟩ with
    | ok _ y =>
      rw [hy] at hh
      simpa only [hy] using hh
    | error _ y =>
      rw [hy] at hh
      simpa only [hy] using hh
  | error e x =>
    obtain ⟨s', fault'⟩ := x
    rw [hx] at hm
    obtain ⟨rfl, hs'⟩ := hm
    have hh := hraise s' hs'
    cases hy : cleanup ⟨s', none⟩ with
    | ok _ y =>
      rw [hy] at hh
      simpa only [hy] using hh
    | error _ y =>
      rw [hy] at hh
      simpa only [hy] using hh

end Meets
end Raising

end EdgeMonitor.Base
