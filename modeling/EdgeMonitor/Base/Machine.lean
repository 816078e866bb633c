import Mathlib
/-!
# Runs of step machines

Library `Base`. A machine reacts to each event with a new state and an output. Facts
about whole runs come from facts about one step: an invariant that every step keeps,
possibly only on steps that satisfy a condition, holds in every state a run reaches.
An observer adds history to the states without changing the run.
-/

namespace EdgeMonitor.Base

universe u v w x

/-- A deterministic machine with states `S`, events `E` and outputs `O`. -/
structure Machine (S : Type u) (E : Type v) (O : Type w) where
  step : S → E → S × O

namespace Machine

variable {S : Type u} {E : Type v} {O : Type w} {H : Type x} (m : Machine S E O)

/-- The state after a sequence of events. -/
def run (s : S) (es : List E) : S := es.foldl (fun s e ↦ (m.step s e).1) s

@[simp] theorem run_nil (s : S) : m.run s [] = s := rfl

@[simp] theorem run_cons (s : S) (e : E) (es : List E) :
    m.run s (e :: es) = m.run (m.step s e).1 es := rfl

theorem run_append (s : S) (es es' : List E) :
    m.run s (es ++ es') = m.run (m.run s es) es' := List.foldl_append

/-- A condition holds of every step of a run. -/
def Along (P : S → E → Prop) (s : S) : List E → Prop
  | [] => True
  | e :: es => P s e ∧ Along P (m.step s e).1 es

/-- A condition on events that holds of all of them holds along the run. -/
theorem along_of_forall {P : E → Prop} {s : S} {es : List E} (h : ∀ e ∈ es, P e) :
    m.Along (fun _ e ↦ P e) s es := by
  induction es generalizing s with
  | nil => trivial
  | cons e es ih =>
    exact ⟨h e List.mem_cons_self, ih fun e' he' ↦ h e' (List.mem_cons_of_mem e he')⟩

instance decidableAlong (P : S → E → Prop) [∀ s e, Decidable (P s e)] :
    (s : S) → (es : List E) → Decidable (m.Along P s es)
  | _, [] => inferInstanceAs (Decidable True)
  | s, e :: es =>
    have := decidableAlong P (m.step s e).1 es
    inferInstanceAs (Decidable (P s e ∧ m.Along P (m.step s e).1 es))

theorem along_append (P : S → E → Prop) (s : S) (es es' : List E) :
    m.Along P s (es ++ es') ↔ m.Along P s es ∧ m.Along P (m.run s es) es' := by
  induction es generalizing s with
  | nil => simp [Along]
  | cons e es ih => simp only [List.cons_append, Along, ih, run_cons, and_assoc]

/-- A condition that holds of every step of a run holds of its last one. -/
theorem along_last {P : S → E → Prop} {s : S} {es : List E} {e : E}
    (h : m.Along P s (es ++ [e])) : P (m.run s es) e :=
  ((m.along_append P s es [e]).mp h).2.1

/-- What every step that meets the condition preserves holds after a run of such steps. -/
theorem invariant_along {P : S → E → Prop} {Inv : S → Prop}
    (hstep : ∀ s e, Inv s → P s e → Inv (m.step s e).1) {s : S} {es : List E}
    (hs : Inv s) (h : m.Along P s es) : Inv (m.run s es) := by
  induction es generalizing s with
  | nil => exact hs
  | cons e es ih => exact ih (hstep s e hs h.1) h.2

/-- What every step preserves holds after every run. -/
theorem invariant {Inv : S → Prop} (hstep : ∀ s e, Inv s → Inv (m.step s e).1) {s : S}
    (hs : Inv s) (es : List E) : Inv (m.run s es) := by
  induction es generalizing s with
  | nil => exact hs
  | cons e es ih => exact ih (hstep s e hs)

/-- What follows of each step from an invariant and a condition follows along a run. -/
theorem along_of_invariant {P Q : S → E → Prop} {Inv : S → Prop}
    (hstep : ∀ s e, Inv s → P s e → Inv (m.step s e).1)
    (hq : ∀ s e, Inv s → P s e → Q s e) {s : S} {es : List E}
    (hs : Inv s) (h : m.Along P s es) : m.Along Q s es := by
  induction es generalizing s with
  | nil => trivial
  | cons e es ih => exact ⟨hq s e hs h.1, ih (hstep s e hs h.1) h.2⟩

/-- What an invariant of every step gives of each step holds along every run. -/
theorem along_of_kept {Q : S → E → Prop} {Inv : S → Prop}
    (hstep : ∀ s e, Inv s → Inv (m.step s e).1) (hq : ∀ s e, Inv s → Q s e) {s : S}
    (hs : Inv s) (es : List E) : m.Along Q s es := by
  induction es generalizing s with
  | nil => trivial
  | cons e es ih => exact ⟨hq s e hs, ih (hstep s e hs)⟩

/-! ### History -/

/-- The events of a run, each with the output of its step. -/
def trace (s : S) : List E → List (E × O)
  | [] => []
  | e :: es => (e, (m.step s e).2) :: trace (m.step s e).1 es

@[simp] theorem trace_nil (s : S) : m.trace s [] = [] := rfl

theorem trace_append (s : S) (es es' : List E) :
    m.trace s (es ++ es') = m.trace s es ++ m.trace (m.run s es) es' := by
  induction es generalizing s with
  | nil => rfl
  | cons e es ih => simp only [List.cons_append, trace, ih, run_cons]

/-- The last step of a run is the last entry of its trace. -/
theorem trace_concat (s : S) (es : List E) (e : E) :
    m.trace s (es ++ [e]) = m.trace s es ++ [(e, (m.step (m.run s es) e).2)] := by
  rw [trace_append]
  rfl

/-- The entries before a given one are the trace of a shorter run. -/
theorem trace_eq_append_cons {s : S} {es : List E} {before after : List (E × O)} {x : E × O}
    (h : m.trace s es = before ++ x :: after) : ∃ es' e rest, es = es' ++ e :: rest ∧
      before = m.trace s es' ∧ x = (e, (m.step (m.run s es') e).2) := by
  induction es generalizing s before with
  | nil => simp at h
  | cons e es ih =>
    cases before with
    | nil => exact ⟨[], e, es, rfl, rfl, (List.cons.inj h).1.symm⟩
    | cons y before =>
      obtain ⟨hy, h⟩ := List.cons.inj h
      obtain ⟨es', e', rest, rfl, rfl, rfl⟩ := ih h
      exact ⟨e :: es', e', rest, rfl, by rw [← hy]; rfl, rfl⟩

/-- A relation of state and trace that every step keeps which meets a condition holds after every
run of such steps. -/
theorem invariant_trace_along {P : S → E → Prop} (Inv : S → List (E × O) → Prop)
    (hstep : ∀ s t e, Inv s t → P s e → Inv (m.step s e).1 (t ++ [(e, (m.step s e).2)])) {s : S}
    {es : List E} (hs : Inv s []) (h : m.Along P s es) : Inv (m.run s es) (m.trace s es) := by
  induction es using List.reverseRecOn with
  | nil => exact hs
  | append_singleton es e ih =>
    obtain ⟨hbefore, hlast, -⟩ := (m.along_append P s es [e]).mp h
    rw [run_append, trace_concat]
    exact hstep _ _ e (ih hbefore) hlast

/-- A relation of state and trace that every step keeps holds after every run. -/
theorem invariant_trace (Inv : S → List (E × O) → Prop)
    (hstep : ∀ s t e, Inv s t → Inv (m.step s e).1 (t ++ [(e, (m.step s e).2)])) {s : S}
    (hs : Inv s []) (es : List E) : Inv (m.run s es) (m.trace s es) :=
  m.invariant_trace_along Inv (fun s t e ht _ ↦ hstep s t e ht) hs
    (m.along_of_forall (P := fun _ ↦ True) fun _ _ ↦ trivial)

/-- The machine with a history that an observer extends at each step. -/
def observed (observe : H → S → E → S × O → H) : Machine (S × H) E O where
  step := fun (s, h) e ↦
    let r := m.step s e
    ((r.1, observe h s e r), r.2)

/-- Observing does not change the run. -/
@[simp] theorem run_observed (observe : H → S → E → S × O → H) (s : S) (h : H)
    (es : List E) : ((m.observed observe).run (s, h) es).1 = m.run s es := by
  induction es generalizing s h with
  | nil => rfl
  | cons e es ih => exact ih _ _

end Machine
end EdgeMonitor.Base
