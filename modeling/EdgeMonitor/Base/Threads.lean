import EdgeMonitor.Base.Machine

/-!
# Interleaved threads

Library `Base`. Threads over a shared state take steps one at a time, in any order. A step
replaces its thread by the threads that go on after it: one as a rule, none when it ends,
more when it creates others. Things that threads own are accounted for by collecting them
over the list of threads, so that a step only has to balance what its own thread owns.
-/

namespace EdgeMonitor.Base

universe u v w x y

/-- What a thread does with its turn, and what comes from outside of all threads. A step
may look at the other threads, as one that waits for them does. -/
structure Threads (G : Type u) (T : Type v) (C : Type w) (E : Type x) (O : Type y) where
  advance : G → List T → T → C → G × List T × Option O
  outside : G → List T → E → G × List T × Option O

/-- The scheduler gives a turn to a thread, with what the step meets, or something
happens outside. -/
inductive Turn (C : Type w) (E : Type x) where
  | run (index : Nat) (choice : C)
  | outside (event : E)

namespace Threads

variable {G : Type u} {T : Type v} {C : Type w} {E : Type x} {O : Type y}

/-- The machine of a set of threads. A turn for a thread that does not exist is idle. -/
def machine (m : Threads G T C E O) : Machine (G × List T) (Turn C E) (Option O) where
  step := fun (g, ts) turn ↦
    match turn with
    | .run i c =>
      match ts[i]? with
      | none => ((g, ts), none)
      | some t =>
        let r := m.advance g (ts.take i ++ ts.drop (i + 1)) t c
        ((r.1, ts.take i ++ r.2.1 ++ ts.drop (i + 1)), r.2.2)
    | .outside e =>
      let r := m.outside g ts e
      ((r.1, ts ++ r.2.1), r.2.2)

variable (m : Threads G T C E O)

/-- What a step of the machine is: idle, the step of one thread, or an outside event. -/
theorem step_cases (g : G) (ts : List T) (turn : Turn C E) :
    m.machine.step (g, ts) turn = ((g, ts), none) ∨
    (∃ l t r i c, turn = .run i c ∧ ts = l ++ t :: r ∧ ts[i]? = some t ∧
      m.machine.step (g, ts) turn =
        (((m.advance g (l ++ r) t c).1, l ++ (m.advance g (l ++ r) t c).2.1 ++ r),
          (m.advance g (l ++ r) t c).2.2)) ∨
    (∃ e, turn = .outside e ∧ m.machine.step (g, ts) turn =
      (((m.outside g ts e).1, ts ++ (m.outside g ts e).2.1), (m.outside g ts e).2.2)) := by
  cases turn with
  | outside e => exact .inr (.inr ⟨e, rfl, rfl⟩)
  | run i c =>
    simp only [machine]
    split
    next => exact .inl rfl
    next t ht =>
      obtain ⟨hi, rfl⟩ := List.getElem?_eq_some_iff.mp ht
      refine .inr (.inl ⟨ts.take i, ts[i], ts.drop (i + 1), i, c, rfl, ?_, ht, rfl⟩)
      rw [List.getElem_cons_drop, List.take_append_drop]

/-- A property of shared state and threads that each thread's step and each outside event
keep is kept by every turn. -/
theorem kept {Inv : G → List T → Prop}
    (hadvance : ∀ g l t r c, Inv g (l ++ t :: r) →
      Inv (m.advance g (l ++ r) t c).1 (l ++ (m.advance g (l ++ r) t c).2.1 ++ r))
    (houtside : ∀ g ts e, Inv g ts → Inv (m.outside g ts e).1 (ts ++ (m.outside g ts e).2.1))
    (s : G × List T) (turn : Turn C E) (h : Inv s.1 s.2) :
    Inv (m.machine.step s turn).1.1 (m.machine.step s turn).1.2 := by
  obtain ⟨g, ts⟩ := s
  rcases m.step_cases g ts turn with hstep | ⟨l, t, r, i, c, -, rfl, -, hstep⟩ | ⟨e, -, hstep⟩
  · rw [hstep]
    exact h
  · rw [hstep]
    exact hadvance g l t r c h
  · rw [hstep]
    exact houtside g ts e h

end Threads

/-! ### What threads own -/

section
variable {T : Type v} {A : Type w} (owned : T → Option A)

/-- What is owned before a step: by the thread that steps and by the others. -/
theorem filterMap_at (l r : List T) (t : T) : (l ++ t :: r).filterMap owned =
    l.filterMap owned ++ (owned t).toList ++ r.filterMap owned := by
  rw [List.filterMap_append, List.append_assoc, List.filterMap_cons]
  cases owned t <;> rfl

/-- What is owned after it. -/
theorem filterMap_replaced (l new r : List T) : (l ++ new ++ r).filterMap owned =
    l.filterMap owned ++ new.filterMap owned ++ r.filterMap owned := by
  rw [List.filterMap_append, List.filterMap_append]

/-- When only one thing is owned, its owner shares with nobody. -/
theorem alone_of_filterMap {l r : List T} {t : T} {a b : A} (ha : owned t = some a)
    (h : (l ++ t :: r).filterMap owned = [b]) :
    a = b ∧ l.filterMap owned = [] ∧ r.filterMap owned = [] := by
  rw [filterMap_at, ha] at h
  have hlength := congrArg List.length h
  simp only [List.length_append, Option.toList_some, List.length_singleton] at hlength
  have hl : l.filterMap owned = [] := List.length_eq_zero_iff.mp (by omega)
  have hr : r.filterMap owned = [] := List.length_eq_zero_iff.mp (by omega)
  rw [hl, hr] at h
  exact ⟨List.singleton_inj.mp h, hl, hr⟩

end
end EdgeMonitor.Base
