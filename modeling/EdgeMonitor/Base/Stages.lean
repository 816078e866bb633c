import EdgeMonitor.Base.Autocommit

/-!
# Staged migrations

Library `Base`. A migration as a list of stages, each of them a test and a change that is committed
at once, with a transaction at the end. When no stage undoes the test of another one, it does not
matter where a run is interrupted: the next one takes up what is left.
-/

namespace EdgeMonitor.Base

variable {D ε : Type}

/-- A change with the test whether it is needed. -/
structure Stage (D : Type) where
  needed : D → Bool
  apply : D → D

namespace Stage

/-- The database after a stage. -/
def step (s : Stage D) (d : D) : D := if s.needed d then s.apply d else d

/-- The database after all stages. -/
def complete (stages : List (Stage D)) (d : D) : D := stages.foldl (fun d s ↦ s.step d) d

/-- The databases that the stages commit. -/
def states : List (Stage D) → D → List D
  | [], _ => []
  | s :: stages, d =>
    if s.needed d then s.apply d :: states stages (s.apply d) else states stages d

/-- The stages as a script. -/
def script : List (Stage D) → Sql D ε Unit
  | [] => pure ()
  | s :: stages => do
    if ← Sql.query s.needed then
      Sql.ddl fun d ↦ .ok (s.apply d)
    script stages

@[simp] theorem complete_nil (d : D) : complete [] d = d := rfl

@[simp] theorem complete_cons (s : Stage D) (stages : List (Stage D)) (d : D) :
    complete (s :: stages) d = complete stages (s.step d) := rfl

theorem complete_append (stages stages' : List (Stage D)) (d : D) :
    complete (stages ++ stages') d = complete stages' (complete stages d) := List.foldl_append

theorem states_cons (s : Stage D) (stages : List (Stage D)) (d : D) :
    states (s :: stages) d =
      if s.needed d then s.apply d :: states stages (s.step d) else states stages (s.step d) := by
  rw [states, step]
  split <;> rfl

theorem states_append (stages stages' : List (Stage D)) (d : D) :
    states (stages ++ stages') d = states stages d ++ states stages' (complete stages d) := by
  induction stages generalizing d with
  | nil => rfl
  | cons s stages ih =>
    rw [List.cons_append, states_cons, states_cons, complete_cons, ih]
    split <;> rfl

theorem getLastD_states (stages : List (Stage D)) (d : D) :
    (states stages d).getLastD d = complete stages d := by
  induction stages generalizing d with
  | nil => rfl
  | cons s stages ih =>
    rw [states, complete_cons, step]
    split
    · rw [List.getLastD_cons]
      exact ih _
    · exact ih d

/-- The plan of a script of stages. -/
theorem plans_script {β : Type} {stages : List (Stage D)} {d : D} {k : Unit → Sql D ε β}
    {rest : List D} {result : Except ε β}
    (h : Sql.Plans (k ()) (complete stages d) none rest result) :
    Sql.Plans (script stages >>= k) d none (states stages d ++ rest) result := by
  induction stages generalizing d with
  | nil => exact h
  | cons s stages ih =>
    have hrest : Sql.Plans (script stages >>= k) (s.step d) none
        (states stages (s.step d) ++ rest) result := ih h
    rw [states_cons, script, bind_assoc]
    apply Sql.plans_query_bind
    rw [Option.getD_none]
    by_cases hneeded : s.needed d = true
    · rw [if_pos hneeded, if_pos hneeded, bind_assoc]
      rw [step, if_pos hneeded] at hrest ⊢
      exact Sql.plans_ddl_bind rfl hrest
    · rw [if_neg hneeded, if_neg hneeded]
      rw [step, if_neg hneeded] at hrest ⊢
      exact hrest

/-! ### Interruptions -/

/-- No stage is needed again. -/
structure Settle (stages : List (Stage D)) : Prop where
  done : ∀ s ∈ stages, ∀ d, s.needed (s.apply d) = false
  kept : ∀ s ∈ stages, ∀ t ∈ stages, ∀ d, s.needed d = false → s.needed (t.apply d) = false

theorem Settle.tail {s : Stage D} {stages : List (Stage D)} (h : Settle (s :: stages)) :
    Settle stages where
  done t ht := h.done t (List.mem_cons_of_mem s ht)
  kept t ht t' ht' := h.kept t (List.mem_cons_of_mem s ht) t' (List.mem_cons_of_mem s ht')

/-- What the stages keep holds of all that they commit. -/
theorem of_mem_states {P : D → Prop} {stages : List (Stage D)}
    (h : ∀ s ∈ stages, ∀ d, s.needed d = true → P d → P (s.apply d)) {d d' : D} (hd : P d)
    (hmem : d' ∈ d :: states stages d) : P d' := by
  induction stages generalizing d with
  | nil =>
    rw [List.mem_singleton.mp hmem]
    exact hd
  | cons s stages ih =>
    have htail : ∀ t ∈ stages, ∀ d, t.needed d = true → P d → P (t.apply d) :=
      fun t ht ↦ h t (List.mem_cons_of_mem s ht)
    rw [states] at hmem
    by_cases hneeded : s.needed d = true
    · rw [if_pos hneeded] at hmem
      rcases List.mem_cons.mp hmem with rfl | hmem
      · exact hd
      · exact ih htail (h s List.mem_cons_self d hneeded hd) hmem
    · rw [if_neg hneeded] at hmem
      exact ih htail hd hmem

theorem needed_step {s : Stage D} (h : ∀ d, s.needed (s.apply d) = false) (d : D) :
    s.needed (s.step d) = false := by
  rw [step]
  by_cases hneeded : s.needed d = true
  · rw [if_pos hneeded]
    exact h d
  · rw [if_neg hneeded]
    exact Bool.eq_false_iff.mpr hneeded

theorem step_of_not_needed {s : Stage D} {d : D} (h : s.needed d = false) : s.step d = d := by
  rw [step, h]
  rfl

theorem complete_mem (stages : List (Stage D)) (d : D) :
    complete stages d ∈ d :: states stages d := by
  rw [← getLastD_states]
  exact List.getLastD_mem_cons ..

/-- From each state that is committed the stages lead to the same database. -/
theorem complete_of_mem_states {stages : List (Stage D)} (h : Settle stages) {d d' : D}
    (hmem : d' ∈ d :: states stages d) : complete stages d' = complete stages d := by
  induction stages generalizing d with
  | nil => rw [List.mem_singleton.mp hmem]
  | cons s stages ih =>
    have hlater : d' = d ∨ d' ∈ s.step d :: states stages (s.step d) := by
      rw [states_cons] at hmem
      rcases List.mem_cons.mp hmem with rfl | hmem
      · exact .inl rfl
      · refine .inr ?_
        split at hmem
        next hneeded =>
          rw [step, if_pos hneeded]
          rw [step, if_pos hneeded] at hmem
          exact hmem
        next => exact List.mem_cons_of_mem _ hmem
    rcases hlater with rfl | hlater
    · rfl
    · have hdone : s.needed d' = false := by
        refine of_mem_states (P := fun d ↦ s.needed d = false) ?_
          (needed_step (h.done s List.mem_cons_self) d) hlater
        intro t ht d _ hd
        exact h.kept s List.mem_cons_self t (List.mem_cons_of_mem s ht) d hd
      rw [complete_cons, complete_cons, step_of_not_needed hdone]
      exact ih h.tail hlater

/-- What the stages keep holds after all of them. -/
theorem of_complete {P : D → Prop} {stages : List (Stage D)}
    (h : ∀ s ∈ stages, ∀ d, s.needed d = true → P d → P (s.apply d)) {d : D} (hd : P d) :
    P (complete stages d) := of_mem_states h hd (complete_mem stages d)

/-- After all stages none is needed. -/
theorem needed_complete {stages : List (Stage D)} (h : Settle stages) (d : D) :
    ∀ s ∈ stages, s.needed (complete stages d) = false := by
  induction stages generalizing d with
  | nil =>
    intro s hs
    cases hs
  | cons s stages ih =>
    intro t ht
    rw [complete_cons]
    rcases List.mem_cons.mp ht with rfl | ht
    · refine of_mem_states (P := fun d ↦ t.needed d = false) ?_
        (needed_step (h.done t List.mem_cons_self) d) (complete_mem stages (t.step d))
      intro t' ht' d _ hd
      exact h.kept t List.mem_cons_self t' (List.mem_cons_of_mem t ht') d hd
    · exact ih h.tail (s.step d) t ht

theorem complete_of_not_needed {stages : List (Stage D)} {d : D}
    (h : ∀ s ∈ stages, s.needed d = false) : complete stages d = d ∧ states stages d = [] := by
  induction stages with
  | nil => exact ⟨rfl, rfl⟩
  | cons s stages ih =>
    have hs := h s List.mem_cons_self
    obtain ⟨hcomplete, hstates⟩ := ih fun t ht ↦ h t (List.mem_cons_of_mem s ht)
    rw [complete_cons, states_cons, step_of_not_needed hs, hs]
    exact ⟨hcomplete, hstates⟩

/-- A transaction at the end of a migration. -/
structure Finishes (stages : List (Stage D)) (finish : D → D) : Prop extends Settle stages where
  finish_kept : ∀ s ∈ stages, ∀ d, s.needed d = false → s.needed (finish d) = false
  finish_finish : ∀ d, finish (finish d) = finish d

/-- Where a migration is interrupted does not matter. -/
theorem finish_of_mem {stages : List (Stage D)} {finish : D → D} (h : Finishes stages finish)
    {d d' : D} (hmem : d' ∈ d :: (states stages d ++ [finish (complete stages d)])) :
    finish (complete stages d') = finish (complete stages d) := by
  rw [← List.cons_append, List.mem_append, List.mem_singleton] at hmem
  rcases hmem with hmem | rfl
  · rw [complete_of_mem_states h.toSettle hmem]
  · have hdone : ∀ s ∈ stages, s.needed (finish (complete stages d)) = false :=
      fun s hs ↦ h.finish_kept s hs _ (needed_complete h.toSettle d s hs)
    rw [(complete_of_not_needed hdone).1, h.finish_finish]

end Stage

/-! ### Migrations -/

/-- A script that takes the databases of a kind through its stages and a transaction. -/
structure Migration (D ε : Type) where
  script : Sql D ε Unit
  stages : List (Stage D)
  finish : D → D
  Ready : D → Prop
  finishes : Stage.Finishes stages finish
  ready_apply : ∀ s ∈ stages, ∀ d, s.needed d = true → Ready d → Ready (s.apply d)
  ready_finish : ∀ d, Ready d → Ready (finish d)
  plans : ∀ d, Ready d → Sql.Plans script d none
    (Stage.states stages d ++ [finish (Stage.complete stages d)]) (.ok ())

namespace Migration

variable {m : Migration D ε} {d : D}

/-- What the migration makes of a database. -/
def final (m : Migration D ε) (d : D) : D := m.finish (Stage.complete m.stages d)

/-- A run without interruption. -/
theorem runOn_nil (h : m.Ready d) : m.script.runOn d [] = ⟨m.final d, some (.ok ())⟩ := by
  rw [(m.plans d h).runOn_eq, Sql.follow, List.getLastD_concat]
  rfl

/-- An interrupted run leaves a database that the migration makes the same of. -/
theorem ready_runOn (h : m.Ready d) (faults : List (Fault ε)) :
    m.Ready (m.script.runOn d faults).database ∧
      m.final (m.script.runOn d faults).database = m.final d := by
  rw [(m.plans d h).runOn_eq]
  have hmem := Sql.database_follow_mem d
    (Stage.states m.stages d ++ [m.finish (Stage.complete m.stages d)]) (.ok ()) faults
  refine ⟨?_, Stage.finish_of_mem m.finishes hmem⟩
  rw [← List.cons_append, List.mem_append, List.mem_singleton] at hmem
  rcases hmem with hmem | hlast
  · exact Stage.of_mem_states m.ready_apply h hmem
  · rw [hlast]
    exact m.ready_finish _ (Stage.of_complete m.ready_apply h)

theorem ready_run (h : m.Ready d) (runs : List (List (Fault ε))) :
    m.Ready ((Sql.runs m.script).run d runs) ∧
      m.final ((Sql.runs m.script).run d runs) = m.final d := by
  let Inv (d' : D) : Prop := m.Ready d' ∧ m.final d' = m.final d
  have hstep : ∀ d' faults, Inv d' → Inv ((Sql.runs m.script).step d' faults).1 := by
    rintro d' faults ⟨hready, hfinal⟩
    obtain ⟨hready', hfinal'⟩ := ready_runOn hready faults
    exact ⟨hready', hfinal'.trans hfinal⟩
  have hstart : Inv d := ⟨h, rfl⟩
  exact Machine.invariant _ hstep hstart runs

theorem ready_final (h : m.Ready d) : m.Ready (m.final d) :=
  m.ready_finish _ (Stage.of_complete m.ready_apply h)

/-- After a run without interruption another one changes nothing. -/
theorem final_final (h : m.Ready d) : m.final (m.final d) = m.final d := by
  have hfinal := (ready_runOn h []).2
  rw [runOn_nil h] at hfinal
  exact hfinal

end Migration
end EdgeMonitor.Base
