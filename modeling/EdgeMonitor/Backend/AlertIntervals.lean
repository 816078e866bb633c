import EdgeMonitor.Backend.AlertEngine
import EdgeMonitor.Backend.AlertService

/-!
# Intervals of alert events

Library `Backend`. Samples are evaluated, and rules are created, changed and archived, one after
another. The alert engine stamps events with the time of the sample, the API with its own clock.
-/

namespace EdgeMonitor.Backend
open EdgeMonitor.Base
open AlertRepository

/-! ### Runs -/

/-- A sample that is evaluated or a request that is served. -/
inductive AlertStep where
  | evaluate (sample : Sample)
  | request (request : RuleRequest)

/-- The session of a step. -/
def AlertStep.session : AlertStep → Session Database PyError Unit
  | evaluate sample => AlertEngine.evaluate sample
  | request r => r.session

/-- Steps one after another; a step outputs how it ended. -/
def alerting : Machine Database AlertStep (Except PyError Unit) where
  step db step := let result := step.session.run db; (result.2, result.1)

/-! ### The states and the events of rules -/

/-- A state keeps the key of the row that it replaces. -/
theorem ruleId_setState (state s : AlertRuleState) :
    ({ state with ruleId := s.ruleId } : AlertRuleState).ruleId = s.ruleId := rfl

/-- `update_runtime_state` of a row. -/
def withState (state : AlertRuleState) (db : Database) : Database :=
  { db with
    alertRuleStates := db.alertRuleStates.update (·.ruleId == state.ruleId)
      (fun s ↦ { state with ruleId := s.ruleId }) (ruleId_setState state) }

theorem find_withState (state : AlertRuleState) (db : Database) (k : Nat) :
    (withState state db).alertRuleStates.find k =
      if k = state.ruleId then (db.alertRuleStates.find k).map fun _ ↦ state
      else db.alertRuleStates.find k := by
  rw [withState, Table.find_update]
  cases h : db.alertRuleStates.find k with
  | none => simp
  | some s =>
    have hkey : s.ruleId = k := ((Table.find_eq_some_iff _ _ _).mp h).2
    by_cases hk : k = state.ruleId
    · simp [hkey, hk]
    · simp [hkey, hk]

@[simp] theorem alertEvents_withState (state : AlertRuleState) (db : Database) :
    (withState state db).alertEvents = db.alertEvents := rfl

@[simp] theorem alertRules_withState (state : AlertRuleState) (db : Database) :
    (withState state db).alertRules = db.alertRules := rfl

/-- Events start before they are activated and are resolved after that, in a timely run. The state
of a rule knows a time that is not before the activation of its open event, and not before the
start of what is pending. -/
structure Intervals (timely : Prop) (db : Database) : Prop where
  started : ∀ e ∈ db.alertEvents.rows, e.startedAt ≤ e.activatedAt
  resolved : ∀ e ∈ db.alertEvents.rows, e.status = .resolved →
    e.resolutionReason = some .conditionRecovered ∨ timely → ∃ t ∈ e.resolvedAt, e.activatedAt ≤ t
  active : ∀ e ∈ db.alertEvents.rows, e.status = .active →
    ∃ s ∈ db.alertRuleStates.find e.ruleId, s.state = .active ∧
      ∃ t ∈ s.lastEvaluatedAt, e.activatedAt ≤ t
  pending : ∀ k, ∀ s ∈ db.alertRuleStates.find k, s.state = .pending →
    ∀ p ∈ s.pendingSince, ∃ t ∈ s.lastEvaluatedAt, p ≤ t

/-- What a step has to show when it sets the state of one rule. -/
theorem Intervals.withState {timely : Prop} {db db' : Database} (h : Intervals timely db)
    (hstates : db'.alertRuleStates = db.alertRuleStates) {state : AlertRuleState}
    (hstarted : ∀ e ∈ db'.alertEvents.rows, e.startedAt ≤ e.activatedAt)
    (hresolved : ∀ e ∈ db'.alertEvents.rows, e.status = .resolved →
      e.resolutionReason = some .conditionRecovered ∨ timely →
        ∃ t ∈ e.resolvedAt, e.activatedAt ≤ t)
    (hother : ∀ e ∈ db'.alertEvents.rows, e.status = .active → e.ruleId ≠ state.ruleId →
      ∃ e' ∈ db.alertEvents.rows, e'.status = .active ∧ e'.ruleId = e.ruleId ∧
        e'.activatedAt = e.activatedAt)
    (hactive : ∀ e ∈ db'.alertEvents.rows, e.status = .active → e.ruleId = state.ruleId →
      (db.alertRuleStates.find state.ruleId).isSome = true ∧ state.state = .active ∧
        ∃ t ∈ state.lastEvaluatedAt, e.activatedAt ≤ t)
    (hpending : state.state = .pending → ∀ p ∈ state.pendingSince,
      ∃ t ∈ state.lastEvaluatedAt, p ≤ t) :
    Intervals timely (Backend.withState state db') := by
  refine ⟨hstarted, hresolved, ?_, ?_⟩
  · intro e he hstatus
    rw [find_withState, hstates]
    by_cases hid : e.ruleId = state.ruleId
    · obtain ⟨hsome, hstate, hlast⟩ := hactive e he hstatus hid
      obtain ⟨s, hs⟩ := Option.isSome_iff_exists.mp hsome
      rw [if_pos hid, hid, hs]
      exact ⟨state, rfl, hstate, hlast⟩
    · obtain ⟨e', he', hstatus', hid', hactivated⟩ := hother e he hstatus hid
      rw [if_neg hid, ← hid', ← hactivated]
      exact h.active e' he' hstatus'
  · intro k s hs hstate
    rw [find_withState, hstates] at hs
    by_cases hk : k = state.ruleId
    · rw [if_pos hk] at hs
      obtain ⟨_, -, rfl⟩ := Option.map_eq_some_iff.mp hs
      exact hpending hstate
    · rw [if_neg hk] at hs
      exact h.pending k s hs hstate

/-! ### One rule and one sample -/

section

variable {timely : Prop} {sample : Sample} {rule : RuleRow} {db db' : Database}

/-- The row that `_evaluate_rule` leaves. -/
def evaluatedState (sample : Sample) (rule : RuleRow) (nextState : RuleRuntimeState)
    (pendingSince : Option Instant) (pendingExtreme : Option ℚ) : AlertRuleState where
  ruleId := rule.id
  state := nextState
  pendingSince
  pendingExtremeValue := pendingExtreme
  lastEvaluatedAt := some sample.timestamp
  lastValue := some (telemetryMetricValue sample rule.metric)
  lastTelemetryId := some sample.id

/-- What the evaluation of a rule does. -/
inductive Evaluated (sample : Sample) (rule : RuleRow) (db : Database) : Database → Prop
  | observed (nextState : RuleRuntimeState) (since : Option Instant) (extreme : Option ℚ)
      (hstate : rule.runtimeState ≠ .active) (hnext : nextState ≠ .active)
      (hsince : ∀ p ∈ since, p = sample.timestamp ∨
        rule.runtimeState = .pending ∧ rule.pendingSince = some p) :
      Evaluated sample rule db (withState (evaluatedState sample rule nextState since extreme) db)
  | opened (startedAt : Instant) (value extreme : ℚ) (created : Database)
      (hstate : rule.runtimeState ≠ .active)
      (hstarted : startedAt = sample.timestamp ∨
        rule.runtimeState = .pending ∧ rule.pendingSince = some startedAt)
      (hcreated : createEvent rule startedAt sample.timestamp value extreme db = .ok created) :
      Evaluated sample rule db (withState (evaluatedState sample rule .active none none) created)
  | continued (event : AlertEvent) (value extreme : ℚ) (changed : Database)
      (hactive : db.alertEvents.active rule.id = some event)
      (hchanged : updateActiveEvent event.id value extreme db = .ok changed) :
      Evaluated sample rule db (withState (evaluatedState sample rule .active none none) changed)
  | recovered (event : AlertEvent) (value : ℚ) (changed : Database)
      (hactive : db.alertEvents.active rule.id = some event)
      (hchanged : resolveActiveEvent event.id sample.timestamp value .conditionRecovered db =
        .ok changed) :
      Evaluated sample rule db (withState (evaluatedState sample rule .normal none none) changed)

theorem eval_updateState (nextState : RuleRuntimeState) (since : Option Instant)
    (extreme : Option ℚ) : (AlertEngine.updateState sample rule nextState since extreme).eval db =
      .ok (⟨⟩, withState (evaluatedState sample rule nextState since extreme) db) := rfl

/-- A statement and the update of the state. -/
theorem eval_execute_updateState {f : Database → Except PyError Database}
    {nextState : RuleRuntimeState} {since : Option Instant} {extreme : Option ℚ} {a : PUnit}
    (h : (Block.execute f >>= fun _ ↦
      AlertEngine.updateState sample rule nextState since extreme).eval db = .ok (a, db')) :
    ∃ changed, f db = .ok changed ∧
      db' = withState (evaluatedState sample rule nextState since extreme) changed := by
  rw [Block.eval_execute_bind] at h
  cases hf : f db with
  | error e =>
    rw [hf] at h
    cases h
  | ok changed =>
    rw [hf] at h
    cases h
    exact ⟨changed, rfl, rfl⟩

theorem evaluateActive_cases {a : PUnit}
    (h : (AlertEngine.evaluateActive sample rule (db.alertEvents.active rule.id)).eval db =
      .ok (a, db')) : Evaluated sample rule db db' := by
  cases hactive : db.alertEvents.active rule.id with
  | none =>
    rw [hactive] at h
    cases h
  | some event =>
    rw [hactive, AlertEngine.evaluateActive] at h
    split at h
    · obtain ⟨changed, hchanged, rfl⟩ := eval_execute_updateState h
      exact .recovered event _ changed hactive hchanged
    · obtain ⟨changed, hchanged, rfl⟩ := eval_execute_updateState h
      exact .continued event _ _ changed hactive hchanged

/-- An evaluation that is not ignored is one of a later sample. -/
theorem evaluateRule_cases {a : PUnit}
    (h : (AlertEngine.evaluateRule sample rule).eval db = .ok (a, db')) :
    db' = db ∨ (∀ t ∈ rule.lastEvaluatedAt, t < sample.timestamp) ∧
      Evaluated sample rule db db' := by
  unfold AlertEngine.evaluateRule at h
  dsimp only at h
  split at h
  · cases h
    exact .inl rfl
  · split at h
    · cases h
      exact .inl rfl
    next hlate =>
      refine .inr ⟨?_, ?_⟩
      · intro t ht
        rw [Option.mem_def.mp ht] at hlate
        simpa using hlate
      · cases hstate : rule.runtimeState with
        | normal =>
          rw [hstate] at h
          dsimp only at h
          split at h
          · obtain ⟨created, hcreated, rfl⟩ := eval_execute_updateState h
            exact .opened _ _ _ created (by simp [hstate]) (.inl rfl) hcreated
          · split at h
            · cases h
              exact .observed .pending _ _ (by simp [hstate]) (by simp) (by simp)
            · cases h
              exact .observed .normal _ _ (by simp [hstate]) (by simp) (by simp)
        | pending =>
          rw [hstate] at h
          dsimp only at h
          split at h
          · cases h
            exact .observed .normal _ _ (by simp [hstate]) (by simp) (by simp)
          · split at h
            next current since hextreme hsince =>
              split at h
              · obtain ⟨created, hcreated, rfl⟩ := eval_execute_updateState h
                exact .opened _ _ _ created (by simp [hstate]) (.inr ⟨hstate, hsince⟩) hcreated
              · cases h
                refine .observed .pending _ _ (by simp [hstate]) (by simp) ?_
                intro p hp
                exact .inr ⟨hstate, hsince.trans hp⟩
            · cases h
        | active =>
          rw [hstate] at h
          exact evaluateActive_cases h

/-- A rule as the database has it. -/
def Current (rule : RuleRow) (db : Database) : Prop :=
  ∃ s ∈ db.alertRuleStates.find rule.id, s.state = rule.runtimeState ∧
    s.pendingSince = rule.pendingSince ∧ s.lastEvaluatedAt = rule.lastEvaluatedAt

theorem createEvent_eq_ok {startedAt activatedAt : Instant} {value extreme : ℚ}
    {created : Database} (h : createEvent rule startedAt activatedAt value extreme db = .ok created) :
    created.alertRuleStates = db.alertRuleStates ∧ ∃ id, created.alertEvents.rows =
      db.alertEvents.rows ++ [newEvent rule startedAt activatedAt value extreme id] := by
  rw [createEvent] at h
  split at h
  · cases h
    exact ⟨rfl, _, rfl⟩
  · cases h

/-- The event that is created is the active one of its rule. -/
theorem active_createEvent {startedAt activatedAt : Instant} {value extreme : ℚ}
    {created : Database} (h : createEvent rule startedAt activatedAt value extreme db = .ok created)
    (k : Nat) : created.alertEvents.active k =
      if k = rule.id then
        some (newEvent rule startedAt activatedAt value extreme (db.alertEvents.sequence + 1))
      else db.alertEvents.active k := by
  rw [createEvent] at h
  split at h
  next hfree =>
    cases h
    exact db.alertEvents.active_insert (newEvent rule startedAt activatedAt value extreme)
      (fun _ ↦ rfl) rule.id (fun _ ↦ rfl) hfree.2 rfl k
  next => cases h

/-- A rule that is not active has no open event. -/
theorem Intervals.not_active (h : Intervals timely db) (hc : Current rule db)
    (hstate : rule.runtimeState ≠ .active) {e : AlertEvent} (he : e ∈ db.alertEvents.rows)
    (hstatus : e.status = .active) : e.ruleId ≠ rule.id := by
  intro hid
  obtain ⟨s, hs, hactive, -⟩ := h.active e he hstatus
  obtain ⟨s', hs', hstate', -⟩ := hc
  rw [hid, Option.mem_def, Option.mem_def.mp hs'] at hs
  cases hs
  exact hstate (hstate'.symm.trans hactive)

/-- What is pending is not after the sample. -/
theorem Intervals.since_le (h : Intervals timely db) (hc : Current rule db)
    (hlate : ∀ t ∈ rule.lastEvaluatedAt, t < sample.timestamp) {p : Instant}
    (hp : p = sample.timestamp ∨ rule.runtimeState = .pending ∧ rule.pendingSince = some p) :
    p ≤ sample.timestamp := by
  obtain rfl | ⟨hstate, hsince⟩ := hp
  · exact le_rfl
  · obtain ⟨s, hs, hs', hpending, hlast⟩ := hc
    obtain ⟨t, ht, hle⟩ := h.pending rule.id s hs (hs'.trans hstate) p (hpending.trans hsince)
    exact hle.trans (le_of_lt (hlate t (hlast ▸ ht)))

/-- The open event of a rule was activated before the sample. -/
theorem Intervals.activated_le (h : Intervals timely db) (hc : Current rule db)
    (hlate : ∀ t ∈ rule.lastEvaluatedAt, t < sample.timestamp) {e : AlertEvent}
    (he : db.alertEvents.active rule.id = some e) : e.activatedAt ≤ sample.timestamp := by
  obtain ⟨hmem, hid, hstatus⟩ := (AlertEvents.active_eq_some_iff _ _ _).mp he
  obtain ⟨s, hs, -, t, ht, hle⟩ := h.active e hmem hstatus
  obtain ⟨s', hs', -, -, hlast⟩ := hc
  rw [hid, Option.mem_def, Option.mem_def.mp hs'] at hs
  cases hs
  exact hle.trans (le_of_lt (hlate t (hlast ▸ ht)))

/-- An event whose values have changed. -/
theorem mem_updateActiveEvent {eventId : Nat} {value extreme : ℚ} {changed : Database}
    (h : updateActiveEvent eventId value extreme db = .ok changed) {e : AlertEvent}
    (he : e ∈ changed.alertEvents.rows) :
    ∃ e' ∈ db.alertEvents.rows, e.status = e'.status ∧ e.ruleId = e'.ruleId ∧
      e.startedAt = e'.startedAt ∧ e.activatedAt = e'.activatedAt ∧
      e.resolvedAt = e'.resolvedAt ∧ e.resolutionReason = e'.resolutionReason := by
  cases h
  obtain ⟨e', he', rfl⟩ := List.mem_map.mp he
  refine ⟨e', he', ?_⟩
  split <;> simp

/-- An event is the one that is resolved, or another as it was. -/
theorem mem_resolveActiveEvent {event : AlertEvent} {resolvedAt : Instant} {value : ℚ}
    {reason : ResolutionReason} {changed : Database}
    (hevent : event ∈ db.alertEvents.rows)
    (h : resolveActiveEvent event.id resolvedAt value reason db = .ok changed) {e : AlertEvent}
    (he : e ∈ changed.alertEvents.rows) :
    e = { event with
      status := .resolved, resolvedAt := some resolvedAt, resolutionReason := some reason
      lastValue := value } ∨
    e ∈ db.alertEvents.rows ∧ (e.status = .active → e ≠ event) := by
  cases h
  obtain ⟨e', he', rfl⟩ := List.mem_map.mp he
  split
  next hp =>
    have hid : e'.id = event.id ∧ e'.status = .active := by simpa using hp
    rw [Table.eq_of_key (t := db.alertEvents.toTable) he' hevent hid.1]
    exact .inl rfl
  next hp =>
    refine .inr ⟨he', fun hstatus heq ↦ hp ?_⟩
    simp [heq, heq ▸ hstatus]

/-- The evaluation of a rule keeps the intervals. -/
theorem Evaluated.intervals (h : Evaluated sample rule db db') (hi : Intervals timely db)
    (hc : Current rule db) (hlate : ∀ t ∈ rule.lastEvaluatedAt, t < sample.timestamp) :
    Intervals timely db' := by
  have hknown : (db.alertRuleStates.find rule.id).isSome = true := by
    obtain ⟨s, hs, -⟩ := hc
    rw [Option.mem_def.mp hs]
    rfl
  cases h with
  | observed nextState since extreme hstate hnext hsince =>
    apply hi.withState rfl hi.started hi.resolved
    · exact fun e he hstatus _ ↦ ⟨e, he, hstatus, rfl, rfl⟩
    · exact fun e he hstatus hid ↦ absurd hid (hi.not_active hc hstate he hstatus)
    · exact fun _ p hp ↦ ⟨sample.timestamp, rfl, hi.since_le hc hlate (hsince p hp)⟩
  | opened startedAt value extreme created hstate hstarted hcreated =>
    obtain ⟨hstates, id, hrows⟩ := createEvent_eq_ok hcreated
    have hcases {e : AlertEvent} (he : e ∈ created.alertEvents.rows) :
        e ∈ db.alertEvents.rows ∨ e = newEvent rule startedAt sample.timestamp value extreme id := by
      rw [hrows] at he
      exact (List.mem_append.mp he).imp_right List.mem_singleton.mp
    apply hi.withState hstates
    · intro e he
      obtain hold | rfl := hcases he
      · exact hi.started e hold
      · exact hi.since_le hc hlate hstarted
    · intro e he hstatus
      obtain hold | rfl := hcases he
      · exact hi.resolved e hold hstatus
      · cases hstatus
    · intro e he hstatus hid
      obtain hold | rfl := hcases he
      · exact ⟨e, hold, hstatus, rfl, rfl⟩
      · exact absurd rfl hid
    · intro e he hstatus hid
      obtain hold | rfl := hcases he
      · exact absurd hid (hi.not_active hc hstate hold hstatus)
      · exact ⟨hknown, rfl, _, rfl, le_rfl⟩
    · intro hpending
      cases hpending
  | continued event value extreme changed hactive hchanged =>
    have hstates : changed.alertRuleStates = db.alertRuleStates := by
      cases hchanged
      rfl
    apply hi.withState hstates
    · intro e he
      obtain ⟨e', he', -, -, hstarted, hactivated, -⟩ := mem_updateActiveEvent hchanged he
      rw [hstarted, hactivated]
      exact hi.started e' he'
    · intro e he hstatus
      obtain ⟨e', he', hs, -, -, hactivated, hresolved, hreason⟩ :=
        mem_updateActiveEvent hchanged he
      rw [hactivated, hresolved, hreason]
      exact hi.resolved e' he' (hs.symm.trans hstatus)
    · intro e he hstatus _
      obtain ⟨e', he', hs, hid, -, hactivated, -⟩ := mem_updateActiveEvent hchanged he
      exact ⟨e', he', hs.symm.trans hstatus, hid.symm, hactivated.symm⟩
    · intro e he hstatus hid
      obtain ⟨e', he', hs, hid', -, hactivated, -⟩ := mem_updateActiveEvent hchanged he
      have hopen : db.alertEvents.active rule.id = some e' :=
        (AlertEvents.active_eq_some_iff _ _ _).mpr
          ⟨he', hid'.symm.trans hid, hs.symm.trans hstatus⟩
      rw [hactivated]
      exact ⟨hknown, rfl, _, rfl, hi.activated_le hc hlate hopen⟩
    · intro hpending
      cases hpending
  | recovered event value changed hactive hchanged =>
    have hstates : changed.alertRuleStates = db.alertRuleStates := by
      cases hchanged
      rfl
    obtain ⟨hevent, -, -⟩ := (AlertEvents.active_eq_some_iff _ _ _).mp hactive
    have hle : event.activatedAt ≤ sample.timestamp := hi.activated_le hc hlate hactive
    apply hi.withState hstates
    · intro e he
      obtain rfl | ⟨hold, -⟩ := mem_resolveActiveEvent hevent hchanged he
      · exact hi.started event hevent
      · exact hi.started e hold
    · intro e he hstatus
      obtain rfl | ⟨hold, -⟩ := mem_resolveActiveEvent hevent hchanged he
      · exact fun _ ↦ ⟨_, rfl, hle⟩
      · exact hi.resolved e hold hstatus
    · intro e he hstatus _
      obtain rfl | ⟨hold, -⟩ := mem_resolveActiveEvent hevent hchanged he
      · cases hstatus
      · exact ⟨e, hold, hstatus, rfl, rfl⟩
    · intro e he hstatus hid
      obtain rfl | ⟨hold, hne⟩ := mem_resolveActiveEvent hevent hchanged he
      · cases hstatus
      · have hopen : db.alertEvents.active rule.id = some e :=
          (AlertEvents.active_eq_some_iff _ _ _).mpr ⟨hold, hid, hstatus⟩
        rw [hactive] at hopen
        cases hopen
        exact absurd rfl (hne hstatus)
    · intro hpending
      cases hpending

/-! ### All rules of a device -/

/-- The evaluation of a rule leaves the states of the others. -/
theorem Evaluated.find_of_ne (h : Evaluated sample rule db db') {k : Nat} (hk : k ≠ rule.id) :
    db'.alertRuleStates.find k = db.alertRuleStates.find k := by
  have hset (nextState : RuleRuntimeState) (since : Option Instant) (extreme : Option ℚ)
      {changed : Database} (hchanged : changed.alertRuleStates = db.alertRuleStates) :
      (withState (evaluatedState sample rule nextState since extreme)
        changed).alertRuleStates.find k = db.alertRuleStates.find k := by
    have hne : k ≠ (evaluatedState sample rule nextState since extreme).ruleId := hk
    rw [find_withState, if_neg hne, hchanged]
  cases h with
  | observed nextState since extreme hstate hnext hsince => exact hset _ _ _ rfl
  | opened startedAt value extreme created hstate hstarted hcreated =>
    exact hset _ _ _ (createEvent_eq_ok hcreated).1
  | continued event value extreme changed hactive hchanged =>
    cases hchanged
    exact hset _ _ _ rfl
  | recovered event value changed hactive hchanged =>
    cases hchanged
    exact hset _ _ _ rfl

theorem Current.of_find {db db' : Database} (h : Current rule db)
    (hfind : db'.alertRuleStates.find rule.id = db.alertRuleStates.find rule.id) :
    Current rule db' := by
  rw [Current, hfind]
  exact h

/-- One rule after another, each as the database has it. -/
theorem evaluateRules_intervals {rules : List RuleRow} (hids : (rules.map (·.id)).Nodup)
    (hcurrent : ∀ rule ∈ rules, Current rule db) (hi : Intervals timely db) {a : PUnit}
    (h : (AlertEngine.evaluateRules sample rules).eval db = .ok (a, db')) :
    Intervals timely db' := by
  induction rules generalizing db with
  | nil =>
    cases h
    exact hi
  | cons rule rules ih =>
    change (AlertEngine.evaluateRule sample rule >>= fun _ ↦
      AlertEngine.evaluateRules sample rules).eval db = _ at h
    rw [Block.eval_bind] at h
    cases hrule : (AlertEngine.evaluateRule sample rule).eval db with
    | error e =>
      rw [hrule] at h
      cases h
    | ok r =>
      rw [hrule] at h
      obtain ⟨u, next⟩ := r
      rw [List.map_cons, List.nodup_cons] at hids
      have hne : ∀ other ∈ rules, other.id ≠ rule.id := by
        intro other hother heq
        exact hids.1 (heq ▸ List.mem_map_of_mem hother)
      have hthis := hcurrent rule List.mem_cons_self
      obtain rfl | ⟨hlate, hevaluated⟩ := evaluateRule_cases hrule
      · exact ih hids.2 (fun other hother ↦ hcurrent other (List.mem_cons_of_mem rule hother)) hi h
      · apply ih hids.2 _ (hevaluated.intervals hi hthis hlate) h
        intro other hother
        exact (hcurrent other (List.mem_cons_of_mem rule hother)).of_find
          (hevaluated.find_of_ne (hne other hother))

/-- The rules that the engine reads, each once and as the database has it. -/
theorem fetchEnabledRules_current (deviceId : Text) (db : Database) :
    ((fetchEnabledRulesForDevice deviceId db).map (·.id)).Nodup ∧
      ∀ rule ∈ fetchEnabledRulesForDevice deviceId db, Current rule db := by
  constructor
  · have hselect : ((ruleSelect db).map (·.id)).Nodup := by
      have hkeys : ((db.alertRules.rows.map (·.id)).filterMap fun k ↦
          (db.alertRuleStates.find k).map fun _ ↦ k).Nodup := by
        apply List.Nodup.filterMap _ db.alertRules.keys_nodup
        intro k k' b hb hb'
        obtain ⟨_, -, rfl⟩ := Option.map_eq_some_iff.mp hb
        obtain ⟨_, -, rfl⟩ := Option.map_eq_some_iff.mp hb'
        rfl
      rw [List.filterMap_map] at hkeys
      rw [ruleSelect, List.map_filterMap]
      simpa [Function.comp_def, ruleRow] using hkeys
    apply (((List.perm_insertionSort _ _).map _).nodup_iff).mpr
    exact (List.Sublist.map _ List.filter_sublist).nodup hselect
  · intro rule hrule
    rw [fetchEnabledRulesForDevice, List.mem_insertionSort, List.mem_filter] at hrule
    obtain ⟨r, -, hr⟩ := List.mem_filterMap.mp hrule.1
    obtain ⟨s, hs, rfl⟩ := Option.map_eq_some_iff.mp hr
    exact ⟨s, hs, rfl, rfl, rfl⟩

theorem evaluate_intervals (hi : Intervals timely db) :
    Intervals timely ((AlertEngine.evaluate sample).run db).2 := by
  obtain ⟨hids, hcurrent⟩ := fetchEnabledRules_current sample.deviceId db
  rw [AlertEngine.evaluate, Session.run_withConnection]
  split
  next a db' heval => exact evaluateRules_intervals hids hcurrent hi heval
  next => exact hi

/-! ### Requests -/

theorem Intervals.congr (hi : Intervals timely db) (hevents : db'.alertEvents = db.alertEvents)
    (hstates : db'.alertRuleStates = db.alertRuleStates) : Intervals timely db' := by
  obtain ⟨hstarted, hresolved, hactive, hpending⟩ := hi
  rw [← hevents] at hstarted hresolved hactive
  rw [← hstates] at hactive hpending
  exact ⟨hstarted, hresolved, hactive, hpending⟩

/-- A rule that is reset while its open event is resolved. -/
theorem Intervals.reset {ruleId : Nat} {now : Instant} {reason : ResolutionReason}
    {changed : Database} (hi : Intervals timely db)
    (hnow : timely → ∀ e ∈ db.alertEvents.active ruleId, e.activatedAt ≤ now)
    (hreason : reason ≠ .conditionRecovered)
    (hchanged : resolveEvents ruleId now reason db = .ok changed) :
    Intervals timely (Backend.withState (freshState ruleId) changed) := by
  have hstates : changed.alertRuleStates = db.alertRuleStates := by
    cases hchanged
    rfl
  have hcases {e : AlertEvent} (he : e ∈ changed.alertEvents.rows) :
      ∃ e' ∈ db.alertEvents.rows, (e'.ruleId = ruleId ∧ e'.status = .active ∧
        e = { e' with
          status := .resolved, resolvedAt := some now, resolutionReason := some reason }) ∨
        e = e' ∧ (e'.status = .active → e'.ruleId ≠ ruleId) := by
    cases hchanged
    obtain ⟨e', he', rfl⟩ := List.mem_map.mp he
    refine ⟨e', he', ?_⟩
    by_cases hp : e'.activeFor ruleId = true
    · rw [if_pos hp]
      obtain ⟨hid, hstatus⟩ := (e'.activeFor_iff ruleId).mp hp
      exact .inl ⟨hid, hstatus, rfl⟩
    · rw [if_neg hp]
      exact .inr ⟨rfl, fun hstatus hid ↦ hp ((e'.activeFor_iff ruleId).mpr ⟨hid, hstatus⟩)⟩
  apply hi.withState hstates
  · intro e he
    obtain ⟨e', he', ⟨-, -, rfl⟩ | ⟨rfl, -⟩⟩ := hcases he
    · exact hi.started e' he'
    · exact hi.started e he'
  · intro e he hstatus hkind
    obtain ⟨e', he', ⟨hid, hopen, rfl⟩ | ⟨rfl, -⟩⟩ := hcases he
    · refine ⟨now, rfl, ?_⟩
      rcases hkind with heq | htimely
      · exact absurd (Option.some.inj heq) hreason
      · exact hnow htimely e' ((AlertEvents.active_eq_some_iff _ _ _).mpr ⟨he', hid, hopen⟩)
    · exact hi.resolved e he' hstatus hkind
  · intro e he hstatus _
    obtain ⟨e', he', ⟨-, -, rfl⟩ | ⟨rfl, -⟩⟩ := hcases he
    · cases hstatus
    · exact ⟨e, he', hstatus, rfl, rfl⟩
  · intro e he hstatus hid
    obtain ⟨e', he', ⟨-, -, rfl⟩ | ⟨rfl, hne⟩⟩ := hcases he
    · cases hstatus
    · exact absurd hid (hne hstatus)
  · intro hpending
    cases hpending

/-- A state is inserted for a rule that has none. -/
theorem insertRuleState_eq_ok {ruleId : Nat} (h : insertRuleState ruleId db = .ok db') :
    db.alertRuleStates.find ruleId = none ∧
      (∀ k, db'.alertRuleStates.find k =
        if k = ruleId then some (freshState ruleId) else db.alertRuleStates.find k) ∧
      db'.alertRules = db.alertRules ∧ db'.alertEvents = db.alertEvents := by
  rw [insertRuleState] at h
  cases hinsert : db.alertRuleStates.insert (freshState ruleId) with
  | none =>
    rw [hinsert] at h
    cases h
  | some states =>
    rw [hinsert] at h
    cases h
    have hnone : db.alertRuleStates.find ruleId = none := by
      by_contra hsome
      have hexists := Option.ne_none_iff_exists'.mp hsome
      rw [Table.insert_eq_none_iff.mpr hexists] at hinsert
      cases hinsert
    refine ⟨hnone, ?_, rfl, rfl⟩
    intro k
    have hupsert := Table.find_upsert db.alertRuleStates (freshState ruleId) id (fun _ ↦ rfl) k
    rw [Table.upsert, hinsert] at hupsert
    rw [hupsert]
    change (if k = ruleId then _ else _) = _
    by_cases hk : k = ruleId
    · rw [if_pos hk, if_pos hk, hk, hnone]
      rfl
    · rw [if_neg hk, if_neg hk]

/-- A new rule has no events and is not pending. -/
theorem Intervals.create {ruleId : Nat} (hi : Intervals timely db)
    (h : insertRuleState ruleId db = .ok db') : Intervals timely db' := by
  obtain ⟨hnone, hfind, -, hevents⟩ := insertRuleState_eq_ok h
  have hstarted := hi.started
  have hresolved := hi.resolved
  rw [← hevents] at hstarted hresolved
  refine ⟨hstarted, hresolved, ?_, ?_⟩
  · intro e he hstatus
    rw [hevents] at he
    obtain ⟨s, hs, hstate⟩ := hi.active e he hstatus
    have hid : e.ruleId ≠ ruleId := by
      intro heq
      rw [heq, hnone] at hs
      cases hs
    rw [hfind, if_neg hid]
    exact ⟨s, hs, hstate⟩
  · intro k s hs hstate
    rw [hfind] at hs
    split at hs
    · cases hs
      cases hstate
    · exact hi.pending k s hs hstate

theorem run_getRule (ruleId : Nat) (db : Database) : (AlertService.getRule ruleId).run db =
    match fetchRule ruleId db with
    | none => (.error (.httpException 404 "Alert rule not found"), db)
    | some rule => (.ok rule, db) := by
  rw [AlertService.getRule, Session.run_bind, Session.run_withConnection, Block.eval_select]
  dsimp only
  cases fetchRule ruleId db <;> rfl

/-- A handled integrity error changes nothing. -/
theorem run_onIntegrityError {α : Type} (s : Session Database PyError α) (statusCode : Nat)
    (detail : String) (db : Database) :
    ((AlertService.onIntegrityError s statusCode detail).run db).2 = (s.run db).2 := by
  rw [AlertService.onIntegrityError, Session.run_tryCatch]
  split
  next a d h => rw [h]
  next e d h =>
    rw [h]
    split <;> rfl

/-- A query at the end changes nothing. -/
theorem run_select_after {α β : Type} (s : Session Database PyError α) (f : Database → β)
    (db : Database) :
    ((s >>= fun _ ↦ Session.withConnection (Block.select f)).run db).2 = (s.run db).2 := by
  rw [Session.run_bind]
  split
  next a d h => rw [h, Session.run_withConnection, Block.eval_select]
  next e d h => rw [h]

/-- The columns of a patch are set in the row of its rule. -/
theorem updateRule_eq_ok {ruleId : Nat} {payload : AlertRulePatch} {now : Instant}
    {patched : Database} (h : AlertRepository.updateRule ruleId payload now db = .ok patched) :
    patched = db ∨ patched.alertRules.rows =
        (db.alertRules.rows.map fun r ↦ if r.id == ruleId then patchRule payload now r else r) ∧
      patched.alertRuleStates = db.alertRuleStates ∧ patched.alertEvents = db.alertEvents := by
  rw [AlertRepository.updateRule] at h
  cases hfind : db.alertRules.find ruleId with
  | none =>
    rw [hfind] at h
    cases h
    exact .inl rfl
  | some rule =>
    rw [hfind] at h
    cases hcheck : checkRule db (patchRule payload now rule) with
    | error e =>
      simp only [hcheck] at h
      cases h
    | ok u =>
      simp only [hcheck] at h
      cases h
      exact .inr ⟨rfl, rfl, rfl⟩

/-- What a change of a rule does to states and events. -/
theorem run_updateRuleAndRuntime (ruleId : Nat) (payload : AlertRulePatch) (now : Instant)
    (reason : Option ResolutionReason) (db : Database) :
    let after := ((updateRuleAndRuntime ruleId payload now reason.isSome reason).run db).2
    after = db ∨ ∃ patched : Database, patched.alertEvents = db.alertEvents ∧
      patched.alertRuleStates = db.alertRuleStates ∧
      match reason with
      | none => after = patched
      | some reason => ∃ changed, resolveEvents ruleId now reason patched = .ok changed ∧
        after = withState (freshState ruleId) changed := by
  intro after
  have hpatched {patched : Database}
      (h : AlertRepository.updateRule ruleId payload now db = .ok patched) :
      patched.alertEvents = db.alertEvents ∧ patched.alertRuleStates = db.alertRuleStates := by
    obtain rfl | ⟨-, hstates, hevents⟩ := updateRule_eq_ok h
    · exact ⟨rfl, rfl⟩
    · exact ⟨hevents, hstates⟩
  have hafter : after = _ := run_select_after _ (fetchRule ruleId) db
  rw [hafter, Session.run_withConnection]
  cases hupdate : AlertRepository.updateRule ruleId payload now db with
  | error e =>
    refine .inl ?_
    rw [Block.eval_execute_bind, hupdate]
    rfl
  | ok patched =>
    refine .inr ⟨patched, (hpatched hupdate).1, (hpatched hupdate).2, ?_⟩
    rw [Block.eval_execute_bind, hupdate]
    cases reason with
    | none => rfl
    | some reason => exact ⟨_, rfl, rfl⟩

theorem resetRuntime_eq (request : AlertRulePatch) (current : RuleRow) :
    AlertService.resetRuntime request current =
      (AlertService.resolutionReason request current).isSome := by
  rw [AlertService.resetRuntime, AlertService.resolutionReason]
  cases AlertService.disabling request current <;>
    cases AlertService.substantialChange request current <;> rfl

theorem resolutionReason_ne {request : AlertRulePatch} {current : RuleRow}
    {reason : ResolutionReason} (h : AlertService.resolutionReason request current = some reason) :
    reason ≠ .conditionRecovered := by
  rw [AlertService.resolutionReason] at h
  split at h
  · cases h
    simp
  · split at h
    · cases h
      simp
    · cases h

/-- A step comes when the open event that it resolves has been activated. -/
def Timely (db : Database) : AlertStep → Prop
  | .request (.update ruleId request now) =>
    ∀ current ∈ fetchRule ruleId db, (AlertService.resolutionReason request current).isSome →
      ∀ e ∈ db.alertEvents.active ruleId, e.activatedAt ≤ now
  | .request (.archive ruleId now) => ∀ e ∈ db.alertEvents.active ruleId, e.activatedAt ≤ now
  | _ => True

theorem update_intervals {ruleId : Nat} {request : AlertRulePatch} {now : Instant}
    (hi : Intervals timely db) (htimely : timely → Timely db (.request (.update ruleId request now))) :
    Intervals timely ((AlertService.updateRule ruleId request now).run db).2 := by
  rw [AlertService.updateRule, Session.run_bind, run_getRule]
  cases hfetch : fetchRule ruleId db with
  | none => exact hi
  | some current =>
    dsimp only
    split
    · exact hi
    · split
      · exact hi
      · split
        · exact hi
        · rw [run_onIntegrityError, resetRuntime_eq]
          obtain hsame | ⟨patched, hevents, hstates, hafter⟩ := run_updateRuleAndRuntime ruleId
            request now (AlertService.resolutionReason request current) db
          · rw [hsame]
            exact hi
          · have hpatched := hi.congr hevents hstates
            cases hreason : AlertService.resolutionReason request current with
            | none =>
              rw [hreason] at hafter
              rw [hafter]
              exact hpatched
            | some reason =>
              rw [hreason] at hafter
              obtain ⟨changed, hchanged, heq⟩ := hafter
              rw [heq]
              refine hpatched.reset ?_ (resolutionReason_ne hreason) hchanged
              intro ht
              rw [hevents]
              exact htimely ht current hfetch (by rw [hreason]; rfl)

theorem archive_intervals {ruleId : Nat} {now : Instant} (hi : Intervals timely db)
    (htimely : timely → Timely db (.request (.archive ruleId now))) :
    Intervals timely ((AlertService.archiveRule ruleId now).run db).2 := by
  rw [AlertService.archiveRule, Session.run_bind, run_getRule]
  cases hfetch : fetchRule ruleId db with
  | none => exact hi
  | some current =>
    dsimp only
    split
    · exact hi
    · obtain ⟨archived, rowcount, hrows, hevents, hstates⟩ : ∃ archived rowcount,
          archiveRuleRow ruleId now db = .ok (archived, rowcount) ∧
            archived.alertEvents = db.alertEvents ∧
            archived.alertRuleStates = db.alertRuleStates := ⟨_, _, rfl, rfl, rfl⟩
      have harchived := hi.congr hevents hstates
      rw [AlertRepository.archiveRule, Session.run_withConnection, Block.statement_bind, Block.eval,
        hrows]
      dsimp only [Block.done_bind]
      by_cases hcount : rowcount = 0
      · rw [if_pos hcount]
        exact harchived
      · rw [if_neg hcount]
        refine harchived.reset ?_ (by simp) rfl
        intro ht
        rw [hevents]
        exact htimely ht

theorem insertRule_eq_ok {request : AlertRuleDefinition} {now : Instant} {inserted : Database}
    {ruleId : Nat} (h : insertRule request now db = .ok (inserted, ruleId)) :
    ruleId = db.alertRules.sequence + 1 ∧
      inserted.alertRules.rows = db.alertRules.rows ++ [newRule request now ruleId] ∧
      inserted.alertRuleStates = db.alertRuleStates ∧ inserted.alertEvents = db.alertEvents := by
  rw [insertRule] at h
  cases hcheck : checkRule db (newRule request now (db.alertRules.sequence + 1)) with
  | error e =>
    simp only [hcheck] at h
    cases h
  | ok u =>
    simp only [hcheck] at h
    change (if _ then Except.ok _ else Except.error _) = _ at h
    split at h
    · cases h
      exact ⟨rfl, rfl, rfl, rfl⟩
    · cases h

theorem create_intervals {request : AlertRuleDefinition} {now : Instant}
    (hi : Intervals timely db) :
    Intervals timely ((AlertService.createRule request now).run db).2 := by
  rw [AlertService.createRule, Session.run_bind, Session.run_withConnection, Block.eval_select]
  dsimp only
  split
  · exact hi
  · rw [run_onIntegrityError, AlertRepository.createRule, Session.run_bind,
      Session.run_withConnection, Block.statement_bind, Block.eval]
    cases hinsert : insertRule request now db with
    | error e => exact hi
    | ok inserted =>
      obtain ⟨inserted, ruleId⟩ := inserted
      obtain ⟨-, -, hstates, hevents⟩ := insertRule_eq_ok hinsert
      dsimp only [Block.done_bind]
      rw [Block.eval_execute_bind]
      cases hstate : insertRuleState ruleId inserted with
      | error e => exact hi
      | ok created => exact (hi.congr hevents hstates).create hstate

/-- A step keeps the intervals. -/
theorem step_intervals {step : AlertStep} (hi : Intervals timely db)
    (htimely : timely → Timely db step) : Intervals timely (alerting.step db step).1 := by
  have hsession {α : Type} (s : Session Database PyError α) :
      ((do let _ ← s; Session.done () : Session Database PyError Unit).run db).2 =
        (s.run db).2 := by
    change ((s >>= fun _ ↦ Session.done ()).run db).2 = _
    rw [Session.run_bind]
    split
    next a d h => rw [h]; rfl
    next e d h => rw [h]
  cases step with
  | evaluate sample => exact evaluate_intervals hi
  | request r =>
    cases r with
    | create request now =>
      have hrun := hsession (AlertService.createRule request now)
      change Intervals timely ((RuleRequest.create request now).session.run db).2
      rw [RuleRequest.session]
      exact hrun ▸ create_intervals hi
    | update ruleId request now =>
      have hrun := hsession (AlertService.updateRule ruleId request now)
      change Intervals timely ((RuleRequest.update ruleId request now).session.run db).2
      rw [RuleRequest.session]
      exact hrun ▸ update_intervals hi htimely
    | archive ruleId now => exact archive_intervals hi htimely

end

/-! ### Whole runs -/

/-- The database without rules. -/
def withoutRules (db : Database) : Database :=
  { db with alertRules := .empty, alertRuleStates := .empty, alertEvents := .empty }

theorem intervals_withoutRules (timely : Prop) (db : Database) :
    Intervals timely (withoutRules db) := by
  constructor
  · intro e he
    cases he
  · intro e he
    cases he
  · intro e he
    cases he
  · intro k s hs
    cases hs

/-- Every event starts before it is activated, and one that recovers is resolved after that. So
is every event when the requests that resolve open events come after their activation: the engine
stamps events with the clock of the device, and the requests with that of the server. -/
theorem alert_events_ordered (db : Database) (steps : List AlertStep) :
    let reached := alerting.run (withoutRules db) steps
    (∀ e ∈ reached.alertEvents.rows, e.startedAt ≤ e.activatedAt) ∧
      (∀ e ∈ reached.alertEvents.rows, e.status = .resolved →
        e.resolutionReason = some .conditionRecovered → ∃ t ∈ e.resolvedAt, e.activatedAt ≤ t) ∧
      (alerting.Along Timely (withoutRules db) steps →
        ∀ e ∈ reached.alertEvents.rows, e.status = .resolved →
          ∃ t ∈ e.resolvedAt, e.activatedAt ≤ t) := by
  intro reached
  have hany : Intervals False reached :=
    alerting.invariant (fun _ _ hi ↦ step_intervals hi False.elim)
      (intervals_withoutRules False db) steps
  refine ⟨hany.started, fun e he hstatus hreason ↦ hany.resolved e he hstatus (.inl hreason), ?_⟩
  intro htimely e he hstatus
  have hall : Intervals True reached :=
    alerting.invariant_along (fun _ _ hi hstep ↦ step_intervals hi fun _ ↦ hstep)
      (intervals_withoutRules True db) htimely
  exact hall.resolved e he hstatus (.inr trivial)

/-- The server time of a request. -/
def AlertStep.serverTime : AlertStep → Option Instant
  | request (.create _ now) => some now
  | request (.update _ _ now) => some now
  | request (.archive _ now) => some now
  | evaluate _ => none

/-- A database with one device. -/
def sampleRegistry : Database :=
  { Database.empty with
    devices := Table.empty.upsert ⟨Text.ofString "pump-1", Text.ofString "online", none, none⟩ id
      fun _ ↦ rfl }

/-- A rule is violated at the device's time 10 and archived at the server's time 5. -/
def aheadOfServer : List AlertStep :=
  [.request (.create ⟨Text.ofString "hot", Text.ofString "pump-1", .temperature, .greaterThan, 25, 0,
      0, .warning, true⟩ 0),
    .evaluate ⟨1, Text.ofString "pump-1", 10, 30, 50⟩, .request (.archive 1 5)]

/-- An event that an archived rule ends before it was activated. -/
theorem alert_events_ordered_fails :
    (¬ ∀ (db : Database) (steps : List AlertStep),
      (steps.filterMap AlertStep.serverTime).Pairwise (· ≤ ·) →
      ∀ e ∈ (alerting.run (withoutRules db) steps).alertEvents.rows,
        e.startedAt ≤ e.activatedAt ∧
          (e.status = .resolved → ∃ t ∈ e.resolvedAt, e.activatedAt ≤ t)) ∧
    (alerting.run (withoutRules sampleRegistry) aheadOfServer).alertEvents.rows.map
      (fun e ↦ (e.status, e.startedAt, e.activatedAt, e.resolvedAt)) =
        [(.resolved, 10, 10, some 5)] := by
  have hrows : (alerting.run (withoutRules sampleRegistry) aheadOfServer).alertEvents.rows.map
      (fun e ↦ (e.status, e.startedAt, e.activatedAt, e.resolvedAt)) =
        [(.resolved, 10, 10, some 5)] := by decide +kernel
  refine ⟨fun h ↦ ?_, hrows⟩
  have hall := h sampleRegistry aheadOfServer (by decide)
  obtain ⟨e, he, hfields⟩ : ∃ e ∈ (alerting.run (withoutRules sampleRegistry)
      aheadOfServer).alertEvents.rows,
      (e.status, e.startedAt, e.activatedAt, e.resolvedAt) = (.resolved, 10, 10, some 5) := by
    rw [← List.mem_map, hrows]
    exact List.mem_singleton_self _
  simp only [Prod.mk.injEq] at hfields
  obtain ⟨hstatus, -, hactivated, hresolved⟩ := hfields
  obtain ⟨t, ht, hle⟩ := (hall e he).2 hstatus
  rw [hresolved] at ht
  cases ht
  rw [hactivated] at hle
  exact absurd hle (by decide)

end EdgeMonitor.Backend
