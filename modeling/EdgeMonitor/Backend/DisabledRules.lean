import EdgeMonitor.Backend.RuleChanges

/-!
# Disabled rules

Library `Backend`. A rule that is disabled or archived is reset, and its open event resolved. An
evaluation that has read the rule before may still write afterwards, and a patch that finds the
rule disabled already does not reset it.
-/

namespace EdgeMonitor.Backend
open EdgeMonitor.Base
open AlertRepository

/-- The collector and any number of requests on one database. -/
def alertSystem : Machine (System Database PyError Sample RuleRequest)
    (SystemEvent Sample RuleRequest) (Option PyError) :=
  System.machine AlertEngine.evaluate RuleRequest.session

/-- A rule that is evaluated. -/
def AlertRule.Live (rule : AlertRule) : Prop := rule.enabled = true ∧ rule.archivedAt = none

instance decidableLive (rule : AlertRule) : Decidable rule.Live :=
  inferInstanceAs (Decidable (rule.enabled = true ∧ rule.archivedAt = none))

/-- A state that waits for nothing. -/
def AlertRuleState.Resting (state : AlertRuleState) : Prop :=
  state.state = .normal ∧ state.pendingSince = none ∧ state.pendingExtremeValue = none

/-- The rule does not alert: its state rests, and no event of it is active. -/
def RuleQuiet (ruleId : Nat) (db : Database) : Prop :=
  (∃ state, db.alertRuleStates.find ruleId = some state ∧ state.Resting) ∧
    db.alertEvents.active ruleId = none

/-- The sample is not evaluated for the rule. -/
def Skips (sample : Sample) (rule : RuleRow) : Prop :=
  rule.lastTelemetryId = some sample.id ∨
    rule.lastEvaluatedAt.any (sample.timestamp ≤ ·) = true

instance decidableSkips (sample : Sample) (rule : RuleRow) : Decidable (Skips sample rule) :=
  inferInstanceAs (Decidable (rule.lastTelemetryId = some sample.id ∨
    rule.lastEvaluatedAt.any (sample.timestamp ≤ ·) = true))

/-- The evaluation leaves the state of the rule normal. -/
def Settles (sample : Sample) (rule : RuleRow) : Prop :=
  if rule.runtimeState = .active then
    isRecovery (AlertEngine.ruleCondition rule) (telemetryMetricValue sample rule.metric) = true
  else
    isViolation (AlertEngine.ruleCondition rule) (telemetryMetricValue sample rule.metric) = false

instance decidableSettles (sample : Sample) (rule : RuleRow) : Decidable (Settles sample rule) :=
  inferInstanceAs (Decidable (if rule.runtimeState = .active then _ else _))

/-- The rule is still evaluated, unless the sample cannot make it alert. -/
def Ready (sample : Sample) (db : Database) (rule : RuleRow) : Prop :=
  Skips sample rule ∨ Settles sample rule ∨
    ∃ current ∈ db.alertRules.rows, current.id = rule.id ∧ current.Live

instance decidableReady (sample : Sample) (db : Database) (rule : RuleRow) :
    Decidable (Ready sample db rule) :=
  inferInstanceAs (Decidable (Skips sample rule ∨ Settles sample rule ∨
    ∃ current ∈ db.alertRules.rows, current.id = rule.id ∧ current.Live))

/-- The rules that an evaluation has read are ready for it. -/
def EvaluatedWhileLive (sample : Sample) (seen : List Database) (db : Database) : Prop :=
  ∀ read ∈ seen, ∀ rule ∈ fetchEnabledRulesForDevice sample.deviceId read, Ready sample db rule

instance decidableEvaluatedWhileLive (sample : Sample) (seen : List Database) (db : Database) :
    Decidable (EvaluatedWhileLive sample seen db) :=
  inferInstanceAs (Decidable (∀ read ∈ seen,
    ∀ rule ∈ fetchEnabledRulesForDevice sample.deviceId read, Ready sample db rule))

/-- A patch that disables a rule without resetting it finds it disabled. -/
def DisablesOnce (r : RuleRequest) (seen : List Database) (db : Database) : Prop :=
  match r with
  | .update ruleId request _ =>
    request.enabled = some false → ∀ read ∈ seen, ∀ current ∈ fetchRule ruleId read,
      AlertService.resetRuntime request current = false →
      ∀ rule ∈ db.alertRules.find ruleId, rule.enabled = false
  | _ => True

instance decidableDisablesOnce (seen : List Database) (db : Database) :
    (r : RuleRequest) → Decidable (DisablesOnce r seen db)
  | .create .. => .isTrue trivial
  | .update ruleId request _ =>
    inferInstanceAs (Decidable (request.enabled = some false → ∀ read ∈ seen,
      ∀ current ∈ fetchRule ruleId read, AlertService.resetRuntime request current = false →
      ∀ rule ∈ db.alertRules.find ruleId, rule.enabled = false))
  | .archive .. => .isTrue trivial

/-! ### The invariant -/

/-- Rules that are not evaluated are quiet. Every rule has a state, and active events are those
of rules. -/
structure DisabledQuiet (db : Database) : Prop where
  quiet : ∀ rule ∈ db.alertRules.rows, ¬rule.Live → RuleQuiet rule.id db
  stated : ∀ rule ∈ db.alertRules.rows, (db.alertRuleStates.find rule.id).isSome = true
  known : ∀ k, (db.alertEvents.active k).isSome = true → ∃ rule ∈ db.alertRules.rows, rule.id = k

section

variable {db db' : Database}

/-- A change that leaves the rules and activates no event keeps the invariant, unless it moves the
state of a rule that is not evaluated. -/
theorem DisabledQuiet.change (h : DisabledQuiet db) (hrules : db'.alertRules = db.alertRules)
    (hstates : ∀ rule ∈ db.alertRules.rows, (db'.alertRuleStates.find rule.id).isSome = true ∧
      (¬rule.Live → db'.alertRuleStates.find rule.id = db.alertRuleStates.find rule.id ∨
        ∃ state, db'.alertRuleStates.find rule.id = some state ∧ state.Resting))
    (hevents : ∀ k, (db'.alertEvents.active k).isSome = true →
      (db.alertEvents.active k).isSome = true ∨ ∃ rule ∈ db.alertRules.rows, rule.id = k ∧ rule.Live) :
    DisabledQuiet db' := by
  constructor
  · intro rule hrule hlive
    rw [hrules] at hrule
    obtain ⟨⟨state, hstate, hresting⟩, hnone⟩ := h.quiet rule hrule hlive
    constructor
    · rcases (hstates rule hrule).2 hlive with hsame | hnew
      · exact ⟨state, hsame.trans hstate, hresting⟩
      · exact hnew
    · by_contra hsome
      rcases hevents rule.id (Option.isSome_iff_ne_none.mpr hsome) with hold | ⟨other, hother, hid, hl⟩
      · rw [hnone] at hold
        cases hold
      · have heq : other = rule := Table.eq_of_key (t := db.alertRules.toTable) hother hrule hid
        exact hlive (heq ▸ hl)
  · intro rule hrule
    rw [hrules] at hrule
    exact (hstates rule hrule).1
  · intro k hk
    rw [hrules]
    rcases hevents k hk with hold | ⟨rule, hrule, hid, -⟩
    · exact h.known k hold
    · exact ⟨rule, hrule, hid⟩

/-- The state of a rule is set to one that rests, or the rule is evaluated. -/
theorem DisabledQuiet.withState (h : DisabledQuiet db) {state : AlertRuleState}
    (hstate : ∀ rule ∈ db.alertRules.rows, rule.id = state.ruleId → ¬rule.Live → state.Resting) :
    DisabledQuiet (Backend.withState state db) := by
  apply h.change
  · rfl
  · intro rule hrule
    have hsome := h.stated rule hrule
    rw [find_withState]
    by_cases hid : rule.id = state.ruleId
    · rw [if_pos hid]
      obtain ⟨old, hold⟩ := Option.isSome_iff_exists.mp hsome
      rw [hold]
      exact ⟨rfl, fun hlive ↦ .inr ⟨state, rfl, hstate rule hrule hid hlive⟩⟩
    · rw [if_neg hid]
      exact ⟨hsome, fun _ ↦ .inl rfl⟩
  · exact fun k hk ↦ .inl hk

/-- Events are changed, and none becomes active but of a rule that is evaluated. -/
theorem DisabledQuiet.withEvents (h : DisabledQuiet db) {alertEvents : AlertEvents}
    (hevents : ∀ k, (alertEvents.active k).isSome = true → (db.alertEvents.active k).isSome = true ∨
      ∃ rule ∈ db.alertRules.rows, rule.id = k ∧ rule.Live) :
    DisabledQuiet { db with alertEvents } := by
  apply h.change
  · rfl
  · intro rule hrule
    exact ⟨h.stated rule hrule, fun _ ↦ .inl rfl⟩
  · exact hevents

/-- An update of events activates none. -/
theorem active_of_update {t : AlertEvents} {p : AlertEvent → Bool} {f : AlertEvent → AlertEvent}
    {hid : ∀ e, (f e).id = e.id} {hrule : ∀ e, (f e).ruleId = e.ruleId}
    {hstatus : ∀ e, (f e).status = .active → e.status = .active} {k : Nat}
    (h : ((t.update p f hid hrule hstatus).active k).isSome = true) :
    (t.active k).isSome = true := by
  rw [AlertEvents.active_update] at h
  cases hactive : t.active k with
  | none =>
    rw [hactive] at h
    cases h
  | some e => rfl

/-! ### Evaluations -/

variable {sample : Sample} {rules : List RuleRow}

/-- What an evaluation of these rules keeps. -/
def Guarded (sample : Sample) (rules : List RuleRow) (db : Database) : Prop :=
  DisabledQuiet db ∧ ∀ rule ∈ rules, Ready sample db rule

theorem Guarded.of_rules (h : Guarded sample rules db) (hdb : DisabledQuiet db')
    (hrules : db'.alertRules = db.alertRules) : Guarded sample rules db' := by
  refine ⟨hdb, fun rule hrule ↦ ?_⟩
  rw [Ready, hrules]
  exact h.2 rule hrule

/-- A rule that the evaluation moves is evaluated. -/
theorem Guarded.live (h : Guarded sample rules db) {rule : RuleRow} (hrule : rule ∈ rules)
    (hskip : ¬Skips sample rule) (hsettle : ¬Settles sample rule) :
    ∃ current ∈ db.alertRules.rows, current.id = rule.id ∧ current.Live :=
  ((h.2 rule hrule).resolve_left hskip).resolve_left hsettle

/-- Setting a state that rests, or that of a rule which is evaluated. -/
theorem maintains_updateState {rule : RuleRow} {nextState : RuleRuntimeState}
    {since : Option Instant} {extreme : Option ℚ}
    (hnext : (nextState = .normal ∧ since = none ∧ extreme = none) ∨
      rule ∈ rules ∧ ¬Skips sample rule ∧ ¬Settles sample rule) :
    (AlertEngine.updateState sample rule nextState since extreme).Maintains
      (Guarded sample rules) := by
  apply Block.maintains_execute
  intro db db' hdb hset
  cases hset
  refine hdb.of_rules ?_ rfl
  apply hdb.1.withState
  intro current hcurrent hid hlive
  rcases hnext with ⟨hstate, hsince, hextreme⟩ | ⟨hrule, hskip, hsettle⟩
  · exact ⟨hstate, hsince, hextreme⟩
  · obtain ⟨other, hother, hother', hl⟩ := hdb.live hrule hskip hsettle
    have heq : other = current :=
      Table.eq_of_key (t := db.alertRules.toTable) hother hcurrent (hother'.trans hid.symm)
    exact absurd (heq ▸ hl) hlive

theorem maintains_createEvent {rule : RuleRow} (hrule : rule ∈ rules) (hskip : ¬Skips sample rule)
    (hsettle : ¬Settles sample rule) (startedAt activatedAt : Instant) (value extreme : ℚ) :
    (Block.execute (ε := PyError) (createEvent rule startedAt activatedAt value extreme)).Maintains
      (Guarded sample rules) := by
  apply Block.maintains_execute
  intro db db' hdb hcreated
  have hactive := active_createEvent hcreated
  rw [createEvent] at hcreated
  split at hcreated
  · cases hcreated
    refine hdb.of_rules ?_ rfl
    apply hdb.1.withEvents
    intro k hk
    by_cases hid : k = rule.id
    · obtain ⟨current, hcurrent, hcurrent', hlive⟩ := hdb.live hrule hskip hsettle
      exact .inr ⟨current, hcurrent, hcurrent'.trans hid.symm, hlive⟩
    · have hsame := hactive k
      rw [if_neg hid] at hsame
      exact .inl (hsame ▸ hk)
  · cases hcreated

theorem maintains_evaluateActive {rule : RuleRow} (hrule : rule ∈ rules)
    (hskip : ¬Skips sample rule) (hstate : rule.runtimeState = .active)
    (event : Option AlertEvent) :
    (AlertEngine.evaluateActive sample rule event).Maintains (Guarded sample rules) := by
  cases event with
  | none => trivial
  | some event =>
    rw [AlertEngine.evaluateActive]
    split
    · apply Block.Maintains.bind
      · apply Block.maintains_execute
        intro db db' hdb hresolved
        cases hresolved
        exact hdb.of_rules (hdb.1.withEvents fun k hk ↦ .inl (active_of_update hk)) rfl
      · intro _
        exact maintains_updateState (.inl ⟨rfl, rfl, rfl⟩)
    next hrecovery =>
      apply Block.Maintains.bind
      · apply Block.maintains_execute
        intro db db' hdb hupdated
        cases hupdated
        exact hdb.of_rules (hdb.1.withEvents fun k hk ↦ .inl (active_of_update hk)) rfl
      · intro _
        apply maintains_updateState
        refine .inr ⟨hrule, hskip, ?_⟩
        rw [Settles, if_pos hstate]
        exact hrecovery

theorem maintains_evaluateRule {rule : RuleRow} (hrule : rule ∈ rules) :
    (AlertEngine.evaluateRule sample rule).Maintains (Guarded sample rules) := by
  unfold AlertEngine.evaluateRule
  dsimp only
  split
  · trivial
  next hid =>
    split
    · trivial
    next hlate =>
      have hskip : ¬Skips sample rule := by
        intro h
        exact h.elim hid hlate
      have hmoves (hstate : rule.runtimeState ≠ .active)
          (hviolation : isViolation (AlertEngine.ruleCondition rule)
            (telemetryMetricValue sample rule.metric) = true) : ¬Settles sample rule := by
        rw [Settles, if_neg hstate, hviolation]
        simp
      cases hstate : rule.runtimeState with
      | normal =>
        have hne : rule.runtimeState ≠ .active := by simp [hstate]
        dsimp only
        split
        next hopen =>
          have hsettle := hmoves hne hopen.1
          exact (maintains_createEvent hrule hskip hsettle ..).bind fun _ ↦
            maintains_updateState (.inr ⟨hrule, hskip, hsettle⟩)
        · split
          next hviolation => exact maintains_updateState (.inr ⟨hrule, hskip, hmoves hne hviolation⟩)
          · exact maintains_updateState (.inl ⟨rfl, rfl, rfl⟩)
      | pending =>
        have hne : rule.runtimeState ≠ .active := by simp [hstate]
        dsimp only
        split
        · exact maintains_updateState (.inl ⟨rfl, rfl, rfl⟩)
        next hviolation =>
          have hsettle := hmoves hne (by simpa using hviolation)
          split
          · split
            · exact (maintains_createEvent hrule hskip hsettle ..).bind fun _ ↦
                maintains_updateState (.inr ⟨hrule, hskip, hsettle⟩)
            · exact maintains_updateState (.inr ⟨hrule, hskip, hsettle⟩)
          · trivial
      | active =>
        exact (Block.maintains_select _).bind fun event ↦
          maintains_evaluateActive hrule hskip hstate event

/-! ### Requests -/

/-- A reset leaves the rule quiet. -/
theorem DisabledQuiet.reset {ruleId : Nat} {now : Instant} {reason : ResolutionReason}
    (hstated : ∀ rule ∈ db.alertRules.rows, (db.alertRuleStates.find rule.id).isSome = true)
    (hknown : ∀ k, (db.alertEvents.active k).isSome = true →
      ∃ rule ∈ db.alertRules.rows, rule.id = k)
    (hothers : ∀ rule ∈ db.alertRules.rows, rule.id ≠ ruleId → ¬rule.Live → RuleQuiet rule.id db)
    (h : ResetsRule ruleId now reason db db') : DisabledQuiet db' := by
  have hrules := h.alertRules
  have hfind := h.find
  have hactive := h.active
  constructor
  · intro rule hrule hlive
    rw [hrules] at hrule
    rw [RuleQuiet, hfind, hactive]
    by_cases hid : rule.id = ruleId
    · obtain ⟨old, hold⟩ := Option.isSome_iff_exists.mp (hstated rule hrule)
      rw [if_pos hid, if_pos hid, hold]
      exact ⟨⟨_, rfl, rfl, rfl, rfl⟩, rfl⟩
    · rw [if_neg hid, if_neg hid]
      exact hothers rule hrule hid hlive
  · intro rule hrule
    rw [hrules] at hrule
    rw [hfind]
    split
    · rw [Option.isSome_map]
      exact hstated rule hrule
    · exact hstated rule hrule
  · intro k hk
    rw [hactive] at hk
    rw [hrules]
    split at hk
    · cases hk
    · exact hknown k hk

/-- The id of the next rule has no active event. -/
theorem active_unused
    (hknown : ∀ k, (db.alertEvents.active k).isSome = true →
      ∃ rule ∈ db.alertRules.rows, rule.id = k) :
    db.alertEvents.active (db.alertRules.sequence + 1) = none := by
  by_contra hsome
  obtain ⟨rule, hrule, hid⟩ := hknown _ (Option.isSome_iff_ne_none.mpr hsome)
  have hle := db.alertRules.key_le rule hrule
  omega

/-- What a transaction of a request keeps, when a patch that only disables finds the rule
disabled. -/
theorem DisabledQuiet.commits {r : RuleRequest} {seen : List Database} (hdb : DisabledQuiet db)
    (honce : DisablesOnce r seen db) (h : r.Commits seen db db') : DisabledQuiet db' := by
  cases h with
  | @create request now _ inserted _ ruleId hinsert hstate =>
    obtain ⟨hfresh, hrows, hstates, hevents⟩ := insertRule_eq_ok hinsert
    obtain ⟨-, hfind, hrules', hevents'⟩ := insertRuleState_eq_ok hstate
    have hne : ∀ rule ∈ db.alertRules.rows, rule.id ≠ ruleId := by
      intro rule hrule heq
      have hle := db.alertRules.key_le rule hrule
      omega
    have hnone : db.alertEvents.active ruleId = none := hfresh ▸ active_unused hdb.known
    have hcases {rule : AlertRule} (hrule : rule ∈ db'.alertRules.rows) :
        rule ∈ db.alertRules.rows ∨ rule.id = ruleId := by
      rw [hrules', hrows, List.mem_append, List.mem_singleton] at hrule
      rcases hrule with hold | rfl
      · exact .inl hold
      · exact .inr rfl
    constructor
    · intro rule hrule hlive
      rw [RuleQuiet, hfind, hevents', hevents, hstates]
      rcases hcases hrule with hold | hid
      · rw [if_neg (hne rule hold)]
        exact hdb.quiet rule hold hlive
      · rw [if_pos hid, hid]
        exact ⟨⟨_, rfl, rfl, rfl, rfl⟩, hnone⟩
    · intro rule hrule
      rw [hfind, hstates]
      rcases hcases hrule with hold | hid
      · rw [if_neg (hne rule hold)]
        exact hdb.stated rule hold
      · rw [if_pos hid]
        rfl
    · intro k hk
      rw [hevents', hevents] at hk
      obtain ⟨rule, hrule, hid⟩ := hdb.known k hk
      rw [hrules', hrows]
      exact ⟨rule, List.mem_append_left _ hrule, hid⟩
  | @update ruleId request now read _ patched _ current hread hcurrent hopen hvalid hpatched
      hreset =>
    obtain rfl | ⟨hrows, hstates, hevents⟩ := updateRule_eq_ok hpatched
    · split at hreset
      · rw [hreset]
        exact hdb
      · exact .reset hdb.stated hdb.known (fun rule hrule _ ↦ hdb.quiet rule hrule) hreset
    · -- a rule of the patched table, with the one that it was
      have hcases {rule : AlertRule} (hrule : rule ∈ patched.alertRules.rows) :
          ∃ old ∈ db.alertRules.rows, rule.id = old.id ∧ (old.id ≠ ruleId → rule = old) ∧
            (old.id = ruleId → rule = patchRule request now old) := by
        rw [hrows] at hrule
        obtain ⟨old, hold, rfl⟩ := List.mem_map.mp hrule
        refine ⟨old, hold, ?_⟩
        by_cases hid : old.id = ruleId
        · simp [hid, patchRule]
        · simp [hid]
      have hstated : ∀ rule ∈ patched.alertRules.rows,
          (patched.alertRuleStates.find rule.id).isSome = true := by
        intro rule hrule
        obtain ⟨old, hold, hid, -⟩ := hcases hrule
        rw [hid, hstates]
        exact hdb.stated old hold
      have hknown : ∀ k, (patched.alertEvents.active k).isSome = true →
          ∃ rule ∈ patched.alertRules.rows, rule.id = k := by
        intro k hk
        rw [hevents] at hk
        obtain ⟨old, hold, rfl⟩ := hdb.known k hk
        rw [hrows]
        refine ⟨_, List.mem_map_of_mem hold, ?_⟩
        split <;> rfl
      have hothers : ∀ rule ∈ patched.alertRules.rows, rule.id ≠ ruleId → ¬rule.Live →
          RuleQuiet rule.id patched := by
        intro rule hrule hid hlive
        obtain ⟨old, hold, heq, hsame, -⟩ := hcases hrule
        have hrule' : rule = old := hsame (heq ▸ hid)
        rw [RuleQuiet, hstates, hevents, hrule']
        exact hdb.quiet old hold (hrule' ▸ hlive)
      split at hreset
      next hreason =>
        rw [hreset]
        refine ⟨?_, hstated, hknown⟩
        intro rule hrule hlive
        by_cases hid : rule.id = ruleId
        · obtain ⟨old, hold, heq, -, hpatch⟩ := hcases hrule
          have hold' : old.id = ruleId := heq.symm.trans hid
          have hfound : db.alertRules.find ruleId = some old :=
            (Table.find_eq_some_iff _ _ _).mpr ⟨hold, hold'⟩
          have hquiet : RuleQuiet old.id db := by
            apply hdb.quiet old hold
            intro hold
            apply hlive
            rw [hpatch hold', AlertRule.Live, patchRule]
            refine ⟨?_, hold.2⟩
            cases henabled : request.enabled with
            | none => exact hold.1
            | some enabled =>
              cases enabled with
              | true => rfl
              | false =>
                have hnone : AlertService.resetRuntime request current = false := by
                  rw [resetRuntime_eq, hreason]
                  rfl
                have hdisabled := honce henabled read hread current hcurrent hnone old hfound
                rw [hold.1] at hdisabled
                cases hdisabled
          rw [RuleQuiet, heq, hstates, hevents]
          exact hquiet
        · exact hothers rule hrule hid hlive
      next => exact .reset hstated hknown hothers hreset
  | @archive ruleId now read _ archivedDb _ current rowcount hread hcurrent hopen harchived
      hreset =>
    cases harchived
    -- a rule of the table, with the one that it was
    have hcases {rule : AlertRule} (hrule : rule ∈ ((db.alertRules.update (fun rule ↦
        rule.id == ruleId && rule.archivedAt.isNone) (archived now) fun _ ↦ rfl).rows)) :
        ∃ old ∈ db.alertRules.rows, rule.id = old.id ∧
          (rule = old ∨ old.id = ruleId ∧ old.archivedAt = none) := by
      obtain ⟨old, hold, rfl⟩ := List.mem_map.mp hrule
      refine ⟨old, hold, ?_⟩
      by_cases hmeets : (old.id == ruleId && old.archivedAt.isNone) = true
      · rw [if_pos hmeets]
        rw [Bool.and_eq_true, beq_iff_eq, Option.isNone_iff_eq_none] at hmeets
        exact ⟨rfl, .inr hmeets⟩
      · rw [if_neg hmeets]
        exact ⟨rfl, .inl rfl⟩
    split at hreset
    next hcount =>
      rw [hreset]
      have hsame {rule : AlertRule} (hrule : rule ∈ ((db.alertRules.update (fun rule ↦
          rule.id == ruleId && rule.archivedAt.isNone) (archived now) fun _ ↦ rfl).rows)) :
          rule ∈ db.alertRules.rows := by
        obtain ⟨old, hold, -, heq | ⟨hid, hnone⟩⟩ := hcases hrule
        · exact heq ▸ hold
        · have hmem : old ∈ db.alertRules.rows.filter fun rule ↦
              rule.id == ruleId && rule.archivedAt.isNone :=
            List.mem_filter.mpr ⟨hold, by simp [hid, hnone]⟩
          rw [List.length_eq_zero_iff.mp hcount] at hmem
          cases hmem
      constructor
      · exact fun rule hrule hlive ↦ hdb.quiet rule (hsame hrule) hlive
      · exact fun rule hrule ↦ hdb.stated rule (hsame hrule)
      · intro k hk
        obtain ⟨old, hold, rfl⟩ := hdb.known k hk
        refine ⟨_, List.mem_map_of_mem hold, ?_⟩
        split <;> rfl
    next =>
      apply DisabledQuiet.reset _ _ _ hreset
      · intro rule hrule
        obtain ⟨old, hold, hid, -⟩ := hcases hrule
        rw [hid]
        exact hdb.stated old hold
      · intro k hk
        obtain ⟨old, hold, rfl⟩ := hdb.known k hk
        refine ⟨_, List.mem_map_of_mem hold, ?_⟩
        split <;> rfl
      · intro rule hrule hne hlive
        obtain ⟨old, hold, hid, heq | ⟨hid', -⟩⟩ := hcases hrule
        · rw [heq]
          exact hdb.quiet old hold (heq ▸ hlive)
        · exact absurd (hid.trans hid') hne

/-! ### Whole runs -/

/-- What an evaluation with the rules that it has read keeps. -/
theorem maintains_evaluateRules : (AlertEngine.evaluateRules sample rules).Maintains
    (Guarded sample rules) :=
  Block.maintains_forM fun _ ↦ maintains_evaluateRule

end

/-- What the collector and the requests rely on: rules are written as they were read. -/
def disabledRules : System.Rules AlertEngine.evaluate RuleRequest.session where
  inv := DisabledQuiet
  rely _ _ := True
  worker := EvaluatedWhileLive
  client := DisablesOnce
  allowed _ := True
  rely_refl _ _ := trivial
  work_safe sample := by
    apply Session.safe_withConnection
    intro read _
    have hrules : (AlertEngine.evaluateRules sample (fetchEnabledRulesForDevice sample.deviceId
        read)).Maintains (Guarded sample (fetchEnabledRulesForDevice sample.deviceId read)) :=
      maintains_evaluateRules
    apply hrules.safe
    · intro seen db hseen hdb
      exact ⟨hdb.1, hdb.2.2 read (hseen List.mem_cons_self)⟩
    · exact fun _ _ h ↦ h.1
    · exact fun _ _ _ _ ↦ trivial
  serve_safe r := by
    apply r.safe
    intro seen db db' hdb hcommits
    exact ⟨hdb.1.commits hdb.2 hcommits, fun _ _ ↦ trivial⟩

/-- No rule that is disabled or archived alerts. -/
def NoneLeftAlerting (db : Database) : Prop :=
  ∀ rule ∈ db.alertRules.rows, rule.enabled = false ∨ rule.archivedAt ≠ none → RuleQuiet rule.id db

theorem DisabledQuiet.noneLeftAlerting {db : Database} (h : DisabledQuiet db) :
    NoneLeftAlerting db := by
  intro rule hrule hclosed
  apply h.quiet rule hrule
  intro hlive
  rcases hclosed with hdisabled | harchived
  · rw [hlive.1] at hdisabled
    cases hdisabled
  · exact harchived hlive.2

/-- In a run in which the rules of an evaluation stay as they were read, no rule that is
disabled or archived is left alerting. -/
theorem none_left_alerting (db : Database) (events : List (SystemEvent Sample RuleRequest))
    (hmeets : alertSystem.Along (System.Meets EvaluatedWhileLive DisablesOnce)
      ⟨withoutRules db, none, []⟩ events) :
    NoneLeftAlerting (alertSystem.run ⟨withoutRules db, none, []⟩ events).database := by
  have hstart : DisabledQuiet (withoutRules db) := by
    constructor
    · intro rule hrule
      cases hrule
    · intro rule hrule
      cases hrule
    · intro k hk
      cases hk
  have hsound : System.Sound disabledRules (alertSystem.run ⟨withoutRules db, none, []⟩ events) :=
    alertSystem.invariant_along (fun _ _ ↦ System.sound_step)
      (System.sound_idle disabledRules hstart) hmeets
  exact hsound.inv.noneLeftAlerting

/-- A rule for temperatures above 25. -/
def warmRule : AlertRuleDefinition :=
  ⟨Text.ofString "warm", Text.ofString "pump-1", .temperature, .greaterThan, 25, 0, 5, .warning,
    true⟩

/-- A patch that disables a rule. -/
def disable : AlertRulePatch := { AlertRulePatch.empty with enabled := some false }

/-- A sample above the threshold, a second after the rule was created. -/
def warmSample : Sample := ⟨1, Text.ofString "pump-1", 1000000, 30, 50⟩

/-- The rule is created, and the collector has read it for a sample. -/
def ruleRead : List (SystemEvent Sample RuleRequest) :=
  [.request (.create warmRule 0), .serve 0, .serve 0, .serve 0, .job warmSample, .work]

/-- The rule is disabled, in one go. -/
def disabledAtOnce : List (SystemEvent Sample RuleRequest) :=
  [.request (.update 1 disable 2000000), .serve 1, .serve 1, .serve 1]

/-- The evaluation ends before the rule is disabled. -/
theorem none_left_alerting_sample :
    NoneLeftAlerting (alertSystem.run ⟨withoutRules sampleRegistry, none, []⟩
      (ruleRead ++ [.work] ++ disabledAtOnce)).database := by
  apply none_left_alerting
  decide +kernel

/-- The rule is disabled before the evaluation writes: its event stays active. -/
theorem none_left_alerting_fails :
    (¬ ∀ (db : Database) (events : List (SystemEvent Sample RuleRequest)),
      NoneLeftAlerting (alertSystem.run ⟨withoutRules db, none, []⟩ events).database) ∧
    (alertSystem.run ⟨withoutRules sampleRegistry, none, []⟩
      (ruleRead ++ disabledAtOnce ++ [.work])).database.alertEvents.rows.map
        (fun e ↦ (e.ruleId, e.status)) = [(1, .active)] := by
  have hrule : ((alertSystem.run ⟨withoutRules sampleRegistry, none, []⟩
      (ruleRead ++ disabledAtOnce ++ [.work])).database.alertRules.find 1).any (!·.enabled) =
        true := by decide +kernel
  have hactive : ((alertSystem.run ⟨withoutRules sampleRegistry, none, []⟩
      (ruleRead ++ disabledAtOnce ++ [.work])).database.alertEvents.active 1).isSome = true := by
    decide +kernel
  constructor
  · intro h
    obtain ⟨rule, hfound, hdisabled⟩ := (Option.any_eq_true _ _).mp hrule
    obtain ⟨hmem, hid⟩ := (Table.find_eq_some_iff _ _ _).mp hfound
    have hquiet := h sampleRegistry _ rule hmem (.inl (by simpa using hdisabled))
    have hnone := hquiet.2
    rw [hid] at hnone
    rw [hnone] at hactive
    cases hactive
  · decide +kernel

end EdgeMonitor.Backend
