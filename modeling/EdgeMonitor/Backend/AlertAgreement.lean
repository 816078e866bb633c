import EdgeMonitor.Backend.DisabledRules

/-!
# Agreement of alert states and events

Library `Backend`. The state of a rule is active exactly while one of its events is. A request
resets both together; an evaluation that has read the rule as active relies on it until it writes.
-/

namespace EdgeMonitor.Backend
open EdgeMonitor.Base
open AlertRepository

/-- The sample lets the first rule that is evaluated recover, and its event has been read. -/
def Recovers (sample : Sample) (seen : List Database) (rules : List RuleRow) (rule : RuleRow) :
    Prop :=
  1 < seen.length ∧
    (rules.find? fun r ↦ !decide (Skips sample r)).map (·.id) = some rule.id ∧
    isRecovery (AlertEngine.ruleCondition rule) (telemetryMetricValue sample rule.metric) = true

instance decidableRecovers (sample : Sample) (seen : List Database) (rules : List RuleRow)
    (rule : RuleRow) : Decidable (Recovers sample seen rules rule) :=
  inferInstanceAs (Decidable (_ ∧ _ ∧ _))

/-- The rules that the evaluation has read as active still are, unless their state does not
matter. -/
def StillActive (sample : Sample) (seen : List Database) (db : Database) : Prop :=
  ∀ read ∈ seen.getLast?, ∀ rule ∈ fetchEnabledRulesForDevice sample.deviceId read,
    rule.runtimeState = .active →
      Skips sample rule ∨
      Recovers sample seen (fetchEnabledRulesForDevice sample.deviceId read) rule ∨
      ∃ state ∈ db.alertRuleStates.find rule.id, state.state = .active

instance decidableStillActive (sample : Sample) (seen : List Database) (db : Database) :
    Decidable (StillActive sample seen db) :=
  inferInstanceAs (Decidable (∀ read ∈ seen.getLast?,
    ∀ rule ∈ fetchEnabledRulesForDevice sample.deviceId read, rule.runtimeState = .active →
      Skips sample rule ∨
      Recovers sample seen (fetchEnabledRulesForDevice sample.deviceId read) rule ∨
      ∃ state ∈ db.alertRuleStates.find rule.id, state.state = .active))

/-! ### The invariant -/

/-- States and events agree. Every rule has a state, every event is one of a rule, and a pending
state has its time and value. -/
structure Agreement (db : Database) : Prop where
  stated : ∀ rule ∈ db.alertRules.rows, (db.alertRuleStates.find rule.id).isSome = true
  known : ∀ e ∈ db.alertEvents.rows, ∃ rule ∈ db.alertRules.rows, rule.id = e.ruleId
  agrees : ∀ k, ∀ state ∈ db.alertRuleStates.find k,
    (state.state = .active ↔ (db.alertEvents.active k).isSome = true)
  pending : ∀ k, ∀ state ∈ db.alertRuleStates.find k, state.state = .pending →
    state.pendingSince.isSome = true ∧ state.pendingExtremeValue.isSome = true

theorem Agreement.known_active {db : Database} (h : Agreement db) (k : Nat)
    (hk : (db.alertEvents.active k).isSome = true) : ∃ rule ∈ db.alertRules.rows, rule.id = k := by
  obtain ⟨e, he⟩ := Option.isSome_iff_exists.mp hk
  obtain ⟨hmem, hid, -⟩ := (AlertEvents.active_eq_some_iff _ _ _).mp he
  obtain ⟨rule, hrule, hid'⟩ := h.known e hmem
  exact ⟨rule, hrule, hid'.trans hid⟩

/-- The events of a rule. -/
def eventsOf (k : Nat) (db : Database) : List AlertEvent :=
  db.alertEvents.rows.filter (·.ruleId == k)

/-- The state and the events of a rule are the same in both. -/
def SameRule (k : Nat) (db db' : Database) : Prop :=
  db'.alertRuleStates.find k = db.alertRuleStates.find k ∧ eventsOf k db' = eventsOf k db

@[simp] theorem eventsOf_withState (k : Nat) (state : AlertRuleState) (db : Database) :
    eventsOf k (withState state db) = eventsOf k db := rfl

theorem active_eq_find? (k : Nat) (db : Database) :
    db.alertEvents.active k = (eventsOf k db).find? (·.status == .active) := by
  rw [eventsOf, List.find?_filter, AlertEvents.active]
  congr 1
  ext e
  rw [Bool.eq_iff_iff, AlertEvent.activeFor_iff]
  simp

theorem SameRule.active {k : Nat} {db db' : Database} (h : SameRule k db db') :
    db'.alertEvents.active k = db.alertEvents.active k := by
  rw [active_eq_find?, active_eq_find?, h.2]

/-- An update that meets no event of a rule leaves them. -/
theorem eventsOf_update {db : Database} {p : AlertEvent → Bool} {f : AlertEvent → AlertEvent}
    {hid : ∀ e, (f e).id = e.id} {hrule : ∀ e, (f e).ruleId = e.ruleId}
    {hstatus : ∀ e, (f e).status = .active → e.status = .active} (k : Nat) :
    eventsOf k { db with alertEvents := db.alertEvents.update p f hid hrule hstatus } =
      (eventsOf k db).map fun e ↦ if p e then f e else e := by
  change (db.alertEvents.rows.map fun e ↦ if p e then f e else e).filter _ = _
  rw [List.filter_map, eventsOf]
  congr 1
  apply List.filter_congr
  intro e _
  dsimp only [Function.comp_apply]
  split
  · rw [hrule]
  · rfl

theorem eventsOf_update_of_not {db : Database} {p : AlertEvent → Bool}
    {f : AlertEvent → AlertEvent} {hid : ∀ e, (f e).id = e.id}
    {hrule : ∀ e, (f e).ruleId = e.ruleId}
    {hstatus : ∀ e, (f e).status = .active → e.status = .active} {k : Nat}
    (h : ∀ e ∈ eventsOf k db, p e = false) :
    eventsOf k { db with alertEvents := db.alertEvents.update p f hid hrule hstatus } =
      eventsOf k db := by
  rw [eventsOf_update]
  calc
    (eventsOf k db).map (fun e ↦ if p e then f e else e) = (eventsOf k db).map id := by
      apply List.map_congr_left
      intro e he
      rw [h e he]
      rfl
    _ = eventsOf k db := List.map_id _

/-- The rule is as it is after its creation. -/
def Fresh (k : Nat) (db : Database) : Prop :=
  db.alertRuleStates.find k = some (freshState k) ∧ db.alertEvents.active k = none

/-- What requests do: no rule and no event is lost, and the rules that change are reset. -/
structure Follows (db db' : Database) : Prop where
  kept : ∀ rule ∈ db.alertRules.rows, ∃ rule' ∈ db'.alertRules.rows, rule'.id = rule.id
  added : ∀ rule' ∈ db'.alertRules.rows, (∃ rule ∈ db.alertRules.rows, rule.id = rule'.id) ∨
    (db'.alertRuleStates.find rule'.id).isSome = true
  events : ∀ e ∈ db.alertEvents.rows, ∃ e' ∈ db'.alertEvents.rows, e'.id = e.id ∧
    e'.ruleId = e.ruleId
  owned : ∀ e' ∈ db'.alertEvents.rows, ∃ e ∈ db.alertEvents.rows, e.ruleId = e'.ruleId
  rules : ∀ k, SameRule k db db' ∨ Fresh k db'

theorem Follows.refl (db : Database) : Follows db db := by
  constructor
  · exact fun rule hrule ↦ ⟨rule, hrule, rfl⟩
  · exact fun rule hrule ↦ .inl ⟨rule, hrule, rfl⟩
  · exact fun e he ↦ ⟨e, he, rfl, rfl⟩
  · exact fun e he ↦ ⟨e, he, rfl⟩
  · exact fun k ↦ .inl ⟨rfl, rfl⟩

section

variable {db db' db'' : Database}

/-- A rule that has a state keeps one. -/
theorem Follows.isSome_find (h : Follows db db') {k : Nat}
    (hk : (db.alertRuleStates.find k).isSome = true) :
    (db'.alertRuleStates.find k).isSome = true := by
  rcases h.rules k with hsame | hfresh
  · rw [hsame.1]
    exact hk
  · rw [hfresh.1]
    rfl

theorem Follows.trans (h : Follows db db') (h' : Follows db' db'') : Follows db db'' := by
  constructor
  · intro rule hrule
    obtain ⟨rule', hrule', hid⟩ := h.kept rule hrule
    obtain ⟨rule'', hrule'', hid'⟩ := h'.kept rule' hrule'
    exact ⟨rule'', hrule'', hid'.trans hid⟩
  · intro rule'' hrule''
    rcases h'.added rule'' hrule'' with ⟨rule', hrule', hid'⟩ | hsome
    · rcases h.added rule' hrule' with ⟨rule, hrule, hid⟩ | hsome
      · exact .inl ⟨rule, hrule, hid.trans hid'⟩
      · rw [hid'] at hsome
        exact .inr (h'.isSome_find hsome)
    · exact .inr hsome
  · intro e he
    obtain ⟨e', he', hid, hrule⟩ := h.events e he
    obtain ⟨e'', he'', hid', hrule'⟩ := h'.events e' he'
    exact ⟨e'', he'', hid'.trans hid, hrule'.trans hrule⟩
  · intro e'' he''
    obtain ⟨e', he', hrule'⟩ := h'.owned e'' he''
    obtain ⟨e, he, hrule⟩ := h.owned e' he'
    exact ⟨e, he, hrule.trans hrule'⟩
  · intro k
    rcases h'.rules k with hsame' | hfresh
    · rcases h.rules k with hsame | hfresh
      · exact .inl ⟨hsame'.1.trans hsame.1, hsame'.2.trans hsame.2⟩
      · exact .inr ⟨hsame'.1.trans hfresh.1, hsame'.active.trans hfresh.2⟩
    · exact .inr hfresh

theorem Agreement.follows (h : Agreement db) (hfollows : Follows db db') : Agreement db' := by
  constructor
  · intro rule' hrule'
    rcases hfollows.added rule' hrule' with ⟨rule, hrule, hid⟩ | hsome
    · rw [← hid]
      exact hfollows.isSome_find (h.stated rule hrule)
    · exact hsome
  · intro e' he'
    obtain ⟨e, he, hrule⟩ := hfollows.owned e' he'
    obtain ⟨rule, hmem, hid⟩ := h.known e he
    obtain ⟨rule', hmem', hid'⟩ := hfollows.kept rule hmem
    exact ⟨rule', hmem', hid'.trans (hid.trans hrule)⟩
  · intro k state hstate
    rcases hfollows.rules k with hsame | hfresh
    · rw [hsame.1] at hstate
      rw [hsame.active]
      exact h.agrees k state hstate
    · rw [hfresh.1] at hstate
      cases hstate
      rw [hfresh.2]
      simp [freshState]
  · intro k state hstate
    rcases hfollows.rules k with hsame | hfresh
    · rw [hsame.1] at hstate
      exact h.pending k state hstate
    · rw [hfresh.1] at hstate
      cases hstate
      exact nofun

/-! ### Requests -/

/-- Rules that are changed under their ids. -/
theorem Follows.of_rows {f : AlertRule → AlertRule} (hid : ∀ rule, (f rule).id = rule.id)
    (hrows : db'.alertRules.rows = db.alertRules.rows.map f)
    (hstates : db'.alertRuleStates = db.alertRuleStates)
    (hevents : db'.alertEvents = db.alertEvents) : Follows db db' := by
  constructor
  · intro rule hrule
    rw [hrows]
    exact ⟨f rule, List.mem_map_of_mem hrule, hid rule⟩
  · intro rule' hrule'
    rw [hrows] at hrule'
    obtain ⟨rule, hrule, rfl⟩ := List.mem_map.mp hrule'
    exact .inl ⟨rule, hrule, (hid rule).symm⟩
  · intro e he
    rw [hevents]
    exact ⟨e, he, rfl, rfl⟩
  · intro e he
    rw [hevents] at he
    exact ⟨e, he, rfl⟩
  · intro k
    rw [SameRule, eventsOf, eventsOf, hstates, hevents]
    exact .inl ⟨rfl, rfl⟩

/-- A reset resolves the active event of one rule. -/
theorem ResetsRule.eventsOf_of_not {ruleId k : Nat} {now : Instant} {reason : ResolutionReason}
    (h : ResetsRule ruleId now reason db db')
    (hk : k ≠ ruleId ∨ db.alertEvents.active k = none) : eventsOf k db' = eventsOf k db := by
  obtain ⟨changed, hchanged, rfl⟩ := h
  cases hchanged
  rw [eventsOf_withState]
  apply eventsOf_update_of_not
  intro e he
  obtain ⟨hmem, hid⟩ := List.mem_filter.mp he
  rw [beq_iff_eq] at hid
  by_contra hopen
  obtain ⟨hrule, hstatus⟩ := (e.activeFor_iff ruleId).mp (Bool.of_not_eq_false hopen)
  rcases hk with hne | hnone
  · exact hne (hid.symm.trans hrule)
  · exact (db.alertEvents.active_eq_none_iff k).mp hnone e hmem hid hstatus

/-- A rule that has no state has no active event either. -/
theorem Follows.reset {ruleId : Nat} {now : Instant} {reason : ResolutionReason}
    (hdb : Agreement db) (h : ResetsRule ruleId now reason db db') : Follows db db' := by
  have hrules := h.alertRules
  constructor
  · intro rule hrule
    rw [hrules]
    exact ⟨rule, hrule, rfl⟩
  · intro rule hrule
    rw [hrules] at hrule
    exact .inl ⟨rule, hrule, rfl⟩
  · intro e he
    obtain ⟨changed, hchanged, rfl⟩ := h
    cases hchanged
    refine ⟨_, List.mem_map_of_mem he, ?_⟩
    split
    · exact ⟨rfl, rfl⟩
    · exact ⟨rfl, rfl⟩
  · intro e' he'
    obtain ⟨changed, hchanged, rfl⟩ := h
    cases hchanged
    obtain ⟨e, he, rfl⟩ := List.mem_map.mp he'
    refine ⟨e, he, ?_⟩
    split
    · rfl
    · rfl
  · intro k
    rw [SameRule, Fresh, h.find, h.active]
    by_cases hk : k = ruleId
    · subst hk
      rw [if_pos rfl, if_pos rfl]
      cases hfind : db.alertRuleStates.find k with
      | some state => exact .inr ⟨rfl, rfl⟩
      | none =>
        refine .inl ⟨rfl, h.eventsOf_of_not ?_⟩
        right
        by_contra hsome
        obtain ⟨rule, hrule, rfl⟩ := hdb.known_active k (Option.isSome_iff_ne_none.mpr hsome)
        have hstate := hdb.stated rule hrule
        rw [hfind] at hstate
        cases hstate
    · rw [if_neg hk, if_neg hk]
      exact .inl ⟨rfl, h.eventsOf_of_not (.inl hk)⟩

theorem Follows.create {request : AlertRuleDefinition} {now : Instant} {inserted : Database}
    {ruleId : Nat} (hdb : Agreement db) (hinsert : insertRule request now db = .ok (inserted, ruleId))
    (hstate : insertRuleState ruleId inserted = .ok db') : Follows db db' := by
  obtain ⟨hnext, hrows, hstates, hevents⟩ := insertRule_eq_ok hinsert
  obtain ⟨-, hfind, hrules', hevents'⟩ := insertRuleState_eq_ok hstate
  constructor
  · intro rule hrule
    rw [hrules', hrows]
    exact ⟨rule, List.mem_append_left _ hrule, rfl⟩
  · intro rule' hrule'
    rw [hrules', hrows, List.mem_append, List.mem_singleton] at hrule'
    rcases hrule' with hold | rfl
    · exact .inl ⟨rule', hold, rfl⟩
    · right
      rw [hfind]
      change (if ruleId = ruleId then _ else _ : Option AlertRuleState).isSome = true
      rw [if_pos rfl]
      rfl
  · intro e he
    rw [hevents', hevents]
    exact ⟨e, he, rfl, rfl⟩
  · intro e he
    rw [hevents', hevents] at he
    exact ⟨e, he, rfl⟩
  · intro k
    rw [SameRule, eventsOf, eventsOf, Fresh, hfind, hstates, hevents', hevents]
    by_cases hk : k = ruleId
    · rw [if_pos hk, hk]
      refine .inr ⟨rfl, ?_⟩
      rw [hnext]
      exact active_unused hdb.known_active
    · rw [if_neg hk]
      exact .inl ⟨rfl, rfl⟩

/-- A transaction of a request resets what it changes. -/
theorem RuleRequest.Commits.follows {r : RuleRequest} {seen : List Database}
    (hdb : Agreement db) (h : r.Commits seen db db') : Follows db db' := by
  cases h with
  | create hinsert hstate => exact .create hdb hinsert hstate
  | @update ruleId request now read _ patched _ current hread hcurrent hopen hvalid hpatched
      hreset =>
    have hfirst : Follows db patched := by
      obtain rfl | ⟨hrows, hstates, hevents⟩ := updateRule_eq_ok hpatched
      · exact .refl _
      · apply Follows.of_rows _ hrows hstates hevents
        intro rule
        split
        · rfl
        · rfl
    split at hreset
    · rw [hreset]
      exact hfirst
    · exact hfirst.trans (.reset (hdb.follows hfirst) hreset)
  | @archive ruleId now read _ archivedDb _ current rowcount hread hcurrent hopen harchived
      hreset =>
    have hfirst : Follows db archivedDb := by
      cases harchived
      apply Follows.of_rows (f := fun rule ↦
        if rule.id == ruleId && rule.archivedAt.isNone then archived now rule else rule)
      · intro rule
        split
        · rfl
        · rfl
      · rfl
      · rfl
      · rfl
    split at hreset
    · rw [hreset]
      exact hfirst
    · exact hfirst.trans (.reset (hdb.follows hfirst) hreset)

/-! ### One rule -/

/-- The rules and all but one state and its events stay as they are. -/
def OthersKept (k : Nat) (db db' : Database) : Prop :=
  db'.alertRules = db.alertRules ∧ ∀ j ≠ k, SameRule j db db'

theorem OthersKept.refl (k : Nat) (db : Database) : OthersKept k db db :=
  ⟨rfl, fun _ _ ↦ ⟨rfl, rfl⟩⟩

/-- A block ends, changes one rule only, and keeps the agreement. -/
def Settled (k : Nat) (db : Database) (b : Block Database PyError Unit) : Prop :=
  ∃ db', b.eval db = .ok ((), db') ∧ Agreement db' ∧ OthersKept k db db'

variable {sample : Sample} {rule : RuleRow} {k : Nat}

/-- The state that follows a change of events agrees with them. -/
theorem Agreement.updateState {changed : Database} (h : Agreement db)
    {nextState : RuleRuntimeState} {since : Option Instant} {extreme : Option ℚ}
    (hknown : ∃ r ∈ db.alertRules.rows, r.id = rule.id)
    (hrules : changed.alertRules = db.alertRules)
    (hstates : changed.alertRuleStates = db.alertRuleStates)
    (hevents : ∀ j ≠ rule.id, eventsOf j changed = eventsOf j db)
    (hagrees : nextState = .active ↔ (changed.alertEvents.active rule.id).isSome = true)
    (hpending : nextState = .pending → since.isSome = true ∧ extreme.isSome = true) :
    ∃ db', (AlertEngine.updateState sample rule nextState since extreme).eval changed =
      .ok ((), db') ∧ Agreement db' ∧ OthersKept rule.id db db' := by
  refine ⟨withState (evaluatedState sample rule nextState since extreme) changed, rfl, ?_, ?_⟩
  · have hactive : ∀ j ≠ rule.id, changed.alertEvents.active j = db.alertEvents.active j := by
      intro j hj
      rw [active_eq_find?, hevents j hj, ← active_eq_find?]
    constructor
    · intro r hr
      rw [alertRules_withState, hrules] at hr
      have hsome := h.stated r hr
      rw [find_withState, hstates]
      split
      · rw [Option.isSome_map]
        exact hsome
      · exact hsome
    · intro e he
      rw [alertEvents_withState] at he
      rw [alertRules_withState, hrules]
      by_cases hid : e.ruleId = rule.id
      · rw [hid]
        exact hknown
      · have hmem : e ∈ eventsOf e.ruleId changed := List.mem_filter.mpr ⟨he, beq_self_eq_true _⟩
        rw [hevents e.ruleId hid] at hmem
        exact h.known e (List.mem_filter.mp hmem).1
    · intro j state hstate
      rw [find_withState, hstates] at hstate
      rw [alertEvents_withState]
      by_cases hid : j = rule.id
      · subst hid
        change (if rule.id = rule.id then _ else _) = _ at hstate
        rw [if_pos rfl] at hstate
        obtain ⟨_, -, rfl⟩ := Option.map_eq_some_iff.mp hstate
        exact hagrees
      · change (if j = rule.id then _ else _) = _ at hstate
        rw [if_neg hid] at hstate
        rw [hactive j hid]
        exact h.agrees j state hstate
    · intro j state hstate hpend
      rw [find_withState, hstates] at hstate
      split at hstate
      · obtain ⟨_, -, rfl⟩ := Option.map_eq_some_iff.mp hstate
        exact hpending hpend
      · exact h.pending j state hstate hpend
  · refine ⟨hrules, ?_⟩
    intro j hj
    constructor
    · rw [find_withState, hstates]
      exact if_neg hj
    · exact hevents j hj

/-- A change of events, and the state that agrees with them. -/
theorem Agreement.settled {f : Database → Except PyError Database} {changed : Database}
    (h : Agreement db) {nextState : RuleRuntimeState} {since : Option Instant}
    {extreme : Option ℚ} (hknown : ∃ r ∈ db.alertRules.rows, r.id = rule.id)
    (hchanged : f db = .ok changed) (hrules : changed.alertRules = db.alertRules)
    (hstates : changed.alertRuleStates = db.alertRuleStates)
    (hevents : ∀ j ≠ rule.id, eventsOf j changed = eventsOf j db)
    (hagrees : nextState = .active ↔ (changed.alertEvents.active rule.id).isSome = true)
    (hpending : nextState ≠ .pending) :
    Settled rule.id db (Block.execute f >>= fun _ ↦
      AlertEngine.updateState sample rule nextState since extreme) := by
  have hstate : ∃ db', (AlertEngine.updateState sample rule nextState since extreme).eval changed =
      .ok ((), db') ∧ Agreement db' ∧ OthersKept rule.id db db' :=
    h.updateState hknown hrules hstates hevents hagrees fun heq ↦ absurd heq hpending
  obtain ⟨db', heval, hagreement, hothers⟩ := hstate
  refine ⟨db', ?_, hagreement, hothers⟩
  rw [Block.eval_execute_bind, hchanged]
  exact heval

theorem eventsOf_createEvent {startedAt activatedAt : Instant} {value extreme : ℚ}
    {created : Database}
    (h : AlertRepository.createEvent rule startedAt activatedAt value extreme db = .ok created)
    (hk : k ≠ rule.id) : eventsOf k created = eventsOf k db := by
  obtain ⟨-, id, hrows⟩ := createEvent_eq_ok h
  rw [eventsOf, hrows, List.filter_append, eventsOf]
  have hother : (newEvent rule startedAt activatedAt value extreme id).ruleId ≠ k := Ne.symm hk
  simp [hother]

/-- The event that is created is the only active one. -/
theorem Agreement.createEvent (h : Agreement db) (startedAt activatedAt : Instant)
    (value extreme : ℚ) (hknown : ∃ r ∈ db.alertRules.rows, r.id = rule.id)
    (hnone : db.alertEvents.active rule.id = none) :
    Settled rule.id db (Block.execute (AlertRepository.createEvent rule startedAt activatedAt value
      extreme) >>= fun _ ↦ AlertEngine.updateState sample rule .active none none) := by
  have hfound : (db.alertRules.find rule.id).isSome = true := by
    obtain ⟨r, hr, hid⟩ := hknown
    rw [(Table.find_eq_some_iff _ _ _).mpr ⟨hr, hid⟩]
    rfl
  obtain ⟨created, hcreated⟩ : ∃ created, AlertRepository.createEvent rule startedAt activatedAt
      value extreme db = .ok created := ⟨_, dif_pos ⟨hfound, hnone⟩⟩
  have hactive := active_createEvent hcreated
  apply h.settled hknown hcreated
  · rw [AlertRepository.createEvent, dif_pos ⟨hfound, hnone⟩] at hcreated
    cases hcreated
    rfl
  · exact (createEvent_eq_ok hcreated).1
  · intro j hj
    exact eventsOf_createEvent hcreated hj
  · rw [hactive, if_pos rfl]
    simp
  · simp

/-- An event belongs to one rule. -/
theorem id_ne_of_eventsOf {event : AlertEvent}
    (hevent : ∃ e ∈ db.alertEvents.rows, e.id = event.id ∧ e.ruleId = rule.id)
    (hk : k ≠ rule.id) {e : AlertEvent} (he : e ∈ eventsOf k db) : e.id ≠ event.id := by
  intro hid
  obtain ⟨e', he', hid', hrule'⟩ := hevent
  obtain ⟨hmem, hrule⟩ := List.mem_filter.mp he
  rw [beq_iff_eq] at hrule
  have heq : e = e' :=
    Table.eq_of_key (t := db.alertEvents.toTable) hmem he' (hid.trans hid'.symm)
  exact hk (hrule.symm.trans (heq ▸ hrule'))

theorem eventsOf_updateActiveEvent {event : AlertEvent} {value extreme : ℚ} {changed : Database}
    (hevent : ∃ e ∈ db.alertEvents.rows, e.id = event.id ∧ e.ruleId = rule.id)
    (h : updateActiveEvent event.id value extreme db = .ok changed) (hk : k ≠ rule.id) :
    eventsOf k changed = eventsOf k db := by
  cases h
  apply eventsOf_update_of_not
  intro e he
  simp [id_ne_of_eventsOf hevent hk he]

theorem eventsOf_resolveActiveEvent {event : AlertEvent} {resolvedAt : Instant} {value : ℚ}
    {reason : ResolutionReason} {changed : Database}
    (hevent : ∃ e ∈ db.alertEvents.rows, e.id = event.id ∧ e.ruleId = rule.id)
    (h : resolveActiveEvent event.id resolvedAt value reason db = .ok changed)
    (hk : k ≠ rule.id) : eventsOf k changed = eventsOf k db := by
  cases h
  apply eventsOf_update_of_not
  intro e he
  simp [id_ne_of_eventsOf hevent hk he]

theorem isSome_active_updateActiveEvent {event : AlertEvent} {value extreme : ℚ}
    {changed : Database} (h : updateActiveEvent event.id value extreme db = .ok changed) :
    (changed.alertEvents.active k).isSome = (db.alertEvents.active k).isSome := by
  cases h
  dsimp only
  rw [AlertEvents.active_update]
  cases hactive : db.alertEvents.active k with
  | none => rfl
  | some e =>
    obtain ⟨-, -, hstatus⟩ := (AlertEvents.active_eq_some_iff _ _ _).mp hactive
    rw [Option.map_some]
    split
    · simp [hstatus]
    · simp [hstatus]

theorem active_resolveActiveEvent {event : AlertEvent} {resolvedAt : Instant} {value : ℚ}
    {reason : ResolutionReason} {changed : Database}
    (hactive : ∀ e ∈ db.alertEvents.active k, e.id = event.id)
    (h : resolveActiveEvent event.id resolvedAt value reason db = .ok changed) :
    changed.alertEvents.active k = none := by
  cases h
  dsimp only
  rw [AlertEvents.active_update]
  cases hopen : db.alertEvents.active k with
  | none => rfl
  | some e =>
    obtain ⟨-, -, hstatus⟩ := (AlertEvents.active_eq_some_iff _ _ _).mp hopen
    simp [hactive e hopen, hstatus]

/-- An active rule and its event, which may have been resolved when the sample lets it recover. -/
theorem Agreement.evaluateActive (h : Agreement db) {event : AlertEvent}
    (hknown : ∃ r ∈ db.alertRules.rows, r.id = rule.id)
    (hevent : ∃ e ∈ db.alertEvents.rows, e.id = event.id ∧ e.ruleId = rule.id)
    (hactive : db.alertEvents.active rule.id = some event ∨
      db.alertEvents.active rule.id = none ∧ isRecovery (AlertEngine.ruleCondition rule)
        (telemetryMetricValue sample rule.metric) = true) :
    Settled rule.id db (AlertEngine.evaluateActive sample rule (some event)) := by
  rw [AlertEngine.evaluateActive]
  split
  · have hopen : ∀ e ∈ db.alertEvents.active rule.id, e.id = event.id := by
      intro e he
      rcases hactive with hsome | ⟨hnone, -⟩
      · rw [hsome] at he
        cases he
        rfl
      · rw [hnone] at he
        cases he
    obtain ⟨changed, hchanged⟩ : ∃ changed, resolveActiveEvent event.id sample.timestamp
        (telemetryMetricValue sample rule.metric) .conditionRecovered db = .ok changed := ⟨_, rfl⟩
    apply h.settled hknown hchanged
    · cases hchanged
      rfl
    · cases hchanged
      rfl
    · exact fun j hj ↦ eventsOf_resolveActiveEvent hevent hchanged hj
    · rw [active_resolveActiveEvent hopen hchanged]
      simp
    · simp
  next hrecovery =>
    rcases hactive with hsome | ⟨-, hrecovers⟩
    · obtain ⟨changed, hchanged⟩ : ∃ changed, updateActiveEvent event.id
          (telemetryMetricValue sample rule.metric)
          (updateExtreme rule.operator event.extremeValue
            (telemetryMetricValue sample rule.metric)) db = .ok changed := ⟨_, rfl⟩
      apply h.settled hknown hchanged
      · cases hchanged
        rfl
      · cases hchanged
        rfl
      · exact fun j hj ↦ eventsOf_updateActiveEvent hevent hchanged hj
      · rw [isSome_active_updateActiveEvent hchanged, hsome]
        simp
      · simp
    · exact absurd hrecovers hrecovery

/-- A rule as the evaluation has read it, and the database on which it is evaluated. -/
structure Fits (sample : Sample) (rule : RuleRow) (db : Database) : Prop where
  known : ∃ r ∈ db.alertRules.rows, r.id = rule.id
  agrees : Skips sample rule ∨
    (rule.runtimeState = .active ↔ (db.alertEvents.active rule.id).isSome = true)
  pending : rule.runtimeState = .pending →
    rule.pendingSince.isSome = true ∧ rule.pendingExtremeValue.isSome = true

theorem evaluateRule_of_skips (h : Skips sample rule) :
    AlertEngine.evaluateRule sample rule = .done () := by
  rw [AlertEngine.evaluateRule]
  by_cases hid : rule.lastTelemetryId = some sample.id
  · rw [if_pos hid]
    rfl
  · rw [if_neg hid, if_pos (h.resolve_left hid)]
    rfl

theorem evaluateRule_of_active (h : ¬Skips sample rule) (hstate : rule.runtimeState = .active) :
    AlertEngine.evaluateRule sample rule =
      Block.select (fetchActiveEvent rule.id) >>= AlertEngine.evaluateActive sample rule := by
  rw [AlertEngine.evaluateRule, if_neg (fun hid ↦ h (.inl hid)),
    if_neg (fun hlate ↦ h (.inr hlate)), hstate]

/-- A rule that is not active begins with a statement. -/
theorem starts_evaluateRule (h : ¬Skips sample rule) (hstate : rule.runtimeState ≠ .active)
    (hpending : rule.runtimeState = .pending →
      rule.pendingSince.isSome = true ∧ rule.pendingExtremeValue.isSome = true) :
    (AlertEngine.evaluateRule sample rule).Starts := by
  rw [AlertEngine.evaluateRule, if_neg (fun hid ↦ h (.inl hid)),
    if_neg (fun hlate ↦ h (.inr hlate))]
  cases hnow : rule.runtimeState with
  | normal =>
    dsimp only
    split
    · trivial
    · split
      · trivial
      · trivial
  | pending =>
    obtain ⟨hsince, hextreme⟩ := hpending hnow
    obtain ⟨since, hsince⟩ := Option.isSome_iff_exists.mp hsince
    obtain ⟨extreme, hextreme⟩ := Option.isSome_iff_exists.mp hextreme
    have hfirst : (rule.pendingExtremeValue <|> rule.lastValue) = some extreme := by
      rw [hextreme]
      rfl
    simp only [hsince, hfirst]
    split
    · trivial
    · split
      · trivial
      · trivial
  | active => exact absurd hnow hstate

/-- A rule that fits the database is evaluated without an exception. -/
theorem Agreement.evaluateRule (h : Agreement db) (hfits : Fits sample rule db) :
    Settled rule.id db (AlertEngine.evaluateRule sample rule) := by
  by_cases hskip : Skips sample rule
  · rw [evaluateRule_of_skips hskip]
    exact ⟨db, rfl, h, .refl _ _⟩
  have hagrees := hfits.agrees.resolve_left hskip
  have hnone (hstate : rule.runtimeState ≠ .active) : db.alertEvents.active rule.id = none := by
    by_contra hsome
    exact hstate (hagrees.mpr (Option.isSome_iff_ne_none.mpr hsome))
  have hset {nextState : RuleRuntimeState} {since : Option Instant} {extreme : Option ℚ}
      (hstate : rule.runtimeState ≠ .active) (hnext : nextState ≠ .active)
      (hpending : nextState = .pending → since.isSome = true ∧ extreme.isSome = true) :
      Settled rule.id db (AlertEngine.updateState sample rule nextState since extreme) := by
    apply h.updateState hfits.known rfl rfl
    · exact fun _ _ ↦ rfl
    · rw [hnone hstate]
      simp [hnext]
    · exact hpending
  cases hstate : rule.runtimeState with
  | active =>
    obtain ⟨event, hevent⟩ := Option.isSome_iff_exists.mp (hagrees.mp hstate)
    obtain ⟨hmem, hrule, -⟩ := (AlertEvents.active_eq_some_iff _ _ _).mp hevent
    rw [evaluateRule_of_active hskip hstate]
    have hsettled : Settled rule.id db (AlertEngine.evaluateActive sample rule (some event)) :=
      h.evaluateActive hfits.known ⟨event, hmem, rfl, hrule⟩ (.inl hevent)
    obtain ⟨db', heval, hkept⟩ := hsettled
    refine ⟨db', ?_, hkept⟩
    rw [Block.eval_bind, Block.eval_select, fetchActiveEvent, hevent]
    exact heval
  | normal =>
    have hne : rule.runtimeState ≠ .active := by simp [hstate]
    rw [AlertEngine.evaluateRule, if_neg (fun hid ↦ hskip (.inl hid)),
      if_neg (fun hlate ↦ hskip (.inr hlate)), hstate]
    dsimp only
    split
    · exact h.createEvent _ _ _ _ hfits.known (hnone hne)
    · split
      · exact hset hne (by simp) fun _ ↦ ⟨rfl, rfl⟩
      · exact hset hne (by simp) nofun
  | pending =>
    have hne : rule.runtimeState ≠ .active := by simp [hstate]
    obtain ⟨hsince, hextreme⟩ := hfits.pending hstate
    obtain ⟨since, hsince⟩ := Option.isSome_iff_exists.mp hsince
    obtain ⟨extreme, hextreme⟩ := Option.isSome_iff_exists.mp hextreme
    have hfirst : (rule.pendingExtremeValue <|> rule.lastValue) = some extreme := by
      rw [hextreme]
      rfl
    rw [AlertEngine.evaluateRule, if_neg (fun hid ↦ hskip (.inl hid)),
      if_neg (fun hlate ↦ hskip (.inr hlate)), hstate]
    simp only [hsince, hfirst]
    split
    · exact hset hne (by simp) nofun
    · split
      · exact h.createEvent _ _ _ _ hfits.known (hnone hne)
      · exact hset hne (by simp) fun _ ↦ ⟨rfl, rfl⟩

/-! ### All rules of a device -/

/-- The other rules fit the database still. -/
theorem Fits.of_others (h : Fits sample rule db) (hothers : OthersKept k db db')
    (hne : rule.id ≠ k) : Fits sample rule db' := by
  obtain ⟨hrules, hsame⟩ := hothers
  constructor
  · rw [hrules]
    exact h.known
  · rw [(hsame rule.id hne).active]
    exact h.agrees
  · exact h.pending

variable {rules : List RuleRow}

/-- One rule after another. -/
theorem Settled.then {b : Block Database PyError Unit} (hb : Settled k db b)
    (hfresh : k ∉ rules.map (·.id)) (hfits : ∀ rule ∈ rules, Fits sample rule db)
    (hrest : ∀ db', Agreement db' → (∀ rule ∈ rules, Fits sample rule db') →
      ∃ db'', (AlertEngine.evaluateRules sample rules).eval db' = .ok ((), db'') ∧
        Agreement db'') :
    ∃ db', (b >>= fun _ ↦ AlertEngine.evaluateRules sample rules).eval db = .ok ((), db') ∧
      Agreement db' := by
  obtain ⟨db', heval, hdb', hothers⟩ := hb
  rw [Block.eval_bind, heval]
  apply hrest db' hdb'
  intro rule hrule
  apply (hfits rule hrule).of_others hothers
  intro hid
  exact hfresh (hid ▸ List.mem_map_of_mem hrule)

/-- Alone, the rules that fit the database are evaluated without an exception. -/
theorem Agreement.evaluateRules (h : Agreement db) (hids : (rules.map (·.id)).Nodup)
    (hfits : ∀ rule ∈ rules, Fits sample rule db) :
    ∃ db', (AlertEngine.evaluateRules sample rules).eval db = .ok ((), db') ∧ Agreement db' := by
  induction rules generalizing db with
  | nil => exact ⟨db, rfl, h⟩
  | cons rule rules ih =>
    rw [List.map_cons, List.nodup_cons] at hids
    apply (h.evaluateRule (hfits rule List.mem_cons_self)).then hids.1
    · exact fun other hother ↦ hfits other (List.mem_cons_of_mem rule hother)
    · exact fun db' hdb' hfits' ↦ ih hdb' hids.2 hfits'

/-- The rule and the state that a row was read from. -/
theorem mem_fetchEnabledRules {deviceId : Text}
    (h : rule ∈ fetchEnabledRulesForDevice deviceId db) :
    rule.toAlertRule ∈ db.alertRules.rows ∧
      ∃ state, db.alertRuleStates.find rule.id = some state ∧
        rule = ruleRow rule.toAlertRule state := by
  rw [fetchEnabledRulesForDevice, List.mem_insertionSort, List.mem_filter] at h
  obtain ⟨r, hr, hrow⟩ := List.mem_filterMap.mp h.1
  obtain ⟨state, hstate, rfl⟩ := Option.map_eq_some_iff.mp hrow
  exact ⟨hr, state, hstate, rfl⟩

variable {read : Database} {seen : List Database}

/-- A rule that was read fits a later database, when it is not active or still is. -/
theorem Follows.fits (hread : Agreement read) (hfollows : Follows read db) (hdb : Agreement db)
    (hrule : rule ∈ fetchEnabledRulesForDevice sample.deviceId read)
    (hactive : rule.runtimeState = .active → Skips sample rule ∨
      ∃ state ∈ db.alertRuleStates.find rule.id, state.state = .active) : Fits sample rule db := by
  obtain ⟨hmem, state, hstate, hrow⟩ := mem_fetchEnabledRules hrule
  have hruntime : rule.runtimeState = state.state := congrArg RuleRow.runtimeState hrow
  constructor
  · obtain ⟨rule', hrule', hid⟩ := hfollows.kept rule.toAlertRule hmem
    exact ⟨rule', hrule', hid⟩
  · by_cases hnow : rule.runtimeState = .active
    · rcases hactive hnow with hskip | ⟨state', hstate', hactive'⟩
      · exact .inl hskip
      · right
        simp [hnow, (hdb.agrees rule.id state' hstate').mp hactive']
    · right
      have hnone : read.alertEvents.active rule.id = none := by
        by_contra hsome
        apply hnow
        rw [hruntime, hread.agrees rule.id state hstate]
        exact Option.isSome_iff_ne_none.mpr hsome
      have hnone' : db.alertEvents.active rule.id = none := by
        rcases hfollows.rules rule.id with hsame | hfresh
        · exact hsame.active.trans hnone
        · exact hfresh.2
      simp [hnow, hnone']
  · intro hpending
    rw [congrArg RuleRow.pendingSince hrow, congrArg RuleRow.pendingExtremeValue hrow]
    exact hread.pending rule.id state hstate (hruntime.symm.trans hpending)

/-! ### Evaluations among requests -/

/-- What holds whenever an evaluation that has read the databases `seen` goes on. -/
def Assumed (sample : Sample) (seen : List Database) (db : Database) : Prop :=
  Agreement db ∧ (∀ read ∈ seen, Follows read db) ∧ StillActive sample seen db

/-- Before its first statement the evaluation has read the rules only. -/
theorem Assumed.fits (h : Assumed sample [read] db) (hread : Agreement read)
    (hrule : rule ∈ fetchEnabledRulesForDevice sample.deviceId read) : Fits sample rule db := by
  obtain ⟨hdb, hfollows, hstill⟩ := h
  apply (hfollows read (List.mem_singleton_self read)).fits hread hdb hrule
  intro hactive
  rcases hstill read rfl rule hrule hactive with hskip | hrecovers | hstate
  · exact .inl hskip
  · exact absurd hrecovers.1 (lt_irrefl 1)
  · exact .inr hstate

theorem starts_evaluateActive (event : AlertEvent) :
    (AlertEngine.evaluateActive sample rule (some event)).Starts := by
  rw [AlertEngine.evaluateActive]
  split
  · trivial
  · trivial

/-- The first rule that is not skipped is the only one that may have recovered. -/
theorem eq_of_recovers {before : List RuleRow} {other : RuleRow}
    (hbefore : ∀ r ∈ before, Skips sample r) (hskip : ¬Skips sample rule)
    (h : Recovers sample seen (before ++ rule :: rules) other) : other.id = rule.id := by
  have hfirst : (before ++ rule :: rules).find? (fun r ↦ !decide (Skips sample r)) = some rule := by
    have hnone : before.find? (fun r ↦ !decide (Skips sample r)) = none := by
      apply List.find?_eq_none.mpr
      intro r hr
      simp [hbefore r hr]
    rw [List.find?_append, hnone]
    simp [hskip]
  have hid := h.2.1
  rw [hfirst] at hid
  exact (Option.some.inj hid).symm

/-- The event of an active rule, when the evaluation writes after it has read that. -/
theorem Assumed.evaluateActive {event : AlertEvent} {d : Database}
    (hrule : rule ∈ fetchEnabledRulesForDevice sample.deviceId read)
    (hskip : ¬Skips sample rule) (hstate : rule.runtimeState = .active)
    (hevent : d.alertEvents.active rule.id = some event) (h : Assumed sample [d, read] db) :
    Settled rule.id db (AlertEngine.evaluateActive sample rule (some event)) := by
  obtain ⟨hdb, hfollows, hstill⟩ := h
  have hfirst : Follows d db := hfollows d List.mem_cons_self
  obtain ⟨hmem, hid, -⟩ := (AlertEvents.active_eq_some_iff _ _ _).mp hevent
  apply hdb.evaluateActive
  · have hsecond : Follows read db := hfollows read (List.mem_cons_of_mem d List.mem_cons_self)
    obtain ⟨rule', hrule', hid'⟩ := hsecond.kept rule.toAlertRule (mem_fetchEnabledRules hrule).1
    exact ⟨rule', hrule', hid'⟩
  · obtain ⟨e, he, heid, herule⟩ := hfirst.events event hmem
    exact ⟨e, he, heid, herule.trans hid⟩
  · rcases hfirst.rules rule.id with hsame | hfresh
    · exact .inl (hsame.active.trans hevent)
    · right
      refine ⟨hfresh.2, ?_⟩
      rcases hstill read rfl rule hrule hstate with hskips | hrecovers | ⟨state, hfind, hactive⟩
      · exact absurd hskips hskip
      · exact hrecovers.2.2
      · rw [hfresh.1] at hfind
        cases hfind
        cases hactive

section

variable {before : List RuleRow}

/-- The rules that were read are distinct. -/
theorem nodup_of_split
    (hsplit : fetchEnabledRulesForDevice sample.deviceId read = before ++ rules) :
    (rules.map (·.id)).Nodup := by
  have hids := (fetchEnabledRules_current sample.deviceId read).1
  rw [hsplit, List.map_append] at hids
  exact (List.nodup_append.mp hids).2.1

/-- The first rule that is not skipped is active, and its event has been read: it and the others
are then evaluated without an exception. -/
theorem Assumed.evaluateActive_then {event : AlertEvent} {d : Database} (hread : Agreement read)
    (hsplit : fetchEnabledRulesForDevice sample.deviceId read = before ++ rule :: rules)
    (hbefore : ∀ r ∈ before, Skips sample r) (hskip : ¬Skips sample rule)
    (hstate : rule.runtimeState = .active)
    (hevent : d.alertEvents.active rule.id = some event) (h : Assumed sample [d, read] db) :
    ∃ db', (AlertEngine.evaluateActive sample rule (some event) >>= fun _ ↦
      AlertEngine.evaluateRules sample rules).eval db = .ok ((), db') ∧ Agreement db' := by
  have hmem : ∀ other ∈ rule :: rules,
      other ∈ fetchEnabledRulesForDevice sample.deviceId read := by
    intro other hother
    rw [hsplit]
    exact List.mem_append_right before hother
  have hids := nodup_of_split hsplit
  rw [List.map_cons, List.nodup_cons] at hids
  apply (h.evaluateActive (hmem rule List.mem_cons_self) hskip hstate hevent).then hids.1
  · intro other hother
    have hother' := hmem other (List.mem_cons_of_mem rule hother)
    have hfollows : Follows read db := h.2.1 read (List.mem_cons_of_mem d List.mem_cons_self)
    apply hfollows.fits hread h.1 hother'
    intro hactive
    rcases h.2.2 read rfl other hother' hactive with hskips | hrecovers | hstill
    · exact .inl hskips
    · rw [hsplit] at hrecovers
      have hid := eq_of_recovers hbefore hskip hrecovers
      exact absurd (hid ▸ List.mem_map_of_mem hother) hids.1
    · exact .inr hstill
  · exact fun db' hdb' hfits' ↦ hdb'.evaluateRules hids.2 hfits'

/-- An evaluation keeps the agreement and raises nothing, whatever requests do between its
reads and its statements. -/
theorem evaluateRules_safe (hread : Agreement read)
    (hsplit : fetchEnabledRulesForDevice sample.deviceId read = before ++ rules)
    (hbefore : ∀ r ∈ before, Skips sample r) :
    (AlertEngine.evaluateRules sample rules).Safe (Assumed sample) (fun _ db' ↦ Agreement db')
      (fun _ r ↦ ∀ e, r = .error e → False) [read] := by
  induction rules generalizing before with
  | nil => exact nofun
  | cons rule rules ih =>
    have hmem : ∀ other ∈ rule :: rules,
        other ∈ fetchEnabledRulesForDevice sample.deviceId read := by
      intro other hother
      rw [hsplit]
      exact List.mem_append_right before hother
    change (AlertEngine.evaluateRule sample rule >>= fun _ ↦
      AlertEngine.evaluateRules sample rules).Safe _ _ _ _
    by_cases hskip : Skips sample rule
    · have hsplit' : fetchEnabledRulesForDevice sample.deviceId read =
          (before ++ [rule]) ++ rules := by
        rw [hsplit, List.append_assoc, List.singleton_append]
      rw [evaluateRule_of_skips hskip]
      apply ih hsplit'
      · intro r hr
        rcases List.mem_append.mp hr with hold | hnew
        · exact hbefore r hold
        · rw [List.mem_singleton.mp hnew]
          exact hskip
    by_cases hstate : rule.runtimeState = .active
    · rw [evaluateRule_of_active hskip hstate]
      intro d hd
      -- requests may still come between this query and the first statement
      have hfits := hd.fits hread (hmem rule List.mem_cons_self)
      obtain ⟨event, hevent⟩ :=
        Option.isSome_iff_exists.mp ((hfits.agrees.resolve_left hskip).mp hstate)
      change ((AlertEngine.evaluateActive sample rule (d.alertEvents.active rule.id)) >>= fun _ ↦
        AlertEngine.evaluateRules sample rules).Safe _ _ _ _
      rw [hevent]
      apply ((starts_evaluateActive event).bind _).safe
      intro db hdb
      obtain ⟨db', heval, hdb'⟩ :=
        hdb.evaluateActive_then hread hsplit hbefore hskip hstate hevent
      rw [heval]
      exact ⟨hdb', nofun⟩
    · have hstarts : (AlertEngine.evaluateRule sample rule).Starts := by
        apply starts_evaluateRule hskip hstate
        intro hpending
        obtain ⟨-, state, hfind, hrow⟩ := mem_fetchEnabledRules (hmem rule List.mem_cons_self)
        rw [congrArg RuleRow.pendingSince hrow, congrArg RuleRow.pendingExtremeValue hrow]
        apply hread.pending rule.id state hfind
        exact (congrArg RuleRow.runtimeState hrow).symm.trans hpending
      apply (hstarts.bind _).safe
      intro db hdb
      have hends : ∃ db', (AlertEngine.evaluateRule sample rule >>= fun _ ↦
          AlertEngine.evaluateRules sample rules).eval db = .ok ((), db') ∧ Agreement db' :=
        hdb.1.evaluateRules (nodup_of_split hsplit) fun other hother ↦
          hdb.fits hread (hmem other hother)
      obtain ⟨db', heval, hdb'⟩ := hends
      rw [heval]
      exact ⟨hdb', nofun⟩

end

end

/-! ### Whole runs -/

/-- What the collector and the requests rely on: rules that were read as active still are. -/
def agreeingRules : System.Rules AlertEngine.evaluate RuleRequest.session where
  inv := Agreement
  rely := Follows
  worker := StillActive
  client _ _ _ := True
  allowed _ := False
  rely_refl db _ := .refl db
  work_safe sample := by
    apply Session.safe_withConnection
    intro read hread
    have hsafe : (AlertEngine.evaluateRules sample (fetchEnabledRulesForDevice sample.deviceId
        read)).Safe (Assumed sample) (fun _ db' ↦ Agreement db')
          (fun _ r ↦ ∀ e, r = .error e → False) [read] :=
      evaluateRules_safe hread.1 (List.nil_append _).symm (List.forall_mem_nil _)
    exact hsafe
  serve_safe r := by
    apply r.safe
    intro seen db db' hdb hcommits
    have hfollows := hcommits.follows hdb.1
    exact ⟨hdb.1.follows hfollows, fun read hread ↦ hread.trans hfollows⟩

/-- The state of every rule is active if and only if exactly one of its events is. -/
def AlertsAgree (db : Database) : Prop :=
  ∀ rule ∈ db.alertRules.rows, ∃ state ∈ db.alertRuleStates.find rule.id,
    (state.state = .active ↔
      (db.alertEvents.rows.filter (·.activeFor rule.id)).length = 1)

theorem Agreement.alertsAgree {db : Database} (h : Agreement db) : AlertsAgree db := by
  intro rule hrule
  obtain ⟨state, hstate⟩ := Option.isSome_iff_exists.mp (h.stated rule hrule)
  refine ⟨state, hstate, ?_⟩
  rw [h.agrees rule.id state hstate]
  exact AlertEvents.active_isSome_iff _ _

theorem agreement_withoutRules (db : Database) : Agreement (withoutRules db) := by
  constructor
  · intro rule hrule
    cases hrule
  · intro e he
    cases he
  · intro k state hstate
    cases hstate
  · intro k state hstate
    cases hstate

/-- In a run in which the rules that an evaluation has read as active stay so, states and events
agree after every step, and no evaluation ends in an exception. -/
theorem alerts_agree (db : Database) (events : List (SystemEvent Sample RuleRequest))
    (hactive : alertSystem.Along (System.Meets StillActive fun _ _ _ ↦ True)
      ⟨withoutRules db, none, []⟩ events) :
    alertSystem.Along (fun s event ↦ AlertsAgree (alertSystem.step s event).1.database ∧
      (alertSystem.step s event).2 = none) ⟨withoutRules db, none, []⟩ events := by
  have hstart := agreement_withoutRules db
  have hquiet (s : System Database PyError Sample RuleRequest)
      (event : SystemEvent Sample RuleRequest) (hsound : System.Sound agreeingRules s)
      (hmeets : System.Meets StillActive (fun _ _ _ ↦ True) s event) :
      AlertsAgree (alertSystem.step s event).1.database ∧ (alertSystem.step s event).2 = none := by
    have hstep : System.Sound agreeingRules (alertSystem.step s event).1 :=
      System.sound_step hsound hmeets
    constructor
    · exact hstep.inv.alertsAgree
    · by_contra hsome
      obtain ⟨e, he⟩ := Option.ne_none_iff_exists'.mp hsome
      exact System.allowed_of_sound hsound event e he
  exact alertSystem.along_of_invariant (fun _ _ ↦ System.sound_step) hquiet
    (System.sound_idle agreeingRules hstart) hactive

/-- A second sample above the threshold. -/
def warmerSample : Sample := ⟨2, Text.ofString "pump-1", 3000000, 31, 50⟩

/-- The rule alerts, and the collector is idle again. -/
def ruleAlerted : List (SystemEvent Sample RuleRequest) := ruleRead ++ [.work, .work]

/-- The threshold of the rule is changed, in one go. -/
def changedAtOnce : List (SystemEvent Sample RuleRequest) :=
  [.request (.update 1 { AlertRulePatch.empty with threshold := some 20 } 2000000), .serve 1,
    .serve 1, .serve 1]

/-- The rule is changed between two evaluations. -/
theorem alerts_agree_sample :
    alertSystem.Along (fun s event ↦ AlertsAgree (alertSystem.step s event).1.database ∧
      (alertSystem.step s event).2 = none) ⟨withoutRules sampleRegistry, none, []⟩
      (ruleAlerted ++ changedAtOnce ++ [.job warmerSample, .work, .work]) := by
  apply alerts_agree
  decide +kernel

/-- The rule is changed after the evaluation has read its event. -/
def changedBetween : List (SystemEvent Sample RuleRequest) :=
  ruleAlerted ++ [.job warmerSample, .work, .work] ++ changedAtOnce ++ [.work]

/-- The rule is left active without an active event, and its next evaluation raises. -/
theorem alerts_agree_fails :
    (¬ ∀ (db : Database) (events : List (SystemEvent Sample RuleRequest)),
      AlertsAgree (alertSystem.run ⟨withoutRules db, none, []⟩ events).database) ∧
    (alertSystem.step (alertSystem.run ⟨withoutRules sampleRegistry, none, []⟩
      (changedBetween ++ [.work, .job ⟨3, Text.ofString "pump-1", 4000000, 30, 50⟩, .work, .work,
        .work])) .work).2 = some (.runtimeError 1) := by
  have hrule : (alertSystem.run ⟨withoutRules sampleRegistry, none, []⟩
      changedBetween).database.alertRules.rows.map (·.id) = [1] := by decide +kernel
  have hstate : ((alertSystem.run ⟨withoutRules sampleRegistry, none, []⟩
      changedBetween).database.alertRuleStates.find 1).map (·.state) = some .active := by
    decide +kernel
  have hevents : ((alertSystem.run ⟨withoutRules sampleRegistry, none, []⟩
      changedBetween).database.alertEvents.rows.filter (·.activeFor 1)).length = 0 := by
    decide +kernel
  constructor
  · intro h
    obtain ⟨rule, hmem, hid⟩ := List.mem_map.mp (hrule ▸ List.mem_singleton_self 1)
    obtain ⟨state, hfind, hagrees⟩ := h sampleRegistry changedBetween rule hmem
    rw [hid] at hfind hagrees
    rw [Option.mem_def.mp hfind] at hstate
    have hlength := hagrees.mp (Option.some.inj hstate)
    rw [hevents] at hlength
    cases hlength
  · decide +kernel

end EdgeMonitor.Backend
