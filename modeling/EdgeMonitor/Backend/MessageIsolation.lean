import EdgeMonitor.Backend.AlertIntervals
import EdgeMonitor.Backend.Subscriber

/-!
# Isolation of messages

Library `Backend`. A message that is stored for a device inserts and changes rows of this device
only, those of its alert rules included.
-/

namespace EdgeMonitor.Backend
open EdgeMonitor.Base
open AlertRepository

/-- Rows that are not in both lists are of a kind. -/
def DiffersIn {α : Type} (kind : α → Prop) (rows rows' : List α) : Prop :=
  (∀ a ∈ rows', a ∈ rows ∨ kind a) ∧ ∀ a ∈ rows, a ∈ rows' ∨ kind a

namespace DiffersIn

variable {α : Type} {kind kind' : α → Prop} {rows rows' rows'' : List α}

theorem refl (kind : α → Prop) (rows : List α) : DiffersIn kind rows rows :=
  ⟨fun _ ha ↦ .inl ha, fun _ ha ↦ .inl ha⟩

theorem trans (h : DiffersIn kind rows rows') (h' : DiffersIn kind rows' rows'') :
    DiffersIn kind rows rows'' := by
  constructor
  · intro a ha
    rcases h'.1 a ha with hold | hkind
    · exact h.1 a hold
    · exact .inr hkind
  · intro a ha
    rcases h.2 a ha with hnew | hkind
    · exact h'.2 a hnew
    · exact .inr hkind

theorem mono (h : DiffersIn kind rows rows') (hkind : ∀ a, kind a → kind' a) :
    DiffersIn kind' rows rows' :=
  ⟨fun a ha ↦ (h.1 a ha).imp_right (hkind a), fun a ha ↦ (h.2 a ha).imp_right (hkind a)⟩

/-- A row is appended. -/
theorem append {a : α} (ha : kind a) : DiffersIn kind rows (rows ++ [a]) := by
  constructor
  · intro b hb
    rcases List.mem_append.mp hb with hold | hnew
    · exact .inl hold
    · exact .inr (List.mem_singleton.mp hnew ▸ ha)
  · exact fun b hb ↦ .inl (List.mem_append_left _ hb)

/-- Rows that meet a condition are changed. -/
theorem update {p : α → Bool} {f : α → α}
    (h : ∀ a ∈ rows, p a = true → kind a ∧ kind (f a)) :
    DiffersIn kind rows (rows.map fun a ↦ if p a then f a else a) := by
  constructor
  · intro b hb
    obtain ⟨a, ha, rfl⟩ := List.mem_map.mp hb
    by_cases hp : p a = true
    · rw [if_pos hp]
      exact .inr (h a ha hp).2
    · rw [if_neg hp]
      exact .inl ha
  · intro a ha
    by_cases hp : p a = true
    · exact .inr (h a ha hp).1
    · refine .inl (List.mem_map.mpr ⟨a, ha, ?_⟩)
      rw [if_neg hp]

end DiffersIn

/-- One row is set under its key. -/
theorem SetsRow.differsIn {α : Type} {key : α → Text} {t t' : Table key} {k : Text} {row : α}
    (h : SetsRow t t' k row) : DiffersIn (fun a ↦ key a = k) t.rows t'.rows := by
  have hother {a : α} (hk : key a ≠ k) : a ∈ t'.rows ↔ a ∈ t.rows := by
    have hfind := h.2 (key a) hk
    constructor
    · intro ha
      have hfound := (Table.find_eq_some_iff t' (key a) a).mpr ⟨ha, rfl⟩
      rw [hfind] at hfound
      exact ((Table.find_eq_some_iff t (key a) a).mp hfound).1
    · intro ha
      have hfound := (Table.find_eq_some_iff t (key a) a).mpr ⟨ha, rfl⟩
      rw [← hfind] at hfound
      exact ((Table.find_eq_some_iff t' (key a) a).mp hfound).1
  constructor
  · intro a ha
    by_cases hk : key a = k
    · exact .inr hk
    · exact .inl ((hother hk).mp ha)
  · intro a ha
    by_cases hk : key a = k
    · exact .inr hk
    · exact .inl ((hother hk).mpr ha)

/-! ### Alerts -/

/-- The states and the events of some rules are inserted and changed only. -/
structure Touches (ruleIds : Nat → Prop) (db db' : Database) : Prop where
  rules : db'.alertRules = db.alertRules
  states : DiffersIn (fun s ↦ ruleIds s.ruleId) db.alertRuleStates.rows db'.alertRuleStates.rows
  events : DiffersIn (fun e ↦ ruleIds e.ruleId) db.alertEvents.rows db'.alertEvents.rows

section

variable {db db' db'' changed : Database} {sample : Sample} {rule : RuleRow}
  {ruleIds : Nat → Prop}

theorem Touches.refl (ruleIds : Nat → Prop) (db : Database) : Touches ruleIds db db :=
  ⟨rfl, .refl _ _, .refl _ _⟩

theorem Touches.trans (h : Touches ruleIds db db') (h' : Touches ruleIds db' db'') :
    Touches ruleIds db db'' :=
  ⟨h'.rules.trans h.rules, h.states.trans h'.states, h.events.trans h'.events⟩

theorem Touches.mono {ruleIds' : Nat → Prop} (h : Touches ruleIds db db')
    (hids : ∀ k, ruleIds k → ruleIds' k) : Touches ruleIds' db db' :=
  ⟨h.rules, h.states.mono fun s ↦ hids s.ruleId, h.events.mono fun e ↦ hids e.ruleId⟩

/-- The state of one rule is set. -/
theorem Touches.withState {k : Nat} {state : AlertRuleState} (hstate : state.ruleId = k)
    (h : Touches (· = k) db changed) : Touches (· = k) db (Backend.withState state changed) := by
  refine h.trans ⟨rfl, ?_, .refl _ _⟩
  apply DiffersIn.update
  intro s _ hs
  have hid : s.ruleId = k := (eq_of_beq hs).trans hstate
  exact ⟨hid, hid⟩

/-- The evaluation of a rule changes its state and its events only. -/
theorem Evaluated.touches (h : Evaluated sample rule db db') : Touches (· = rule.id) db db' := by
  have howner {event : AlertEvent} (hactive : db.alertEvents.active rule.id = some event)
      {e : AlertEvent} (he : e ∈ db.alertEvents.rows) (hid : e.id = event.id) :
      e.ruleId = rule.id := by
    obtain ⟨hmem, hrule, -⟩ := (AlertEvents.active_eq_some_iff _ _ _).mp hactive
    have heq : e = event := Table.eq_of_key (t := db.alertEvents.toTable) he hmem hid
    rw [heq]
    exact hrule
  cases h with
  | observed nextState since extreme hstate hnext hsince =>
    exact Touches.withState rfl (.refl _ db)
  | opened startedAt value extreme created hstate hstarted hcreated =>
    refine Touches.withState rfl ?_
    obtain ⟨hstates, id, hrows⟩ := createEvent_eq_ok hcreated
    constructor
    · rw [createEvent] at hcreated
      split at hcreated
      · cases hcreated
        rfl
      · cases hcreated
    · rw [hstates]
      exact .refl _ _
    · rw [hrows]
      exact .append rfl
  | continued event value extreme changed hactive hchanged =>
    cases hchanged
    refine Touches.withState rfl ?_
    refine ⟨rfl, .refl _ _, ?_⟩
    apply DiffersIn.update
    intro e he hid
    have hrule := howner hactive he (eq_of_beq hid)
    exact ⟨hrule, hrule⟩
  | recovered event value changed hactive hchanged =>
    cases hchanged
    refine Touches.withState rfl ?_
    refine ⟨rfl, .refl _ _, ?_⟩
    apply DiffersIn.update
    intro e he hmeets
    rw [Bool.and_eq_true] at hmeets
    have hrule := howner hactive he (eq_of_beq hmeets.1)
    exact ⟨hrule, hrule⟩

/-- One rule after another. -/
theorem evaluateRules_touches {rules : List RuleRow} (hids : ∀ rule ∈ rules, ruleIds rule.id)
    {a : PUnit} (h : (AlertEngine.evaluateRules sample rules).eval db = .ok (a, db')) :
    Touches ruleIds db db' := by
  induction rules generalizing db with
  | nil =>
    cases h
    exact .refl _ _
  | cons rule rules ih =>
    change (AlertEngine.evaluateRule sample rule >>= fun _ ↦
      AlertEngine.evaluateRules sample rules).eval db = _ at h
    rw [Block.eval_bind] at h
    cases hrule : (AlertEngine.evaluateRule sample rule).eval db with
    | error e =>
      rw [hrule] at h
      cases h
    | ok r =>
      rw [hrule] at h
      have hrest := ih (fun other hother ↦ hids other (List.mem_cons_of_mem rule hother)) h
      obtain hsame | ⟨-, hevaluated⟩ := evaluateRule_cases hrule
      · rw [hsame] at hrest
        exact hrest
      · have hfirst : Touches ruleIds db r.2 := by
          apply hevaluated.touches.mono
          rintro k rfl
          exact hids rule List.mem_cons_self
        exact hfirst.trans hrest

/-- The rule belongs to a device. -/
def RuleOf (deviceId : Text) (db : Database) (ruleId : Nat) : Prop :=
  ∃ rule ∈ db.alertRules.rows, rule.id = ruleId ∧ rule.deviceId = deviceId

/-- An evaluation changes states and events of rules of the device only, also when it fails. -/
theorem evaluate_touches (sample : Sample) (db : Database) :
    Touches (RuleOf sample.deviceId db) db ((AlertEngine.evaluate sample).run db).2 := by
  rw [AlertEngine.evaluate, Session.run_withConnection, Block.eval_bind, Block.eval_select]
  split
  next a db' heval =>
    apply evaluateRules_touches _ heval
    intro rule hrule
    rw [fetchEnabledRulesForDevice, List.mem_insertionSort, List.mem_filter] at hrule
    obtain ⟨r, hr, hrow⟩ := List.mem_filterMap.mp hrule.1
    obtain ⟨state, -, rfl⟩ := Option.map_eq_some_iff.mp hrow
    have hcolumns := hrule.2
    simp only [Bool.and_eq_true, beq_iff_eq] at hcolumns
    exact ⟨r, hr, rfl, hcolumns.1.1⟩
  next => exact .refl _ _

theorem evaluateStored_touches (message : TelemetryMessage) (telemetryId : Nat) (db : Database) :
    Touches (RuleOf message.deviceId db) db ((evaluateStored message telemetryId).run db).2 := by
  rw [evaluateStored]
  split
  · exact .refl _ _
  · exact .refl _ _
  next eventTime _ =>
    exact evaluate_touches ⟨telemetryId, message.deviceId, eventTime.instant, message.temperature,
      message.humidity⟩ db

/-! ### Messages -/

/-- Only rows of one device are inserted and changed: its telemetry, its registration, its
snapshot, and the states and events of its rules. -/
structure IsolatedTo (deviceId : Text) (db db' : Database) : Prop where
  telemetry : DiffersIn (·.deviceId = deviceId) db.telemetry.rows db'.telemetry.rows
  devices : DiffersIn (·.deviceId = deviceId) db.devices.rows db'.devices.rows
  health : DiffersIn (·.deviceId = deviceId) db.deviceHealthCurrent.rows
    db'.deviceHealthCurrent.rows
  alerts : Touches (RuleOf deviceId db) db db'

/-- The effects of a message are isolated. -/
theorem Message.Stored.isolatedTo {message : Message} {deviceId : Text} {receivedAt : Instant}
    {assumeOnline : Bool} (h : message.Stored deviceId receivedAt assumeOnline db db') :
    IsolatedTo deviceId db db' := by
  have hquiet (hrules : db'.alertRules = db.alertRules)
      (hstates : db'.alertRuleStates = db.alertRuleStates)
      (hevents : db'.alertEvents = db.alertEvents) : Touches (RuleOf deviceId db) db db' := by
    constructor
    · exact hrules
    · rw [hstates]
      exact .refl _ _
    · rw [hevents]
      exact .refl _ _
  cases message with
  | telemetry message =>
    obtain ⟨rfl, hstored⟩ := h
    constructor
    · rw [hstored.telemetry]
      exact .append rfl
    · exact hstored.devices.differsIn
    · rw [hstored.health]
      exact .refl _ _
    · obtain ⟨stored, hstates, hevents, hafter⟩ := hstored.alerts
      have hmeasured := measured_evaluateStored message (db.telemetry.sequence + 1) stored
      have htouches := evaluateStored_touches message (db.telemetry.sequence + 1) stored
      rw [← hafter] at hmeasured htouches
      rw [AlertEngine.measured, AlertEngine.measured, Prod.mk.injEq, Prod.mk.injEq,
        Prod.mk.injEq] at hmeasured
      have hrules : stored.alertRules = db.alertRules :=
        hmeasured.2.2.2.symm.trans hstored.rules
      have hruleOf : RuleOf message.deviceId stored = RuleOf message.deviceId db := by
        ext k
        rw [RuleOf, RuleOf, hrules]
      rw [hruleOf] at htouches
      constructor
      · exact hstored.rules
      · rw [← hstates]
        exact htouches.states
      · rw [← hevents]
        exact htouches.events
  | health dump =>
    constructor
    · rw [h.telemetry]
      exact .refl _ _
    · exact h.devices.differsIn
    · exact h.health.differsIn
    · exact hquiet h.rules h.states h.events
  | availability message =>
    constructor
    · rw [h.telemetry]
      exact .refl _ _
    · exact h.devices.differsIn
    · rw [h.health]
      exact .refl _ _
    · exact hquiet h.rules h.states h.events

end

end EdgeMonitor.Backend
