import EdgeMonitor.Backend.AlertAgreement
import EdgeMonitor.Base.Episodes

/-!
# Histories of a rule

Library `Backend`. What the engine stores about a rule, sample by sample, is what its whole history
amounts to: the episodes of the samples that are kept, and how they end.
-/

namespace EdgeMonitor.Backend
open EdgeMonitor.Base
open AlertRepository

/-! ### The reference -/

/-- The samples that are not ignored: each has another id than the one kept before it, and a later
time. -/
def keptSamples (last : Option Sample) : List Sample → List Sample
  | [] => []
  | sample :: rest =>
    if last.any fun l ↦ l.id = sample.id ∨ sample.timestamp ≤ l.timestamp then
      keptSamples last rest
    else sample :: keptSamples (some sample) rest

/-- The value of the metric of a rule. -/
def AlertRule.value (rule : AlertRule) (sample : Sample) : ℚ :=
  telemetryMetricValue sample rule.metric

/-- The condition of a rule. -/
def AlertRule.condition (rule : AlertRule) : RuleCondition :=
  ⟨rule.metric, rule.operator, rule.threshold, rule.hysteresis⟩

/-- What a rule watches for, in microseconds. -/
def AlertRule.watch (rule : AlertRule) : Watch Sample where
  violates sample := isViolation rule.condition (rule.value sample)
  recovers sample := isRecovery rule.condition (rule.value sample)
  time := Sample.timestamp
  dwell := rule.durationSeconds * 1000000

/-- The most extreme value of some samples. -/
def AlertRule.extreme (rule : AlertRule) (first : Sample) (rest : List Sample) : ℚ :=
  rest.foldl (fun extreme sample ↦ updateExtreme rule.operator extreme (rule.value sample))
    (rule.value first)

/-- The event of an episode, without its id. -/
def AlertRule.episodeEvent (rule : AlertRule) (episode : Episode Sample) : AlertEvent where
  id := 0
  ruleId := rule.id
  deviceId := rule.deviceId
  ruleName := rule.name
  metric := rule.metric
  operator := rule.operator
  threshold := rule.threshold
  hysteresis := rule.hysteresis
  durationSeconds := rule.durationSeconds
  severity := rule.severity
  status := if episode.closing.isSome then .resolved else .active
  startedAt := (episode.waited.headD episode.opening).timestamp
  activatedAt := episode.opening.timestamp
  resolvedAt := episode.closing.map (·.timestamp)
  resolutionReason := episode.closing.map fun _ ↦ .conditionRecovered
  activationValue := rule.value episode.opening
  lastValue := rule.value (episode.closing.getD (episode.course.getLastD episode.opening))
  extremeValue :=
    match episode.waited with
    | [] => rule.extreme episode.opening episode.course
    | first :: rest => rule.extreme first (rest ++ episode.opening :: episode.course)

/-- The state of a rule whose history ends in a phase, with the last sample kept. -/
def AlertRule.phaseState (rule : AlertRule) (phase : Phase Sample) (last : Option Sample) :
    AlertRuleState where
  ruleId := rule.id
  state :=
    match phase with
    | .normal => .normal
    | .pending .. => .pending
    | .active => .active
  pendingSince :=
    match phase with
    | .pending first _ => some first.timestamp
    | _ => none
  pendingExtremeValue :=
    match phase with
    | .pending first rest => some (rule.extreme first rest)
    | _ => none
  lastEvaluatedAt := last.map (·.timestamp)
  lastValue := last.map rule.value
  lastTelemetryId := last.map (·.id)

/-- An event without its id. -/
def unnumbered (e : AlertEvent) : AlertEvent := { e with id := 0 }

/-- What an evaluation reads of a rule. -/
def AlertRule.row (rule : AlertRule) (phase : Phase Sample) (last : Option Sample) : RuleRow :=
  ruleRow rule (rule.phaseState phase last)

theorem AlertRule.extreme_append (rule : AlertRule) (first : Sample) (rest : List Sample)
    (sample : Sample) : rule.extreme first (rest ++ [sample]) =
      updateExtreme rule.operator (rule.extreme first rest) (rule.value sample) := by
  rw [extreme, List.foldl_append]
  rfl

/-- The event of an episode that goes on. -/
theorem AlertRule.episodeEvent_append (rule : AlertRule) (waited : List Sample) (opening : Sample)
    (course : List Sample) (sample : Sample) :
    rule.episodeEvent ⟨waited, opening, course ++ [sample], none⟩ =
      { rule.episodeEvent ⟨waited, opening, course, none⟩ with
        lastValue := rule.value sample
        extremeValue := updateExtreme rule.operator
          (rule.episodeEvent ⟨waited, opening, course, none⟩).extremeValue
          (rule.value sample) } := by
  rw [episodeEvent, episodeEvent]
  cases waited with
  | nil => simp [extreme_append]
  | cons first rest =>
    have hlist : rest ++ opening :: (course ++ [sample]) =
        (rest ++ opening :: course) ++ [sample] := by simp
    simp only [hlist, extreme_append]
    simp

/-- The event that opens after a wait. -/
theorem AlertRule.newEvent_opened (rule : AlertRule) (first : Sample) (rest : List Sample)
    (sample : Sample) (last : Option Sample) (id : Nat) :
    unnumbered (newEvent (rule.row (.pending first rest) last) first.timestamp sample.timestamp
      (rule.value sample) (updateExtreme rule.operator (rule.extreme first rest)
        (rule.value sample)) id) = rule.episodeEvent ⟨first :: rest, sample, [], none⟩ := by
  rw [← extreme_append]
  rfl

/-- The state while a violation goes on. -/
theorem AlertRule.evaluatedState_waiting (rule : AlertRule) (first : Sample) (rest : List Sample)
    (sample : Sample) (last : Option Sample) :
    evaluatedState sample (rule.row (.pending first rest) last) .pending (some first.timestamp)
      (some (updateExtreme rule.operator (rule.extreme first rest) (rule.value sample))) =
      rule.phaseState (.pending first (rest ++ [sample])) (some sample) := by
  rw [← extreme_append]
  rfl

/-! ### The database against the reference -/

/-- The database has what the tracker has. -/
structure Tracked (rule : AlertRule) (tracker : Tracker Sample) (last : Option Sample)
    (db : Database) : Prop where
  found : db.alertRules.find rule.id = some rule
  state : db.alertRuleStates.find rule.id = some (rule.phaseState tracker.history.2 last)
  events : (eventsOf rule.id db).map unnumbered = tracker.history.1.map rule.episodeEvent
  closed : ∀ episode ∈ tracker.closed, episode.closing.isSome = true

section

variable {rule : AlertRule} {tracker : Tracker Sample} {last : Option Sample} {db db' : Database}
  {sample : Sample}

/-- Other rules do not matter. -/
theorem Tracked.of_sameRule (h : Tracked rule tracker last db)
    (hrule : db'.alertRules.find rule.id = db.alertRules.find rule.id)
    (hsame : SameRule rule.id db db') : Tracked rule tracker last db' := by
  constructor
  · exact hrule.trans h.found
  · exact hsame.1.trans h.state
  · rw [hsame.2]
    exact h.events
  · exact h.closed

/-- The next state is set, after the events have been changed. -/
theorem Tracked.next {changed : Database} {next : Tracker Sample} {phase : Phase Sample}
    {nextState : RuleRuntimeState} {since : Option Instant} {extreme : Option ℚ}
    (h : Tracked rule tracker last db) (hrules : changed.alertRules = db.alertRules)
    (hstates : changed.alertRuleStates = db.alertRuleStates)
    (hstate : evaluatedState sample (rule.row phase last) nextState since extreme =
      rule.phaseState next.history.2 (some sample))
    (hevents : (eventsOf rule.id changed).map unnumbered = next.history.1.map rule.episodeEvent)
    (hclosed : ∀ episode ∈ next.closed, episode.closing.isSome = true) :
    Tracked rule next (some sample)
      (withState (evaluatedState sample (rule.row phase last) nextState since extreme)
        changed) := by
  constructor
  · rw [alertRules_withState, hrules]
    exact h.found
  · rw [find_withState, hstates, h.state, hstate]
    exact if_pos rfl
  · exact hevents
  · exact hclosed

theorem evaluateRule_of_normal {row : RuleRow} (h : ¬Skips sample row)
    (hstate : row.runtimeState = .normal) :
    AlertEngine.evaluateRule sample row =
      let value := telemetryMetricValue sample row.metric
      if isViolation (AlertEngine.ruleCondition row) value = true ∧ row.durationSeconds = 0 then do
        Block.execute (createEvent row sample.timestamp sample.timestamp value value)
        AlertEngine.updateState sample row .active none none
      else if isViolation (AlertEngine.ruleCondition row) value = true then
        AlertEngine.updateState sample row .pending (some sample.timestamp) (some value)
      else AlertEngine.updateState sample row .normal none none := by
  rw [AlertEngine.evaluateRule, if_neg (fun hid ↦ h (.inl hid)),
    if_neg (fun hlate ↦ h (.inr hlate)), hstate]

theorem evaluateRule_of_pending {row : RuleRow} {since : Instant} {current : ℚ}
    (h : ¬Skips sample row) (hstate : row.runtimeState = .pending)
    (hsince : row.pendingSince = some since) (hextreme : row.pendingExtremeValue = some current) :
    AlertEngine.evaluateRule sample row =
      let value := telemetryMetricValue sample row.metric
      let extreme := updateExtreme row.operator current value
      if isViolation (AlertEngine.ruleCondition row) value = true then
        if sample.timestamp - since ≥ row.durationSeconds * 1000000 then do
          Block.execute (createEvent row since sample.timestamp value extreme)
          AlertEngine.updateState sample row .active none none
        else AlertEngine.updateState sample row .pending (some since) (some extreme)
      else AlertEngine.updateState sample row .normal none none := by
  have hfirst : (row.pendingExtremeValue <|> row.lastValue) = some current := by
    rw [hextreme]
    rfl
  rw [AlertEngine.evaluateRule, if_neg (fun hid ↦ h (.inl hid)),
    if_neg (fun hlate ↦ h (.inr hlate)), hstate]
  simp only [hsince, hfirst]
  cases isViolation (AlertEngine.ruleCondition row) (telemetryMetricValue sample row.metric) <;> rfl

/-- The event of a new episode. -/
theorem eventsOf_created {row : RuleRow} {startedAt activatedAt : Instant} {value extreme : ℚ}
    {created : Database} (h : createEvent row startedAt activatedAt value extreme db = .ok created) :
    ∃ id, eventsOf row.id created =
      eventsOf row.id db ++ [newEvent row startedAt activatedAt value extreme id] := by
  obtain ⟨-, id, hrows⟩ := createEvent_eq_ok h
  refine ⟨id, ?_⟩
  rw [eventsOf, hrows, List.filter_append, eventsOf]
  have howner : (newEvent row startedAt activatedAt value extreme id).ruleId = row.id := rfl
  simp [howner]

theorem alertRules_createEvent {row : RuleRow} {startedAt activatedAt : Instant}
    {value extreme : ℚ} {created : Database}
    (h : createEvent row startedAt activatedAt value extreme db = .ok created) :
    created.alertRules = db.alertRules := by
  rw [createEvent] at h
  split at h
  · cases h
    rfl
  · cases h

/-- An episode opens. -/
theorem Tracked.open {phase : Phase Sample} {closed : List (Episode Sample)}
    {waited : List Sample} {startedAt : Instant} {extreme : ℚ}
    (h : Tracked rule tracker last db)
    (hclosed : tracker.history.1 = closed) (hall : ∀ episode ∈ closed, episode.closing.isSome = true)
    (hevent : ∀ id, unnumbered (newEvent (rule.row phase last) startedAt sample.timestamp
      (rule.value sample) extreme id) = rule.episodeEvent ⟨waited, sample, [], none⟩)
    (heval : (Block.execute (createEvent (rule.row phase last) startedAt sample.timestamp
      (rule.value sample) extreme) >>= fun _ ↦
        AlertEngine.updateState sample (rule.row phase last) .active none none).eval db =
          .ok ((), db')) :
    Tracked rule ⟨closed, .opened waited sample []⟩ (some sample) db' := by
  obtain ⟨created, hcreated, rfl⟩ := eval_execute_updateState heval
  obtain ⟨id, hevents⟩ := eventsOf_created hcreated
  apply h.next (alertRules_createEvent hcreated) (createEvent_eq_ok hcreated).1
  · rfl
  · change (eventsOf (rule.row phase last).id created).map unnumbered =
      (closed ++ [(⟨waited, sample, [], none⟩ : Episode Sample)]).map rule.episodeEvent
    rw [hevents, List.map_append, List.map_append, List.map_singleton, List.map_singleton,
      hevent id, ← hclosed]
    congr 1
    exact h.events
  · exact hall

/-- Nothing is opened or closed. -/
theorem Tracked.observe {phase : Phase Sample} {next : Tracker Sample}
    {nextState : RuleRuntimeState} {since : Option Instant} {extreme : Option ℚ}
    (h : Tracked rule tracker last db) (hepisodes : next.history.1 = tracker.history.1)
    (hclosed : next.closed = tracker.closed)
    (hstate : evaluatedState sample (rule.row phase last) nextState since extreme =
      rule.phaseState next.history.2 (some sample))
    (heval : (AlertEngine.updateState sample (rule.row phase last) nextState since extreme).eval
      db = .ok ((), db')) : Tracked rule next (some sample) db' := by
  cases heval
  apply h.next rfl rfl hstate
  · rw [hepisodes]
    exact h.events
  · rw [hclosed]
    exact h.closed

/-- The event of an open episode is the last of the rule, and its only active one. -/
theorem Tracked.opened {closed : List (Episode Sample)} {waited course : List Sample}
    {opening : Sample}
    (h : Tracked rule ⟨closed, .opened waited opening course⟩ last db) :
    ∃ init event, eventsOf rule.id db = init ++ [event] ∧
      init.map unnumbered = closed.map rule.episodeEvent ∧
      unnumbered event = rule.episodeEvent ⟨waited, opening, course, none⟩ ∧
      db.alertEvents.active rule.id = some event ∧ ∀ e ∈ init, e.id ≠ event.id := by
  have hevents := h.events
  change _ = (closed ++ [(⟨waited, opening, course, none⟩ : Episode Sample)]).map
    rule.episodeEvent at hevents
  rw [List.map_append, List.map_singleton] at hevents
  obtain ⟨init, tail, hsplit, hinit, htail⟩ := List.map_eq_append_iff.mp hevents
  obtain ⟨event, rfl, hevent⟩ := List.map_eq_singleton_iff.mp htail
  refine ⟨init, event, hsplit, hinit, hevent, ?_, ?_⟩
  · have hresolved : ∀ e ∈ init, e.status = .resolved := by
      intro e he
      have hmem : unnumbered e ∈ closed.map rule.episodeEvent :=
        hinit ▸ List.mem_map_of_mem he
      obtain ⟨episode, hepisode, heq⟩ := List.mem_map.mp hmem
      have hstatus := congrArg AlertEvent.status heq
      rw [AlertRule.episodeEvent] at hstatus
      dsimp only at hstatus
      rw [if_pos (h.closed episode hepisode)] at hstatus
      exact hstatus.symm
    have hnone : init.find? (·.status == .active) = none := by
      apply List.find?_eq_none.mpr
      intro e he
      simp [hresolved e he]
    have hactive : event.status = .active := congrArg AlertEvent.status hevent
    rw [active_eq_find?, hsplit, List.find?_append, hnone]
    simp [hactive]
  · have hids : ((eventsOf rule.id db).map AlertEvent.id).Nodup :=
      (List.Sublist.map _ List.filter_sublist).nodup db.alertEvents.keys_nodup
    rw [hsplit, List.map_append, List.nodup_append] at hids
    intro e he
    exact hids.2.2 _ (List.mem_map_of_mem he) _ (List.mem_singleton_self _)

/-- An update that meets the last event of a rule only. -/
theorem eventsOf_update_last {p : AlertEvent → Bool} {f : AlertEvent → AlertEvent}
    {hid : ∀ e, (f e).id = e.id} {hrule : ∀ e, (f e).ruleId = e.ruleId}
    {hstatus : ∀ e, (f e).status = .active → e.status = .active} {k : Nat}
    {init : List AlertEvent} {event : AlertEvent} (hsplit : eventsOf k db = init ++ [event])
    (hevent : p event = true) (hinit : ∀ e ∈ init, p e = false) :
    eventsOf k { db with alertEvents := db.alertEvents.update p f hid hrule hstatus } =
      init ++ [f event] := by
  have hkept : (init.map fun e ↦ if p e then f e else e) = init.map id := by
    apply List.map_congr_left
    intro e he
    rw [hinit e he]
    rfl
  rw [eventsOf_update, hsplit, List.map_append, List.map_singleton, if_pos hevent, hkept,
    List.map_id]

/-- An episode goes on or closes. -/
theorem Tracked.evaluateActive {closed : List (Episode Sample)} {waited course : List Sample}
    {opening : Sample} {event : AlertEvent}
    (h : Tracked rule ⟨closed, .opened waited opening course⟩ last db)
    (hactive : db.alertEvents.active rule.id = some event)
    (heval : (AlertEngine.evaluateActive sample (rule.row .active last) (some event)).eval db =
      .ok ((), db')) :
    Tracked rule (rule.watch.follow ⟨closed, .opened waited opening course⟩ sample) (some sample)
      db' := by
  obtain ⟨init, event', hsplit, hinit, hevent, hactive', hids⟩ := h.opened
  rw [hactive] at hactive'
  cases hactive'
  have hstatus : event.status = .active := congrArg AlertEvent.status hevent
  rw [AlertEngine.evaluateActive] at heval
  split at heval
  next hrecovery =>
    have hrecovers : rule.watch.recovers sample = true := hrecovery
    have hnext : rule.watch.follow ⟨closed, .opened waited opening course⟩ sample =
        ⟨closed ++ [⟨waited, opening, course, some sample⟩], .idle⟩ := by
      rw [Watch.follow]
      simp [hrecovers]
    obtain ⟨changed, hchanged, rfl⟩ := eval_execute_updateState heval
    rw [hnext]
    cases hchanged
    apply h.next
    · rfl
    · rfl
    · rfl
    · rw [eventsOf_update_last hsplit (by simp [hstatus]) (fun e he ↦ by simp [hids e he])]
      change _ = (closed ++ [(⟨waited, opening, course, some sample⟩ : Episode Sample)]).map
        rule.episodeEvent
      rw [List.map_append, List.map_append, hinit, List.map_singleton, List.map_singleton]
      congr 2
      calc
        unnumbered { event with
            status := .resolved, resolvedAt := some sample.timestamp
            resolutionReason := some .conditionRecovered, lastValue := rule.value sample } =
          { unnumbered event with
            status := .resolved, resolvedAt := some sample.timestamp
            resolutionReason := some .conditionRecovered, lastValue := rule.value sample } := rfl
        _ = rule.episodeEvent ⟨waited, opening, course, some sample⟩ := by
          rw [hevent]
          rfl
    · intro episode hepisode
      rcases List.mem_append.mp hepisode with hold | hnew
      · exact h.closed episode hold
      · rw [List.mem_singleton.mp hnew]
        rfl
  next hrecovery =>
    have hrecovers : rule.watch.recovers sample = false := Bool.eq_false_iff.mpr hrecovery
    have hnext : rule.watch.follow ⟨closed, .opened waited opening course⟩ sample =
        ⟨closed, .opened waited opening (course ++ [sample])⟩ := by
      rw [Watch.follow]
      simp [hrecovers]
    obtain ⟨changed, hchanged, rfl⟩ := eval_execute_updateState heval
    rw [hnext]
    cases hchanged
    apply h.next
    · rfl
    · rfl
    · rfl
    · rw [eventsOf_update_last hsplit (by simp) (fun e he ↦ by simp [hids e he])]
      change _ = (closed ++ [(⟨waited, opening, course ++ [sample], none⟩ : Episode Sample)]).map
        rule.episodeEvent
      rw [List.map_append, List.map_append, hinit, List.map_singleton, List.map_singleton]
      congr 2
      calc
        unnumbered { event with
            lastValue := rule.value sample
            extremeValue := updateExtreme rule.operator event.extremeValue (rule.value sample) } =
          { unnumbered event with
            lastValue := rule.value sample
            extremeValue :=
              updateExtreme rule.operator event.extremeValue (rule.value sample) } := rfl
        _ = rule.episodeEvent ⟨waited, opening, course ++ [sample], none⟩ := by
          change { unnumbered event with
            lastValue := rule.value sample
            extremeValue := updateExtreme rule.operator (unnumbered event).extremeValue
              (rule.value sample) } = _
          rw [hevent]
          exact (rule.episodeEvent_append waited opening course sample).symm
    · exact h.closed

/-- What is stored about a rule after a sample that is not ignored. -/
theorem Tracked.evaluateRule (h : Tracked rule tracker last db)
    (hduration : 0 ≤ rule.durationSeconds)
    (hskip : ¬Skips sample (rule.row tracker.history.2 last))
    (heval : (AlertEngine.evaluateRule sample (rule.row tracker.history.2 last)).eval db =
      .ok ((), db')) : Tracked rule (rule.watch.follow tracker sample) (some sample) db' := by
  obtain ⟨closed, mode⟩ := tracker
  cases mode with
  | idle =>
    rw [evaluateRule_of_normal hskip rfl] at heval
    dsimp only at heval
    split at heval
    next hopens =>
      have hviolates : rule.watch.violates sample = true := hopens.1
      have hzero : rule.durationSeconds = 0 := hopens.2
      have hripe : rule.watch.ripe sample sample = true := by
        simp [Watch.ripe, AlertRule.watch, hzero]
      have hnext : rule.watch.follow ⟨closed, .idle⟩ sample =
          ⟨closed, .opened [] sample []⟩ := by
        rw [Watch.follow]
        simp [hviolates, hripe]
      rw [hnext]
      exact h.open rfl h.closed (fun _ ↦ rfl) heval
    next hwaits =>
      split at heval
      next hviolation =>
        have hviolates : rule.watch.violates sample = true := hviolation
        have hpositive : rule.durationSeconds ≠ 0 := fun hzero ↦ hwaits ⟨hviolation, hzero⟩
        have hripe : rule.watch.ripe sample sample = false := by
          apply decide_eq_false
          change ¬rule.durationSeconds * 1000000 ≤ sample.timestamp - sample.timestamp
          omega
        have hnext : rule.watch.follow ⟨closed, .idle⟩ sample = ⟨closed, .waiting sample []⟩ := by
          rw [Watch.follow]
          simp [hviolates, hripe]
        rw [hnext]
        exact h.observe rfl rfl rfl heval
      next hviolation =>
        have hviolates : rule.watch.violates sample = false := Bool.eq_false_iff.mpr hviolation
        have hnext : rule.watch.follow ⟨closed, .idle⟩ sample = ⟨closed, .idle⟩ := by
          rw [Watch.follow]
          simp [hviolates]
        rw [hnext]
        exact h.observe rfl rfl rfl heval
  | waiting first rest =>
    rw [evaluateRule_of_pending hskip rfl rfl rfl] at heval
    dsimp only at heval
    split at heval
    next hviolation =>
      have hviolates : rule.watch.violates sample = true := hviolation
      split at heval
      next helapsed =>
        have hripe : rule.watch.ripe first sample = true := decide_eq_true helapsed
        have hnext : rule.watch.follow ⟨closed, .waiting first rest⟩ sample =
            ⟨closed, .opened (first :: rest) sample []⟩ := by
          rw [Watch.follow]
          simp [hviolates, hripe]
        rw [hnext]
        apply h.open rfl h.closed _ heval
        intro id
        exact rule.newEvent_opened first rest sample last id
      next helapsed =>
        have hripe : rule.watch.ripe first sample = false := decide_eq_false helapsed
        have hnext : rule.watch.follow ⟨closed, .waiting first rest⟩ sample =
            ⟨closed, .waiting first (rest ++ [sample])⟩ := by
          rw [Watch.follow]
          simp [hviolates, hripe]
        rw [hnext]
        apply h.observe
        · rfl
        · rfl
        · exact rule.evaluatedState_waiting first rest sample last
        · exact heval
    next hviolation =>
      have hviolates : rule.watch.violates sample = false := Bool.eq_false_iff.mpr hviolation
      have hnext : rule.watch.follow ⟨closed, .waiting first rest⟩ sample = ⟨closed, .idle⟩ := by
        rw [Watch.follow]
        simp [hviolates]
      rw [hnext]
      exact h.observe rfl rfl rfl heval
  | opened waited opening course =>
    obtain ⟨init, event, -, -, -, hactive, -⟩ := h.opened
    rw [evaluateRule_of_active hskip rfl, Block.eval_bind, Block.eval_select] at heval
    have hfetched : fetchActiveEvent (rule.row .active last).id db = some event := hactive
    apply h.evaluateActive hactive
    rw [← hfetched]
    exact heval

/-! ### All rules of a device -/

/-- What a sample makes of what is stored: nothing when it is ignored. -/
def AlertRule.advance (rule : AlertRule) (stored : Tracker Sample × Option Sample)
    (sample : Sample) : Tracker Sample × Option Sample :=
  if stored.2.any fun l ↦ l.id = sample.id ∨ sample.timestamp ≤ l.timestamp then stored
  else (rule.watch.follow stored.1 sample, some sample)

theorem skips_row (phase : Phase Sample) : Skips sample (rule.row phase last) ↔
    last.any (fun l ↦ l.id = sample.id ∨ sample.timestamp ≤ l.timestamp) = true := by
  cases last with
  | none => simp [Skips, AlertRule.row, AlertRule.phaseState, ruleRow]
  | some l => simp [Skips, AlertRule.row, AlertRule.phaseState, ruleRow]

/-- What is stored about a rule after its evaluation. -/
theorem Tracked.advance (h : Tracked rule tracker last db)
    (hduration : 0 ≤ rule.durationSeconds)
    (heval : (AlertEngine.evaluateRule sample (rule.row tracker.history.2 last)).eval db =
      .ok ((), db')) :
    Tracked rule (rule.advance (tracker, last) sample).1 (rule.advance (tracker, last) sample).2
      db' := by
  rw [AlertRule.advance]
  by_cases hskip : Skips sample (rule.row tracker.history.2 last)
  · rw [if_pos ((skips_row _).mp hskip)]
    rw [evaluateRule_of_skips hskip] at heval
    cases heval
    exact h
  · rw [if_neg (fun hany ↦ hskip ((skips_row _).mpr hany))]
    exact h.evaluateRule hduration hskip heval

variable {rules : List RuleRow} {k : Nat}

/-- The evaluation of some rules leaves the others. -/
theorem Agreement.evaluateRules_others (hdb : Agreement db) (hids : (rules.map (·.id)).Nodup)
    (hfits : ∀ row ∈ rules, Fits sample row db) (hk : k ∉ rules.map (·.id))
    (heval : (AlertEngine.evaluateRules sample rules).eval db = .ok ((), db')) :
    db'.alertRules = db.alertRules ∧ SameRule k db db' := by
  induction rules generalizing db with
  | nil =>
    cases heval
    exact ⟨rfl, rfl, rfl⟩
  | cons row rules ih =>
    rw [List.map_cons, List.nodup_cons] at hids
    rw [List.map_cons, List.mem_cons, not_or] at hk
    obtain ⟨mid, hmid, hagreement, hothers⟩ := hdb.evaluateRule (hfits row List.mem_cons_self)
    change (AlertEngine.evaluateRule sample row >>= fun _ ↦
      AlertEngine.evaluateRules sample rules).eval db = _ at heval
    rw [Block.eval_bind, hmid] at heval
    have hfits' : ∀ other ∈ rules, Fits sample other mid := by
      intro other hother
      apply (hfits other (List.mem_cons_of_mem row hother)).of_others hothers
      intro hid
      exact hids.1 (hid ▸ List.mem_map_of_mem hother)
    obtain ⟨hrules, hsame⟩ := ih hagreement hids.2 hfits' hk.2 heval
    have hfirst := hothers.2 k hk.1
    exact ⟨hrules.trans hothers.1, hsame.1.trans hfirst.1, hsame.2.trans hfirst.2⟩

/-- A rule among those that are evaluated. -/
theorem Tracked.evaluateRules (h : Tracked rule tracker last db) (hdb : Agreement db)
    (hduration : 0 ≤ rule.durationSeconds) (hids : (rules.map (·.id)).Nodup)
    (hfits : ∀ row ∈ rules, Fits sample row db) (hmem : rule.id ∈ rules.map (·.id))
    (hrow : ∀ row ∈ rules, row.id = rule.id → row = rule.row tracker.history.2 last)
    (heval : (AlertEngine.evaluateRules sample rules).eval db = .ok ((), db')) :
    Tracked rule (rule.advance (tracker, last) sample).1 (rule.advance (tracker, last) sample).2
      db' := by
  induction rules generalizing db with
  | nil => cases hmem
  | cons row rules ih =>
    rw [List.map_cons, List.nodup_cons] at hids
    obtain ⟨mid, hmid, hagreement, hothers⟩ := hdb.evaluateRule (hfits row List.mem_cons_self)
    change (AlertEngine.evaluateRule sample row >>= fun _ ↦
      AlertEngine.evaluateRules sample rules).eval db = _ at heval
    rw [Block.eval_bind, hmid] at heval
    have hfits' : ∀ other ∈ rules, Fits sample other mid := by
      intro other hother
      apply (hfits other (List.mem_cons_of_mem row hother)).of_others hothers
      intro hid
      exact hids.1 (hid ▸ List.mem_map_of_mem hother)
    by_cases hid : row.id = rule.id
    · rw [hrow row List.mem_cons_self hid] at hmid
      have hmid' := h.advance hduration hmid
      obtain ⟨hrules, hsame⟩ :=
        hagreement.evaluateRules_others hids.2 hfits' (hid ▸ hids.1) heval
      exact hmid'.of_sameRule (by rw [hrules]) hsame
    · have hmid' : Tracked rule tracker last mid :=
        h.of_sameRule (by rw [hothers.1]) (hothers.2 rule.id (Ne.symm hid))
      apply ih hmid' hagreement hids.2 hfits' _ _ heval
      · rw [List.map_cons, List.mem_cons] at hmem
        exact hmem.resolve_left (Ne.symm hid)
      · exact fun other hother ↦ hrow other (List.mem_cons_of_mem row hother)

/-! ### Sequences of steps -/

/-- Evaluations go through on a database whose states and events agree. -/
theorem Agreement.evaluate (hdb : Agreement db) (sample : Sample) :
    (∀ row ∈ fetchEnabledRulesForDevice sample.deviceId db, Fits sample row db) ∧
      Agreement (alerting.step db (.evaluate sample)).1 ∧
      (AlertEngine.evaluateRules sample (fetchEnabledRulesForDevice sample.deviceId db)).eval db =
        .ok ((), (alerting.step db (.evaluate sample)).1) := by
  have hfits : ∀ row ∈ fetchEnabledRulesForDevice sample.deviceId db, Fits sample row db := by
    intro row hrow
    apply (Follows.refl db).fits hdb hdb hrow
    intro hactive
    obtain ⟨-, state, hstate, hrow'⟩ := mem_fetchEnabledRules hrow
    exact .inr ⟨state, hstate, (congrArg RuleRow.runtimeState hrow').symm.trans hactive⟩
  obtain ⟨hids, -⟩ := fetchEnabledRules_current sample.deviceId db
  obtain ⟨db', heval, hdb'⟩ := hdb.evaluateRules hids hfits
  have hstep : (alerting.step db (.evaluate sample)).1 = db' := by
    change ((AlertEngine.evaluate sample).run db).2 = db'
    have hblock : (Block.select (fetchEnabledRulesForDevice sample.deviceId) >>=
        AlertEngine.evaluateRules sample).eval db = .ok ((), db') := by
      rw [Block.eval_bind, Block.eval_select]
      exact heval
    rw [AlertEngine.evaluate, Session.run_withConnection, hblock]
  rw [hstep]
  exact ⟨hfits, hdb', heval⟩

/-- The row that the engine reads of a rule. -/
theorem Tracked.row (h : Tracked rule tracker last db) {deviceId : Text} {row : RuleRow}
    (hrow : row ∈ fetchEnabledRulesForDevice deviceId db) (hid : row.id = rule.id) :
    row = rule.row tracker.history.2 last := by
  obtain ⟨hmem, state, hstate, heq⟩ := mem_fetchEnabledRules hrow
  obtain ⟨hmem', -⟩ := (Table.find_eq_some_iff _ _ _).mp h.found
  have hrule : row.toAlertRule = rule :=
    Table.eq_of_key (t := db.alertRules.toTable) hmem hmem' hid
  rw [hid, h.state] at hstate
  rw [heq, hrule, ← Option.some.inj hstate]
  rfl

/-- The engine reads a rule for the samples of its device. -/
theorem Tracked.mem_fetch (h : Tracked rule tracker last db) (henabled : rule.enabled = true)
    (harchived : rule.archivedAt = none) (deviceId : Text) :
    rule.id ∈ (fetchEnabledRulesForDevice deviceId db).map (·.id) ↔ deviceId = rule.deviceId := by
  constructor
  · intro hmem
    obtain ⟨row, hrow, hid⟩ := List.mem_map.mp hmem
    have hread := h.row hrow hid
    rw [fetchEnabledRulesForDevice, List.mem_insertionSort, List.mem_filter] at hrow
    have hdevice : row.deviceId = deviceId := by
      have hcolumns := hrow.2
      simp only [Bool.and_eq_true, beq_iff_eq] at hcolumns
      exact hcolumns.1.1
    rw [hread] at hdevice
    exact hdevice.symm
  · rintro rfl
    apply List.mem_map.mpr
    refine ⟨rule.row tracker.history.2 last, ?_, rfl⟩
    rw [fetchEnabledRulesForDevice, List.mem_insertionSort, List.mem_filter]
    obtain ⟨hmem, -⟩ := (Table.find_eq_some_iff _ _ _).mp h.found
    constructor
    · apply List.mem_filterMap.mpr
      refine ⟨rule, hmem, ?_⟩
      rw [h.state]
      rfl
    · have hdevice : (rule.row tracker.history.2 last).deviceId = rule.deviceId := rfl
      have henabled' : (rule.row tracker.history.2 last).enabled = true := henabled
      have harchived' : (rule.row tracker.history.2 last).archivedAt = none := harchived
      simp [hdevice, henabled', harchived']

/-- The sample of a step, if it is one of the device. -/
def AlertStep.sampleOf (deviceId : Text) : AlertStep → Option Sample
  | evaluate sample => if sample.deviceId = deviceId then some sample else none
  | request _ => none

/-- The rule that a request is for. -/
def RuleRequest.target : RuleRequest → Option Nat
  | create _ _ => none
  | update ruleId _ _ => some ruleId
  | archive ruleId _ => some ruleId

/-- The rule that a step changes on purpose. -/
def AlertStep.target : AlertStep → Option Nat
  | evaluate _ => none
  | request r => r.target

theorem Tracked.evaluate (h : Tracked rule tracker last db) (hdb : Agreement db)
    (hduration : 0 ≤ rule.durationSeconds) (henabled : rule.enabled = true)
    (harchived : rule.archivedAt = none) (sample : Sample) :
    let stored := if sample.deviceId = rule.deviceId then rule.advance (tracker, last) sample
      else (tracker, last)
    Tracked rule stored.1 stored.2 (alerting.step db (.evaluate sample)).1 := by
  obtain ⟨hfits, -, heval⟩ := hdb.evaluate sample
  obtain ⟨hids, -⟩ := fetchEnabledRules_current sample.deviceId db
  have hiff := h.mem_fetch henabled harchived sample.deviceId
  by_cases hdevice : sample.deviceId = rule.deviceId
  · rw [if_pos hdevice]
    exact h.evaluateRules hdb hduration hids hfits (hiff.mpr hdevice)
      (fun row hrow hid ↦ h.row hrow hid) heval
  · rw [if_neg hdevice]
    obtain ⟨hrules, hsame⟩ := hdb.evaluateRules_others hids hfits (fun hmem ↦ hdevice (hiff.mp hmem))
      heval
    exact h.of_sameRule (by rw [hrules]) hsame

/-- A request for another rule. -/
theorem Tracked.commits {r : RuleRequest} {seen : List Database}
    (h : Tracked rule tracker last db) (htarget : r.target ≠ some rule.id)
    (hcommits : r.Commits seen db db') : Tracked rule tracker last db' := by
  obtain ⟨hmem, -⟩ := (Table.find_eq_some_iff _ _ _).mp h.found
  have hfound {db' : Database} (hmem' : rule ∈ db'.alertRules.rows) :
      db'.alertRules.find rule.id = db.alertRules.find rule.id := by
    rw [h.found]
    exact (Table.find_eq_some_iff _ _ _).mpr ⟨hmem', rfl⟩
  have hreset {ruleId : Nat} {now : Instant} {reason : ResolutionReason} {before after : Database}
      (hid : rule.id ≠ ruleId) (hbefore : Tracked rule tracker last before)
      (hchange : ResetsRule ruleId now reason before after) : Tracked rule tracker last after := by
    apply hbefore.of_sameRule
    · rw [hchange.alertRules]
    · refine ⟨?_, hchange.eventsOf_of_not (.inl hid)⟩
      rw [hchange.find, if_neg hid]
  cases hcommits with
  | create hinsert hstate =>
    obtain ⟨hnext, hrows, hstates, hevents⟩ := insertRule_eq_ok hinsert
    obtain ⟨-, hfind, hrules', hevents'⟩ := insertRuleState_eq_ok hstate
    have hle := db.alertRules.key_le rule hmem
    have hne : rule.id ≠ db.alertRules.sequence + 1 := by omega
    apply h.of_sameRule
    · apply hfound
      rw [hrules', hrows]
      exact List.mem_append_left _ hmem
    · rw [SameRule, eventsOf, eventsOf, hfind, hnext, if_neg hne, hstates, hevents', hevents]
      exact ⟨rfl, rfl⟩
  | @update ruleId request now read _ patched _ current hread hcurrent hopen hvalid hpatched
      hchange =>
    have hne : rule.id ≠ ruleId := fun hid ↦ htarget (congrArg some hid.symm)
    have hfirst : Tracked rule tracker last patched := by
      obtain rfl | ⟨hrows, hstates, hevents⟩ := updateRule_eq_ok hpatched
      · exact h
      · apply h.of_sameRule
        · apply hfound
          rw [hrows]
          refine List.mem_map.mpr ⟨rule, hmem, ?_⟩
          simp [hne]
        · rw [SameRule, eventsOf, eventsOf, hstates, hevents]
          exact ⟨rfl, rfl⟩
    split at hchange
    · rw [hchange]
      exact hfirst
    · exact hreset hne hfirst hchange
  | @archive ruleId now read _ archivedDb _ current rowcount hread hcurrent hopen harchived
      hchange =>
    have hne : rule.id ≠ ruleId := fun hid ↦ htarget (congrArg some hid.symm)
    have hfirst : Tracked rule tracker last archivedDb := by
      cases harchived
      apply h.of_sameRule
      · apply hfound
        refine List.mem_map.mpr ⟨rule, hmem, ?_⟩
        simp [hne]
      · exact ⟨rfl, rfl⟩
    split at hchange
    · rw [hchange]
      exact hfirst
    · exact hreset hne hfirst hchange

theorem Tracked.request (h : Tracked rule tracker last db) {r : RuleRequest}
    (htarget : r.target ≠ some rule.id) :
    Tracked rule tracker last (alerting.step db (.request r)).1 := by
  have hsafe : r.session.Safe (fun _ _ ↦ True)
      (fun d d' ↦ Tracked rule tracker last d → Tracked rule tracker last d') (fun _ ↦ True) [] :=
    r.safe fun _ _ _ _ hcommits hd ↦ hd.commits htarget hcommits
  exact hsafe.run (fun _ hd ↦ hd) (fun _ _ _ hab hbc ha ↦ hbc (hab ha)) db h

/-- States and events agree when everything happens in turn. -/
theorem Agreement.step (hdb : Agreement db) (step : AlertStep) :
    Agreement (alerting.step db step).1 := by
  cases step with
  | evaluate sample => exact (hdb.evaluate sample).2.1
  | request r =>
    have hsafe : r.session.Safe (fun _ _ ↦ True) (fun d d' ↦ Agreement d → Agreement d')
        (fun _ ↦ True) [] :=
      r.safe fun _ _ _ _ hcommits hd ↦ hd.follows (hcommits.follows hd)
    exact hsafe.run (fun _ hd ↦ hd) (fun _ _ _ hab hbc ha ↦ hbc (hab ha)) db hdb

/-- After some steps the database has what their samples make of it. -/
theorem Tracked.run (hdb : Agreement db) (hduration : 0 ≤ rule.durationSeconds)
    (henabled : rule.enabled = true) (harchived : rule.archivedAt = none) {steps : List AlertStep}
    (hsteps : ∀ step ∈ steps, step.target ≠ some rule.id)
    {stored : Tracker Sample × Option Sample} (h : Tracked rule stored.1 stored.2 db) :
    Tracked rule ((steps.filterMap (·.sampleOf rule.deviceId)).foldl rule.advance stored).1
      ((steps.filterMap (·.sampleOf rule.deviceId)).foldl rule.advance stored).2
      (alerting.run db steps) := by
  induction steps generalizing db stored with
  | nil => exact h
  | cons step steps ih =>
    have htarget := hsteps step List.mem_cons_self
    have hrest : ∀ step' ∈ steps, step'.target ≠ some rule.id :=
      fun step' hstep' ↦ hsteps step' (List.mem_cons_of_mem step hstep')
    rw [Machine.run_cons]
    cases step with
    | request r => exact ih (hdb.step (.request r)) hrest (h.request htarget)
    | evaluate sample =>
      have hnext := h.evaluate hdb hduration henabled harchived sample
      by_cases hdevice : sample.deviceId = rule.deviceId
      · have hsample : (AlertStep.evaluate sample).sampleOf rule.deviceId = some sample :=
          if_pos hdevice
        rw [if_pos hdevice] at hnext
        rw [List.filterMap_cons_some hsample, List.foldl_cons]
        exact ih (hdb.step (.evaluate sample)) hrest hnext
      · have hsample : (AlertStep.evaluate sample).sampleOf rule.deviceId = none :=
          if_neg hdevice
        rw [if_neg hdevice] at hnext
        rw [List.filterMap_cons_none hsample]
        exact ih (hdb.step (.evaluate sample)) hrest hnext

end

/-- The samples that are ignored change nothing. -/
theorem foldl_advance (rule : AlertRule) (samples : List Sample) (tracker : Tracker Sample)
    (last : Option Sample) : samples.foldl rule.advance (tracker, last) =
      ((keptSamples last samples).foldl rule.watch.follow tracker,
        (keptSamples last samples).getLast?.or last) := by
  induction samples generalizing tracker last with
  | nil => rfl
  | cons sample samples ih =>
    rw [List.foldl_cons, keptSamples, AlertRule.advance]
    split
    · exact ih tracker last
    · rw [ih, List.foldl_cons, List.getLast?_cons]
      cases (keptSamples (some sample) samples).getLast? <;> rfl

/-! ### Creation -/

/-- The two statements of a creation, in one transaction. -/
theorem run_createRule (request : AlertRuleDefinition) (now : Instant) (db : Database) :
    (AlertRepository.createRule request now).run db =
      match insertRule request now db with
      | .error e => (.error e, db)
      | .ok (inserted, ruleId) =>
        match insertRuleState ruleId inserted with
        | .error e => (.error e, db)
        | .ok created => (.ok (fetchRule ruleId created), created) := by
  rw [AlertRepository.createRule, Session.run_bind, Session.run_withConnection,
    Block.statement_bind, Block.eval]
  cases hinsert : insertRule request now db with
  | error e => rfl
  | ok inserted =>
    obtain ⟨inserted, ruleId⟩ := inserted
    dsimp only [Block.done_bind]
    rw [Block.eval_execute_bind]
    cases hstate : insertRuleState ruleId inserted with
    | error e => rfl
    | ok created => rfl

/-- An exception stays an exception. -/
theorem run_onIntegrityError_error {α : Type} {s : Session Database PyError α} {db d : Database}
    {e : PyError} (h : s.run db = (.error e, d)) (statusCode : Nat) (detail : String) :
    ∃ e', (AlertService.onIntegrityError s statusCode detail).run db = (.error e', d) := by
  rw [AlertService.onIntegrityError, Session.run_tryCatch, h]
  dsimp only
  split
  · exact ⟨_, rfl⟩
  · exact ⟨_, rfl⟩

/-- A request that creates a rule and succeeds has inserted it and its state. -/
theorem create_eq_ok {request : AlertRuleDefinition} {now : Instant} {db : Database}
    (h : (alerting.step db (.request (.create request now))).2 = .ok ()) :
    ∃ inserted ruleId, insertRule request now db = .ok (inserted, ruleId) ∧
      insertRuleState ruleId inserted =
        .ok (alerting.step db (.request (.create request now))).1 := by
  change ((AlertService.createRule request now >>= fun _ ↦ Session.done ()).run db).1 = .ok () at h
  change ∃ inserted ruleId, insertRule request now db = .ok (inserted, ruleId) ∧
    insertRuleState ruleId inserted =
      .ok ((AlertService.createRule request now >>= fun _ ↦ Session.done ()).run db).2
  rw [Session.run_bind, AlertService.createRule, Session.run_bind, Session.run_withConnection,
    Block.eval_select] at h ⊢
  dsimp only at h ⊢
  cases hdevice : deviceExists request.deviceId db with
  | false =>
    rw [hdevice] at h
    cases h
  | true =>
    rw [hdevice] at h
    simp only [Bool.not_true, Bool.false_eq_true, if_false] at h ⊢
    have hcreate := run_createRule request now db
    cases hinsert : insertRule request now db with
    | error e =>
      rw [hinsert] at hcreate
      obtain ⟨e', hfails⟩ := run_onIntegrityError_error hcreate 409
        "A rule with this name already exists for the device"
      rw [hfails] at h
      cases h
    | ok inserted =>
      obtain ⟨inserted, ruleId⟩ := inserted
      rw [hinsert] at hcreate
      cases hstate : insertRuleState ruleId inserted with
      | error e =>
        simp only [hstate] at hcreate
        obtain ⟨e', hfails⟩ := run_onIntegrityError_error hcreate 409
          "A rule with this name already exists for the device"
        rw [hfails] at h
        cases h
      | ok created =>
        simp only [hstate] at hcreate
        refine ⟨inserted, ruleId, rfl, ?_⟩
        rw [AlertService.onIntegrityError, Session.run_tryCatch, hcreate]
        exact hstate

/-- A rule that is inserted passes its checks. -/
theorem duration_of_insertRule {request : AlertRuleDefinition} {now : Instant}
    {db inserted : Database} {ruleId : Nat}
    (h : insertRule request now db = .ok (inserted, ruleId)) : 0 ≤ request.durationSeconds := by
  rw [insertRule] at h
  cases hcheck : checkRule db (newRule request now (db.alertRules.sequence + 1)) with
  | error e =>
    simp only [hcheck] at h
    cases h
  | ok u =>
    rw [checkRule] at hcheck
    split at hcheck
    next hchecks =>
      simp only [AlertRule.checks, newRule, Bool.and_eq_true] at hchecks
      exact of_decide_eq_true hchecks.1.1.1.2
    next => cases hcheck

/-- A new rule has no history. -/
theorem Tracked.create {request : AlertRuleDefinition} {now : Instant}
    {db inserted created : Database} {ruleId : Nat} (hdb : Agreement db)
    (hinsert : insertRule request now db = .ok (inserted, ruleId))
    (hstate : insertRuleState ruleId inserted = .ok created) :
    Tracked (newRule request now (db.alertRules.sequence + 1)) ⟨[], .idle⟩ none created := by
  obtain ⟨rfl, hrows, hstates, hevents⟩ := insertRule_eq_ok hinsert
  obtain ⟨-, hfind, hrules', hevents'⟩ := insertRuleState_eq_ok hstate
  constructor
  · apply (Table.find_eq_some_iff _ _ _).mpr
    constructor
    · change _ ∈ created.alertRules.rows
      rw [hrules', hrows]
      exact List.mem_append_right _ (List.mem_singleton_self _)
    · rfl
  · rw [hfind]
    exact if_pos rfl
  · have hnone : eventsOf (db.alertRules.sequence + 1) created = [] := by
      rw [eventsOf, hevents', hevents]
      apply List.filter_eq_nil_iff.mpr
      intro e he hid
      obtain ⟨rule, hrule, hid'⟩ := hdb.known e he
      have hle := db.alertRules.key_le rule hrule
      rw [beq_iff_eq] at hid
      omega
    change (eventsOf (db.alertRules.sequence + 1) created).map unnumbered = []
    rw [hnone]
    rfl
  · exact List.forall_mem_nil _

/-! ### The reference holds -/

/-- However rules and samples came before it, a rule that is created enabled and that no later
request is for has exactly the events and the state that the history of its kept samples amounts
to. -/
theorem alert_engine_refines (db : Database) (before after : List AlertStep)
    (request : AlertRuleDefinition) (now : Instant) (henabled : request.enabled = true)
    (hcreated : (alerting.step (alerting.run (withoutRules db) before)
      (.request (.create request now))).2 = .ok ())
    (hafter : ∀ step ∈ after, step.target ≠
      some ((alerting.run (withoutRules db) before).alertRules.sequence + 1)) :
    let start := alerting.run (withoutRules db) before
    let rule := newRule request now (start.alertRules.sequence + 1)
    let reached := alerting.run start (.request (.create request now) :: after)
    let samples := keptSamples none (after.filterMap (·.sampleOf rule.deviceId))
    let history := rule.watch.read samples
    (eventsOf rule.id reached).map unnumbered = history.1.map rule.episodeEvent ∧
      reached.alertRuleStates.find rule.id =
        some (rule.phaseState history.2 samples.getLast?) := by
  intro start rule reached samples history
  have hempty : Agreement (withoutRules db) := agreement_withoutRules db
  have hstart : Agreement start :=
    alerting.invariant (fun _ step hd ↦ hd.step step) hempty before
  obtain ⟨inserted, ruleId, hinsert, hstate⟩ := create_eq_ok hcreated
  have hduration : 0 ≤ rule.durationSeconds := duration_of_insertRule hinsert
  let stored : Tracker Sample × Option Sample := (⟨[], .idle⟩, none)
  have hnew : Tracked rule stored.1 stored.2
      (alerting.step start (.request (.create request now))).1 := .create hstart hinsert hstate
  have hreached := hnew.run (hstart.step (.request (.create request now))) hduration henabled rfl
    hafter
  rw [foldl_advance] at hreached
  have hhistory : (samples.foldl rule.watch.follow ⟨[], .idle⟩).history = history := by
    rw [rule.watch.agrees samples []]
    rfl
  obtain ⟨-, hfound, hevents, -⟩ := hreached
  dsimp only at hfound hevents
  rw [hhistory] at hfound hevents
  rw [Option.or_none] at hfound
  exact ⟨hevents, hfound⟩

/-- A sample a second later violates the threshold, and the one after that recovers. -/
def warmThenCool : List AlertStep :=
  [.evaluate warmSample, .evaluate ⟨2, Text.ofString "pump-1", 500000, 10, 50⟩,
    .evaluate ⟨3, Text.ofString "pump-1", 2000000, 10, 50⟩]

theorem alert_engine_refines_sample :
    let rule := newRule warmRule 0 1
    let samples := keptSamples none (warmThenCool.filterMap (·.sampleOf rule.deviceId))
    (eventsOf 1 (alerting.run (withoutRules sampleRegistry)
      (.request (.create warmRule 0) :: warmThenCool))).map unnumbered =
        (rule.watch.read samples).1.map rule.episodeEvent := by
  have hrefines := alert_engine_refines sampleRegistry [] warmThenCool warmRule 0 rfl
    (by decide +kernel) (by decide +kernel)
  exact hrefines.1

end EdgeMonitor.Backend
