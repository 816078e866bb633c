import EdgeMonitor.Firmware.HealthTask

/-!
# The rate of health publications

Library `Firmware`. Whether the health task publishes in a loop. What it notes about a
publication changes the health that it publishes, and a failed publication is tried again. From
the beginning of an iteration on, and while nothing else changes, three publications in a row
with the same outcome take a heartbeat period.
-/

namespace EdgeMonitor.Firmware
open EdgeMonitor.Base

/-! ### Time -/

/-- An event at a time in ticks. The counter of ticks has 32 bits. -/
def HealthEvent.at (time : Nat) : HealthEvent → HealthEvent
  | .task input => .task { input with tick := UInt32.ofNat time }
  | e => e

/-- A health publication: the time that its iteration read, from which the next heartbeat is
counted, and whether the client accepted it. -/
structure HealthPublication where
  now : Nat
  accepted : Bool
  deriving DecidableEq

/-- The system, the time, and the time that the iteration has read last. -/
structure TimedHealth where
  system : HealthSystem
  clock : Nat
  now : Nat

/-- The system when the health task starts. -/
def TimedHealth.start : TimedHealth := ⟨.start, 0, 0⟩

/-- The step reads the time, `device_health_service.c:278`. -/
def HealthSystem.readsTime (s : HealthSystem) (e : HealthEvent) : Bool :=
  match e, s.task.step with
  | .task _, .generation _ => true
  | _, _ => false

/-- The publication that a step requests. -/
def HealthOutput.publication (now : Nat) : Option HealthOutput → Option HealthPublication
  | some (.handedOver _ accepted) => some ⟨now, accepted⟩
  | _ => none

/-- The health task and the other tasks in time: each event comes some ticks after the previous
one. -/
def timedHealth (periodTicks : UInt32) :
    Machine TimedHealth (Nat × HealthEvent) (Option HealthPublication) where
  step := fun x (delay, e) ↦
    let clock := x.clock + delay
    let r := (healthSystem periodTicks).step x.system (e.at clock)
    (⟨r.1, clock, if x.system.readsTime e then clock else x.now⟩,
      HealthOutput.publication x.now r.2)

/-- The publications of a run. -/
def healthPublications (t : List ((Nat × HealthEvent) × Option HealthPublication)) :
    List HealthPublication :=
  t.filterMap Prod.snd

theorem healthPublications_concat (t : List ((Nat × HealthEvent) × Option HealthPublication))
    (e : Nat × HealthEvent) (publication : Option HealthPublication) :
    (healthPublications (t ++ [(e, publication)])).reverse =
      publication.toList ++ (healthPublications t).reverse := by
  rw [healthPublications, List.filterMap_append, List.reverse_append]
  cases publication <;> rfl

/-- There is no reconnection, and neither another task nor the validity of the clock changes a
component. -/
def HealthSystem.Quiet (s : HealthSystem) : HealthEvent → Prop
  | .connected | .counted => False
  | .disconnected => True
  | .update component status error _ => s.health.state component = (status, error)
  | .task input =>
    s.task.step matches .systemTime →
      s.health.state .systemTime =
        if input.timeValid then (.healthy, .none) else (.degraded, .timeNotSynchronized)

instance (s : HealthSystem) (e : HealthEvent) : Decidable (s.Quiet e) :=
  match e with
  | .connected | .counted => inferInstanceAs (Decidable False)
  | .disconnected => inferInstanceAs (Decidable True)
  | .update component status error _ =>
    inferInstanceAs (Decidable (s.health.state component = (status, error)))
  | .task _ => inferInstanceAs (Decidable (_ = true → _))

/-! ### Publications in a row -/

/-- Of three publications in a row with the same outcome, the latest first, the third comes a
period after the first. -/
def Spaced (period : Nat) : List HealthPublication → Prop
  | r :: q :: p :: before =>
    (p.accepted = r.accepted → q.accepted = r.accepted → p.now + period ≤ r.now) ∧
      Spaced period (q :: p :: before)
  | _ => True

/-- The latest first. -/
def Ordered (publications : List HealthPublication) : Prop :=
  publications.Pairwise fun r p ↦ p.now ≤ r.now

/-- Three publications with the same outcome, with no other outcome in between, take a period. -/
theorem Spaced.now_add_le {period : Nat} {after between before : List HealthPublication}
    {p r : HealthPublication} (h : Spaced period (after ++ r :: (between ++ p :: before)))
    (hordered : Ordered (after ++ r :: (between ++ p :: before))) (hbetween : between ≠ [])
    (hsame : ∀ q ∈ between, q.accepted = r.accepted) (hp : p.accepted = r.accepted) :
    p.now + period ≤ r.now := by
  induction after with
  | nil =>
    obtain ⟨q, between, rfl⟩ := List.exists_cons_of_ne_nil hbetween
    have hq := hsame q List.mem_cons_self
    cases between with
    | nil => exact h.1 hp hq
    | cons q' between =>
      have hspan := h.1 (hsame q' (List.mem_cons_of_mem q List.mem_cons_self)) hq
      have hlater := (List.pairwise_cons.mp (List.pairwise_cons.mp hordered).2).2
      have hle : p.now ≤ q'.now := (List.pairwise_cons.mp hlater).1 p (by simp)
      omega
  | cons x after ih =>
    have htail : Spaced period (after ++ r :: (between ++ p :: before)) := by
      rcases after with _ | ⟨y, after⟩
      · cases between with
        | nil => exact absurd rfl hbetween
        | cons q between => exact h.2
      · rcases after with _ | ⟨z, after⟩ <;> exact h.2
    exact ih htail (List.pairwise_cons.mp hordered).2

/-- The same in the order of time. -/
theorem now_add_le_of_row {period : Nat} {publications earlier between later :
    List HealthPublication} {p r : HealthPublication} (h : Spaced period publications.reverse)
    (hordered : Ordered publications.reverse)
    (heq : publications = earlier ++ p :: (between ++ r :: later)) (hbetween : between ≠ [])
    {accepted : Bool} (hsame : ∀ q ∈ p :: (between ++ [r]), q.accepted = accepted) :
    p.now + period ≤ r.now := by
  have hreverse : publications.reverse =
      later.reverse ++ r :: (between.reverse ++ p :: earlier.reverse) := by
    rw [heq]
    simp
  rw [hreverse] at h hordered
  have hp := hsame p List.mem_cons_self
  have hr := hsame r (by simp)
  apply h.now_add_le hordered
  · simpa using hbetween
  · intro q hq
    have hmem : q ∈ between := List.mem_reverse.mp hq
    exact (hsame q (by simp [hmem])).trans hr.symm
  · exact hp.trans hr.symm

/-- Three elements of a list with what is between the first and the third. -/
theorem exists_between_of_sublist {α : Type} {p q r : α} {l : List α}
    (h : [p, q, r].Sublist l) :
    ∃ earlier between later, l = earlier ++ p :: (between ++ r :: later) ∧ between ≠ [] := by
  obtain ⟨front, rest, rfl, hp, hrest⟩ := List.cons_sublist_iff.mp h
  obtain ⟨middle, last, rfl, hq, hlast⟩ := List.cons_sublist_iff.mp hrest
  obtain ⟨earlier, front', rfl⟩ := List.append_of_mem hp
  obtain ⟨last', later, rfl⟩ := List.append_of_mem (List.singleton_sublist.mp hlast)
  refine ⟨earlier, front' ++ (middle ++ last'), later, by simp, ?_⟩
  intro hnil
  rw [List.append_eq_nil_iff, List.append_eq_nil_iff] at hnil
  rw [hnil.2.1] at hq
  cases hq

/-- When all publications have the same outcome, a time shorter than the period contains at most
two. -/
theorem length_filter_le_two {period : Nat} {publications : List HealthPublication}
    (h : Spaced period publications.reverse) (hordered : Ordered publications.reverse)
    {accepted : Bool} (hsame : ∀ p ∈ publications, p.accepted = accepted) {time duration : Nat}
    (hduration : duration < period) :
    (publications.filter fun p ↦ time ≤ p.now ∧ p.now ≤ time + duration).length ≤ 2 := by
  by_contra hmore
  have hwithin : ∀ p ∈ publications.filter fun p ↦ time ≤ p.now ∧ p.now ≤ time + duration,
      time ≤ p.now ∧ p.now ≤ time + duration := by
    intro p hp
    exact of_decide_eq_true (List.mem_filter.mp hp).2
  have hsub := List.filter_sublist (p := fun p : HealthPublication ↦
    decide (time ≤ p.now ∧ p.now ≤ time + duration)) (l := publications)
  rcases hfilter : publications.filter fun p ↦ time ≤ p.now ∧ p.now ≤ time + duration with
    _ | ⟨p, _ | ⟨q, _ | ⟨r, rest⟩⟩⟩
  · exact hmore (by rw [hfilter]; exact Nat.zero_le 2)
  · exact hmore (by rw [hfilter]; exact Nat.le_succ 1)
  · exact hmore (by rw [hfilter]; exact Nat.le_refl 2)
  · rw [hfilter] at hsub hwithin
    have hthree : [p, q, r].Sublist publications :=
      (List.prefix_append [p, q, r] rest).sublist.trans hsub
    obtain ⟨earlier, between, later, heq, hbetween⟩ := exists_between_of_sublist hthree
    have hrow : ∀ q ∈ p :: (between ++ [r]), q.accepted = accepted := by
      intro q hq
      apply hsame
      rw [heq]
      simp only [List.mem_cons, List.mem_append, List.not_mem_nil, or_false] at hq ⊢
      tauto
    have hspan := now_add_le_of_row h hordered heq hbetween hrow
    have hfirst := (hwithin p (by simp)).1
    have hthird := (hwithin r (by simp)).2
    omega

/-! ### What an iteration depends on -/

/-- Whether a step reads the time does not depend on the time. -/
theorem HealthSystem.readsTime_at (s : HealthSystem) (e : HealthEvent) (time : Nat) :
    s.readsTime (e.at time) = s.readsTime e := by
  cases e with
  | task input =>
    change s.readsTime (.task _) = s.readsTime (.task _)
    unfold readsTime
    cases s.task.step <;> rfl
  | connected | counted | disconnected | update => rfl

/-- What the health task has noted, and what it compares with. -/
structure HealthNotes where
  /-- The task has found MQTT connected and reported it. -/
  reported : Bool
  lastHeartbeat : UInt32
  lastAttemptedRevision : UInt32
  healthRetryPending : Bool
  stateRevision : UInt32
  mqtt : ComponentStatus × HealthError

/-- The notes in a state. -/
def HealthSystem.notes (s : HealthSystem) : HealthNotes where
  reported := s.task.mqttStateObserved && s.task.mqttWasConnected
  lastHeartbeat := s.task.lastHeartbeat
  lastAttemptedRevision := s.task.lastAttemptedRevision
  healthRetryPending := s.task.healthRetryPending
  stateRevision := s.health.stateRevision
  mqtt := s.health.state .mqtt

/-- Nothing but the heartbeat is a reason to publish. -/
def HealthNotes.Settled (notes : HealthNotes) : Prop :=
  notes.healthRetryPending = false ∧ notes.lastAttemptedRevision = notes.stateRevision

/-- What holds until the next decision when `p` is the last publication. -/
structure HealthNotes.After (period : Nat) (notes : HealthNotes) (p : HealthPublication)
    (earlier : List HealthPublication) : Prop where
  reported : notes.reported = true
  heartbeat : notes.lastHeartbeat = UInt32.ofNat p.now
  failed : p.accepted = false → notes.lastAttemptedRevision = notes.stateRevision
  accepted : p.accepted = true →
    notes.healthRetryPending = false ∧ notes.mqtt = (.healthy, .none)
  settled : ∀ q ∈ earlier.head?, q.accepted = p.accepted →
    q.now + period ≤ p.now ∨ notes.Settled

/-- What holds at the time `now` of an iteration that has decided to publish. -/
structure HealthNotes.Publishing (period now : Nat) (notes : HealthNotes) (i : HealthIteration)
    (earlier : List HealthPublication) : Prop where
  reported : notes.reported = true
  time : i.now = UInt32.ofNat now
  snapshot : i.snapshot.stateRevision = notes.stateRevision
  pending : notes.healthRetryPending = false
  failed : ∀ p ∈ earlier.head?, p.accepted = false → i.retryAttempt = true ∨ p.now + period ≤ now
  accepted : ∀ p ∈ earlier.head?, p.accepted = true → notes.mqtt = (.healthy, .none)
  spaced : ∀ p ∈ earlier.head?, ∀ q ∈ earlier.tail.head?, q.accepted = p.accepted →
    q.now + period ≤ now

/-- What holds after the client has rejected the publication of an iteration. -/
structure HealthNotes.Failed (period now : Nat) (notes : HealthNotes) (i : HealthIteration)
    (publications : List HealthPublication) : Prop where
  reported : notes.reported = true
  time : i.now = UInt32.ofNat now
  last : publications.head? = some ⟨now, false⟩
  failed : ∀ p ∈ publications.tail.head?, p.accepted = false →
    i.retryAttempt = true ∨ p.now + period ≤ now

/-- What holds after the client has accepted the publication of an iteration. -/
structure HealthNotes.Succeeded (period now : Nat) (notes : HealthNotes) (i : HealthIteration)
    (publications : List HealthPublication) : Prop where
  last : publications.head? = some ⟨now, true⟩
  publishing : notes.Publishing period now i publications.tail

namespace HealthSystem

/-- What holds between publications. -/
def Waiting (period : Nat) (s : HealthSystem) (generation : UInt32)
    (publications : List HealthPublication) : Prop :=
  ∀ p ∈ publications.head?,
    generation = s.mqtt.generation ∧ s.notes.After period p publications.tail

/-- What holds at a step of an iteration that began after the last connection, when the
publications are the ones since then, the latest first. -/
def Standing (period : Nat) (s : HealthSystem) (now : Nat)
    (publications : List HealthPublication) : Prop :=
  match s.task.step with
  | .systemTime | .connection _ =>
    s.mqtt.connected = true → s.Waiting period s.task.lastConnectionGeneration publications
  | .availability _ connected | .mqttComponent _ connected =>
    s.mqtt.connected = true →
      connected = true ∧ s.Waiting period s.task.lastConnectionGeneration publications
  | .snapshot =>
    s.mqtt.connected = true → s.notes.reported = true ∧
      s.Waiting period s.task.lastConnectionGeneration publications
  | .generation snapshot =>
    s.mqtt.connected = true → s.notes.reported = true ∧
      snapshot.stateRevision = s.health.stateRevision ∧
      s.Waiting period s.task.lastConnectionGeneration publications
  | .check snapshot time generation =>
    s.mqtt.connected = true → s.notes.reported = true ∧
      snapshot.stateRevision = s.health.stateRevision ∧ time = UInt32.ofNat now ∧
      generation = s.mqtt.generation ∧
      s.Waiting period s.task.lastConnectionGeneration publications
  -- A publication is requested also when the connection has ended since the decision.
  | .online i | .healthSnapshot i | .publish i _ =>
    i.generation = s.mqtt.generation ∧ s.notes.Publishing period now i publications
  | .failure i =>
    i.generation = s.mqtt.generation ∧ s.notes.healthRetryPending = false ∧
      s.notes.Failed period now i publications
  | .retry i =>
    i.generation = s.mqtt.generation ∧ i.retryAttempt = false ∧
      s.notes.Failed period now i publications
  | .failedSnapshot i =>
    i.generation = s.mqtt.generation ∧
      (i.retryAttempt = true → s.notes.healthRetryPending = false) ∧
      s.notes.Failed period now i publications
  | .success i | .successComponent i =>
    i.generation = s.mqtt.generation ∧ s.notes.Succeeded period now i publications
  | .finish generation =>
    s.mqtt.connected = true → generation = s.mqtt.generation ∧
      s.Waiting period generation publications

/-! ### Steps of the task -/

variable {periodTicks : UInt32} {s : HealthSystem} {input : HealthInput} {now : Nat}
  {publications earlier : List HealthPublication} {p : HealthPublication}

/-- The counter of ticks wraps around, but a heartbeat that is due comes a period after the
last one. -/
theorem now_add_le_of_heartbeat {last : Nat} (hle : last ≤ now)
    (h : UInt32.ofNat now - UInt32.ofNat last ≥ periodTicks) :
    last + periodTicks.toNat ≤ now := by
  have hdiff := UInt32.le_iff_toNat_le.mp h
  rw [UInt32.toNat_sub, UInt32.toNat_ofNat', UInt32.toNat_ofNat'] at hdiff
  omega

/-- The reasons for another publication, unless there was a reconnection. -/
theorem reason_of_publishes {snapshot : DeviceHealth} {generation : UInt32}
    (hafter : s.notes.After periodTicks.toNat p earlier) (hle : p.now ≤ now)
    (hsnapshot : snapshot.stateRevision = s.health.stateRevision)
    (hgeneration : generation = s.task.lastConnectionGeneration)
    (h : (s.decision periodTicks snapshot (UInt32.ofNat now) generation).publishes = true) :
    p.now + periodTicks.toNat ≤ now ∨ s.notes.lastAttemptedRevision ≠ s.notes.stateRevision ∨
      s.notes.healthRetryPending = true := by
  simp only [HealthDecision.publishes, decision, Bool.or_eq_true] at h
  rcases h with ((hreconnected | hheartbeat) | hchanged) | hretry
  · exact absurd hgeneration (bne_iff_ne.mp hreconnected)
  · left
    apply now_add_le_of_heartbeat hle
    have hdue := of_decide_eq_true hheartbeat
    rwa [show s.task.lastHeartbeat = UInt32.ofNat p.now from hafter.heartbeat] at hdue
  · right
    left
    intro heq
    apply bne_iff_ne.mp hchanged
    exact hsnapshot.trans heq.symm
  · exact .inr (.inr hretry)

/-- The decision to publish. -/
theorem publishing_check {snapshot : DeviceHealth} {time generation : UInt32}
    {step : HealthStep}
    (hwaiting : s.Waiting periodTicks.toNat s.task.lastConnectionGeneration publications)
    (hreported : s.notes.reported = true)
    (hsnapshot : snapshot.stateRevision = s.health.stateRevision)
    (htime : time = UInt32.ofNat now) (hgeneration : generation = s.mqtt.generation)
    (hordered : Ordered publications) (hnow : ∀ p ∈ publications.head?, p.now ≤ now)
    (h : (s.decision periodTicks snapshot time generation).publishes = true) :
    (s.startPublication step).notes.Publishing periodTicks.toNat now
      ⟨snapshot, time, generation, s.task.healthRetryPending⟩ publications := by
  subst htime
  have hreason : ∀ p ∈ publications.head?, p.now + periodTicks.toNat ≤ now ∨
      s.notes.lastAttemptedRevision ≠ s.notes.stateRevision ∨
      s.notes.healthRetryPending = true := by
    intro p hp
    obtain ⟨hlast, hafter⟩ := hwaiting p hp
    exact reason_of_publishes hafter (hnow p hp) hsnapshot (hgeneration.trans hlast.symm) h
  constructor
  · exact hreported
  · rfl
  · exact hsnapshot
  · rfl
  · intro p hp hfailed
    rcases hreason p hp with hspan | hchanged | hretry
    · exact .inr hspan
    · exact absurd ((hwaiting p hp).2.failed hfailed) hchanged
    · exact .inl hretry
  · exact fun p hp haccepted ↦ ((hwaiting p hp).2.accepted haccepted).2
  · intro p hp q hq hsame
    have hle : q.now ≤ p.now := by
      obtain ⟨earlier, rfl⟩ := List.head?_eq_some_iff.mp hp
      exact (List.pairwise_cons.mp hordered).1 q (List.mem_of_head? hq)
    have hple := hnow p hp
    rcases (hwaiting p hp).2.settled q hq hsame with hspan | ⟨hpending, hrevision⟩
    · exact Nat.le_trans hspan hple
    · rcases hreason p hp with hspan | hchanged | hretry
      · omega
      · exact absurd hrevision hchanged
      · rw [hpending] at hretry
        cases hretry

/-- The end of an iteration whose publication the client has rejected. -/
theorem after_failedSnapshot {i : HealthIteration}
    (hpending : i.retryAttempt = true → s.notes.healthRetryPending = false)
    (h : s.notes.Failed periodTicks.toNat now i publications) :
    ∀ p ∈ publications.head?, (s.published i s.health.stateRevision).notes.After
      periodTicks.toNat p publications.tail := by
  intro p hp
  have hlast := h.last
  rw [Option.mem_def.mp hp] at hlast
  cases hlast
  constructor
  · exact h.reported
  · exact h.time
  · exact fun _ ↦ rfl
  · intro haccepted
    cases haccepted
  · intro q hq hsame
    rcases h.failed q hq hsame with hretry | hspan
    · exact .inr ⟨hpending hretry, rfl⟩
    · exact .inl hspan

/-- The end of an iteration whose publication the client has accepted. When the previous one was
accepted too, the report that MQTT works has changed nothing. -/
theorem after_successComponent {i : HealthIteration} (hsummary : s.health.Summarizes)
    (h : s.notes.Succeeded periodTicks.toNat now i publications) :
    ∀ p ∈ publications.head?,
      ((s.updateComponent .mqtt .healthy .none input.timestamp).published i
        i.snapshot.stateRevision).notes.After periodTicks.toNat p publications.tail := by
  intro p hp
  have hlast := h.last
  rw [Option.mem_def.mp hp] at hlast
  cases hlast
  have hpublishing := h.publishing
  constructor
  · exact hpublishing.reported
  · exact hpublishing.time
  · intro hfailed
    cases hfailed
  · exact fun _ ↦ ⟨hpublishing.pending, DeviceHealth.state_updateComponent_self⟩
  · intro q hq hsame
    right
    have hmqtt := hpublishing.accepted q hq hsame
    refine ⟨hpublishing.pending, hpublishing.snapshot.trans ?_⟩
    exact (DeviceHealth.stateRevision_updateComponent_of_eq hsummary hmqtt).symm

/-- An update that changes no component changes no note. -/
theorem notes_updateComponent_of_eq {component : HealthComponent} {status : ComponentStatus}
    {error : HealthError} {updatedAt : Option (List UInt8)} (hsummary : s.health.Summarizes)
    (hsame : s.health.state component = (status, error)) :
    (s.updateComponent component status error updatedAt).notes = s.notes := by
  have hrevision : (s.health.updateComponent component status error updatedAt).stateRevision =
      s.health.stateRevision := DeviceHealth.stateRevision_updateComponent_of_eq hsummary hsame
  have hstate : (s.health.updateComponent component status error updatedAt).state .mqtt =
      s.health.state .mqtt := DeviceHealth.state_updateComponent_of_eq hsame .mqtt
  simp only [notes, updateComponent, hrevision, hstate]

/-- The report of the clock. -/
theorem advance_systemTime (hstep : s.task.step = .systemTime) (hquiet : s.Quiet (.task input)) :
    ∃ status error updatedAt, s.health.state .systemTime = (status, error) ∧
      s.advance periodTicks input =
        ((s.updateComponent .systemTime status error updatedAt).goto
          (.connection input.timestamp), none) := by
  have hsame := hquiet (by rw [hstep])
  unfold advance
  rw [hstep]
  by_cases hvalid : input.timeValid = true
  · rw [if_pos hvalid] at hsame
    exact ⟨_, _, _, hsame, if_pos hvalid⟩
  · rw [if_neg hvalid] at hsame
    exact ⟨_, _, _, hsame, if_neg hvalid⟩

/-- The report of MQTT changes nothing after it has been made. -/
theorem reportMqtt_of_reported {timestamp : Option (List UInt8)}
    (h : s.notes.reported = true) : s.reportMqtt timestamp true = s := by
  obtain ⟨hobserved, hconnected⟩ := Bool.and_eq_true_iff.mp h
  simp [reportMqtt, hobserved, hconnected]

/-- What holds between publications depends on the notes. -/
theorem Waiting.of_notes {s' : HealthSystem} {period : Nat} {generation : UInt32}
    (h : s.Waiting period generation publications) (hmqtt : s'.mqtt = s.mqtt)
    (hnotes : ∀ p ∈ publications.head?, s.notes.reported = true → s'.notes = s.notes) :
    s'.Waiting period generation publications := by
  intro p hp
  obtain ⟨hgeneration, hafter⟩ := h p hp
  rw [hmqtt, hnotes p hp hafter.reported]
  exact ⟨hgeneration, hafter⟩

/-- The report of MQTT, after which it has been reported. -/
theorem standing_mqttComponent {period : Nat} {timestamp : Option (List UInt8)} {connected : Bool}
    (hstep : s.task.step = .mqttComponent timestamp connected)
    (h : s.Standing period now publications) :
    (s.advance periodTicks input).1.Standing period now publications := by
  simp only [Standing, hstep] at h
  simp only [advance, hstep]
  have hsame : (s.reportMqtt timestamp connected).mqtt = s.mqtt ∧
      (s.reportMqtt timestamp connected).task = s.task := by
    rcases s.reportMqtt_cases timestamp connected with hr | ⟨_, _, hr⟩
    · rw [hr]
      exact ⟨rfl, rfl⟩
    · rw [hr]
      exact ⟨rfl, rfl⟩
  obtain ⟨hmqtt, htask⟩ := hsame
  intro hup
  change (s.reportMqtt timestamp connected).mqtt.connected = true at hup
  rw [hmqtt] at hup
  obtain ⟨rfl, hwaiting⟩ := h hup
  rw [htask]
  refine ⟨rfl, ?_⟩
  refine hwaiting.of_notes hmqtt ?_
  intro p _ hreported
  obtain ⟨hobserved, hconnected⟩ := Bool.and_eq_true_iff.mp hreported
  rw [reportMqtt_of_reported hreported]
  simp [notes, hobserved, hconnected]

/-- The decision, which leads to the end of the iteration or to a publication. -/
theorem standing_check {snapshot : DeviceHealth} {time generation : UInt32}
    (hstep : s.task.step = .check snapshot time generation) (hordered : Ordered publications)
    (hnow : ∀ p ∈ publications.head?, p.now ≤ now)
    (h : s.Standing periodTicks.toNat now publications) :
    (s.check periodTicks snapshot time generation).1.Standing periodTicks.toNat now
      publications := by
  simp only [Standing, hstep] at h
  unfold check
  by_cases hup : s.mqtt.connected = true
  · obtain ⟨hreported, hsnapshot, htime, hgeneration, hwaiting⟩ := h hup
    rw [if_pos hup]
    by_cases hpublishes :
        (s.decision periodTicks snapshot time generation).publishes = true
    · rw [if_pos hpublishes]
      -- Both ways to publish begin with the same notes.
      have hpublishing : ∀ step, (s.startPublication step).notes.Publishing periodTicks.toNat now
          ⟨snapshot, time, generation, s.task.healthRetryPending⟩ publications :=
        fun step ↦ publishing_check hwaiting hreported hsnapshot htime hgeneration hordered hnow
          hpublishes
      by_cases hreconnected :
          (s.decision periodTicks snapshot time generation).reconnected = true
      · rw [if_pos hreconnected]
        exact ⟨hgeneration, hpublishing _⟩
      · rw [if_neg hreconnected]
        exact ⟨hgeneration, hpublishing _⟩
    · rw [if_neg hpublishes]
      exact fun _ ↦ ⟨hgeneration, fun p hp ↦ ⟨hgeneration, (hwaiting p hp).2⟩⟩
  · rw [if_neg hup]
    exact fun hup' ↦ absurd hup' hup

/-- The answer of the client. -/
theorem standing_publish {period : Nat} {i : HealthIteration} {handed : DeviceHealth}
    (hstep : s.task.step = .publish i handed) (h : s.Standing period now publications) :
    (s.advance periodTicks input).1.Standing period now
      ((HealthOutput.publication now (s.advance periodTicks input).2).toList ++ publications) := by
  simp only [Standing, hstep] at h
  simp only [advance, hstep]
  obtain ⟨hgeneration, hpublishing⟩ := h
  cases s.mqtt.publish input.accepted with
  | false => exact ⟨hgeneration, hpublishing.pending, hpublishing.reported, hpublishing.time, rfl,
      hpublishing.failed⟩
  | true => exact ⟨hgeneration, rfl, hpublishing⟩

/-- The decision requests no publication. -/
theorem publication_check {snapshot : DeviceHealth} {time generation : UInt32} :
    HealthOutput.publication now (s.check periodTicks snapshot time generation).2 = none := by
  rcases s.check_cases periodTicks snapshot time generation with ⟨-, hcheck⟩ | ⟨-, -, hcheck⟩ |
    ⟨-, -, hcheck⟩ | ⟨-, -, hcheck⟩
  all_goals
    rw [hcheck]
    rfl

/-- The record of a failure, after which only a publication that was no retry is retried. -/
theorem standing_failure {period : Nat} {i : HealthIteration} (hstep : s.task.step = .failure i)
    (h : s.Standing period now publications) :
    (s.advance periodTicks input).1.Standing period now publications := by
  simp only [Standing, hstep] at h
  simp only [advance, hstep]
  obtain ⟨hgeneration, hpending, hfailed⟩ := h
  by_cases hretry : i.retryAttempt = true
  · rw [if_pos hretry]
    exact ⟨hgeneration, fun _ ↦ hpending, hfailed.reported, hfailed.time, hfailed.last,
      hfailed.failed⟩
  · rw [if_neg hretry]
    exact ⟨hgeneration, eq_false_of_ne_true hretry, hfailed.reported, hfailed.time, hfailed.last,
      hfailed.failed⟩

/-- The record of a success. -/
theorem standing_success {period : Nat} {i : HealthIteration} (hstep : s.task.step = .success i)
    (h : s.Standing period now publications) :
    (s.advance periodTicks input).1.Standing period now
      ((HealthOutput.publication now (s.advance periodTicks input).2).toList ++ publications) := by
  simp only [Standing, hstep] at h
  simp only [advance, hstep]
  by_cases hup : s.mqtt.connected = true
  · rw [if_pos hup]
    exact h
  · rw [if_neg hup]
    exact fun hup' ↦ absurd hup' hup

/-- A step of the health task keeps what holds at its steps. -/
theorem standing_advance {clock : Nat} (hsummary : s.health.Summarizes)
    (hquiet : s.Quiet (.task input)) (htick : input.tick = UInt32.ofNat clock)
    (hordered : Ordered publications) (hnow : ∀ p ∈ publications.head?, p.now ≤ now)
    (h : s.Standing periodTicks.toNat now publications) :
    (s.advance periodTicks input).1.Standing periodTicks.toNat
      (if s.readsTime (.task input) then clock else now)
      ((HealthOutput.publication now (s.advance periodTicks input).2).toList ++ publications) := by
  obtain ⟨health, mqtt, task⟩ := s
  obtain ⟨lastHeartbeat, lastAttempted, lastGeneration, pending, observed, wasConnected, step⟩ :=
    task
  cases step with
  | systemTime =>
    obtain ⟨status, error, updatedAt, hsame, hadvance⟩ :=
      @advance_systemTime periodTicks _ _ rfl hquiet
    rw [hadvance]
    intro hup
    exact (h hup).of_notes rfl fun _ _ _ ↦ notes_updateComponent_of_eq hsummary hsame
  | connection timestamp => exact fun hup ↦ ⟨hup, h hup⟩
  | availability timestamp connected => exact h
  | mqttComponent timestamp connected => exact standing_mqttComponent rfl h
  | snapshot => exact fun hup ↦ ⟨(h hup).1, rfl, (h hup).2⟩
  | generation snapshot =>
    intro hup
    obtain ⟨hreported, hsnapshot, hwaiting⟩ := h hup
    exact ⟨hreported, hsnapshot, htick, rfl, hwaiting⟩
  | check snapshot time generation =>
    have hcheck := standing_check rfl hordered hnow h
    rw [show HealthOutput.publication now (advance periodTicks _ input).2 = none from
      publication_check]
    exact hcheck
  | online i => exact h
  | healthSnapshot i => exact h
  | publish i handed => exact standing_publish rfl h
  | failure i => exact standing_failure rfl h
  | retry i =>
    obtain ⟨hgeneration, hretry, hfailed⟩ := h
    refine ⟨hgeneration, ?_, hfailed.reported, hfailed.time, hfailed.last, hfailed.failed⟩
    intro hattempt
    rw [hretry] at hattempt
    cases hattempt
  | failedSnapshot i =>
    obtain ⟨hgeneration, hpending, hfailed⟩ := h
    exact fun _ ↦ ⟨hgeneration,
      fun p hp ↦ ⟨hgeneration, after_failedSnapshot hpending hfailed p hp⟩⟩
  | success i => exact standing_success rfl h
  | successComponent i =>
    obtain ⟨hgeneration, hsucceeded⟩ := h
    exact fun _ ↦ ⟨hgeneration,
      fun p hp ↦ ⟨hgeneration, after_successComponent hsummary hsucceeded p hp⟩⟩
  | finish generation => exact fun hup ↦ (h hup).2

/-! ### Steps of the other tasks -/

/-- What holds at the steps depends on the notes, the task and the generation, and stays when the
connection ends. -/
theorem Standing.of_notes {s' : HealthSystem} {period : Nat}
    (h : s.Standing period now publications) (htask : s'.task = s.task)
    (hgeneration : s'.mqtt.generation = s.mqtt.generation)
    (hconnected : s'.mqtt.connected = true → s.mqtt.connected = true)
    (hnotes : s'.notes = s.notes) : s'.Standing period now publications := by
  have hrevision : s'.health.stateRevision = s.health.stateRevision :=
    congrArg HealthNotes.stateRevision hnotes
  unfold Standing at h ⊢
  simp only [Waiting, htask, hgeneration, hnotes, hrevision] at h ⊢
  split at h <;> first | exact h | exact fun hup ↦ h (hconnected hup)

/-- The summary of the health stays the one of its components. -/
theorem summarizes_advance (h : s.health.Summarizes) :
    (s.advance periodTicks input).1.health.Summarizes := by
  obtain ⟨health, mqtt, task⟩ := s
  obtain ⟨lastHeartbeat, lastAttempted, lastGeneration, pending, observed, wasConnected, step⟩ :=
    task
  cases step with
  | systemTime =>
    simp only [advance]
    split <;> rfl
  | mqttComponent timestamp connected =>
    simp only [advance]
    rcases reportMqtt_cases ⟨health, mqtt, lastHeartbeat, lastAttempted, lastGeneration, pending,
      observed, wasConnected, .mqttComponent timestamp connected⟩ timestamp connected with
      hr | ⟨_, _, hr⟩
    · rw [hr]
      exact h
    · rw [hr]
      rfl
  | check snapshot time generation =>
    simp only [advance, check]
    split
    · split <;> exact h
    · exact h
  | success i =>
    simp only [advance]
    split <;> exact h
  | failure i | successComponent i => rfl
  | connection | availability | snapshot | generation | online | healthSnapshot | publish | retry
  | failedSnapshot | finish => exact h

/-- A publication is requested at one step of an iteration, and its time is the one that the
iteration read. -/
theorem publication_advance (h : HealthOutput.publication now (s.advance periodTicks input).2 =
    some p) : p.now = now ∧ ∃ i handed, s.task.step = .publish i handed := by
  obtain ⟨health, mqtt, task⟩ := s
  obtain ⟨lastHeartbeat, lastAttempted, lastGeneration, pending, observed, wasConnected, step⟩ :=
    task
  cases step with
  | publish i handed =>
    cases h
    exact ⟨rfl, i, handed, rfl⟩
  | check snapshot time generation =>
    rw [show HealthOutput.publication now (advance periodTicks _ input).2 = none from
      publication_check] at h
    cases h
  | systemTime | success i =>
    simp only [advance] at h
    split at h <;> cases h
  | connection | availability | mqttComponent | snapshot | generation | online | healthSnapshot
  | failure | retry | failedSnapshot | successComponent | finish => cases h

end HealthSystem

/-! ### Runs -/

namespace TimedHealth

variable {periodTicks : UInt32} {x : TimedHealth} {e : HealthEvent} {delay : Nat}
  {publications : List HealthPublication}

/-- What holds whatever happens: the iteration has read no later time, and the summary of the
health is the one of its components. -/
structure Sound (x : TimedHealth) : Prop where
  now_le : x.now ≤ x.clock
  summary : x.system.health.Summarizes

theorem sound_start : Sound .start := ⟨Nat.le_refl 0, DeviceHealth.summarizes_init⟩

theorem sound_step (h : x.Sound) : ((timedHealth periodTicks).step x (delay, e)).1.Sound := by
  constructor
  · change (if x.system.readsTime e then x.clock + delay else x.now) ≤ x.clock + delay
    have hle := h.now_le
    split <;> omega
  · cases e with
    | task input => exact HealthSystem.summarizes_advance h.summary
    | update => exact DeviceHealth.summarizes_updateComponent
    | connected | counted | disconnected => exact h.summary

/-- What holds of the publications, the latest first, at a time. -/
structure Recorded (period now : Nat) (publications : List HealthPublication) : Prop where
  ordered : Ordered publications
  now_le : ∀ p ∈ publications.head?, p.now ≤ now
  spaced : Spaced period publications

theorem Recorded.later {period now now' : Nat} (h : Recorded period now publications)
    (hle : now ≤ now') : Recorded period now' publications :=
  ⟨h.ordered, fun p hp ↦ Nat.le_trans (h.now_le p hp) hle, h.spaced⟩

/-- A publication of an iteration that has decided to publish. -/
theorem Recorded.publish {period now : Nat} {notes : HealthNotes} {i : HealthIteration}
    (h : Recorded period now publications)
    (hpublishing : notes.Publishing period now i publications) (accepted : Bool) :
    Recorded period now (⟨now, accepted⟩ :: publications) := by
  have hall : ∀ p ∈ publications, p.now ≤ now := by
    intro p hp
    cases publications with
    | nil => cases hp
    | cons q earlier =>
      have hq := h.now_le q rfl
      rcases List.mem_cons.mp hp with rfl | hp
      · exact hq
      · exact Nat.le_trans ((List.pairwise_cons.mp h.ordered).1 p hp) hq
  constructor
  · exact List.pairwise_cons.mpr ⟨hall, h.ordered⟩
  · intro p hp
    cases hp
    exact Nat.le_refl now
  · rcases publications with _ | ⟨p, _ | ⟨q, earlier⟩⟩
    · trivial
    · trivial
    · refine ⟨fun hq hp ↦ ?_, h.spaced⟩
      exact hpublishing.spaced p rfl q rfl (hq.trans hp.symm)

/-- What holds in a segment after the publications, the latest first. -/
structure Loops (period : Nat) (x : TimedHealth) (publications : List HealthPublication) :
    Prop where
  sound : x.Sound
  recorded : Recorded period x.now publications
  standing : x.system.Standing period x.now publications

/-- A step of the health task goes on with what holds. -/
theorem loops_task {input : HealthInput} (h : x.Loops periodTicks.toNat publications)
    (hquiet : x.system.Quiet (.task input)) :
    ((timedHealth periodTicks).step x (delay, .task input)).1.Loops periodTicks.toNat
      (((timedHealth periodTicks).step x (delay, .task input)).2.toList ++ publications) := by
  have hsound := h.sound
  have hlater : x.now ≤ ((timedHealth periodTicks).step x (delay, .task input)).1.now := by
    change x.now ≤ if x.system.readsTime (.task input) then x.clock + delay else x.now
    have hle := hsound.now_le
    split <;> omega
  have hrecorded : Recorded periodTicks.toNat x.now
      (((timedHealth periodTicks).step x (delay, .task input)).2.toList ++ publications) := by
    cases hp : ((timedHealth periodTicks).step x (delay, .task input)).2 with
    | none => exact h.recorded
    | some p =>
      obtain ⟨hnow, i, handed, hstep⟩ := HealthSystem.publication_advance hp
      have hstanding := h.standing
      rw [HealthSystem.Standing, hstep] at hstanding
      have hp' : p = ⟨x.now, p.accepted⟩ := by rw [← hnow]
      rw [hp']
      exact h.recorded.publish hstanding.2 p.accepted
  have hstanding := @HealthSystem.standing_advance periodTicks x.system
    { input with tick := UInt32.ofNat (x.clock + delay) } x.now publications (x.clock + delay)
    hsound.summary hquiet rfl h.recorded.ordered h.recorded.now_le h.standing
  have hreads := x.system.readsTime_at (.task input) (x.clock + delay)
  change x.system.readsTime (.task _) = _ at hreads
  rw [hreads] at hstanding
  exact ⟨sound_step hsound, hrecorded.later hlater, hstanding⟩

/-- A step goes on with what holds in a segment. -/
theorem loops_step (h : x.Loops periodTicks.toNat publications) (hquiet : x.system.Quiet e) :
    ((timedHealth periodTicks).step x (delay, e)).1.Loops periodTicks.toNat
      (((timedHealth periodTicks).step x (delay, e)).2.toList ++ publications) := by
  cases e with
  | task input => exact loops_task h hquiet
  | connected => exact hquiet.elim
  | counted => exact hquiet.elim
  | disconnected =>
    refine ⟨sound_step h.sound, h.recorded, ?_⟩
    have hhandle : x.system.mqtt.handle .disconnected = x.system.mqtt ∨
        x.system.mqtt.handle .disconnected = { x.system.mqtt with connected := false } := by
      rw [MqttConnection.handle]
      split
      · exact .inl rfl
      · exact .inr rfl
    apply h.standing.of_notes
    · rfl
    · change (x.system.mqtt.handle .disconnected).generation = _
      rcases hhandle with hhandle | hhandle <;> rw [hhandle]
    · change (x.system.mqtt.handle .disconnected).connected = true → _
      rcases hhandle with hhandle | hhandle <;> rw [hhandle]
      · exact id
      · intro hup
        cases hup
    · rfl
  | update component status error updatedAt =>
    refine ⟨sound_step h.sound, h.recorded, ?_⟩
    apply h.standing.of_notes
    · rfl
    · rfl
    · exact id
    · exact HealthSystem.notes_updateComponent_of_eq h.sound.summary hquiet

/-- What holds after a segment that begins with an iteration. -/
theorem loops_run {events : List (Nat × HealthEvent)} (hsound : x.Sound)
    (hstep : x.system.task.step = .systemTime)
    (hquiet : (timedHealth periodTicks).Along (fun x e ↦ x.system.Quiet e.2) x events) :
    ((timedHealth periodTicks).run x events).Loops periodTicks.toNat
      (healthPublications ((timedHealth periodTicks).trace x events)).reverse := by
  apply (timedHealth periodTicks).invariant_trace_along
    (fun x t ↦ x.Loops periodTicks.toNat (healthPublications t).reverse) _ _ hquiet
  · intro x t e h hquiet
    have hnext := @loops_step periodTicks x e.2 e.1 _ h hquiet
    rwa [← healthPublications_concat t e] at hnext
  · refine ⟨hsound, ⟨.nil, nofun, trivial⟩, ?_⟩
    rw [HealthSystem.Standing, hstep]
    intro _ p hp
    cases hp

/-- Health publications do not go round in a loop. In a segment of a run that begins with an
iteration, without a reconnection and without a change of a component by another task or by the
validity of the clock, three failed publications with no successful one between them take a
heartbeat period. When all publications succeed, a shorter time contains at most two. -/
theorem publications_apart (periodTicks : UInt32) (before segment : List (Nat × HealthEvent))
    (hstep : ((timedHealth periodTicks).run start before).system.task.step = .systemTime)
    (hquiet : (timedHealth periodTicks).Along (fun x e ↦ x.system.Quiet e.2)
      ((timedHealth periodTicks).run start before) segment) :
    let publications := healthPublications
      ((timedHealth periodTicks).trace ((timedHealth periodTicks).run start before) segment)
    (∀ earlier p between r later, publications = earlier ++ p :: (between ++ r :: later) →
      between ≠ [] → (∀ q ∈ p :: (between ++ [r]), q.accepted = false) →
      p.now + periodTicks.toNat ≤ r.now) ∧
    ((∀ p ∈ publications, p.accepted = true) → ∀ time duration, duration < periodTicks.toNat →
      (publications.filter fun p ↦ time ≤ p.now ∧ p.now ≤ time + duration).length ≤ 2) := by
  intro publications
  have hsound : ((timedHealth periodTicks).run start before).Sound :=
    (timedHealth periodTicks).invariant (fun _ _ ↦ sound_step) sound_start before
  have hloops := loops_run hsound hstep hquiet
  obtain ⟨-, ⟨hordered, -, hspaced⟩, -⟩ := hloops
  change Ordered publications.reverse at hordered
  change Spaced periodTicks.toNat publications.reverse at hspaced
  constructor
  · intro earlier p between r later hpublications hbetween hfailed
    exact now_add_le_of_row hspaced hordered hpublications hbetween hfailed
  · intro hall time duration hduration
    exact length_filter_le_two hspaced hordered hall hduration

/-- Steps of an iteration with the answer of the client, the first one after a delay. -/
def sampleIteration (delay steps : Nat) (accepted : Bool) : List (Nat × HealthEvent) :=
  (delay, sampleTask accepted) :: List.replicate steps (0, sampleTask accepted)

/-- A connection and an iteration that publishes. -/
def sampleBefore : List (Nat × HealthEvent) :=
  [(0, .connected), (0, .counted)] ++ sampleIteration 1000 12 true

/-- A failed heartbeat, its retry, and the next heartbeat. -/
def sampleSegment : List (Nat × HealthEvent) :=
  sampleIteration 60000 12 false ++ sampleIteration 1000 11 false ++ sampleIteration 60000 8 false

theorem publications_apart_sample :
    (HealthPublication.mk 61000 false).now + (60000 : UInt32).toNat ≤
      (HealthPublication.mk 122000 false).now := by
  obtain ⟨hfailed, -⟩ := publications_apart 60000 sampleBefore sampleSegment (by rfl)
    (by decide +kernel)
  exact hfailed [] ⟨61000, false⟩ [⟨62000, false⟩] ⟨122000, false⟩ [] (by decide +kernel) (by simp)
    (by simp)

end TimedHealth

end EdgeMonitor.Firmware
