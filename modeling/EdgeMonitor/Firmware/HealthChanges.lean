import EdgeMonitor.Firmware.HealthTask

/-!
# Changes between snapshots

Library `Firmware`. Whether the health task reports every change of a component. It compares
the revision of a snapshot with the last one it dealt with. After a rejected retry that is
the revision found then, not the one handed over, and a change in between is forgotten.
-/

namespace EdgeMonitor.Firmware
open EdgeMonitor.Base

/-! ### History -/

/-- The snapshot last handed to `mqtt_publish_health`, whether an iteration since then ended
with a component other than `mqtt` in another state, and whether the current iteration found
MQTT connected in this case and has not handed over a snapshot. -/
structure ChangeHistory where
  handed : Option DeviceHealth
  owed : Bool
  due : Bool

/-- The history when the health task starts. -/
def ChangeHistory.start : ChangeHistory := ⟨none, false, false⟩

/-- The snapshot last handed over, if any, shows the state. -/
def ChangeHistory.shows (h : ChangeHistory) (health : DeviceHealth) : Bool :=
  h.handed.any fun snapshot ↦ decide (snapshot.Agrees health)

/-- The history after a step with the given state and output. -/
def ChangeHistory.advance (h : ChangeHistory) (health : DeviceHealth) :
    Option HealthOutput → ChangeHistory
  | some (.found _) => { h with due := h.owed }
  | some (.handedOver snapshot _) => ⟨some snapshot, false, false⟩
  | some .ended => { h with owed := h.owed || !h.shows health }
  | _ => h

/-- The health task with the history of the snapshots it hands over. -/
def changeHistory (periodTicks : UInt32) :
    Machine (HealthSystem × ChangeHistory) HealthEvent (Option HealthOutput) :=
  (healthSystem periodTicks).observed fun h _ _ r ↦ h.advance r.1.health r.2

/-- An iteration that finds MQTT connected has a reason other than the heartbeat to hand over
a new snapshot if the one before it left a change unreported, and does so before it ends. -/
def reportsChange (periodTicks : UInt32) (x : HealthSystem × ChangeHistory) (e : HealthEvent) :
    Bool :=
  match ((healthSystem periodTicks).step x.1 e).2 with
  | some (.found d) => !x.2.owed || d.urgent
  | some .ended => !x.2.due
  | _ => true

/-! ### The condition -/

/-- When a rejected snapshot leaves no retry pending and its connection is up, no other
component has changed since the snapshot was taken. -/
def keepsChange (x : HealthSystem × ChangeHistory) (e : HealthEvent) : Bool :=
  match e, x.1.task.step with
  | .task _, .failedSnapshot i =>
    x.1.task.healthRetryPending || !decide (x.1.mqtt.Serves i.generation) ||
      x.2.shows x.1.health
  | _, _ => true

/-- No change is absorbed by a rejected retry, an iteration does not take a new connection for
the old one, and neither counter wraps around. -/
structure KeepsChanges (periodTicks : UInt32) (x : HealthSystem × ChangeHistory)
    (e : HealthEvent) : Prop where
  keeps : keepsChange x e = true
  current : x.1.findsCurrent e = true
  counts : x.1.mqtt.Counts e
  revisions : x.1.health.stateRevision ≤
    ((healthSystem periodTicks).step x.1 e).1.health.stateRevision

instance (periodTicks : UInt32) (x : HealthSystem × ChangeHistory) (e : HealthEvent) :
    Decidable (KeepsChanges periodTicks x e) :=
  decidable_of_iff
    (keepsChange x e = true ∧ x.1.findsCurrent e = true ∧ x.1.mqtt.Counts e ∧
      x.1.health.stateRevision ≤ ((healthSystem periodTicks).step x.1 e).1.health.stateRevision)
    ⟨fun h ↦ ⟨h.1, h.2.1, h.2.2.1, h.2.2.2⟩,
      fun h ↦ ⟨h.keeps, h.current, h.counts, h.revisions⟩⟩

/-! ### The invariant -/

/-- How far an iteration has come with the snapshots of the health state. -/
inductive SnapshotPhase where
  | waiting
  | seen (snapshot : DeviceHealth)
  | publishing (iteration : HealthIteration)
  | handing (iteration : HealthIteration) (handed : DeviceHealth)
  | handed (iteration : HealthIteration)
  | ending (generation : UInt32)

/-- The phase of a step. -/
def HealthStep.snapshotPhase : HealthStep → SnapshotPhase
  | systemTime | connection _ | availability _ _ | mqttComponent _ _ | snapshot => .waiting
  | generation seen | check seen _ _ => .seen seen
  | online i | healthSnapshot i => .publishing i
  | publish i handed => .handing i handed
  | failure i | retry i | failedSnapshot i | success i | successComponent i => .handed i
  | finish g => .ending g

/-- Nothing is owed, and the snapshot last handed over shows the state. -/
def Clean (health : DeviceHealth) (h : ChangeHistory) : Prop :=
  h.owed = false ∧ h.shows health = true

/-- The next iteration that finds MQTT connected has a reason to publish what is owed. -/
def Remembered (s : HealthSystem) (h : ChangeHistory) (g : UInt32) : Prop :=
  s.task.healthRetryPending = true ∨ s.task.lastAttemptedRevision < s.health.stateRevision ∨
    Clean s.health h ∨ ¬ s.mqtt.Serves g

/-- What holds of the state and the history in a phase of an iteration. -/
def ChangesIn (s : HealthSystem) (h : ChangeHistory) : SnapshotPhase → Prop
  | .waiting => Remembered s h s.task.lastConnectionGeneration
  | .seen snapshot =>
    snapshot.stateRevision ≤ s.health.stateRevision ∧
      (s.task.healthRetryPending = true ∨
        s.task.lastAttemptedRevision < snapshot.stateRevision ∨
        (h.owed = false ∧
          (snapshot.stateRevision < s.health.stateRevision ∨ h.shows s.health = true)) ∨
        ¬ s.mqtt.Serves s.task.lastConnectionGeneration)
  | .publishing i => i.snapshot.stateRevision ≤ s.health.stateRevision
  | .handing i handed =>
    i.snapshot.stateRevision ≤ handed.stateRevision ∧ handed.Before s.health
  | .handed i =>
    h.owed = false ∧ ∃ handed, h.handed = some handed ∧
      i.snapshot.stateRevision ≤ handed.stateRevision ∧ handed.Before s.health
  | .ending g => Remembered s h g

/-- A phase of a publication that has not handed over its snapshot. -/
def SnapshotPhase.publishes : SnapshotPhase → Bool
  | publishing _ | handing _ _ => true
  | _ => false

/-- Every change that is owed is remembered. -/
structure ChangesKept (x : HealthSystem × ChangeHistory) : Prop where
  noted : x.1.Noted
  due : x.1.task.step.snapshotPhase.publishes = false → x.2.due = false
  attempted : x.1.task.lastAttemptedRevision ≤ x.1.health.stateRevision
  phase : ChangesIn x.1 x.2 x.1.task.step.snapshotPhase

theorem changesKept_start : ChangesKept (.start, .start) where
  noted := HealthSystem.noted_start
  due _ := rfl
  attempted := by decide
  phase := Or.inr (Or.inl (by decide))

section Step

variable {periodTicks : UInt32} {s : HealthSystem} {h : ChangeHistory} {health : DeviceHealth}
  {x : HealthSystem × ChangeHistory} {e : HealthEvent} {input : HealthInput}

/-- A snapshot that shows a state shows what agrees with it. -/
theorem ChangeHistory.shows_of_agrees (hs : h.shows s.health = true)
    (ha : ∀ c, s.health.state c = health.state c) : h.shows health = true := by
  unfold shows at hs ⊢
  cases hh : h.handed with
  | none => rw [hh] at hs; cases hs
  | some snapshot =>
    rw [hh] at hs
    have hagrees : snapshot.Agrees s.health := of_decide_eq_true hs
    exact decide_eq_true fun c hc ↦ (hagrees c hc).trans (ha c)

/-- What is remembered stays so while the state goes on. -/
theorem Remembered.before {g : UInt32} (hr : Remembered s h g)
    (hattempted : s.task.lastAttemptedRevision ≤ s.health.stateRevision)
    (hb : s.health.Before health) : Remembered { s with health } h g := by
  rcases hb with hlt | ⟨heq, hstate⟩
  · exact .inr (.inl (UInt32.lt_of_le_of_lt hattempted hlt))
  · rcases hr with hretry | hlt | ⟨howed, hshows⟩ | hserves
    · exact .inl hretry
    · exact .inr (.inl (heq ▸ hlt))
    · exact .inr (.inr (.inl ⟨howed, ChangeHistory.shows_of_agrees hshows hstate⟩))
    · exact .inr (.inr (.inr hserves))

/-- What holds in a phase stays so while the state goes on. -/
theorem ChangesIn.before {p : SnapshotPhase} (hin : ChangesIn s h p)
    (hattempted : s.task.lastAttemptedRevision ≤ s.health.stateRevision)
    (hb : s.health.Before health) : ChangesIn { s with health } h p := by
  have hle := hb.le
  cases p with
  | waiting => exact Remembered.before hin hattempted hb
  | ending g => exact Remembered.before hin hattempted hb
  | publishing i => exact UInt32.le_trans hin hle
  | handing i handed => exact ⟨hin.1, hin.2.trans hb⟩
  | handed i =>
    obtain ⟨howed, handed, hhanded, hseen, hbefore⟩ := hin
    exact ⟨howed, handed, hhanded, hseen, hbefore.trans hb⟩
  | seen snapshot =>
    obtain ⟨hsnapshot, hin⟩ := hin
    refine ⟨UInt32.le_trans hsnapshot hle, ?_⟩
    rcases hin with hretry | hlt | ⟨howed, hin⟩ | hserves
    · exact .inl hretry
    · exact .inr (.inl hlt)
    · refine .inr (.inr (.inl ⟨howed, ?_⟩))
      rcases hb with hlt | ⟨heq, hstate⟩
      · exact .inl (UInt32.lt_of_le_of_lt hsnapshot hlt)
      · rcases hin with hlt | hshows
        · exact .inl (heq ▸ hlt)
        · exact .inr (ChangeHistory.shows_of_agrees hshows hstate)
    · exact .inr (.inr (.inr hserves))

/-- The event handler of the client brings no connection back that was remembered as over. -/
theorem Remembered.handle {g : UInt32} (hr : Remembered s h g) (hc : s.mqtt.Counts e)
    (hle : g ≤ s.mqtt.generation) : Remembered { s with mqtt := s.mqtt.handle e } h g := by
  rcases hr with hretry | hlt | hclean | hserves
  · exact .inl hretry
  · exact .inr (.inl hlt)
  · exact .inr (.inr (.inl hclean))
  · exact .inr (.inr (.inr fun hs ↦ hserves (MqttConnection.serves_of_handle hc hle hs)))

/-- An iteration that is about to end has read its generation. -/
theorem HealthStep.generationRead_of_ending {step : HealthStep} {g : UInt32}
    (h : step.snapshotPhase = .ending g) : step.generationRead = some g := by
  cases step <;> cases h
  rfl

/-- What holds in a phase stays so while connections end and begin. -/
theorem changesIn_handle (hx : ChangesKept x) (hc : x.1.mqtt.Counts e) :
    ChangesIn { x.1 with mqtt := x.1.mqtt.handle e } x.2 x.1.task.step.snapshotPhase := by
  have hphase := hx.phase
  have hlast := hx.noted.last
  cases hp : x.1.task.step.snapshotPhase with
  | waiting =>
    rw [hp] at hphase
    exact Remembered.handle hphase hc hlast
  | seen snapshot =>
    rw [hp] at hphase
    obtain ⟨hsnapshot, hin⟩ := hphase
    refine ⟨hsnapshot, ?_⟩
    rcases hin with hretry | hlt | hclean | hserves
    · exact .inl hretry
    · exact .inr (.inl hlt)
    · exact .inr (.inr (.inl hclean))
    · exact .inr (.inr (.inr fun hs ↦ hserves (MqttConnection.serves_of_handle hc hlast hs)))
  | publishing i | handing i handed | handed i =>
    rw [hp] at hphase
    exact hphase
  | ending g =>
    rw [hp] at hphase
    exact Remembered.handle hphase hc
      (hx.noted.read g (HealthStep.generationRead_of_ending hp))

/-- A snapshot that was handed over is not older than the one of its iteration. -/
theorem ChangesIn.snapshot_le {i : HealthIteration} (hin : ChangesIn s h (.handed i)) :
    i.snapshot.stateRevision ≤ s.health.stateRevision := by
  obtain ⟨-, handed, -, hseen, hbefore⟩ := hin
  exact UInt32.le_trans hseen hbefore.le

/-- A publication that notes the revision of its iteration leaves every later change
remembered. -/
theorem Remembered.of_handed {i : HealthIteration} (hin : ChangesIn s h (.handed i)) :
    Remembered (s.published i i.snapshot.stateRevision) h i.generation := by
  obtain ⟨howed, handed, hhanded, hseen, hbefore⟩ := hin
  rcases hbefore with hlt | ⟨heq, hstate⟩
  · exact .inr (.inl (UInt32.lt_of_le_of_lt hseen hlt))
  · refine .inr (.inr (.inl ⟨howed, ?_⟩))
    simp only [ChangeHistory.shows, hhanded]
    exact decide_eq_true fun c _ ↦ hstate c

/-- A rejected publication notes the revision it finds. What changed since the snapshot is
remembered by a retry, by the end of the connection, or is nothing. -/
theorem Remembered.of_failedSnapshot {i : HealthIteration} (hin : ChangesIn s h (.handed i))
    (hkeeps : (s.task.healthRetryPending || !decide (s.mqtt.Serves i.generation) ||
      h.shows s.health) = true) :
    Remembered (s.published i s.health.stateRevision) h i.generation := by
  simp only [Bool.or_eq_true, Bool.not_eq_true', decide_eq_false_iff_not] at hkeeps
  rcases hkeeps with (hretry | hserves) | hshows
  · exact .inl hretry
  · exact .inr (.inr (.inr hserves))
  · exact .inr (.inr (.inl ⟨hin.1, hshows⟩))

/-- The end of an iteration owes nothing that is not remembered. -/
theorem Remembered.of_finish {g : UInt32} (hr : Remembered s h g) :
    Remembered
      { s with task := { s.task with lastConnectionGeneration := g, step := .systemTime } }
      (h.advance s.health (some .ended)) g := by
  rcases hr with hretry | hlt | ⟨howed, hshows⟩ | hserves
  · exact .inl hretry
  · exact .inr (.inl hlt)
  · refine .inr (.inr (.inl ⟨?_, hshows⟩))
    change (h.owed || !h.shows s.health) = false
    rw [howed, hshows]
    rfl
  · exact .inr (.inr (.inr hserves))

/-- An iteration finds a reason to publish, or what it has seen is what was last handed
over. -/
theorem Remembered.of_seen {snapshot : DeviceHealth} {now g : UInt32}
    (hin : ChangesIn s h (.seen snapshot))
    (hp : (s.decision periodTicks snapshot now g).urgent = false)
    (hcurrent : g = s.task.lastConnectionGeneration → s.mqtt.Serves g) :
    h.owed = false ∧ Remembered s h g := by
  simp only [HealthDecision.urgent, HealthSystem.decision, Bool.or_eq_false_iff, bne_eq_false_iff_eq]
    at hp
  obtain ⟨⟨hlast, hsame⟩, hretry⟩ := hp
  have hup := hcurrent hlast
  rcases hin.2 with hpending | hlt | ⟨howed, hlt | hshows⟩ | hserves
  · rw [hretry] at hpending
    cases hpending
  · exact absurd (hsame ▸ hlt) (UInt32.lt_irrefl _)
  · exact ⟨howed, .inr (.inl (hsame ▸ hlt))⟩
  · exact ⟨howed, .inr (.inr (.inl ⟨howed, hshows⟩))⟩
  · exact absurd (hlast ▸ hup) hserves

/-- A decision without any reason is without an urgent one. -/
theorem HealthDecision.urgent_of_publishes {d : HealthDecision} (hp : d.publishes = false) :
    d.urgent = false := by
  simp only [publishes, urgent, Bool.or_eq_false_iff] at hp ⊢
  exact ⟨⟨hp.1.1.1, hp.1.2⟩, hp.2⟩

/-- The decision keeps every change remembered. -/
theorem changesKept_check {snapshot : DeviceHealth} {now g : UInt32} (hx : ChangesKept x)
    (hs : x.1.task.step = .check snapshot now g)
    (hnoted : (x.1.check periodTicks snapshot now g).1.Noted)
    (hcurrent : x.1.mqtt.connected = true → g = x.1.task.lastConnectionGeneration →
      x.1.mqtt.Serves g) :
    ChangesKept ((x.1.check periodTicks snapshot now g).1,
      x.2.advance (x.1.check periodTicks snapshot now g).1.health
        (x.1.check periodTicks snapshot now g).2) := by
  have hphase := hx.phase
  rw [hs] at hphase
  rcases x.1.check_cases periodTicks snapshot now g with ⟨hdown, hr⟩ | ⟨hup, hp, hr⟩ |
    ⟨-, -, hr⟩ | ⟨-, -, hr⟩ <;> rw [hr] at hnoted ⊢
  · refine ⟨hnoted, fun _ ↦ hx.due (by rw [hs]; rfl), hx.attempted,
      .inr (.inr (.inr fun hserves ↦ ?_))⟩
    have hserves : x.1.mqtt.connected = true := hserves.1
    rw [hdown] at hserves
    cases hserves
  · have hurgent := HealthDecision.urgent_of_publishes hp
    obtain ⟨howed, hremembered⟩ := Remembered.of_seen hphase hurgent (hcurrent hup)
    exact ⟨hnoted, fun _ ↦ howed, hx.attempted, hremembered⟩
  · exact ⟨hnoted, nofun, hx.attempted, hphase.1⟩
  · exact ⟨hnoted, nofun, hx.attempted, hphase.1⟩

/-- A step of the health task keeps every change remembered. -/
theorem changesKept_advance (hx : ChangesKept x) (hc : KeepsChanges periodTicks x (.task input)) :
    ChangesKept ((x.1.advance periodTicks input).1,
      x.2.advance (x.1.advance periodTicks input).1.health (x.1.advance periodTicks input).2) := by
  have hnoted : (x.1.advance periodTicks input).1.Noted := HealthSystem.noted_advance hx.noted
  have hrevisions : x.1.health.stateRevision ≤ (x.1.advance periodTicks input).1.health.stateRevision :=
    hc.revisions
  have hattempted := hx.attempted
  have hdue := hx.due
  have hphase := hx.phase
  generalize hr : x.1.advance periodTicks input = r at hnoted hrevisions ⊢
  unfold HealthSystem.advance at hr
  split at hr
  next hs =>
    rw [hs] at hphase hdue
    split at hr <;> subst hr
    · have hb := DeviceHealth.before_updateComponent hrevisions
      exact ⟨hnoted, hdue, UInt32.le_trans hattempted hb.le, Remembered.before hphase hattempted hb⟩
    · have hb := DeviceHealth.before_updateComponent hrevisions
      exact ⟨hnoted, hdue, UInt32.le_trans hattempted hb.le, Remembered.before hphase hattempted hb⟩
  next timestamp hs =>
    rw [hs] at hphase hdue
    subst hr
    exact ⟨hnoted, hdue, hattempted, hphase⟩
  next timestamp connected hs =>
    rw [hs] at hphase hdue
    subst hr
    exact ⟨hnoted, hdue, hattempted, hphase⟩
  next timestamp connected hs =>
    rw [hs] at hphase hdue
    subst hr
    rcases x.1.reportMqtt_cases timestamp connected with hm | ⟨status, error, hm⟩
    · simp only [hm] at hnoted ⊢
      exact ⟨hnoted, hdue, hattempted, hphase⟩
    · simp only [hm] at hnoted hrevisions ⊢
      have hb := DeviceHealth.before_updateComponent hrevisions
      exact ⟨hnoted, hdue, UInt32.le_trans hattempted hb.le, Remembered.before hphase hattempted hb⟩
  next hs =>
    rw [hs] at hphase hdue
    subst hr
    refine ⟨hnoted, hdue, hattempted, UInt32.le_refl _, ?_⟩
    rcases hphase with hretry | hlt | ⟨howed, hshows⟩ | hserves
    · exact .inl hretry
    · exact .inr (.inl hlt)
    · exact .inr (.inr (.inl ⟨howed, .inr hshows⟩))
    · exact .inr (.inr (.inr hserves))
  next snapshot hs =>
    rw [hs] at hphase hdue
    subst hr
    exact ⟨hnoted, hdue, hattempted, hphase⟩
  next snapshot now g hs =>
    subst hr
    exact changesKept_check hx hs hnoted fun hup hlast ↦
      HealthSystem.serves_of_findsCurrent hc.current hs hup hlast
  next i hs =>
    rw [hs] at hphase hdue
    subst hr
    exact ⟨hnoted, hdue, hattempted, hphase⟩
  next i hs =>
    rw [hs] at hphase hdue
    subst hr
    exact ⟨hnoted, hdue, hattempted, hphase, DeviceHealth.Before.refl _⟩
  next i handed hs =>
    rw [hs] at hphase hdue
    subst hr
    refine ⟨hnoted, fun _ ↦ rfl, hattempted, ?_⟩
    dsimp only [HealthSystem.goto]
    split <;> exact ⟨rfl, handed, rfl, hphase⟩
  next i hs =>
    rw [hs] at hphase hdue
    subst hr
    have hb := DeviceHealth.before_updateComponent hrevisions
    refine ⟨hnoted, fun _ ↦ hdue rfl, UInt32.le_trans hattempted hb.le, ?_⟩
    dsimp only [HealthSystem.goto]
    split <;> exact ChangesIn.before hphase hattempted hb
  next i hs =>
    rw [hs] at hphase hdue
    subst hr
    exact ⟨hnoted, hdue, hattempted, hphase⟩
  next i hs =>
    rw [hs] at hphase hdue
    subst hr
    have hkeeps := hc.keeps
    simp only [keepsChange, hs] at hkeeps
    exact ⟨hnoted, hdue, UInt32.le_refl _, Remembered.of_failedSnapshot hphase hkeeps⟩
  next i hs =>
    rw [hs] at hphase hdue
    split at hr <;> subst hr
    · exact ⟨hnoted, hdue, hattempted, hphase⟩
    · exact ⟨hnoted, hdue, hphase.snapshot_le, Remembered.of_handed hphase⟩
  next i hs =>
    rw [hs] at hphase hdue
    subst hr
    have hb := DeviceHealth.before_updateComponent hrevisions
    have hphase := ChangesIn.before hphase hattempted hb
    exact ⟨hnoted, hdue, hphase.snapshot_le, Remembered.of_handed hphase⟩
  next g hs =>
    rw [hs] at hphase hdue
    subst hr
    exact ⟨hnoted, hdue, hattempted, Remembered.of_finish hphase⟩

/-- A step that meets the condition keeps every change remembered. -/
theorem changesKept_step (hx : ChangesKept x) (hc : KeepsChanges periodTicks x e) :
    ChangesKept ((changeHistory periodTicks).step x e).1 := by
  have hnoted : ((healthSystem periodTicks).step x.1 e).1.Noted :=
    HealthSystem.noted_step hx.noted hc.counts
  have hrevisions := hc.revisions
  cases e with
  | task input => exact changesKept_advance hx hc
  | update component status error updatedAt =>
    have hb := DeviceHealth.before_updateComponent hrevisions
    exact ⟨hnoted, hx.due, UInt32.le_trans hx.attempted hb.le,
      ChangesIn.before hx.phase hx.attempted hb⟩
  | connected | counted | disconnected =>
    exact ⟨hnoted, hx.due, hx.attempted, changesIn_handle hx hc.counts⟩

/-- An iteration that finds MQTT connected reports what is owed. -/
theorem reportsChange_of_kept (hx : ChangesKept x) (hc : KeepsChanges periodTicks x e) :
    reportsChange periodTicks x e = true := by
  unfold reportsChange
  split
  next d hd =>
    cases e with
    | update => cases hd
    | connected => cases hd
    | counted => cases hd
    | disconnected => cases hd
    | task input =>
      obtain ⟨snapshot, now, g, hs, hup, rfl⟩ := x.1.found_advance hd
      cases hp : (x.1.decision periodTicks snapshot now g).urgent with
      | true => exact Bool.or_true _
      | false =>
        have hphase := hx.phase
        rw [hs] at hphase
        have howed := (Remembered.of_seen hphase hp fun hlast ↦
          HealthSystem.serves_of_findsCurrent hc.current hs hup hlast).1
        rw [howed]
        rfl
  next hended =>
    cases e with
    | update => cases hended
    | connected => cases hended
    | counted => cases hended
    | disconnected => cases hended
    | task input =>
      obtain ⟨g, hs⟩ := x.1.ended_advance hended
      rw [hx.due (by rw [hs]; rfl)]
      rfl
  next => rfl

end Step

/-- No change of a component is forgotten in a run whose steps meet the condition. -/
theorem changes_reported (periodTicks : UInt32) (es : List HealthEvent)
    (h : (changeHistory periodTicks).Along (KeepsChanges periodTicks) (.start, .start) es) :
    (changeHistory periodTicks).Along (fun x e ↦ reportsChange periodTicks x e) (.start, .start)
      es :=
  (changeHistory periodTicks).along_of_invariant (fun _ _ hx hc ↦ changesKept_step hx hc)
    (fun _ _ hx hc ↦ reportsChange_of_kept hx hc) changesKept_start h

/-- The device connects, the first snapshot is rejected, and the retry is accepted or not. A
reading of the sensor fails before the second iteration notes the revision. The third
iteration reports this or not. -/
def sampleChange (accepted : Bool) : List HealthEvent :=
  [.connected, .counted] ++ List.replicate 9 (sampleTask true) ++ [sampleTask false] ++
    List.replicate 12 (sampleTask true) ++ [sampleTask accepted] ++
    [.update .sensor .fault .readFailed none] ++ List.replicate 15 (sampleTask true)

/-- After an accepted retry the change is reported. -/
theorem changes_reported_accepted :
    (changeHistory 1000).Along (fun x e ↦ reportsChange 1000 x e) (.start, .start)
      (sampleChange true) :=
  changes_reported 1000 _ (by decide +kernel)

/-- After a rejected retry it is forgotten. -/
theorem changes_reported_fails :
    ¬ ∀ es, (changeHistory 1000).Along (fun x e ↦ reportsChange 1000 x e) (.start, .start) es :=
  fun h ↦ absurd (h (sampleChange false)) (by decide +kernel)

end EdgeMonitor.Firmware
