import EdgeMonitor.Firmware.HealthTask

/-!
# Availability after a connection

Library `Firmware`. Whether the health task announces every connection of the device as
online. It notes the generation of a connection as seen whatever becomes of its
announcement, so that an announcement that is not accepted is never repeated.
-/

namespace EdgeMonitor.Firmware
open EdgeMonitor.Base

/-! ### History -/

/-- The generations whose announcement was accepted, the generation with which the current
iteration found MQTT connected, and whether the last iteration that found MQTT connected
ended without an accepted announcement of its generation. -/
structure OnlineHistory where
  accepted : List UInt32
  found : Option UInt32
  owed : Bool

/-- The history when the health task starts. -/
def OnlineHistory.start : OnlineHistory := ⟨[], none, false⟩

/-- The history after a step with the given output. -/
def OnlineHistory.advance (h : OnlineHistory) : Option HealthOutput → OnlineHistory
  | some (.found d) => { h with found := some d.generation }
  | some (.online g true) => { h with accepted := g :: h.accepted }
  | some .ended =>
    { h with found := none, owed := h.found.elim h.owed fun g ↦ decide (g ∉ h.accepted) }
  | _ => h

/-- The health task with the history of its announcements. -/
def onlineHistory (periodTicks : UInt32) :
    Machine (HealthSystem × OnlineHistory) HealthEvent (Option HealthOutput) :=
  (healthSystem periodTicks).observed fun h _ _ r ↦ h.advance r.2

/-- An iteration that finds MQTT connected requests the announcement that the one before it
left undone. -/
def announces (periodTicks : UInt32) (x : HealthSystem × OnlineHistory) (e : HealthEvent) : Bool :=
  match ((healthSystem periodTicks).step x.1 e).2 with
  | some (.found d) => !x.2.owed || d.reconnected
  | _ => true

/-! ### The condition -/

/-- The client accepts the announcement. -/
def HealthSystem.acceptsOnline (s : HealthSystem) (e : HealthEvent) : Bool :=
  match e, s.task.step with
  | .task input, .online _ => s.mqtt.publish input.accepted
  | _, _ => true

/-- The client accepts the announcement, an iteration does not take a new connection for the
old one, and the counter of connections does not wrap around. -/
structure AcceptsOnline (x : HealthSystem × OnlineHistory) (e : HealthEvent) : Prop where
  accepts : x.1.acceptsOnline e = true
  current : x.1.findsCurrent e = true
  counts : x.1.mqtt.Counts e

instance (x : HealthSystem × OnlineHistory) (e : HealthEvent) : Decidable (AcceptsOnline x e) :=
  decidable_of_iff
    (x.1.acceptsOnline e = true ∧ x.1.findsCurrent e = true ∧ x.1.mqtt.Counts e)
    ⟨fun h ↦ ⟨h.1, h.2.1, h.2.2⟩, fun h ↦ ⟨h.accepts, h.current, h.counts⟩⟩

/-! ### The invariant -/

/-- The announcement of a generation is behind: accepted, if MQTT was found connected with it
or still is. -/
structure Announced (mqtt : MqttConnection) (h : OnlineHistory) (g : UInt32) : Prop where
  found : h.found = none ∨ h.found = some g
  accepted : h.found = some g → g ∈ h.accepted
  serves : mqtt.Serves g → g ∈ h.accepted

/-- What holds of the history in a phase of an iteration. -/
def OnlineIn (mqtt : MqttConnection) (last : UInt32) (h : OnlineHistory) : HealthStep.Phase → Prop
  | .deciding => h.found = none ∧ (mqtt.Serves last → last ∈ h.accepted)
  | .announcing g => h.found = some g
  | .settled g => Announced mqtt h g

/-- No announcement is owed. -/
structure OnlineKept (x : HealthSystem × OnlineHistory) : Prop where
  noted : x.1.Noted
  owed : x.2.owed = false
  phase : OnlineIn x.1.mqtt x.1.task.lastConnectionGeneration x.2 x.1.task.step.phase

theorem onlineKept_start : OnlineKept (.start, .start) where
  noted := HealthSystem.noted_start
  owed := rfl
  phase := ⟨rfl, fun h ↦ by cases h.1⟩

section Step

variable {periodTicks : UInt32} {x : HealthSystem × OnlineHistory} {e : HealthEvent}
  {input : HealthInput}

/-- The event handler of the client keeps the invariant: it ends connections and begins new
ones, but does not bring one back. -/
theorem onlineIn_handle (h : OnlineKept x) (hc : x.1.mqtt.Counts e) :
    OnlineIn (x.1.mqtt.handle e) x.1.task.lastConnectionGeneration x.2 x.1.task.step.phase := by
  have hphase := h.phase
  cases hp : x.1.task.step.phase with
  | deciding =>
    rw [hp] at hphase
    have hle := h.noted.last
    exact ⟨hphase.1, fun hs ↦ hphase.2 (MqttConnection.serves_of_handle hc hle hs)⟩
  | announcing g =>
    rw [hp] at hphase
    exact hphase
  | settled g =>
    rw [hp] at hphase
    have hle := h.noted.read g (HealthStep.generationRead_of_settled hp)
    exact ⟨hphase.found, hphase.accepted,
      fun hs ↦ hphase.serves (MqttConnection.serves_of_handle hc hle hs)⟩

/-- The decision keeps the invariant: MQTT is found connected without a new generation only
when the announcement of the old one was accepted. -/
theorem onlineKept_check {snapshot : DeviceHealth} {now g : UInt32} (h : OnlineKept x)
    (hs : x.1.task.step = .check snapshot now g)
    (hnoted : (x.1.check periodTicks snapshot now g).1.Noted)
    (hcurrent : x.1.mqtt.connected = true → g = x.1.task.lastConnectionGeneration →
      x.1.mqtt.Serves g) :
    OnlineKept ((x.1.check periodTicks snapshot now g).1,
      x.2.advance (x.1.check periodTicks snapshot now g).2) := by
  have hphase := h.phase
  rw [hs] at hphase
  obtain ⟨hfound, hserves⟩ := hphase
  have haccepted (hc : x.1.mqtt.connected = true)
      (hr : (x.1.decision periodTicks snapshot now g).reconnected = false) :
      g ∈ x.2.accepted := by
    have hlast : g = x.1.task.lastConnectionGeneration := by
      simpa [HealthSystem.decision] using hr
    have hup := hcurrent hc hlast
    rw [hlast] at hup ⊢
    exact hserves hup
  rcases x.1.check_cases periodTicks snapshot now g with ⟨hc, hr⟩ | ⟨hc, hp, hr⟩ | ⟨-, -, hr⟩ |
    ⟨hc, hnew, hr⟩
  · rw [hr] at hnoted ⊢
    refine ⟨hnoted, h.owed, .inl hfound, fun hsome ↦ ?_, fun hup ↦ ?_⟩
    · have hsome : x.2.found = some g := hsome
      rw [hfound] at hsome
      cases hsome
    · have hup : x.1.mqtt.connected = true := hup.1
      rw [hc] at hup
      cases hup
  · have hnew : (x.1.decision periodTicks snapshot now g).reconnected = false := by
      simp only [HealthDecision.publishes, Bool.or_eq_false_iff] at hp
      exact hp.1.1.1
    have hin := haccepted hc hnew
    rw [hr] at hnoted ⊢
    exact ⟨hnoted, h.owed, .inr rfl, fun _ ↦ hin, fun _ ↦ hin⟩
  · rw [hr] at hnoted ⊢
    exact ⟨hnoted, h.owed, rfl⟩
  · have hin := haccepted hc hnew
    rw [hr] at hnoted ⊢
    exact ⟨hnoted, h.owed, .inr rfl, fun _ ↦ hin, fun _ ↦ hin⟩

/-- A step of the health task keeps the invariant. -/
theorem onlineKept_advance (h : OnlineKept x) (hc : AcceptsOnline x (.task input)) :
    OnlineKept ((x.1.advance periodTicks input).1,
      x.2.advance (x.1.advance periodTicks input).2) := by
  have hnoted : (x.1.advance periodTicks input).1.Noted := HealthSystem.noted_advance h.noted
  rcases x.1.advance_cases periodTicks input with hw | ⟨snapshot, now, g, hs, hr⟩ | ⟨i, hs, hr⟩ |
    ⟨g, hs, hr⟩
  · have hhistory : x.2.advance (x.1.advance periodTicks input).2 = x.2 := by
      rcases hw.output with ho | ⟨_, _, ho⟩ <;> rw [ho] <;> rfl
    rw [hhistory]
    refine ⟨hnoted, h.owed, ?_⟩
    simp only [hw.mqtt, hw.last, hw.phase]
    exact h.phase
  · rw [hr] at hnoted ⊢
    exact onlineKept_check h hs hnoted fun hup hlast ↦
      HealthSystem.serves_of_findsCurrent hc.current hs hup hlast
  · have hphase := h.phase
    rw [hs] at hphase
    have haccepts := hc.accepts
    simp only [HealthSystem.acceptsOnline, hs] at haccepts
    rw [haccepts] at hr
    rw [hr] at hnoted ⊢
    exact ⟨hnoted, h.owed, .inr hphase, fun _ ↦ List.mem_cons_self,
      fun _ ↦ List.mem_cons_self⟩
  · have hphase := h.phase
    rw [hs] at hphase
    rw [hr] at hnoted ⊢
    refine ⟨hnoted, ?_, rfl, hphase.serves⟩
    change x.2.found.elim x.2.owed (fun g ↦ decide (g ∉ x.2.accepted)) = false
    rcases hphase.found with hfound | hfound
    · rw [hfound]
      exact h.owed
    · rw [hfound]
      exact decide_eq_false (not_not_intro (hphase.accepted hfound))

/-- A step that meets the condition keeps the invariant. -/
theorem onlineKept_step (h : OnlineKept x) (hc : AcceptsOnline x e) :
    OnlineKept ((onlineHistory periodTicks).step x e).1 := by
  have hnoted : ((healthSystem periodTicks).step x.1 e).1.Noted :=
    HealthSystem.noted_step h.noted hc.counts
  cases e with
  | task input => exact onlineKept_advance h hc
  | update => exact ⟨hnoted, h.owed, h.phase⟩
  | connected | counted | disconnected =>
    exact ⟨hnoted, h.owed, onlineIn_handle h hc.counts⟩

end Step

/-! ### Announcements are not repeated -/

/-- The health task has seen the connection of a generation, which is the last one. -/
structure Seen (g : UInt32) (s : HealthSystem) : Prop where
  generation : s.mqtt.generation = g
  counting : s.mqtt.counting = false
  read : ∀ g', s.task.step.generationRead = some g' → g' = g
  last : s.task.step.phase = .deciding → s.task.lastConnectionGeneration = g

theorem seen_advance {periodTicks g : UInt32} {s : HealthSystem} {input : HealthInput}
    (h : Seen g s) : Seen g (s.advance periodTicks input).1 := by
  rcases s.advance_cases periodTicks input with hw | ⟨snapshot, now, g', hs, hr⟩ | ⟨i, hs, hr⟩ |
    ⟨g', hs, hr⟩
  · refine ⟨?_, ?_, fun g' hg ↦ ?_, fun hp ↦ ?_⟩
    · rw [hw.mqtt]
      exact h.generation
    · rw [hw.mqtt]
      exact h.counting
    · rcases hw.read g' hg with hg | hg
      · exact h.read g' hg
      · exact hg.trans h.generation
    · rw [hw.last]
      exact h.last (hw.phase ▸ hp)
  · have hread : g' = g := h.read g' (by rw [hs]; rfl)
    have hmore (g'' : UInt32) (hg : some g' = some g'') : g'' = g :=
      (Option.some.inj hg).symm.trans hread
    rcases s.check_cases periodTicks snapshot now g' with ⟨-, hc⟩ | ⟨-, -, hc⟩ | ⟨-, -, hc⟩ |
      ⟨-, -, hc⟩ <;> rw [hr, hc] <;> exact ⟨h.generation, h.counting, hmore, nofun⟩
  · have hread : i.generation = g := h.read i.generation (by rw [hs]; rfl)
    rw [hr]
    exact ⟨h.generation, h.counting, fun g' hg ↦ (Option.some.inj hg).symm.trans hread, nofun⟩
  · rw [hr]
    exact ⟨h.generation, h.counting, nofun, fun _ ↦ h.read g' (by rw [hs]; rfl)⟩

/-- Without a new connection the last one stays seen. -/
theorem seen_step {periodTicks g : UInt32} {s : HealthSystem} {e : HealthEvent} (h : Seen g s)
    (he : e ≠ .connected) : Seen g ((healthSystem periodTicks).step s e).1 := by
  have hcounting := h.counting
  cases e with
  | task input => exact seen_advance h
  | update => exact ⟨h.generation, h.counting, h.read, h.last⟩
  | connected => exact absurd rfl he
  | counted =>
    have hm : s.mqtt.handle .counted = s.mqtt := by simp [MqttConnection.handle, hcounting]
    refine ⟨?_, ?_, h.read, h.last⟩
    · exact (congrArg MqttConnection.generation hm).trans h.generation
    · exact (congrArg MqttConnection.counting hm).trans hcounting
  | disconnected =>
    have hm : s.mqtt.handle .disconnected = { s.mqtt with connected := false } := by
      simp [MqttConnection.handle, hcounting]
    refine ⟨?_, ?_, h.read, h.last⟩
    · exact (congrArg MqttConnection.generation hm).trans h.generation
    · exact (congrArg MqttConnection.counting hm).trans hcounting

/-- An iteration that sees the last connection again does not announce it. -/
theorem not_reconnected_of_seen {periodTicks g : UInt32} {s : HealthSystem} {e : HealthEvent}
    (h : Seen g s) (d : HealthDecision)
    (hd : ((healthSystem periodTicks).step s e).2 = some (.found d)) : d.reconnected = false := by
  cases e with
  | update => cases hd
  | connected => cases hd
  | counted => cases hd
  | disconnected => cases hd
  | task input =>
    obtain ⟨snapshot, now, g', hs, -, rfl⟩ := s.found_advance hd
    have hread : g' = g := h.read g' (by rw [hs]; rfl)
    have hlast : s.task.lastConnectionGeneration = g := h.last (by rw [hs]; rfl)
    simp [HealthSystem.decision, hread, hlast]

/-- Every connection is announced in every run whose steps meet the condition: the
announcement that an iteration with MQTT connected leaves undone is requested by the next
one. Whatever becomes of the announcement of a connection, it is not requested again before
the next connection. -/
theorem online_announced (periodTicks : UInt32) :
    (∀ es, (onlineHistory periodTicks).Along AcceptsOnline (.start, .start) es →
      (onlineHistory periodTicks).Along (fun x e ↦ announces periodTicks x e) (.start, .start) es) ∧
    ∀ s i es, s.task.step = .online i → s.mqtt.generation = i.generation →
      s.mqtt.counting = false → (∀ e ∈ es, e ≠ .connected) →
      (healthSystem periodTicks).Along (fun s e ↦ ∀ d,
        ((healthSystem periodTicks).step s e).2 = some (.found d) → d.reconnected = false) s es := by
  constructor
  · intro es h
    refine (onlineHistory periodTicks).along_of_invariant
      (fun x e hx hc ↦ onlineKept_step hx hc) ?_ onlineKept_start h
    intro x e hx _
    unfold announces
    rw [hx.owed]
    split <;> rfl
  · intro s i es hs hgeneration hcounting hes
    have hseen : Seen i.generation s := by
      refine ⟨hgeneration, hcounting, fun g hg ↦ ?_, fun hp ↦ ?_⟩
      · rw [hs] at hg
        exact (Option.some.inj hg).symm
      · rw [hs] at hp
        cases hp
    exact (healthSystem periodTicks).along_of_invariant (fun _ _ h he ↦ seen_step h he)
      (fun _ _ h _ ↦ not_reconnected_of_seen h) hseen
      ((healthSystem periodTicks).along_of_forall hes)

/-- The device connects, and the health task runs through its first iteration, with its
announcement accepted or not, and to the decision of the second. -/
def sampleAnnouncement (accepted : Bool) : List HealthEvent :=
  [.connected, .counted] ++ List.replicate 7 (sampleTask true) ++ [sampleTask accepted] ++
    List.replicate 12 (sampleTask true)

/-- An accepted announcement is not owed. -/
theorem online_announced_accepted :
    (onlineHistory 1000).Along (fun x e ↦ announces 1000 x e) (.start, .start)
      (sampleAnnouncement true) :=
  (online_announced 1000).1 _ (by decide +kernel)

/-- A rejected announcement is not requested again. -/
theorem online_announced_fails :
    ¬ ∀ es, (onlineHistory 1000).Along (fun x e ↦ announces 1000 x e) (.start, .start) es :=
  fun h ↦ absurd (h (sampleAnnouncement false)) (by decide +kernel)

end EdgeMonitor.Firmware
