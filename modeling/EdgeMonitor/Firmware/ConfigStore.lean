import EdgeMonitor.Base.Machine
import EdgeMonitor.Firmware.OperationPlans

/-!
# Runs of the configuration store

Library `Firmware`. The store of `firmware/components/device_config/device_config.c` as
a step machine: calls, each with the faults of its commits, and power cuts between calls.
A call that loses power leaves what it had committed and clears RAM.
-/

namespace EdgeMonitor.Firmware
open EdgeMonitor.Base

/-- NVS and the validation variables. -/
structure Store where
  flash : Flash
  ram : Ram

/-- What can happen to the store. -/
inductive StoreEvent where
  | call (op : Operation) (faults : List (Fault Failure))
  | powerCut

/-- What an event did: the writes that took effect and the reply, if power stayed on. -/
structure StoreOutput where
  writes : List NvsWrite
  reply : Option Reply

/-- The store after a program's outcome. -/
def Store.after (o : Outcome NvsWrite Flash Ram Reply) : Store × StoreOutput :=
  (⟨o.durable, (o.finished.map (·.1)).getD .clear⟩, ⟨o.writes, o.finished.map (·.2)⟩)

/-- The store as a machine. -/
def configStore (platform : Platform) : Machine Store StoreEvent StoreOutput where
  step s
    | .call op faults =>
      Store.after ((op.program platform).run NvsWrite.apply s.flash s.ram faults)
    | .powerCut => ({ s with ram := .clear }, ⟨[], none⟩)

/-- The outcomes of a call are those of its plan. -/
theorem reached_call (platform : Platform) (op : Operation) (s : Store)
    (faults : List (Fault Failure)) :
    Program.Reached NvsWrite.apply (op.plan platform s.flash s.ram).last s.flash
      (op.plan platform s.flash s.ram).steps
      ((op.program platform).run NvsWrite.apply s.flash s.ram faults) :=
  (operation_follows platform op s.flash s.ram).reached NvsWrite.apply faults

/-- A call none of whose commits fail completes its plan. -/
theorem call_of_applied (platform : Platform) (op : Operation) (s : Store)
    (faults : List (Fault Failure)) (h : ∀ f ∈ faults, f = .applied) :
    (configStore platform).step s (.call op faults) =
      Store.after ⟨(op.plan platform s.flash s.ram).steps.map (·.1),
        Program.applyAll NvsWrite.apply s.flash
          ((op.plan platform s.flash s.ram).steps.map (·.1)),
        some (op.plan platform s.flash s.ram).last⟩ := by
  change Store.after _ = _
  rw [operation_follows platform op s.flash s.ram faults,
    Program.runSteps_of_applied _ _ _ _ _ h]

/-- A refused call changes nothing. -/
theorem step_refused {platform : Platform} {op : Operation} {s : Store} {result : EspErr}
    (h : op.plan platform s.flash s.ram = .refuse s.ram result)
    (faults : List (Fault Failure)) :
    (configStore platform).step s (.call op faults) = (s, ⟨[], some (.code result)⟩) := by
  change Store.after _ = _
  rw [operation_follows platform op s.flash s.ram faults, h]
  rfl

/-! ### Metadata along a plan -/

/-- Whether a write changes the metadata. -/
def NvsWrite.touchesMetadata : NvsWrite → Bool
  | setBlob key _ => key == .metadata
  | eraseKey key => key == .metadata
  | eraseAll => true

/-- Whether a write changes the active configuration. -/
def NvsWrite.touchesActive : NvsWrite → Bool
  | setBlob key _ => key == .active
  | eraseKey key => key == .active
  | eraseAll => true

theorem active_apply_of_not_touches {w : NvsWrite} (h : w.touchesActive = false)
    (flash : Flash) : (w.apply flash).active = flash.active := by
  cases w with
  | setBlob key blob => cases key <;> first | rfl | cases h
  | eraseKey key => cases key <;> first | rfl | cases h
  | eraseAll => cases h

/-- Writes elsewhere keep the active slot, at every point of their trail. -/
theorem active_of_not_touches {ws : List NvsWrite} (h : ∀ w ∈ ws, w.touchesActive = false)
    (flash : Flash) :
    (Program.applyAll NvsWrite.apply flash ws).active = flash.active ∧
      ∀ t ∈ Program.trail NvsWrite.apply flash ws, t.2.2.active = flash.active := by
  induction ws generalizing flash with
  | nil => exact ⟨rfl, nofun⟩
  | cons w ws ih =>
    have hw := active_apply_of_not_touches (h w List.mem_cons_self) flash
    obtain ⟨ha, ht⟩ := ih (fun v hv ↦ h v (List.mem_cons_of_mem w hv)) (w.apply flash)
    refine ⟨ha.trans hw, fun t hm ↦ ?_⟩
    rcases List.mem_cons.mp hm with rfl | hm
    · exact hw
    · exact (ht t hm).trans hw

section Writes

variable (m : DeviceConfigMetadata) (c : DeviceConfig) (key : Key) (flash : Flash)

@[simp] theorem touchesMetadata_metadata : (NvsWrite.metadata m).touchesMetadata = true := rfl

@[simp] theorem touchesActive_metadata : (NvsWrite.metadata m).touchesActive = false := rfl

@[simp] theorem touchesMetadata_configuration :
    (NvsWrite.configuration key c).touchesMetadata = (key == .metadata) := rfl

@[simp] theorem touchesActive_configuration :
    (NvsWrite.configuration key c).touchesActive = (key == .active) := rfl

@[simp] theorem touchesMetadata_eraseKey :
    (NvsWrite.eraseKey key).touchesMetadata = (key == .metadata) := rfl

@[simp] theorem touchesActive_eraseKey :
    (NvsWrite.eraseKey key).touchesActive = (key == .active) := rfl

@[simp] theorem active_metadata :
    ((NvsWrite.metadata m).apply flash).active = flash.active := rfl

@[simp] theorem candidate_metadata :
    ((NvsWrite.metadata m).apply flash).candidate = flash.candidate := rfl

@[simp] theorem active_configuration_candidate :
    ((NvsWrite.configuration .candidate c).apply flash).active = flash.active := rfl

@[simp] theorem active_configuration_active :
    ((NvsWrite.configuration .active c).apply flash).active = some (ConfigStorage.configurationBlob c) :=
  rfl

@[simp] theorem active_eraseKey_candidate :
    ((NvsWrite.eraseKey .candidate).apply flash).active = flash.active := rfl

@[simp] theorem storedMetadata_configuration_candidate :
    storedMetadata ((NvsWrite.configuration .candidate c).apply flash) = storedMetadata flash :=
  storedMetadata_congr rfl

@[simp] theorem storedMetadata_configuration_active :
    storedMetadata ((NvsWrite.configuration .active c).apply flash) = storedMetadata flash :=
  storedMetadata_congr rfl

@[simp] theorem storedMetadata_eraseKey_candidate :
    storedMetadata ((NvsWrite.eraseKey .candidate).apply flash) = storedMetadata flash :=
  storedMetadata_congr rfl

@[simp] theorem storedMetadata_eraseAll :
    storedMetadata (NvsWrite.eraseAll.apply flash) = some .zero :=
  (storedMetadata_eq_some_iff _ _).mpr (.inl ⟨rfl, rfl⟩)

end Writes

/-! ### What one call can do -/

/-- The call was a load that returned the candidate. -/
def Reply.usingCandidate (r : Reply) : Bool := r.loaded.any (·.usingCandidate)

/-- A load returned the candidate. -/
def StoreOutput.bootedCandidate (o : StoreOutput) : Bool := o.reply.any (·.usingCandidate)

/-- Some write changed the metadata. -/
def StoreOutput.touchedMetadata (o : StoreOutput) : Bool := o.writes.any (·.touchesMetadata)

/-- The call did not report success. -/
def StoreOutput.notOk (o : StoreOutput) : Prop := ∀ r ∈ o.reply, r.result ≠ .ok

@[simp] theorem usingCandidate_code (result : EspErr) :
    (Reply.code result).usingCandidate = false := rfl

@[simp] theorem usingCandidate_load (r : LoadForBoot) :
    (Reply.load r).usingCandidate = r.usingCandidate := rfl

@[simp] theorem usingCandidate_loadedActive (platform : Platform) (buffer : DeviceConfig)
    (m : DeviceConfigMetadata) (flash : Flash) :
    (loadedActive platform buffer m flash).usingCandidate = false := rfl

section Cases

variable {platform : Platform} {s : Store} {plan : Plan}
  {o : Outcome NvsWrite Flash Ram Reply}

/-- Outcomes of a plan whose replies never report a candidate. -/
private theorem not_booted (h : Program.Reached NvsWrite.apply plan.last s.flash plan.steps o)
    (hs : ∀ t ∈ plan.steps, ∀ e, (t.2 e).2.usingCandidate = false)
    (hl : o.writes = plan.steps.map (·.1) → plan.last.2.usingCandidate = false) :
    (Store.after o).2.bootedCandidate = false := by
  obtain ⟨-, -, hf | ⟨hw, hf⟩ | ⟨t, ht, e, hf, -⟩⟩ := h.inversion
  · simp [Store.after, StoreOutput.bootedCandidate, hf]
  · simp [Store.after, StoreOutput.bootedCandidate, hf, hl hw]
  · simp [Store.after, StoreOutput.bootedCandidate, hf, hs t ht e]

/-- Outcomes that stop short of the whole plan report an error, if anything. -/
private theorem notOk_of_short
    (h : Program.Reached NvsWrite.apply plan.last s.flash plan.steps o)
    (hs : ∀ t ∈ plan.steps, ∀ e, (t.2 e).2.result ≠ .ok)
    (hl : o.writes = plan.steps.map (·.1) → plan.last.2.result ≠ .ok) :
    (Store.after o).2.notOk := by
  obtain ⟨-, -, hf | ⟨hw, hf⟩ | ⟨t, ht, e, hf, -⟩⟩ := h.inversion
  · simp [Store.after, StoreOutput.notOk, hf]
  · simp [Store.after, StoreOutput.notOk, hf, hl hw]
  · simp [Store.after, StoreOutput.notOk, hf, hs t ht e]

/-- An outcome of a whole plan lost power at the end or replied as planned. -/
private theorem finished_of_whole
    (h : Program.Reached NvsWrite.apply plan.last s.flash plan.steps o)
    (hw : o.writes = plan.steps.map (·.1)) :
    o.finished = none ∨ o.finished = some plan.last := by
  obtain ⟨-, -, hf | ⟨-, hf⟩ | ⟨t, ht, e, hf, hl⟩⟩ := h.inversion
  · exact .inl hf
  · exact .inr hf
  · rw [hw, List.length_map] at hl
    omega

private theorem writes_refused {ram : Ram} {result : EspErr}
    (h : Program.Reached NvsWrite.apply (Plan.refuse ram result).last s.flash
      (Plan.refuse ram result).steps o) : o.writes = [] :=
  List.prefix_nil.mp h.inversion.1

/-- Staging writes nothing, the candidate, or the candidate and its metadata; it reports
success only after both. -/
theorem stage_cases {c : DeviceConfig}
    (h : Program.Reached NvsWrite.apply ((Operation.stage c).plan platform s.flash s.ram).last
      s.flash ((Operation.stage c).plan platform s.flash s.ram).steps o) :
    (o.writes = [] ∧ (Store.after o).2.notOk) ∨
    (c.validate platform = .ok ∧ s.ram.candidateValidationInProgress = false ∧
      ((o.writes = [.configuration .candidate c] ∧ (Store.after o).2.notOk) ∨
      ∃ m, storedMetadata s.flash = some m ∧
        o.writes = [.configuration .candidate c, .metadata (m.pendingFor c.revision)] ∧
        (o.finished = none ∨ o.finished = some (s.ram, .code .ok)))) := by
  unfold Operation.plan at h
  dsimp only at h
  split at h
  · next hv => exact .inl ⟨writes_refused h, notOk_of_short h (by simp [Plan.refuse]) fun _ ↦ hv⟩
  · next hv =>
    split at h
    · exact .inl ⟨writes_refused h,
        notOk_of_short h (by simp [Plan.refuse]) (by simp [Plan.refuse, Reply.code])⟩
    · next hp =>
      have hv : c.validate platform = .ok := by simpa using hv
      have hp : s.ram.candidateValidationInProgress = false := by simpa using hp
      cases hm : storedMetadata s.flash with
      | none =>
        rw [hm] at h
        have hn : (Store.after o).2.notOk := notOk_of_short h
          (by simp [failCode, Reply.code]) fun _ ↦ getMetadataLocked_of_unreadable hm .zero
        rcases Program.prefix_one h.inversion.1 with hw | hw
        · exact .inl ⟨hw, hn⟩
        · exact .inr ⟨hv, hp, .inl ⟨hw, hn⟩⟩
      | some m =>
        rw [hm] at h
        rcases Program.prefix_two h.inversion.1 with hw | hw | hw
        · refine .inl ⟨hw, notOk_of_short h (by simp [failCode, Reply.code]) fun hc ↦ ?_⟩
          simp [hw] at hc
        · refine .inr ⟨hv, hp, .inl ⟨hw, notOk_of_short h (by simp [failCode, Reply.code])
            fun hc ↦ ?_⟩⟩
          simp [hw] at hc
        · exact .inr ⟨hv, hp, .inr ⟨m, rfl, hw, finished_of_whole h hw⟩⟩

/-- The reply of a load that boots the candidate. -/
def bootedReply (platform : Platform) (m : DeviceConfigMetadata) (flash : Flash) : Reply :=
  .load
    { result := .ok, configuration := bootBuffer platform m.booted flash, usingCandidate := true
      metadata := m.booted.attempted }

/-- The candidate is booted below the attempt limit when it is stored, valid and of the
pending revision. -/
theorem bootRefusal_eq_none_iff (m : DeviceConfigMetadata) (flash : Flash) :
    bootRefusal platform m flash = none ↔ m.bootAttempts < platform.candidateMaxAttempts ∧
      ∃ c, storedConfiguration platform .candidate flash = some c ∧
        c.revision = m.candidateRevision := by
  unfold bootRefusal
  rw [← UInt32.not_le]
  by_cases hl : platform.candidateMaxAttempts ≤ m.bootAttempts
  · simp [hl]
  · cases storedConfiguration platform .candidate flash with
    | none => simp [hl]
    | some c => by_cases hr : c.revision = m.candidateRevision <;> simp [hl, hr]

/-- The configuration that a load returns with the candidate. -/
theorem bootBuffer_of_stored {m : DeviceConfigMetadata} {flash : Flash} {c : DeviceConfig}
    (hl : m.bootAttempts < platform.candidateMaxAttempts)
    (hc : storedConfiguration platform .candidate flash = some c) :
    bootBuffer platform m flash = c := by
  rw [bootBuffer, if_neg (UInt32.not_le.mpr hl), (readConfiguration_of_stored hc .zero).1]

/-- A load records the boot; with a pending candidate it goes on to the rollback or to the
boot attempt, and returns the candidate only after recording the attempt. -/
theorem load_cases (h : Program.Reached NvsWrite.apply (loadPlan platform s.flash).last
      s.flash (loadPlan platform s.flash).steps o) :
    (o.writes = [] ∧ (Store.after o).2.bootedCandidate = false) ∨
    ∃ m, storedMetadata s.flash = some m ∧
      ((o.writes = [.metadata m.booted] ∧ (Store.after o).2.bootedCandidate = false) ∨
      (m.state = ConfigState.pending ∧
        ((bootRefusal platform m.booted s.flash = none ∧
          o.writes = [.metadata m.booted, .metadata m.booted.attempted] ∧
          (o.finished = none ∨
            o.finished = some (⟨true, m.candidateRevision⟩, bootedReply platform m s.flash))) ∨
        ∃ reason, bootRefusal platform m.booted s.flash = some reason ∧
          (Store.after o).2.bootedCandidate = false ∧
          (o.writes = [.metadata m.booted, .metadata (m.booted.rolledBack reason)] ∨
            o.writes = [.metadata m.booted, .metadata (m.booted.rolledBack reason),
              .eraseKey .candidate])))) := by
  unfold loadPlan at h
  cases hm : storedMetadata s.flash with
  | none =>
    rw [hm] at h
    exact .inl ⟨List.prefix_nil.mp h.inversion.1, not_booted h (by simp) (by simp)⟩
  | some m =>
    rw [hm] at h
    dsimp only at h
    split at h
    · next hp =>
      have hp : m.state = ConfigState.pending := hp
      cases hr : bootRefusal platform m.booted s.flash with
      | some reason =>
        rw [hr] at h
        have hb := not_booted h (by simp [rollbackSteps, loadFailed]) (by simp)
        rcases Program.prefix_three h.inversion.1 with hw | hw | hw | hw
        · exact .inl ⟨hw, hb⟩
        · exact .inr ⟨m, rfl, .inl ⟨hw, hb⟩⟩
        · exact .inr ⟨m, rfl, .inr ⟨hp, .inr ⟨reason, hr, hb, .inl hw⟩⟩⟩
        · exact .inr ⟨m, rfl, .inr ⟨hp, .inr ⟨reason, hr, hb, .inr hw⟩⟩⟩
      | none =>
        rw [hr] at h
        rcases Program.prefix_two h.inversion.1 with hw | hw | hw
        · refine .inl ⟨hw, not_booted h (by simp [loadFailed]) fun hc ↦ ?_⟩
          simp [hw] at hc
        · refine .inr ⟨m, rfl, .inl ⟨hw, not_booted h (by simp [loadFailed]) fun hc ↦ ?_⟩⟩
          simp [hw] at hc
        · exact .inr ⟨m, rfl, .inr ⟨hp, .inl ⟨hr, hw, finished_of_whole h hw⟩⟩⟩
    · have hb := not_booted h (by simp [loadFailed]) (by simp)
      rcases Program.prefix_one h.inversion.1 with hw | hw
      · exact .inl ⟨hw, hb⟩
      · exact .inr ⟨m, rfl, .inl ⟨hw, hb⟩⟩

/-- When an activation goes ahead: validation of this revision is in progress, and the
stored candidate is pending and matches the verified configuration. -/
structure Activates (platform : Platform) (s : Store) (verified candidate : DeviceConfig)
    (m : DeviceConfigMetadata) : Prop where
  inProgress : s.ram.candidateValidationInProgress = true
  revision : s.ram.candidateValidationRevision = verified.revision
  stored : storedConfiguration platform .candidate s.flash = some candidate
  metadata : storedMetadata s.flash = some m
  pending : m.state = ConfigState.pending
  candidateRevision : m.candidateRevision = verified.revision
  matching : configurationsMatch candidate verified = true

/-- An activation writes nothing, or starts with the active configuration, goes on to the
metadata, and reports success only after erasing the candidate. -/
theorem activate_cases {verified : DeviceConfig}
    (h : Program.Reached NvsWrite.apply
      ((Operation.activate verified).plan platform s.flash s.ram).last s.flash
      ((Operation.activate verified).plan platform s.flash s.ram).steps o) :
    (o.writes = [] ∧ (Store.after o).2.notOk) ∨
    ∃ candidate m, Activates platform s verified candidate m ∧
      ((o.writes = [.configuration .active candidate] ∧ (Store.after o).2.notOk) ∨
      (o.writes = [.configuration .active candidate, .metadata m.settled] ∧
        (Store.after o).2.notOk) ∨
      o.writes = [.configuration .active candidate, .metadata m.settled,
        .eraseKey .candidate]) := by
  have refused {ram : Ram} {result : EspErr} (hr : result ≠ .ok)
      (h : Program.Reached NvsWrite.apply (Plan.refuse ram result).last s.flash
        (Plan.refuse ram result).steps o) : o.writes = [] ∧ (Store.after o).2.notOk :=
    ⟨writes_refused h, notOk_of_short h (by simp [Plan.refuse]) fun _ ↦ hr⟩
  unfold Operation.plan at h
  dsimp only at h
  split at h
  · exact .inl (refused (by decide) h)
  · next hg =>
    cases hc : storedConfiguration platform .candidate s.flash with
    | none =>
      rw [hc] at h
      exact .inl (refused (readConfiguration_of_unusable hc .zero) h)
    | some candidate =>
      cases hm : storedMetadata s.flash with
      | none =>
        rw [hc, hm] at h
        exact .inl (refused (getMetadataLocked_of_unreadable hm .zero) h)
      | some m =>
        rw [hc, hm] at h
        dsimp only at h
        split at h
        · exact .inl (refused (by decide) h)
        · next hq =>
          simp only [Bool.not_eq_true', ne_eq, not_or, Bool.not_eq_false,
            Classical.not_not] at hg hq
          have ha : Activates platform s verified candidate m :=
            ⟨hg.1, hg.2, hc, hm, hq.1, hq.2.1, hq.2.2⟩
          have short (hn : o.writes.length < 3) : (Store.after o).2.notOk :=
            notOk_of_short h (by simp [failCode, Reply.code]) fun hw ↦ by simp [hw] at hn
          rcases Program.prefix_three h.inversion.1 with hw | hw | hw | hw
          · exact .inl ⟨hw, short (by rw [hw]; simp)⟩
          · exact .inr ⟨candidate, m, ha, .inl ⟨hw, short (by rw [hw]; simp)⟩⟩
          · exact .inr ⟨candidate, m, ha, .inr (.inl ⟨hw, short (by rw [hw]; simp)⟩)⟩
          · exact .inr ⟨candidate, m, ha, .inr (.inr hw)⟩

/-- A rollback writes nothing, the rollback metadata, or also erases the candidate. -/
theorem rollback_cases {reason : Option (List UInt8)}
    (h : Program.Reached NvsWrite.apply
      ((Operation.rollback reason).plan platform s.flash s.ram).last s.flash
      ((Operation.rollback reason).plan platform s.flash s.ram).steps o) :
    o.writes = [] ∨ ∃ m text, storedMetadata s.flash = some m ∧
      (o.writes = [.metadata (m.rolledBack text)] ∨
        o.writes = [.metadata (m.rolledBack text), .eraseKey .candidate]) := by
  unfold Operation.plan at h
  cases hm : storedMetadata s.flash with
  | none =>
    rw [hm] at h
    exact .inl (writes_refused h)
  | some m =>
    rw [hm] at h
    rcases Program.prefix_two h.inversion.1 with hw | hw | hw
    · exact .inl hw
    · exact .inr ⟨m, _, rfl, .inl hw⟩
    · exact .inr ⟨m, _, rfl, .inr hw⟩

/-- A cancellation writes nothing, the settled metadata, or also erases the candidate. -/
theorem cancel_cases
    (h : Program.Reached NvsWrite.apply (Operation.cancel.plan platform s.flash s.ram).last
      s.flash (Operation.cancel.plan platform s.flash s.ram).steps o) :
    o.writes = [] ∨ ∃ m, storedMetadata s.flash = some m ∧
      s.ram.candidateValidationInProgress = false ∧
      (o.writes = [.metadata m.settled] ∨
        o.writes = [.metadata m.settled, .eraseKey .candidate]) := by
  unfold Operation.plan at h
  dsimp only at h
  split at h
  · exact .inl (writes_refused h)
  · next hp =>
    have hp : s.ram.candidateValidationInProgress = false := by simpa using hp
    cases hm : storedMetadata s.flash with
    | none =>
      rw [hm] at h
      exact .inl (writes_refused h)
    | some m =>
      rw [hm] at h
      rcases Program.prefix_two h.inversion.1 with hw | hw | hw
      · exact .inl hw
      · exact .inr ⟨m, rfl, hp, .inl hw⟩
      · exact .inr ⟨m, rfl, hp, .inr hw⟩

/-- A factory reset or a serial recovery writes nothing or erases everything. -/
theorem erase_cases {ram ram' : Ram} {reply : Reply}
    {steps : List (Program.Step NvsWrite Ram Failure Reply)}
    (hs : steps = [(.eraseAll, failCode ram)])
    (h : Program.Reached NvsWrite.apply (ram', reply) s.flash steps o) :
    o.writes = [] ∨ o.writes = [.eraseAll] := by
  rw [hs] at h
  exact Program.prefix_one h.inversion.1

end Cases

/-- Only a load replies with a candidate. -/
theorem bootedCandidate_of_ne_load (platform : Platform) {op : Operation} (hop : op ≠ .load)
    (s : Store) (faults : List (Fault Failure)) :
    ((configStore platform).step s (.call op faults)).2.bootedCandidate = false := by
  have coded (p : Op EspErr) : (Store.after ((p >>= fun result ↦ pure (Reply.code result)).run
      NvsWrite.apply s.flash s.ram faults)).2.bootedCandidate = false := by
    rw [Store.after, StoreOutput.bootedCandidate]
    dsimp only [bind, pure]
    rw [Program.run_bind_done]
    cases (p.run NvsWrite.apply s.flash s.ram faults).finished <;> rfl
  cases op with
  | load => exact absurd rfl hop
  | stage c => exact coded _
  | activate c => exact coded _
  | rollback reason => exact coded _
  | cancel => exact coded _
  | factoryReset => exact coded _
  | recover => exact coded _

/-- The flash after a call is the result of its writes. -/
theorem flash_step (platform : Platform) (s : Store) (e : StoreEvent) :
    ((configStore platform).step s e).1.flash =
      Program.applyAll NvsWrite.apply s.flash ((configStore platform).step s e).2.writes := by
  cases e with
  | powerCut => rfl
  | call op faults => exact (reached_call platform op s faults).inversion.2.1

/-- Every write that an event can make. -/
inductive Writes : StoreEvent → NvsWrite → Prop
  | metadata (e : StoreEvent) (m : DeviceConfigMetadata) : Writes e (.metadata m)
  | candidate (c : DeviceConfig) (faults : List (Fault Failure)) :
    Writes (.call (.stage c) faults) (.configuration .candidate c)
  | active (c candidate : DeviceConfig) (faults : List (Fault Failure)) :
    Writes (.call (.activate c) faults) (.configuration .active candidate)
  | eraseCandidate (e : StoreEvent) : Writes e (.eraseKey .candidate)
  | reset (faults : List (Fault Failure)) : Writes (.call .factoryReset faults) .eraseAll
  | recovered (faults : List (Fault Failure)) : Writes (.call .recover faults) .eraseAll

/-- The writes of an event are the listed ones. -/
theorem writes_step {platform : Platform} {s : Store} {e : StoreEvent} {w : NvsWrite}
    (hw : w ∈ ((configStore platform).step s e).2.writes) : Writes e w := by
  cases e with
  | powerCut => cases hw
  | call op faults =>
    have hr := reached_call platform op s faults
    change w ∈ ((op.program platform).run NvsWrite.apply s.flash s.ram faults).writes at hw
    cases op with
    | stage c =>
      rcases stage_cases hr with ⟨h, -⟩ | ⟨-, -, ⟨h, -⟩ | ⟨m, -, h, -⟩⟩ <;> rw [h] at hw <;>
        simp at hw
      · exact hw ▸ .candidate c faults
      · rcases hw with rfl | rfl
        · exact .candidate c faults
        · exact .metadata _ _
    | load =>
      rcases load_cases hr with ⟨h, -⟩ | ⟨m, -, ⟨h, -⟩ | ⟨-, ⟨-, h, -⟩ | ⟨r, -, -, h | h⟩⟩⟩ <;>
        rw [h] at hw <;> simp at hw
      · exact hw ▸ .metadata _ _
      · rcases hw with rfl | rfl <;> exact .metadata _ _
      · rcases hw with rfl | rfl <;> exact .metadata _ _
      · rcases hw with rfl | rfl | rfl
        · exact .metadata _ _
        · exact .metadata _ _
        · exact .eraseCandidate _
    | activate c =>
      rcases activate_cases hr with ⟨h, -⟩ | ⟨candidate, m, -, ⟨h, -⟩ | ⟨h, -⟩ | h⟩ <;>
        rw [h] at hw <;> simp at hw
      · exact hw ▸ .active c candidate faults
      · rcases hw with rfl | rfl
        · exact .active c candidate faults
        · exact .metadata _ _
      · rcases hw with rfl | rfl | rfl
        · exact .active c candidate faults
        · exact .metadata _ _
        · exact .eraseCandidate _
    | rollback reason =>
      rcases rollback_cases hr with h | ⟨m, text, -, h | h⟩ <;> rw [h] at hw <;> simp at hw
      · exact hw ▸ .metadata _ _
      · rcases hw with rfl | rfl
        · exact .metadata _ _
        · exact .eraseCandidate _
    | cancel =>
      rcases cancel_cases hr with h | ⟨m, -, -, h | h⟩ <;> rw [h] at hw <;> simp at hw
      · exact hw ▸ .metadata _ _
      · rcases hw with rfl | rfl
        · exact .metadata _ _
        · exact .eraseCandidate _
    | factoryReset =>
      rcases erase_cases rfl hr with h | h <;> rw [h] at hw <;> simp at hw
      exact hw ▸ .reset faults
    | recover =>
      rcases erase_cases rfl hr with h | h <;> rw [h] at hw <;> simp at hw
      exact hw ▸ .recovered faults

/-- Only activations and erases write the active slot. -/
theorem touchesActive_of_mem_writes {platform : Platform} {s : Store} {e : StoreEvent}
    {w : NvsWrite} (hw : w ∈ ((configStore platform).step s e).2.writes)
    (ha : w.touchesActive = true) :
    (∃ c faults, e = .call (.activate c) faults) ∨
      (w = .eraseAll ∧ ∃ faults, e = .call .factoryReset faults ∨ e = .call .recover faults) := by
  cases writes_step hw with
  | active c candidate faults => exact .inl ⟨c, faults, rfl⟩
  | reset faults => exact .inr ⟨rfl, faults, .inl rfl⟩
  | recovered faults => exact .inr ⟨rfl, faults, .inr rfl⟩
  | _ => cases ha

/-- An event that is not a staging keeps the candidate slot or empties it. -/
theorem candidate_of_ne_stage {platform : Platform} {s : Store} {e : StoreEvent}
    (he : ∀ c faults, e ≠ .call (.stage c) faults) :
    ((configStore platform).step s e).1.flash.candidate = s.flash.candidate ∨
      ((configStore platform).step s e).1.flash.candidate = none := by
  have keeps (w : NvsWrite) (hw : Writes e w) (flash : Flash) :
      (w.apply flash).candidate = flash.candidate ∨ (w.apply flash).candidate = none := by
    cases hw with
    | metadata => exact .inl rfl
    | candidate c faults => exact absurd rfl (he c faults)
    | active => exact .inl rfl
    | eraseCandidate => exact .inr rfl
    | reset => exact .inr rfl
    | recovered => exact .inr rfl
  rw [flash_step]
  have hws : ∀ w ∈ ((configStore platform).step s e).2.writes, Writes e w := fun w ↦ writes_step
  generalize ((configStore platform).step s e).2.writes = ws at hws
  generalize s.flash = flash
  induction ws generalizing flash with
  | nil => exact .inl rfl
  | cons w ws ih =>
    have hw := keeps w (hws w List.mem_cons_self) flash
    rcases ih (fun v hv ↦ hws v (List.mem_cons_of_mem w hv)) (w.apply flash) with h | h
    · exact hw.imp h.trans h.trans
    · exact .inr h

/-- A plan that ends with the RAM it started with. -/
private theorem ram_of_plan {platform : Platform} {op : Operation} {s : Store}
    {faults : List (Fault Failure)} {reply : Reply}
    (hr : ((configStore platform).step s (.call op faults)).2.reply = some reply)
    (hs : ∀ t ∈ (op.plan platform s.flash s.ram).steps, ∀ e, (t.2 e).1 = s.ram)
    (hl : (op.plan platform s.flash s.ram).last.1 = s.ram ∨
      ∃ w ∈ (op.plan platform s.flash s.ram).steps.map (·.1), w = .eraseAll) :
    ((configStore platform).step s (.call op faults)).1.ram = s.ram ∨
      .eraseAll ∈ ((configStore platform).step s (.call op faults)).2.writes := by
  have h := reached_call platform op s faults
  change (Store.after _).2.reply = _ at hr
  change (Store.after _).1.ram = _ ∨ NvsWrite.eraseAll ∈ (Store.after _).2.writes
  obtain ⟨-, -, hf | ⟨hw, hf⟩ | ⟨t, ht, e, hf, -⟩⟩ := h.inversion
  · simp [Store.after, hf] at hr
  · rcases hl with hl | ⟨w, hm, rfl⟩
    · exact .inl (by simp [Store.after, hf, hl])
    · exact .inr (by simpa [Store.after, hw] using hm)
  · exact .inl (by simp [Store.after, hf, hs t ht e])

/-- Calls other than loads, activations and rollbacks keep RAM, unless they erase NVS. -/
theorem ram_of_call {platform : Platform} {op : Operation} {s : Store}
    {faults : List (Fault Failure)} {reply : Reply}
    (hop : (∃ c, op = .stage c) ∨ op = .cancel ∨ op = .factoryReset ∨ op = .recover)
    (hr : ((configStore platform).step s (.call op faults)).2.reply = some reply) :
    ((configStore platform).step s (.call op faults)).1.ram = s.ram ∨
      .eraseAll ∈ ((configStore platform).step s (.call op faults)).2.writes := by
  refine ram_of_plan hr ?_ ?_ <;> rcases hop with ⟨c, rfl⟩ | rfl | rfl | rfl <;>
    simp only [Operation.plan]
  · split
    · simp [Plan.refuse]
    · split
      · simp [Plan.refuse]
      · split <;> simp [failCode]
  · split
    · simp [Plan.refuse]
    · split <;> simp [Plan.refuse, failCode]
  · simp [failCode]
  · simp [failCode]
  · refine .inl ?_
    split
    · rfl
    · split
      · rfl
      · split <;> rfl
  · refine .inl ?_
    split
    · rfl
    · split <;> rfl
  · exact .inr ⟨_, List.mem_singleton.mpr rfl, rfl⟩
  · exact .inr ⟨_, List.mem_singleton.mpr rfl, rfl⟩

/-- A load that returns the candidate puts its validation in progress. -/
theorem ram_of_load {platform : Platform} {s : Store} {faults : List (Fault Failure)}
    {reply : Reply} {l : LoadForBoot}
    (hr : ((configStore platform).step s (.call .load faults)).2.reply = some reply)
    (hl : reply.loaded = some l) (hu : l.usingCandidate = true) :
    l.result = .ok ∧
      ((configStore platform).step s (.call .load faults)).1.ram =
        ⟨true, l.configuration.revision⟩ := by
  have h := reached_call platform .load s faults
  have hb : ((configStore platform).step s (.call .load faults)).2.bootedCandidate = true := by
    rw [StoreOutput.bootedCandidate, hr]
    simp [Reply.usingCandidate, hl, hu]
  change (Store.after _).2.bootedCandidate = true at hb
  rcases load_cases h with ⟨-, hn⟩ | ⟨m, -, ⟨-, hn⟩ | ⟨-, ⟨hrefuse, -, hf⟩ | ⟨r, -, hn, -⟩⟩⟩
  · rw [hn] at hb; cases hb
  · rw [hn] at hb; cases hb
  · obtain ⟨hlt, c, hc, hrev⟩ := (bootRefusal_eq_none_iff m.booted s.flash).mp hrefuse
    rcases hf with hf | hf
    · change (Store.after _).2.reply = _ at hr
      simp [Store.after, hf] at hr
    · change (Store.after _).2.reply = _ at hr
      simp only [Store.after, hf, Option.map_some, Option.some.injEq] at hr
      subst hr
      obtain rfl := Option.some.inj hl
      have hbuffer : bootBuffer platform m.booted s.flash = c := bootBuffer_of_stored hlt hc
      refine ⟨rfl, ?_⟩
      change (Store.after _).1.ram = _
      simp only [Store.after, hf, Option.map_some, Option.getD_some, hbuffer, hrev,
        DeviceConfigMetadata.booted_candidateRevision]
  · rw [hn] at hb; cases hb

/-! ### Calls that go through -/

/-- A valid configuration is staged when no validation is in progress and no commit fails. -/
theorem step_stage {platform : Platform} {s : Store} {c : DeviceConfig}
    {m : DeviceConfigMetadata} (hv : c.validate platform = .ok)
    (hp : s.ram.candidateValidationInProgress = false) (hm : storedMetadata s.flash = some m) :
    (configStore platform).step s (.call (.stage c) []) =
      (⟨(NvsWrite.metadata (m.pendingFor c.revision)).apply
          ((NvsWrite.configuration .candidate c).apply s.flash), s.ram⟩,
        ⟨[.configuration .candidate c, .metadata (m.pendingFor c.revision)],
          some (.code .ok)⟩) := by
  rw [call_of_applied platform _ s [] (by simp), Operation.plan, if_neg (by simpa using hv),
    if_neg (by simp [hp]), hm]
  rfl

/-- The stored candidate is `c`, and the metadata `m` is pending for its revision. -/
structure PendingCandidate (platform : Platform) (flash : Flash) (c : DeviceConfig)
    (m : DeviceConfigMetadata) : Prop where
  metadata : storedMetadata flash = some m
  pending : m.state = ConfigState.pending
  candidate : storedConfiguration platform .candidate flash = some c
  revision : c.revision = m.candidateRevision

/-- A staged configuration is the pending candidate. -/
theorem pendingCandidate_staged {platform : Platform} {flash : Flash} {c : DeviceConfig}
    {m : DeviceConfigMetadata} (hv : c.validate platform = .ok)
    (hm : storedMetadata flash = some m) :
    PendingCandidate platform ((NvsWrite.metadata (m.pendingFor c.revision)).apply
      ((NvsWrite.configuration .candidate c).apply flash)) c (m.pendingFor c.revision) where
  metadata := storedMetadata_write (storable_pendingFor (storable_of_storedMetadata hm) _) _
  pending := rfl
  candidate := storedConfiguration_write hv .candidate flash
  revision := rfl

/-- A recorded boot attempt leaves the candidate pending. -/
theorem PendingCandidate.attempted {platform : Platform} {flash : Flash} {c : DeviceConfig}
    {m : DeviceConfigMetadata} (h : PendingCandidate platform flash c m) :
    PendingCandidate platform ((NvsWrite.metadata m.booted.attempted).apply
      ((NvsWrite.metadata m.booted).apply flash)) c m.booted.attempted where
  metadata := storedMetadata_write
    (storable_attempted (storable_booted (storable_of_storedMetadata h.metadata))) _
  pending := h.pending
  candidate := h.candidate
  revision := h.revision

/-- A pending candidate below the attempt limit is booted when no commit fails. -/
theorem step_load_candidate {platform : Platform} {s : Store} {c : DeviceConfig}
    {m : DeviceConfigMetadata} (h : PendingCandidate platform s.flash c m)
    (hl : m.bootAttempts < platform.candidateMaxAttempts) :
    (configStore platform).step s (.call .load []) =
      (⟨(NvsWrite.metadata m.booted.attempted).apply
          ((NvsWrite.metadata m.booted).apply s.flash), ⟨true, m.candidateRevision⟩⟩,
        ⟨[.metadata m.booted, .metadata m.booted.attempted],
          some (.load
            { result := .ok, configuration := c, usingCandidate := true
              metadata := m.booted.attempted })⟩) := by
  have hn : bootRefusal platform m.booted s.flash = none :=
    (bootRefusal_eq_none_iff m.booted s.flash).mpr ⟨hl, c, h.candidate, h.revision⟩
  have hb : bootBuffer platform m.booted s.flash = c := bootBuffer_of_stored hl h.candidate
  rw [call_of_applied platform _ s [] (by simp), Operation.plan, loadPlan, h.metadata]
  dsimp only
  rw [if_pos (show m.booted.state = _ from h.pending), hn, hb]
  rfl

/-- A staging that goes through leaves the configuration pending with no attempts. -/
theorem pendingCandidate_stage {platform : Platform} {s : Store} {c : DeviceConfig}
    {m : DeviceConfigMetadata} (hv : c.validate platform = .ok)
    (hp : s.ram.candidateValidationInProgress = false) (hm : storedMetadata s.flash = some m) :
    PendingCandidate platform ((configStore platform).step s (.call (.stage c) [])).1.flash c
      (m.pendingFor c.revision) := by
  rw [step_stage hv hp hm]
  exact pendingCandidate_staged hv hm

/-- A load that goes through leaves the candidate pending with one more attempt, and its
validation in progress. -/
theorem pendingCandidate_load {platform : Platform} {s : Store} {c : DeviceConfig}
    {m : DeviceConfigMetadata} (h : PendingCandidate platform s.flash c m)
    (hl : m.bootAttempts < platform.candidateMaxAttempts) :
    PendingCandidate platform ((configStore platform).step s (.call .load [])).1.flash c
        m.booted.attempted ∧
      ((configStore platform).step s (.call .load [])).1.ram = ⟨true, m.candidateRevision⟩ := by
  rw [step_load_candidate h hl]
  exact ⟨h.attempted, rfl⟩

/-- A power cut between calls leaves the candidate pending. -/
theorem pendingCandidate_powerCut {platform : Platform} {s : Store} {c : DeviceConfig}
    {m : DeviceConfigMetadata} (h : PendingCandidate platform s.flash c m) :
    PendingCandidate platform ((configStore platform).step s .powerCut).1.flash c m := h

/-- Replacing the active slot leaves the candidate pending. -/
theorem PendingCandidate.activeReplaced {platform : Platform} {flash : Flash}
    {c : DeviceConfig} {m : DeviceConfigMetadata} (h : PendingCandidate platform flash c m)
    (c' : DeviceConfig) :
    PendingCandidate platform ((NvsWrite.configuration .active c').apply flash) c m where
  metadata := (storedMetadata_congr rfl).trans h.metadata
  pending := h.pending
  candidate := (storedConfiguration_congr rfl).trans h.candidate
  revision := h.revision

/-- Every configuration matches itself. -/
theorem configurationsMatch_self (c : DeviceConfig) : configurationsMatch c c = true := by
  simp [configurationsMatch]

/-- An activation of the booted candidate goes through when no commit fails. -/
theorem step_activate {platform : Platform} {s : Store} {c : DeviceConfig}
    {m : DeviceConfigMetadata} (h : PendingCandidate platform s.flash c m)
    (hp : s.ram = ⟨true, m.candidateRevision⟩) :
    (configStore platform).step s (.call (.activate c) []) =
      (⟨(NvsWrite.eraseKey .candidate).apply ((NvsWrite.metadata m.settled).apply
          ((NvsWrite.configuration .active c).apply s.flash)), .clear⟩,
        ⟨[.configuration .active c, .metadata m.settled, .eraseKey .candidate],
          some (.code .ok)⟩) := by
  rw [call_of_applied platform _ s [] (by simp), Operation.plan,
    if_neg (by simp [hp, h.revision]), h.candidate, h.metadata]
  dsimp only
  rw [if_neg (by simp [h.pending, h.revision, configurationsMatch_self])]
  rfl

/-- An activation of the booted candidate that loses power between its first two commits
has replaced the active slot and nothing else. -/
theorem step_activate_cut {platform : Platform} {s : Store} {c : DeviceConfig}
    {m : DeviceConfigMetadata} (h : PendingCandidate platform s.flash c m)
    (hp : s.ram = ⟨true, m.candidateRevision⟩) :
    (configStore platform).step s (.call (.activate c) [.applied, .lostBefore]) =
      (⟨(NvsWrite.configuration .active c).apply s.flash, .clear⟩,
        ⟨[.configuration .active c], none⟩) := by
  change Store.after _ = _
  rw [operation_follows platform (.activate c) s.flash s.ram [.applied, .lostBefore],
    Operation.plan, if_neg (by simp [hp, h.revision]), h.candidate, h.metadata]
  dsimp only
  rw [if_neg (by simp [h.pending, h.revision, configurationsMatch_self])]
  rfl

/-- An activation of the booted candidate whose second commit fails reports the error with
the active slot replaced. -/
theorem step_activate_failed {platform : Platform} {s : Store} {c : DeviceConfig}
    {m : DeviceConfigMetadata} (h : PendingCandidate platform s.flash c m)
    (hp : s.ram = ⟨true, m.candidateRevision⟩) (e : Failure) :
    (configStore platform).step s (.call (.activate c) [.applied, .failed e]) =
      (⟨(NvsWrite.configuration .active c).apply s.flash, s.ram⟩,
        ⟨[.configuration .active c], some (.code e.val)⟩) := by
  change Store.after _ = _
  rw [operation_follows platform (.activate c) s.flash s.ram [.applied, .failed e],
    Operation.plan, if_neg (by simp [hp, h.revision]), h.candidate, h.metadata]
  dsimp only
  rw [if_neg (by simp [h.pending, h.revision, configurationsMatch_self])]
  rfl

/-- An erased device reads zero metadata. -/
theorem storedMetadata_erased : storedMetadata .erased = some .zero :=
  (storedMetadata_eq_some_iff _ _).mpr (.inl ⟨rfl, rfl⟩)

/-- The first load of an erased device finds no configuration. -/
theorem step_load_erased (platform : Platform) (ram : Ram) :
    ∃ l, l.result = .nvsNotFound ∧
      (configStore platform).step ⟨.erased, ram⟩ (.call .load []) =
        (⟨(NvsWrite.metadata DeviceConfigMetadata.zero.booted).apply .erased, .clear⟩,
          ⟨[.metadata DeviceConfigMetadata.zero.booted], some (.load l)⟩) := by
  rw [call_of_applied platform _ _ [] (by simp), Operation.plan, loadPlan, storedMetadata_erased]
  dsimp only
  rw [if_neg (show ¬ DeviceConfigMetadata.zero.booted.state = ConfigState.pending by decide)]
  exact ⟨_, rfl, rfl⟩

/-- At the attempt limit a load rolls the pending candidate back. -/
theorem step_load_limit {platform : Platform} {s : Store} {m : DeviceConfigMetadata}
    (hm : storedMetadata s.flash = some m) (hp : m.state = ConfigState.pending)
    (hl : platform.candidateMaxAttempts ≤ m.bootAttempts) :
    ((configStore platform).step s (.call .load [])).2.writes =
      [.metadata m.booted, .metadata (m.booted.rolledBack attemptLimitReason),
        .eraseKey .candidate] := by
  have hr : bootRefusal platform m.booted s.flash = some attemptLimitReason := if_pos hl
  rw [call_of_applied platform _ s [] (by simp), Operation.plan, loadPlan, hm]
  dsimp only
  rw [if_pos (show m.booted.state = _ from hp), hr]
  rfl

end EdgeMonitor.Firmware
