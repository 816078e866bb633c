import EdgeMonitor.Firmware.Activation
import EdgeMonitor.Firmware.MetadataSteps

/-!
# Failed stagings

Library `Firmware`. A configuration whose staging failed is not booted later, unless the
staging left it in the candidate slot under a pending metadata of the same revision. The two
commits of `device_config_stage_candidate` are the candidate and its metadata; the revision
is their only link.
-/

namespace EdgeMonitor.Firmware
open EdgeMonitor.Base

/-- The next boot returns this configuration as its candidate. -/
def Bootable (platform : Platform) (c : DeviceConfig) (flash : Flash) : Prop :=
  ∃ m, PendingCandidate platform flash c m ∧ m.bootAttempts < platform.candidateMaxAttempts

/-- A staging that is not refused, below the attempt limit of a pending candidate of the same
revision, and whose candidate commit takes effect or repeats the stored candidate. -/
def StagesOverPending (platform : Platform) (s : Store) (c : DeviceConfig)
    (faults : List (Fault Failure)) : Prop :=
  c.validate platform = .ok ∧ s.ram.candidateValidationInProgress = false ∧
    (∃ m, storedMetadata s.flash = some m ∧ m.state = ConfigState.pending ∧
      c.revision = m.candidateRevision ∧ m.bootAttempts < platform.candidateMaxAttempts) ∧
    (Program.takesEffect faults = true ∨
      storedConfiguration platform .candidate s.flash = some c)

/-- The event does not stage this configuration: a call for it changes no metadata, and does
not leave it over a pending candidate. -/
def NotStaged (platform : Platform) (c : DeviceConfig) (s : Store) (e : StoreEvent) : Prop :=
  ∀ faults, e = .call (.stage c) faults →
    ((configStore platform).step s e).2.touchedMetadata = false ∧
      ¬ StagesOverPending platform s c faults

/-! ### One call -/

section Steps

variable {platform : Platform} {c : DeviceConfig} {s : Store}

/-- Another configuration in the candidate slot, whatever the metadata. -/
private theorem not_bootable_other {c' : DeviceConfig} {flash : Flash}
    (hv : c'.validate platform = .ok)
    (hc : flash.candidate = some (ConfigStorage.configurationBlob c')) (hne : c' ≠ c) :
    ¬ Bootable platform c flash := by
  rintro ⟨m, h, -⟩
  have hs : storedConfiguration platform .candidate flash = some c' :=
    (storedConfiguration_eq_some_iff platform .candidate c' flash).mpr ⟨hc, hv⟩
  exact hne (Option.some.inj (hs.symm.trans h.candidate))

/-- An event that is not a staging makes no candidate bootable. -/
private theorem bootable_of_ne_stage {e : StoreEvent}
    (he : ∀ c faults, e ≠ .call (.stage c) faults)
    (h : Bootable platform c ((configStore platform).step s e).1.flash) :
    Bootable platform c s.flash := by
  obtain ⟨m', h', hl⟩ := h
  -- The candidate slot was already there,
  have hc : storedConfiguration platform .candidate s.flash = some c := by
    obtain ⟨hg, hv⟩ := (storedConfiguration_eq_some_iff _ _ _ _).mp h'.candidate
    rcases candidate_of_ne_stage he with hk | hk
    · exact (storedConfiguration_eq_some_iff _ _ _ _).mpr ⟨hk.symm.trans hg, hv⟩
    · exact nomatch hk.symm.trans hg
  -- and so was the pending metadata, with no more attempts.
  have keep {m : DeviceConfigMetadata} (hm : storedMetadata s.flash = some m)
      (hp : m.state = ConfigState.pending) (hr : m'.candidateRevision = m.candidateRevision)
      (hb : m.bootAttempts < platform.candidateMaxAttempts) : Bootable platform c s.flash :=
    ⟨m, ⟨hm, hp, hc, h'.revision.trans hr⟩, hb⟩
  have hm := metadata_step platform s e
  unfold ChangesMetadata at hm
  rw [h'.metadata] at hm
  generalize ((configStore platform).step s e).2.touchedMetadata = touched at hm
  generalize ((configStore platform).step s e).2.bootedCandidate = booted at hm
  generalize hs : storedMetadata s.flash = stored at hm
  cases hm with
  | same => exact keep hs h'.pending rfl hl
  | staged m c faults => exact absurd rfl (he c faults)
  | booted m faults => exact keep hs h'.pending rfl hl
  | attempted m faults b hp hb => exact keep hs hp rfl hb
  | _ => exact nomatch h'.pending

/-- A staging that is not refused writes something exactly if its first commit takes
effect. -/
private theorem takesEffect_of_stage {faults : List (Fault Failure)}
    (hv : c.validate platform = .ok) (hp : s.ram.candidateValidationInProgress = false) :
    ((Operation.stage c).program platform |>.run NvsWrite.apply s.flash s.ram faults).writes ≠ [] ↔
      Program.takesEffect faults = true := by
  rw [operation_follows platform (.stage c) s.flash s.ram faults, Operation.plan,
    if_neg (by simpa using hv), if_neg (by simp [hp])]
  cases storedMetadata s.flash <;> exact Program.runSteps_writes_ne_nil_iff _ _ _ _ _ _

/-- A staging of another configuration does not make `c` bootable. -/
private theorem bootable_of_stage_other {c' : DeviceConfig} {faults : List (Fault Failure)}
    (hne : c' ≠ c)
    (h : Bootable platform c ((configStore platform).step s (.call (.stage c') faults)).1.flash) :
    Bootable platform c s.flash := by
  have hr := reached_call platform (.stage c') s faults
  rw [flash_step] at h
  change Bootable platform c (Program.applyAll NvsWrite.apply s.flash
    ((Operation.stage c').program platform |>.run NvsWrite.apply s.flash s.ram faults).writes) at h
  rcases stage_cases hr with ⟨hw, -⟩ | ⟨hv, -, ⟨hw, -⟩ | ⟨m, -, hw, -⟩⟩
  · rwa [hw] at h
  · rw [hw] at h
    exact absurd h (not_bootable_other hv rfl hne)
  · rw [hw] at h
    exact absurd h (not_bootable_other hv rfl hne)

/-- What a staging of `c` that changes no metadata leaves bootable was bootable, or it
staged `c` over a pending candidate. -/
private theorem bootable_of_stage {faults : List (Fault Failure)}
    (ht : ((configStore platform).step s (.call (.stage c) faults)).2.touchedMetadata = false)
    (h : Bootable platform c ((configStore platform).step s (.call (.stage c) faults)).1.flash) :
    Bootable platform c s.flash ∨ StagesOverPending platform s c faults := by
  have hr := reached_call platform (.stage c) s faults
  rw [flash_step] at h
  change Bootable platform c (Program.applyAll NvsWrite.apply s.flash
    ((Operation.stage c).program platform |>.run NvsWrite.apply s.flash s.ram faults).writes) at h
  change List.any ((Operation.stage c).program platform |>.run NvsWrite.apply s.flash s.ram
    faults).writes _ = _ at ht
  rcases stage_cases hr with ⟨hw, -⟩ | ⟨hv, hp, ⟨hw, -⟩ | ⟨m, -, hw, -⟩⟩
  · rw [hw] at h
    exact .inl h
  · rw [hw] at h
    obtain ⟨m, hm, hl⟩ := h
    have hs : storedMetadata s.flash = some m := (storedMetadata_congr rfl).trans hm.metadata
    refine .inr ⟨hv, hp, ⟨m, hs, hm.pending, hm.revision, hl⟩, .inl ?_⟩
    exact (takesEffect_of_stage hv hp).mp (by rw [hw]; exact List.cons_ne_nil _ _)
  · rw [hw] at ht
    cases ht

/-- An event that does not stage `c` does not make it bootable. -/
theorem bootable_of_step {e : StoreEvent} (hn : NotStaged platform c s e)
    (h : Bootable platform c ((configStore platform).step s e).1.flash) :
    Bootable platform c s.flash := by
  by_cases he : ∃ c' faults, e = .call (.stage c') faults
  · obtain ⟨c', faults, rfl⟩ := he
    by_cases hc : c' = c
    · subst hc
      obtain ⟨ht, hover⟩ := hn faults rfl
      exact (bootable_of_stage ht h).resolve_right hover
    · exact bootable_of_stage_other hc h
  · exact bootable_of_ne_stage (fun c' faults h' ↦ he ⟨c', faults, h'⟩) h

/-- A load returns only a bootable candidate. -/
theorem bootable_of_booted {op : Operation} {faults : List (Fault Failure)} {r : Reply}
    {l : LoadForBoot}
    (hr : ((configStore platform).step s (.call op faults)).2.reply = some r)
    (hl : r.loaded = some l) (hu : l.usingCandidate = true) :
    Bootable platform l.configuration s.flash := by
  have hb : ((configStore platform).step s (.call op faults)).2.bootedCandidate = true := by
    simp [StoreOutput.bootedCandidate, hr, Reply.usingCandidate, hl, hu]
  by_cases hop : op = .load
  · subst hop
    change (Store.after _).2.bootedCandidate = true at hb
    rcases load_cases (reached_call platform .load s faults) with
      ⟨-, hn⟩ | ⟨m, hm, ⟨-, hn⟩ | ⟨hp, ⟨hrefuse, -, hf⟩ | ⟨reason, -, hn, -⟩⟩⟩
    · exact absurd (hb.symm.trans hn) (by decide)
    · exact absurd (hb.symm.trans hn) (by decide)
    · obtain ⟨hlt, c, hc, hrev⟩ := (bootRefusal_eq_none_iff m.booted s.flash).mp hrefuse
      change (Store.after _).2.reply = _ at hr
      rcases hf with hf | hf
      · simp [Store.after, hf] at hr
      · simp only [Store.after, hf, Option.map_some, Option.some.injEq] at hr
        subst hr
        obtain rfl := Option.some.inj hl
        have hbuffer : bootBuffer platform m.booted s.flash = c := bootBuffer_of_stored hlt hc
        rw [hbuffer]
        exact ⟨m, ⟨hm, hp, hc, hrev⟩, hlt⟩
    · exact absurd (hb.symm.trans hn) (by decide)
  · exact absurd (hb.symm.trans (bootedCandidate_of_ne_load platform hop s faults)) (by decide)

end Steps

/-! ### Runs of the device -/

/-- The step boots `c` as its candidate. -/
def Boots (platform : Platform) (c : DeviceConfig) (x : Device) (e : DeviceEvent) : Prop :=
  ∃ r l, ((device platform).step x e).2.store.reply = some r ∧ r.loaded = some l ∧
    l.usingCandidate = true ∧ l.configuration = c

/-- No call of the event stages `c`. -/
def StagesNot (platform : Platform) (c : DeviceConfig) (x : Device) (e : DeviceEvent) : Prop :=
  ∀ op faults, x.phase.call e = some (op, faults) →
    NotStaged platform c x.store (.call op faults)

section Runs

variable {platform : Platform} {c : DeviceConfig} {x : Device}

theorem not_bootable_step {e : DeviceEvent} (h : ¬ Bootable platform c x.store.flash)
    (hn : StagesNot platform c x e) :
    ¬ Bootable platform c ((device platform).step x e).1.store.flash := by
  rcases device_store_cases platform x e with ⟨-, hf⟩ | ⟨op, faults, hc, -, hf⟩
  · rwa [hf]
  · rw [hf]
    exact fun hb ↦ h (bootable_of_step (hn op faults hc) hb)

theorem not_boots_step {e : DeviceEvent} (h : ¬ Bootable platform c x.store.flash) :
    ¬ Boots platform c x e := by
  rintro ⟨r, l, hr, hl, hu, rfl⟩
  rcases device_store_cases platform x e with ⟨hs, -⟩ | ⟨op, faults, -, hs, -⟩
  · rw [hs] at hr
    cases hr
  · rw [hs] at hr
    exact h (bootable_of_booted hr hl hu)

/-- Without a staging of `c`, a run from a state that does not boot it never boots it. -/
theorem never_boots (h : ¬ Bootable platform c x.store.flash) {es : List DeviceEvent}
    (hn : (device platform).Along (StagesNot platform c) x es) :
    (device platform).Along (fun x e ↦ ¬ Boots platform c x e) x es := by
  have hstep (x : Device) (e : DeviceEvent) (h : ¬ Bootable platform c x.store.flash)
      (hn : StagesNot platform c x e) :
      ¬ Bootable platform c ((device platform).step x e).1.store.flash := not_bootable_step h hn
  exact (device platform).along_of_invariant hstep (fun _ _ hb _ ↦ not_boots_step hb) h hn

/-- A power cycle stages nothing. -/
theorem stagesNot_powerCycle :
    (device platform).Along (StagesNot platform c) x [.restart, .boot true []] := by
  refine ⟨nofun, ?_, trivial⟩
  rintro op faults hc
  cases hc
  exact nofun

/-- After a power cycle a bootable candidate is booted. -/
theorem boots_after_restart (h : Bootable platform c x.store.flash) :
    ¬ (device platform).Along (fun x e ↦ ¬ Boots platform c x e) x [.restart, .boot true []] := by
  obtain ⟨m, hm, hl⟩ := h
  obtain ⟨store, hboot, -⟩ := device_boot_candidate (s := ⟨x.store.flash, .clear⟩) hm hl
  intro ha
  refine ha.2.1 ⟨.load ⟨.ok, c, true, m.booted.attempted⟩, _, ?_, rfl, rfl, rfl⟩
  rw [device_restart, show Device.enter x.store .off = ⟨⟨x.store.flash, .clear⟩, .off⟩ from rfl,
    hboot]

end Runs

/-! ### A failed staging -/

/-- A staging request that reports a failed commit leaves its configuration bootable exactly
if it staged it over a pending candidate. -/
theorem bootable_of_failed_stage {platform : Platform} {s : Store} {c : DeviceConfig}
    {faults : List (Fault Failure)} {r : Reply} (hv : c.validate platform = .ok)
    (hp : s.ram.candidateValidationInProgress = false)
    (hr : ((configStore platform).step s (.call (.stage c) faults)).2.reply = some r)
    (he : r.result ≠ .ok) :
    Bootable platform c ((configStore platform).step s (.call (.stage c) faults)).1.flash ↔
      StagesOverPending platform s c faults := by
  have hreached := reached_call platform (.stage c) s faults
  have htakes := @takesEffect_of_stage platform c s faults hv hp
  rw [flash_step]
  change Bootable platform c (Program.applyAll NvsWrite.apply s.flash
    ((Operation.stage c).program platform |>.run NvsWrite.apply s.flash s.ram faults).writes) ↔ _
  change (Store.after _).2.reply = _ at hr
  rcases stage_cases hreached with ⟨hw, -⟩ | ⟨-, -, ⟨hw, -⟩ | ⟨m, -, -, hf⟩⟩
  · have hn : Program.takesEffect faults ≠ true := fun ht ↦ htakes.mpr ht hw
    rw [hw]
    constructor
    · rintro ⟨m, hm, hl⟩
      exact ⟨hv, hp, ⟨m, hm.metadata, hm.pending, hm.revision, hl⟩, .inr hm.candidate⟩
    · rintro ⟨-, -, ⟨m, hm, hpending, hrev, hl⟩, ht | hc⟩
      · exact absurd ht hn
      · exact ⟨m, ⟨hm, hpending, hc, hrev⟩, hl⟩
  · have ht : Program.takesEffect faults = true := htakes.mp (by rw [hw]; exact List.cons_ne_nil _ _)
    rw [hw]
    constructor
    · rintro ⟨m, hm, hl⟩
      exact ⟨hv, hp, ⟨m, (storedMetadata_congr rfl).trans hm.metadata, hm.pending, hm.revision, hl⟩,
        .inl ht⟩
    · rintro ⟨-, -, ⟨m, hm, hpending, hrev, hl⟩, -⟩
      exact ⟨m, ⟨(storedMetadata_congr rfl).trans hm, hpending,
        storedConfiguration_write hv .candidate s.flash, hrev⟩, hl⟩
  · rcases hf with hf | hf
    · simp [Store.after, hf] at hr
    · simp only [Store.after, hf, Option.map_some, Option.some.injEq] at hr
      rw [← hr] at he
      exact absurd rfl he

section Requests

variable {platform : Platform} {x : Device} {request : DeviceConfig}
  {faults : List (Fault Failure)} {current : Option DeviceConfig} {r : Reply}

/-- The same of a request to the device. -/
theorem bootable_of_failed_put (hs : x.phase.service = some current)
    (hv : (assignRevision current request).validate platform = .ok)
    (hp : x.store.ram.candidateValidationInProgress = false)
    (hr : ((device platform).step x (.candidatePut request faults)).2.store.reply = some r)
    (he : r.result ≠ .ok) :
    Bootable platform (assignRevision current request)
        ((device platform).step x (.candidatePut request faults)).1.store.flash ↔
      StagesOverPending platform x.store (assignRevision current request) faults := by
  have hc : x.phase.call (.candidatePut request faults) =
      some (.stage (assignRevision current request), faults) := by
    simp [Phase.call, hs]
  rcases device_store_cases platform x (.candidatePut request faults) with
    ⟨hn, -⟩ | ⟨op, f, hc', ho, hf⟩
  · rw [hn] at hr
    cases hr
  · obtain ⟨rfl, rfl⟩ := Prod.mk.inj (Option.some.inj (hc.symm.trans hc'))
    rw [ho] at hr
    rw [hf]
    exact bootable_of_failed_stage hv hp hr he

end Requests

/-- A configuration whose staging reports a failed commit is never booted by a later run
without another staging of it, if and only if it was not staged over a pending candidate of
the same revision. -/
theorem failed_staging_never_booted (platform : Platform) (x : Device) (request : DeviceConfig)
    (faults : List (Fault Failure)) (current : Option DeviceConfig) (r : Reply)
    (hs : x.phase.service = some current)
    (hv : (assignRevision current request).validate platform = .ok)
    (hp : x.store.ram.candidateValidationInProgress = false)
    (hr : ((device platform).step x (.candidatePut request faults)).2.store.reply = some r)
    (he : r.result ≠ .ok) :
    (∀ es, (device platform).Along (StagesNot platform (assignRevision current request))
          ((device platform).step x (.candidatePut request faults)).1 es →
        (device platform).Along (fun x e ↦ ¬ Boots platform (assignRevision current request) x e)
          ((device platform).step x (.candidatePut request faults)).1 es) ↔
      ¬ StagesOverPending platform x.store (assignRevision current request) faults := by
  rw [← not_congr (bootable_of_failed_put hs hv hp hr he)]
  constructor
  · intro h hbootable
    exact boots_after_restart hbootable (h _ stagesNot_powerCycle)
  · intro h es
    exact never_boots h

/-! ### Requests with a failing commit -/

section Failing

variable {platform : Platform} {request other : DeviceConfig}

/-- A request for a valid configuration reports the failure of its first or second commit. -/
private theorem reply_of_failed_put {x : Device} {current : Option DeviceConfig}
    {m : DeviceConfigMetadata} {faults : List (Fault Failure)} {e : Failure}
    (hs : x.phase.service = some current)
    (hv : (assignRevision current request).validate platform = .ok)
    (hp : x.store.ram.candidateValidationInProgress = false)
    (hm : storedMetadata x.store.flash = some m)
    (hf : faults = [.failed e] ∨ faults = [.applied, .failed e]) :
    ((device platform).step x (.candidatePut request faults)).2.store.reply =
      some (.code e.val) := by
  have hc : x.phase.call (.candidatePut request faults) =
      some (.stage (assignRevision current request), faults) := by
    simp [Phase.call, hs]
  have hr : ((configStore platform).step x.store
      (.call (.stage (assignRevision current request)) faults)).2.reply = some (.code e.val) := by
    change (Store.after _).2.reply = _
    rw [operation_follows platform (.stage _) x.store.flash x.store.ram faults, Operation.plan,
      if_neg (by simpa using hv), if_neg (by simp [hp]), hm]
    rcases hf with rfl | rfl <;> rfl
  rw [device_call hc hr]
  exact hr

/-- On a device that waits for a configuration with nothing pending, a request whose first
commit fails stages nothing. -/
private theorem not_stagesOverPending {s : Store} {c : DeviceConfig} {m : DeviceConfigMetadata}
    {faults : List (Fault Failure)} (hm : storedMetadata s.flash = some m)
    (hn : m.state ≠ ConfigState.pending) : ¬ StagesOverPending platform s c faults := by
  rintro ⟨-, -, ⟨m', hm', hp, -⟩, -⟩
  rw [hm] at hm'
  cases hm'
  exact hn hp

/-- A first request whose first commit fails is not booted after a power cycle. -/
theorem failed_staging_never_booted_sample :
    (device DeviceConfig.samplePlatform).Along
      (fun x e ↦ ¬ Boots DeviceConfig.samplePlatform
        (assignRevision none (DeviceConfig.sample 0)) x e)
      ((device DeviceConfig.samplePlatform).step ⟨⟨.erased, .clear⟩, .unconfigured⟩
        (.candidatePut (DeviceConfig.sample 0) [.failed ⟨.fail, nofun⟩])).1
      [.restart, .boot true []] :=
  have hv : (assignRevision none (DeviceConfig.sample 0)).validate DeviceConfig.samplePlatform =
      .ok := by decide +kernel
  (failed_staging_never_booted DeviceConfig.samplePlatform ⟨⟨.erased, .clear⟩, .unconfigured⟩
    (DeviceConfig.sample 0) [.failed ⟨.fail, nofun⟩] none (.code .fail) rfl hv rfl
    (reply_of_failed_put rfl hv rfl storedMetadata_erased (.inl rfl)) nofun).mpr
    (not_stagesOverPending storedMetadata_erased (by decide)) _ stagesNot_powerCycle

/-- After a first boot and a first candidate, another request of the same revision whose
metadata commit fails reports the error, and a power cycle without any further staging
boots it. -/
private theorem failed_replacement_booted (hv : (assignRevision none request).validate platform = .ok)
    (hv' : (assignRevision none other).validate platform = .ok) (e : Failure) :
    let x := (device platform).run (.unpowered .erased) [.boot true [], .candidatePut request []]
    let y := (device platform).step x (.candidatePut other [.applied, .failed e])
    (∃ r, y.2.store.reply = some r ∧ r.result ≠ .ok) ∧
      (device platform).Along (StagesNot platform (assignRevision none other)) y.1
        [.restart, .boot true []] ∧
      ¬ (device platform).Along (fun x e ↦ ¬ Boots platform (assignRevision none other) x e) y.1
        [.restart, .boot true []] := by
  intro x y
  have hm := storedMetadata_write (storable_booted (storable_of_storedMetadata
    storedMetadata_erased)) .erased
  obtain ⟨s, hput, hram, -, hc⟩ := device_put
    (x := ⟨⟨(NvsWrite.metadata DeviceConfigMetadata.zero.booted).apply .erased, .clear⟩,
      .unconfigured⟩) rfl hv rfl hm
  have hx : x = ⟨s, .unconfigured⟩ := by
    rw [← hput]
    change (device platform).run _ _ = _
    rw [Machine.run_cons, device_boot_erased]
    rfl
  have hy : y = (device platform).step ⟨s, .unconfigured⟩
      (.candidatePut other [.applied, .failed e]) := by
    rw [← hx]
  have hp : s.ram.candidateValidationInProgress = false := by
    rw [hram]
    rfl
  have hr := reply_of_failed_put (x := ⟨s, .unconfigured⟩) (e := e) rfl hv' hp hc.metadata
    (.inr rfl)
  have hl : (0 : UInt32) < platform.candidateMaxAttempts :=
    UInt32.lt_of_lt_of_le (by decide : (0 : UInt32) < 1) platform.one_le_maxAttempts
  have hover : StagesOverPending platform s (assignRevision none other) [.applied, .failed e] :=
    ⟨hv', hp, ⟨_, hc.metadata, rfl, rfl, hl⟩, .inl rfl⟩
  have hb := (bootable_of_failed_put (x := ⟨s, .unconfigured⟩) rfl hv' hp hr e.property).mpr hover
  rw [hy]
  exact ⟨⟨_, hr, e.property⟩, stagesNot_powerCycle, boots_after_restart hb⟩

end Failing

/-- On a device with two attempts: a first candidate, then one with another telemetry
interval whose metadata commit fails, and a power cycle. -/
theorem failed_staging_never_booted_fails :
    let other := { DeviceConfig.sample 0 with telemetryIntervalSeconds := 10 }
    let x := (device DeviceConfig.samplePlatform).run (.unpowered .erased)
      [.boot true [], .candidatePut (DeviceConfig.sample 0) []]
    let y := (device DeviceConfig.samplePlatform).step x
      (.candidatePut other [.applied, .failed ⟨.fail, nofun⟩])
    (∃ r, y.2.store.reply = some r ∧ r.result ≠ .ok) ∧
      (device DeviceConfig.samplePlatform).Along
        (StagesNot DeviceConfig.samplePlatform (assignRevision none other)) y.1
        [.restart, .boot true []] ∧
      ¬ (device DeviceConfig.samplePlatform).Along
        (fun x e ↦ ¬ Boots DeviceConfig.samplePlatform (assignRevision none other) x e) y.1
        [.restart, .boot true []] :=
  failed_replacement_booted (by decide +kernel) (by decide +kernel) _

end EdgeMonitor.Firmware
