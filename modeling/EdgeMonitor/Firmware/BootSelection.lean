import EdgeMonitor.Firmware.ConfigStore

/-!
# Boot selection

Library `Firmware`. Which configuration `device_config_load_for_boot`,
`firmware/components/device_config/device_config.c:467–515`, returns for any contents of NVS, and
what it has committed by then. A blob is decoded or it is not; which of the three blobs are there
and readable decides the way through the function.
-/

namespace EdgeMonitor.Firmware
open EdgeMonitor.Base ConfigStorage

/-! ### What the blobs hold -/

/-- The blob under a key decodes to a configuration. -/
def HoldsConfiguration (flash : Flash) (key : Key) (c : DeviceConfig) : Prop :=
  ∃ blob, flash.get key = some blob ∧ decodeConfiguration blob .zero = (.ok, c)

/-- The metadata blob decodes to a record. -/
def HoldsMetadata (flash : Flash) (m : DeviceConfigMetadata) : Prop :=
  ∃ blob, flash.metadata = some blob ∧ decodeMetadata blob .zero = (.ok, m)

/-- The pending candidate can be booted. -/
structure CandidateUsable (platform : Platform) (flash : Flash) (m : DeviceConfigMetadata)
    (c : DeviceConfig) : Prop where
  pending : m.state = ConfigState.pending
  attempts : m.bootAttempts < platform.candidateMaxAttempts
  decoded : HoldsConfiguration flash .candidate c
  valid : c.validate platform = .ok
  revision : c.revision = m.candidateRevision

theorem holdsConfiguration_iff {platform : Platform} {flash : Flash} {key : Key}
    {c : DeviceConfig} :
    HoldsConfiguration flash key c ∧ c.validate platform = .ok ↔
      storedConfiguration platform key flash = some c := by
  rw [storedConfiguration_eq_some_iff]
  constructor
  · rintro ⟨⟨blob, hget, hdecode⟩, hvalid⟩
    rw [hget, (configurationBlob_of_decode blob .zero c hdecode).1]
    exact ⟨rfl, hvalid⟩
  · intro h
    refine ⟨⟨configurationBlob c, h.1, ?_⟩, h.2⟩
    exact decodeConfiguration_configurationBlob c .zero (enumsFit_of_validate h.2)

theorem storedMetadata_of_holdsMetadata {flash : Flash} {m : DeviceConfigMetadata}
    (h : HoldsMetadata flash m) : storedMetadata flash = some m := by
  obtain ⟨blob, hget, hdecode⟩ := h
  obtain ⟨rfl, hstorable⟩ := metadataBlob_of_decode blob .zero m hdecode
  exact (storedMetadata_eq_some_iff m flash).mpr (.inr ⟨hget, hstorable⟩)

/-- Readable metadata is what the blob holds, if there is one. -/
theorem holdsMetadata_of_stored {flash : Flash} {m : DeviceConfigMetadata}
    (h : storedMetadata flash = some m) (hm : m.state ≠ ConfigState.none) :
    HoldsMetadata flash m := by
  cases (storedMetadata_eq_some_iff m flash).mp h with
  | inl h => exact absurd (congrArg DeviceConfigMetadata.state h.2) hm
  | inr h => exact ⟨metadataBlob m, h.1, decodeMetadata_metadataBlob m .zero h.2⟩

theorem storedMetadata_of_undecodable {flash : Flash} {blob : List UInt8}
    (hget : flash.metadata = some blob) (h : (decodeMetadata blob .zero).1 ≠ .ok) :
    storedMetadata flash = none := by
  rw [Option.eq_none_iff_forall_ne_some]
  intro m hm
  cases (storedMetadata_eq_some_iff m flash).mp hm with
  | inl hnone =>
    rw [hget] at hnone
    cases hnone.1
  | inr hsome =>
    rw [hget, Option.some.injEq] at hsome
    rw [hsome.1, decodeMetadata_metadataBlob m .zero hsome.2] at h
    exact h rfl

theorem bootRefusal_eq_none_iff_usable {platform : Platform} {flash : Flash}
    {m : DeviceConfigMetadata} (hm : m.state = ConfigState.pending) :
    bootRefusal platform m.booted flash = none ↔ ∃ c, CandidateUsable platform flash m c := by
  rw [bootRefusal_eq_none_iff]
  constructor
  · rintro ⟨hattempts, c, hstored, hrevision⟩
    obtain ⟨hdecoded, hvalid⟩ := holdsConfiguration_iff.mpr hstored
    exact ⟨c, hm, hattempts, hdecoded, hvalid, hrevision⟩
  · rintro ⟨c, h⟩
    exact ⟨h.attempts, c, holdsConfiguration_iff.mp ⟨h.decoded, h.valid⟩, h.revision⟩

/-! ### The law -/

/-- What a load leaves and returns, from the contents of NVS, the faults of its commits and the
value of `using_candidate` before. -/
structure BootSelected (platform : Platform) (flash : Flash) (usingCandidate : Bool)
    (faults : List (Fault Failure)) (o : Outcome NvsWrite Flash Ram LoadForBoot) : Prop where
  /-- A configuration that is returned is valid and comes from one slot as a whole. -/
  loaded : ∀ ram r, o.finished = some (ram, r) → r.result = .ok →
    r.configuration.validate platform = .ok ∧
      HoldsConfiguration flash (if r.usingCandidate then .candidate else .active) r.configuration
  /-- The candidate is returned exactly if it is usable and the attempt has been committed. -/
  candidate : ∀ ram r, o.finished = some (ram, r) →
    (r.result = .ok ∧ r.usingCandidate = true ↔
      ∃ m c, HoldsMetadata flash m ∧ CandidateUsable platform flash m c ∧
        HoldsMetadata o.durable
          { m with bootCount := m.bootCount + 1, bootAttempts := m.bootAttempts + 1 })
  /-- Otherwise a pending state has become a rollback and the candidate is gone, when the load
  succeeds and also when none of its commits fails. -/
  rolledBack : ∀ ram r, o.finished = some (ram, r) →
    r.result = .ok ∨ (∀ e, .failed e ∉ faults) → ¬ (r.result = .ok ∧ r.usingCandidate = true) →
    ∀ m, HoldsMetadata flash m → m.state = ConfigState.pending →
      (∃ m', HoldsMetadata o.durable m' ∧ m'.state = ConfigState.rollback) ∧
        o.durable.candidate = none
  /-- With unreadable metadata the load fails and changes nothing. -/
  unreadable : ∀ blob, flash.metadata = some blob → (decodeMetadata blob .zero).1 ≠ .ok →
    o.durable = flash ∧ o.writes = [] ∧ ∃ ram r, o.finished = some (ram, r) ∧ r.result ≠ .ok
  /-- A load that fails does not set `using_candidate`. -/
  failed : ∀ ram r, o.finished = some (ram, r) → r.result ≠ .ok → r.usingCandidate = true →
    usingCandidate = true

/-! ### The ways through a load -/

section

variable {platform : Platform} {flash : Flash} {ram : Ram} {configuration : DeviceConfig}
  {usingCandidate : Bool} {metadata : DeviceConfigMetadata}

/-- A load ends with the active configuration. -/
def ReturnsActive (platform : Platform) (flash : Flash) (r : LoadForBoot) : Prop :=
  ∃ buffer, readConfiguration platform .active buffer flash = (r.result, r.configuration) ∧
    r.usingCandidate = false

/-- The writes of a load and its last reply: with unreadable metadata, without a pending
candidate, with a candidate that is refused, and with a usable one. -/
inductive BootWay (platform : Platform) (flash : Flash) (usingCandidate : Bool) :
    List NvsWrite → LoadForBoot → Prop
  | unreadable (r : LoadForBoot) (hm : storedMetadata flash = none) (hr : r.result ≠ .ok)
      (hu : r.usingCandidate = usingCandidate) : BootWay platform flash usingCandidate [] r
  | settled (m : DeviceConfigMetadata) (r : LoadForBoot) (hm : storedMetadata flash = some m)
      (hp : m.state ≠ ConfigState.pending) (hr : ReturnsActive platform flash r) :
      BootWay platform flash usingCandidate [.metadata m.booted] r
  | refused (m : DeviceConfigMetadata) (reason : List UInt8) (r : LoadForBoot)
      (hm : storedMetadata flash = some m) (hp : m.state = ConfigState.pending)
      (hc : ¬ ∃ c, CandidateUsable platform flash m c) (hr : ReturnsActive platform flash r) :
      BootWay platform flash usingCandidate
        [.metadata m.booted, .metadata (m.booted.rolledBack reason), .eraseKey .candidate] r
  | usable (m : DeviceConfigMetadata) (r : LoadForBoot) (hm : storedMetadata flash = some m)
      (hc : CandidateUsable platform flash m r.configuration) (hr : r.result = .ok)
      (hu : r.usingCandidate = true) :
      BootWay platform flash usingCandidate [.metadata m.booted, .metadata m.booted.attempted] r

theorem bootWay_bootPlan (platform : Platform) (flash : Flash) (configuration : DeviceConfig)
    (usingCandidate : Bool) (metadata : DeviceConfigMetadata) :
    BootWay platform flash usingCandidate
      ((bootPlan platform flash configuration usingCandidate metadata).1.map (·.1))
      (bootPlan platform flash configuration usingCandidate metadata).2.2 := by
  unfold bootPlan
  cases hm : storedMetadata flash with
  | none => exact .unreadable _ hm (getMetadataLocked_of_unreadable hm metadata) rfl
  | some m =>
    dsimp only
    by_cases hp : m.state = ConfigState.pending
    · rw [if_pos (show m.booted.state = ConfigState.pending from hp)]
      cases hr : bootRefusal platform m.booted flash with
      | some reason =>
        refine .refused m reason _ hm hp ?_ ⟨_, rfl, rfl⟩
        rw [← bootRefusal_eq_none_iff_usable hp, hr]
        exact Option.some_ne_none reason
      | none =>
        obtain ⟨c, hc⟩ := (bootRefusal_eq_none_iff_usable hp).mp hr
        have hstored := holdsConfiguration_iff.mp ⟨hc.decoded, hc.valid⟩
        have hlimit : ¬ m.booted.bootAttempts ≥ platform.candidateMaxAttempts :=
          UInt32.not_le.mpr hc.attempts
        rw [if_neg hlimit, (readConfiguration_of_stored hstored configuration).1]
        exact .usable m _ hm hc rfl rfl
    · rw [if_neg (show m.booted.state ≠ ConfigState.pending from hp)]
      exact .settled m _ hm hp ⟨_, rfl, rfl⟩

/-- A failed commit ends a load with an error and leaves `using_candidate` alone. -/
theorem bootPlan_failed {s : Program.Step NvsWrite Ram Failure LoadForBoot}
    (h : s ∈ (bootPlan platform flash configuration usingCandidate metadata).1) (e : Failure) :
    (s.2 e).2.result ≠ .ok ∧ (s.2 e).2.usingCandidate = usingCandidate := by
  unfold bootPlan at h
  cases hm : storedMetadata flash with
  | none =>
    rw [hm] at h
    cases h
  | some m =>
    rw [hm] at h
    dsimp only at h
    split at h
    · split at h
      · simp only [List.mem_cons, List.not_mem_nil, or_false] at h
        rcases h with rfl | rfl | rfl <;> exact ⟨e.property, rfl⟩
      · simp only [List.mem_cons, List.not_mem_nil, or_false] at h
        rcases h with rfl | rfl <;> exact ⟨e.property, rfl⟩
    · rw [List.mem_singleton] at h
      subst h
      exact ⟨e.property, rfl⟩

/-- A load that returns was ended by a failed commit, or made all of its writes. -/
theorem finished_loadForBoot {faults : List (Fault Failure)} {x : Ram × LoadForBoot}
    (h : ((loadForBoot platform configuration usingCandidate metadata).run NvsWrite.apply flash ram
      faults).finished = some x) :
    (x.2.result ≠ .ok ∧ x.2.usingCandidate = usingCandidate ∧
      ((loadForBoot platform configuration usingCandidate metadata).run NvsWrite.apply flash ram
        faults).writes.length <
          ((bootPlan platform flash configuration usingCandidate metadata).1.map (·.1)).length ∧
      ∃ e, .failed e ∈ faults) ∨
    (((loadForBoot platform configuration usingCandidate metadata).run NvsWrite.apply flash ram
        faults).writes =
          (bootPlan platform flash configuration usingCandidate metadata).1.map (·.1) ∧
      x = (bootPlan platform flash configuration usingCandidate metadata).2) := by
  have hfollows := loadForBoot_follows platform flash ram configuration usingCandidate metadata
  have hreached := (hfollows.reached NvsWrite.apply faults).inversion
  by_cases hfaults : ∀ e, .failed e ∉ faults
  · right
    rw [hfollows faults] at h ⊢
    exact Program.runSteps_of_not_failed NvsWrite.apply hfaults h
  · rw [h] at hreached
    rcases hreached.2.2 with hnone | ⟨hwrites, hlast⟩ | ⟨s, hs, e, hx, hlength⟩
    · cases hnone
    · exact .inr ⟨hwrites, Option.some.inj hlast⟩
    · left
      rw [Option.some.inj hx]
      refine ⟨(bootPlan_failed hs e).1, (bootPlan_failed hs e).2, by rwa [List.length_map], ?_⟩
      simpa using hfaults

end

/-! ### What the ways have in common -/

section

variable {platform : Platform} {flash : Flash} {usingCandidate : Bool} {writes : List NvsWrite}
  {r : LoadForBoot}

theorem ReturnsActive.holds (h : ReturnsActive platform flash r) (hok : r.result = .ok) :
    r.configuration.validate platform = .ok ∧ HoldsConfiguration flash .active r.configuration := by
  obtain ⟨buffer, hread, -⟩ := h
  rw [hok, readConfiguration_ok_iff, ← storedConfiguration_eq_some_iff] at hread
  exact And.symm (holdsConfiguration_iff.mpr hread)

/-- A load that succeeds returns a valid configuration of the slot that it reports. -/
theorem BootWay.loaded (h : BootWay platform flash usingCandidate writes r)
    (hok : r.result = .ok) : r.configuration.validate platform = .ok ∧
      HoldsConfiguration flash (if r.usingCandidate then .candidate else .active)
        r.configuration := by
  cases h with
  | unreadable r hm hr hu => exact absurd hok hr
  | settled m r hm hp hr =>
    rw [hr.choose_spec.2, if_neg Bool.false_ne_true]
    exact hr.holds hok
  | refused m reason r hm hp hc hr =>
    rw [hr.choose_spec.2, if_neg Bool.false_ne_true]
    exact hr.holds hok
  | usable m r hm hc hr hu =>
    rw [hu, if_pos rfl]
    exact ⟨hc.valid, hc.decoded⟩

/-- With a usable candidate a load makes two writes and returns it. -/
theorem BootWay.of_usable {m : DeviceConfigMetadata} {c : DeviceConfig}
    (h : BootWay platform flash usingCandidate writes r) (hm : storedMetadata flash = some m)
    (hc : CandidateUsable platform flash m c) :
    writes = [.metadata m.booted, .metadata m.booted.attempted] ∧ r.result = .ok ∧
      r.usingCandidate = true := by
  cases h with
  | unreadable r hm' hr hu =>
    rw [hm] at hm'
    cases hm'
  | settled m' r hm' hp hr =>
    rw [hm, Option.some.injEq] at hm'
    exact absurd hc.pending (hm' ▸ hp)
  | refused m' reason r hm' hp hc' hr =>
    rw [hm, Option.some.injEq] at hm'
    exact absurd ⟨c, hm' ▸ hc⟩ hc'
  | usable m' r hm' hc' hr hu =>
    rw [hm, Option.some.injEq] at hm'
    rw [hm']
    exact ⟨rfl, hr, hu⟩

/-- A load that returns the candidate has committed the attempt. -/
theorem BootWay.of_usingCandidate (h : BootWay platform flash usingCandidate writes r)
    (hok : r.result = .ok) (hu : r.usingCandidate = true) :
    ∃ m c, storedMetadata flash = some m ∧ CandidateUsable platform flash m c ∧
      writes = [.metadata m.booted, .metadata m.booted.attempted] := by
  cases h with
  | unreadable r hm hr => exact absurd hok hr
  | settled m r hm hp hr =>
    rw [hr.choose_spec.2] at hu
    cases hu
  | refused m reason r hm hp hc hr =>
    rw [hr.choose_spec.2] at hu
    cases hu
  | usable m r hm hc hr hu' => exact ⟨m, _, hm, hc, rfl⟩

/-- A load that fails after its writes does not set `using_candidate`. -/
theorem BootWay.of_failed (h : BootWay platform flash usingCandidate writes r)
    (hne : r.result ≠ .ok) (hu : r.usingCandidate = true) : usingCandidate = true := by
  cases h with
  | unreadable r hm hr hsame => rw [← hsame, hu]
  | settled m r hm hp hr =>
    rw [hr.choose_spec.2] at hu
    cases hu
  | refused m reason r hm hp hc hr =>
    rw [hr.choose_spec.2] at hu
    cases hu
  | usable m r hm hc hr hsame => exact absurd hr hne

/-- A load that does not return a pending candidate has recorded the rollback. -/
theorem BootWay.of_pending {m : DeviceConfigMetadata}
    (h : BootWay platform flash usingCandidate writes r) (hm : storedMetadata flash = some m)
    (hp : m.state = ConfigState.pending) (hnot : ¬ (r.result = .ok ∧ r.usingCandidate = true)) :
    ∃ reason, writes = [.metadata m.booted, .metadata (m.booted.rolledBack reason),
      .eraseKey .candidate] := by
  cases h with
  | unreadable r hm' hr hu =>
    rw [hm] at hm'
    cases hm'
  | settled m' r hm' hp' hr =>
    rw [hm, Option.some.injEq] at hm'
    exact absurd hp (hm' ▸ hp')
  | refused m' reason r hm' hp' hc' hr =>
    rw [hm, Option.some.injEq] at hm'
    exact ⟨reason, by rw [hm']⟩
  | usable m' r hm' hc' hr hu => exact absurd ⟨hr, hu⟩ hnot

end

/-- Fewer writes than with the attempt leave the number of attempts as it was. -/
theorem not_attempted {flash : Flash} {m : DeviceConfigMetadata} {writes : List NvsWrite}
    (hm : storedMetadata flash = some m)
    (h : writes <+: [.metadata m.booted, .metadata m.booted.attempted])
    (hlength : writes.length < 2) :
    storedMetadata (Program.applyAll NvsWrite.apply flash writes) ≠ some m.booted.attempted := by
  have hne : m.bootAttempts ≠ m.booted.attempted.bootAttempts := by
    intro hsame
    simp at hsame
  rcases Program.prefix_two h with rfl | rfl | rfl
  · rw [Program.applyAll_nil, hm]
    intro hsame
    have hattempts := congrArg DeviceConfigMetadata.bootAttempts (Option.some.inj hsame)
    exact hne hattempts
  · rw [Program.applyAll_cons, Program.applyAll_nil,
      storedMetadata_write (storable_booted (storable_of_storedMetadata hm))]
    intro hsame
    have hattempts := congrArg DeviceConfigMetadata.bootAttempts (Option.some.inj hsame)
    exact hne hattempts
  · exact absurd hlength (by simp)

/-- Boot selection, for any contents of NVS, any faults and any output parameters. -/
theorem bootSelected_loadForBoot (platform : Platform) (flash : Flash) (ram : Ram)
    (configuration : DeviceConfig) (usingCandidate : Bool) (metadata : DeviceConfigMetadata)
    (faults : List (Fault Failure)) :
    BootSelected platform flash usingCandidate faults
      ((loadForBoot platform configuration usingCandidate metadata).run NvsWrite.apply flash ram
        faults) := by
  have hfollows := loadForBoot_follows platform flash ram configuration usingCandidate metadata
  obtain ⟨hinitial, hdurable, -⟩ := (hfollows.reached NvsWrite.apply faults).inversion
  have hway := bootWay_bootPlan platform flash configuration usingCandidate metadata
  constructor
  · intro ram' r hr hok
    rcases finished_loadForBoot hr with ⟨hne, -⟩ | ⟨-, hlast⟩
    · exact absurd hok hne
    · rw [← congrArg Prod.snd hlast] at hway
      exact hway.loaded hok
  · intro ram' r hr
    constructor
    · rintro ⟨hok, hu⟩
      rcases finished_loadForBoot hr with ⟨hne, -⟩ | ⟨hwrites, hlast⟩
      · exact absurd hok hne
      · rw [← congrArg Prod.snd hlast] at hway
        obtain ⟨m, c, hm, hc, hplan⟩ := hway.of_usingCandidate hok hu
        have hpending : m.state ≠ ConfigState.none := by
          rw [hc.pending]
          decide
        refine ⟨m, c, holdsMetadata_of_stored hm hpending, hc, ?_⟩
        have hstorable := storable_attempted (storable_booted (storable_of_storedMetadata hm))
        rw [hdurable, hwrites, hplan]
        exact holdsMetadata_of_stored (storedMetadata_write hstorable _) hpending
    · rintro ⟨m, c, hm, hc, hattempted⟩
      have hm := storedMetadata_of_holdsMetadata hm
      obtain ⟨hplan, hok, hu⟩ := hway.of_usable hm hc
      rcases finished_loadForBoot hr with ⟨-, -, hlength, -⟩ | ⟨-, hlast⟩
      · have hstored := storedMetadata_of_holdsMetadata hattempted
        rw [hdurable] at hstored
        rw [hplan] at hlength hinitial
        exact absurd hstored (not_attempted hm hinitial hlength)
      · rw [← congrArg Prod.snd hlast] at hok hu
        exact ⟨hok, hu⟩
  · intro ram' r hr hreturned hnot m hm hp
    have hm := storedMetadata_of_holdsMetadata hm
    rcases finished_loadForBoot hr with ⟨hne, -, -, e, he⟩ | ⟨hwrites, hlast⟩
    · exact absurd he ((hreturned.resolve_left hne) e)
    · rw [← congrArg Prod.snd hlast] at hway
      obtain ⟨reason, hplan⟩ := hway.of_pending hm hp hnot
      have hstorable := storable_rolledBack (storable_booted (storable_of_storedMetadata hm)) reason
      have hstored : storedMetadata ((NvsWrite.eraseKey .candidate).apply
          ((NvsWrite.metadata (m.booted.rolledBack reason)).apply
            ((NvsWrite.metadata m.booted).apply flash))) = some (m.booted.rolledBack reason) := by
        rw [storedMetadata_eraseKey_candidate, storedMetadata_write hstorable]
      have hstate : (m.booted.rolledBack reason).state ≠ ConfigState.none :=
        (by decide : ConfigState.rollback ≠ ConfigState.none)
      rw [hdurable, hwrites, hplan]
      exact ⟨⟨_, holdsMetadata_of_stored hstored hstate, rfl⟩, rfl⟩
  · intro blob hblob hdecode
    have hm := storedMetadata_of_undecodable hblob hdecode
    have hplan : (bootPlan platform flash configuration usingCandidate metadata).1 = [] := by
      rw [bootPlan, hm]
    rw [hfollows faults, hplan]
    refine ⟨rfl, rfl, _, _, rfl, ?_⟩
    rw [bootPlan, hm]
    exact getMetadataLocked_of_unreadable hm metadata
  · intro ram' r hr hne hu
    rcases finished_loadForBoot hr with ⟨-, hsame, -⟩ | ⟨-, hlast⟩
    · rw [← hsame, hu]
    · rw [← congrArg Prod.snd hlast] at hway
      exact hway.of_failed hne hu

end EdgeMonitor.Firmware
