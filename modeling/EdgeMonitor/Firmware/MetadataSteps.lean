import EdgeMonitor.Firmware.ConfigStore

/-!
# Metadata transitions

Library `Firmware`. One relation lists every way in which a single event, with any commit
failing or power lost at it, can change the stored metadata. The invariants over runs of
the configuration store are proved by cases on it.
-/

namespace EdgeMonitor.Firmware
open EdgeMonitor.Base

/-! ### What one event does to the metadata -/

/-- Every way in which an event can change the stored metadata, with whether a metadata
write took effect and whether a load returned the candidate. -/
inductive MetadataStep (platform : Platform) :
    Option DeviceConfigMetadata → StoreEvent → Option DeviceConfigMetadata → Bool → Bool → Prop
  | same (stored : Option DeviceConfigMetadata) (e : StoreEvent) :
    MetadataStep platform stored e stored false false
  | staged (m : DeviceConfigMetadata) (c : DeviceConfig) (faults : List (Fault Failure)) :
    MetadataStep platform (some m) (.call (.stage c) faults)
      (some (m.pendingFor c.revision)) true false
  | booted (m : DeviceConfigMetadata) (faults : List (Fault Failure)) :
    MetadataStep platform (some m) (.call .load faults) (some m.booted) true false
  | refused (m : DeviceConfigMetadata) (faults : List (Fault Failure)) (reason : List UInt8)
      (hp : m.state = ConfigState.pending) :
    MetadataStep platform (some m) (.call .load faults) (some (m.booted.rolledBack reason))
      true false
  | attempted (m : DeviceConfigMetadata) (faults : List (Fault Failure)) (b : Bool)
      (hp : m.state = ConfigState.pending)
      (hl : m.bootAttempts < platform.candidateMaxAttempts) :
    MetadataStep platform (some m) (.call .load faults) (some m.booted.attempted) true b
  | rolledBack (m : DeviceConfigMetadata) (reason : Option (List UInt8))
      (faults : List (Fault Failure)) (text : List UInt8) :
    MetadataStep platform (some m) (.call (.rollback reason) faults) (some (m.rolledBack text))
      true false
  | activated (m : DeviceConfigMetadata) (c : DeviceConfig) (faults : List (Fault Failure)) :
    MetadataStep platform (some m) (.call (.activate c) faults) (some m.settled) true false
  | cancelled (m : DeviceConfigMetadata) (faults : List (Fault Failure)) :
    MetadataStep platform (some m) (.call .cancel faults) (some m.settled) true false
  | reset (stored : Option DeviceConfigMetadata) (faults : List (Fault Failure)) :
    MetadataStep platform stored (.call .factoryReset faults) (some .zero) true false
  | recovered (stored : Option DeviceConfigMetadata) (faults : List (Fault Failure)) :
    MetadataStep platform stored (.call .recover faults) (some .zero) true false

/-- The metadata effect of an event. -/
def ChangesMetadata (platform : Platform) (s : Store) (e : StoreEvent)
    (r : Store × StoreOutput) : Prop :=
  MetadataStep platform (storedMetadata s.flash) e (storedMetadata r.1.flash)
    r.2.touchedMetadata r.2.bootedCandidate

section Step

variable (platform : Platform) (s : Store) (faults : List (Fault Failure))

/-- The effect of an outcome, by its writes. -/
private theorem changes_of_writes {e : StoreEvent} {o : Outcome NvsWrite Flash Ram Reply}
    {steps : List (Program.Step NvsWrite Ram Failure Reply)} {last : Ram × Reply}
    (h : Program.Reached NvsWrite.apply last s.flash steps o) {ws : List NvsWrite}
    {stored : Option DeviceConfigMetadata} {touched booted : Bool} (hw : o.writes = ws)
    (hs : storedMetadata (Program.applyAll NvsWrite.apply s.flash ws) = stored)
    (ht : ws.any (·.touchesMetadata) = touched)
    (hb : (Store.after o).2.bootedCandidate = booted)
    (hm : MetadataStep platform (storedMetadata s.flash) e stored touched booted) :
    ChangesMetadata platform s e (Store.after o) := by
  have hd : o.durable = Program.applyAll NvsWrite.apply s.flash ws := hw ▸ h.inversion.2.1
  unfold ChangesMetadata
  rw [hb]
  change MetadataStep platform _ e (storedMetadata o.durable) (o.writes.any _) booted
  rw [hd, hs, hw, ht]
  exact hm

private theorem stage_changes (c : DeviceConfig) :
    ChangesMetadata platform s (.call (.stage c) faults)
      ((configStore platform).step s (.call (.stage c) faults)) := by
  have h := reached_call platform (.stage c) s faults
  have hb := bootedCandidate_of_ne_load platform (nofun : Operation.stage c ≠ .load) s faults
  rcases stage_cases h with ⟨hw, -⟩ | ⟨-, -, ⟨hw, -⟩ | ⟨m, hm, hw, -⟩⟩
  · exact changes_of_writes platform s h hw rfl rfl hb (.same _ _)
  · exact changes_of_writes platform s h hw (by simp) rfl hb (.same _ _)
  · have hs := storable_pendingFor (storable_of_storedMetadata hm) c.revision
    refine changes_of_writes platform s h hw (storedMetadata_write hs _) rfl hb ?_
    rw [hm]
    exact .staged m c faults

private theorem load_changes :
    ChangesMetadata platform s (.call .load faults)
      ((configStore platform).step s (.call .load faults)) := by
  have h := reached_call platform .load s faults
  rcases load_cases h with ⟨hw, hb⟩ | ⟨m, hm, hc⟩
  · exact changes_of_writes platform s h hw rfl rfl hb (.same _ _)
  · have hs := storable_booted (storable_of_storedMetadata hm)
    rcases hc with ⟨hw, hb⟩ | ⟨hp, ⟨hr, hw, -⟩ | ⟨reason, -, hb, hw⟩⟩
    · refine changes_of_writes platform s h hw (storedMetadata_write hs _) rfl hb ?_
      rw [hm]
      exact .booted m faults
    · refine changes_of_writes platform s h hw
        (storedMetadata_write (storable_attempted hs) _) rfl rfl ?_
      rw [hm]
      exact .attempted m faults _ hp ((bootRefusal_eq_none_iff _ _).mp hr).1
    · have ha := storedMetadata_write (storable_rolledBack hs reason)
        ((NvsWrite.metadata m.booted).apply s.flash)
      rcases hw with hw | hw
      · refine changes_of_writes platform s h hw ha rfl hb ?_
        rw [hm]
        exact .refused m faults reason hp
      · refine changes_of_writes platform s h hw (by simpa using ha) rfl hb ?_
        rw [hm]
        exact .refused m faults reason hp

private theorem activate_changes (c : DeviceConfig) :
    ChangesMetadata platform s (.call (.activate c) faults)
      ((configStore platform).step s (.call (.activate c) faults)) := by
  have h := reached_call platform (.activate c) s faults
  have hb := bootedCandidate_of_ne_load platform (nofun : Operation.activate c ≠ .load) s
    faults
  rcases activate_cases h with ⟨hw, -⟩ | ⟨candidate, m, ha, hc⟩
  · exact changes_of_writes platform s h hw rfl rfl hb (.same _ _)
  · have hs := storedMetadata_write (storable_settled (storable_of_storedMetadata ha.metadata))
      ((NvsWrite.configuration .active candidate).apply s.flash)
    rcases hc with ⟨hw, -⟩ | ⟨hw, -⟩ | hw
    · exact changes_of_writes platform s h hw (by simp) rfl hb (.same _ _)
    · refine changes_of_writes platform s h hw hs rfl hb ?_
      rw [ha.metadata]
      exact .activated m c faults
    · refine changes_of_writes platform s h hw (by simpa using hs) rfl hb ?_
      rw [ha.metadata]
      exact .activated m c faults

private theorem rollback_changes (reason : Option (List UInt8)) :
    ChangesMetadata platform s (.call (.rollback reason) faults)
      ((configStore platform).step s (.call (.rollback reason) faults)) := by
  have h := reached_call platform (.rollback reason) s faults
  have hb := bootedCandidate_of_ne_load platform
    (nofun : Operation.rollback reason ≠ .load) s faults
  rcases rollback_cases h with hw | ⟨m, text, hm, hw⟩
  · exact changes_of_writes platform s h hw rfl rfl hb (.same _ _)
  · have hs := storedMetadata_write (storable_rolledBack (storable_of_storedMetadata hm) text)
      s.flash
    rcases hw with hw | hw
    · refine changes_of_writes platform s h hw hs rfl hb ?_
      rw [hm]
      exact .rolledBack m reason faults text
    · refine changes_of_writes platform s h hw (by simpa using hs) rfl hb ?_
      rw [hm]
      exact .rolledBack m reason faults text

private theorem cancel_changes :
    ChangesMetadata platform s (.call .cancel faults)
      ((configStore platform).step s (.call .cancel faults)) := by
  have h := reached_call platform .cancel s faults
  have hb := bootedCandidate_of_ne_load platform (nofun : Operation.cancel ≠ .load) s faults
  rcases cancel_cases h with hw | ⟨m, hm, -, hw⟩
  · exact changes_of_writes platform s h hw rfl rfl hb (.same _ _)
  · have hs := storedMetadata_write (storable_settled (storable_of_storedMetadata hm)) s.flash
    rcases hw with hw | hw
    · refine changes_of_writes platform s h hw hs rfl hb ?_
      rw [hm]
      exact .cancelled m faults
    · refine changes_of_writes platform s h hw (by simpa using hs) rfl hb ?_
      rw [hm]
      exact .cancelled m faults

/-- Every event changes the metadata in one of the listed ways. -/
theorem metadata_step (e : StoreEvent) :
    ChangesMetadata platform s e ((configStore platform).step s e) := by
  cases e with
  | powerCut => exact .same _ _
  | call op faults =>
    cases op with
    | stage c => exact stage_changes platform s faults c
    | load => exact load_changes platform s faults
    | activate c => exact activate_changes platform s faults c
    | rollback reason => exact rollback_changes platform s faults reason
    | cancel => exact cancel_changes platform s faults
    | factoryReset =>
      have h := reached_call platform .factoryReset s faults
      have hb := bootedCandidate_of_ne_load platform
        (nofun : Operation.factoryReset ≠ .load) s faults
      rcases erase_cases rfl h with hw | hw
      · exact changes_of_writes platform s h hw rfl rfl hb (.same _ _)
      · exact changes_of_writes platform s h hw (by simp) rfl hb (.reset _ faults)
    | recover =>
      have h := reached_call platform .recover s faults
      have hb := bootedCandidate_of_ne_load platform
        (nofun : Operation.recover ≠ .load) s faults
      rcases erase_cases rfl h with hw | hw
      · exact changes_of_writes platform s h hw rfl rfl hb (.same _ _)
      · exact changes_of_writes platform s h hw (by simp) rfl hb (.recovered _ faults)

end Step

end EdgeMonitor.Firmware
