import EdgeMonitor.Firmware.ConfigOperations
import EdgeMonitor.Firmware.StorageFormat

/-!
# Operations as plans of writes

Library `Firmware`. What NVS holds is read through two views, the stored metadata and
the stored configuration under a key. In terms of the views each operation of
`firmware/components/device_config/device_config.c` follows a plan: a fixed list of
writes that it commits in order and gives up at the first failure.
-/

namespace EdgeMonitor.Firmware
open EdgeMonitor.Base ConfigStorage

/-! ### Views of NVS -/

/-- The metadata that the operations read, none when it is unreadable. -/
def storedMetadata (flash : Flash) : Option DeviceConfigMetadata :=
  match getMetadataLocked .zero flash with
  | (.ok, metadata) => some metadata
  | _ => none

/-- The valid configuration stored under a key. -/
def storedConfiguration (platform : Platform) (key : Key) (flash : Flash) :
    Option DeviceConfig :=
  match readConfiguration platform key .zero flash with
  | (.ok, configuration) => some configuration
  | _ => none

private theorem readEncodedBlob_of_size {key : Key} {flash : Flash} {blob : List UInt8}
    {maximum : Nat} (h : flash.get key = some blob) (hmin : headerSize ≤ blob.length)
    (hmax : blob.length ≤ maximum) : readEncodedBlob key maximum flash = .ok blob := by
  unfold readEncodedBlob
  rw [h]
  dsimp only
  rw [if_neg (by omega)]

private theorem get_of_readEncodedBlob {key : Key} {flash : Flash} {blob : List UInt8}
    {maximum : Nat} (h : readEncodedBlob key maximum flash = .ok blob) :
    flash.get key = some blob := by
  unfold readEncodedBlob at h
  split at h
  · cases h
  · next encoded hg =>
    split at h
    · cases h
    · rw [hg]
      exact congrArg some (Except.ok.inj h)

private theorem readEncodedBlob_error {key : Key} {flash : Flash} {maximum : Nat} {e : EspErr}
    (h : readEncodedBlob key maximum flash = .error e) :
    (e = .nvsNotFound ∧ flash.get key = none) ∨ e = .invalidSize := by
  unfold readEncodedBlob at h
  split at h
  · next hg => exact .inl ⟨(Except.error.inj h).symm, hg⟩
  · split at h
    · exact .inr (Except.error.inj h).symm
    · cases h

private theorem decodeMetadata_ne_notFound (encoded : List UInt8) (out : DeviceConfigMetadata) :
    (decodeMetadata encoded out).1 ≠ .nvsNotFound := by
  unfold decodeMetadata
  split
  · next e h =>
    unfold peekHeader at h
    dsimp only at h
    split at h
    · cases h; nofun
    · split at h
      · cases h; nofun
      · split at h
        · cases h; nofun
        · split at h <;> cases h
          nofun
  · split
    · nofun
    · dsimp only
      split <;> nofun

private theorem storable_zero : DeviceConfigMetadata.Storable .zero := ⟨by decide, rfl⟩

/-- The metadata read from NVS, whatever the output buffer held. -/
theorem getMetadataLocked_ok_iff (out m : DeviceConfigMetadata) (flash : Flash) :
    getMetadataLocked out flash = (.ok, m) ↔
      (flash.metadata = none ∧ m = .zero) ∨
        (flash.metadata = some (metadataBlob m) ∧ DeviceConfigMetadata.Storable m) := by
  unfold getMetadataLocked readMetadata
  cases hb : readEncodedBlob .metadata 1024 flash with
  | error e =>
    rcases readEncodedBlob_error hb with ⟨rfl, hg⟩ | rfl
    · have hm : flash.metadata = none := hg
      simp [hm, eq_comm]
    · constructor
      · intro h
        simp at h
      · rintro (⟨hm, -⟩ | ⟨hm, -⟩)
        · rw [readEncodedBlob, show flash.get .metadata = none from hm] at hb
          cases hb
        · rw [readEncodedBlob_of_size (show flash.get .metadata = _ from hm)
            (by rw [length_metadataBlob]; decide) (by rw [length_metadataBlob]; decide)] at hb
          cases hb
  | ok encoded =>
    have hm : flash.metadata = some encoded := get_of_readEncodedBlob hb
    simp only [hm, Option.some.injEq, reduceCtorEq, false_and, false_or]
    rw [if_neg (decodeMetadata_ne_notFound encoded out)]
    constructor
    · intro h
      exact metadataBlob_of_decode encoded out m h
    · rintro ⟨rfl, hs⟩
      exact decodeMetadata_metadataBlob m out hs

/-- Stored metadata is absent, and read as zero, or the blob of a storable record. -/
theorem storedMetadata_eq_some_iff (m : DeviceConfigMetadata) (flash : Flash) :
    storedMetadata flash = some m ↔
      (flash.metadata = none ∧ m = .zero) ∨
        (flash.metadata = some (metadataBlob m) ∧ DeviceConfigMetadata.Storable m) := by
  rw [← getMetadataLocked_ok_iff .zero]
  unfold storedMetadata
  split
  · next h => rw [h]; simp
  · next h => exact ⟨fun hs ↦ (nomatch hs), fun hs ↦ absurd hs (h m)⟩

/-- Readable metadata can be stored again. -/
theorem storable_of_storedMetadata {m : DeviceConfigMetadata} {flash : Flash}
    (h : storedMetadata flash = some m) : DeviceConfigMetadata.Storable m := by
  rcases (storedMetadata_eq_some_iff m flash).mp h with ⟨-, rfl⟩ | ⟨-, hs⟩
  · exact storable_zero
  · exact hs

theorem getMetadataLocked_of_stored {m : DeviceConfigMetadata} {flash : Flash}
    (h : storedMetadata flash = some m) (out : DeviceConfigMetadata) :
    getMetadataLocked out flash = (.ok, m) :=
  (getMetadataLocked_ok_iff out m flash).mpr ((storedMetadata_eq_some_iff m flash).mp h)

theorem getMetadataLocked_of_unreadable {flash : Flash} (h : storedMetadata flash = none)
    (out : DeviceConfigMetadata) : (getMetadataLocked out flash).1 ≠ .ok := by
  intro hr
  have hread := (getMetadataLocked_ok_iff out _ flash).mp (Prod.ext hr rfl)
  rw [← storedMetadata_eq_some_iff, h] at hread
  cases hread

theorem enumsFit_of_validate {platform : Platform} {c : DeviceConfig}
    (h : c.validate platform = .ok) : ConfigStorage.DeviceConfig.EnumsFit c := by
  obtain ⟨-, -, hp, hu⟩ := DeviceConfig.valid_of_validate h
  constructor
  · rcases hp with hp | hp <;> rw [hp] <;> decide
  · exact UInt32.lt_of_le_of_lt hu (by decide)

/-- The configuration read from NVS, whatever the output buffer held. -/
theorem readConfiguration_ok_iff (platform : Platform) (key : Key) (out c : DeviceConfig)
    (flash : Flash) :
    readConfiguration platform key out flash = (.ok, c) ↔
      flash.get key = some (configurationBlob c) ∧ c.validate platform = .ok := by
  unfold readConfiguration
  cases hb : readEncodedBlob key 8192 flash with
  | error e =>
    constructor
    · intro h
      rcases readEncodedBlob_error hb with ⟨rfl, -⟩ | rfl <;> cases congrArg Prod.fst h
    · rintro ⟨hg, -⟩
      rw [readEncodedBlob_of_size hg (by rw [length_configurationBlob]; decide)
        (by rw [length_configurationBlob]; decide)] at hb
      cases hb
  | ok encoded =>
    have hg := get_of_readEncodedBlob hb
    simp only [hg, Option.some.injEq]
    constructor
    · intro h
      obtain ⟨hv, hc⟩ := Prod.mk.inj h
      split at hv
      · next hr =>
        rw [hc] at hv
        exact ⟨(configurationBlob_of_decode encoded out c (Prod.ext hr hc)).1, hv⟩
      · next hr => exact absurd hv hr
    · rintro ⟨rfl, hv⟩
      rw [decodeConfiguration_configurationBlob c out (enumsFit_of_validate hv)]
      dsimp only
      rw [if_pos rfl, hv]

/-- A stored configuration is the blob of a valid configuration. -/
theorem storedConfiguration_eq_some_iff (platform : Platform) (key : Key) (c : DeviceConfig)
    (flash : Flash) :
    storedConfiguration platform key flash = some c ↔
      flash.get key = some (configurationBlob c) ∧ c.validate platform = .ok := by
  rw [← readConfiguration_ok_iff platform key .zero]
  unfold storedConfiguration
  split
  · next h => rw [h]; simp
  · next h => exact ⟨fun hs ↦ (nomatch hs), fun hs ↦ absurd hs (h c)⟩

theorem readConfiguration_of_stored {platform : Platform} {key : Key} {c : DeviceConfig}
    {flash : Flash} (h : storedConfiguration platform key flash = some c)
    (out : DeviceConfig) :
    readConfiguration platform key out flash = (.ok, c) ∧ c.validate platform = .ok := by
  have hs := (storedConfiguration_eq_some_iff platform key c flash).mp h
  exact ⟨(readConfiguration_ok_iff platform key out c flash).mpr hs, hs.2⟩

theorem readConfiguration_of_unusable {platform : Platform} {key : Key} {flash : Flash}
    (h : storedConfiguration platform key flash = none) (out : DeviceConfig) :
    (readConfiguration platform key out flash).1 ≠ .ok := by
  intro hr
  have hread := (readConfiguration_ok_iff platform key out _ flash).mp (Prod.ext hr rfl)
  rw [← storedConfiguration_eq_some_iff, h] at hread
  cases hread

/-! ### Metadata transitions -/

namespace DeviceConfigMetadata

/-- Metadata of a freshly staged candidate. -/
def pendingFor (m : DeviceConfigMetadata) (revision : UInt32) : DeviceConfigMetadata :=
  { m with state := ConfigState.pending, candidateRevision := revision, bootAttempts := 0 }

/-- Metadata after a rollback. -/
def rolledBack (m : DeviceConfigMetadata) (reason : List UInt8) : DeviceConfigMetadata :=
  { m with
    state := ConfigState.rollback
    candidateRevision := 0
    bootAttempts := 0
    lastRollbackReason := m.lastRollbackReason.snprintf reason }

/-- Metadata after an activation or a cancellation. -/
def settled (m : DeviceConfigMetadata) : DeviceConfigMetadata :=
  { m with state := ConfigState.active, candidateRevision := 0, bootAttempts := 0 }

/-- Metadata with one more boot. -/
def booted (m : DeviceConfigMetadata) : DeviceConfigMetadata :=
  { m with bootCount := m.bootCount + 1 }

/-- Metadata with one more candidate boot attempt. -/
def attempted (m : DeviceConfigMetadata) : DeviceConfigMetadata :=
  { m with bootAttempts := m.bootAttempts + 1 }

variable (m : DeviceConfigMetadata) (revision : UInt32) (reason : List UInt8)

@[simp] theorem pendingFor_state : (m.pendingFor revision).state = ConfigState.pending := rfl
@[simp] theorem pendingFor_candidateRevision :
    (m.pendingFor revision).candidateRevision = revision := rfl
@[simp] theorem pendingFor_bootAttempts : (m.pendingFor revision).bootAttempts = 0 := rfl
@[simp] theorem rolledBack_state : (m.rolledBack reason).state = ConfigState.rollback := rfl
@[simp] theorem settled_state : m.settled.state = ConfigState.active := rfl
@[simp] theorem booted_state : m.booted.state = m.state := rfl
@[simp] theorem booted_candidateRevision :
    m.booted.candidateRevision = m.candidateRevision := rfl
@[simp] theorem booted_bootAttempts : m.booted.bootAttempts = m.bootAttempts := rfl
@[simp] theorem attempted_state : m.attempted.state = m.state := rfl
@[simp] theorem attempted_candidateRevision :
    m.attempted.candidateRevision = m.candidateRevision := rfl
@[simp] theorem attempted_bootAttempts : m.attempted.bootAttempts = m.bootAttempts + 1 := rfl

end DeviceConfigMetadata

/-- `snprintf` leaves the last byte NUL, if it was. -/
theorem CharArray.snprintf_last {n : Nat} (array : CharArray (n + 1)) (text : List UInt8)
    (h : array.last = 0) : (array.snprintf text).last = 0 := by
  unfold CharArray.last at h ⊢
  have hl : (text.take n ++ [0] ++ array.toList.drop (min text.length n + 1)).length =
      n + 1 := by
    simp only [List.length_append, List.length_take, List.length_singleton, List.length_drop,
      Vector.length_toList]
    omega
  simp only [CharArray.snprintf, Layout.array, Nat.add_sub_cancel, hl, ↓reduceDIte,
    Vector.getElem_mk, List.getElem_toArray]
  have hf : (text.take n ++ [0]).length = min n text.length + 1 := by
    rw [List.length_append, List.length_take, List.length_singleton]
  by_cases ht : n ≤ text.length
  · -- The text fills the array, so the terminator is the last byte.
    rw [List.getElem_append_left (by omega), List.getElem_append_right (by rw [List.length_take]; omega)]
    simp
  · -- The last byte is behind the terminator and keeps its value.
    rw [List.getElem_append_right (by omega)]
    simp only [List.length_append, List.length_take, List.length_singleton, List.getElem_drop,
      Vector.getElem_toList]
    have hi : min text.length n + 1 + (n - (min n text.length + 1)) = n := by omega
    simp only [hi, h]

section Storable

variable {m : DeviceConfigMetadata}

theorem storable_pendingFor (h : DeviceConfigMetadata.Storable m) (revision : UInt32) :
    DeviceConfigMetadata.Storable (m.pendingFor revision) :=
  ⟨(by decide : ConfigState.pending ≤ ConfigState.rollback), h.2⟩

theorem storable_rolledBack (h : DeviceConfigMetadata.Storable m) (reason : List UInt8) :
    DeviceConfigMetadata.Storable (m.rolledBack reason) :=
  ⟨(by decide : ConfigState.rollback ≤ ConfigState.rollback), CharArray.snprintf_last _ _ h.2⟩

theorem storable_settled (h : DeviceConfigMetadata.Storable m) :
    DeviceConfigMetadata.Storable m.settled :=
  ⟨(by decide : ConfigState.active ≤ ConfigState.rollback), h.2⟩

theorem storable_booted (h : DeviceConfigMetadata.Storable m) :
    DeviceConfigMetadata.Storable m.booted := h

theorem storable_attempted (h : DeviceConfigMetadata.Storable m) :
    DeviceConfigMetadata.Storable m.attempted := h

end Storable

/-! ### Writes -/

/-- The write of a metadata record. -/
def NvsWrite.metadata (m : DeviceConfigMetadata) : NvsWrite :=
  .setBlob .metadata (metadataBlob m)

/-- The write of a configuration. -/
def NvsWrite.configuration (key : Key) (c : DeviceConfig) : NvsWrite :=
  .setBlob key (configurationBlob c)

theorem writeMetadata_eq (m : DeviceConfigMetadata) :
    writeMetadata m = .commit (.metadata m) fun e ↦ .done (commitResult e) := by
  rw [writeMetadata, encodeMetadata_eq m _ List.length_replicate]
  rfl

theorem writeConfiguration_eq (key : Key) (c : DeviceConfig) :
    writeConfiguration key c = .commit (.configuration key c) fun e ↦ .done (commitResult e) := by
  rw [writeConfiguration, encodeConfiguration_eq c _ List.length_replicate]
  rfl

/-- A metadata write is read back. -/
theorem storedMetadata_write {m : DeviceConfigMetadata} (h : DeviceConfigMetadata.Storable m)
    (flash : Flash) : storedMetadata ((NvsWrite.metadata m).apply flash) = some m :=
  (storedMetadata_eq_some_iff m _).mpr (.inr ⟨rfl, h⟩)

/-- A write of a valid configuration is read back. -/
theorem storedConfiguration_write {platform : Platform} {c : DeviceConfig}
    (h : c.validate platform = .ok) (key : Key) (flash : Flash) :
    storedConfiguration platform key ((NvsWrite.configuration key c).apply flash) = some c := by
  rw [storedConfiguration_eq_some_iff]
  cases key <;> exact ⟨rfl, h⟩

/-- Metadata is read from its own key. -/
theorem getMetadataLocked_congr {flash flash' : Flash} (h : flash.metadata = flash'.metadata)
    (out : DeviceConfigMetadata) : getMetadataLocked out flash = getMetadataLocked out flash' := by
  unfold getMetadataLocked readMetadata readEncodedBlob Flash.get
  rw [h]

theorem storedMetadata_congr {flash flash' : Flash} (h : flash.metadata = flash'.metadata) :
    storedMetadata flash = storedMetadata flash' := by
  unfold storedMetadata
  rw [getMetadataLocked_congr h]

/-- A configuration is read from its own key. -/
theorem readConfiguration_congr {platform : Platform} {key : Key} {flash flash' : Flash}
    (h : flash.get key = flash'.get key) (out : DeviceConfig) :
    readConfiguration platform key out flash = readConfiguration platform key out flash' := by
  unfold readConfiguration readEncodedBlob
  rw [h]

theorem storedConfiguration_congr {platform : Platform} {key : Key} {flash flash' : Flash}
    (h : flash.get key = flash'.get key) :
    storedConfiguration platform key flash = storedConfiguration platform key flash' := by
  unfold storedConfiguration
  rw [readConfiguration_congr h]

/-! ### Plans -/

/-- The calls on the configuration store. -/
inductive Operation where
  | stage (configuration : DeviceConfig)
  | load
  | activate (verifiedCandidate : DeviceConfig)
  | rollback (reason : Option (List UInt8))
  | cancel
  | factoryReset
  | recover

/-- What a call returns: its result code, and the output parameters of a load. -/
structure Reply where
  result : EspErr
  loaded : Option LoadForBoot

/-- The reply of an operation with no output parameters. -/
def Reply.code (result : EspErr) : Reply := ⟨result, none⟩

/-- The reply of a load. -/
def Reply.load (r : LoadForBoot) : Reply := ⟨r.result, some r⟩

/-- The program of a call. A load starts from the zero-initialised configuration and the
`using_candidate = false` that `app_main` passes. -/
def Operation.program (platform : Platform) : Operation → Op Reply
  | stage c => do return .code (← stageCandidate platform c)
  | load => do return .load (← loadForBoot platform .zero false .zero)
  | activate c => do return .code (← activateCandidate platform c)
  | rollback reason => do return .code (← rollbackCandidate reason)
  | cancel => do return .code (← cancelCandidate)
  | factoryReset => do return .code (← Firmware.factoryReset)
  | recover => do return .code (← storageRecover)

/-- A straight-line plan: the writes with their failure replies, and how it ends. -/
structure Plan where
  steps : List (Program.Step NvsWrite Ram Failure Reply)
  last : Ram × Reply

/-- The reply and RAM of a plan whose commit failed. -/
def failCode (ram : Ram) (e : Failure) : Ram × Reply := (ram, .code e.val)

/-- A plan that writes nothing. -/
def Plan.refuse (ram : Ram) (result : EspErr) : Plan := ⟨[], (ram, .code result)⟩

/-- Record a rollback, then erase the candidate. -/
def rollbackSteps (m : DeviceConfigMetadata) (reason : List UInt8)
    (onError onError' : Failure → Ram × Reply) :
    List (Program.Step NvsWrite Ram Failure Reply) :=
  [(.metadata (m.rolledBack reason), onError), (.eraseKey .candidate, onError')]

/-- Why a pending candidate is not booted, if it is not. -/
def bootRefusal (platform : Platform) (m : DeviceConfigMetadata) (flash : Flash) :
    Option (List UInt8) :=
  if m.bootAttempts ≥ platform.candidateMaxAttempts then some attemptLimitReason
  else
    match storedConfiguration platform .candidate flash with
    | some c => if c.revision = m.candidateRevision then none else some unusableReason
    | none => some unusableReason

/-- The configuration buffer when a load falls back to the active configuration. -/
def bootBuffer (platform : Platform) (m : DeviceConfigMetadata) (flash : Flash) :
    DeviceConfig :=
  if m.bootAttempts ≥ platform.candidateMaxAttempts then .zero
  else (readConfiguration platform .candidate .zero flash).2

/-- The reply of a load that returns the active configuration. -/
def loadedActive (platform : Platform) (buffer : DeviceConfig) (m : DeviceConfigMetadata)
    (flash : Flash) : Reply :=
  let (result, configuration) := readConfiguration platform .active buffer flash
  .load { result, configuration, usingCandidate := false, metadata := m }

/-- The reply of a load that a failed commit ended. -/
def loadFailed (c : DeviceConfig) (m : DeviceConfigMetadata) (e : Failure) : Ram × Reply :=
  (.clear, .load
    { result := e.val, configuration := c, usingCandidate := false, metadata := m })

/-- The plan of `device_config_load_for_boot`. -/
def loadPlan (platform : Platform) (flash : Flash) : Plan :=
  match storedMetadata flash with
  | none =>
    let (result, metadata) := getMetadataLocked .zero flash
    ⟨[], (.clear, .load
      { result, configuration := .zero, usingCandidate := false, metadata })⟩
  | some m =>
    let m := m.booted
    let boot : Program.Step NvsWrite Ram Failure Reply := (.metadata m, loadFailed .zero m)
    if m.state = ConfigState.pending then
      let buffer := bootBuffer platform m flash
      match bootRefusal platform m flash with
      | some reason =>
        ⟨boot :: rollbackSteps m reason (loadFailed buffer m) (loadFailed buffer m),
          (.clear, loadedActive platform buffer (m.rolledBack reason) flash)⟩
      | none =>
        ⟨[boot, (.metadata m.attempted, loadFailed buffer m.attempted)],
          (⟨true, m.candidateRevision⟩, .load
            { result := .ok, configuration := buffer, usingCandidate := true
              metadata := m.attempted })⟩
    else ⟨[boot], (.clear, loadedActive platform .zero m flash)⟩

/-- What a load with these output parameters commits and returns. -/
def bootPlan (platform : Platform) (flash : Flash) (configuration : DeviceConfig)
    (usingCandidate : Bool) (metadata : DeviceConfigMetadata) :
    List (Program.Step NvsWrite Ram Failure LoadForBoot) × Ram × LoadForBoot :=
  let failed (configuration : DeviceConfig) (metadata : DeviceConfigMetadata) (e : Failure) :
      Ram × LoadForBoot :=
    (.clear, { result := e.val, configuration, usingCandidate, metadata })
  let active (buffer : DeviceConfig) (metadata : DeviceConfigMetadata) : Ram × LoadForBoot :=
    let (result, configuration) := readConfiguration platform .active buffer flash
    (.clear, { result, configuration, usingCandidate := false, metadata })
  match storedMetadata flash with
  | none =>
    let (result, metadata) := getMetadataLocked metadata flash
    ([], .clear, { result, configuration, usingCandidate, metadata })
  | some m =>
    let m := m.booted
    if m.state = ConfigState.pending then
      let buffer := if m.bootAttempts ≥ platform.candidateMaxAttempts then configuration
        else (readConfiguration platform .candidate configuration flash).2
      match bootRefusal platform m flash with
      | some reason =>
        ([(.metadata m, failed configuration m), (.metadata (m.rolledBack reason), failed buffer m),
          (.eraseKey .candidate, failed buffer m)], active buffer (m.rolledBack reason))
      | none =>
        ([(.metadata m, failed configuration m),
          (.metadata m.attempted, failed buffer m.attempted)],
          ⟨true, m.candidateRevision⟩,
          { result := .ok, configuration := buffer, usingCandidate := true
            metadata := m.attempted })
    else ([(.metadata m, failed configuration m)], active configuration m)

/-- The plan of a call. -/
def Operation.plan (platform : Platform) (flash : Flash) (ram : Ram) : Operation → Plan
  | stage c =>
    if c.validate platform ≠ .ok then .refuse ram (c.validate platform)
    else if ram.candidateValidationInProgress then .refuse ram .invalidState
    else
      match storedMetadata flash with
      | none => ⟨[(.configuration .candidate c, failCode ram)],
          (ram, .code (getMetadataLocked .zero flash).1)⟩
      | some m => ⟨[(.configuration .candidate c, failCode ram),
          (.metadata (m.pendingFor c.revision), failCode ram)], (ram, .code .ok)⟩
  | load => loadPlan platform flash
  | activate verified =>
    if !ram.candidateValidationInProgress ∨ ram.candidateValidationRevision ≠ verified.revision
    then .refuse ram .invalidState
    else
      match storedConfiguration platform .candidate flash with
      | none => .refuse ram (readConfiguration platform .candidate .zero flash).1
      | some candidate =>
        match storedMetadata flash with
        | none => .refuse ram (getMetadataLocked .zero flash).1
        | some m =>
          if m.state ≠ ConfigState.pending ∨ m.candidateRevision ≠ verified.revision
              ∨ !configurationsMatch candidate verified then .refuse ram .invalidState
          else ⟨[(.configuration .active candidate, failCode ram),
            (.metadata m.settled, failCode ram), (.eraseKey .candidate, failCode ram)],
            (.clear, .code .ok)⟩
  | rollback reason =>
    match storedMetadata flash with
    | none => .refuse ram (getMetadataLocked .zero flash).1
    | some m => ⟨rollbackSteps m (reason.getD (DeviceConfig.ascii "unspecified"))
        (failCode ram) (failCode ram), (.clear, .code .ok)⟩
  | cancel =>
    if ram.candidateValidationInProgress then .refuse ram .invalidState
    else
      match storedMetadata flash with
      | none => .refuse ram (getMetadataLocked .zero flash).1
      | some m => ⟨[(.metadata m.settled, failCode ram), (.eraseKey .candidate, failCode ram)],
          (ram, .code .ok)⟩
  | factoryReset => ⟨[(.eraseAll, failCode ram)], (.clear, .code .ok)⟩
  | recover => ⟨[(.eraseAll, failCode ram)], (.clear, .code .ok)⟩

/-! ### Every call follows its plan -/

theorem bind_eq {α β : Type} (p : Op α) (f : α → Op β) : p >>= f = p.bind f := rfl

theorem pure_eq {α : Type} (a : α) : (pure a : Op α) = .done a := rfl

theorem ram_eq : Op.ram = .read fun _ ram ↦ .done ram := rfl

theorem flash_eq : Op.flash = .read fun flash _ ↦ .done flash := rfl

theorem modify_eq (f : Ram → Ram) : (Program.modify f : Op Unit) = .assign f (.done ()) := rfl

theorem write_eq (w : NvsWrite) : (Program.write w : Op (Option Failure)) = .commit w .done := rfl

theorem eraseKey_eq (key : Key) :
    eraseKey key = .commit (.eraseKey key) fun e ↦ .done (commitResult e) := rfl

@[simp] theorem commitResult_none : commitResult none = .ok := rfl

@[simp] theorem commitResult_some (e : Failure) : commitResult (some e) = e.val := rfl

@[simp] theorem failure_ne_ok (e : Failure) : (e.val = .ok) = False := eq_false e.property

/-- A call follows its plan in this state. -/
def FollowsPlan (platform : Platform) (op : Operation) (flash : Flash) (ram : Ram) : Prop :=
  Program.Follows NvsWrite.apply (op.program platform) flash ram
    (op.plan platform flash ram).steps (op.plan platform flash ram).last

private theorem stage_follows (platform : Platform) (c : DeviceConfig) (flash : Flash)
    (ram : Ram) : FollowsPlan platform (.stage c) flash ram := by
  unfold FollowsPlan Operation.program stageCandidate Operation.plan
  simp only [bind_eq, pure_eq, ram_eq, flash_eq, writeConfiguration_eq, writeMetadata_eq]
  by_cases hv : c.validate platform = .ok
  · by_cases hp : ram.candidateValidationInProgress
    · simp [hv, hp, Program.bind, Plan.refuse]
    · have hw : storedMetadata ((NvsWrite.configuration .candidate c).apply flash) =
          storedMetadata flash := storedMetadata_congr rfl
      cases hm : storedMetadata flash with
      | none =>
        have hg := getMetadataLocked_of_unreadable hm .zero
        have he : getMetadataLocked .zero ((NvsWrite.configuration .candidate c).apply flash) =
            getMetadataLocked .zero flash := getMetadataLocked_congr rfl .zero
        simp [hv, hp, hg, he, Program.bind, failCode, -Subtype.forall]
      | some m =>
        have hg := getMetadataLocked_of_stored (hw.trans hm) .zero
        simp [hv, hp, hg, Program.bind, failCode, DeviceConfigMetadata.pendingFor,
          -Subtype.forall]
  · simp [hv, Program.bind, Plan.refuse]

private theorem rollback_follows (platform : Platform) (reason : Option (List UInt8))
    (flash : Flash) (ram : Ram) : FollowsPlan platform (.rollback reason) flash ram := by
  unfold FollowsPlan Operation.program rollbackCandidate rollbackCandidateLocked Operation.plan
  simp only [bind_eq, pure_eq, flash_eq, modify_eq, eraseKey_eq, writeMetadata_eq]
  cases hm : storedMetadata flash with
  | none =>
    have hg := getMetadataLocked_of_unreadable hm .zero
    simp [hg, Program.bind, Plan.refuse]
  | some m =>
    have hg := getMetadataLocked_of_stored hm .zero
    simp [hg, Program.bind, failCode, rollbackSteps, DeviceConfigMetadata.rolledBack,
      -Subtype.forall]

private theorem cancel_follows (platform : Platform) (flash : Flash) (ram : Ram) :
    FollowsPlan platform .cancel flash ram := by
  unfold FollowsPlan Operation.program cancelCandidate Operation.plan
  simp only [bind_eq, pure_eq, ram_eq, flash_eq, eraseKey_eq, writeMetadata_eq]
  by_cases hp : ram.candidateValidationInProgress
  · simp [hp, Program.bind, Plan.refuse]
  · cases hm : storedMetadata flash with
    | none =>
      have hg := getMetadataLocked_of_unreadable hm .zero
      simp [hp, hg, Program.bind, Plan.refuse]
    | some m =>
      have hg := getMetadataLocked_of_stored hm .zero
      simp [hp, hg, Program.bind, failCode, DeviceConfigMetadata.settled, -Subtype.forall]

private theorem factoryReset_follows (platform : Platform) (flash : Flash) (ram : Ram) :
    FollowsPlan platform .factoryReset flash ram := by
  unfold FollowsPlan Operation.program factoryReset Operation.plan
  simp only [bind_eq, pure_eq, modify_eq, write_eq]
  simp [Program.bind, failCode, -Subtype.forall]

private theorem recover_follows (platform : Platform) (flash : Flash) (ram : Ram) :
    FollowsPlan platform .recover flash ram := by
  unfold FollowsPlan Operation.program storageRecover Operation.plan
  simp only [bind_eq, pure_eq, modify_eq, write_eq]
  simp [Program.bind, failCode, -Subtype.forall]

private theorem activate_follows (platform : Platform) (verified : DeviceConfig)
    (flash : Flash) (ram : Ram) : FollowsPlan platform (.activate verified) flash ram := by
  unfold FollowsPlan Operation.program activateCandidate Operation.plan
  simp only [bind_eq, pure_eq, ram_eq, flash_eq, modify_eq, eraseKey_eq, writeConfiguration_eq,
    writeMetadata_eq]
  by_cases hr : !ram.candidateValidationInProgress
      ∨ ram.candidateValidationRevision ≠ verified.revision
  · simp only [Program.bind, Program.follows_read_iff, if_pos hr]
    simp [Plan.refuse]
  · simp only [Program.bind, Program.follows_read_iff, if_neg hr]
    cases hc : storedConfiguration platform .candidate flash with
    | none =>
      have he := readConfiguration_of_unusable hc .zero
      simp [he, Program.bind, Plan.refuse]
    | some candidate =>
      obtain ⟨hg, hv⟩ := readConfiguration_of_stored hc .zero
      cases hm : storedMetadata flash with
      | none =>
        have he := getMetadataLocked_of_unreadable hm .zero
        simp [hg, hv, he, Program.bind, Plan.refuse]
      | some m =>
        have he := getMetadataLocked_of_stored hm .zero
        by_cases hq : m.state ≠ ConfigState.pending ∨ m.candidateRevision ≠ verified.revision
            ∨ !configurationsMatch candidate verified
        · simp only [hg, hv, he, Program.bind, if_pos hq, ne_eq, not_true_eq_false, if_false,
            Program.follows_read_iff]
          simp [Plan.refuse]
        · simp only [hg, hv, he, Program.bind, if_neg hq, ne_eq, not_true_eq_false, if_false,
            Program.follows_read_iff]
          simp [Program.bind, failCode, DeviceConfigMetadata.settled, -Subtype.forall]

/-- The end of a load that rolls the candidate back follows the rollback steps. -/
private theorem rollbackForBoot_follows (platform : Platform) (reason : List UInt8)
    (buffer : DeviceConfig) (usingCandidate : Bool) (flash flash' : Flash)
    (m : DeviceConfigMetadata) (hm : storedMetadata flash = some m)
    (ha : flash.get .active = flash'.get .active) :
    Program.Follows NvsWrite.apply
      (rollbackForBoot platform reason buffer usingCandidate m) flash .clear
      [(.metadata (m.rolledBack reason), fun e ↦
          (.clear, { result := e.val, configuration := buffer, usingCandidate, metadata := m })),
        (.eraseKey .candidate, fun e ↦
          (.clear, { result := e.val, configuration := buffer, usingCandidate, metadata := m }))]
      (.clear,
        { result := (readConfiguration platform .active buffer flash').1
          configuration := (readConfiguration platform .active buffer flash').2
          usingCandidate := false
          metadata := m.rolledBack reason }) := by
  unfold rollbackForBoot rollbackCandidateLocked loadActiveForBoot
  simp only [bind_eq, pure_eq, flash_eq, modify_eq, eraseKey_eq, writeMetadata_eq]
  have hg := getMetadataLocked_of_stored hm .zero
  have hs := storable_rolledBack (storable_of_storedMetadata hm) reason
  have he : getMetadataLocked m ((NvsWrite.eraseKey .candidate).apply
      ((NvsWrite.metadata (m.rolledBack reason)).apply flash)) = (.ok, m.rolledBack reason) :=
    getMetadataLocked_of_stored (storedMetadata_write hs flash) m
  have hc (out : DeviceConfig) : readConfiguration platform .active out
      ((NvsWrite.eraseKey .candidate).apply
        ((NvsWrite.metadata (m.rolledBack reason)).apply flash)) =
      readConfiguration platform .active out flash' := readConfiguration_congr ha out
  have hb : ({ m with
      state := ConfigState.rollback, candidateRevision := 0, bootAttempts := 0
      lastRollbackReason := m.lastRollbackReason.snprintf reason } : DeviceConfigMetadata) =
      m.rolledBack reason := rfl
  simp [hg, hb, he, hc, Program.bind, -Subtype.forall]

/-- The end of a load without a candidate returns the active configuration. -/
private theorem loadActiveForBoot_follows (platform : Platform) (buffer : DeviceConfig)
    (flash flash' : Flash) (m : DeviceConfigMetadata)
    (ha : flash.get .active = flash'.get .active) :
    Program.Follows NvsWrite.apply (loadActiveForBoot platform buffer m) flash .clear []
      (.clear,
        { result := (readConfiguration platform .active buffer flash').1
          configuration := (readConfiguration platform .active buffer flash').2
          usingCandidate := false
          metadata := m }) := by
  unfold loadActiveForBoot
  simp only [bind_eq, pure_eq, flash_eq]
  simp [readConfiguration_congr ha, Program.bind]

/-- A load follows its plan, whatever the output parameters held. -/
theorem loadForBoot_follows (platform : Platform) (flash : Flash) (ram : Ram)
    (configuration : DeviceConfig) (usingCandidate : Bool) (metadata : DeviceConfigMetadata) :
    Program.Follows NvsWrite.apply (loadForBoot platform configuration usingCandidate metadata)
      flash ram (bootPlan platform flash configuration usingCandidate metadata).1
      (bootPlan platform flash configuration usingCandidate metadata).2 := by
  unfold loadForBoot bootPlan
  simp only [bind_eq, pure_eq, flash_eq, modify_eq, writeMetadata_eq]
  cases hm : storedMetadata flash with
  | none =>
    have hg := getMetadataLocked_of_unreadable hm metadata
    simp [hg, Program.bind]
  | some m =>
    have hg := getMetadataLocked_of_stored hm metadata
    have hb : ({ m with bootCount := m.bootCount + 1 } : DeviceConfigMetadata) = m.booted := rfl
    have hs := storedMetadata_write (storable_booted (storable_of_storedMetadata hm)) flash
    have hc (out : DeviceConfig) : readConfiguration platform .candidate out
        ((NvsWrite.metadata m.booted).apply flash) =
        readConfiguration platform .candidate out flash := readConfiguration_congr rfl out
    have hroll (reason : List UInt8) (buffer : DeviceConfig) :=
      rollbackForBoot_follows platform reason buffer usingCandidate _ flash _ hs rfl
    simp only [hg, hb, Program.bind, Program.follows_assign_iff, Program.follows_read_iff]
    by_cases hp : m.state = ConfigState.pending
    · have ht : (⟨ConfigState.pending, m.candidateRevision, m.bootAttempts + 1, m.bootCount + 1,
          m.lastRollbackReason⟩ : DeviceConfigMetadata) = m.booted.attempted := by
        rw [← hp]
        rfl
      by_cases hl : m.booted.bootAttempts ≥ platform.candidateMaxAttempts
      · have hr : bootRefusal platform m.booted flash = some attemptLimitReason := if_pos hl
        have hl : platform.candidateMaxAttempts ≤ m.bootAttempts := hl
        simp [hr, hp, hl, hroll, Program.bind, -Subtype.forall]
      · cases hk : storedConfiguration platform .candidate flash with
        | none =>
          have hn := readConfiguration_of_unusable hk configuration
          have hr : bootRefusal platform m.booted flash = some unusableReason := by
            rw [bootRefusal, if_neg hl, hk]
          have hl : ¬ platform.candidateMaxAttempts ≤ m.bootAttempts := hl
          simp [hr, hp, hl, hc, hn, hroll, Program.bind, -Subtype.forall]
        | some c =>
          obtain ⟨hn, hv⟩ := readConfiguration_of_stored hk configuration
          by_cases he : c.revision = m.candidateRevision
          · have hr : bootRefusal platform m.booted flash = none := by
              rw [bootRefusal, if_neg hl, hk]
              exact if_pos he
            have hl : ¬ platform.candidateMaxAttempts ≤ m.bootAttempts := hl
            simp [hr, hp, hl, ht, hc, hn, hv, he, Program.bind, -Subtype.forall]
          · have hr : bootRefusal platform m.booted flash = some unusableReason := by
              rw [bootRefusal, if_neg hl, hk]
              exact if_neg he
            have hl : ¬ platform.candidateMaxAttempts ≤ m.bootAttempts := hl
            simp [hr, hp, hl, hc, hn, hv, he, hroll, Program.bind, -Subtype.forall]
    · have ha := loadActiveForBoot_follows platform configuration
        ((NvsWrite.metadata m.booted).apply flash) flash m.booted rfl
      simp [hp, ha, Program.bind, -Subtype.forall]

/-- The plan of the call of `app_main`, which passes zeroed parameters. -/
private theorem loadPlan_eq (platform : Platform) (flash : Flash) :
    loadPlan platform flash =
      { steps := (bootPlan platform flash .zero false .zero).1.map fun s ↦
          (s.1, fun e ↦ ((s.2 e).1, .load (s.2 e).2))
        last := ((bootPlan platform flash .zero false .zero).2.1,
          .load (bootPlan platform flash .zero false .zero).2.2) } := by
  unfold loadPlan bootPlan
  cases storedMetadata flash with
  | none => rfl
  | some m =>
    dsimp only
    by_cases hp : m.booted.state = ConfigState.pending
    · rw [if_pos hp, if_pos hp]
      cases bootRefusal platform m.booted flash <;> rfl
    · rw [if_neg hp, if_neg hp]
      rfl

private theorem load_follows (platform : Platform) (flash : Flash) (ram : Ram) :
    FollowsPlan platform .load flash ram := by
  unfold FollowsPlan Operation.plan
  rw [loadPlan_eq]
  exact (loadForBoot_follows platform flash ram .zero false .zero).map NvsWrite.apply Reply.load

/-- Every call follows its plan. -/
theorem operation_follows (platform : Platform) (op : Operation) (flash : Flash) (ram : Ram) :
    FollowsPlan platform op flash ram := by
  cases op with
  | stage c => exact stage_follows platform c flash ram
  | load => exact load_follows platform flash ram
  | activate c => exact activate_follows platform c flash ram
  | rollback reason => exact rollback_follows platform reason flash ram
  | cancel => exact cancel_follows platform flash ram
  | factoryReset => exact factoryReset_follows platform flash ram
  | recover => exact recover_follows platform flash ram

end EdgeMonitor.Firmware
