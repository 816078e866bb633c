import EdgeMonitor.Firmware.ConfigStore

/-!
# Reported state and stored configurations

Library `Firmware`. The state that `device_config_get_metadata` reports speaks of a slot of
NVS, PENDING of the candidate and ACTIVE of the active configuration. The module settles
which runs of the configuration store keep a valid configuration in the slot for as long as
its state is reported.
-/

namespace EdgeMonitor.Firmware
open EdgeMonitor.Base ConfigStorage

/-! ### What one event commits -/

/-- Every list of writes that an event can commit, with what the call had found. The erase
of the candidate that ends a rollback, an activation or a cancellation may be missing. -/
inductive Commits (platform : Platform) (s : Store) : StoreEvent → List NvsWrite → Prop
  | nothing (e : StoreEvent) : Commits platform s e []
  | candidate (c : DeviceConfig) (faults : List (Fault Failure))
      (hv : c.validate platform = .ok) :
    Commits platform s (.call (.stage c) faults) [.configuration .candidate c]
  | staged (c : DeviceConfig) (m : DeviceConfigMetadata) (faults : List (Fault Failure))
      (hv : c.validate platform = .ok) (hm : storedMetadata s.flash = some m) :
    Commits platform s (.call (.stage c) faults)
      [.configuration .candidate c, .metadata (m.pendingFor c.revision)]
  | booted (m : DeviceConfigMetadata) (faults : List (Fault Failure))
      (hm : storedMetadata s.flash = some m) :
    Commits platform s (.call .load faults) [.metadata m.booted]
  | attempted (m : DeviceConfigMetadata) (faults : List (Fault Failure))
      (hm : storedMetadata s.flash = some m) :
    Commits platform s (.call .load faults) [.metadata m.booted, .metadata m.booted.attempted]
  | refused (m : DeviceConfigMetadata) (faults : List (Fault Failure)) (reason : List UInt8)
      (tail : List NvsWrite) (hm : storedMetadata s.flash = some m)
      (ht : tail <+: [.eraseKey .candidate]) :
    Commits platform s (.call .load faults)
      (.metadata m.booted :: .metadata (m.booted.rolledBack reason) :: tail)
  | active (verified candidate : DeviceConfig) (faults : List (Fault Failure))
      (hc : storedConfiguration platform .candidate s.flash = some candidate) :
    Commits platform s (.call (.activate verified) faults) [.configuration .active candidate]
  | activated (verified candidate : DeviceConfig) (m : DeviceConfigMetadata)
      (faults : List (Fault Failure)) (tail : List NvsWrite)
      (hc : storedConfiguration platform .candidate s.flash = some candidate)
      (hm : storedMetadata s.flash = some m) (ht : tail <+: [.eraseKey .candidate]) :
    Commits platform s (.call (.activate verified) faults)
      (.configuration .active candidate :: .metadata m.settled :: tail)
  | rolledBack (m : DeviceConfigMetadata) (reason : Option (List UInt8))
      (faults : List (Fault Failure)) (text : List UInt8) (tail : List NvsWrite)
      (hm : storedMetadata s.flash = some m) (ht : tail <+: [.eraseKey .candidate]) :
    Commits platform s (.call (.rollback reason) faults)
      (.metadata (m.rolledBack text) :: tail)
  | cancelled (m : DeviceConfigMetadata) (faults : List (Fault Failure))
      (tail : List NvsWrite) (hp : s.ram.candidateValidationInProgress = false)
      (hm : storedMetadata s.flash = some m) (ht : tail <+: [.eraseKey .candidate]) :
    Commits platform s (.call .cancel faults) (.metadata m.settled :: tail)
  | erased (op : Operation) (faults : List (Fault Failure)) :
    Commits platform s (.call op faults) [.eraseAll]

/-- The writes of every event are among the listed ones. -/
theorem commits_step (platform : Platform) (s : Store) (e : StoreEvent) :
    Commits platform s e ((configStore platform).step s e).2.writes := by
  cases e with
  | powerCut => exact .nothing _
  | call op faults =>
    have hr := reached_call platform op s faults
    have full : [NvsWrite.eraseKey .candidate] <+: [.eraseKey .candidate] := List.prefix_rfl
    change Commits platform s _ ((op.program platform).run NvsWrite.apply s.flash s.ram
      faults).writes
    cases op with
    | stage c =>
      rcases stage_cases hr with ⟨hw, -⟩ | ⟨hv, -, ⟨hw, -⟩ | ⟨m, hm, hw, -⟩⟩ <;> rw [hw]
      · exact .nothing _
      · exact .candidate c faults hv
      · exact .staged c m faults hv hm
    | load =>
      rcases load_cases hr with ⟨hw, -⟩ | ⟨m, hm, ⟨hw, -⟩ | ⟨-, ⟨-, hw, -⟩ | ⟨reason, -, -, hw⟩⟩⟩
      · exact hw ▸ .nothing _
      · exact hw ▸ .booted m faults hm
      · exact hw ▸ .attempted m faults hm
      · rcases hw with hw | hw <;> rw [hw]
        · exact .refused m faults reason [] hm List.nil_prefix
        · exact .refused m faults reason _ hm full
    | activate c =>
      rcases activate_cases hr with ⟨hw, -⟩ | ⟨candidate, m, ha, ⟨hw, -⟩ | ⟨hw, -⟩ | hw⟩ <;>
        rw [hw]
      · exact .nothing _
      · exact .active c candidate faults ha.stored
      · exact .activated c candidate m faults [] ha.stored ha.metadata List.nil_prefix
      · exact .activated c candidate m faults _ ha.stored ha.metadata full
    | rollback reason =>
      rcases rollback_cases hr with hw | ⟨m, text, hm, hw | hw⟩ <;> rw [hw]
      · exact .nothing _
      · exact .rolledBack m reason faults text [] hm List.nil_prefix
      · exact .rolledBack m reason faults text _ hm full
    | cancel =>
      rcases cancel_cases hr with hw | ⟨m, hm, hp, hw | hw⟩ <;> rw [hw]
      · exact .nothing _
      · exact .cancelled m faults [] hp hm List.nil_prefix
      · exact .cancelled m faults _ hp hm full
    | factoryReset =>
      rcases erase_cases rfl hr with hw | hw <;> rw [hw]
      · exact .nothing _
      · exact .erased _ faults
    | recover =>
      rcases erase_cases rfl hr with hw | hw <;> rw [hw]
      · exact .nothing _
      · exact .erased _ faults

/-! ### Slots behind a state -/

/-- When the stored metadata is in `state`, the key holds a configuration that passes
`device_config_validate`. -/
def Backed (platform : Platform) (state : ConfigState) (key : Key) (flash : Flash) : Prop :=
  ∀ m, storedMetadata flash = some m → m.state = state →
    ∃ c, storedConfiguration platform key flash = some c

namespace Backed

variable {platform : Platform} {state : ConfigState} {key : Key} {flash flash' : Flash}

/-- A stored configuration backs whatever state is reported. -/
theorem of_stored {c : DeviceConfig} (h : storedConfiguration platform key flash = some c) :
    Backed platform state key flash := fun _ _ _ ↦ ⟨c, h⟩

/-- Metadata in another state says nothing about the slot. -/
theorem of_ne {m : DeviceConfigMetadata} (hm : storedMetadata flash = some m)
    (hne : m.state ≠ state) : Backed platform state key flash := by
  intro m' hm' hstate
  obtain rfl := Option.some.inj (hm.symm.trans hm')
  exact absurd hstate hne

/-- Metadata that keeps the reported state leaves the slot as backed as it was. -/
theorem of_eq {m m' : DeviceConfigMetadata} (h : Backed platform state key flash)
    (hm : storedMetadata flash = some m) (hm' : storedMetadata flash' = some m')
    (hstate : m'.state = m.state) (hk : flash'.get key = flash.get key) :
    Backed platform state key flash' := by
  intro m'' hm'' hstate'
  obtain rfl := Option.some.inj (hm'.symm.trans hm'')
  rw [storedConfiguration_congr hk]
  exact h m hm (hstate.symm.trans hstate')

/-- Only the metadata and the slot matter. -/
theorem congr (h : Backed platform state key flash) (hm : flash'.metadata = flash.metadata)
    (hk : flash'.get key = flash.get key) : Backed platform state key flash' := by
  intro m hm' hstate
  rw [storedMetadata_congr hm] at hm'
  rw [storedConfiguration_congr hk]
  exact h m hm' hstate

/-- An erased device reports neither state. -/
theorem erased (hne : ConfigState.none ≠ state) : Backed platform state key .erased :=
  of_ne storedMetadata_erased hne

end Backed

/-- The erase of the candidate, or its absence, keeps the metadata. -/
private theorem storedMetadata_tail {tail : List NvsWrite} (ht : tail <+: [.eraseKey .candidate])
    (flash : Flash) :
    storedMetadata (Program.applyAll NvsWrite.apply flash tail) = storedMetadata flash := by
  rcases Program.prefix_one ht with rfl | rfl
  · rfl
  · exact storedMetadata_eraseKey_candidate flash

/-- The erase of the candidate, or its absence, keeps the active slot. -/
private theorem active_tail {tail : List NvsWrite} (ht : tail <+: [.eraseKey .candidate])
    (flash : Flash) :
    (Program.applyAll NvsWrite.apply flash tail).get .active = flash.get .active := by
  rcases Program.prefix_one ht with rfl | rfl <;> rfl

/-! ### PENDING -/

/-- Every event keeps a valid candidate behind PENDING: the candidate is written before
PENDING is, and erased only behind another state. -/
theorem pending_backed_step {platform : Platform} {s : Store}
    (h : Backed platform ConfigState.pending .candidate s.flash) (e : StoreEvent) :
    Backed platform ConfigState.pending .candidate
      ((configStore platform).step s e).1.flash := by
  rw [flash_step]
  generalize hws : ((configStore platform).step s e).2.writes = ws
  have hc : Commits platform s e ws := hws ▸ commits_step platform s e
  cases hc with
  | nothing => exact h
  | candidate c _ hv => exact .of_stored (storedConfiguration_write hv .candidate s.flash)
  | staged c m _ hv hm =>
    have hwritten := storedConfiguration_write hv .candidate s.flash
    exact .of_stored ((storedConfiguration_congr rfl).trans hwritten)
  | booted m _ hm =>
    have hs := storable_booted (storable_of_storedMetadata hm)
    exact h.of_eq hm (storedMetadata_write hs _) rfl rfl
  | attempted m _ hm =>
    have hs := storable_attempted (storable_booted (storable_of_storedMetadata hm))
    exact h.of_eq hm (storedMetadata_write hs _) rfl rfl
  | refused m _ reason tail hm ht =>
    have hs := storable_rolledBack (storable_booted (storable_of_storedMetadata hm)) reason
    refine .of_ne ((storedMetadata_tail ht _).trans (storedMetadata_write hs _)) ?_
    exact (by decide : ConfigState.rollback ≠ ConfigState.pending)
  | active _ candidate => exact h.congr rfl rfl
  | activated _ candidate m _ tail hc hm ht =>
    have hs := storable_settled (storable_of_storedMetadata hm)
    refine .of_ne ((storedMetadata_tail ht _).trans (storedMetadata_write hs _)) ?_
    exact (by decide : ConfigState.active ≠ ConfigState.pending)
  | rolledBack m _ _ text tail hm ht =>
    have hs := storable_rolledBack (storable_of_storedMetadata hm) text
    refine .of_ne ((storedMetadata_tail ht _).trans (storedMetadata_write hs _)) ?_
    exact (by decide : ConfigState.rollback ≠ ConfigState.pending)
  | cancelled m _ tail _ hm ht =>
    have hs := storable_settled (storable_of_storedMetadata hm)
    refine .of_ne ((storedMetadata_tail ht _).trans (storedMetadata_write hs _)) ?_
    exact (by decide : ConfigState.active ≠ ConfigState.pending)
  | erased => exact .erased (by decide)

/-- A pending state always has a usable candidate: in every run of the configuration store
from an empty namespace, with any commit failing and power lost anywhere. -/
theorem pending_has_candidate (platform : Platform) (es : List StoreEvent) :
    Backed platform ConfigState.pending .candidate
      ((configStore platform).run ⟨.erased, .clear⟩ es).flash := by
  have hstep (s : Store) (e : StoreEvent)
      (h : Backed platform ConfigState.pending .candidate s.flash) :
      Backed platform ConfigState.pending .candidate
        ((configStore platform).step s e).1.flash := pending_backed_step h e
  exact (configStore platform).invariant hstep (Backed.erased (by decide)) es

/-! ### ACTIVE -/

/-- A cancellation that goes ahead finds a valid active configuration. -/
def CancelsConfigured (platform : Platform) (s : Store) (e : StoreEvent) : Prop :=
  ∀ faults, e = .call .cancel faults → s.ram.candidateValidationInProgress = false →
    ∃ c, storedConfiguration platform .active s.flash = some c

/-- Every event but a cancellation without an active configuration keeps a valid one behind
ACTIVE: an activation writes the active slot before the state, and only an erase empties
it. -/
theorem active_backed_step {platform : Platform} {s : Store}
    (h : Backed platform ConfigState.active .active s.flash) (e : StoreEvent)
    (hcancel : CancelsConfigured platform s e) :
    Backed platform ConfigState.active .active ((configStore platform).step s e).1.flash := by
  rw [flash_step]
  generalize hws : ((configStore platform).step s e).2.writes = ws
  have hc : Commits platform s e ws := hws ▸ commits_step platform s e
  cases hc with
  | nothing => exact h
  | candidate => exact h.congr rfl rfl
  | staged c m _ _ hm =>
    have hs := storable_pendingFor (storable_of_storedMetadata hm) c.revision
    refine .of_ne (storedMetadata_write hs _) ?_
    exact (by decide : ConfigState.pending ≠ ConfigState.active)
  | booted m _ hm =>
    have hs := storable_booted (storable_of_storedMetadata hm)
    exact h.of_eq hm (storedMetadata_write hs _) rfl rfl
  | attempted m _ hm =>
    have hs := storable_attempted (storable_booted (storable_of_storedMetadata hm))
    exact h.of_eq hm (storedMetadata_write hs _) rfl rfl
  | refused m _ reason tail hm ht =>
    have hs := storable_rolledBack (storable_booted (storable_of_storedMetadata hm)) reason
    refine .of_ne ((storedMetadata_tail ht _).trans (storedMetadata_write hs _)) ?_
    exact (by decide : ConfigState.rollback ≠ ConfigState.active)
  | active _ candidate _ hc =>
    have hv := ((storedConfiguration_eq_some_iff _ _ _ _).mp hc).2
    exact .of_stored (storedConfiguration_write hv .active s.flash)
  | activated _ candidate m _ tail hc hm ht =>
    have hv := ((storedConfiguration_eq_some_iff _ _ _ _).mp hc).2
    have hwritten := storedConfiguration_write hv .active s.flash
    exact .of_stored ((storedConfiguration_congr (active_tail ht _)).trans hwritten)
  | rolledBack m _ _ text tail hm ht =>
    have hs := storable_rolledBack (storable_of_storedMetadata hm) text
    refine .of_ne ((storedMetadata_tail ht _).trans (storedMetadata_write hs _)) ?_
    exact (by decide : ConfigState.rollback ≠ ConfigState.active)
  | cancelled m faults tail hp hm ht =>
    obtain ⟨c, hstored⟩ := hcancel faults rfl hp
    exact .of_stored ((storedConfiguration_congr (active_tail ht _)).trans hstored)
  | erased => exact .erased (by decide)

/-- A cancellation that goes through without an active configuration reports ACTIVE. -/
theorem not_backed_of_cancel {platform : Platform} {s : Store} {m : DeviceConfigMetadata}
    (hp : s.ram.candidateValidationInProgress = false) (hm : storedMetadata s.flash = some m)
    (hnone : storedConfiguration platform .active s.flash = none) :
    ¬ Backed platform ConfigState.active .active
      ((configStore platform).step s (.call .cancel [])).1.flash := by
  intro h
  have hstep : ((configStore platform).step s (.call .cancel [])).1.flash =
      (NvsWrite.eraseKey .candidate).apply ((NvsWrite.metadata m.settled).apply s.flash) := by
    rw [call_of_applied platform _ s [] (by simp), Operation.plan, if_neg (by simp [hp]), hm]
    rfl
  rw [hstep] at h
  have hs := storable_settled (storable_of_storedMetadata hm)
  obtain ⟨c, hc⟩ := h m.settled
    ((storedMetadata_eraseKey_candidate _).trans (storedMetadata_write hs _)) rfl
  have hsame : storedConfiguration platform .active s.flash = some c := hc
  rw [hnone] at hsame
  cases hsame

/-- ACTIVE has a valid active configuration in every run from an empty namespace whose
cancellations find one, and a cancellation that goes through without one breaks that. -/
theorem active_has_configuration (platform : Platform) :
    (∀ es, (configStore platform).Along (CancelsConfigured platform) ⟨.erased, .clear⟩ es →
      Backed platform ConfigState.active .active
        ((configStore platform).run ⟨.erased, .clear⟩ es).flash) ∧
    ∀ s m, storedMetadata s.flash = some m →
      ¬ CancelsConfigured platform s (.call .cancel []) →
      ¬ Backed platform ConfigState.active .active
        ((configStore platform).step s (.call .cancel [])).1.flash := by
  constructor
  · intro es halong
    have hstep (s : Store) (e : StoreEvent)
        (h : Backed platform ConfigState.active .active s.flash)
        (hcancel : CancelsConfigured platform s e) :
        Backed platform ConfigState.active .active
          ((configStore platform).step s e).1.flash := active_backed_step h e hcancel
    exact (configStore platform).invariant_along hstep (Backed.erased (by decide)) halong
  · intro s m hm hnot
    unfold CancelsConfigured at hnot
    push Not at hnot
    obtain ⟨faults, -, hp, hnone⟩ := hnot
    exact not_backed_of_cancel hp hm (Option.eq_none_iff_forall_ne_some.mpr hnone)

/-- A first configuration that was staged, booted and activated is there for a cancellation. -/
private theorem along_provisioned {platform : Platform} {c : DeviceConfig}
    (hv : c.validate platform = .ok) (hl : 0 < platform.candidateMaxAttempts) :
    (configStore platform).Along (CancelsConfigured platform) ⟨.erased, .clear⟩
      [.call (.stage c) [], .call .load [], .call (.activate c) [], .call .cancel []] := by
  let s₁ := ((configStore platform).step ⟨.erased, .clear⟩ (.call (.stage c) [])).1
  let s₂ := ((configStore platform).step s₁ (.call .load [])).1
  have h₁ : PendingCandidate platform s₁.flash c
      (DeviceConfigMetadata.zero.pendingFor c.revision) :=
    pendingCandidate_stage hv rfl storedMetadata_erased
  obtain ⟨h₂, hram⟩ := pendingCandidate_load h₁ hl
  refine ⟨nofun, nofun, nofun, fun faults _ _ ↦ ⟨c, ?_⟩, trivial⟩
  change storedConfiguration platform .active
    ((configStore platform).step s₂ (.call (.activate c) [])).1.flash = some c
  rw [step_activate h₂ hram]
  exact (storedConfiguration_congr rfl).trans
    (storedConfiguration_write hv .active s₂.flash)

/-- A device whose first configuration was activated has it after a cancellation too. -/
theorem active_has_configuration_provisioned :
    Backed DeviceConfig.samplePlatform ConfigState.active .active
      ((configStore DeviceConfig.samplePlatform).run ⟨.erased, .clear⟩
        [.call (.stage (DeviceConfig.sample 1)) [], .call .load [],
          .call (.activate (DeviceConfig.sample 1)) [], .call .cancel []]).flash := by
  have hv : (DeviceConfig.sample 1).validate DeviceConfig.samplePlatform = .ok := by
    decide +kernel
  exact (active_has_configuration DeviceConfig.samplePlatform).1 _
    (along_provisioned hv (by decide))

/-- Cancelling on a device without any configuration leaves it reported as ACTIVE. -/
theorem active_has_configuration_fails :
    ¬ ∀ es : List StoreEvent,
      Backed DeviceConfig.samplePlatform ConfigState.active .active
        ((configStore DeviceConfig.samplePlatform).run ⟨.erased, .clear⟩ es).flash :=
  fun h ↦ not_backed_of_cancel rfl storedMetadata_erased rfl (h [.call .cancel []])

end EdgeMonitor.Firmware
