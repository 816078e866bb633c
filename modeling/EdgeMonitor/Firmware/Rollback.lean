import EdgeMonitor.Firmware.MetadataSteps

/-!
# Rollback and the active configuration

Library `Firmware`. A rollback gives up the pending candidate; the active configuration
should then be the one from before the candidate was staged. Activation commits the active
slot before the metadata, so an activation cut between the two leaves a pending candidate
behind a replaced active slot. Apart from a rollback in that state the active slot is kept,
along every run with commits failing and power lost anywhere.
-/

namespace EdgeMonitor.Firmware
open EdgeMonitor.Base

/-- Some write changed the active configuration. -/
def StoreOutput.touchedActive (o : StoreOutput) : Bool := o.writes.any (·.touchesActive)

/-- What a run remembers of the last staging: the active slot at that moment, and whether
an interrupted activation has since put something else there. -/
structure StagingHistory where
  stagedActive : Option (List UInt8)
  replaced : Bool

/-- The history after one more event. An activation that commits the active slot and not
the metadata is interrupted. -/
def StagingHistory.advance (h : StagingHistory) (e : StoreEvent) (r : Store × StoreOutput) :
    StagingHistory :=
  match e with
  | .call (.stage _) _ => if r.2.touchedMetadata then ⟨r.1.flash.active, false⟩ else h
  | .call (.activate _) _ =>
    if r.2.touchedActive then
      { h with replaced := !r.2.touchedMetadata && r.1.flash.active != h.stagedActive }
    else h
  | _ => h

/-- The store with its staging history. -/
def stagingHistory (platform : Platform) :
    Machine (Store × StagingHistory) StoreEvent StoreOutput :=
  (configStore platform).observed fun h _ e r ↦ h.advance e r

/-- The metadata passes from pending to rollback. -/
def PassesToRollback (flash flash' : Flash) : Prop :=
  (∃ m, storedMetadata flash = some m ∧ m.state = ConfigState.pending) ∧
    ∃ m, storedMetadata flash' = some m ∧ m.state = ConfigState.rollback

/-- Each write of an event that passes the metadata from pending to rollback finds the
active slot as it was when the candidate was staged. -/
def KeepsActive (platform : Platform) (x : Store × StagingHistory) (e : StoreEvent) : Prop :=
  ∀ t ∈ Program.trail NvsWrite.apply x.1.flash ((configStore platform).step x.1 e).2.writes,
    PassesToRollback t.1 t.2.2 → t.2.2.active = x.2.stagedActive

/-- The event is a rollback of the pending candidate: an explicit one, or a load that does
not boot it. -/
def RollbackDue (platform : Platform) (flash : Flash) (e : StoreEvent) : Prop :=
  ∃ m, storedMetadata flash = some m ∧ m.state = ConfigState.pending ∧
    match e with
    | .call (.rollback _) _ => True
    | .call .load _ => bootRefusal platform m flash ≠ none
    | _ => False

/-- No rollback is due while an interrupted activation has replaced the active slot. -/
def NoRollbackOfCutActivation (platform : Platform) (x : Store × StagingHistory)
    (e : StoreEvent) : Prop :=
  RollbackDue platform x.1.flash e → x.2.replaced = false

/-- While a candidate is pending the active slot is as it was at staging, unless an
interrupted activation replaced it. -/
def ActiveAsStaged (x : Store × StagingHistory) : Prop :=
  ∀ m, storedMetadata x.1.flash = some m → m.state = ConfigState.pending →
    x.2.replaced = false → x.1.flash.active = x.2.stagedActive

/-! ### One event -/

/-- An event that does not touch the active slot keeps it. -/
private theorem active_step {platform : Platform} {s : Store} {e : StoreEvent}
    (h : ((configStore platform).step s e).2.touchedActive = false) :
    ((configStore platform).step s e).1.flash.active = s.flash.active := by
  rw [flash_step]
  refine (active_of_not_touches (fun w hw ↦ ?_) s.flash).1
  simp only [StoreOutput.touchedActive, List.any_eq_false] at h
  simpa using h w hw

/-- Events other than activations and erases do not touch the active slot. -/
private theorem not_touchesActive {platform : Platform} {s : Store} {e : StoreEvent}
    (ha : ∀ c faults, e ≠ .call (.activate c) faults)
    (hr : ∀ faults, e ≠ .call .factoryReset faults ∧ e ≠ .call .recover faults) :
    ∀ w ∈ ((configStore platform).step s e).2.writes, w.touchesActive = false := by
  intro w hw
  cases ht : w.touchesActive with
  | false => rfl
  | true =>
    rcases touchesActive_of_mem_writes hw ht with ⟨c, f, he⟩ | ⟨-, f, he | he⟩
    · exact absurd he (ha c f)
    · exact absurd he (hr f).1
    · exact absurd he (hr f).2

/-- An event other than an activation that writes no metadata keeps the active slot. -/
private theorem active_step_of_not_touchedMetadata {platform : Platform} {s : Store}
    {e : StoreEvent} (ha : ∀ c faults, e ≠ .call (.activate c) faults)
    (hm : ((configStore platform).step s e).2.touchedMetadata = false) :
    ((configStore platform).step s e).1.flash.active = s.flash.active := by
  rw [flash_step]
  refine (active_of_not_touches (fun w hw ↦ ?_) s.flash).1
  cases ht : w.touchesActive with
  | false => rfl
  | true =>
    rcases touchesActive_of_mem_writes hw ht with ⟨c, f, he⟩ | ⟨rfl, -⟩
    · exact absurd he (ha c f)
    · simp only [StoreOutput.touchedMetadata, List.any_eq_false] at hm
      exact absurd rfl (hm _ hw)

/-- One event keeps the active slot of a pending candidate as it was at staging. -/
theorem activeAsStaged_step {platform : Platform} (x : Store × StagingHistory) (e : StoreEvent)
    (hx : ActiveAsStaged x) : ActiveAsStaged ((stagingHistory platform).step x e).1 := by
  obtain ⟨s, h⟩ := x
  intro m hm hp hn
  have hstep := metadata_step platform s e
  unfold ChangesMetadata at hstep
  change storedMetadata ((configStore platform).step s e).1.flash = some m at hm
  change (h.advance e ((configStore platform).step s e)).replaced = false at hn
  change ((configStore platform).step s e).1.flash.active =
    (h.advance e ((configStore platform).step s e)).stagedActive
  rw [hm] at hstep
  generalize hs : storedMetadata s.flash = stored at hstep
  generalize ht : ((configStore platform).step s e).2.touchedMetadata = touched at hstep
  generalize ((configStore platform).step s e).2.bootedCandidate = booted at hstep
  have kept (ha : ((configStore platform).step s e).1.flash.active = s.flash.active)
      {m' : DeviceConfigMetadata} (hs : storedMetadata s.flash = some m')
      (hp : m'.state = ConfigState.pending)
      (hh : h.advance e ((configStore platform).step s e) = h) :
      ((configStore platform).step s e).1.flash.active =
        (h.advance e ((configStore platform).step s e)).stagedActive := by
    rw [hh] at hn ⊢
    exact ha.trans (hx m' hs hp hn)
  cases hstep with
  | same =>
    cases e with
    | powerCut => exact kept rfl hs hp rfl
    | call op faults =>
      have keep (ha : ∀ c faults', StoreEvent.call op faults ≠ .call (.activate c) faults') :=
        kept (active_step_of_not_touchedMetadata ha ht) hs hp
      cases op with
      | stage c => exact keep nofun (by simp [StagingHistory.advance, ht])
      | load => exact keep nofun rfl
      | rollback reason => exact keep nofun rfl
      | cancel => exact keep nofun rfl
      | factoryReset => exact keep nofun rfl
      | recover => exact keep nofun rfl
      | activate c =>
        -- An activation that wrote no metadata was cut, or did not write the active slot.
        cases hta : ((configStore platform).step s (.call (.activate c) faults)).2.touchedActive
          with
        | true =>
          simp only [StagingHistory.advance, hta, ht] at hn ⊢
          simpa using hn
        | false => exact kept (active_step hta) hs hp (by simp [StagingHistory.advance, hta])
  | staged m' c faults => simp [StagingHistory.advance, ht]
  | booted m' faults =>
    refine kept ?_ hs hp rfl
    rw [flash_step]
    exact (active_of_not_touches (not_touchesActive (by simp) (by simp)) s.flash).1
  | attempted m' faults _ hp' _ =>
    refine kept ?_ hs hp' rfl
    rw [flash_step]
    exact (active_of_not_touches (not_touchesActive (by simp) (by simp)) s.flash).1
  | refused => cases hp
  | rolledBack => cases hp
  | activated => cases hp
  | cancelled => cases hp
  | reset => cases hp
  | recovered => cases hp

/-! ### Where metadata passes to rollback -/

/-- Writes that never pass the metadata from pending to rollback. -/
private inductive Quiet : NvsWrite → Prop
  | elsewhere {w : NvsWrite} (h : ∀ flash, storedMetadata (w.apply flash) = storedMetadata flash) :
    Quiet w
  | record {m : DeviceConfigMetadata} (hs : ConfigStorage.DeviceConfigMetadata.Storable m)
    (hm : m.state ≠ ConfigState.rollback) : Quiet (.metadata m)
  | eraseAll : Quiet .eraseAll

private theorem not_passes_of_stored {flash flash' : Flash} {m : DeviceConfigMetadata}
    (h : storedMetadata flash' = some m) (hm : m.state ≠ ConfigState.rollback) :
    ¬ PassesToRollback flash flash' := by
  rintro ⟨-, m', hm', hr⟩
  rw [h] at hm'
  obtain rfl := Option.some.inj hm'
  exact hm hr

/-- Metadata that is not pending does not pass from pending. -/
private theorem not_passes_of_not_pending {flash flash' : Flash} {m : DeviceConfigMetadata}
    (h : storedMetadata flash = some m) (hm : m.state ≠ ConfigState.pending) :
    ¬ PassesToRollback flash flash' := by
  rintro ⟨⟨m', hm', hp⟩, -⟩
  rw [h] at hm'
  obtain rfl := Option.some.inj hm'
  exact hm hp

private theorem Quiet.not_passes {w : NvsWrite} (h : Quiet w) (flash : Flash) :
    ¬ PassesToRollback flash (w.apply flash) := by
  cases h with
  | elsewhere h =>
    rintro ⟨⟨m, hm, hp⟩, m', hm', hr⟩
    rw [h, hm] at hm'
    obtain rfl := Option.some.inj hm'
    rw [hp] at hr
    exact absurd hr (by decide)
  | record hs hm => exact not_passes_of_stored (storedMetadata_write hs flash) hm
  | eraseAll => exact not_passes_of_stored (storedMetadata_eraseAll flash) (by decide)

private theorem not_passes_of_quiet {ws : List NvsWrite} (h : ∀ w ∈ ws, Quiet w) {flash : Flash}
    {t : Flash × NvsWrite × Flash} (ht : t ∈ Program.trail NvsWrite.apply flash ws) :
    ¬ PassesToRollback t.1 t.2.2 := by
  obtain ⟨hw, ha⟩ := Program.mem_trail NvsWrite.apply ht
  rw [ha]
  exact (h _ hw).not_passes t.1

private theorem quiet_candidate (c : DeviceConfig) : Quiet (.configuration .candidate c) :=
  .elsewhere fun _ ↦ storedMetadata_congr rfl

private theorem quiet_active (c : DeviceConfig) : Quiet (.configuration .active c) :=
  .elsewhere fun _ ↦ storedMetadata_congr rfl

private theorem quiet_eraseCandidate : Quiet (.eraseKey .candidate) :=
  .elsewhere fun _ ↦ storedMetadata_congr rfl

private theorem quiet_settled {m : DeviceConfigMetadata} {flash : Flash}
    (hm : storedMetadata flash = some m) : Quiet (.metadata m.settled) :=
  .record (storable_settled (storable_of_storedMetadata hm))
    (by rw [DeviceConfigMetadata.settled_state]; decide)

section Calls

variable {platform : Platform} {s : Store} {o : Outcome NvsWrite Flash Ram Reply}

private theorem stage_quiet {c : DeviceConfig}
    (h : Program.Reached NvsWrite.apply ((Operation.stage c).plan platform s.flash s.ram).last
      s.flash ((Operation.stage c).plan platform s.flash s.ram).steps o) :
    ∀ w ∈ o.writes, Quiet w := by
  rcases stage_cases h with ⟨hw, -⟩ | ⟨-, -, ⟨hw, -⟩ | ⟨m, hm, hw, -⟩⟩ <;> rw [hw]
  · exact nofun
  · simp [quiet_candidate]
  · have hp : Quiet (.metadata (m.pendingFor c.revision)) :=
      .record (storable_pendingFor (storable_of_storedMetadata hm) _)
        (by rw [DeviceConfigMetadata.pendingFor_state]; decide)
    simp [quiet_candidate, hp]

private theorem activate_quiet {c : DeviceConfig}
    (h : Program.Reached NvsWrite.apply ((Operation.activate c).plan platform s.flash s.ram).last
      s.flash ((Operation.activate c).plan platform s.flash s.ram).steps o) :
    ∀ w ∈ o.writes, Quiet w := by
  rcases activate_cases h with ⟨hw, -⟩ | ⟨candidate, m, ha, ⟨hw, -⟩ | ⟨hw, -⟩ | hw⟩ <;> rw [hw]
  · exact nofun
  · simp [quiet_active]
  · simp [quiet_active, quiet_settled ha.metadata]
  · simp [quiet_active, quiet_settled ha.metadata, quiet_eraseCandidate]

private theorem cancel_quiet
    (h : Program.Reached NvsWrite.apply (Operation.cancel.plan platform s.flash s.ram).last
      s.flash (Operation.cancel.plan platform s.flash s.ram).steps o) :
    ∀ w ∈ o.writes, Quiet w := by
  rcases cancel_cases h with hw | ⟨m, hm, -, hw | hw⟩ <;> rw [hw]
  · exact nofun
  · simp [quiet_settled hm]
  · simp [quiet_settled hm, quiet_eraseCandidate]

private theorem load_due (h : Program.Reached NvsWrite.apply (loadPlan platform s.flash).last
      s.flash (loadPlan platform s.flash).steps o) {t : Flash × NvsWrite × Flash}
    (ht : t ∈ Program.trail NvsWrite.apply s.flash o.writes) (hr : PassesToRollback t.1 t.2.2) :
    ∃ m, storedMetadata s.flash = some m ∧ m.state = ConfigState.pending ∧
      bootRefusal platform m s.flash ≠ none := by
  rcases load_cases h with ⟨hw, -⟩ | ⟨m, hm, ⟨hw, -⟩ | ⟨hp, ⟨-, hw, -⟩ | ⟨reason, hb, -⟩⟩⟩
  · rw [hw] at ht
    cases ht
  · rw [hw] at ht
    obtain rfl := List.mem_singleton.mp ht
    by_cases hs : m.state = ConfigState.pending
    · refine absurd hr (not_passes_of_stored (storedMetadata_write
        (storable_booted (storable_of_storedMetadata hm)) _) ?_)
      rw [DeviceConfigMetadata.booted_state, hs]
      decide
    · exact absurd hr (not_passes_of_not_pending hm hs)
  · have hs := storable_booted (storable_of_storedMetadata hm)
    have hn : m.state ≠ ConfigState.rollback := by rw [hp]; decide
    have h₁ : Quiet (.metadata m.booted) := .record hs hn
    have h₂ : Quiet (.metadata m.booted.attempted) := .record (storable_attempted hs) hn
    rw [hw] at ht
    exact absurd hr (not_passes_of_quiet (by simp [h₁, h₂]) ht)
  · exact ⟨m, hm, hp, by rw [show bootRefusal platform m s.flash = some reason from hb]; nofun⟩

private theorem rollback_due {reason : Option (List UInt8)}
    (h : Program.Reached NvsWrite.apply
      ((Operation.rollback reason).plan platform s.flash s.ram).last s.flash
      ((Operation.rollback reason).plan platform s.flash s.ram).steps o)
    {t : Flash × NvsWrite × Flash}
    (ht : t ∈ Program.trail NvsWrite.apply s.flash o.writes) (hr : PassesToRollback t.1 t.2.2) :
    ∃ m, storedMetadata s.flash = some m ∧ m.state = ConfigState.pending := by
  rcases rollback_cases h with hw | ⟨m, text, -, hw | hw⟩
  · rw [hw] at ht
    cases ht
  · rw [hw] at ht
    obtain rfl := List.mem_singleton.mp ht
    exact hr.1
  · rw [hw] at ht
    rcases List.mem_cons.mp ht with rfl | ht
    · exact hr.1
    · obtain rfl := List.mem_singleton.mp ht
      exact absurd hr (quiet_eraseCandidate.not_passes _)

end Calls

/-- An event whose writes pass the metadata from pending to rollback is a rollback that was
due, and it leaves the active slot alone. -/
theorem passes_to_rollback {platform : Platform} {s : Store} {e : StoreEvent}
    {t : Flash × NvsWrite × Flash}
    (ht : t ∈ Program.trail NvsWrite.apply s.flash ((configStore platform).step s e).2.writes)
    (hr : PassesToRollback t.1 t.2.2) :
    RollbackDue platform s.flash e ∧ t.2.2.active = s.flash.active := by
  cases e with
  | powerCut => cases ht
  | call op faults =>
    have h := reached_call platform op s faults
    cases op with
    | stage c => exact absurd hr (not_passes_of_quiet (stage_quiet h) ht)
    | activate c => exact absurd hr (not_passes_of_quiet (activate_quiet h) ht)
    | cancel => exact absurd hr (not_passes_of_quiet (cancel_quiet h) ht)
    | load =>
      obtain ⟨m, hm, hp, hb⟩ := load_due h ht hr
      exact ⟨⟨m, hm, hp, hb⟩,
        (active_of_not_touches (not_touchesActive (by simp) (by simp)) s.flash).2 t ht⟩
    | rollback reason =>
      obtain ⟨m, hm, hp⟩ := rollback_due h ht hr
      exact ⟨⟨m, hm, hp, trivial⟩,
        (active_of_not_touches (not_touchesActive (by simp) (by simp)) s.flash).2 t ht⟩
    | factoryReset =>
      refine absurd hr (not_passes_of_quiet (fun w hw ↦ ?_) ht)
      rcases erase_cases rfl h with ho | ho <;>
        simp [configStore, Store.after, ho] at hw
      exact hw ▸ .eraseAll
    | recover =>
      refine absurd hr (not_passes_of_quiet (fun w hw ↦ ?_) ht)
      rcases erase_cases rfl h with ho | ho <;>
        simp [configStore, Store.after, ho] at hw
      exact hw ▸ .eraseAll

/-! ### Rollback keeps the active configuration -/

/-- A step of a run whose active slot is as staged keeps it through a rollback, provided no
interrupted activation replaced it. -/
theorem keepsActive_step {platform : Platform} {x : Store × StagingHistory} {e : StoreEvent}
    (hx : ActiveAsStaged x) (hc : NoRollbackOfCutActivation platform x e) :
    KeepsActive platform x e := by
  intro t ht hr
  obtain ⟨hd, ha⟩ := passes_to_rollback ht hr
  obtain ⟨m, hm, hp, -⟩ := id hd
  exact ha.trans (hx m hm hp (hc hd))

/-- In every run in which no rollback is due while an interrupted activation has replaced
the active slot, each passage of the metadata from pending to rollback finds the active slot
exactly as it was when the candidate was staged. -/
theorem rollback_keeps_active (platform : Platform) (s : Store) (es : List StoreEvent)
    (h : (stagingHistory platform).Along (NoRollbackOfCutActivation platform)
      (s, ⟨s.flash.active, false⟩) es) :
    (stagingHistory platform).Along (KeepsActive platform) (s, ⟨s.flash.active, false⟩) es :=
  (stagingHistory platform).along_of_invariant
    (fun x e hx _ ↦ activeAsStaged_step x e hx) (fun _ _ ↦ keepsActive_step)
    (fun _ _ _ _ ↦ rfl) h

private theorem noRollbackOfCut_stage_rollback (platform : Platform) (c : DeviceConfig) :
    (stagingHistory platform).Along (NoRollbackOfCutActivation platform)
      (⟨.erased, .clear⟩, ⟨none, false⟩) [.call (.stage c) [], .call (.rollback none) []] := by
  refine ⟨fun _ ↦ rfl, fun _ ↦ ?_, trivial⟩
  change (StagingHistory.advance _ (.call (.stage c) []) _).replaced = false
  unfold StagingHistory.advance
  dsimp only
  split <;> rfl

/-- A candidate staged on an erased device and rolled back leaves the active slot empty. -/
theorem rollback_keeps_active_sample :
    (stagingHistory DeviceConfig.samplePlatform).Along (KeepsActive DeviceConfig.samplePlatform)
      (⟨.erased, .clear⟩, ⟨none, false⟩)
      [.call (.stage (DeviceConfig.sample 1)) [], .call (.rollback none) []] :=
  rollback_keeps_active DeviceConfig.samplePlatform ⟨.erased, .clear⟩ _
    (noRollbackOfCut_stage_rollback _ _)

/-! ### A rollback after a cut activation -/

/-- The events of a candidate that is staged, booted twice, and whose activation loses power
between the active and the metadata commit, before the next boot. -/
def cutActivation (c : DeviceConfig) : List StoreEvent :=
  [.call (.stage c) [], .call .load [], .powerCut, .call .load [],
    .call (.activate c) [.applied, .lostBefore]]

/-- After these events the candidate is pending at the limit behind a replaced active slot. -/
private theorem run_cutActivation {platform : Platform} {c : DeviceConfig}
    (hv : c.validate platform = .ok) (hl : platform.candidateMaxAttempts = 2) :
    let s := (configStore platform).run ⟨.erased, .clear⟩ (cutActivation c)
    (∃ m, PendingCandidate platform s.flash c m ∧ m.bootAttempts = 2) ∧
      s.flash.active = some (ConfigStorage.configurationBlob c) := by
  let s₁ := ((configStore platform).step ⟨.erased, .clear⟩ (.call (.stage c) [])).1
  let s₂ := ((configStore platform).step s₁ (.call .load [])).1
  let s₃ := ((configStore platform).step s₂ .powerCut).1
  let s₄ := ((configStore platform).step s₃ (.call .load [])).1
  let s₅ := ((configStore platform).step s₄ (.call (.activate c) [.applied, .lostBefore])).1
  let m := DeviceConfigMetadata.zero.pendingFor c.revision
  have h₁ : PendingCandidate platform s₁.flash c m :=
    pendingCandidate_stage hv rfl storedMetadata_erased
  have l₁ : (0 : UInt32) < platform.candidateMaxAttempts := by rw [hl]; decide
  have h₂ : PendingCandidate platform s₂.flash c m.booted.attempted :=
    (pendingCandidate_load h₁ l₁).1
  have h₃ : PendingCandidate platform s₃.flash c m.booted.attempted :=
    pendingCandidate_powerCut h₂
  have l₂ : (0 + 1 : UInt32) < platform.candidateMaxAttempts := by rw [hl]; decide
  obtain ⟨h₄, r₄⟩ := pendingCandidate_load h₃ l₂
  have e₅ : (configStore platform).step s₄ _ = _ := step_activate_cut h₄ r₄
  change (∃ m, PendingCandidate platform s₅.flash c m ∧ _) ∧ s₅.flash.active = _
  have e₅ : s₅.flash = (NvsWrite.configuration .active c).apply s₄.flash :=
    congrArg (fun r ↦ r.1.flash) e₅
  rw [e₅]
  exact ⟨⟨_, h₄.activeReplaced c, (by decide : (0 + 1 + 1 : UInt32) = 2)⟩, rfl⟩

/-- Only staging changes what the history holds of the active slot. -/
private theorem stagedActive_run {platform : Platform} (x : Store × StagingHistory)
    {es : List StoreEvent} (he : ∀ e ∈ es, ∀ c faults, e ≠ .call (.stage c) faults) :
    ((stagingHistory platform).run x es).2.stagedActive = x.2.stagedActive := by
  induction es generalizing x with
  | nil => rfl
  | cons e es ih =>
    have hs : ((stagingHistory platform).step x e).1.2.stagedActive = x.2.stagedActive := by
      change (x.2.advance e _).stagedActive = _
      unfold StagingHistory.advance
      split
      · exact absurd rfl (he _ List.mem_cons_self _ _)
      · split <;> rfl
      · rfl
    exact (ih _ fun e' h' ↦ he e' (List.mem_cons_of_mem e h')).trans hs

/-- The staging of these events found the active slot empty. -/
private theorem stagedActive_cutActivation {platform : Platform} {c : DeviceConfig}
    (hv : c.validate platform = .ok) :
    ((stagingHistory platform).run (⟨.erased, .clear⟩, ⟨none, false⟩)
      (cutActivation c)).2.stagedActive = none := by
  have hs : ((stagingHistory platform).step (⟨.erased, .clear⟩, ⟨none, false⟩)
      (.call (.stage c) [])).1.2.stagedActive = none := by
    change (StagingHistory.advance _ _ ((configStore platform).step _ _)).stagedActive = none
    rw [step_stage hv rfl storedMetadata_erased]
    simp [StagingHistory.advance, StoreOutput.touchedMetadata, Flash.erased]
  rw [cutActivation, Machine.run_cons, stagedActive_run _ (by simp)]
  exact hs

private theorem cutActivation_fails {platform : Platform} {c : DeviceConfig}
    (hv : c.validate platform = .ok) (hl : platform.candidateMaxAttempts = 2) :
    ¬ (stagingHistory platform).Along (KeepsActive platform)
      (⟨.erased, .clear⟩, ⟨none, false⟩) (cutActivation c ++ [.call .load []]) := by
  intro h
  have hk := Machine.along_last _ h
  obtain ⟨⟨m, hc, ha⟩, hactive⟩ := run_cutActivation hv hl
  have hstaged := @stagedActive_cutActivation platform c hv
  have hrun : ((stagingHistory platform).run (⟨.erased, .clear⟩, ⟨none, false⟩)
      (cutActivation c)).1 = (configStore platform).run ⟨.erased, .clear⟩ (cutActivation c) :=
    Machine.run_observed _ _ _ _ _
  rw [← hrun] at hc hactive
  generalize (stagingHistory platform).run _ (cutActivation c) = x at hk hc hactive hstaged
  unfold KeepsActive at hk
  rw [step_load_limit hc.metadata hc.pending (by rw [ha, hl]; decide)] at hk
  have hs := storable_booted (storable_of_storedMetadata hc.metadata)
  have hp := hk (_, _, _) (List.mem_cons_of_mem _ List.mem_cons_self)
    ⟨⟨m.booted, storedMetadata_write hs _, hc.pending⟩, m.booted.rolledBack attemptLimitReason,
      storedMetadata_write (storable_rolledBack hs _) _, rfl⟩
  rw [hstaged] at hp
  change x.1.flash.active = none at hp
  rw [hactive] at hp
  cases hp

/-- On a device with two attempts the load after a cut activation at the limit rolls back
with the candidate in the active slot, which was empty at staging. -/
theorem rollback_keeps_active_fails :
    ¬ (stagingHistory DeviceConfig.samplePlatform).Along (KeepsActive DeviceConfig.samplePlatform)
      (⟨.erased, .clear⟩, ⟨none, false⟩)
      (cutActivation (DeviceConfig.sample 1) ++ [.call .load []]) :=
  cutActivation_fails (by decide +kernel) rfl

end EdgeMonitor.Firmware
