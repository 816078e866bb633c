import EdgeMonitor.Firmware.MetadataSteps

/-!
# The candidate boot limit

Library `Firmware`. Along every run of the configuration store, with any commit failing
or any loss of power, a staged candidate is booted at most
`CONFIG_PROVISIONING_CANDIDATE_MAX_ATTEMPTS` times. The argument is an invariant that ties
the persisted attempt counter to the number of candidate boots since staging.
-/

namespace EdgeMonitor.Firmware
open EdgeMonitor.Base

/-! ### Candidate boots since staging -/

/-- What a run has seen since metadata last became pending by a staging: the number of
loads that returned the candidate, and whether an activation, a cancellation or an erase
has ended the pending state. -/
structure BootHistory where
  candidateBoots : Nat
  ended : Bool

/-- The history after one more event, by whether a metadata write took effect and whether
a load returned the candidate. -/
def BootHistory.advance (h : BootHistory) (e : StoreEvent) (touched booted : Bool) :
    BootHistory :=
  match e with
  | .call (.stage _) _ => if touched then ⟨0, false⟩ else h
  | .call .load _ => if booted then { h with candidateBoots := h.candidateBoots + 1 } else h
  | .call (.rollback _) _ | .powerCut => h
  | .call _ _ => if touched then { h with ended := true } else h

/-- The store with its boot history. -/
def bootHistory (platform : Platform) : Machine (Store × BootHistory) StoreEvent StoreOutput :=
  (configStore platform).observed fun h _ e r ↦
    h.advance e r.2.touchedMetadata r.2.bootedCandidate

/-- The persisted counter covers the candidate boots since staging, which stay within the
limit; a booted candidate whose pending state has not ended is pending or rolled back. -/
structure AttemptsCounted (platform : Platform) (stored : Option DeviceConfigMetadata)
    (h : BootHistory) : Prop where
  bounded : h.candidateBoots ≤ platform.candidateMaxAttempts.toNat
  counted : ∀ m, stored = some m → m.state = ConfigState.pending →
    h.candidateBoots ≤ m.bootAttempts.toNat
  lasting : 0 < h.candidateBoots → h.ended = false →
    ∃ m, stored = some m ∧ (m.state = ConfigState.pending ∨ m.state = ConfigState.rollback)

/-- Below the limit the attempt counter does not wrap. -/
theorem attempted_toNat {platform : Platform} {m : DeviceConfigMetadata}
    (h : m.bootAttempts < platform.candidateMaxAttempts) :
    m.attempted.bootAttempts.toNat = m.bootAttempts.toNat + 1 := by
  have hl : m.bootAttempts.toNat < platform.candidateMaxAttempts.toNat := h
  have hm : platform.candidateMaxAttempts.toNat ≤ 3 := platform.maxAttempts_le_three
  rw [DeviceConfigMetadata.attempted_bootAttempts, UInt32.toNat_add]
  change (m.bootAttempts.toNat + 1) % 2 ^ 32 = _
  omega

private theorem not_pending (state : ConfigState) (h : state ≠ ConfigState.pending)
    {m m' : DeviceConfigMetadata} (hm : some m' = some m) (hs : m'.state = state) :
    m.state ≠ ConfigState.pending := by
  obtain rfl := Option.some.inj hm
  rwa [hs]

/-- One event keeps the count. -/
theorem attemptsCounted_step {platform : Platform} {stored stored' : Option DeviceConfigMetadata}
    {e : StoreEvent} {touched booted : Bool} {h : BootHistory}
    (hstep : MetadataStep platform stored e stored' touched booted)
    (hc : AttemptsCounted platform stored h) :
    AttemptsCounted platform stored' (h.advance e touched booted) := by
  cases hstep with
  | same =>
    have : h.advance e false false = h := by unfold BootHistory.advance; split <;> rfl
    rw [this]
    exact hc
  | staged m c faults =>
    exact ⟨Nat.zero_le _, fun _ _ _ ↦ Nat.zero_le _, fun h0 ↦ absurd h0 (Nat.lt_irrefl 0)⟩
  | booted m faults =>
    refine ⟨hc.bounded, fun m' hm hp ↦ ?_, fun h0 he ↦ ?_⟩
    · obtain rfl := Option.some.inj hm
      exact hc.counted m rfl hp
    · obtain ⟨m', hm, hs⟩ := hc.lasting h0 he
      obtain rfl := Option.some.inj hm
      exact ⟨_, rfl, hs⟩
  | refused m faults reason hp =>
    refine ⟨hc.bounded, fun m' hm hp' ↦ ?_, fun _ _ ↦ ⟨_, rfl, .inr rfl⟩⟩
    exact absurd hp' (not_pending ConfigState.rollback (by decide) hm rfl)
  | attempted m faults _ hp hl =>
    have hn := attempted_toNat hl
    have hcount := hc.counted m rfl hp
    have hlt : m.bootAttempts.toNat < platform.candidateMaxAttempts.toNat := hl
    cases booted with
    | false =>
      refine ⟨hc.bounded, fun m' hm _ ↦ ?_, fun _ _ ↦ ⟨_, rfl, .inl hp⟩⟩
      obtain rfl := Option.some.inj hm
      change h.candidateBoots ≤ m.attempted.bootAttempts.toNat
      omega
    | true =>
      refine ⟨?_, fun m' hm _ ↦ ?_, fun _ _ ↦ ⟨_, rfl, .inl hp⟩⟩
      · change h.candidateBoots + 1 ≤ _
        omega
      · obtain rfl := Option.some.inj hm
        change h.candidateBoots + 1 ≤ m.attempted.bootAttempts.toNat
        omega
  | rolledBack m reason faults text =>
    refine ⟨hc.bounded, fun m' hm hp ↦ ?_, fun _ _ ↦ ⟨_, rfl, .inr rfl⟩⟩
    exact absurd hp (not_pending ConfigState.rollback (by decide) hm rfl)
  | activated m c faults =>
    exact ⟨hc.bounded, fun _ hm hp ↦
      absurd hp (not_pending ConfigState.active (by decide) hm rfl), nofun⟩
  | cancelled m faults =>
    exact ⟨hc.bounded, fun _ hm hp ↦
      absurd hp (not_pending ConfigState.active (by decide) hm rfl), nofun⟩
  | reset _ faults =>
    exact ⟨hc.bounded, fun _ hm hp ↦
      absurd hp (not_pending ConfigState.none (by decide) hm rfl), nofun⟩
  | recovered _ faults =>
    exact ⟨hc.bounded, fun _ hm hp ↦
      absurd hp (not_pending ConfigState.none (by decide) hm rfl), nofun⟩

/-- Every run from any store keeps the count. -/
theorem attemptsCounted_run (platform : Platform) (s : Store) (es : List StoreEvent) :
    let x := (bootHistory platform).run (s, ⟨0, false⟩) es
    AttemptsCounted platform (storedMetadata x.1.flash) x.2 := by
  have hstep (y : Store × BootHistory) (e : StoreEvent)
      (hy : AttemptsCounted platform (storedMetadata y.1.flash) y.2) :
      AttemptsCounted platform (storedMetadata ((bootHistory platform).step y e).1.1.flash)
        ((bootHistory platform).step y e).1.2 :=
    attemptsCounted_step (metadata_step platform y.1 e) hy
  refine (bootHistory platform).invariant hstep ?_ es
  exact ⟨Nat.zero_le _, fun _ _ _ ↦ Nat.zero_le _, fun h ↦ absurd h (Nat.lt_irrefl 0)⟩

/-! ### No candidate reboot loop -/

/-- A load that returns the candidate has recorded the attempt. -/
theorem booted_candidate_recorded {platform : Platform} {s : Store}
    {faults : List (Fault Failure)}
    (h : ((configStore platform).step s (.call .load faults)).2.bootedCandidate = true) :
    ∃ m, storedMetadata s.flash = some m ∧ m.state = ConfigState.pending ∧
      m.bootAttempts < platform.candidateMaxAttempts ∧
      storedMetadata ((configStore platform).step s (.call .load faults)).1.flash =
        some m.booted.attempted := by
  have hstep := metadata_step platform s (.call .load faults)
  unfold ChangesMetadata at hstep
  rw [h] at hstep
  generalize storedMetadata s.flash = stored at hstep ⊢
  generalize storedMetadata ((configStore platform).step s _).1.flash = stored' at hstep ⊢
  generalize StoreOutput.touchedMetadata _ = touched at hstep
  cases hstep with
  | attempted m faults b hp hl => exact ⟨m, rfl, hp, hl, rfl⟩

/-- At the attempt limit a load whose commits all succeed ends the pending state. -/
theorem load_at_limit {platform : Platform} {s : Store} {faults : List (Fault Failure)}
    {m : DeviceConfigMetadata} (hf : ∀ f ∈ faults, f = .applied)
    (hm : storedMetadata s.flash = some m)
    (hs : (m.state = ConfigState.pending ∧ platform.candidateMaxAttempts ≤ m.bootAttempts) ∨
      m.state = ConfigState.rollback) :
    ∃ m', storedMetadata ((configStore platform).step s (.call .load faults)).1.flash =
      some m' ∧ m'.state = ConfigState.rollback := by
  have hb := storable_booted (storable_of_storedMetadata hm)
  rw [call_of_applied platform .load s faults hf]
  change ∃ m', storedMetadata (Program.applyAll NvsWrite.apply s.flash
    ((loadPlan platform s.flash).steps.map (·.1))) = some m' ∧ _
  unfold loadPlan
  rw [hm]
  dsimp only
  rcases hs with ⟨hp, hl⟩ | hr
  · have hl' : bootRefusal platform m.booted s.flash = some attemptLimitReason := if_pos hl
    rw [if_pos (show m.booted.state = _ from hp), hl']
    refine ⟨m.booted.rolledBack attemptLimitReason, ?_, rfl⟩
    simp [rollbackSteps, storedMetadata_write (storable_rolledBack hb _)]
  · rw [if_neg (by rw [DeviceConfigMetadata.booted_state, hr]; decide)]
    exact ⟨m.booted, storedMetadata_write hb _, hr⟩

/-- Along every run, with commits failing and power lost anywhere: since the last staging
at most the configured number of loads returned the candidate, each after durably counting
its attempt; once that many have, a load whose commits succeed returns the active
configuration, and leaves the metadata rolled back unless the pending state had ended. -/
theorem no_candidate_reboot_loop (platform : Platform) (s : Store) (es : List StoreEvent) :
    let x := (bootHistory platform).run (s, ⟨0, false⟩) es
    x.2.candidateBoots ≤ platform.candidateMaxAttempts.toNat ∧
    (∀ faults, let r := (configStore platform).step x.1 (.call .load faults)
      r.2.bootedCandidate = true →
        ∃ m m', storedMetadata x.1.flash = some m ∧ m.state = ConfigState.pending ∧
          storedMetadata r.1.flash = some m' ∧
          m'.bootAttempts.toNat = m.bootAttempts.toNat + 1) ∧
    (x.2.candidateBoots = platform.candidateMaxAttempts.toNat →
      ∀ faults, (∀ f ∈ faults, f = .applied) →
        let r := (configStore platform).step x.1 (.call .load faults)
        r.2.reply.isSome ∧ r.2.bootedCandidate = false ∧
          (x.2.ended = false →
            ∃ m, storedMetadata r.1.flash = some m ∧ m.state = ConfigState.rollback)) := by
  intro x
  have hx := attemptsCounted_run platform s es
  refine ⟨hx.bounded, ?_, ?_⟩
  · intro faults r hr
    obtain ⟨m, hm, hp, hl, hm'⟩ := booted_candidate_recorded hr
    exact ⟨m, _, hm, hp, hm', attempted_toNat hl⟩
  intro hmax faults hf r
  refine ⟨?_, ?_, fun he ↦ ?_⟩
  · change ((configStore platform).step x.1 (.call .load faults)).2.reply.isSome
    rw [call_of_applied platform .load x.1 faults hf]
    rfl
  · cases hb : r.2.bootedCandidate with
    | false => rfl
    | true =>
      obtain ⟨m, hm, hp, hl, -⟩ := booted_candidate_recorded hb
      have hcount := hx.counted m hm hp
      have hl : m.bootAttempts.toNat < platform.candidateMaxAttempts.toNat := hl
      change x.2.candidateBoots ≤ _ at hcount
      omega
  · have hpos : 0 < x.2.candidateBoots := by
      have : 1 ≤ platform.candidateMaxAttempts.toNat := platform.one_le_maxAttempts
      omega
    obtain ⟨m, hm, hs⟩ := hx.lasting hpos he
    refine load_at_limit hf hm (hs.imp_left fun hp ↦ ⟨hp, ?_⟩)
    have hcount := hx.counted m hm hp
    change x.2.candidateBoots ≤ _ at hcount
    change platform.candidateMaxAttempts.toNat ≤ m.bootAttempts.toNat
    omega

/-- A staging that goes through starts a new count. -/
private theorem history_stage {platform : Platform} {x : Store × BootHistory}
    {c : DeviceConfig} {m : DeviceConfigMetadata} (hv : c.validate platform = .ok)
    (hp : x.1.ram.candidateValidationInProgress = false)
    (hm : storedMetadata x.1.flash = some m) :
    ((bootHistory platform).step x (.call (.stage c) [])).1.2 = ⟨0, false⟩ := by
  simp [bootHistory, Machine.observed, step_stage hv hp hm, BootHistory.advance,
    StoreOutput.touchedMetadata]

/-- A boot of the candidate is counted. -/
private theorem history_load {platform : Platform} {x : Store × BootHistory}
    {c : DeviceConfig} {m : DeviceConfigMetadata}
    (hc : PendingCandidate platform x.1.flash c m)
    (hl : m.bootAttempts < platform.candidateMaxAttempts) :
    ((bootHistory platform).step x (.call .load [])).1.2 =
      ⟨x.2.candidateBoots + 1, x.2.ended⟩ := by
  simp [bootHistory, Machine.observed, step_load_candidate hc hl, BootHistory.advance,
    StoreOutput.bootedCandidate]

/-- With a limit of two a candidate staged on an erased device is booted twice. -/
private theorem boots_twice {platform : Platform} {c : DeviceConfig}
    (hv : c.validate platform = .ok) (hl : platform.candidateMaxAttempts = 2) :
    ((bootHistory platform).run (⟨.erased, .clear⟩, ⟨0, false⟩)
      [.call (.stage c) [], .call .load [], .call .load []]).2.candidateBoots = 2 := by
  let x₀ : Store × BootHistory := (⟨.erased, .clear⟩, ⟨0, false⟩)
  let x₁ := ((bootHistory platform).step x₀ (.call (.stage c) [])).1
  let x₂ := ((bootHistory platform).step x₁ (.call .load [])).1
  have h₁ : PendingCandidate platform x₁.1.flash c
      (DeviceConfigMetadata.zero.pendingFor c.revision) :=
    pendingCandidate_stage hv rfl storedMetadata_erased
  have hl₁ : (0 : UInt32) < platform.candidateMaxAttempts := by rw [hl]; decide
  have h₂ : PendingCandidate platform x₂.1.flash c
      (DeviceConfigMetadata.zero.pendingFor c.revision).booted.attempted :=
    (pendingCandidate_load h₁ hl₁).1
  have hl₂ : (0 + 1 : UInt32) < platform.candidateMaxAttempts := by rw [hl]; decide
  have e₁ : x₁.2 = ⟨0, false⟩ := history_stage hv rfl storedMetadata_erased
  have e₂ : x₂.2 = ⟨x₁.2.candidateBoots + 1, x₁.2.ended⟩ := history_load h₁ hl₁
  have e₃ : ((bootHistory platform).step x₂ (.call .load [])).1.2 =
      ⟨x₂.2.candidateBoots + 1, x₂.2.ended⟩ := history_load h₂ hl₂
  change ((bootHistory platform).step x₂ (.call .load [])).1.2.candidateBoots = 2
  rw [e₃, e₂, e₁]

/-- After two boots of a candidate staged on an erased device the next load does not boot it. -/
theorem no_candidate_reboot_loop_sample :
    ((configStore DeviceConfig.samplePlatform).step
      ((bootHistory DeviceConfig.samplePlatform).run (⟨.erased, .clear⟩, ⟨0, false⟩)
        [.call (.stage (DeviceConfig.sample 1)) [], .call .load [], .call .load []]).1
      (.call .load [])).2.bootedCandidate = false := by
  have hv : (DeviceConfig.sample 1).validate DeviceConfig.samplePlatform = .ok := by
    decide +kernel
  have hx := boots_twice hv rfl
  exact ((no_candidate_reboot_loop DeviceConfig.samplePlatform ⟨.erased, .clear⟩
      [.call (.stage (DeviceConfig.sample 1)) [], .call .load [], .call .load []]).2.2 hx []
        (by simp)).2.1

end EdgeMonitor.Firmware
