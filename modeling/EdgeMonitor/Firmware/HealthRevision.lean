import EdgeMonitor.Base.Machine
import EdgeMonitor.Firmware.DeviceHealth

/-!
# Summary and revision of the device health

Library `Firmware`. The whole snapshot of
`firmware/components/device_health/device_health.c` with its counters and metrics, and the
operations of the module, each of which runs under its mutex.
-/

namespace EdgeMonitor.Firmware
open EdgeMonitor.Base

/-! ### The snapshot -/

/-- `device_health_counters_t`. -/
structure HealthCounters where
  samplesOk : UInt64
  samplesRejected : UInt64
  publishOk : UInt64
  publishFailed : UInt64
  machineStatusErrors : UInt64
  deriving DecidableEq

/-- `device_health_metrics_t`. -/
structure HealthMetrics where
  uptimeSeconds : UInt64
  freeHeapBytes : UInt32
  minimumFreeHeapBytes : UInt32
  hasWifiRssi : Bool
  wifiRssiDbm : Int32
  deriving DecidableEq

/-- `device_health_snapshot_t` with all its fields. -/
structure HealthSnapshot extends DeviceHealth where
  counters : HealthCounters
  metrics : HealthMetrics

/-- The counters that `DEFINE_COUNTER_INCREMENT` names, `device_health.c:116–129`. -/
inductive HealthCounter where
  | samplesOk
  | samplesRejected
  | publishOk
  | publishFailed
  | machineStatusErrors
  deriving DecidableEq

/-- An increment of a counter. -/
def HealthCounters.increment (counters : HealthCounters) : HealthCounter → HealthCounters
  | .samplesOk => { counters with samplesOk := counters.samplesOk + 1 }
  | .samplesRejected => { counters with samplesRejected := counters.samplesRejected + 1 }
  | .publishOk => { counters with publishOk := counters.publishOk + 1 }
  | .publishFailed => { counters with publishFailed := counters.publishFailed + 1 }
  | .machineStatusErrors =>
    { counters with machineStatusErrors := counters.machineStatusErrors + 1 }

/-- The calls of the module that write its state. -/
inductive HealthOperation where
  | updateComponent (component : HealthComponent) (status : ComponentStatus) (error : HealthError)
    (updatedAt : Option (List UInt8))
  | setAvailability (availability : Availability)
  | increment (counter : HealthCounter)
  | setMetrics (metrics : HealthMetrics)

namespace HealthSnapshot

/-- `device_health_init`. -/
def init : HealthSnapshot where
  toDeviceHealth := .init
  counters := ⟨0, 0, 0, 0, 0⟩
  metrics := ⟨0, 0, 0, false, 0⟩

/-- An operation on the state. -/
def apply (s : HealthSnapshot) : HealthOperation → HealthSnapshot
  | .updateComponent component status error updatedAt =>
    { s with toDeviceHealth := s.toDeviceHealth.updateComponent component status error updatedAt }
  | .setAvailability availability =>
    { s with toDeviceHealth := s.toDeviceHealth.setAvailability availability }
  | .increment counter => { s with counters := s.counters.increment counter }
  | .setMetrics metrics => { s with metrics }

/-- The module under any sequence of calls; a snapshot is the state it is taken in. -/
def machine : Machine HealthSnapshot HealthOperation Unit where
  step s operation := (s.apply operation, ())

/-! ### Changes -/

/-- The operation changes the status or the error of a component. -/
def Changes (s : HealthSnapshot) : HealthOperation → Prop
  | .updateComponent component status error _ => s.state component ≠ (status, error)
  | _ => False

instance (s : HealthSnapshot) (operation : HealthOperation) : Decidable (s.Changes operation) :=
  match operation with
  | .updateComponent component status error _ =>
    inferInstanceAs (Decidable (s.state component ≠ (status, error)))
  | .setAvailability _ | .increment _ | .setMetrics _ => inferInstanceAs (Decidable False)

/-- How many operations of a run change a component. -/
def changes (s : HealthSnapshot) : List HealthOperation → Nat
  | [] => 0
  | operation :: operations =>
    (if s.Changes operation then 1 else 0) + changes (s.apply operation) operations

/-- Some component is degraded or has a fault. -/
def Troubled (s : HealthSnapshot) : Prop :=
  ∃ c, (s.components c).status = .degraded ∨ (s.components c).status = .fault

/-- The overall status is the one of the components. -/
def Summarizes (s : HealthSnapshot) : Prop :=
  s.status = DeviceHealth.calculateOverallStatus s.components

/-- The summary is degraded when a component is. -/
theorem Summarizes.degraded_iff {s : HealthSnapshot} (h : s.Summarizes) :
    s.status = .degraded ↔ s.Troubled := by
  rw [h, DeviceHealth.calculateOverallStatus]
  constructor
  · intro hstatus
    by_cases hany : (HealthComponent.all.any fun c ↦ (s.components c).status == .degraded ||
        (s.components c).status == .fault) = true
    · obtain ⟨c, -, hc⟩ := List.any_eq_true.mp hany
      rw [Bool.or_eq_true, beq_iff_eq, beq_iff_eq] at hc
      exact ⟨c, hc⟩
    · rw [if_neg hany] at hstatus
      cases hstatus
  · rintro ⟨c, hc⟩
    apply if_pos
    apply List.any_eq_true.mpr
    refine ⟨c, c.mem_all, ?_⟩
    rw [Bool.or_eq_true, beq_iff_eq, beq_iff_eq]
    exact hc

/-! ### Steps -/

/-- An operation counts the revision up when it changes a component, and keeps the states of the
components otherwise. -/
theorem apply_spec {s : HealthSnapshot} (h : s.Summarizes) (operation : HealthOperation) :
    (s.apply operation).Summarizes ∧
    (s.apply operation).stateRevision =
      (if s.Changes operation then s.stateRevision + 1 else s.stateRevision) ∧
    (¬ s.Changes operation → (s.apply operation).status = s.status ∧
      ∀ c, (s.apply operation).state c = s.state c) := by
  cases operation with
  | updateComponent component status error updatedAt =>
    have hsummary : (s.apply (.updateComponent component status error updatedAt)).Summarizes := rfl
    refine ⟨hsummary, ?_⟩
    by_cases hchanges : s.state component = (status, error)
    · have hnot : ¬ s.Changes (.updateComponent component status error updatedAt) :=
        fun hne ↦ hne hchanges
      rw [if_neg hnot]
      refine ⟨DeviceHealth.stateRevision_updateComponent_of_eq h hchanges, fun _ ↦ ⟨?_, ?_⟩⟩
      · exact DeviceHealth.status_updateComponent_of_eq h hchanges
      · exact DeviceHealth.state_updateComponent_of_eq hchanges
    · have hchanges' : s.Changes (.updateComponent component status error updatedAt) := hchanges
      rw [if_pos hchanges']
      refine ⟨if_pos ?_, fun hnot ↦ absurd hchanges' hnot⟩
      by_cases hstatus : (s.components component).status = status
      · right
        left
        intro herror
        exact hchanges (Prod.ext hstatus herror)
      · exact .inl hstatus
  | setAvailability availability => exact ⟨h, (if_neg id).symm, fun _ ↦ ⟨rfl, fun _ ↦ rfl⟩⟩
  | increment counter => exact ⟨h, (if_neg id).symm, fun _ ↦ ⟨rfl, fun _ ↦ rfl⟩⟩
  | setMetrics metrics => exact ⟨h, (if_neg id).symm, fun _ ↦ ⟨rfl, fun _ ↦ rfl⟩⟩

/-! ### Runs -/

theorem changes_append (s : HealthSnapshot) (before after : List HealthOperation) :
    s.changes (before ++ after) = s.changes before + (machine.run s before).changes after := by
  induction before generalizing s with
  | nil => simp [changes]
  | cons operation before ih =>
    rw [List.cons_append, changes, changes, ih, Nat.add_assoc]
    rfl

/-- No change is counted when no operation makes one. -/
theorem changes_eq_zero_iff {s : HealthSnapshot} {operations : List HealthOperation} :
    s.changes operations = 0 ↔ machine.Along (fun s operation ↦ ¬ s.Changes operation) s
      operations := by
  induction operations generalizing s with
  | nil => exact iff_of_true rfl trivial
  | cons operation operations ih =>
    rw [changes, Nat.add_eq_zero_iff, ih]
    apply and_congr_left'
    by_cases hchanges : s.Changes operation
    · simp [hchanges]
    · simp [hchanges]

/-- The revision counts the changes of a run, unless it wraps around. -/
theorem run_spec {s : HealthSnapshot} (operations : List HealthOperation) (h : s.Summarizes)
    (hcount : s.stateRevision.toNat + s.changes operations < 2 ^ 32) :
    (machine.run s operations).Summarizes ∧
    (machine.run s operations).stateRevision.toNat =
      s.stateRevision.toNat + s.changes operations ∧
    (s.changes operations = 0 → (machine.run s operations).status = s.status ∧
      ∀ c, (machine.run s operations).state c = s.state c) := by
  induction operations generalizing s with
  | nil => exact ⟨h, rfl, fun _ ↦ ⟨rfl, fun _ ↦ rfl⟩⟩
  | cons operation operations ih =>
    obtain ⟨hsummary, hrevision, hsame⟩ := apply_spec h operation
    rw [changes] at hcount ⊢
    have hnext : (s.apply operation).stateRevision.toNat =
        s.stateRevision.toNat + if s.Changes operation then 1 else 0 := by
      rw [hrevision]
      split
      next hchanges =>
        rw [if_pos hchanges] at hcount
        rw [UInt32.toNat_add, UInt32.toNat_one]
        omega
      next => rfl
    obtain ⟨hsummary', hrevision', hsame'⟩ := ih hsummary (by omega)
    refine ⟨hsummary', ?_, ?_⟩
    · change (machine.run (s.apply operation) operations).stateRevision.toNat = _
      omega
    · intro hzero
      obtain ⟨hfirst, hrest⟩ := Nat.add_eq_zero_iff.mp hzero
      have hnot : ¬ s.Changes operation := by
        intro hchanges
        rw [if_pos hchanges] at hfirst
        cases hfirst
      obtain ⟨hstatus, hstates⟩ := hsame hnot
      obtain ⟨hstatus', hstates'⟩ := hsame' hrest
      exact ⟨hstatus'.trans hstatus, fun c ↦ (hstates' c).trans (hstates c)⟩

/-- Summary and revision are faithful. After every run the health is degraded just when a
component is degraded or has a fault. Of two snapshots of a run with fewer than 2^32 revisions the
later one has no smaller revision, and it has the same one if and only if no operation in between
changed the status or the error of a component; then both show the same statuses and errors. -/
theorem revision_faithful (operations : List HealthOperation)
    (h : 1 + init.changes operations < 2 ^ 32) :
    ∀ before between after, operations = before ++ (between ++ after) →
      let s := machine.run init before
      let s' := machine.run s between
      (s.status = .degraded ↔ s.Troubled) ∧
      s.stateRevision ≤ s'.stateRevision ∧
      (s.stateRevision = s'.stateRevision ↔
        machine.Along (fun s operation ↦ ¬ s.Changes operation) s between) ∧
      (s.stateRevision = s'.stateRevision →
        s.status = s'.status ∧ ∀ c, s.state c = s'.state c) := by
  rintro before between after rfl
  intro s s'
  rw [changes_append, changes_append] at h
  change 1 + (init.changes before + (s.changes between + s'.changes after)) < 2 ^ 32 at h
  have hstart : init.Summarizes := by
    rw [Summarizes]
    decide
  have hone : init.stateRevision.toNat = 1 := rfl
  obtain ⟨hsummary, hrevision, -⟩ := run_spec before hstart (by omega)
  change s.Summarizes at hsummary
  change s.stateRevision.toNat = _ at hrevision
  obtain ⟨-, hrevision', hsame⟩ := run_spec between hsummary (by omega)
  change s'.stateRevision.toNat = _ at hrevision'
  have hiff : s.stateRevision = s'.stateRevision ↔ s.changes between = 0 := by
    rw [← UInt32.toNat_inj]
    omega
  refine ⟨hsummary.degraded_iff, ?_, ?_, ?_⟩
  · rw [UInt32.le_iff_toNat_le]
    omega
  · rw [hiff, changes_eq_zero_iff]
  · intro heq
    obtain ⟨hstatus, hstates⟩ := hsame (hiff.mp heq)
    exact ⟨hstatus.symm, fun c ↦ (hstates c).symm⟩

/-- A fault of the sensor, noted again with another time, and its end. -/
def sampleOperations : List HealthOperation :=
  [.updateComponent .sensor .fault .readFailed none, .increment .samplesRejected,
    .updateComponent .sensor .fault .readFailed (some [0x32]),
    .updateComponent .sensor .healthy .none none]

theorem revision_faithful_sample :
    (machine.run init (sampleOperations.take 1)).stateRevision =
      (machine.run init (sampleOperations.take 3)).stateRevision := by
  have hfaithful := revision_faithful sampleOperations (by decide) (sampleOperations.take 1)
    ((sampleOperations.drop 1).take 2) (sampleOperations.drop 3) rfl
  exact hfaithful.2.2.1.mpr (by decide)

end HealthSnapshot

end EdgeMonitor.Firmware
