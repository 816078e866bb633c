import Mathlib

/-!
# Device health

Library `Firmware`. The health state of `firmware/components/device_health/device_health.c`.
Each function runs under the mutex of the module. The counters and metrics, which only the
payloads show, are in `HealthSnapshot`.
-/

namespace EdgeMonitor.Firmware

/-- `device_health_overall_status_t`. -/
inductive OverallStatus where
  | healthy
  | degraded
  deriving DecidableEq, Repr

/-- `device_health_component_status_t`. -/
inductive ComponentStatus where
  | healthy
  | degraded
  | fault
  | unknown
  deriving DecidableEq, Repr

/-- `device_availability_t`. -/
inductive Availability where
  | online
  | offline
  deriving DecidableEq, Repr

/-- `device_health_error_t`. -/
inductive HealthError where
  | none
  | notInitialized
  | communicationFailed
  | readFailed
  | valueNotFinite
  | temperatureOutOfRange
  | humidityOutOfRange
  | timeNotSynchronized
  | mqttDisconnected
  | publishFailed
  | machineStatusUnavailable
  deriving DecidableEq, Repr

/-- `device_health_component_t`. -/
inductive HealthComponent where
  | sensor
  | machineStatus
  | systemTime
  | mqtt
  deriving DecidableEq, Repr

/-- The components in the order of their numbers. -/
def HealthComponent.all : List HealthComponent := [.sensor, .machineStatus, .systemTime, .mqtt]

theorem HealthComponent.mem_all (c : HealthComponent) : c ∈ HealthComponent.all := by
  cases c <;> decide

/-- `device_health_component_snapshot_t`. -/
structure ComponentSnapshot where
  status : ComponentStatus
  error : HealthError
  updatedAt : Option (List UInt8)
  deriving DecidableEq

/-- `device_health_snapshot_t`, and the variable `state` of `device_health.c:8`. -/
structure DeviceHealth where
  status : OverallStatus
  availability : Availability
  components : HealthComponent → ComponentSnapshot
  stateRevision : UInt32

namespace DeviceHealth

/-- `device_health_init`. -/
def init : DeviceHealth where
  status := .healthy
  availability := .offline
  components _ := ⟨.unknown, .notInitialized, none⟩
  stateRevision := 1

/-- `calculate_overall_status`. -/
def calculateOverallStatus (components : HealthComponent → ComponentSnapshot) : OverallStatus :=
  if HealthComponent.all.any fun c ↦
      (components c).status == .degraded || (components c).status == .fault then .degraded
  else .healthy

/-- `device_health_update_component`. `strlcpy` keeps 20 bytes of the timestamp. -/
def updateComponent (health : DeviceHealth) (component : HealthComponent)
    (status : ComponentStatus) (error : HealthError) (updatedAt : Option (List UInt8)) :
    DeviceHealth :=
  let entry := health.components component
  let components := Function.update health.components component
    ⟨status, error, updatedAt.map (·.take 20)⟩
  let overall := calculateOverallStatus components
  { health with
    components
    status := overall
    stateRevision :=
      if entry.status ≠ status ∨ entry.error ≠ error ∨ health.status ≠ overall then
        health.stateRevision + 1
      else health.stateRevision }

/-- `device_health_set_availability`. -/
def setAvailability (health : DeviceHealth) (availability : Availability) : DeviceHealth :=
  { health with availability }

/-! ### Status and error of components -/

/-- The status and the error of a component. -/
def state (health : DeviceHealth) (component : HealthComponent) : ComponentStatus × HealthError :=
  ((health.components component).status, (health.components component).error)

/-- Two states agree in the status and the error of every component other than `mqtt`. -/
def Agrees (health health' : DeviceHealth) : Prop :=
  ∀ c, c ≠ .mqtt → health.state c = health'.state c

instance (health health' : DeviceHealth) : Decidable (health.Agrees health') :=
  decidable_of_iff (∀ c ∈ HealthComponent.all, c ≠ .mqtt → health.state c = health'.state c)
    ⟨fun h c ↦ h c c.mem_all, fun h c _ ↦ h c⟩

variable {health health' : DeviceHealth} {component : HealthComponent} {status : ComponentStatus}
  {error : HealthError} {updatedAt : Option (List UInt8)}

@[simp] theorem state_setAvailability (availability : Availability) (c : HealthComponent) :
    (health.setAvailability availability).state c = health.state c := rfl

@[simp] theorem stateRevision_setAvailability (availability : Availability) :
    (health.setAvailability availability).stateRevision = health.stateRevision := rfl

theorem state_updateComponent_of_ne {c : HealthComponent} (h : c ≠ component) :
    (health.updateComponent component status error updatedAt).state c = health.state c := by
  simp only [state, updateComponent, Function.update_of_ne h]

/-- An update of the `mqtt` component leaves the others as they are. -/
theorem agrees_updateComponent_mqtt :
    (health.updateComponent .mqtt status error updatedAt).Agrees health :=
  fun _ hc ↦ state_updateComponent_of_ne hc

/-- An update counts the revision up, or keeps it with the status and the error of every
component. -/
theorem updateComponent_cases (health : DeviceHealth) (component : HealthComponent)
    (status : ComponentStatus) (error : HealthError) (updatedAt : Option (List UInt8)) :
    (health.updateComponent component status error updatedAt).stateRevision =
      health.stateRevision + 1 ∨
    ((health.updateComponent component status error updatedAt).stateRevision =
        health.stateRevision ∧
      ∀ c, (health.updateComponent component status error updatedAt).state c =
        health.state c) := by
  by_cases hchanged : (health.components component).status ≠ status ∨
      (health.components component).error ≠ error ∨
      health.status ≠ calculateOverallStatus (Function.update health.components component
        ⟨status, error, updatedAt.map (·.take 20)⟩)
  · exact .inl (if_pos hchanged)
  · refine .inr ⟨if_neg hchanged, fun c ↦ ?_⟩
    by_cases hc : c = component
    · subst hc
      simp only [not_or, ne_eq, Classical.not_not] at hchanged
      obtain ⟨hstatus, herror, -⟩ := hchanged
      simp only [state, updateComponent, Function.update_self, hstatus, herror]
    · exact state_updateComponent_of_ne hc

/-- The overall status is the one of the components. -/
def Summarizes (health : DeviceHealth) : Prop :=
  health.status = calculateOverallStatus health.components

/-- The summary depends on the statuses only. -/
theorem calculateOverallStatus_congr {components components' : HealthComponent → ComponentSnapshot}
    (h : ∀ c, (components c).status = (components' c).status) :
    calculateOverallStatus components = calculateOverallStatus components' := by
  simp only [calculateOverallStatus, h]

theorem summarizes_init : init.Summarizes := by
  rw [Summarizes]
  decide

theorem summarizes_updateComponent :
    (health.updateComponent component status error updatedAt).Summarizes := rfl

/-- An update with the status and the error that a component has changes no component. -/
theorem state_updateComponent_of_eq (h : health.state component = (status, error))
    (c : HealthComponent) :
    (health.updateComponent component status error updatedAt).state c = health.state c := by
  by_cases hc : c = component
  · rw [hc, h]
    simp [state, updateComponent]
  · exact state_updateComponent_of_ne hc

@[simp] theorem state_updateComponent_self :
    (health.updateComponent component status error updatedAt).state component =
      (status, error) := by
  simp [state, updateComponent]

/-- Such an update keeps the summary. -/
theorem status_updateComponent_of_eq (hsummary : health.Summarizes)
    (h : health.state component = (status, error)) :
    (health.updateComponent component status error updatedAt).status = health.status := by
  rw [hsummary, summarizes_updateComponent]
  apply calculateOverallStatus_congr
  exact fun c ↦ congrArg Prod.fst (state_updateComponent_of_eq h c)

/-- Such an update keeps the revision. -/
theorem stateRevision_updateComponent_of_eq (hsummary : health.Summarizes)
    (h : health.state component = (status, error)) :
    (health.updateComponent component status error updatedAt).stateRevision =
      health.stateRevision := by
  obtain ⟨hstatus, herror⟩ := Prod.mk.inj h
  apply if_neg
  rintro (hne | hne | hne)
  · exact hne hstatus
  · exact hne herror
  · exact hne (status_updateComponent_of_eq hsummary h).symm

/-- The first state is older than the second, or shows the same of each component. -/
def Before (health health' : DeviceHealth) : Prop :=
  health.stateRevision < health'.stateRevision ∨
    (health.stateRevision = health'.stateRevision ∧ ∀ c, health.state c = health'.state c)

theorem Before.refl (health : DeviceHealth) : health.Before health := .inr ⟨rfl, fun _ ↦ rfl⟩

theorem Before.le (h : health.Before health') :
    health.stateRevision ≤ health'.stateRevision := by
  rcases h with hlt | ⟨heq, -⟩
  · exact UInt32.le_of_lt hlt
  · exact heq ▸ UInt32.le_refl _

theorem Before.trans {health'' : DeviceHealth} (h : health.Before health')
    (h' : health'.Before health'') : health.Before health'' := by
  rcases h with hlt | ⟨heq, hstate⟩
  · exact .inl (UInt32.lt_of_lt_of_le hlt h'.le)
  · rcases h' with hlt' | ⟨heq', hstate'⟩
    · exact .inl (heq ▸ hlt')
    · exact .inr ⟨heq.trans heq', fun c ↦ (hstate c).trans (hstate' c)⟩

/-- An update goes on from the state, unless the revision wraps around. -/
theorem before_updateComponent (h : health.stateRevision ≤
      (health.updateComponent component status error updatedAt).stateRevision) :
    health.Before (health.updateComponent component status error updatedAt) := by
  rcases updateComponent_cases health component status error updatedAt with hnext | ⟨hsame, hstate⟩
  · left
    rw [hnext] at h ⊢
    rw [UInt32.le_iff_toNat_le, UInt32.toNat_add, UInt32.toNat_one] at h
    rw [UInt32.lt_iff_toNat_lt, UInt32.toNat_add, UInt32.toNat_one]
    omega
  · exact .inr ⟨hsame.symm, fun c ↦ (hstate c).symm⟩

end DeviceHealth

end EdgeMonitor.Firmware
