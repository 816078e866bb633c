import EdgeMonitor.Base.Machine
import EdgeMonitor.Firmware.ProvisioningHttp

/-!
# The maintenance window

Library `Firmware`. `firmware/components/provisioning_state/provisioning_state.c` after its
mutex was created. The maintenance task ticks the state machine, while the server reports
authenticated requests from its own task; each call runs under the mutex.
-/

namespace EdgeMonitor.Firmware
open EdgeMonitor.Base

namespace ProvisioningStateMachine

/-- `provisioning_state_configuration_loaded`, `provisioning_state.c:26–55`. -/
def configurationLoaded (machine : ProvisioningStateMachine) (valid maintenanceEnabled : Bool)
    (nowMs : UInt64) (inactivitySeconds absoluteSeconds : UInt32) : ProvisioningStateMachine :=
  { machine with
    configured := valid
    maintenanceEnabled
    openedMs := nowMs
    lastAuthenticatedMs := nowMs
    inactivitySeconds
    absoluteSeconds
    state :=
      if !valid then .unprovisioned
      else if maintenanceEnabled then .maintenanceWindow
      else .operational }

/-- `provisioning_state_tick`, `provisioning_state.c:72–97`. -/
def tick (machine : ProvisioningStateMachine) (nowMs : UInt64) : ProvisioningStateMachine × Bool :=
  if machine.state ≠ .maintenanceWindow then (machine, false)
  else
    let inactiveMs :=
      if nowMs ≥ machine.lastAuthenticatedMs then nowMs - machine.lastAuthenticatedMs else 0
    let absoluteMs := if nowMs ≥ machine.openedMs then nowMs - machine.openedMs else 0
    if inactiveMs ≥ machine.inactivitySeconds.toUInt64 * 1000
        ∨ absoluteMs ≥ machine.absoluteSeconds.toUInt64 * 1000 then
      ({ machine with state := .operational }, false)
    else (machine, true)

end ProvisioningStateMachine

/-- A call of the server or of the maintenance task, with the time that it read before. -/
inductive MaintenanceCall where
  | activity (nowMs : UInt64)
  | tick (nowMs : UInt64)

/-- The calls between two loaded configurations; a tick outputs its result. -/
def maintenance : Machine ProvisioningStateMachine MaintenanceCall (Option Bool) where
  step machine
    | .activity nowMs => (machine.authenticated nowMs, none)
    | .tick nowMs => ((machine.tick nowMs).1, some (machine.tick nowMs).2)

/-- The last activity that was accepted, or the time from which on it counts: once a tick was
false, none is accepted. -/
def lastAccepted (openedMs : UInt64) : List (MaintenanceCall × Option Bool) → UInt64
  | [] => openedMs
  | (.activity nowMs, _) :: rest => lastAccepted nowMs rest
  | (.tick _, some false) :: _ => openedMs
  | (.tick _, _) :: rest => lastAccepted openedMs rest

/-- A tick was false. -/
def Closed (trace : List (MaintenanceCall × Option Bool)) : Prop :=
  ∃ nowMs, (.tick nowMs, some false) ∈ trace

/-! ### Ticks -/

/-- The differences of the clock against a limit in seconds, without overflow. -/
theorem elapsed_ge_iff (nowMs sinceMs : UInt64) (seconds : UInt32) :
    (if nowMs ≥ sinceMs then nowMs - sinceMs else 0) ≥ seconds.toUInt64 * 1000 ↔
      sinceMs.toNat + seconds.toNat * 1000 ≤ nowMs.toNat ∨ seconds.toNat = 0 := by
  have hseconds := seconds.toNat_lt
  have hlimit : (seconds.toUInt64 * 1000).toNat = seconds.toNat * 1000 := by
    rw [UInt64.toNat_mul, UInt32.toNat_toUInt64]
    change seconds.toNat * 1000 % 2 ^ 64 = _
    omega
  rw [ge_iff_le, UInt64.le_iff_toNat_le, hlimit]
  by_cases h : nowMs ≥ sinceMs
  · have hle := UInt64.le_iff_toNat_le.mp h
    rw [if_pos h, UInt64.toNat_sub_of_le _ _ h]
    omega
  · have hlt : nowMs.toNat < sinceMs.toNat := by
      rw [ge_iff_le, UInt64.le_iff_toNat_le] at h
      omega
    rw [if_neg h]
    change _ ≤ 0 ↔ _
    omega

/-- A tick is true in the window, before both deadlines, and changes nothing then. -/
theorem tick_cases (machine : ProvisioningStateMachine) (nowMs : UInt64) :
    (machine.tick nowMs = (machine, true) ∧ machine.state = .maintenanceWindow ∧
      nowMs.toNat < machine.lastAuthenticatedMs.toNat + machine.inactivitySeconds.toNat * 1000 ∧
      nowMs.toNat < machine.openedMs.toNat + machine.absoluteSeconds.toNat * 1000) ∨
    ((machine.tick nowMs).2 = false ∧ (machine.tick nowMs).1.state ≠ .maintenanceWindow ∧
      (machine.state = .maintenanceWindow → (machine.tick nowMs).1.state = .operational) ∧
      (machine.state ≠ .maintenanceWindow → (machine.tick nowMs).1 = machine)) := by
  rw [ProvisioningStateMachine.tick]
  by_cases hstate : machine.state = .maintenanceWindow
  · rw [if_neg (not_not.mpr hstate)]
    simp only [elapsed_ge_iff]
    split
    next => exact .inr ⟨rfl, by simp, fun _ ↦ rfl, fun hne ↦ absurd hstate hne⟩
    next h => exact .inl ⟨rfl, hstate, by omega, by omega⟩
  · rw [if_pos hstate]
    exact .inr ⟨rfl, hstate, fun heq ↦ absurd heq hstate, fun _ ↦ rfl⟩

/-! ### Runs -/

theorem lastAccepted_append {openedMs : UInt64} {trace rest : List (MaintenanceCall × Option Bool)}
    (h : ¬ Closed trace) :
    lastAccepted openedMs (trace ++ rest) = lastAccepted (lastAccepted openedMs trace) rest := by
  induction trace generalizing openedMs with
  | nil => rfl
  | cons entry trace ih =>
    have htrace : ¬ Closed trace := fun ⟨nowMs, hmem⟩ ↦ h ⟨nowMs, List.mem_cons_of_mem _ hmem⟩
    obtain ⟨call, output⟩ := entry
    cases call with
    | activity nowMs => exact ih htrace
    | tick nowMs =>
      match output with
      | some false => exact absurd ⟨nowMs, List.mem_cons_self⟩ h
      | some true => exact ih htrace
      | none => exact ih htrace

/-- While no tick was false the window is open, with the deadlines of its opening and of the last
activity; from then on it stays closed. -/
structure Window (openedMs : UInt64) (inactivity absolute : UInt32)
    (machine : ProvisioningStateMachine) (trace : List (MaintenanceCall × Option Bool)) : Prop where
  opened : ¬ Closed trace → machine.state = .maintenanceWindow ∧ machine.openedMs = openedMs ∧
    machine.inactivitySeconds = inactivity ∧ machine.absoluteSeconds = absolute ∧
      machine.lastAuthenticatedMs = lastAccepted openedMs trace
  closed : Closed trace → machine.state = .operational

theorem closed_concat {trace : List (MaintenanceCall × Option Bool)}
    {entry : MaintenanceCall × Option Bool} :
    Closed (trace ++ [entry]) ↔ Closed trace ∨ ∃ nowMs, entry = (.tick nowMs, some false) := by
  constructor
  · rintro ⟨nowMs, hmem⟩
    rcases List.mem_append.mp hmem with hmem | hmem
    · exact .inl ⟨nowMs, hmem⟩
    · exact .inr ⟨nowMs, (List.mem_singleton.mp hmem).symm⟩
  · rintro (⟨nowMs, hmem⟩ | ⟨nowMs, rfl⟩)
    · exact ⟨nowMs, List.mem_append_left _ hmem⟩
    · exact ⟨nowMs, List.mem_append_right _ List.mem_cons_self⟩

variable {openedMs : UInt64} {inactivity absolute : UInt32}

theorem window_step {machine : ProvisioningStateMachine}
    {trace : List (MaintenanceCall × Option Bool)} (call : MaintenanceCall)
    (h : Window openedMs inactivity absolute machine trace) :
    Window openedMs inactivity absolute (maintenance.step machine call).1
      (trace ++ [(call, (maintenance.step machine call).2)]) := by
  cases call with
  | activity nowMs =>
    have hsame : Closed (trace ++ [(.activity nowMs, none)]) ↔ Closed trace := by
      rw [closed_concat]
      simp
    change Window _ _ _ (machine.authenticated nowMs) (trace ++ [(.activity nowMs, none)])
    rw [ProvisioningStateMachine.authenticated]
    constructor
    · intro hopen
      rw [hsame] at hopen
      obtain ⟨hstate, hopened, hinactivity, habsolute, -⟩ := h.opened hopen
      rw [if_pos hstate, lastAccepted_append hopen]
      exact ⟨hstate, hopened, hinactivity, habsolute, rfl⟩
    · intro hclosed
      have hstate := h.closed (hsame.mp hclosed)
      rw [if_neg (by simp [hstate])]
      exact hstate
  | tick nowMs =>
    change Window _ _ _ (machine.tick nowMs).1
      (trace ++ [(.tick nowMs, some (machine.tick nowMs).2)])
    rcases tick_cases machine nowMs with ⟨htick, hstate, -, -⟩ | ⟨hfalse, -, hopen, hkept⟩
    · rw [htick]
      have hsame : Closed (trace ++ [(.tick nowMs, some true)]) ↔ Closed trace := by
        rw [closed_concat]
        simp
      constructor
      · intro hnot
        rw [hsame] at hnot
        obtain ⟨_, hopened, hinactivity, habsolute, hlast⟩ := h.opened hnot
        rw [lastAccepted_append hnot]
        exact ⟨hstate, hopened, hinactivity, habsolute, hlast⟩
      · intro hclosed
        exact h.closed (hsame.mp hclosed)
    · rw [hfalse]
      have hclosed : Closed (trace ++ [(.tick nowMs, some false)]) :=
        closed_concat.mpr (.inr ⟨nowMs, rfl⟩)
      refine ⟨fun hnot ↦ absurd hclosed hnot, fun _ ↦ ?_⟩
      by_cases hstate : machine.state = .maintenanceWindow
      · exact hopen hstate
      · rw [hkept hstate]
        by_cases hwas : Closed trace
        · exact h.closed hwas
        · exact absurd (h.opened hwas).1 hstate

/-- The window after a configuration was loaded. -/
theorem window_trace (machine : ProvisioningStateMachine) (openedMs : UInt64)
    (inactivity absolute : UInt32) (calls : List MaintenanceCall) :
    Window openedMs inactivity absolute
      (maintenance.run (machine.configurationLoaded true true openedMs inactivity absolute) calls)
      (maintenance.trace (machine.configurationLoaded true true openedMs inactivity absolute)
        calls) := by
  apply maintenance.invariant_trace
  · exact fun _ _ call ↦ window_step call
  · have hnil : ¬ Closed [] := fun ⟨_, hmem⟩ ↦ absurd hmem List.not_mem_nil
    exact ⟨fun _ ↦ ⟨rfl, rfl, rfl, rfl, rfl⟩, fun hclosed ↦ absurd hclosed hnil⟩

/-- Nothing changes outside the window. -/
theorem run_of_operational {machine : ProvisioningStateMachine} (h : machine.state = .operational)
    (calls : List MaintenanceCall) : maintenance.run machine calls = machine ∧
      ∀ entry ∈ maintenance.trace machine calls, entry.2 ≠ some true := by
  have hne : machine.state ≠ .maintenanceWindow := by simp [h]
  induction calls with
  | nil => exact ⟨rfl, fun _ hmem ↦ absurd hmem List.not_mem_nil⟩
  | cons call calls ih =>
    have hstep : (maintenance.step machine call).1 = machine ∧
        (maintenance.step machine call).2 ≠ some true := by
      cases call with
      | activity nowMs =>
        refine ⟨?_, by simp [maintenance]⟩
        exact if_neg hne
      | tick nowMs =>
        rcases tick_cases machine nowMs with ⟨-, hstate, -⟩ | ⟨hfalse, -, -, hkept⟩
        · exact absurd hstate hne
        · refine ⟨hkept hne, ?_⟩
          change some (machine.tick nowMs).2 ≠ some true
          rw [hfalse]
          simp
    rw [Machine.run_cons, Machine.trace, hstep.1]
    refine ⟨ih.1, fun entry hentry ↦ ?_⟩
    rcases List.mem_cons.mp hentry with rfl | hentry
    · exact hstep.2
    · exact ih.2 entry hentry

/-- The maintenance window closes on time and stays closed. A tick that is true comes before the
absolute deadline and before the one of the last activity that was accepted. After a tick that is
false the state is `OPERATIONAL`, no call changes anything and no tick is true, until a
configuration is loaded again. -/
theorem maintenance_window_closes (machine : ProvisioningStateMachine) (openedMs : UInt64)
    (inactivity absolute : UInt32) (calls : List MaintenanceCall) :
    let opened := machine.configurationLoaded true true openedMs inactivity absolute
    (∀ before nowMs after,
      maintenance.trace opened calls = before ++ (.tick nowMs, some true) :: after →
        nowMs.toNat < openedMs.toNat + absolute.toNat * 1000 ∧
        nowMs.toNat < (lastAccepted openedMs before).toNat + inactivity.toNat * 1000) ∧
    (∀ before nowMs after, calls = before ++ .tick nowMs :: after →
      (maintenance.step (maintenance.run opened before) (.tick nowMs)).2 = some false →
        (maintenance.run opened (before ++ [.tick nowMs])).state = .operational ∧
        maintenance.run opened calls = maintenance.run opened (before ++ [.tick nowMs]) ∧
        ∀ entry ∈ maintenance.trace (maintenance.run opened (before ++ [.tick nowMs])) after,
          entry.2 ≠ some true) := by
  intro opened
  constructor
  · intro before nowMs after htrace
    obtain ⟨earlier, call, rest, -, rfl, hentry⟩ := maintenance.trace_eq_append_cons htrace
    obtain ⟨rfl, houtput⟩ := Prod.mk.injEq .. ▸ hentry
    have hwindow := window_trace machine openedMs inactivity absolute earlier
    change Window _ _ _ (maintenance.run opened earlier)
      (maintenance.trace opened earlier) at hwindow
    rcases tick_cases (maintenance.run opened earlier) nowMs with
      ⟨-, hstate, hinactive, habsolute⟩ | ⟨hfalse, -⟩
    · have hopen : ¬ Closed (maintenance.trace opened earlier) := by
        intro hclosed
        rw [hwindow.closed hclosed] at hstate
        cases hstate
      obtain ⟨-, hopened, hinactivity, hlimit, hlast⟩ := hwindow.opened hopen
      rw [hlast, hinactivity] at hinactive
      rw [hopened, hlimit] at habsolute
      exact ⟨habsolute, hinactive⟩
    · have hsome : some true = some ((maintenance.run opened earlier).tick nowMs).2 := houtput
      rw [hfalse] at hsome
      cases hsome
  · intro before nowMs after hcalls hfalse
    have hwindow := window_trace machine openedMs inactivity absolute (before ++ [.tick nowMs])
    have hclosed : Closed (maintenance.trace opened (before ++ [.tick nowMs])) := by
      rw [Machine.trace_concat, hfalse]
      exact closed_concat.mpr (.inr ⟨nowMs, rfl⟩)
    have hstate := hwindow.closed hclosed
    obtain ⟨hkept, hticks⟩ := run_of_operational hstate after
    refine ⟨hstate, ?_, hticks⟩
    rw [hcalls, List.append_cons, Machine.run_append]
    exact hkept

end EdgeMonitor.Firmware
