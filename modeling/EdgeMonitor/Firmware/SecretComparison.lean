import EdgeMonitor.Firmware.CandidateRequest
import EdgeMonitor.Firmware.ProvisioningSecurity

/-!
# Comparison of secrets

Library `Firmware`. `provisioning_security_constant_time_equal` decides whether two strings are
equal, and its callers in `firmware/components/provisioning_service/provisioning_security.c`
decide with it. The difference of the lengths may be lost in the conversion to `unsigned`; a
longer string still differs in a character, because none of its own is NUL.
-/

namespace EdgeMonitor.Firmware
open DeviceConfig (ascii)

/-- `provisioning_security_constant_time_equal`, where either string may be a null pointer. -/
def secretsEqual (left right : Option CString) : Bool :=
  match left, right with
  | some left, some right => constantTimeEqual left.val right.val
  | _, _ => false

/-- The comparison accepts two pointers to equal strings only. -/
theorem secretsEqual_iff (left right : Option CString) :
    secretsEqual left right = true ↔ ∃ s, left = some s ∧ right = some s := by
  cases left with
  | none => simp [secretsEqual]
  | some left =>
    cases right with
    | none => simp [secretsEqual]
    | some right =>
      rw [secretsEqual, constantTimeEqual_iff left.property right.property]
      constructor
      · intro h
        exact ⟨left, rfl, congrArg some (Subtype.ext h.symm)⟩
      · rintro ⟨s, hleft, hright⟩
        rw [Option.some.inj hleft, Option.some.inj hright]

/-- A factory reset is confirmed by one text. -/
theorem factoryConfirmed_iff (confirmation : CString) :
    factoryConfirmed confirmation.val = true ↔
      confirmation.val = ascii "ERASE-DEVICE-CONFIGURATION" := by
  rw [factoryConfirmed]
  exact constantTimeEqual_iff confirmation.property (by decide)

/-- A session is authorized by its own token before it expires, and a modification by its own
CSRF token too. -/
theorem sessionAuthorized_iff (storedSession requestSession storedCsrf : CString)
    (requestCsrf : Option CString) (expiresMs nowMs : Int) (modifying : Bool) :
    sessionAuthorized storedSession.val requestSession.val storedCsrf.val
        (requestCsrf.map Subtype.val) expiresMs nowMs modifying = true ↔
      storedSession.val ≠ [] ∧ nowMs < expiresMs ∧ storedSession = requestSession ∧
        (modifying = true → requestCsrf = some storedCsrf) := by
  rw [sessionAuthorized.eq_def]
  by_cases hempty : storedSession.val = []
  · simp [hempty]
  · by_cases hexpired : nowMs ≥ expiresMs
    · simp [hexpired, Int.not_lt.mpr hexpired]
    · by_cases hsession : storedSession = requestSession
      · subst hsession
        have hequal : constantTimeEqual storedSession.val storedSession.val = true :=
          (constantTimeEqual_iff storedSession.property storedSession.property).mpr rfl
        cases modifying with
        | false => simp [hempty, hexpired, hequal]; omega
        | true =>
          cases requestCsrf with
          | none => simp [hempty, hexpired, hequal]
          | some requestCsrf =>
            have hcsrf := constantTimeEqual_iff storedCsrf.property requestCsrf.property
            have hswap : storedCsrf.val = requestCsrf.val ↔ requestCsrf = storedCsrf := by
              rw [Subtype.ext_iff]
              exact eq_comm
            simp [hempty, hexpired, hequal, hcsrf, hswap]
            omega
      · have hdiffers : constantTimeEqual storedSession.val requestSession.val = false := by
          rw [Bool.eq_false_iff, Ne,
            constantTimeEqual_iff storedSession.property requestSession.property]
          exact fun h ↦ hsession (Subtype.ext h)
        simp [hdiffers, hsession]

end EdgeMonitor.Firmware
