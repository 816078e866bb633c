import EdgeMonitor.Firmware.ConfigValidate

/-!
# The checks of the provisioning service

Library `Firmware`. The pure checks of
`firmware/components/provisioning_service/provisioning_security.c:6–110`. C strings are
lists of their bytes, an optional string where the source accepts NULL.
-/

namespace EdgeMonitor.Firmware
open DeviceConfig (ascii)

/-- The character of a C string at an index, 0 after its end. -/
def charAt (s : List UInt8) (index : Nat) : UInt8 := s[index]?.getD 0

/-- `provisioning_security_constant_time_equal` of two strings. -/
def constantTimeEqual (left right : List UInt8) : Bool :=
  let difference : UInt32 := UInt32.ofNat (left.length ^^^ right.length)
  let maximum := if left.length > right.length then left.length else right.length
  let difference := (List.range maximum).foldl
    (fun difference index ↦ difference ||| (charAt left index ^^^ charAt right index).toUInt32)
    difference
  difference == 0

/-- `provisioning_security_json_body_allowed`. -/
def jsonBodyAllowed (contentType : Option (List UInt8)) (length maximum : Nat) : Bool :=
  match contentType with
  | none => false
  | some contentType =>
    contentType.take 16 == ascii "application/json"
      && (charAt contentType 16 == 0 || charAt contentType 16 == 59)
      && 0 < length && length ≤ maximum

/-- `provisioning_security_session_authorized`. -/
def sessionAuthorized (storedSession requestSession storedCsrf : List UInt8)
    (requestCsrf : Option (List UInt8)) (expiresMs nowMs : Int) (modifying : Bool) : Bool :=
  if storedSession == [] || nowMs ≥ expiresMs
    || !constantTimeEqual storedSession requestSession then false
  else !modifying || (match requestCsrf with
    | none => false
    | some requestCsrf => constantTimeEqual storedCsrf requestCsrf)

/-- `provisioning_security_factory_confirmed`. -/
def factoryConfirmed (confirmation : List UInt8) : Bool :=
  constantTimeEqual confirmation (ascii "ERASE-DEVICE-CONFIGURATION")

/-- `provisioning_security_stream_session_valid`. -/
def streamSessionValid (streamGeneration currentGeneration : UInt64) (expiresMs nowMs : Int)
    (shutdown serviceStopping : Bool) : Bool :=
  !shutdown && !serviceStopping && streamGeneration != 0
    && streamGeneration == currentGeneration && nowMs < expiresMs

/-- The loop of `provisioning_security_parse_stream_generation`. -/
def parseDigits : List UInt8 → UInt64 → Option UInt64
  | [], parsed => some parsed
  | character :: rest, parsed =>
    if character < 48 || character > 57 then none
    else
      let digit := (character - 48).toUInt64
      if parsed > (18446744073709551615 - digit) / 10 then none
      else parseDigits rest (parsed * 10 + digit)

/-- `provisioning_security_parse_stream_generation`. -/
def parseStreamGeneration (value : List UInt8) : Option UInt64 :=
  if value = [] then none
  else match parseDigits value 0 with
    | some parsed => if parsed = 0 then none else some parsed
    | none => none

/-- `provisioning_security_stream_request_authorized`. -/
def streamRequestAuthorized (requestedGeneration : List UInt8) (authenticatedGeneration : UInt64)
    (expiresMs nowMs : Int) : Bool :=
  authenticatedGeneration != 0 && nowMs < expiresMs
    && parseStreamGeneration requestedGeneration == some authenticatedGeneration

/-- `provisioning_async_lifecycle_t`. -/
structure AsyncLifecycle where
  completed : Bool := false
  deriving DecidableEq

/-- `provisioning_async_mark_complete`. -/
def AsyncLifecycle.markComplete (lifecycle : AsyncLifecycle) : Bool × AsyncLifecycle :=
  if lifecycle.completed then (false, lifecycle) else (true, { completed := true })

/-! ### What the comparisons decide -/

/-- Gathering differences leaves zero exactly when there was none. -/
theorem foldl_or_eq_zero (f : Nat → UInt32) (indices : List Nat) (initial : UInt32) :
    indices.foldl (fun difference index ↦ difference ||| f index) initial = 0 ↔
      initial = 0 ∧ ∀ index ∈ indices, f index = 0 := by
  induction indices generalizing initial with
  | nil => simp
  | cons index indices ih =>
    rw [List.foldl_cons, ih, List.forall_mem_cons, ← and_assoc]
    refine and_congr_left fun _ ↦ ?_
    rw [← UInt32.toBitVec_inj, ← UInt32.toBitVec_inj, ← UInt32.toBitVec_inj,
      UInt32.toBitVec_or]
    exact BitVec.or_eq_zero_iff

theorem xor_toUInt32_eq_zero (a b : UInt8) : (a ^^^ b).toUInt32 = 0 ↔ a = b := by
  rw [← UInt32.toNat_inj, UInt8.toNat_toUInt32, UInt32.toNat_zero, ← UInt8.toNat_zero,
    UInt8.toNat_inj]
  exact UInt8.xor_eq_zero_iff

/-- Strings without NUL are equal when their characters are. -/
theorem eq_of_charAt_eq {left right : List UInt8} (hleft : 0 ∉ left) (hright : 0 ∉ right)
    (h : ∀ index, charAt left index = charAt right index) : left = right := by
  refine List.ext_getElem? fun index ↦ ?_
  have hindex := h index
  simp only [charAt] at hindex
  cases hl : left[index]? with
  | none =>
    cases hr : right[index]? with
    | none => rfl
    | some b =>
      rw [hl, hr, Option.getD_none, Option.getD_some] at hindex
      exact absurd (hindex ▸ List.mem_of_getElem? hr) hright
  | some a =>
    cases hr : right[index]? with
    | none =>
      rw [hl, hr, Option.getD_none, Option.getD_some] at hindex
      exact absurd (hindex ▸ List.mem_of_getElem? hl) hleft
    | some b =>
      rw [hl, hr, Option.getD_some, Option.getD_some] at hindex
      rw [hindex]

/-- The comparison tells whether two strings without NUL are equal. -/
theorem constantTimeEqual_iff {left right : List UInt8} (hleft : 0 ∉ left) (hright : 0 ∉ right) :
    constantTimeEqual left right = true ↔ left = right := by
  simp only [constantTimeEqual, beq_iff_eq, foldl_or_eq_zero, List.mem_range,
    xor_toUInt32_eq_zero]
  constructor
  · rintro ⟨-, hequal⟩
    refine eq_of_charAt_eq hleft hright fun index ↦ ?_
    by_cases hindex : index < if left.length > right.length then left.length else right.length
    · exact hequal index hindex
    · -- both strings have ended
      have hends : left.length ≤ index ∧ right.length ≤ index := by
        split at hindex <;> omega
      rw [charAt, charAt, List.getElem?_eq_none hends.1, List.getElem?_eq_none hends.2]
  · rintro rfl
    simp

end EdgeMonitor.Firmware
