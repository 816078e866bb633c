import EdgeMonitor.Base.Text

/-!
# Device identities

Library `Backend`. The identity checks of `backend/core/validation.py`. A check that raises
`ValueError` is false.
-/

namespace EdgeMonitor.Backend
open EdgeMonitor.Base

/-- A character of `DEVICE_ID_PATTERN` after the first, `[A-Za-z0-9._-]`. -/
def deviceIdCharacter (c : Nat) : Bool :=
  Text.isAlphanumeric c || c == 0x2E || c == 0x5F || c == 0x2D

/-- `validate_device_id_syntax`, `validation.py:21–26`: 1 to 63 characters. -/
def validateDeviceIdSyntax : Text → Bool
  | [] => false
  | c :: rest => Text.isAlphanumeric c && rest.all deviceIdCharacter && rest.length ≤ 62

/-- `RESERVED_DEVICE_IDENTITIES`, `validation.py:13–15`. -/
def reservedDeviceIdentities : List Text :=
  ["collector", "healthcheck", "simulator", "legacy-test"].map Text.ofString

/-- `LEGACY_DEVICE_IDENTITY`, `validation.py:16`. -/
def legacyDeviceIdentity : Text := Text.ofString "legacy-device"

/-- `validate_device_id`, `validation.py:29–34`. -/
def validateDeviceId (value : Text) : Bool :=
  validateDeviceIdSyntax value && value ∉ reservedDeviceIdentities

/-- `validate_provisionable_device_id`, `validation.py:37–43`. -/
def validateProvisionableDeviceId (value : Text) : Bool :=
  validateDeviceId value && value ≠ legacyDeviceIdentity

end EdgeMonitor.Backend
