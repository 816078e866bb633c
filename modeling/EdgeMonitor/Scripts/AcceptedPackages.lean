import EdgeMonitor.Firmware.ProvisioningPage
import EdgeMonitor.Scripts.BrokerUris
import EdgeMonitor.Scripts.Revocation

/-!
# Accepted packages

Library `Scripts`. The way of a credential from the host tool to a device: the tool writes a
package, the page makes a request of it, and `parse_configuration` takes the request. JSON texts
that one of them prints are read by the next as the value they were printed from; strings reach
the firmware as C strings in UTF-8.
-/

namespace EdgeMonitor.Scripts
open EdgeMonitor.Base EdgeMonitor.Firmware EdgeMonitor.Firmware.DeviceConfig
open EdgeMonitor.Backend (validateProvisionableDeviceId)

/-! ### Values of the other parser -/

/-- A text as a C string, none when it is no Unicode text. -/
def cText (s : Text) : Option CString := s.utf8.map cString

mutual

/-- What the firmware reads of a value, none when its text is refused. The tool writes no floats. -/
def received : Json → Option CJson
  | .null => some .null
  | .boolean b => some (.bool b)
  | .integer n => some (CJson.integer n)
  | .float _ => none
  | .string s => (cText s).map .string
  | .array items => (receivedItems items).map .array
  | .object members => (receivedMembers members).map .object

def receivedItems : List Json → Option (List CJson)
  | [] => some []
  | item :: items => do return (← received item) :: (← receivedItems items)

def receivedMembers : List (Text × Json) → Option (List (CString × CJson))
  | [] => some []
  | (name, value) :: members => do
    return (← cText name, ← received value) :: (← receivedMembers members)

end

theorem strstr_append (needle before after : List UInt8) :
    strstr needle (before ++ (needle ++ after)) = true := by
  induction before with
  | nil =>
    cases hbytes : needle ++ after with
    | nil =>
      rw [(List.append_eq_nil_iff.mp hbytes).1]
      rfl
    | cons b bytes =>
      rw [List.nil_append, strstr, Bool.or_eq_true]
      refine .inl (List.isPrefixOf_iff_prefix.mpr ?_)
      rw [← hbytes]
      exact List.prefix_append needle after
  | cons b before ih =>
    rw [List.cons_append, strstr, ih, Bool.or_true]

section Issue
variable {checks : UrlChecks} {env : LifecycleEnv} {bundle : Directory}
  {deviceId brokerUri ca : Text} {caBytes : List UInt8}

variable {platform : Platform} {current : Option DeviceConfig} {ssid wifi : CString}

end Issue

end EdgeMonitor.Scripts
