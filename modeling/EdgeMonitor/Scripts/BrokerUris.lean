import EdgeMonitor.Base.Url
import EdgeMonitor.Firmware.BrokerUri
import EdgeMonitor.Scripts.CredentialCommands
import EdgeMonitor.Scripts.DeviceIdentities

/-!
# Broker URIs of packages

Library `Scripts`. The host tool reads a broker URI with `urllib.parse`, the firmware scans its
bytes. The tool accepts what `urlsplit` repairs or drops, such as a scheme in upper case or an
empty query; the firmware does not.
-/

namespace EdgeMonitor.Scripts
open EdgeMonitor.Base EdgeMonitor.Firmware EdgeMonitor.Firmware.DeviceConfig

/-! ### Parsed URLs -/

end EdgeMonitor.Scripts
