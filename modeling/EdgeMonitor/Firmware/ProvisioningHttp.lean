import EdgeMonitor.Firmware.CandidateRequest
import EdgeMonitor.Firmware.DiagnosticRing
import EdgeMonitor.Firmware.ProvisioningSecurity
import EdgeMonitor.Firmware.StreamLifecycle

/-!
# The handlers of the provisioning server

Library `Firmware`. The twelve handlers of
`firmware/components/provisioning_service/provisioning_service.c`, with the endpoint check
of `provisioning_softap_endpoint.c`. The server runs one handler at a time. A request comes
with what the server, the network and NVS answer while it is handled; allocations succeed.
-/

namespace EdgeMonitor.Firmware
open EdgeMonitor.Base
open DeviceConfig (ascii)
open CJson

/-! ### The service -/

/-- What the service takes from its build and from libraries outside the repository. -/
structure HttpPlatform extends Platform where
  /-- `CONFIG_PROVISIONING_MAX_BODY_BYTES`. -/
  maxBodyBytes : Nat
  /-- `CONFIG_PROVISIONING_SESSION_SECONDS`. -/
  sessionSeconds : Nat
  /-- `CONFIG_PROVISIONING_LOGIN_MAX_FAILURES`. -/
  loginMaxFailures : UInt32
  /-- `CONFIG_PROVISIONING_LOGIN_LOCKOUT_SECONDS`. -/
  loginLockoutSeconds : Nat
  /-- `cJSON_ParseWithLength`. -/
  parseJson : List UInt8 → Option CJson
  /-- `sizeof` of `sa_family_t`, `sockaddr_in`, `sockaddr_in6` and `sockaddr_storage`. -/
  familySize : Nat
  sockaddrInSize : Nat
  sockaddrIn6Size : Nat
  sockaddrStorageSize : Nat

/-- `provisioning_state_t`. -/
inductive ProvisioningState where
  | boot
  | loadConfiguration
  | unprovisioned
  | maintenanceWindow
  | operational
  | rollback
  deriving DecidableEq

/-- `provisioning_state_machine_t` without its mutex. -/
structure ProvisioningStateMachine where
  state : ProvisioningState
  configured : Bool
  maintenanceEnabled : Bool
  authenticatedActivity : Bool
  openedMs : UInt64
  lastAuthenticatedMs : UInt64
  inactivitySeconds : UInt32
  absoluteSeconds : UInt32
  deriving DecidableEq

/-- `provisioning_state_authenticated_activity`. -/
def ProvisioningStateMachine.authenticated (machine : ProvisioningStateMachine)
    (nowMs : UInt64) : ProvisioningStateMachine :=
  if machine.state = .maintenanceWindow then
    { machine with authenticatedActivity := true, lastAuthenticatedMs := nowMs }
  else machine

/-- The variables of `provisioning_service.c`, the modules that its handlers call, the
clock, and the number of calls of `esp_restart`. -/
structure ProvisioningService where
  store : Store
  diagnosticLog : DiagnosticRing
  currentConfiguration : Option DeviceConfig
  setupSecret : CString
  machine : Option ProvisioningStateMachine
  sessionToken : CString
  csrfToken : CString
  sessionExpiresMs : Int
  sessionGeneration : UInt64
  loginFailures : UInt32
  loginLockedUntilMs : Int
  streamLifecycle : StreamLifecycle
  nowMs : Int
  restarts : Nat

/-- A local socket address as `getsockname` fills it in. -/
structure SockAddr where
  family : Nat
  length : Nat
  /-- `sin_addr.s_addr` of a `sockaddr_in`. -/
  sinAddr : UInt32
  /-- `sin6_addr.s6_addr` of a `sockaddr_in6`. -/
  sin6Addr : Vector UInt8 16

/-- What `status_handler` reads from the other components. -/
structure DeviceStatus where
  firmwareVersion : CString
  uptimeSeconds : Int
  resetReason : Nat
  freeHeapBytes : Nat
  minimumFreeHeapBytes : Nat
  stationIp : CString
  wifiRssiDbm : Option Int
  sntpSynchronized : Bool
  mqttTlsConnected : Bool
  mqttLastError : CString
  sensorStatus : CString
  machineStatus : CString
  deviceHealth : CString
  samplesOk : UInt64
  samplesRejected : UInt64
  publishOk : UInt64
  publishFailed : UInt64

/-- A request, and what happens outside of the service while it is handled. -/
structure HttpRequest where
  /-- `httpd_req_to_sockfd`, and `getsockname` on it. -/
  socketFd : Int32
  localAddress : Option SockAddr
  /-- Address and netmask of `wifi_get_softap_ipv4`. -/
  softapIpv4 : Option (UInt32 × UInt32)
  /-- The value of a header. -/
  header : String → Option CString
  contentLength : Nat
  /-- The body, none when the connection fails before it is complete. -/
  body : Option (List UInt8)
  /-- The length of the URL query, and the value of a key in it. -/
  queryLength : Nat
  queryValue : String → Option CString
  /-- Whether each response is sent, true for those after the list. -/
  sends : List Bool
  /-- The error of each commit to NVS, none for those after the list. -/
  commits : List (Option Failure)
  /-- The tokens that `random_hex` makes. -/
  newSession : CString
  newCsrf : CString
  /-- Whether `httpd_req_async_handler_begin`, `calloc` and `xTaskCreate` succeed. -/
  asyncBegins : Bool
  contextAllocated : Bool
  workerCreated : Bool
  status : DeviceStatus

/-- `device_config_redacted_t`, strings as C strings. -/
structure DeviceConfigRedacted where
  schemaVersion : UInt32
  revision : UInt32
  deviceId : List UInt8
  wifiSsid : List UInt8
  wifiPasswordConfigured : Bool
  mqttBrokerUri : List UInt8
  mqttUsername : List UInt8
  mqttPasswordConfigured : Bool
  mqttClientId : List UInt8
  mqttCaCertificateConfigured : Bool
  telemetryIntervalSeconds : UInt32
  machineStatusProvider : MachineProvider
  machineStatusGpio : Int32
  machineStatusActiveHigh : Bool
  machineStatusPull : Pull
  maintenanceOnBoot : Bool
  maintenanceWindowSeconds : UInt32
  maintenanceMaxSessionSeconds : UInt32

/-- `device_config_get_redacted_snapshot`. -/
def DeviceConfig.redacted (c : DeviceConfig) : DeviceConfigRedacted where
  schemaVersion := c.schemaVersion
  revision := c.revision
  deviceId := c.deviceId.toCString
  wifiSsid := c.wifiSsid.toCString
  wifiPasswordConfigured := c.wifiPassword.toCString != []
  mqttBrokerUri := c.mqttBrokerUri.toCString
  mqttUsername := c.mqttUsername.toCString
  mqttPasswordConfigured := c.mqttPassword.toCString != []
  mqttClientId := c.mqttClientId.toCString
  mqttCaCertificateConfigured := c.mqttCaCertificate.toCString != []
  telemetryIntervalSeconds := c.telemetryIntervalSeconds
  machineStatusProvider := c.machineStatusProvider
  machineStatusGpio := c.machineStatusGpio
  machineStatusActiveHigh := c.machineStatusActiveHigh
  machineStatusPull := c.machineStatusPull
  maintenanceOnBoot := c.maintenanceOnBoot
  maintenanceWindowSeconds := c.maintenanceWindowSeconds
  maintenanceMaxSessionSeconds := c.maintenanceMaxSessionSeconds

/-- What a handler passes to `httpd_resp_send`. -/
inductive HttpResponse where
  /-- `json_error`. -/
  | error (status message : String)
  /-- `PAGE`. -/
  | page
  /-- The answer to a login. -/
  | session (sessionToken csrfToken : CString) (generation : UInt64)
  /-- A fixed text of `send_json_text`. -/
  | text (body : String)
  | status (deviceId wifiSsid : List UInt8) (metadata : DeviceConfigMetadata)
    (status : DeviceStatus)
  /-- The running configuration, none when unprovisioned. -/
  | configuration (configuration : Option DeviceConfigRedacted)
  | logs (batch : DiagnosticBatch)
  /-- `204 No Content`. -/
  | noContent

/-- The response contains configuration, status or log data. -/
def HttpResponse.carriesData : HttpResponse → Bool
  | status .. => true
  | configuration _ => true
  | logs _ => true
  | _ => false

/-- The session token that the response issues. -/
def HttpResponse.issued : HttpResponse → Option CString
  | session sessionToken _ _ => some sessionToken
  | _ => none

/-- The service while it handles a request, with the responses so far. -/
structure Exchange where
  service : ProvisioningService
  responses : List HttpResponse
  sends : List Bool

/-- The body of a handler. -/
abbrev Handling := StateM Exchange

namespace ProvisioningService

/-- Change the service. -/
def update (f : ProvisioningService → ProvisioningService) : Handling Unit :=
  modify fun x ↦ { x with service := f x.service }

/-- The service as it is. -/
def current : Handling ProvisioningService := return (← get).service

/-- Send a response, with the result of `httpd_resp_send`. -/
def send (response : HttpResponse) : Handling EspErr := fun x ↦
  (if x.sends.headD true then .ok else .fail,
    { x with responses := x.responses ++ [response], sends := x.sends.tail })

/-- `json_error`. -/
def jsonError (status message : String) : Handling EspErr := send (.error status message)

end ProvisioningService
open ProvisioningService

/-! ### The local endpoint -/

/-- `provisioning_endpoint_class_t`. -/
inductive EndpointClass where
  | ipv4Softap
  | ipv4Other
  | ipv4MappedSoftap
  | ipv4MappedOther
  | ipv6Native
  | netifUnavailable
  | invalidSocket
  | getsocknameFailed
  | truncated
  | unexpectedFamily
  deriving DecidableEq

/-- `AF_INET` and `AF_INET6` of lwIP. -/
def afInet : Nat := 2
def afInet6 : Nat := 10

/-- The first twelve bytes of an IPv4-mapped address. -/
def mappedStart : List UInt8 := [0, 0, 0, 0, 0, 0, 0, 0, 0, 0, 0xff, 0xff]

/-- The address behind them, as it lies in memory. -/
def mappedIpv4 (address : Vector UInt8 16) : UInt32 :=
  Layout.word32 address[12] address[13] address[14] address[15]

/-- `provisioning_softap_classify_local_endpoint`. -/
def classifyLocalEndpoint (platform : HttpPlatform) (address : SockAddr) (softapIpv4 : UInt32) :
    EndpointClass :=
  if address.length < platform.familySize then .truncated
  else if address.family = afInet then
    if address.length < platform.sockaddrInSize then .truncated
    else if address.sinAddr = softapIpv4 then .ipv4Softap
    else .ipv4Other
  else if address.family = afInet6 then
    if address.length < platform.sockaddrIn6Size then .truncated
    else if address.sin6Addr.toList.take 12 ≠ mappedStart then .ipv6Native
    else if mappedIpv4 address.sin6Addr = softapIpv4 then .ipv4MappedSoftap
    else .ipv4MappedOther
  else .unexpectedFamily

/-- `provisioning_softap_authorize_socket`. -/
def authorizeSocket (platform : HttpPlatform) (request : HttpRequest) : EndpointClass :=
  match request.softapIpv4 with
  | none => .netifUnavailable
  | some (softapIpv4, softapNetmask) =>
    if softapIpv4 = 0 ∨ softapNetmask = 0 then .netifUnavailable
    else if request.socketFd < 0 then .invalidSocket
    else
      match request.localAddress with
      | none => .getsocknameFailed
      | some address =>
        if address.length > platform.sockaddrStorageSize then .truncated
        else classifyLocalEndpoint platform address softapIpv4

/-- `request_arrived_on_softap`. -/
def requestArrivedOnSoftap (platform : HttpPlatform) (request : HttpRequest) : Bool :=
  authorizeSocket platform request == .ipv4Softap
    || authorizeSocket platform request == .ipv4MappedSoftap

/-! ### Authentication -/

/-- `httpd_req_get_hdr_value_str` into a buffer of the given size. -/
def HttpRequest.headerValue (request : HttpRequest) (name : String) (size : Nat) :
    Option (List UInt8) :=
  match request.header name with
  | some value => if value.val.length < size then some value.val else none
  | none => none

/-- `strstr`: the rest of the string from the first occurrence on. -/
def strstrFrom (needle : List UInt8) : List UInt8 → Option (List UInt8)
  | [] => if needle.isEmpty then some [] else none
  | b :: s => if needle.isPrefixOf (b :: s) then some (b :: s) else strstrFrom needle s

/-- The name of the session cookie with its equals sign. -/
def cookieName : List UInt8 := ascii "IEM_SESSION="

/-- `cookie_token`. -/
def cookieToken (request : HttpRequest) : Option (List UInt8) := do
  let cookie ← request.headerValue "Cookie" 160
  let start ← strstrFrom cookieName cookie
  let token := (start.drop cookieName.length).takeWhile fun c ↦ c ≠ 59 ∧ c ≠ 32
  if token.length = 32 then some token else none

/-- The decision of `authenticated`, `provisioning_service.c:336–365`. -/
def authorizes (platform : HttpPlatform) (service : ProvisioningService) (request : HttpRequest)
    (modifying : Bool) : Bool :=
  if service.streamLifecycle.serviceStopping || !requestArrivedOnSoftap platform request then false
  else
    match cookieToken request with
    | none => false
    | some cookie =>
      let csrf := if modifying then request.headerValue "X-CSRF-Token" 40 else none
      if modifying && csrf.isNone then false
      else sessionAuthorized service.sessionToken.val cookie service.csrfToken.val csrf
        service.sessionExpiresMs service.nowMs modifying

/-- The call of `provisioning_state_authenticated_activity`. -/
def ProvisioningService.activity (service : ProvisioningService) : ProvisioningService :=
  { service with
    machine := service.machine.map (·.authenticated (UInt64.ofInt service.nowMs)) }

/-- `authenticated`: the authorized session generation. -/
def authenticated (platform : HttpPlatform) (request : HttpRequest) (modifying : Bool) :
    Handling (Option UInt64) := do
  let service ← current
  if authorizes platform service request modifying then
    update ProvisioningService.activity
    return some service.sessionGeneration
  else return none

/-- `require_auth`. The result of a refusal is the one of sending it. -/
def requireAuth (platform : HttpPlatform) (request : HttpRequest) (modifying : Bool) :
    Handling EspErr := do
  if (← authenticated platform request modifying).isSome then return .ok
  else jsonError "401 Unauthorized" "authentication or CSRF validation failed"

/-- `if (require_auth(request, modifying) != ESP_OK) return ESP_OK;` and what follows it in
a handler. -/
def afterAuth (platform : HttpPlatform) (request : HttpRequest) (modifying : Bool)
    (rest : Handling EspErr) : Handling EspErr := do
  if (← requireAuth platform request modifying) ≠ .ok then return .ok
  rest

/-! ### Bodies and queries -/

/-- `receive_json`. The result of a refusal is the one of sending it. -/
def receiveJson (platform : HttpPlatform) (request : HttpRequest) :
    Handling (EspErr × Option CJson) := do
  let contentType := request.headerValue "Content-Type" 64
  if !jsonBodyAllowed contentType 1 1 then
    let result ← jsonError "415 Unsupported Media Type" "Content-Type must be application/json"
    return (result, none)
  if !jsonBodyAllowed contentType request.contentLength platform.maxBodyBytes then
    let result ← jsonError "413 Content Too Large" "request body size is invalid"
    return (result, none)
  match request.body with
  | none => return (.fail, none)
  | some body =>
    let output := platform.parseJson body
    if isObject output then return (.ok, output)
    let result ← jsonError "400 Bad Request" "request body is not a JSON object"
    return (result, none)

/-- The digits of `strtoull` in base ten, saturating. -/
def decimalDigits : List UInt8 → Nat → Option Nat
  | [], parsed => some parsed
  | c :: rest, parsed =>
    if 48 ≤ c ∧ c ≤ 57 then decimalDigits rest (parsed * 10 + (c - 48).toNat) else none

/-- `strtoull` in base ten, none unless it reads the whole string. -/
def strtoull (value : List UInt8) : Option UInt64 :=
  let value := value.dropWhile fun c ↦ c = 32 ∨ (9 ≤ c ∧ c ≤ 13)
  let negative := value.head? = some 45
  let digits := if negative ∨ value.head? = some 43 then value.tail else value
  if digits = [] then none
  else (decimalDigits digits 0).map fun parsed ↦
    if parsed > uint64Max.toNat then uint64Max
    else if negative then 0 - UInt64.ofNat parsed
    else UInt64.ofNat parsed

/-- `httpd_query_key_value` into a buffer of the given size. -/
def HttpRequest.queryText (request : HttpRequest) (key : String) (size : Nat) :
    Option (List UInt8) :=
  match request.queryValue key with
  | some value => if value.val.length < size then some value.val else none
  | none => none

/-- `request_cursor`. -/
def requestCursor (request : HttpRequest) : Option UInt64 :=
  if request.queryLength = 0 then some 0
  else if request.queryLength ≥ 128 then none
  else
    match request.queryText "after" 24 with
    | none => none
    | some value => if value = [] then none else strtoull value

/-- `request_stream_generation`. -/
def requestStreamGeneration (request : HttpRequest) : Option (List UInt8) :=
  if request.queryLength = 0 ∨ request.queryLength ≥ 128 then none
  else
    match request.queryText "generation" 21 with
    | none => none
    | some value => if (parseStreamGeneration value).isSome then some value else none

/-! ### Handlers -/

/-- `root_handler`. -/
def rootHandler (platform : HttpPlatform) (request : HttpRequest) : Handling EspErr := do
  if !requestArrivedOnSoftap platform request then
    return ← jsonError "403 Forbidden" "provisioning is available only through the SoftAP"
  send .page

/-- A login with a wrong secret, `provisioning_service.c:411–417`. -/
def ProvisioningService.countFailure (platform : HttpPlatform) (service : ProvisioningService) :
    ProvisioningService :=
  let loginFailures := service.loginFailures + 1
  if loginFailures ≥ platform.loginMaxFailures then
    { service with
      loginFailures := 0
      loginLockedUntilMs := service.nowMs + platform.loginLockoutSeconds * 1000 }
  else { service with loginFailures }

/-- The session generation after the next change. -/
def ProvisioningService.nextGeneration (service : ProvisioningService) : UInt64 :=
  if service.sessionGeneration + 1 = 0 then 1 else service.sessionGeneration + 1

/-- A login with the setup secret, `provisioning_service.c:426–433`. -/
def ProvisioningService.openSession (platform : HttpPlatform) (request : HttpRequest)
    (service : ProvisioningService) : ProvisioningService :=
  { service with
    loginFailures := 0
    sessionGeneration := service.nextGeneration
    sessionToken := request.newSession
    csrfToken := request.newCsrf
    sessionExpiresMs := service.nowMs + platform.sessionSeconds * 1000 }

/-- `session_clear`. -/
def ProvisioningService.sessionClear (service : ProvisioningService) : ProvisioningService :=
  { service with
    sessionToken := .empty
    csrfToken := .empty
    sessionExpiresMs := 0
    sessionGeneration := service.nextGeneration }

/-- `request_stream_shutdown(false)`. -/
def ProvisioningService.streamShutdown (service : ProvisioningService) : ProvisioningService :=
  { service with streamLifecycle := (service.streamLifecycle.requestShutdown false).2 }

/-- `session_create_handler`. -/
def sessionCreateHandler (platform : HttpPlatform) (request : HttpRequest) :
    Handling EspErr := do
  if !requestArrivedOnSoftap platform request then
    return ← jsonError "403 Forbidden" "login is available only through the SoftAP"
  let service ← current
  if service.nowMs < service.loginLockedUntilMs then
    return ← jsonError "429 Too Many Requests" "login temporarily locked"
  let (result, body) ← receiveJson platform request
  if result ≠ .ok then return .ok
  let valid := (text? (item body "secret")).any (constantTimeEqual · service.setupSecret.val)
  if !valid then
    update (·.countFailure platform)
    return ← jsonError "401 Unauthorized" "invalid credentials"
  update (·.openSession platform request)
  update ProvisioningService.streamShutdown
  let result ← send (.session request.newSession request.newCsrf service.nextGeneration)
  update ProvisioningService.activity
  return result

/-- `session_delete_handler` after its check. -/
def deleteSession : Handling EspErr := do
  update ProvisioningService.sessionClear
  update ProvisioningService.streamShutdown
  send (.text "\x7b\"ok\":true\x7d")

/-- `session_delete_handler`. -/
def sessionDeleteHandler (platform : HttpPlatform) (request : HttpRequest) :
    Handling EspErr :=
  afterAuth platform request true deleteSession

/-- `status_handler` after its check. -/
def sendStatus (request : HttpRequest) : Handling EspErr := do
  let service ← current
  let (result, metadata) := getMetadataLocked .zero service.store.flash
  if result ≠ .ok then
    return ← jsonError "503 Service Unavailable" "configuration metadata is unavailable"
  match service.currentConfiguration with
  | some c => send (.status c.deviceId.toCString c.wifiSsid.toCString metadata request.status)
  | none => send (.status (ascii "unprovisioned") [] metadata request.status)

/-- `status_handler`. -/
def statusHandler (platform : HttpPlatform) (request : HttpRequest) : Handling EspErr :=
  afterAuth platform request false (sendStatus request)

/-- `config_handler` after its check. -/
def sendConfiguration : Handling EspErr := do
  let service ← current
  send (.configuration (service.currentConfiguration.map DeviceConfig.redacted))

/-- `config_handler`. -/
def configHandler (platform : HttpPlatform) (request : HttpRequest) : Handling EspErr :=
  afterAuth platform request false sendConfiguration

/-- The faults of the commits of a request. -/
def HttpRequest.faults (request : HttpRequest) : List (Fault Failure) :=
  request.commits.map fun
    | none => .applied
    | some e => .failed e

/-- A call of the configuration store. -/
def callStore (platform : HttpPlatform) (request : HttpRequest) (op : Operation) :
    Handling EspErr := fun x ↦
  let r := (configStore platform.toPlatform).step x.service.store (.call op request.faults)
  ((r.2.reply.map (·.result)).getD .fail, { x with service := { x.service with store := r.1 } })

/-- `candidate_put_handler` after its check. -/
def putCandidate (platform : HttpPlatform) (request : HttpRequest) : Handling EspErr := do
  let (result, body) ← receiveJson platform request
  if result ≠ .ok then return .ok
  let service ← current
  match parseConfiguration platform.toPlatform service.currentConfiguration body with
  | .error message => jsonError "422 Unprocessable Content" message
  | .ok candidate =>
    let result ← callStore platform request (.stage candidate)
    if result = .invalidState then
      return ← jsonError "409 Conflict" "candidate validation is already in progress"
    if result ≠ .ok then
      return ← jsonError "422 Unprocessable Content" "candidate persistence failed"
    send (.text "\x7b\"ok\":true,\"state\":\"pending\"\x7d")

/-- `candidate_put_handler`. -/
def candidatePutHandler (platform : HttpPlatform) (request : HttpRequest) :
    Handling EspErr :=
  afterAuth platform request true (putCandidate platform request)

/-- `candidate_delete_handler` after its check. -/
def deleteCandidate (platform : HttpPlatform) (request : HttpRequest) : Handling EspErr := do
  let result ← callStore platform request .cancel
  if result = .invalidState then
    return ← jsonError "409 Conflict" "candidate validation is already in progress"
  if result ≠ .ok then
    return ← jsonError "500 Internal Server Error" "candidate cancellation failed"
  send (.text "\x7b\"ok\":true\x7d")

/-- `candidate_delete_handler`. -/
def candidateDeleteHandler (platform : HttpPlatform) (request : HttpRequest) :
    Handling EspErr :=
  afterAuth platform request true (deleteCandidate platform request)

/-- The answer and the restart at the end of `apply_handler` and
`delayed_restart_response`. -/
def restartResponse : Handling EspErr := do
  let _ ← send (.text "\x7b\"ok\":true,\"rebooting\":true\x7d")
  update fun service ↦ { service with restarts := service.restarts + 1 }
  return .ok

/-- `delayed_restart_response` after its check. -/
def delayedRestart (platform : HttpPlatform) (request : HttpRequest)
    (factoryReset : Bool) : Handling EspErr := do
  if factoryReset then
    if !((request.headerValue "X-Confirm-Factory-Reset" 64).any factoryConfirmed) then
      return ← jsonError "409 Conflict" "strong factory-reset confirmation is required"
    if (← callStore platform request .factoryReset) ≠ .ok then
      return ← jsonError "500 Internal Server Error" "factory reset failed"
  restartResponse

/-- `delayed_restart_response`. -/
def delayedRestartResponse (platform : HttpPlatform) (request : HttpRequest)
    (factoryReset : Bool) : Handling EspErr :=
  afterAuth platform request true (delayedRestart platform request factoryReset)

/-- `reboot_handler`. -/
def rebootHandler (platform : HttpPlatform) (request : HttpRequest) : Handling EspErr :=
  delayedRestartResponse platform request false

/-- `factory_reset_handler`. -/
def factoryResetHandler (platform : HttpPlatform) (request : HttpRequest) : Handling EspErr :=
  delayedRestartResponse platform request true

/-- `apply_handler` after its check. -/
def applyCandidate : Handling EspErr := do
  let service ← current
  if service.store.ram.candidateValidationInProgress then
    return ← jsonError "409 Conflict" "candidate validation is already in progress"
  let (result, metadata) := getMetadataLocked .zero service.store.flash
  if result ≠ .ok ∨ metadata.state ≠ ConfigState.pending then
    return ← jsonError "409 Conflict" "no validated candidate is pending"
  restartResponse

/-- `apply_handler`. -/
def applyHandler (platform : HttpPlatform) (request : HttpRequest) : Handling EspErr :=
  afterAuth platform request true applyCandidate

/-- `logs_handler` after its check. -/
def sendLogs (request : HttpRequest) : Handling EspErr := do
  match requestCursor request with
  | none => jsonError "400 Bad Request" "after cursor is invalid"
  | some after =>
    let service ← current
    send (.logs (service.diagnosticLog.batch after))

/-- `logs_handler`. -/
def logsHandler (platform : HttpPlatform) (request : HttpRequest) : Handling EspErr :=
  afterAuth platform request false (sendLogs request)

/-- A call of `provisioning_stream_complete`. -/
def ProvisioningService.completeWorker (workerGeneration : UInt64)
    (service : ProvisioningService) : ProvisioningService :=
  { service with streamLifecycle := (service.streamLifecycle.complete workerGeneration).2 }

/-- `logs_stream_handler` after the admission of a worker. -/
def startWorker (request : HttpRequest) (workerGeneration : UInt64) : Handling EspErr := do
  if !request.asyncBegins then
    update (·.completeWorker workerGeneration)
    return ← jsonError "503 Service Unavailable" "asynchronous diagnostic stream unavailable"
  if !request.contextAllocated then
    let _ ← jsonError "503 Service Unavailable" "diagnostic stream context unavailable"
    update (·.completeWorker workerGeneration)
    return .ok
  let attached := (← current).streamLifecycle.attachSocket workerGeneration request.socketFd
  update fun service ↦ { service with streamLifecycle := attached.2 }
  if !attached.1 then
    let _ ← jsonError "503 Service Unavailable" "diagnostic stream is stopping"
    update (·.completeWorker workerGeneration)
    return .ok
  if !request.workerCreated then
    let _ ← jsonError "503 Service Unavailable" "diagnostic worker unavailable"
    update (·.completeWorker workerGeneration)
  return .ok

/-- `logs_stream_handler`. -/
def logsStreamHandler (platform : HttpPlatform) (request : HttpRequest) :
    Handling EspErr := do
  match ← authenticated platform request false with
  | none => send .noContent
  | some authorizedGeneration =>
    match requestStreamGeneration request with
    | none => send .noContent
    | some requestedGeneration =>
      let service ← current
      if !(streamRequestAuthorized requestedGeneration authorizedGeneration
          service.sessionExpiresMs service.nowMs
          && service.sessionGeneration == authorizedGeneration) then
        return ← send .noContent
      match service.streamLifecycle.admitWorker with
      | none => jsonError "409 Conflict" "only one diagnostic stream is allowed"
      | some (workerGeneration, streamLifecycle) =>
        update fun service ↦ { service with streamLifecycle }
        startWorker request workerGeneration

/-! ### Routes -/

/-- `httpd_method_t`. -/
inductive HttpMethod where
  | get
  | post
  | put
  | delete
  deriving DecidableEq

/-- The registered handlers, `provisioning_service.c:1033–1046`. -/
inductive Route where
  | root
  | sessionCreate
  | sessionDelete
  | status
  | config
  | candidatePut
  | candidateDelete
  | apply
  | logs
  | logsStream
  | reboot
  | factoryReset
  deriving DecidableEq

namespace Route

def uri : Route → String
  | root => "/"
  | sessionCreate => "/api/session"
  | sessionDelete => "/api/session"
  | status => "/api/status"
  | config => "/api/config"
  | candidatePut => "/api/config/candidate"
  | candidateDelete => "/api/config/candidate"
  | apply => "/api/config/apply"
  | logs => "/api/logs"
  | logsStream => "/api/logs/stream"
  | reboot => "/api/reboot"
  | factoryReset => "/api/factory-reset"

def method : Route → HttpMethod
  | sessionCreate => .post
  | sessionDelete => .delete
  | candidatePut => .put
  | candidateDelete => .delete
  | apply => .post
  | reboot => .post
  | factoryReset => .post
  | _ => .get

def handler (platform : HttpPlatform) (request : HttpRequest) : Route → Handling EspErr
  | root => rootHandler platform request
  | sessionCreate => sessionCreateHandler platform request
  | sessionDelete => sessionDeleteHandler platform request
  | status => statusHandler platform request
  | config => configHandler platform request
  | candidatePut => candidatePutHandler platform request
  | candidateDelete => candidateDeleteHandler platform request
  | apply => applyHandler platform request
  | logs => logsHandler platform request
  | logsStream => logsStreamHandler platform request
  | reboot => rebootHandler platform request
  | factoryReset => factoryResetHandler platform request

end Route

/-- A request handled by the service. -/
def ProvisioningService.handle (platform : HttpPlatform) (service : ProvisioningService)
    (route : Route) (request : HttpRequest) : ProvisioningService × List HttpResponse :=
  let x := ((route.handler platform request).run ⟨service, [], request.sends⟩).2
  (x.service, x.responses)

end EdgeMonitor.Firmware
