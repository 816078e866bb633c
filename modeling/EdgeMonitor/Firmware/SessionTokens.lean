import EdgeMonitor.Base.Machine
import EdgeMonitor.Firmware.AccessControl

/-!
# Session tokens of the provisioning server

Library `Firmware`. Runs of the provisioning service: requests, time, stops, restarts and
what other tasks do in between. A token that was issued once is refused after the session
it opened has ended.
-/

namespace EdgeMonitor.Firmware
open EdgeMonitor.Base
open CJson
open ProvisioningService

/-! ### Runs -/

/-- What happens to the service. -/
inductive ProvisioningEvent where
  | request (route : Route) (request : HttpRequest)
  | elapse (ms : Nat)
  /-- `provisioning_service_stop` reaches `session_clear`. -/
  | stop
  /-- The firmware starts, with what it finds in NVS. -/
  | boot (service : ProvisioningService)
  /-- Other tasks leave the modules behind the service in some state. -/
  | others (service : ProvisioningService)

/-- The service with the session of another state of it. -/
def ProvisioningService.withSession (service session : ProvisioningService) :
    ProvisioningService :=
  { service with
    sessionToken := session.sessionToken
    csrfToken := session.csrfToken
    sessionExpiresMs := session.sessionExpiresMs
    sessionGeneration := session.sessionGeneration
    nowMs := session.nowMs }

/-- The service after a start of the firmware, when its variables are zero. -/
def ProvisioningService.booted (service : ProvisioningService) : ProvisioningService :=
  { service with
    sessionToken := .empty
    csrfToken := .empty
    sessionExpiresMs := 0
    sessionGeneration := 0
    loginFailures := 0
    loginLockedUntilMs := 0
    nowMs := 0 }

/-- The service with its environment. The output of a step is what was sent. -/
def provisioningServer (platform : HttpPlatform) :
    Machine ProvisioningService ProvisioningEvent (List HttpResponse) where
  step service
    | .request route request => service.handle platform route request
    | .elapse ms => ({ service with nowMs := service.nowMs + ms }, [])
    | .stop => (service.sessionClear, [])
    | .boot other => (other.booted, [])
    | .others other => (other.withSession service, [])

/-- The tokens that responses issue. -/
def issuedTokens (responses : List HttpResponse) : List CString :=
  responses.filterMap HttpResponse.issued

/-- The tokens issued in a run. -/
def issuedAlong (platform : HttpPlatform) (service : ProvisioningService)
    (events : List ProvisioningEvent) : List CString :=
  ((provisioningServer platform).trace service events).flatMap fun step ↦ issuedTokens step.2

/-- The events that end a session: a logout, a login, and its expiry. -/
inductive EndsSession (platform : HttpPlatform) (service : ProvisioningService) :
    ProvisioningEvent → Prop
  | logout {request : HttpRequest} (h : authorizes platform service request true = true) :
      EndsSession platform service (.request .sessionDelete request)
  | login {request : HttpRequest}
      (h : issuedTokens (service.handle platform .sessionCreate request).2 ≠ []) :
      EndsSession platform service (.request .sessionCreate request)
  | expiry {ms : Nat} (h : service.sessionExpiresMs ≤ service.nowMs + ms) :
      EndsSession platform service (.elapse ms)

/-! ### What a handler does to the session -/

/-- The session, its end and the clock are as before. -/
structure ProvisioningService.SameSession (service service' : ProvisioningService) : Prop where
  token_eq : service'.sessionToken = service.sessionToken
  expires_eq : service'.sessionExpiresMs = service.sessionExpiresMs
  now_eq : service'.nowMs = service.nowMs

namespace ProvisioningService.SameSession
variable {s s' s'' : ProvisioningService}

theorem refl (s : ProvisioningService) : s.SameSession s := ⟨rfl, rfl, rfl⟩

theorem trans (h : s.SameSession s') (h' : s'.SameSession s'') : s.SameSession s'' :=
  ⟨h'.token_eq.trans h.token_eq, h'.expires_eq.trans h.expires_eq, h'.now_eq.trans h.now_eq⟩

end ProvisioningService.SameSession

/-- Handling leaves the session alone, and issues none. -/
structure KeepsSession {α : Type} (m : Handling α) : Prop where
  same (x : Exchange) : x.service.SameSession (m.run x).2.service
  issued_eq (x : Exchange) :
    issuedTokens (m.run x).2.responses = issuedTokens x.responses

namespace KeepsSession
variable {α β : Type}

theorem pure (a : α) : KeepsSession (Pure.pure a) := ⟨fun x ↦ .refl x.service, fun _ ↦ rfl⟩

theorem bind {m : Handling α} {f : α → Handling β} (h : KeepsSession m)
    (hf : ∀ a, KeepsSession (f a)) : KeepsSession (m >>= f) where
  same x := (h.same x).trans ((hf _).same _)
  issued_eq x := ((hf _).issued_eq _).trans (h.issued_eq x)

theorem current : KeepsSession ProvisioningService.current :=
  ⟨fun x ↦ .refl x.service, fun _ ↦ rfl⟩

theorem update {f : ProvisioningService → ProvisioningService}
    (h : ∀ s : ProvisioningService, s.SameSession (f s)) :
    KeepsSession (ProvisioningService.update f) :=
  ⟨fun x ↦ h x.service, fun _ ↦ rfl⟩

theorem send {response : HttpResponse} (h : response.issued = none) :
    KeepsSession (ProvisioningService.send response) where
  same x := .refl x.service
  issued_eq x := by simp [run_send, issuedTokens, h]

theorem error (status message : String) : KeepsSession (jsonError status message) := send rfl

theorem callStore (platform : HttpPlatform) (request : HttpRequest) (op : Operation) :
    KeepsSession (Firmware.callStore platform request op) :=
  ⟨fun _ ↦ ⟨rfl, rfl, rfl⟩, fun _ ↦ rfl⟩

theorem authenticated (platform : HttpPlatform) (request : HttpRequest) (modifying : Bool) :
    KeepsSession (Firmware.authenticated platform request modifying) := by
  refine .bind .current fun service ↦ ?_
  split
  next => exact .bind (.update fun _ ↦ ⟨rfl, rfl, rfl⟩) fun _ ↦ .pure _
  next => exact .pure _

theorem requireAuth (platform : HttpPlatform) (request : HttpRequest) (modifying : Bool) :
    KeepsSession (Firmware.requireAuth platform request modifying) := by
  refine .bind (.authenticated platform request modifying) fun generation ↦ ?_
  split
  next => exact .pure _
  next => exact .error _ _

theorem afterAuth {platform : HttpPlatform} {request : HttpRequest} {modifying : Bool}
    {rest : Handling EspErr} (h : KeepsSession rest) :
    KeepsSession (Firmware.afterAuth platform request modifying rest) := by
  refine .bind (.requireAuth platform request modifying) fun result ↦ ?_
  split
  next => exact .pure _
  next => exact h

theorem receiveJson (platform : HttpPlatform) (request : HttpRequest) :
    KeepsSession (Firmware.receiveJson platform request) := by
  unfold Firmware.receiveJson
  dsimp only
  split
  next => exact .bind (.error _ _) fun _ ↦ .pure _
  next =>
    split
    next => exact .bind (.error _ _) fun _ ↦ .pure _
    next =>
      split
      next => exact .pure _
      next =>
        split
        next => exact .pure _
        next => exact .bind (.error _ _) fun _ ↦ .pure _

end KeepsSession

section Handlers
variable (platform : HttpPlatform) (request : HttpRequest)

theorem keepsSession_root : KeepsSession (rootHandler platform request) := by
  unfold rootHandler
  split
  next => exact .error _ _
  next => exact .send rfl

theorem keepsSession_sendStatus : KeepsSession (sendStatus request) := by
  refine .bind .current fun service ↦ ?_
  dsimp only
  split
  next => exact .error _ _
  next =>
    split
    next => exact .send rfl
    next => exact .send rfl

theorem keepsSession_sendConfiguration : KeepsSession sendConfiguration :=
  .bind .current fun _ ↦ .send rfl

theorem keepsSession_putCandidate : KeepsSession (putCandidate platform request) := by
  refine .bind (.receiveJson platform request) fun received ↦ ?_
  dsimp only
  split
  next => exact .pure _
  next =>
    refine .bind .current fun service ↦ ?_
    split
    next => exact .error _ _
    next =>
      refine .bind (.callStore platform request _) fun result ↦ ?_
      split
      next => exact .error _ _
      next =>
        split
        next => exact .error _ _
        next => exact .send rfl

theorem keepsSession_deleteCandidate : KeepsSession (deleteCandidate platform request) := by
  refine .bind (.callStore platform request _) fun result ↦ ?_
  split
  next => exact .error _ _
  next =>
    split
    next => exact .error _ _
    next => exact .send rfl

theorem keepsSession_restartResponse : KeepsSession restartResponse :=
  .bind (.send rfl) fun _ ↦ .bind (.update fun _ ↦ ⟨rfl, rfl, rfl⟩) fun _ ↦ .pure _

theorem keepsSession_delayedRestart (factoryReset : Bool) :
    KeepsSession (delayedRestart platform request factoryReset) := by
  unfold delayedRestart
  split
  next =>
    split
    next => exact .error _ _
    next =>
      refine .bind (.callStore platform request _) fun result ↦ ?_
      split
      next => exact .error _ _
      next => exact keepsSession_restartResponse
  next => exact keepsSession_restartResponse

theorem keepsSession_applyCandidate : KeepsSession applyCandidate := by
  refine .bind .current fun service ↦ ?_
  split
  next => exact .error _ _
  next =>
    dsimp only
    split
    next => exact .error _ _
    next => exact keepsSession_restartResponse

theorem keepsSession_sendLogs : KeepsSession (sendLogs request) := by
  unfold sendLogs
  split
  next => exact .error _ _
  next => exact .bind .current fun _ ↦ .send rfl

theorem keepsSession_startWorker (generation : UInt64) :
    KeepsSession (startWorker request generation) := by
  have hcomplete : KeepsSession (update (·.completeWorker generation)) :=
    .update fun _ ↦ ⟨rfl, rfl, rfl⟩
  unfold startWorker
  split
  next => exact .bind hcomplete fun _ ↦ .error _ _
  next =>
    split
    next => exact .bind (.error _ _) fun _ ↦ .bind hcomplete fun _ ↦ .pure _
    next =>
      refine .bind .current fun service ↦ .bind (.update fun _ ↦ ⟨rfl, rfl, rfl⟩) fun _ ↦ ?_
      split
      next => exact .bind (.error _ _) fun _ ↦ .bind hcomplete fun _ ↦ .pure _
      next =>
        split
        next => exact .bind (.error _ _) fun _ ↦ .bind hcomplete fun _ ↦ .pure _
        next => exact .pure _

theorem keepsSession_logsStream : KeepsSession (logsStreamHandler platform request) := by
  refine .bind (.authenticated platform request false) fun generation ↦ ?_
  split
  next => exact .send rfl
  next =>
    split
    next => exact .send rfl
    next =>
      refine .bind .current fun service ↦ ?_
      split
      next => exact .send rfl
      next =>
        split
        next => exact .error _ _
        next =>
          exact .bind (.update fun _ ↦ ⟨rfl, rfl, rfl⟩) fun _ ↦ keepsSession_startWorker request _

end Handlers

/-- What one step does to the session, with the tokens that it issues. -/
inductive SessionStep (service service' : ProvisioningService) : List CString → Prop
  | kept (h : service.SameSession service') : SessionStep service service' []
  | cleared (h : service'.sessionToken.val = []) : SessionStep service service' []
  | opened : SessionStep service service' [service'.sessionToken]

/-- Handling does one such step. -/
def StepsSession {α : Type} (m : Handling α) : Prop :=
  ∀ x : Exchange, ∃ tokens, SessionStep x.service (m.run x).2.service tokens ∧
    issuedTokens (m.run x).2.responses = issuedTokens x.responses ++ tokens

namespace StepsSession
variable {α β : Type}

theorem of_keeps {m : Handling α} (h : KeepsSession m) : StepsSession m :=
  fun x ↦ ⟨[], .kept (h.same x), by rw [h.issued_eq x, List.append_nil]⟩

theorem bind {m : Handling α} {f : α → Handling β} (h : KeepsSession m)
    (hf : ∀ a, StepsSession (f a)) : StepsSession (m >>= f) := by
  intro x
  obtain ⟨tokens, hstep, hissued⟩ := hf (m.run x).1 (m.run x).2
  refine ⟨tokens, ?_, by rw [run_bind, hissued, h.issued_eq x]⟩
  rw [run_bind]
  cases hstep with
  | kept hsame => exact .kept ((h.same x).trans hsame)
  | cleared hempty => exact .cleared hempty
  | opened => exact .opened

theorem sessionCreate (platform : HttpPlatform) (request : HttpRequest) :
    StepsSession (sessionCreateHandler platform request) := by
  unfold sessionCreateHandler
  split
  next => exact .of_keeps (.error _ _)
  next =>
    refine .bind .current fun service ↦ ?_
    split
    next => exact .of_keeps (.error _ _)
    next =>
      refine .bind (.receiveJson platform request) fun received ↦ ?_
      dsimp only
      split
      next => exact .of_keeps (.pure _)
      next =>
        split
        next =>
          refine .of_keeps (.bind (.update fun s ↦ ?_) fun _ ↦ .error _ _)
          rw [ProvisioningService.countFailure]
          split <;> exact ⟨rfl, rfl, rfl⟩
        next => exact fun x ↦ ⟨[request.newSession], .opened, List.filterMap_append⟩

theorem sessionDelete (platform : HttpPlatform) (request : HttpRequest) :
    StepsSession (sessionDeleteHandler platform request) := by
  refine .bind (.requireAuth platform request true) fun result ↦ ?_
  split
  next => exact .of_keeps (.pure _)
  next => exact fun x ↦ ⟨[], .cleared rfl, List.filterMap_append⟩

theorem handler (platform : HttpPlatform) (request : HttpRequest) (route : Route) :
    StepsSession (route.handler platform request) := by
  cases route with
  | root => exact .of_keeps (keepsSession_root platform request)
  | sessionCreate => exact sessionCreate platform request
  | sessionDelete => exact sessionDelete platform request
  | status => exact .of_keeps (.afterAuth (keepsSession_sendStatus request))
  | config => exact .of_keeps (.afterAuth keepsSession_sendConfiguration)
  | candidatePut => exact .of_keeps (.afterAuth (keepsSession_putCandidate platform request))
  | candidateDelete =>
    exact .of_keeps (.afterAuth (keepsSession_deleteCandidate platform request))
  | apply => exact .of_keeps (.afterAuth keepsSession_applyCandidate)
  | logs => exact .of_keeps (.afterAuth (keepsSession_sendLogs request))
  | logsStream => exact .of_keeps (keepsSession_logsStream platform request)
  | reboot => exact .of_keeps (.afterAuth (keepsSession_delayedRestart platform request false))
  | factoryReset =>
    exact .of_keeps (.afterAuth (keepsSession_delayedRestart platform request true))

end StepsSession

/-- Handling a request keeps the session, clears it or opens one. -/
theorem sessionStep_handle (platform : HttpPlatform) (service : ProvisioningService)
    (route : Route) (request : HttpRequest) :
    SessionStep service (service.handle platform route request).1
      (issuedTokens (service.handle platform route request).2) := by
  obtain ⟨tokens, hstep, hissued⟩ :=
    StepsSession.handler platform request route ⟨service, [], request.sends⟩
  have htokens : issuedTokens (service.handle platform route request).2 = tokens := hissued
  rw [htokens]
  exact hstep

/-! ### Spent tokens -/

/-- The token opens nothing: it is not the current one, or the session has expired. -/
def ProvisioningService.Spent (service : ProvisioningService) (token : List UInt8) : Prop :=
  service.sessionToken.val ≠ token ∨ service.sessionExpiresMs ≤ service.nowMs

/-- A spent token stays spent unless it is issued again. -/
theorem spent_step {platform : HttpPlatform} {service : ProvisioningService}
    {event : ProvisioningEvent} {token : List UInt8} (hlength : token ≠ [])
    (h : service.Spent token)
    (hissued : ∀ t ∈ issuedTokens ((provisioningServer platform).step service event).2,
      t.val ≠ token) :
    ((provisioningServer platform).step service event).1.Spent token := by
  cases event with
  | request route request =>
    change (service.handle platform route request).1.Spent token
    change ∀ t ∈ issuedTokens (service.handle platform route request).2, t.val ≠ token at hissued
    have hstep := sessionStep_handle platform service route request
    generalize issuedTokens (service.handle platform route request).2 = tokens at *
    cases hstep with
    | kept hsame => rwa [Spent, hsame.token_eq, hsame.expires_eq, hsame.now_eq]
    | cleared hempty => exact .inl (by rw [hempty]; exact hlength.symm)
    | opened => exact .inl (hissued _ (List.mem_singleton_self _))
  | elapse ms =>
    refine h.imp id fun hexpired ↦ ?_
    change service.sessionExpiresMs ≤ service.nowMs + ms
    omega
  | stop => exact .inl hlength.symm
  | boot other => exact .inl hlength.symm
  | others other => exact h

theorem issuedAlong_append (platform : HttpPlatform) (service : ProvisioningService)
    (events events' : List ProvisioningEvent) : issuedAlong platform service (events ++ events') =
      issuedAlong platform service events ++
        issuedAlong platform ((provisioningServer platform).run service events) events' := by
  rw [issuedAlong, Machine.trace_append, List.flatMap_append]
  rfl

theorem issuedAlong_cons (platform : HttpPlatform) (service : ProvisioningService)
    (event : ProvisioningEvent) (events : List ProvisioningEvent) :
    issuedAlong platform service (event :: events) =
      issuedTokens ((provisioningServer platform).step service event).2 ++
        issuedAlong platform ((provisioningServer platform).step service event).1 events := rfl

/-- A spent token stays spent along a run that does not issue it. -/
theorem spent_run {platform : HttpPlatform} {service : ProvisioningService}
    {events : List ProvisioningEvent} {token : List UInt8} (hlength : token ≠ [])
    (h : service.Spent token)
    (hissued : ∀ t ∈ issuedAlong platform service events, t.val ≠ token) :
    ((provisioningServer platform).run service events).Spent token := by
  induction events generalizing service with
  | nil => exact h
  | cons event events ih =>
    rw [issuedAlong_cons] at hissued
    rw [Machine.run_cons]
    exact ih (spent_step hlength h fun t ht ↦ hissued t (List.mem_append_left _ ht))
      fun t ht ↦ hissued t (List.mem_append_right _ ht)

/-- After the end of a session every token that was not just issued is spent. -/
theorem spent_of_ends {platform : HttpPlatform} {service : ProvisioningService}
    {event : ProvisioningEvent} {token : List UInt8} (hends : EndsSession platform service event)
    (hlength : token ≠ [])
    (hissued : ∀ t ∈ issuedTokens ((provisioningServer platform).step service event).2,
      t.val ≠ token) :
    ((provisioningServer platform).step service event).1.Spent token := by
  cases hends with
  | @logout request h =>
    have hrun : (sessionDeleteHandler platform request).run ⟨service, [], request.sends⟩ =
        deleteSession.run ⟨service.activity, [], request.sends⟩ :=
      run_afterAuth_of_authorizes h deleteSession
    have hcleared : (service.handle platform .sessionDelete request).1.sessionToken.val = [] :=
      congrArg (fun r ↦ r.2.service.sessionToken.val) hrun
    refine .inl fun htoken ↦ hlength ?_
    rw [← htoken]
    exact hcleared
  | @login request h =>
    change (service.handle platform .sessionCreate request).1.Spent token
    change ∀ t ∈ issuedTokens (service.handle platform .sessionCreate request).2,
      t.val ≠ token at hissued
    have hstep := sessionStep_handle platform service .sessionCreate request
    generalize issuedTokens (service.handle platform .sessionCreate request).2 = tokens at *
    cases hstep with
    | kept => exact absurd rfl h
    | cleared => exact absurd rfl h
    | opened => exact .inl (hissued _ (List.mem_singleton_self _))
  | expiry h => exact .inr h

/-- A spent token authorizes nothing. -/
theorem not_authorizes_of_spent {platform : HttpPlatform} {service : ProvisioningService}
    {request : HttpRequest} {modifying : Bool} {token : List UInt8} (h : service.Spent token)
    (hcookie : cookieToken request = some token) :
    authorizes platform service request modifying = false := by
  refine Bool.eq_false_iff.mpr fun hauthorizes ↦ ?_
  have hauthorized := authorized_of_authorizes hauthorizes
  have htoken : token = service.sessionToken.val :=
    Option.some.inj (hcookie.symm.trans hauthorized.cookie_eq)
  rcases h with hother | hexpired
  · exact hother htoken.symm
  · exact absurd hauthorized.lasts (not_lt.mpr hexpired)

/-! ### Access control -/

/-- A refused request is harmless exactly if it is not refused after all, its refusal could
not be sent, or the rest of its handler is idle. And if no token is issued twice, then no
token from before the end of a session is accepted after it. -/
theorem provisioning_access (platform : HttpPlatform) (service : ProvisioningService) :
    (∀ route request,
      (service.Refused route request → service.Harmless (service.handle platform route request)) ↔
        ¬ service.Refused route request ∨ request.sends.headD true = false ∨
          service.Idle platform request route) ∧
    ∀ before event after,
      EndsSession platform ((provisioningServer platform).run service before) event →
      (service.sessionToken ::
        issuedAlong platform service (before ++ event :: after)).Nodup →
      ∀ token ∈ service.sessionToken :: issuedAlong platform service before,
      ∀ request, cookieToken request = some token.val → ∀ modifying,
        authorizes platform ((provisioningServer platform).run service (before ++ event :: after))
          request modifying = false := by
  refine ⟨fun route request ↦ ?_, ?_⟩
  · by_cases hrefused : service.Refused route request
    · rw [harmless_iff_of_refused platform hrefused]
      simp [hrefused]
    · simp [hrefused]
  · intro before event after hends hnodup token htoken request hcookie modifying
    have hlength : token.val ≠ [] := by
      intro hempty
      have hlength := (cookieToken_eq_some hcookie).1
      rw [hempty] at hlength
      cases hlength
    rw [issuedAlong_append, ← List.cons_append, List.nodup_append] at hnodup
    have hother : ∀ t ∈ issuedAlong platform ((provisioningServer platform).run service before)
        (event :: after), t.val ≠ token.val :=
      fun t ht heq ↦ hnodup.2.2 token htoken t ht (Subtype.ext heq.symm)
    rw [issuedAlong_cons] at hother
    refine not_authorizes_of_spent ?_ hcookie
    rw [Machine.run_append, Machine.run_cons]
    exact spent_run hlength
      (spent_of_ends hends hlength fun t ht ↦ hother t (List.mem_append_left _ ht))
      fun t ht ↦ hother t (List.mem_append_right _ ht)

/-! ### A restart without a login -/

/-- A build of the service on a platform whose JSON parser accepts nothing. -/
def sampleHttpPlatform : HttpPlatform where
  toPlatform := DeviceConfig.samplePlatform
  maxBodyBytes := 16384
  sessionSeconds := 900
  loginMaxFailures := 5
  loginLockoutSeconds := 300
  parseJson _ := none
  familySize := 2
  sockaddrInSize := 16
  sockaddrIn6Size := 28
  sockaddrStorageSize := 28

/-- A session token and a CSRF token. -/
def sampleToken : CString := ⟨List.replicate 32 97, by decide⟩
def sampleCsrfToken : CString := ⟨List.replicate 32 98, by decide⟩

/-- A running service, ten seconds before the end of a session. -/
def sampleService : ProvisioningService where
  store := ⟨.erased, .clear⟩
  diagnosticLog := .reset
  currentConfiguration := none
  setupSecret := ⟨[115], by decide⟩
  machine := none
  sessionToken := sampleToken
  csrfToken := sampleCsrfToken
  sessionExpiresMs := 20000
  sessionGeneration := 1
  loginFailures := 0
  loginLockedUntilMs := 0
  streamLifecycle := .init
  nowMs := 10000
  restarts := 0

/-- What `status_handler` reads in the samples. -/
def sampleDeviceStatus : DeviceStatus where
  firmwareVersion := ⟨[49], by decide⟩
  uptimeSeconds := 10
  resetReason := 1
  freeHeapBytes := 100000
  minimumFreeHeapBytes := 90000
  stationIp := .empty
  wifiRssiDbm := none
  sntpSynchronized := false
  mqttTlsConnected := false
  mqttLastError := .empty
  sensorStatus := .empty
  machineStatus := .empty
  deviceHealth := .empty
  samplesOk := 0
  samplesRejected := 0
  publishOk := 0
  publishFailed := 0

/-- A request from a client of the SoftAP that has not logged in. -/
def strayRequest : HttpRequest where
  socketFd := 54
  localAddress := some ⟨afInet, 16, 0x0104a8c0, .replicate 16 0⟩
  softapIpv4 := some (0x0104a8c0, 0x00ffffff)
  header _ := none
  contentLength := 0
  body := some []
  queryLength := 0
  queryValue _ := none
  sends := []
  commits := []
  newSession := sampleToken
  newCsrf := sampleCsrfToken
  asyncBegins := true
  contextAllocated := true
  workerCreated := true
  status := sampleDeviceStatus

/-- The same request from the client with the session. -/
def sessionRequest : HttpRequest :=
  { strayRequest with
    header := fun name ↦
      if name = "Cookie" then some ⟨cookieName ++ sampleToken.val, by decide⟩
      else if name = "X-CSRF-Token" then some sampleCsrfToken
      else none }

theorem provisioning_access_logout :
    authorizes sampleHttpPlatform ((provisioningServer sampleHttpPlatform).run sampleService
      [.request .sessionDelete sessionRequest]) sessionRequest false = false :=
  (provisioning_access sampleHttpPlatform sampleService).2 [] (.request .sessionDelete sessionRequest) []
    (.logout (by decide +kernel)) (by decide +kernel) sampleToken (List.mem_singleton_self _)
    sessionRequest (by decide +kernel) false

/-- `POST /api/reboot` without a cookie is answered with a refusal, and restarts the device. -/
theorem provisioning_access_fails :
    sampleService.Refused .reboot strayRequest ∧
      (sampleService.handle sampleHttpPlatform .reboot strayRequest).1.restarts = 1 ∧
      ¬ sampleService.Harmless (sampleService.handle sampleHttpPlatform .reboot strayRequest) := by
  have hrefused : sampleService.Refused .reboot strayRequest :=
    .inr (.inr ⟨rfl, by simp [strayRequest]⟩)
  have hrestarts : (sampleService.handle sampleHttpPlatform .reboot strayRequest).1.restarts = 1 := by
    decide +kernel
  refine ⟨hrefused, hrestarts, fun ⟨hservice, _⟩ ↦ ?_⟩
  rw [hservice] at hrestarts
  cases hrestarts

end EdgeMonitor.Firmware
