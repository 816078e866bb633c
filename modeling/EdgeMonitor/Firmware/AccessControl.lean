import EdgeMonitor.Firmware.ProvisioningHttp

/-!
# Access control of the provisioning server

Library `Firmware`. What a request must bring for each route, and what the handlers do with
a request that does not. The check of most handlers goes on when the refusal could be sent.
-/

namespace EdgeMonitor.Firmware
open EdgeMonitor.Base
open DeviceConfig (ascii)
open CJson
open ProvisioningService

/-! ### What a request must bring -/

/-- The local endpoint is the address of the live SoftAP, plain or IPv4-mapped. -/
def HttpRequest.OnSoftap (request : HttpRequest) : Prop :=
  ∃ softapIpv4 netmask address, request.softapIpv4 = some (softapIpv4, netmask) ∧
    request.localAddress = some address ∧
    (address.family = afInet ∧ address.sinAddr = softapIpv4 ∨
      address.family = afInet6 ∧ address.sin6Addr.toList.take 12 = mappedStart ∧
        mappedIpv4 address.sin6Addr = softapIpv4)

/-- The request carries the cookie of the current session, which lasts. -/
def ProvisioningService.HasSession (service : ProvisioningService) (request : HttpRequest) :
    Prop :=
  ∃ cookie, request.header "Cookie" = some cookie ∧ service.sessionToken.val ≠ [] ∧
    cookieName ++ service.sessionToken.val <:+: cookie.val ∧
    service.nowMs < service.sessionExpiresMs

/-- The route modifies state, and is not the login. -/
def Route.modifies (route : Route) : Bool :=
  route.method != .get && route != .sessionCreate

/-- A request that must not be served. -/
def ProvisioningService.Refused (service : ProvisioningService) (route : Route)
    (request : HttpRequest) : Prop :=
  ¬ request.OnSoftap ∨
  (route ≠ .root ∧ route ≠ .sessionCreate ∧
    (¬ service.HasSession request ∨ service.streamLifecycle.serviceStopping = true)) ∨
  (route.modifies = true ∧ request.header "X-CSRF-Token" ≠ some service.csrfToken)

/-- Nothing changed, and the responses carry no data. -/
def ProvisioningService.Harmless (service : ProvisioningService)
    (result : ProvisioningService × List HttpResponse) : Prop :=
  result.1 = service ∧ ∀ response ∈ result.2, response.carriesData = false

/-! ### What the checks decide -/

theorem onSoftap_of_arrived {platform : HttpPlatform} {request : HttpRequest}
    (h : requestArrivedOnSoftap platform request = true) : request.OnSoftap := by
  rw [requestArrivedOnSoftap, Bool.or_eq_true, beq_iff_eq, beq_iff_eq, authorizeSocket] at h
  split at h
  next => simp at h
  next softapIpv4 netmask hsoftap =>
    split at h
    next => simp at h
    next =>
      split at h
      next => simp at h
      next =>
        split at h
        next => simp at h
        next address haddress =>
          refine ⟨softapIpv4, netmask, address, hsoftap, haddress, ?_⟩
          simp only [classifyLocalEndpoint] at h
          repeat' split at h
          all_goals simp_all

/-- `strstr` finds an occurrence. -/
theorem strstrFrom_eq_some {needle s rest : List UInt8} (h : strstrFrom needle s = some rest) :
    needle <+: rest ∧ rest <:+ s := by
  induction s with
  | nil =>
    rw [strstrFrom] at h
    split at h
    next hempty =>
      obtain rfl := Option.some.inj h
      rw [List.isEmpty_iff.mp hempty]
      exact ⟨List.prefix_rfl, List.suffix_rfl⟩
    next => cases h
  | cons b s ih =>
    rw [strstrFrom] at h
    split at h
    next hfound =>
      obtain rfl := Option.some.inj h
      exact ⟨List.isPrefixOf_iff_prefix.mp hfound, List.suffix_rfl⟩
    next =>
      obtain ⟨hneedle, hsuffix⟩ := ih h
      exact ⟨hneedle, hsuffix.trans (List.suffix_cons b s)⟩

theorem headerValue_eq_some {request : HttpRequest} {name : String} {size : Nat}
    {text : List UInt8} (h : request.headerValue name size = some text) :
    ∃ value, request.header name = some value ∧ value.val = text := by
  rw [HttpRequest.headerValue] at h
  split at h
  next value hvalue =>
    split at h
    next => exact ⟨value, hvalue, Option.some.inj h⟩
    next => cases h
  next => cases h

/-- A cookie token has 32 characters, and the cookie contains it behind its name. -/
theorem cookieToken_eq_some {request : HttpRequest} {token : List UInt8}
    (h : cookieToken request = some token) : token.length = 32 ∧ 0 ∉ token ∧
      ∃ cookie, request.header "Cookie" = some cookie ∧ cookieName ++ token <:+: cookie.val := by
  simp only [cookieToken, bind, Option.bind_eq_some_iff, Option.ite_none_right_eq_some,
    Option.some.injEq] at h
  obtain ⟨text, hheader, start, hstart, hlength, rfl⟩ := h
  obtain ⟨cookie, hcookie, rfl⟩ := headerValue_eq_some hheader
  obtain ⟨⟨rest, rfl⟩, hsuffix⟩ := strstrFrom_eq_some hstart
  rw [List.drop_left] at hlength ⊢
  have htoken : rest.takeWhile (fun c ↦ c ≠ 59 ∧ c ≠ 32) <+: rest := List.takeWhile_prefix _
  refine ⟨hlength, fun hnul ↦ ?_, cookie, hcookie, ?_⟩
  · exact cookie.property (hsuffix.subset (List.mem_append_right _ (htoken.subset hnul)))
  · exact ((List.prefix_append_right_inj cookieName).mpr htoken).isInfix.trans hsuffix.isInfix

/-- What an authorized request brings. -/
structure Authorized (platform : HttpPlatform) (service : ProvisioningService)
    (request : HttpRequest) (modifying : Bool) : Prop where
  onSoftap : request.OnSoftap
  running : service.streamLifecycle.serviceStopping = false
  cookie_eq : cookieToken request = some service.sessionToken.val
  lasts : service.nowMs < service.sessionExpiresMs
  csrf_eq : modifying = true → request.header "X-CSRF-Token" = some service.csrfToken

theorem authorized_of_authorizes {platform : HttpPlatform} {service : ProvisioningService}
    {request : HttpRequest} {modifying : Bool}
    (h : authorizes platform service request modifying = true) :
    Authorized platform service request modifying := by
  rw [authorizes] at h
  split at h
  next => cases h
  next hgate =>
    rw [Bool.or_eq_true, not_or, Bool.not_eq_true, Bool.not_eq_true', Bool.not_eq_false] at hgate
    split at h
    next => cases h
    next cookie hcookie =>
      obtain ⟨-, hnul, -⟩ := cookieToken_eq_some hcookie
      have hsession : ∀ csrf, sessionAuthorized service.sessionToken.val cookie
          service.csrfToken.val csrf service.sessionExpiresMs service.nowMs modifying = true →
          service.sessionToken.val = cookie ∧ service.nowMs < service.sessionExpiresMs ∧
            (modifying = true → ∃ text, csrf = some text ∧
              constantTimeEqual service.csrfToken.val text = true) := by
        intro csrf hauthorized
        rw [sessionAuthorized.eq_def] at hauthorized
        split at hauthorized
        next => cases hauthorized
        next hchecked =>
          simp only [Bool.or_eq_true, not_or, decide_eq_true_eq, Bool.not_eq_true',
            Bool.not_eq_false, constantTimeEqual_iff service.sessionToken.property hnul] at hchecked
          refine ⟨hchecked.2, not_le.mp hchecked.1.2, ?_⟩
          rintro rfl
          cases csrf with
          | none => simp at hauthorized
          | some text => exact ⟨text, rfl, by simpa using hauthorized⟩
      cases modifying with
      | false =>
        simp only [Bool.false_and, Bool.false_eq_true, if_false] at h
        obtain ⟨hequal, hlasts, -⟩ := hsession _ h
        exact ⟨onSoftap_of_arrived hgate.2, hgate.1, by rw [hcookie, hequal], hlasts, by simp⟩
      | true =>
        simp only [if_true, Bool.true_and] at h
        split at h
        next => cases h
        next =>
          obtain ⟨hequal, hlasts, hcsrf⟩ := hsession _ h
          obtain ⟨text, hheader, hmatch⟩ := hcsrf rfl
          obtain ⟨value, hvalue, rfl⟩ := headerValue_eq_some hheader
          rw [constantTimeEqual_iff service.csrfToken.property value.property] at hmatch
          exact ⟨onSoftap_of_arrived hgate.2, hgate.1, by rw [hcookie, hequal], hlasts,
            fun _ ↦ by rw [hvalue, Subtype.ext hmatch.symm]⟩

/-- A refused request passes no check. -/
theorem authorizes_of_refused {platform : HttpPlatform} {service : ProvisioningService}
    {route : Route} {request : HttpRequest} (h : service.Refused route request) :
    authorizes platform service request route.modifies = false := by
  refine Bool.eq_false_iff.mpr fun hauthorizes ↦ ?_
  obtain ⟨honSoftap, hrunning, hcookie, hlasts, hcsrf⟩ := authorized_of_authorizes hauthorizes
  rcases h with hsoftap | ⟨-, -, hsession | hstopping⟩ | ⟨hmodifies, htoken⟩
  · exact hsoftap honSoftap
  · obtain ⟨hlength, -, cookie, hheader, hcontains⟩ := cookieToken_eq_some hcookie
    exact hsession ⟨cookie, hheader, fun hempty ↦ by simp [hempty] at hlength, hcontains, hlasts⟩
  · rw [hrunning] at hstopping
    cases hstopping
  · exact htoken (hcsrf hmodifies)

theorem arrived_of_refused {platform : HttpPlatform} {service : ProvisioningService}
    {route : Route} {request : HttpRequest} (h : service.Refused route request)
    (hroute : route = .root ∨ route = .sessionCreate) :
    requestArrivedOnSoftap platform request = false := by
  refine Bool.eq_false_iff.mpr fun harrived ↦ ?_
  rcases h with hsoftap | ⟨hroot, hlogin, -⟩ | ⟨hmodifies, -⟩
  · exact hsoftap (onSoftap_of_arrived harrived)
  · exact hroute.elim hroot hlogin
  · rcases hroute with rfl | rfl <;> cases hmodifies

/-! ### What the handlers do with a refused request -/

/-- The exchange after the refusal was sent, or was not. -/
def Exchange.refused (x : Exchange) : Exchange :=
  { x with
    responses := x.responses ++
      [.error "401 Unauthorized" "authentication or CSRF validation failed"]
    sends := x.sends.tail }

/-- A handler goes on after its check refused a request, if the refusal could be sent. -/
theorem run_afterAuth {platform : HttpPlatform} {request : HttpRequest} {modifying : Bool}
    {x : Exchange} (h : authorizes platform x.service request modifying = false)
    (rest : Handling EspErr) : (afterAuth platform request modifying rest).run x =
      if x.sends.headD true then rest.run x.refused else (.ok, x.refused) := by
  have hcheck : (requireAuth platform request modifying).run x =
      (if x.sends.headD true then .ok else .fail, x.refused) := by
    simp only [requireAuth, authenticated, current, StateT.run, bind, StateT.bind, get, getThe,
      MonadStateOf.get, StateT.get, pure, StateT.pure, h]
    rfl
  simp only [afterAuth, bind, StateT.bind, StateT.run] at hcheck ⊢
  rw [hcheck]
  cases x.sends.headD true <;> rfl

theorem run_afterAuth_of_authorizes {platform : HttpPlatform} {request : HttpRequest}
    {modifying : Bool} {x : Exchange}
    (h : authorizes platform x.service request modifying = true) (rest : Handling EspErr) :
    (afterAuth platform request modifying rest).run x =
      rest.run { x with service := x.service.activity } := by
  have hcheck : (requireAuth platform request modifying).run x =
      (.ok, { x with service := x.service.activity }) := by
    simp only [requireAuth, authenticated, current, StateT.run, bind, StateT.bind, get, getThe,
      MonadStateOf.get, StateT.get, pure, StateT.pure, h]
    rfl
  simp only [afterAuth, bind, StateT.bind, StateT.run] at hcheck ⊢
  rw [hcheck]
  rfl

/-! ### Running a handler -/

section Run
variable {α β : Type} (x : Exchange)

theorem run_bind (m : Handling α) (f : α → Handling β) :
    (m >>= f).run x = (f (m.run x).1).run (m.run x).2 := rfl

theorem run_pure (a : α) : (pure a : Handling α).run x = (a, x) := rfl

theorem run_current : current.run x = (x.service, x) := rfl

theorem run_update (f : ProvisioningService → ProvisioningService) :
    (update f).run x = ((), { x with service := f x.service }) := rfl

theorem run_send (response : HttpResponse) :
    (send response).run x = (if x.sends.headD true then .ok else .fail,
      { x with responses := x.responses ++ [response], sends := x.sends.tail }) := rfl

theorem run_jsonError (status message : String) : (jsonError status message).run x =
    (if x.sends.headD true then .ok else .fail,
      { x with responses := x.responses ++ [.error status message], sends := x.sends.tail }) := rfl

theorem run_callStore (platform : HttpPlatform) (request : HttpRequest) (op : Operation) :
    (callStore platform request op).run x =
      ((((configStore platform.toPlatform).step x.service.store
          (.call op request.faults)).2.reply.map (·.result)).getD .fail,
        { x with service := { x.service with store :=
          ((configStore platform.toPlatform).step x.service.store
            (.call op request.faults)).1 } }) := rfl

end Run

/-- The JSON object that a request holds, if its headers and its body are accepted. -/
def HttpRequest.json (platform : HttpPlatform) (request : HttpRequest) : Option CJson :=
  let contentType := request.headerValue "Content-Type" 64
  if jsonBodyAllowed contentType 1 1
      && jsonBodyAllowed contentType request.contentLength platform.maxBodyBytes then
    match request.body with
    | none => none
    | some body => if isObject (platform.parseJson body) then platform.parseJson body else none
  else none

/-- Handling ends with the given service, and adds responses that neither carry data nor
issue a session. -/
structure Answers {α : Type} (m : Handling α) (x : Exchange) (service : ProvisioningService) :
    Prop where
  service_eq : (m.run x).2.service = service
  responses_eq : ∃ added, (m.run x).2.responses = x.responses ++ added ∧
    ∀ response ∈ added, response.carriesData = false ∧ response.issued = none

namespace Answers
variable {α β : Type} {x : Exchange} {service : ProvisioningService}

theorem pure (a : α) (x : Exchange) : Answers (Pure.pure a) x x.service :=
  ⟨rfl, [], (List.append_nil _).symm, by simp⟩

theorem send {response : HttpResponse} (h : response.carriesData = false)
    (hissued : response.issued = none) (x : Exchange) :
    Answers (ProvisioningService.send response) x x.service :=
  ⟨rfl, [response], rfl, by simp [h, hissued]⟩

theorem error (status message : String) (x : Exchange) :
    Answers (jsonError status message) x x.service :=
  send rfl rfl x

theorem bind {m : Handling α} {f : α → Handling β} {service' : ProvisioningService}
    (h : Answers m x service)
    (hf : ∀ x', x'.service = service → Answers (f (m.run x).1) x' service') :
    Answers (m >>= f) x service' := by
  obtain ⟨hservice, added, hresponses, hadded⟩ := h
  obtain ⟨hservice', added', hresponses', hadded'⟩ := hf (m.run x).2 hservice
  refine ⟨hservice', added ++ added', ?_, fun response hmem ↦ ?_⟩
  · rw [run_bind, hresponses', hresponses, List.append_assoc]
  · exact (List.mem_append.mp hmem).elim (hadded response) (hadded' response)

theorem current {f : ProvisioningService → Handling α} (h : Answers (f x.service) x service) :
    Answers (ProvisioningService.current >>= f) x service := ⟨h.service_eq, h.responses_eq⟩

end Answers

theorem run_receiveJson (platform : HttpPlatform) (request : HttpRequest) (x : Exchange) :
    ((receiveJson platform request).run x).1.2 = request.json platform ∧
    ((request.json platform).isSome → ((receiveJson platform request).run x).1.1 = .ok) ∧
    Answers (receiveJson platform request) x x.service := by
  have herror (status message : String) : Answers (do
      let result ← jsonError status message
      Pure.pure (result, (none : Option CJson))) x x.service :=
    (Answers.error status message x).bind fun x' hx' ↦ hx' ▸ .pure _ x'
  rw [HttpRequest.json, receiveJson]
  cases htype : jsonBodyAllowed (request.headerValue "Content-Type" 64) 1 1 with
  | false => exact ⟨rfl, by simp, herror _ _⟩
  | true =>
    cases hsize : jsonBodyAllowed (request.headerValue "Content-Type" 64) request.contentLength
        platform.maxBodyBytes with
    | false => exact ⟨rfl, by simp, herror _ _⟩
    | true =>
      cases hbody : request.body with
      | none => exact ⟨rfl, by simp, .pure _ x⟩
      | some body =>
        simp only [Bool.not_true, Bool.and_true, Bool.false_eq_true, if_false, if_true]
        by_cases hobject : isObject (platform.parseJson body) = true
        · simp only [hobject, if_true]
          exact ⟨rfl, fun _ ↦ rfl, .pure _ x⟩
        · simp only [hobject]
          exact ⟨rfl, by simp, herror _ _⟩

/-! ### Calls of the configuration store -/

/-- Of these writes, those that are committed before one fails store what is there. -/
def Unwritten (flash : Flash) : List NvsWrite → List (Option Failure) → Prop
  | [], _ => True
  | _ :: _, some _ :: _ => True
  | w :: ws, none :: commits => w.apply flash = flash ∧ Unwritten flash ws commits
  | w :: ws, [] => w.apply flash = flash ∧ Unwritten flash ws []

section Store
variable {platform : Platform} {request : HttpRequest} {op : Operation} {s : Store}

theorem step_refuse {result : EspErr}
    (hplan : op.plan platform s.flash s.ram = .refuse s.ram result) :
    ((configStore platform).step s (.call op request.faults)).1 = s := by
  rw [step_refused hplan]

theorem step_one_iff {w : NvsWrite} {reply : Reply}
    (hplan : op.plan platform s.flash s.ram = ⟨[(w, failCode s.ram)], (s.ram, reply)⟩) :
    ((configStore platform).step s (.call op request.faults)).1 = s ↔
      Unwritten s.flash [w] request.commits := by
  change (Store.after _).1 = s ↔ _
  rw [operation_follows platform op s.flash s.ram request.faults, hplan, HttpRequest.faults]
  obtain ⟨flash, ram⟩ := s
  rcases request.commits with _ | ⟨_ | e, commits⟩ <;>
    simp [Program.runSteps, Store.after, Unwritten, failCode]

theorem step_two_iff {w w' : NvsWrite} {reply : Reply}
    (hplan : op.plan platform s.flash s.ram =
      ⟨[(w, failCode s.ram), (w', failCode s.ram)], (s.ram, reply)⟩)
    (hkeys : w'.apply (w.apply s.flash) = s.flash → w.apply s.flash = s.flash) :
    ((configStore platform).step s (.call op request.faults)).1 = s ↔
      Unwritten s.flash [w, w'] request.commits := by
  change (Store.after _).1 = s ↔ _
  rw [operation_follows platform op s.flash s.ram request.faults, hplan, HttpRequest.faults]
  obtain ⟨flash, ram⟩ := s
  have hboth : w'.apply (w.apply flash) = flash ↔ w.apply flash = flash ∧
      w'.apply flash = flash :=
    ⟨fun h ↦ ⟨hkeys h, by rwa [hkeys h] at h⟩, fun ⟨h, h'⟩ ↦ by rw [h, h']⟩
  rcases request.commits with _ | ⟨_ | e, _ | ⟨_ | e', commits⟩⟩ <;>
    simp [Program.runSteps, Store.after, Unwritten, failCode, hboth]

end Store

/-! ### What each handler does without its check -/

theorem nextGeneration_ne (service : ProvisioningService) :
    service.nextGeneration ≠ service.sessionGeneration := by
  rw [ProvisioningService.nextGeneration]
  split
  next hzero =>
    intro hone
    rw [← hone] at hzero
    revert hzero
    decide
  next => simp

/-- The rest of a handler, run after a refusal, is harmless. -/
def ProvisioningService.RestHarmless (service : ProvisioningService) (x : Exchange)
    (rest : Handling EspErr) : Prop :=
  service.Harmless ((rest.run x).2.service, (rest.run x).2.responses)

/-- The state and the responses of a handler whose check refused the request. -/
theorem harmless_afterAuth {platform : HttpPlatform} {service : ProvisioningService}
    {request : HttpRequest} {modifying : Bool}
    (h : authorizes platform service request modifying = false) (rest : Handling EspErr) :
    service.RestHarmless ⟨service, [], request.sends⟩
        (afterAuth platform request modifying rest) ↔
      (request.sends.headD true = true →
        service.RestHarmless (Exchange.refused ⟨service, [], request.sends⟩) rest) := by
  rw [RestHarmless, run_afterAuth h]
  cases hsent : request.sends.headD true with
  | true => simp [RestHarmless]
  | false => simp [Harmless, Exchange.refused, HttpResponse.carriesData]

section Rest
variable {platform : HttpPlatform} {service : ProvisioningService} {request : HttpRequest}
  {x : Exchange}

/-- What answers without data does harm exactly by what it changes. -/
theorem Answers.restHarmless_iff {m : Handling EspErr} {service' : ProvisioningService}
    (h : Answers m x service') (hdata : ∀ response ∈ x.responses, response.carriesData = false) :
    service.RestHarmless x m ↔ service' = service := by
  obtain ⟨hservice, added, hresponses, hadded⟩ := h
  rw [RestHarmless, Harmless, hservice, hresponses]
  refine and_iff_left fun response hmem ↦ ?_
  exact (List.mem_append.mp hmem).elim (hdata response) fun hmem ↦ (hadded response hmem).1

theorem answers_restart (x : Exchange) :
    Answers restartResponse x { x.service with restarts := x.service.restarts + 1 } :=
  ⟨rfl, [.text "\x7b\"ok\":true,\"rebooting\":true\x7d"], rfl,
    by simp [HttpResponse.carriesData, HttpResponse.issued]⟩

end Rest

/-! ### When the rest of a handler is harmless -/

/-- What a staged candidate commits. -/
def stageWrites (flash : Flash) (candidate : DeviceConfig) : List NvsWrite :=
  .configuration .candidate candidate ::
    (storedMetadata flash).toList.map fun m ↦ .metadata (m.pendingFor candidate.revision)

/-- The rest of a handler, after its check, neither changes anything nor sends data. -/
def ProvisioningService.Idle (platform : HttpPlatform) (service : ProvisioningService)
    (request : HttpRequest) : Route → Prop
  | .sessionDelete => False
  | .status => storedMetadata service.store.flash = none
  | .config => False
  | .candidatePut => ∀ candidate, parseConfiguration platform.toPlatform
      service.currentConfiguration (request.json platform) = .ok candidate →
    service.store.ram.candidateValidationInProgress = true ∨
      Unwritten service.store.flash (stageWrites service.store.flash candidate) request.commits
  | .candidateDelete => service.store.ram.candidateValidationInProgress = true ∨
      ∀ m, storedMetadata service.store.flash = some m → Unwritten service.store.flash
        [.metadata m.settled, .eraseKey .candidate] request.commits
  | .apply => service.store.ram.candidateValidationInProgress = true ∨
      ∀ m, storedMetadata service.store.flash = some m → m.state ≠ ConfigState.pending
  | .logs => requestCursor request = none
  | .reboot => False
  | .factoryReset =>
    (request.headerValue "X-Confirm-Factory-Reset" 64).any factoryConfirmed = false ∨
      ∃ e commits, request.commits = some e :: commits
  -- these return when their check fails
  | .root => True
  | .sessionCreate => True
  | .logsStream => True

section Idle
variable {platform : HttpPlatform} {service : ProvisioningService} {request : HttpRequest}

/-- A stage call leaves the store as it is if it is refused or writes what is there. -/
theorem step_stage_iff {s : Store} {candidate : DeviceConfig}
    (hvalid : candidate.validate platform.toPlatform = .ok) :
    ((configStore platform.toPlatform).step s (.call (.stage candidate) request.faults)).1 = s ↔
      s.ram.candidateValidationInProgress = true ∨
        Unwritten s.flash (stageWrites s.flash candidate) request.commits := by
  cases hprogress : s.ram.candidateValidationInProgress with
  | true =>
    have hplan : (Operation.stage candidate).plan platform.toPlatform s.flash s.ram =
        .refuse s.ram .invalidState := by simp [Operation.plan, hvalid, hprogress]
    exact iff_of_true (step_refuse hplan) (.inl rfl)
  | false =>
    rw [or_iff_right Bool.false_ne_true, stageWrites]
    cases hm : storedMetadata s.flash with
    | none =>
      have hplan : (Operation.stage candidate).plan platform.toPlatform s.flash s.ram =
          ⟨[(.configuration .candidate candidate, failCode s.ram)],
            (s.ram, .code (getMetadataLocked .zero s.flash).1)⟩ := by
        simp [Operation.plan, hvalid, hprogress, hm]
      exact step_one_iff hplan
    | some m =>
      have hplan : (Operation.stage candidate).plan platform.toPlatform s.flash s.ram =
          ⟨[(.configuration .candidate candidate, failCode s.ram),
            (.metadata (m.pendingFor candidate.revision), failCode s.ram)],
            (s.ram, .code .ok)⟩ := by
        simp [Operation.plan, hvalid, hprogress, hm]
      refine step_two_iff hplan fun hboth ↦ ?_
      -- the second write leaves the candidate slot alone
      have hcandidate := congrArg Flash.candidate hboth
      exact (congrArg (fun blob ↦ { s.flash with candidate := blob }) hcandidate)

/-- A cancellation leaves the store as it is if it is refused or writes what is there. -/
theorem step_cancel_iff {s : Store} :
    ((configStore platform.toPlatform).step s (.call .cancel request.faults)).1 = s ↔
      s.ram.candidateValidationInProgress = true ∨
        ∀ m, storedMetadata s.flash = some m →
          Unwritten s.flash [.metadata m.settled, .eraseKey .candidate] request.commits := by
  cases hprogress : s.ram.candidateValidationInProgress with
  | true =>
    have hplan : Operation.cancel.plan platform.toPlatform s.flash s.ram =
        .refuse s.ram .invalidState := by simp [Operation.plan, hprogress]
    exact iff_of_true (step_refuse hplan) (.inl rfl)
  | false =>
    rw [or_iff_right Bool.false_ne_true]
    cases hm : storedMetadata s.flash with
    | none =>
      have hplan : Operation.cancel.plan platform.toPlatform s.flash s.ram =
          .refuse s.ram (getMetadataLocked .zero s.flash).1 := by
        simp [Operation.plan, hprogress, hm]
      exact iff_of_true (step_refuse hplan) (by simp)
    | some m =>
      have hplan : Operation.cancel.plan platform.toPlatform s.flash s.ram =
          ⟨[(.metadata m.settled, failCode s.ram), (.eraseKey .candidate, failCode s.ram)],
            (s.ram, .code .ok)⟩ := by
        simp [Operation.plan, hprogress, hm]
      rw [step_two_iff hplan fun hboth ↦ ?_]
      · simp
      · have hmetadata := congrArg Flash.metadata hboth
        exact (congrArg (fun blob ↦ { s.flash with metadata := blob }) hmetadata)

/-- An erase whose commit fails does nothing; otherwise it succeeds. -/
theorem step_factoryReset (platform : HttpPlatform) (request : HttpRequest) (s : Store) :
    let r := (configStore platform.toPlatform).step s (.call .factoryReset request.faults);
    (∃ e commits, request.commits = some e :: commits) ∧ r.1 = s ∧
        (∃ e, r.2.reply = some (.code e) ∧ e ≠ .ok) ∨
      (¬ ∃ e commits, request.commits = some e :: commits) ∧ r.2.reply = some (.code .ok) := by
  intro r
  have hr : r = Store.after (Program.runSteps NvsWrite.apply (.clear, .code .ok) s.flash
      [(.eraseAll, failCode s.ram)] request.faults) := by
    change Store.after _ = _
    rw [operation_follows platform.toPlatform .factoryReset s.flash s.ram request.faults]
    rfl
  rw [hr, HttpRequest.faults]
  rcases request.commits with _ | ⟨_ | e, commits⟩
  · exact .inr ⟨by simp, rfl⟩
  · exact .inr ⟨by simp, rfl⟩
  · exact .inl ⟨⟨e, commits, rfl⟩, rfl, e.val, rfl, e.property⟩

theorem store_eq_iff (store : Store) :
    ({ service with store } : ProvisioningService) = service ↔ store = service.store :=
  ⟨fun h ↦ congrArg ProvisioningService.store h, fun h ↦ by rw [h]⟩

/-- A call of the store before an answer. -/
theorem Answers.callStore {x : Exchange} {op : Operation} {f : EspErr → Handling EspErr}
    {service' : ProvisioningService} (h : ∀ x', x'.service =
      { x.service with store := ((configStore platform.toPlatform).step x.service.store
        (.call op request.faults)).1 } →
      Answers (f (((configStore platform.toPlatform).step x.service.store
        (.call op request.faults)).2.reply.map (·.result) |>.getD .fail)) x' service') :
    Answers (Firmware.callStore platform request op >>= f) x service' :=
  .bind ⟨rfl, [], (List.append_nil _).symm, by simp⟩ h

theorem answers_deleteCandidate (x : Exchange) : Answers (deleteCandidate platform request) x
    { x.service with store := ((configStore platform.toPlatform).step x.service.store
      (.call .cancel request.faults)).1 } := by
  refine .callStore fun x' hx' ↦ ?_
  rw [← hx']
  split
  next => exact .error _ _ x'
  next =>
    split
    next => exact .error _ _ x'
    next => exact .send rfl rfl x'

/-- Without a body no candidate is parsed. -/
theorem parseConfiguration_none (platform : Platform) (current : Option DeviceConfig) :
    ∃ message, parseConfiguration platform current none = .error message :=
  ⟨_, rfl⟩

theorem answers_putCandidate_error {x : Exchange} {message : String}
    (hparse : parseConfiguration platform.toPlatform x.service.currentConfiguration
      (request.json platform) = .error message) :
    Answers (putCandidate platform request) x x.service := by
  obtain ⟨hjson, -, hanswers⟩ := run_receiveJson platform request x
  refine hanswers.bind fun x' hx' ↦ ?_
  generalize ((receiveJson platform request).run x).1 = received at *
  obtain ⟨result, body⟩ := received
  obtain rfl : body = request.json platform := hjson
  rw [← hx'] at hparse ⊢
  dsimp only
  split
  next => exact .pure _ x'
  next =>
    refine .current ?_
    rw [hparse]
    exact .error _ _ x'

theorem answers_putCandidate_ok {x : Exchange} {candidate : DeviceConfig}
    (hparse : parseConfiguration platform.toPlatform x.service.currentConfiguration
      (request.json platform) = .ok candidate) :
    Answers (putCandidate platform request) x
      { x.service with store := ((configStore platform.toPlatform).step x.service.store
        (.call (.stage candidate) request.faults)).1 } := by
  have hsome : (request.json platform).isSome := by
    cases hjson : request.json platform with
    | some body => rfl
    | none =>
      obtain ⟨message, herror⟩ := parseConfiguration_none platform.toPlatform
        x.service.currentConfiguration
      rw [hjson, herror] at hparse
      cases hparse
  obtain ⟨hjson, hok, hanswers⟩ := run_receiveJson platform request x
  refine hanswers.bind fun x' hx' ↦ ?_
  generalize ((receiveJson platform request).run x).1 = received at *
  obtain ⟨result, body⟩ := received
  obtain rfl : body = request.json platform := hjson
  obtain rfl : result = .ok := hok hsome
  rw [← hx'] at hparse ⊢
  refine .current ?_
  rw [hparse]
  refine .callStore fun x'' hx'' ↦ ?_
  rw [← hx'']
  split
  next => exact .error _ _ x''
  next =>
    split
    next => exact .error _ _ x''
    next => exact .send rfl rfl x''

section Rest
variable (x : Exchange) (hdata : ∀ response ∈ x.responses, response.carriesData = false)

theorem restHarmless_deleteSession : ¬ x.service.RestHarmless x deleteSession := by
  rintro ⟨hservice, -⟩
  exact nextGeneration_ne x.service (congrArg ProvisioningService.sessionGeneration hservice)

theorem restHarmless_sendConfiguration : ¬ x.service.RestHarmless x sendConfiguration := by
  rintro ⟨-, hnone⟩
  have hcarries := hnone (.configuration (x.service.currentConfiguration.map
    DeviceConfig.redacted)) (List.mem_append_right _ (List.mem_singleton_self _))
  cases hcarries

theorem restHarmless_restart : ¬ x.service.RestHarmless x restartResponse := by
  rintro ⟨hservice, -⟩
  exact Nat.succ_ne_self _ (congrArg ProvisioningService.restarts hservice)

include hdata

theorem restHarmless_sendStatus : x.service.RestHarmless x (sendStatus request) ↔
    x.service.Idle platform request .status := by
  rw [ProvisioningService.Idle]
  cases hm : storedMetadata x.service.store.flash with
  | none =>
    have hrefused := getMetadataLocked_of_unreadable hm .zero
    have hanswers : Answers (sendStatus request) x x.service := by
      refine .current ?_
      generalize getMetadataLocked .zero x.service.store.flash = r at hrefused
      obtain ⟨result, metadata⟩ := r
      dsimp only at hrefused ⊢
      rw [if_pos hrefused]
      exact .error _ _ x
    exact iff_of_true ((hanswers.restHarmless_iff hdata).mpr rfl) rfl
  | some m =>
    refine iff_of_false (fun ⟨_, hnone⟩ ↦ ?_) (by simp)
    have hread := getMetadataLocked_of_stored hm .zero
    have hrun : ∃ response, response.carriesData = true ∧
        response ∈ ((sendStatus request).run x).2.responses := by
      simp only [sendStatus, run_bind, run_current, hread]
      cases x.service.currentConfiguration with
      | none => exact ⟨_, rfl, List.mem_append_right _ (List.mem_singleton_self _)⟩
      | some c => exact ⟨_, rfl, List.mem_append_right _ (List.mem_singleton_self _)⟩
    obtain ⟨response, hcarries, hmem⟩ := hrun
    exact Bool.eq_false_iff.mp (hnone response hmem) hcarries

theorem restHarmless_putCandidate : x.service.RestHarmless x (putCandidate platform request) ↔
    x.service.Idle platform request .candidatePut := by
  rw [ProvisioningService.Idle]
  cases hparse : parseConfiguration platform.toPlatform x.service.currentConfiguration
      (request.json platform) with
  | error message =>
    refine iff_of_true (((answers_putCandidate_error hparse).restHarmless_iff hdata).mpr rfl) ?_
    intro candidate hok
    cases hok
  | ok candidate =>
    rw [(answers_putCandidate_ok hparse).restHarmless_iff hdata, store_eq_iff,
      step_stage_iff (validate_of_parseConfiguration hparse)]
    exact ⟨fun h candidate' hok ↦ by cases hok; exact h, fun h ↦ h candidate rfl⟩

theorem restHarmless_deleteCandidate :
    x.service.RestHarmless x (deleteCandidate platform request) ↔
      x.service.Idle platform request .candidateDelete := by
  rw [ProvisioningService.Idle, ← step_cancel_iff, ← store_eq_iff,
    (answers_deleteCandidate x).restHarmless_iff hdata]

theorem restHarmless_applyCandidate : x.service.RestHarmless x applyCandidate ↔
    x.service.Idle platform request .apply := by
  rw [ProvisioningService.Idle]
  have hrefused (h : x.service.store.ram.candidateValidationInProgress = true ∨
      (getMetadataLocked .zero x.service.store.flash).1 ≠ .ok ∨
      (getMetadataLocked .zero x.service.store.flash).2.state ≠ ConfigState.pending) :
      Answers applyCandidate x x.service := by
    refine .current ?_
    generalize getMetadataLocked .zero x.service.store.flash = r at h
    split
    next => exact .error _ _ x
    next hfree =>
      obtain ⟨result, metadata⟩ := r
      rw [or_iff_right hfree] at h
      dsimp only at h ⊢
      rw [if_pos h]
      exact .error _ _ x
  cases hprogress : x.service.store.ram.candidateValidationInProgress with
  | true =>
    exact iff_of_true (((hrefused (.inl hprogress)).restHarmless_iff hdata).mpr rfl) (.inl rfl)
  | false =>
    rw [or_iff_right Bool.false_ne_true]
    cases hm : storedMetadata x.service.store.flash with
    | none =>
      have hresult := getMetadataLocked_of_unreadable hm .zero
      exact iff_of_true
        (((hrefused (.inr (.inl hresult))).restHarmless_iff hdata).mpr rfl) (by simp)
    | some m =>
      have hread := getMetadataLocked_of_stored hm .zero
      by_cases hpending : m.state = ConfigState.pending
      · refine iff_of_false (fun hharmless ↦ restHarmless_restart x ?_) (by simpa using hpending)
        have hrun : applyCandidate.run x = restartResponse.run x := by
          simp only [applyCandidate, run_bind, run_current, hread, hprogress, hpending]
          rfl
        rwa [RestHarmless, hrun] at hharmless
      · refine iff_of_true (((hrefused (.inr (.inr ?_))).restHarmless_iff hdata).mpr rfl) ?_
        · rwa [hread]
        · rintro m' ⟨⟩
          exact hpending

theorem restHarmless_sendLogs : x.service.RestHarmless x (sendLogs request) ↔
    x.service.Idle platform request .logs := by
  rw [ProvisioningService.Idle, sendLogs]
  cases requestCursor request with
  | none => exact iff_of_true (((Answers.error _ _ x).restHarmless_iff hdata).mpr rfl) rfl
  | some after =>
    refine iff_of_false (fun ⟨_, hnone⟩ ↦ ?_) (by simp)
    have hcarries := hnone (.logs (x.service.diagnosticLog.batch after))
      (List.mem_append_right _ (List.mem_singleton_self _))
    cases hcarries

theorem restHarmless_factoryReset :
    x.service.RestHarmless x (delayedRestart platform request true) ↔
      x.service.Idle platform request .factoryReset := by
  rw [ProvisioningService.Idle]
  cases hconfirmed : (request.headerValue "X-Confirm-Factory-Reset" 64).any factoryConfirmed with
  | false =>
    have hanswers : Answers (delayedRestart platform request true) x x.service := by
      simp only [delayedRestart, if_true, hconfirmed]
      exact .error _ _ x
    exact iff_of_true ((hanswers.restHarmless_iff hdata).mpr rfl) (.inl rfl)
  | true =>
    rw [or_iff_right (by simp)]
    have hstep := step_factoryReset platform request x.service.store
    generalize hr : (configStore platform.toPlatform).step x.service.store
      (.call .factoryReset request.faults) = r at hstep
    rcases hstep with ⟨hfails, hstore, e, hreply, he⟩ | ⟨hcommits, hreply⟩
    · have hanswers : Answers (delayedRestart platform request true) x x.service := by
        simp only [delayedRestart, if_true, hconfirmed]
        refine .callStore fun x' hx' ↦ ?_
        rw [hr, hstore] at hx'
        rw [hr, hreply, ← show x'.service = x.service from hx']
        exact if_pos he ▸ .error _ _ x'
      exact iff_of_true ((hanswers.restHarmless_iff hdata).mpr rfl) hfails
    · refine iff_of_false (fun ⟨hservice, _⟩ ↦ ?_) hcommits
      have hrun : ((delayedRestart platform request true).run x).2.service.restarts =
          x.service.restarts + 1 := by
        simp only [delayedRestart, if_true, hconfirmed, Bool.not_true, Bool.false_eq_true, if_false,
          run_bind, run_callStore, hr, hreply]
        rfl
      exact Nat.succ_ne_self _ (hrun.symm.trans (congrArg ProvisioningService.restarts hservice))

end Rest
end Idle

/-- Handled after a refusal, a request is harmless exactly if the refusal could not be sent
or the rest of its handler is idle. -/
theorem harmless_iff_of_refused (platform : HttpPlatform) {service : ProvisioningService}
    {route : Route} {request : HttpRequest} (h : service.Refused route request) :
    service.Harmless (service.handle platform route request) ↔
      request.sends.headD true = false ∨ service.Idle platform request route := by
  have hauthorizes : authorizes platform service request route.modifies = false :=
    authorizes_of_refused h
  have hdata : ∀ response ∈ (Exchange.refused ⟨service, [], request.sends⟩).responses,
      response.carriesData = false := by simp [Exchange.refused, HttpResponse.carriesData]
  have hgate {modifying : Bool} (rest : Handling EspErr)
      (hauthorizes : authorizes platform service request modifying = false)
      (hrest : service.RestHarmless (Exchange.refused ⟨service, [], request.sends⟩) rest ↔
        service.Idle platform request route) :
      service.RestHarmless ⟨service, [], request.sends⟩
          (afterAuth platform request modifying rest) ↔
        request.sends.headD true = false ∨ service.Idle platform request route := by
    rw [harmless_afterAuth hauthorizes rest, hrest, ← Bool.not_eq_true, imp_iff_not_or]
  have hanswers {m : Handling EspErr} (hm : Answers m ⟨service, [], request.sends⟩ service) :
      service.RestHarmless ⟨service, [], request.sends⟩ m ↔
        request.sends.headD true = false ∨ True :=
    iff_of_true ((hm.restHarmless_iff (by simp)).mpr rfl) (.inr trivial)
  cases route with
  | root =>
    refine hanswers ?_
    rw [Route.handler, rootHandler, arrived_of_refused h (.inl rfl)]
    exact .error _ _ _
  | sessionCreate =>
    refine hanswers ?_
    rw [Route.handler, sessionCreateHandler, arrived_of_refused h (.inr rfl)]
    exact .error _ _ _
  | sessionDelete =>
    exact hgate _ hauthorizes (iff_of_false (restHarmless_deleteSession _) id)
  | status => exact hgate _ hauthorizes (restHarmless_sendStatus _ hdata)
  | config => exact hgate _ hauthorizes (iff_of_false (restHarmless_sendConfiguration _) id)
  | candidatePut => exact hgate _ hauthorizes (restHarmless_putCandidate _ hdata)
  | candidateDelete => exact hgate _ hauthorizes (restHarmless_deleteCandidate _ hdata)
  | apply => exact hgate _ hauthorizes (restHarmless_applyCandidate _ hdata)
  | logs => exact hgate _ hauthorizes (restHarmless_sendLogs _ hdata)
  | reboot => exact hgate _ hauthorizes (iff_of_false (restHarmless_restart _) id)
  | factoryReset => exact hgate _ hauthorizes (restHarmless_factoryReset _ hdata)
  | logsStream =>
    refine hanswers ?_
    rw [Route.handler]
    have hrun : (logsStreamHandler platform request).run ⟨service, [], request.sends⟩ =
        (send .noContent).run ⟨service, [], request.sends⟩ := by
      have hfalse : authorizes platform service request false = false := hauthorizes
      rw [logsStreamHandler, authenticated, run_bind, run_bind, run_current]
      simp only [hfalse]
      rfl
    have hsend : Answers (send .noContent) ⟨service, [], request.sends⟩ service :=
      .send rfl rfl _
    exact ⟨by rw [hrun]; exact hsend.service_eq, by rw [hrun]; exact hsend.responses_eq⟩

end EdgeMonitor.Firmware
