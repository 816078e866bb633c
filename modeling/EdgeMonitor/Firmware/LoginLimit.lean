import EdgeMonitor.Base.Lockout
import EdgeMonitor.Firmware.SessionTokens

/-!
# The limit of logins

`session_create_handler` checks the lock, receives the body, compares the secret and then
counts a failure, with time passing between these. The handler of `ProvisioningHttp` is the one
where no time passes. Here the requests carry their delays, and a run of logins is one of the
limiter of `Base.Lockout`.
-/

namespace EdgeMonitor.Firmware
open EdgeMonitor.Base
open CJson ProvisioningService

/-! ### Logins that take time -/

/-- A login, with the time until its lock is checked, until its body is there, and from the
comparison to the update that follows it. -/
structure LoginRequest where
  request : HttpRequest
  waitMs : Nat
  receiveMs : Nat
  compareMs : Nat

/-- The service some time later. -/
def ProvisioningService.elapsed (service : ProvisioningService) (ms : Nat) :
    ProvisioningService :=
  { service with nowMs := service.nowMs + ms }

/-- `session_create_handler`, `provisioning_service.c:389–464`, with the time of its comparison
and whether the secret was right. A secret that is missing or no string counts as wrong. -/
def timedSessionCreate (platform : HttpPlatform) (login : LoginRequest) :
    Handling (EspErr × Option Lockout.Attempt) := do
  let request := login.request
  update (·.elapsed login.waitMs)
  if !requestArrivedOnSoftap platform request then
    return (← jsonError "403 Forbidden" "login is available only through the SoftAP", none)
  let service ← current
  if service.nowMs < service.loginLockedUntilMs then
    return (← jsonError "429 Too Many Requests" "login temporarily locked", none)
  let (result, body) ← receiveJson platform request
  update (·.elapsed login.receiveMs)
  if result ≠ .ok then return (.ok, none)
  let compared ← current
  let valid := (text? (item body "secret")).any (constantTimeEqual · service.setupSecret.val)
  update (·.elapsed login.compareMs)
  if !valid then
    update (·.countFailure platform)
    return (← jsonError "401 Unauthorized" "invalid credentials", some ⟨compared.nowMs, false⟩)
  update (·.openSession platform request)
  update ProvisioningService.streamShutdown
  let result ← send (.session request.newSession request.newCsrf service.nextGeneration)
  update ProvisioningService.activity
  return (result, some ⟨compared.nowMs, true⟩)

/-- The service under logins, with the comparison that each of them makes. -/
def loginServer (platform : HttpPlatform) :
    Machine ProvisioningService LoginRequest (Option Lockout.Attempt) where
  step service login :=
    let r := (timedSessionCreate platform login).run ⟨service, [], login.request.sends⟩
    (r.2.service, r.1.2)

/-- The comparisons of a run. -/
def comparisons (platform : HttpPlatform) (service : ProvisioningService)
    (logins : List LoginRequest) : List Lockout.Attempt :=
  ((loginServer platform).trace service logins).filterMap Prod.snd

/-! ### The limiter -/

/-- The limit that the configuration sets. -/
def HttpPlatform.loginLimit (platform : HttpPlatform) : Lockout.Limit :=
  ⟨platform.loginMaxFailures.toNat, platform.loginLockoutSeconds * 1000⟩

/-- What the limiter sees of the service. -/
def ProvisioningService.limiter (service : ProvisioningService) : Lockout.Limiter :=
  ⟨service.loginFailures.toNat, service.loginLockedUntilMs, service.nowMs⟩

section
variable (platform : HttpPlatform) (service : ProvisioningService)

@[simp] theorem ProvisioningService.elapsed_zero : service.elapsed 0 = service := by
  change { service with nowMs := service.nowMs + 0 } = service
  rw [Int.add_zero]

theorem ProvisioningService.elapsed_elapsed (a b : Nat) :
    (service.elapsed a).elapsed b = service.elapsed (a + b) := by
  change { service with nowMs := service.nowMs + a + b } =
    { service with nowMs := service.nowMs + (a + b : Nat) }
  rw [Int.natCast_add, Int.add_assoc]

/-- When no time passes the handler is the one of `ProvisioningHttp`. -/
theorem timedSessionCreate_untimed (request : HttpRequest) :
    Prod.fst <$> timedSessionCreate platform ⟨request, 0, 0, 0⟩ =
      sessionCreateHandler platform request := by
  have hupdate : update (·.elapsed 0) = (pure () : Handling Unit) := by
    simp only [ProvisioningService.elapsed_zero]
    rfl
  unfold timedSessionCreate sessionCreateHandler
  simp only [hupdate, pure_bind]
  split
  next => rfl
  next =>
    simp only [map_bind]
    apply bind_congr
    intro service
    split
    next => rfl
    next =>
      simp only [map_bind]
      apply bind_congr
      intro received
      split
      next => rfl
      next =>
        simp only [map_bind]
        split
        next => rfl
        next => rfl

/-- What a failure does to the limiter. -/
theorem limiter_countFailure (h : service.loginFailures < platform.loginMaxFailures) :
    (service.loginFailures.toNat + 1 < platform.loginLimit.maximum ∧
      (service.countFailure platform).limiter =
        { service.limiter with failures := service.loginFailures.toNat + 1 }) ∨
    (platform.loginLimit.maximum ≤ service.loginFailures.toNat + 1 ∧
      (service.countFailure platform).limiter =
        ⟨0, service.nowMs + platform.loginLimit.duration, service.nowMs⟩) := by
  have hlt : service.loginFailures.toNat < platform.loginMaxFailures.toNat := UInt32.lt_iff_toNat_lt.mp h
  have hsize := platform.loginMaxFailures.toNat_lt
  have hadd : (service.loginFailures + 1).toNat = service.loginFailures.toNat + 1 := by
    change (service.loginFailures.toNat + 1) % 2 ^ 32 = _
    omega
  rw [ProvisioningService.countFailure]
  by_cases hmax : service.loginFailures + 1 ≥ platform.loginMaxFailures
  · right
    rw [if_pos hmax]
    have hmax' := UInt32.le_iff_toNat_le.mp hmax
    rw [hadd] at hmax'
    refine ⟨hmax', ?_⟩
    change Lockout.Limiter.mk 0 _ _ = _
    simp only [HttpPlatform.loginLimit, Int.natCast_mul]
    rfl
  · left
    rw [if_neg hmax]
    have hmax' := UInt32.lt_iff_toNat_lt.mp (UInt32.not_le.mp hmax)
    rw [hadd] at hmax'
    refine ⟨hmax', ?_⟩
    change Lockout.Limiter.mk (service.loginFailures + 1).toNat _ _ = _
    rw [hadd]
    rfl

/-! ### One login -/

variable (login : LoginRequest)

/-- What a login can do: nothing but take time; or, if the lock is over when it is checked, fail
to be received, compare and fail, or compare and succeed. -/
theorem loginServer_cases :
    (loginServer platform).step service login = (service.elapsed login.waitMs, none) ∨
    service.loginLockedUntilMs ≤ service.nowMs + login.waitMs ∧
      ((loginServer platform).step service login =
          ((service.elapsed login.waitMs).elapsed login.receiveMs, none) ∨
        (loginServer platform).step service login =
          ((((service.elapsed login.waitMs).elapsed login.receiveMs).elapsed
              login.compareMs).countFailure platform,
            some ⟨service.nowMs + login.waitMs + login.receiveMs, false⟩) ∨
        ((loginServer platform).step service login).1.limiter =
            ⟨0, service.loginLockedUntilMs,
              service.nowMs + login.waitMs + login.receiveMs + login.compareMs⟩ ∧
          ((loginServer platform).step service login).2 =
            some ⟨service.nowMs + login.waitMs + login.receiveMs, true⟩) := by
  have hstep : (loginServer platform).step service login =
      (((timedSessionCreate platform login).run ⟨service, [], login.request.sends⟩).2.service,
        ((timedSessionCreate platform login).run ⟨service, [], login.request.sends⟩).1.2) := rfl
  rw [hstep, timedSessionCreate, run_bind, run_update]
  dsimp only
  by_cases harrived : requestArrivedOnSoftap platform login.request = true
  swap
  · left
    rw [if_pos (by simpa using harrived)]
    rfl
  rw [if_neg (by simpa using harrived), run_bind, run_current]
  dsimp only
  by_cases hlock : (service.elapsed login.waitMs).nowMs <
      (service.elapsed login.waitMs).loginLockedUntilMs
  · left
    rw [if_pos hlock]
    rfl
  right
  refine ⟨Int.not_lt.mp hlock, ?_⟩
  rw [if_neg hlock, run_bind]
  -- the body arrives
  have hservice := (run_receiveJson platform login.request
    ⟨service.elapsed login.waitMs, [], login.request.sends⟩).2.2.service_eq
  generalize (receiveJson platform login.request).run
    ⟨service.elapsed login.waitMs, [], login.request.sends⟩ = received at hservice ⊢
  obtain ⟨⟨result, body⟩, y⟩ := received
  dsimp only at hservice ⊢
  rw [run_bind, run_update]
  dsimp only
  by_cases hresult : result = .ok
  swap
  · left
    rw [if_pos hresult, hservice]
    rfl
  right
  rw [if_neg (not_not.mpr hresult), run_bind, run_current, run_bind, run_update]
  dsimp only
  rw [hservice]
  -- the secret is compared
  by_cases hvalid : ((text? (item body "secret")).any
      (constantTimeEqual · (service.elapsed login.waitMs).setupSecret.val)) = true
  · right
    rw [if_neg (by simpa using hvalid)]
    exact ⟨rfl, rfl⟩
  · left
    rw [if_pos (by simpa using hvalid)]
    rfl

/-- A login that comes while the lock holds makes no comparison. Only the clock goes on. -/
theorem loginServer_step_locked
    (h : service.nowMs + login.waitMs < service.loginLockedUntilMs) :
    (loginServer platform).step service login = (service.elapsed login.waitMs, none) := by
  cases loginServer_cases platform service login with
  | inl hidle => exact hidle
  | inr hover => exact absurd hover.1 (Int.not_le.mpr h)

/-- Every login is a step of the limiter. -/
theorem loginServer_step (h : service.loginFailures < platform.loginMaxFailures) :
    Lockout.Step platform.loginLimit service.limiter
      ((loginServer platform).step service login).2
      ((loginServer platform).step service login).1.limiter := by
  have hwait : service.nowMs ≤ service.nowMs + login.waitMs := by omega
  have hreceived : service.nowMs + login.waitMs ≤
      service.nowMs + login.waitMs + login.receiveMs := by omega
  have hcompared : service.nowMs + login.waitMs + login.receiveMs ≤
      service.nowMs + login.waitMs + login.receiveMs + login.compareMs := by omega
  obtain hidle | ⟨hlock, hrefused | hfailed | ⟨hlimiter, hattempt⟩⟩ :=
    loginServer_cases platform service login
  · rw [hidle]
    exact .idle _ hwait
  · rw [hrefused]
    exact .idle _ (Int.le_trans hwait hreceived)
  · rw [hfailed]
    have hlock' := Int.le_trans hlock hreceived
    have hstart := Int.le_trans hwait hreceived
    obtain ⟨hmax, hcounted⟩ | ⟨hmax, hcounted⟩ := limiter_countFailure platform
      (((service.elapsed login.waitMs).elapsed login.receiveMs).elapsed login.compareMs) h
    · dsimp only
      rw [hcounted]
      exact .failed _ _ hlock' hstart hcompared hmax
    · dsimp only
      rw [hcounted]
      exact .locked _ _ hlock' hstart hcompared hmax
  · rw [hlimiter, hattempt]
    exact .succeeded _ _ (Int.le_trans hlock hreceived) (Int.le_trans hwait hreceived) hcompared

end

/-! ### Runs of logins -/

theorem comparisons_cons (platform : HttpPlatform) (service : ProvisioningService)
    (login : LoginRequest) (logins : List LoginRequest) :
    comparisons platform service (login :: logins) =
      ((loginServer platform).step service login).2.toList ++
        comparisons platform ((loginServer platform).step service login).1 logins := by
  rw [comparisons, Machine.trace]
  cases hattempt : ((loginServer platform).step service login).2 with
  | none => rfl
  | some attempt => rfl

/-- A run of logins is one of the limiter. -/
theorem loginServer_run (platform : HttpPlatform) {service : ProvisioningService}
    (h : service.loginFailures < platform.loginMaxFailures) (logins : List LoginRequest) :
    Lockout.Run platform.loginLimit service.limiter (comparisons platform service logins)
      ((loginServer platform).run service logins).limiter := by
  induction logins generalizing service with
  | nil => exact .done _
  | cons login logins ih =>
    have hstep := loginServer_step platform service login h
    have hnext : ((loginServer platform).step service login).1.loginFailures <
        platform.loginMaxFailures :=
      UInt32.lt_iff_toNat_lt.mpr (hstep.failures_lt (UInt32.lt_iff_toNat_lt.mp h))
    rw [comparisons_cons]
    exact .step hstep (ih hnext)

/-- Guessing the secret is slow: of more wrong comparisons in a row than the limit allows, the
last is at least a lockout after the first, and logins during a lockout make none. The service
starts with no failure counted, and the limit is at least three. -/
theorem login_rate_limited (platform : HttpPlatform) (service : ProvisioningService)
    (hfailures : service.loginFailures < platform.loginMaxFailures)
    (logins : List LoginRequest) :
    (∀ before wrong after first last,
      comparisons platform service logins = before ++ wrong ++ after →
      (∀ comparison ∈ wrong, comparison.succeeded = false) →
      platform.loginMaxFailures.toNat + 1 ≤ wrong.length →
      wrong.head? = some first → wrong.getLast? = some last →
      first.time + platform.loginLockoutSeconds * 1000 ≤ last.time) ∧
    (∀ login, ((loginServer platform).run service logins).nowMs + login.waitMs <
        ((loginServer platform).run service logins).loginLockedUntilMs →
      (loginServer platform).step ((loginServer platform).run service logins) login =
        (((loginServer platform).run service logins).elapsed login.waitMs, none)) := by
  refine ⟨?_, fun login hlocked ↦ loginServer_step_locked platform _ login hlocked⟩
  intro before wrong after first last hall hwrong hlength hfirst hlast
  have hrun := loginServer_run platform hfailures logins
  rw [hall, List.append_assoc] at hrun
  obtain ⟨middle, hbefore, hrest⟩ := hrun.split
  have hmiddle : middle.failures < platform.loginLimit.maximum :=
    hbefore.failures_lt (UInt32.lt_iff_toNat_lt.mp hfailures)
  have hmax : platform.loginLimit.maximum = platform.loginMaxFailures.toNat := rfl
  cases wrong with
  | nil => cases hfirst
  | cons head failed =>
    have hhead : head = first := Option.some.inj hfirst
    subst hhead
    rw [List.length_cons] at hlength
    cases failed with
    | nil =>
      rw [List.length_nil] at hlength
      omega
    | cons second failed =>
      rw [List.getLast?_cons_cons] at hlast
      have hle := hrest.lockout_le hwrong (by omega) hmiddle hlast
      have hduration : (platform.loginLimit.duration : Int) =
        platform.loginLockoutSeconds * 1000 := Int.natCast_mul _ _
      omega

/-- Five wrong secrets, a second apart, and another one after the lockout. -/
def sampleGuesses : List LoginRequest :=
  List.replicate 5 ⟨strayRequest, 1000, 10, 1⟩ ++ [⟨strayRequest, 300000, 10, 1⟩]

theorem login_rate_limited_guesses : (11010 : Int) + 300 * 1000 ≤ 315065 :=
  (login_rate_limited sampleHttpPlatform sampleService (by decide) sampleGuesses).1 []
    [⟨11010, false⟩, ⟨12021, false⟩, ⟨13032, false⟩, ⟨14043, false⟩, ⟨15054, false⟩,
      ⟨315065, false⟩] [] _ _ (by decide +kernel) (by decide) (by decide) rfl rfl

end EdgeMonitor.Firmware
