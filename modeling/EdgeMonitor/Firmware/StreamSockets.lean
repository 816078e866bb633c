import EdgeMonitor.Firmware.StreamStop

/-!
# The sockets of diagnostic streams

A shutdown of the stream closes the descriptor that the lifecycle records. The worker hands its
request back to the server before it clears that record under the stream mutex. Over every
interleaving of the tasks of `StreamService`: a shutdown closes the socket of a request that is
still the service's exactly when it does not come between the two.
-/

namespace EdgeMonitor.Firmware
open EdgeMonitor.Base

namespace StreamTask

/-- The task is about to call `request_stream_shutdown`. -/
def shuts : StreamTask → Bool
  | sessionChanged => true
  | stop .requesting => true
  | _ => false

/-- The task has completed its async request, or never began one, and has not yet completed in
the lifecycle. -/
def released : StreamTask → Bool
  | streamReleasing _ => true
  | worker _ _ .completing => true
  | _ => false

/-- The async request of the task with its descriptor, before the lifecycle records it. -/
def carries : StreamTask → Option (Nat × Int32)
  | streamBegun request _ _ socket => some (request, socket)
  | streamContext context socket => some (context.request, socket)
  | _ => none

/-- A task with an async request has an admission. -/
theorem admission_of_owes {task : StreamTask} {request : Nat} (h : task.owes = some request) :
    ∃ w, task.admission = some w := by
  cases task with
  | streamBegun request authorized w socket => exact ⟨w, rfl⟩
  | streamContext context socket => exact ⟨context.workerGeneration, rfl⟩
  | streamAttached context => exact ⟨context.workerGeneration, rfl⟩
  | streamFailed context => exact ⟨context.workerGeneration, rfl⟩
  | worker context iteration step => exact ⟨context.workerGeneration, rfl⟩
  | _ => cases h

/-- A task that has completed its request has one, too, and owes no request. -/
theorem admission_of_released {task : StreamTask} (h : task.released = true) :
    (∃ w, task.admission = some w) ∧ task.owes = none := by
  cases task with
  | streamReleasing w => exact ⟨⟨w, rfl⟩, rfl⟩
  | worker context iteration step =>
    cases step with
    | completing => exact ⟨⟨context.workerGeneration, rfl⟩, rfl⟩
    | _ => cases h
  | _ => cases h

end StreamTask

namespace StreamService
open StreamTask

/-! ### What a shutdown closes -/

/-- The descriptor that `request_stream_shutdown` passes to `httpd_sess_trigger_close`,
`provisioning_service.c:174–189`. -/
def closing (g : StreamService) (serviceStopping : Bool) : Option Int32 :=
  let socketFd := (g.lifecycle.requestShutdown serviceStopping).1.2
  if g.server && decide (0 ≤ socketFd) then some socketFd else none

/-- The descriptor that the next step of a task closes. -/
def closes (g : StreamService) : StreamTask → Option Int32
  | .sessionChanged => g.closing false
  | .stop .requesting => g.closing true
  | _ => none

/-- The tasks of the service with the async requests begun so far and their descriptors. -/
abbrev WithSockets := (StreamService × List StreamTask) × List (Nat × Int32)

/-- The async request that the next step of a task begins, with its descriptor, which
`httpd_req_async_handler_begin` hands on to it. -/
def begun (g : StreamService) (task : StreamTask) (ok : Bool) : List (Nat × Int32) :=
  match task, ok with
  | .streamAdmitted _ _ socket, true => [(g.nextRequest, socket)]
  | _, _ => []

/-- The async requests begun after a turn. -/
def begins (sockets : List (Nat × Int32)) (s : StreamService × List StreamTask)
    (turn : Turn Bool StreamEvent)
    (_ : (StreamService × List StreamTask) × Option StreamOutput) : List (Nat × Int32) :=
  match turn with
  | .run i ok =>
    match s.2[i]? with
    | some task => sockets ++ s.1.begun task ok
    | none => sockets
  | .outside _ => sockets

/-- The tasks with that history. -/
def socketTasks : Machine WithSockets (Turn Bool StreamEvent) (Option StreamOutput) :=
  tasks.machine.observed begins

/-- A descriptor that the turn closes belongs to an async request that has not been
completed. -/
def ClosesOwned (s : WithSockets) (turn : Turn Bool StreamEvent) : Prop :=
  ∀ i ok task socket, turn = .run i ok → s.1.2[i]? = some task →
    s.1.1.closes task = some socket →
    ∃ request, (request, socket) ∈ s.2 ∧ request ∉ s.1.1.completed

/-- No shutdown meets a recorded socket whose task has completed its request. -/
def ShutsBefore (s : WithSockets) (turn : Turn Bool StreamEvent) : Prop :=
  ∀ i ok task, turn = .run i ok → s.1.2[i]? = some task → task.shuts = true →
    s.1.1.server = true → 0 ≤ s.1.1.lifecycle.activeSocket →
    ∀ other ∈ s.1.2, other.released = false

/-- A shutdown of an active worker closes the recorded socket. -/
theorem closes_eq_some_iff (g : StreamService) (task : StreamTask) (socket : Int32) :
    g.closes task = some socket ↔ task.shuts = true ∧ g.server = true ∧
      g.lifecycle.active = true ∧ g.lifecycle.activeSocket = socket ∧ 0 ≤ socket := by
  have hclosing (stopping : Bool) : g.closing stopping = some socket ↔ g.server = true ∧
      g.lifecycle.active = true ∧ g.lifecycle.activeSocket = socket ∧ 0 ≤ socket := by
    rw [closing, StreamLifecycle.requestShutdown]
    cases hactive : g.lifecycle.active with
    | false => cases stopping <;> simp [hactive]
    | true =>
      cases stopping <;> simp [hactive] <;> grind
  cases task with
  | sessionChanged => simpa [closes, shuts] using hclosing false
  | stop step =>
    cases step with
    | requesting => simpa [closes, shuts] using hclosing true
    | _ => simp [closes, shuts]
  | _ => simp [closes, shuts]

/-! ### What the lifecycle records -/

/-- If the task has the admission, its request has the recorded socket or is completed. -/
def Records (g : StreamService) (sockets : List (Nat × Int32)) (task : StreamTask) : Prop :=
  ∀ w, task.admission = some w → task.released = true ∨
    ∃ request, task.owes = some request ∧ (request, g.lifecycle.activeSocket) ∈ sockets

/-- The recorded socket is the one of the request of the active worker. -/
structure Recorded (g : StreamService) (ts : List StreamTask) (sockets : List (Nat × Int32)) :
    Prop where
  idle : g.lifecycle.active = false → g.lifecycle.activeSocket = -1
  begun_lt : ∀ x ∈ sockets, x.1 < g.nextRequest
  carried : ∀ task ∈ ts, ∀ x, task.carries = some x → x ∈ sockets
  records : 0 ≤ g.lifecycle.activeSocket → ∀ task ∈ ts, g.Records sockets task

theorem recorded_initial : Recorded {} [] [] where
  idle _ := rfl
  begun_lt := by simp
  carried := by simp
  records := by simp

section
variable {g g' : StreamService} {sockets sockets' : List (Nat × Int32)} {task task' : StreamTask}

theorem Records.of_admission_none (h : task.admission = none) : g.Records sockets task := by
  intro w hw
  rw [h] at hw
  cases hw

theorem Records.of_released (h : task.released = true) : g.Records sockets task :=
  fun _ _ ↦ .inl h

theorem Records.mono (h : g.Records sockets task)
    (hsocket : g'.lifecycle.activeSocket = g.lifecycle.activeSocket)
    (hsub : ∀ x ∈ sockets, x ∈ sockets') : g'.Records sockets' task := by
  intro w hw
  cases h w hw with
  | inl hreleased => exact .inl hreleased
  | inr howes =>
    obtain ⟨request, howes, hmem⟩ := howes
    rw [← hsocket] at hmem
    exact .inr ⟨request, howes, hsub _ hmem⟩

/-- A task that goes on with the same request goes on with its socket. -/
theorem Records.pass (h : g.Records sockets task) (hnot : task.released = false)
    (hadmission : task'.admission = task.admission) (howes : task'.owes = task.owes) :
    g.Records sockets task' := by
  intro w hw
  rw [hadmission] at hw
  cases h w hw with
  | inl hreleased =>
    rw [hnot] at hreleased
    cases hreleased
  | inr hrecords =>
    rw [howes]
    exact .inr hrecords

end

/-! ### One step -/

/-- An admission starts without a socket. -/
theorem admitStream_socket {g g' : StreamService} {generation : List UInt8}
    {authorized w : UInt64} (h : g.admitStream generation authorized = some (w, g')) :
    g'.lifecycle.active = true ∧ g'.lifecycle.activeSocket = -1 := by
  obtain ⟨-, -, lifecycle, hworker, rfl⟩ := admitStream_spec h
  obtain ⟨hactive, hstopping⟩ := StreamLifecycle.admit_eq_some_idle hworker
  simp only [StreamLifecycle.admitWorker, hactive, hstopping, Bool.or_self, Bool.false_eq_true,
    if_false, Option.some.injEq, Prod.mk.injEq] at hworker
  rw [← hworker.2]
  exact ⟨rfl, rfl⟩

theorem attachSocket_socket (s : StreamLifecycle) (w : UInt64) (fd : Int32) :
    (s.attachSocket w fd).2.activeSocket = s.activeSocket ∨
      (s.attachSocket w fd).2.activeSocket = fd := by
  rw [StreamLifecycle.attachSocket]
  split
  next => exact .inl rfl
  next => exact .inr rfl

section
variable (g : StreamService) (others : List StreamTask) (task : StreamTask) (ok : Bool)

/-- A task carries a request that it begins, or goes on carrying one. -/
theorem carries_step : ∀ t ∈ (g.advance others task ok).2.1, ∀ x, t.carries = some x →
    x ∈ g.begun task ok ∨ task.carries = some x := by
  cases task with
  | streamAdmitted authorized w socket =>
    cases ok with
    | false => simp [advance, carries]
    | true => simp [advance, carries, begun]
  | streamBegun request authorized w socket => cases ok <;> simp [advance, carries]
  | streamContext context socket =>
    simp only [advance, List.mem_singleton, forall_eq]
    split <;> simp [carries]
  | streamAuthenticated generation authorized socket =>
    simp only [advance]
    split <;> simp [carries]
  | worker context iteration step =>
    cases step <;> simp only [advance, advanceWorker] <;> repeat' split
    all_goals simp [carries]
  | stop step =>
    cases step <;> simp only [advance, advanceStop] <;> repeat' split
    all_goals simp [carries]
  | _ =>
    simp only [advance]
    repeat' split
    all_goals simp [carries]

/-- A begun request has a number of its own. -/
theorem begun_lt_step : ∀ x ∈ g.begun task ok, x.1 < (g.advance others task ok).1.nextRequest := by
  cases task with
  | streamAdmitted authorized w socket =>
    cases ok with
    | false => simp [begun]
    | true => simp [begun, advance]
  | _ => simp [begun]

/-- A step that does not have the admission keeps the recorded socket, or clears it. Without an
active worker none is recorded. -/
theorem socket_step (hidle : g.lifecycle.active = false → g.lifecycle.activeSocket = -1) :
    let r := g.advance others task ok
    (r.1.lifecycle.active = false → r.1.lifecycle.activeSocket = -1) ∧
    (task.admission = none → r.1.lifecycle.activeSocket = g.lifecycle.activeSocket ∨
      r.1.lifecycle.activeSocket = -1) := by
  intro r
  have hshutdown (stopping : Bool) : ((g.lifecycle.requestShutdown stopping).2.active = false →
      (g.lifecycle.requestShutdown stopping).2.activeSocket = -1) ∧
      (g.lifecycle.requestShutdown stopping).2.activeSocket = g.lifecycle.activeSocket := by
    rw [StreamLifecycle.requestShutdown_snd]
    exact ⟨hidle, rfl⟩
  have hcomplete (w : UInt64) : (g.lifecycle.complete w).2.active = false →
      (g.lifecycle.complete w).2.activeSocket = -1 := by
    rw [StreamLifecycle.complete]
    split
    next => exact hidle
    next => exact fun _ ↦ rfl
  cases task with
  | sessionChanged => exact ⟨(hshutdown false).1, fun _ ↦ .inl (hshutdown false).2⟩
  | streamAuthenticated generation authorized socket =>
    simp only [r, advance]
    split
    next w g' hadmission =>
      have hsocket := (admitStream_socket hadmission).2
      exact ⟨fun _ ↦ hsocket, fun _ ↦ .inr hsocket⟩
    next => exact ⟨hidle, fun _ ↦ .inl rfl⟩
  | streamContext context socket =>
    refine ⟨?_, fun hnone ↦ by cases hnone⟩
    simp only [r, advance, StreamLifecycle.attachSocket]
    split
    next => exact hidle
    next hattached =>
      intro hactive
      have hinactive : g.lifecycle.active = false := hactive
      simp [hinactive] at hattached
  | streamFailed context =>
    obtain ⟨hlifecycle, -⟩ := completeStreamContext_frame g context
    have hsame : r.1.lifecycle = g.lifecycle := hlifecycle
    rw [hsame]
    exact ⟨hidle, fun _ ↦ .inl rfl⟩
  | streamReleasing w => exact ⟨hcomplete w, fun hnone ↦ by cases hnone⟩
  | worker context iteration step =>
    refine ⟨?_, fun hnone ↦ by cases hnone⟩
    cases step with
    | finishing =>
      obtain ⟨hlifecycle, -⟩ := completeStreamContext_frame g context
      have hsame : r.1.lifecycle = g.lifecycle := hlifecycle
      rw [hsame]
      exact hidle
    | completing => exact hcomplete context.workerGeneration
    | _ =>
      have hsame : r.1.lifecycle = g.lifecycle := by
        simp only [r, advance, advanceWorker]
        repeat' split
        all_goals rfl
      rw [hsame]
      exact hidle
  | stop step =>
    cases step with
    | requesting => exact ⟨(hshutdown true).1, fun _ ↦ .inl (hshutdown true).2⟩
    | closed => exact ⟨fun _ ↦ rfl, fun _ ↦ .inr rfl⟩
    | _ =>
      have hsame : r.1.lifecycle = g.lifecycle := by
        simp only [r, advance, advanceStop]
        repeat' split
        all_goals rfl
      rw [hsame]
      exact ⟨hidle, fun _ ↦ .inl rfl⟩
  | _ =>
    have hsame : r.1.lifecycle = g.lifecycle := by
      simp only [r, advance]
      repeat' split
      all_goals rfl
    rw [hsame]
    exact ⟨hidle, fun _ ↦ .inl rfl⟩

/-- What a task goes on as has the recorded socket, too. -/
theorem records_step {sockets : List (Nat × Int32)}
    (hcarried : ∀ x, task.carries = some x → x ∈ sockets)
    (hrecords : 0 ≤ g.lifecycle.activeSocket → g.Records sockets task)
    (h : 0 ≤ (g.advance others task ok).1.lifecycle.activeSocket) :
    ∀ t ∈ (g.advance others task ok).2.1,
      (g.advance others task ok).1.Records (sockets ++ g.begun task ok) t := by
  have hmem : ∀ x ∈ sockets, x ∈ sockets ++ g.begun task ok :=
    fun x hx ↦ List.mem_append_left _ hx
  cases task with
  | streamAuthenticated generation authorized socket =>
    simp only [advance] at h ⊢
    split at h
    next w g' hadmission =>
      rw [(admitStream_socket hadmission).2] at h
      exact absurd h (by decide)
    next => simp
  | streamAdmitted authorized w socket =>
    -- before the request begins no socket is recorded
    have hsame : (g.advance others (.streamAdmitted authorized w socket) ok).1.lifecycle =
        g.lifecycle := by cases ok <;> rfl
    rw [hsame] at h
    cases hrecords h w rfl with
    | inl hreleased => cases hreleased
    | inr howes =>
      obtain ⟨request, howes, -⟩ := howes
      cases howes
  | streamBegun request authorized w socket =>
    intro t ht
    have hold := hrecords (by cases ok <;> exact h)
    cases ok with
    | false =>
      rw [List.mem_singleton.mp ht]
      exact (hold.pass rfl rfl rfl).mono rfl hmem
    | true =>
      rw [List.mem_singleton.mp ht]
      exact (hold.pass rfl rfl rfl).mono rfl hmem
  | streamContext context socket =>
    intro t ht
    have hsame : t.admission = some context.workerGeneration ∧ t.owes = some context.request := by
      simp only [advance, List.mem_singleton] at ht
      rw [ht]
      split <;> exact ⟨rfl, rfl⟩
    cases attachSocket_socket g.lifecycle context.workerGeneration socket with
    | inl hkept =>
      have hold : 0 ≤ g.lifecycle.activeSocket := hkept ▸ h
      exact ((hrecords hold).pass rfl hsame.1 hsame.2).mono hkept hmem
    | inr hattached =>
      have hsocket : (g.advance others (.streamContext context socket)
        ok).1.lifecycle.activeSocket = socket := hattached
      intro w hw
      rw [hsocket]
      exact .inr ⟨context.request, hsame.2, hmem _ (hcarried _ rfl)⟩
  | streamAttached context =>
    intro t ht
    cases ok with
    | false =>
      rw [List.mem_singleton.mp ht]
      exact ((hrecords h).pass rfl rfl rfl).mono rfl hmem
    | true =>
      rw [List.mem_singleton.mp ht]
      exact ((hrecords h).pass rfl rfl rfl).mono rfl hmem
  | streamFailed context =>
    intro t ht
    rw [List.mem_singleton.mp ht]
    exact .of_released rfl
  | worker context iteration step =>
    have hgoes (hfinishing : step ≠ .finishing) (hcompleting : step ≠ .completing) :
        (g.advance others (worker context iteration step) ok).1.lifecycle = g.lifecycle ∧
        (worker context iteration step).released = false ∧
        (worker context iteration step).owes = some context.request ∧
        ∀ t ∈ (g.advance others (worker context iteration step) ok).2.1,
          t.admission = some context.workerGeneration ∧ t.owes = some context.request := by
      cases step with
      | finishing => exact absurd rfl hfinishing
      | completing => exact absurd rfl hcompleting
      | _ =>
        refine ⟨?_, rfl, rfl, ?_⟩
        · simp only [advance, advanceWorker]
          repeat' split
          all_goals rfl
        · simp only [advance, advanceWorker]
          repeat' split
          all_goals simp [admission, owes]
    intro t ht
    by_cases hfinishing : step = .finishing
    · subst hfinishing
      rw [List.mem_singleton.mp ht]
      exact .of_released rfl
    by_cases hcompleting : step = .completing
    · subst hcompleting
      exact absurd ht List.not_mem_nil
    obtain ⟨hlifecycle, hnot, howes, hnew⟩ := hgoes hfinishing hcompleting
    rw [hlifecycle] at h
    have hold := hrecords h
    have hpass := hold.pass hnot (hnew t ht).1 ((hnew t ht).2.trans howes.symm)
    exact hpass.mono (congrArg StreamLifecycle.activeSocket hlifecycle) hmem
  | stop step =>
    have hnone : ∀ t ∈ (g.advance others (stop step) ok).2.1, t.admission = none := by
      cases step <;> simp only [advance, advanceStop] <;> repeat' split
      all_goals simp [admission]
    exact fun t ht ↦ .of_admission_none (hnone t ht)
  | streamReleasing w => exact fun t ht ↦ absurd ht List.not_mem_nil
  | _ =>
    intro t ht
    apply Records.of_admission_none
    revert t
    simp only [advance]
    repeat' split
    all_goals simp [admission]

end

/-! ### Runs -/

/-- The step of a task keeps what is recorded. -/
theorem Recorded.advance {g : StreamService} {l r : List StreamTask} {task : StreamTask}
    {sockets : List (Nat × Int32)} (h : Recorded g (l ++ task :: r) sockets)
    (hacc : Accounted g (l ++ task :: r)) (ok : Bool) :
    Recorded (g.advance (l ++ r) task ok).1 (l ++ (g.advance (l ++ r) task ok).2.1 ++ r)
      (sockets ++ g.begun task ok) := by
  obtain ⟨hidle, hbegun, hcarried, hrecords⟩ := h
  have htask : task ∈ l ++ task :: r := by simp
  have hothers : ∀ t, t ∈ l ∨ t ∈ r → t ∈ l ++ task :: r := by
    intro t ht
    simp only [List.mem_append, List.mem_cons]
    cases ht with
    | inl hl => exact .inl hl
    | inr hr => exact .inr (.inr hr)
  have hmem : ∀ x ∈ sockets, x ∈ sockets ++ g.begun task ok :=
    fun x hx ↦ List.mem_append_left _ hx
  obtain ⟨hidle', hsocket⟩ := socket_step g (l ++ r) task ok hidle
  refine ⟨hidle', ?_, ?_, ?_⟩
  · intro x hx
    cases List.mem_append.mp hx with
    | inl hx =>
      obtain ⟨-, hrequest⟩ := request_step g (l ++ r) task ok (hacc.unmarked task htask)
      have hlt := hbegun x hx
      obtain ⟨-, hnext, -⟩ | ⟨-, -, hnext, -⟩ | ⟨request, -, -, hnext, -⟩ := hrequest
      all_goals
        rw [hnext]
        omega
    | inr hx => exact begun_lt_step g (l ++ r) task ok x hx
  · intro t ht x hx
    rw [List.mem_append, List.mem_append] at ht
    obtain (hl | hnew) | hr := ht
    · exact hmem x (hcarried t (hothers t (.inl hl)) x hx)
    · cases carries_step g (l ++ r) task ok t hnew x hx with
      | inl hbegun => exact List.mem_append_right _ hbegun
      | inr hold => exact hmem x (hcarried task htask x hold)
    · exact hmem x (hcarried t (hothers t (.inr hr)) x hx)
  · intro hopen
    have hkept : ∀ t, t ∈ l ∨ t ∈ r →
        (g.advance (l ++ r) task ok).1.Records (sockets ++ g.begun task ok) t := by
      intro t ht
      cases hadmission : task.admission with
      | some w =>
        -- the task that steps is the only one with an admission
        obtain ⟨-, hl, hr⟩ := hacc.alone hadmission
        rw [List.filterMap_eq_nil_iff] at hl hr
        exact .of_admission_none (ht.elim (hl t) (hr t))
      | none =>
        cases hsocket hadmission with
        | inl hsame =>
          have hold : 0 ≤ g.lifecycle.activeSocket := hsame ▸ hopen
          exact (hrecords hold t (hothers t ht)).mono hsame hmem
        | inr hcleared =>
          rw [hcleared] at hopen
          exact absurd hopen (by decide)
    intro t ht
    rw [List.mem_append, List.mem_append] at ht
    obtain (hl | hnew) | hr := ht
    · exact hkept t (.inl hl)
    · exact records_step g (l ++ r) task ok (hcarried task htask)
        (fun hold ↦ hrecords hold task htask) hopen t hnew
    · exact hkept t (.inr hr)

/-- So does an event outside of the tasks. -/
theorem Recorded.outside {g : StreamService} {ts : List StreamTask}
    {sockets : List (Nat × Int32)} (h : Recorded g ts sockets) (event : StreamEvent) :
    Recorded (g.outside ts event).1 (ts ++ (g.outside ts event).2.1) sockets := by
  have hnew : ∀ t ∈ (g.outside ts event).2.1, t.carries = none ∧ t.admission = none := by
    cases event <;> simp only [StreamService.outside] <;> repeat' split
    all_goals simp [carries, admission]
  have hlifecycle : (g.outside ts event).1.lifecycle = g.lifecycle ∨
      (g.outside ts event).1.lifecycle = .init := by
    cases event with
    | start =>
      simp only [StreamService.outside]
      split
      next => exact .inl rfl
      next => exact .inr rfl
    | _ => exact .inl rfl
  have hnext : (g.outside ts event).1.nextRequest = g.nextRequest := by
    cases event with
    | start =>
      simp only [StreamService.outside]
      split <;> rfl
    | _ => rfl
  obtain ⟨hidle, hbegun, hcarried, hrecords⟩ := h
  refine ⟨?_, ?_, ?_, ?_⟩
  · cases hlifecycle with
    | inl hsame => rwa [hsame]
    | inr hinit =>
      rw [hinit]
      exact fun _ ↦ rfl
  · rwa [hnext]
  · intro t ht x hx
    cases List.mem_append.mp ht with
    | inl hold => exact hcarried t hold x hx
    | inr hspawned =>
      rw [(hnew t hspawned).1] at hx
      cases hx
  · intro hopen t ht
    cases List.mem_append.mp ht with
    | inl hold =>
      cases hlifecycle with
      | inl hsame =>
        rw [hsame] at hopen
        exact (hrecords hopen t hold).mono (congrArg StreamLifecycle.activeSocket hsame)
          fun x hx ↦ hx
      | inr hinit =>
        rw [hinit] at hopen
        exact absurd hopen (by decide)
    | inr hspawned => exact .of_admission_none (hnew t hspawned).2

/-- What holds in every state that a run reaches. -/
structure Consistent (s : WithSockets) : Prop where
  safe : ∃ t, Safe s.1.1 s.1.2 t
  recorded : Recorded s.1.1 s.1.2 s.2

theorem consistent_initial : Consistent (initial, []) := ⟨⟨[], safe_initial⟩, recorded_initial⟩

/-- Every turn keeps what holds. -/
theorem consistent_step (s : WithSockets) (turn : Turn Bool StreamEvent) (h : Consistent s) :
    Consistent (socketTasks.step s turn).1 := by
  obtain ⟨⟨g, ts⟩, sockets⟩ := s
  obtain ⟨⟨t, hsafe⟩, hrecorded⟩ := h
  refine ⟨⟨_, safe_step (g, ts) t turn hsafe⟩, ?_⟩
  change Recorded (tasks.machine.step (g, ts) turn).1.1 (tasks.machine.step (g, ts) turn).1.2
    (begins sockets (g, ts) turn (tasks.machine.step (g, ts) turn))
  cases turn with
  | outside event => exact hrecorded.outside event
  | run i ok =>
    cases hi : ts[i]? with
    | none => simpa only [Threads.machine, begins, hi] using hrecorded
    | some task =>
      obtain ⟨hlt, hget⟩ := List.getElem?_eq_some_iff.mp hi
      have hsplit : ts = ts.take i ++ task :: ts.drop (i + 1) := by
        rw [← hget, List.getElem_cons_drop, List.take_append_drop]
      have hstep := Recorded.advance (hsplit ▸ hrecorded) (hsplit ▸ hsafe.accounted) ok
      simp only [Threads.machine, begins, hi]
      exact hstep

/-! ### Which sockets are closed -/

/-- Only one task has an admission. -/
theorem Accounted.only {g : StreamService} {ts : List StreamTask} (h : Accounted g ts)
    {task other : StreamTask} {w w' : UInt64} (htask : task ∈ ts) (hother : other ∈ ts)
    (hw : task.admission = some w) (hw' : other.admission = some w') : other = task := by
  obtain ⟨l, r, rfl⟩ := List.append_of_mem htask
  obtain ⟨-, hl, hr⟩ := h.alone hw
  rw [List.filterMap_eq_nil_iff] at hl hr
  simp only [List.mem_append, List.mem_cons] at hother
  obtain hleft | rfl | hright := hother
  · rw [hl other hleft] at hw'
    cases hw'
  · rfl
  · rw [hr other hright] at hw'
    cases hw'

/-- Whether a descriptor that a turn closes is still the service's. -/
theorem closesOwned_iff {s : WithSockets} (h : Consistent s) (turn : Turn Bool StreamEvent) :
    ClosesOwned s turn ↔ ShutsBefore s turn := by
  obtain ⟨⟨g, ts⟩, sockets⟩ := s
  obtain ⟨⟨t, hsafe⟩, hidle, hbegun, -, hrecords⟩ := h
  have hacc := hsafe.accounted
  constructor
  · intro howned i ok task hturn htask hshuts hserver hopen other hother
    by_contra hreleased
    rw [Bool.not_eq_false] at hreleased
    obtain ⟨⟨w, hadmission⟩, hnone⟩ := admission_of_released hreleased
    have hactive : g.lifecycle.active = true := by
      by_contra hinactive
      rw [hidle (Bool.eq_false_iff.mpr hinactive)] at hopen
      exact absurd hopen (by decide)
    have hcloses := (closes_eq_some_iff g task _).mpr ⟨hshuts, hserver, hactive, rfl, hopen⟩
    obtain ⟨request, hmem, hpending⟩ := howned i ok task _ hturn htask hcloses
    -- a request that is not completed is owed by the one task with an admission
    have hrequest : request ∈ g.completed ++ ts.filterMap owes :=
      hacc.requests_perm.mem_iff.mpr (List.mem_range.mpr (hbegun _ hmem))
    have howed := (List.mem_append.mp hrequest).resolve_left hpending
    obtain ⟨owner, howner, howes⟩ := List.mem_filterMap.mp howed
    obtain ⟨w', hadmission'⟩ := admission_of_owes howes
    rw [hacc.only hother howner hadmission hadmission', hnone] at howes
    cases howes
  · intro hbefore i ok task socket hturn htask hcloses
    obtain ⟨hshuts, hserver, hactive, hsocket, hopen⟩ := (closes_eq_some_iff g task socket).mp hcloses
    rw [← hsocket] at hopen
    have hworkers : g.lifecycle.activeWorkerGeneration ∈ ts.filterMap admission := by
      rw [hacc.admission_eq, StreamLifecycle.workers, if_pos hactive]
      exact List.mem_singleton_self _
    obtain ⟨owner, howner, hadmission⟩ := List.mem_filterMap.mp hworkers
    have hnot := hbefore i ok task hturn htask hshuts hserver hopen owner howner
    cases hrecords hopen owner howner _ hadmission with
    | inl hreleased =>
      rw [hnot] at hreleased
      cases hreleased
    | inr hrecorded =>
      obtain ⟨request, howes, hmem⟩ := hrecorded
      rw [hsocket] at hmem
      refine ⟨request, hmem, fun hcompleted ↦ ?_⟩
      have hnodup := hacc.requests_perm.nodup_iff.mpr List.nodup_range
      exact (List.nodup_append.mp hnodup).2.2 request hcompleted request
        (List.mem_filterMap.mpr ⟨owner, howner, howes⟩) rfl

/-- Over every interleaving, all descriptors that are closed belong to requests that have not
been completed exactly when no shutdown comes between the completion of a stream's request and
its completion in the lifecycle, with a socket recorded. -/
theorem sockets_closed_owned_iff (turns : List (Turn Bool StreamEvent)) :
    socketTasks.Along ClosesOwned (initial, []) turns ↔
      socketTasks.Along ShutsBefore (initial, []) turns := by
  have hstep (P : WithSockets → Turn Bool StreamEvent → Prop) (s : WithSockets)
      (turn : Turn Bool StreamEvent) (h : Consistent s) (_ : P s turn) :
      Consistent (socketTasks.step s turn).1 := consistent_step s turn h
  constructor
  · exact socketTasks.along_of_invariant (hstep _)
      (fun s turn h ↦ (closesOwned_iff h turn).mp) consistent_initial
  · exact socketTasks.along_of_invariant (hstep _)
      (fun s turn h ↦ (closesOwned_iff h turn).mpr) consistent_initial

/-- A stream on descriptor 54 ends with a failed batch, and a login comes before its worker
clears the descriptor. -/
def lateLogin : List (Turn Bool StreamEvent) :=
  [.outside .start, .outside (.login 600), .run 0 true, .run 0 true,
    .outside (.streamRequest [49] 54)] ++ List.replicate 10 (.run 0 true) ++
  [.run 0 false, .run 0 true, .outside (.login 600), .run 1 true]

/-- The login then closes a descriptor whose request has been completed. -/
theorem sockets_closed_owned_fails :
    ¬ socketTasks.Along ClosesOwned (initial, []) (lateLogin ++ [.run 1 true]) := by
  intro h
  have hlast := socketTasks.along_last h
  have hsockets : (socketTasks.run (initial, []) lateLogin).2 = [(0, 54)] := by decide +kernel
  have hcompleted : (socketTasks.run (initial, []) lateLogin).1.1.completed = [0] := by
    decide +kernel
  obtain ⟨request, hmem, hpending⟩ := hlast 1 true .sessionChanged 54 rfl (by decide +kernel)
    (by decide +kernel)
  rw [hsockets, List.mem_singleton] at hmem
  cases hmem
  rw [hcompleted] at hpending
  exact hpending (List.mem_singleton_self _)

end StreamService
end EdgeMonitor.Firmware
