import EdgeMonitor.Firmware.StreamService

/-!
# Stopping the provisioning service

Library `Firmware`. Over every interleaving of the tasks of `StreamService`: each admission
and each async request has exactly one owner until it is completed, and a stop call that
succeeds, or resets the lifecycle, leaves no admission behind.
-/

namespace EdgeMonitor.Firmware
open EdgeMonitor.Base

namespace StreamLifecycle

/-- The same worker is active, and no request to end is forgotten. -/
structure SameWorker (s s' : StreamLifecycle) : Prop where
  active_eq : s'.active = s.active
  generation_eq : s'.activeWorkerGeneration = s.activeWorkerGeneration
  stopping_of : s.serviceStopping = true → s'.serviceStopping = true
  shutdown_of : s.shutdownRequested = true → s'.shutdownRequested = true

theorem SameWorker.refl (s : StreamLifecycle) : SameWorker s s := ⟨rfl, rfl, id, id⟩

theorem sameWorker_attachSocket (s : StreamLifecycle) (w : UInt64) (fd : Int32) :
    SameWorker s (s.attachSocket w fd).2 := by
  rw [attachSocket]
  split
  · exact .refl s
  · exact ⟨rfl, rfl, id, id⟩

theorem sameWorker_requestShutdown (s : StreamLifecycle) (stopping : Bool) :
    SameWorker s (s.requestShutdown stopping).2 := by
  rw [requestShutdown_snd]
  exact ⟨rfl, rfl, fun h ↦ by simp only [h, Bool.or_true], fun h ↦ by simp only [h, Bool.or_true]⟩

/-- The worker that is active, if any. -/
def workers (s : StreamLifecycle) : List UInt64 :=
  if s.active then [s.activeWorkerGeneration] else []

theorem SameWorker.workers_eq {s s' : StreamLifecycle} (h : SameWorker s s') :
    s'.workers = s.workers := by
  rw [workers, workers, h.active_eq, h.generation_eq]

/-- An admission makes its positive generation the active one. -/
theorem admitWorker_spec {s s' : StreamLifecycle} {w : UInt64}
    (h : s.admitWorker = some (w, s')) : s.active = false ∧ s.serviceStopping = false ∧
      s'.workers = [w] ∧ w ≠ 0 := by
  obtain ⟨hactive, hstopping⟩ := admit_eq_some_idle h
  simp only [admitWorker, hactive, hstopping, Bool.or_self, Bool.false_eq_true, if_false,
    Option.some.injEq, Prod.mk.injEq] at h
  obtain ⟨rfl, rfl⟩ := h
  refine ⟨hactive, hstopping, rfl, ?_⟩
  split
  · decide
  · assumption

/-- The completion of the active worker leaves none. -/
theorem workers_complete {s : StreamLifecycle} {w : UInt64} (h : s.workers = [w]) :
    (s.complete w).1 = true ∧ (s.complete w).2.workers = [] ∧
      ((s.complete w).2.serviceStopping = s.serviceStopping) := by
  rw [workers] at h
  split at h
  next hactive =>
    obtain rfl := List.singleton_inj.mp h
    simp [complete, hactive, workers]
  next => cases h

/-- A completion makes no worker active. -/
theorem complete_shrinks (s : StreamLifecycle) (w : UInt64) :
    (s.complete w).2.serviceStopping = s.serviceStopping ∧
      ((s.complete w).2.active = true → s.active = true ∧
        (s.complete w).2.activeWorkerGeneration = s.activeWorkerGeneration) := by
  rw [complete]
  split <;> simp

end StreamLifecycle

namespace StreamService
open StreamTask

/-! ### What a step does to admissions and async requests -/

theorem admitStream_spec {g g' : StreamService} {generation : List UInt8} {authorized w : UInt64}
    (h : g.admitStream generation authorized = some (w, g')) :
    streamRequestAuthorized generation authorized g.sessionExpiresMs g.nowMs = true ∧
      g.sessionGeneration = authorized ∧ ∃ lifecycle,
        g.lifecycle.admitWorker = some (w, lifecycle) ∧ g' = { g with lifecycle } := by
  rw [admitStream] at h
  split at h
  next hauthorized =>
    rw [Bool.and_eq_true, beq_iff_eq] at hauthorized
    split at h
    next w' lifecycle hadmission =>
      cases h
      exact ⟨hauthorized.1, hauthorized.2, lifecycle, hadmission, rfl⟩
    next => cases h
  next => cases h

/-- Completing the request of a context leaves the rest of the service alone. -/
theorem completeStreamContext_frame (g : StreamService) (context : StreamContext) :
    (g.completeStreamContext context).2.1.lifecycle = g.lifecycle ∧
    (g.completeStreamContext context).2.1.httpd = g.httpd ∧
    (g.completeStreamContext context).2.1.server = g.server ∧
    (g.completeStreamContext context).2.1.stopInProgress = g.stopInProgress ∧
    (g.completeStreamContext context).2.2.bind StreamOutput.admission = none ∧
    (g.completeStreamContext context).2.2.bind StreamOutput.completion = none := by
  rw [completeStreamContext]
  simp only
  split <;> exact ⟨rfl, rfl, rfl, rfl, rfl, rfl⟩

/-- A step passes its admission on, takes a new one, completes it, or resets the lifecycle
after a stop. -/
theorem admission_step (g : StreamService) (others : List StreamTask) (task : StreamTask)
    (ok : Bool) :
    let r := g.advance others task ok
    (r.2.1.filterMap admission = task.admission.toList ∧
      g.lifecycle.SameWorker r.1.lifecycle ∧ r.2.2.bind StreamOutput.admission = none ∧
      r.2.2.bind StreamOutput.completion = none) ∨
    (∃ w, task.admission = none ∧ g.lifecycle.admitWorker = some (w, r.1.lifecycle) ∧
      r.2.1.filterMap admission = [w] ∧ task.isHandler = true ∧
      r.2.2.bind StreamOutput.admission = some w ∧ r.2.2.bind StreamOutput.completion = none) ∨
    (∃ w, task.admission = some w ∧ r.2.1 = [] ∧ r.1.lifecycle = (g.lifecycle.complete w).2 ∧
      r.2.2 = some (.workerCompleted w (g.lifecycle.complete w).1)) ∨
    (task = .stop .closed ∧ r.1.lifecycle = .init ∧ r.2.1.filterMap admission = [] ∧
      r.2.2 = some .reinitialised) := by
  intro r
  cases task with
  | login seconds => exact .inl ⟨rfl, .refl _, rfl, rfl⟩
  | logout => exact .inl ⟨rfl, .refl _, rfl, rfl⟩
  | sessionChanged => exact .inl ⟨rfl, StreamLifecycle.sameWorker_requestShutdown _ _, rfl, rfl⟩
  | streamRequested generation socket =>
    refine .inl ?_
    simp only [r, advance]
    split <;> exact ⟨rfl, .refl _, rfl, rfl⟩
  | streamServing generation socket =>
    refine .inl ?_
    simp only [r, advance]
    split <;> exact ⟨rfl, .refl _, rfl, rfl⟩
  | streamAuthenticated generation authorized socket =>
    simp only [r, advance]
    split
    next w g' hadmission =>
      obtain ⟨-, -, lifecycle, hworker, rfl⟩ := admitStream_spec hadmission
      exact .inr (.inl ⟨w, rfl, hworker, rfl, rfl, rfl, rfl⟩)
    next => exact .inl ⟨rfl, .refl _, rfl, rfl⟩
  | streamAdmitted authorized w socket => cases ok <;> exact .inl ⟨rfl, .refl _, rfl, rfl⟩
  | streamBegun request authorized w socket => cases ok <;> exact .inl ⟨rfl, .refl _, rfl, rfl⟩
  | streamContext context socket =>
    refine .inl ⟨?_, StreamLifecycle.sameWorker_attachSocket _ _ _, rfl, rfl⟩
    simp only [r, advance]
    split <;> rfl
  | streamAttached context => cases ok <;> exact .inl ⟨rfl, .refl _, rfl, rfl⟩
  | streamFailed context =>
    obtain ⟨hlifecycle, -, -, -, hout⟩ := completeStreamContext_frame g context
    refine .inl ⟨rfl, ?_, hout⟩
    rw [show r.1.lifecycle = g.lifecycle from hlifecycle]
    exact .refl _
  | streamReleasing w => exact .inr (.inr (.inl ⟨w, rfl, rfl, rfl, rfl⟩))
  | worker context iteration step =>
    cases step with
    | check =>
      refine .inl ?_
      simp only [r, advance, advanceWorker]
      split <;> exact ⟨rfl, .refl _, rfl, rfl⟩
    | sessionRead current expires => exact .inl ⟨rfl, .refl _, rfl, rfl⟩
    | lifecycleRead workerCurrent current expires =>
      refine .inl ?_
      simp only [r, advance, advanceWorker]
      split <;> exact ⟨rfl, .refl _, rfl, rfl⟩
    | batch => cases ok <;> exact .inl ⟨rfl, .refl _, rfl, rfl⟩
    | finishing =>
      obtain ⟨hlifecycle, -, -, -, hout⟩ := completeStreamContext_frame g context
      refine .inl ⟨rfl, ?_, hout⟩
      rw [show r.1.lifecycle = g.lifecycle from hlifecycle]
      exact .refl _
    | completing => exact .inr (.inr (.inl ⟨context.workerGeneration, rfl, rfl, rfl, rfl⟩))
  | stop step =>
    cases step with
    | closed => exact .inr (.inr (.inr ⟨rfl, rfl, rfl, rfl⟩))
    | requesting => exact .inl ⟨rfl, StreamLifecycle.sameWorker_requestShutdown _ _, rfl, rfl⟩
    | requested w => exact .inl ⟨rfl, .refl _, rfl, rfl⟩
    | satisfied => exact .inl ⟨rfl, .refl _, rfl, rfl⟩
    | reinitialised => exact .inl ⟨rfl, .refl _, rfl, rfl⟩
    | releasing result => exact .inl ⟨rfl, .refl _, rfl, rfl⟩
    | _ =>
      refine .inl ?_
      simp only [r, advance, advanceStop]
      repeat' split
      all_goals exact ⟨rfl, .refl _, rfl, rfl⟩

/-- The first completion of a context completes its request. -/
theorem completeStreamContext_eq (g : StreamService) {context : StreamContext}
    (h : context.lifecycle.completed = false) : g.completeStreamContext context =
      ({ context with lifecycle := { completed := true } },
        { g with completed := g.completed ++ [context.request] },
        some (.asyncCompleted context.request)) := by
  simp [completeStreamContext, AsyncLifecycle.markComplete, h]

/-- A step passes its request on, begins one, or completes it. -/
theorem request_step (g : StreamService) (others : List StreamTask) (task : StreamTask)
    (ok : Bool) (h : task.Unmarked) :
    let r := g.advance others task ok
    (∀ t ∈ r.2.1, t.Unmarked) ∧
    ((r.2.1.filterMap owes = task.owes.toList ∧ r.1.nextRequest = g.nextRequest ∧
        r.1.completed = g.completed) ∨
      (task.owes = none ∧ r.2.1.filterMap owes = [g.nextRequest] ∧
        r.1.nextRequest = g.nextRequest + 1 ∧ r.1.completed = g.completed) ∨
      (∃ request, task.owes = some request ∧ r.2.1.filterMap owes = [] ∧
        r.1.nextRequest = g.nextRequest ∧ r.1.completed = g.completed ++ [request])) := by
  intro r
  cases task with
  | login seconds => exact ⟨by simp [r, advance, Unmarked], .inl ⟨rfl, rfl, rfl⟩⟩
  | logout => exact ⟨by simp [r, advance, Unmarked], .inl ⟨rfl, rfl, rfl⟩⟩
  | sessionChanged => exact ⟨by simp [r, advance], .inl ⟨rfl, rfl, rfl⟩⟩
  | streamRequested generation socket =>
    simp only [r, advance]
    split <;> exact ⟨by simp [Unmarked], .inl ⟨rfl, rfl, rfl⟩⟩
  | streamServing generation socket =>
    simp only [r, advance]
    split <;> exact ⟨by simp [Unmarked], .inl ⟨rfl, rfl, rfl⟩⟩
  | streamAuthenticated generation authorized socket =>
    simp only [r, advance]
    split
    next w g' hadmission =>
      obtain ⟨-, -, lifecycle, -, rfl⟩ := admitStream_spec hadmission
      exact ⟨by simp [Unmarked], .inl ⟨rfl, rfl, rfl⟩⟩
    next => exact ⟨by simp, .inl ⟨rfl, rfl, rfl⟩⟩
  | streamAdmitted authorized w socket =>
    cases ok with
    | false => exact ⟨by simp [r, advance, Unmarked], .inl ⟨rfl, rfl, rfl⟩⟩
    | true => exact ⟨by simp [r, advance, Unmarked], .inr (.inl ⟨rfl, rfl, rfl, rfl⟩)⟩
  | streamBegun request authorized w socket =>
    cases ok <;> exact ⟨by simp [r, advance, Unmarked], .inl ⟨rfl, rfl, rfl⟩⟩
  | streamContext context socket =>
    refine ⟨?_, .inl ⟨?_, rfl, rfl⟩⟩
    · simp only [r, advance, List.mem_singleton, forall_eq]
      split <;> exact h
    · simp only [r, advance]
      split <;> rfl
  | streamAttached context =>
    cases ok <;> exact ⟨by simpa [r, advance, Unmarked] using h, .inl ⟨rfl, rfl, rfl⟩⟩
  | streamFailed context =>
    simp only [r, advance, completeStreamContext_eq g h]
    exact ⟨by simp [Unmarked], .inr (.inr ⟨context.request, rfl, rfl, by trivial, rfl⟩)⟩
  | streamReleasing w => exact ⟨by simp [r, advance], .inl ⟨rfl, rfl, rfl⟩⟩
  | worker context iteration step =>
    cases step with
    | check =>
      simp only [r, advance, advanceWorker]
      split <;> exact ⟨by simpa [Unmarked] using h, .inl ⟨rfl, rfl, rfl⟩⟩
    | sessionRead current expires =>
      exact ⟨by simpa [r, advance, advanceWorker, Unmarked] using h, .inl ⟨rfl, rfl, rfl⟩⟩
    | lifecycleRead workerCurrent current expires =>
      simp only [r, advance, advanceWorker]
      split <;> exact ⟨by simpa [Unmarked] using h, .inl ⟨rfl, rfl, rfl⟩⟩
    | batch =>
      cases ok <;>
        exact ⟨by simpa [r, advance, advanceWorker, Unmarked] using h, .inl ⟨rfl, rfl, rfl⟩⟩
    | finishing =>
      simp only [r, advance, advanceWorker, completeStreamContext_eq g h]
      exact ⟨by simp [Unmarked], .inr (.inr ⟨context.request, rfl, rfl, by trivial, rfl⟩)⟩
    | completing => exact ⟨by simp [r, advance, advanceWorker], .inl ⟨rfl, rfl, rfl⟩⟩
  | stop step =>
    cases step <;> simp only [r, advance, advanceStop] <;> repeat' split
    all_goals exact ⟨by simp [Unmarked], .inl ⟨rfl, by trivial, by trivial⟩⟩

/-! ### One owner for each admission and each request -/

/-- Every admission and every async request has one owner until it is completed. -/
structure Accounted (g : StreamService) (ts : List StreamTask) : Prop where
  admission_eq : ts.filterMap admission = g.lifecycle.workers
  requests_perm : (g.completed ++ ts.filterMap owes).Perm (List.range g.nextRequest)
  unmarked : ∀ t ∈ ts, t.Unmarked

theorem accounted_initial : Accounted {} [] where
  admission_eq := rfl
  requests_perm := .refl _
  unmarked := by simp

/-- The owner of an admission is the only one, and its worker is the active one. -/
theorem Accounted.alone {g : StreamService} {l r : List StreamTask} {task : StreamTask}
    {w : UInt64} (h : Accounted g (l ++ task :: r)) (htask : task.admission = some w) :
    g.lifecycle.workers = [w] ∧ l.filterMap admission = [] ∧ r.filterMap admission = [] := by
  have hadmission := h.admission_eq
  rw [StreamLifecycle.workers] at hadmission ⊢
  split at hadmission
  next hactive =>
    obtain ⟨rfl, hl, hr⟩ := alone_of_filterMap admission htask hadmission
    exact ⟨if_pos hactive, hl, hr⟩
  next =>
    rw [filterMap_at, htask] at hadmission
    simp at hadmission

/-- The step of a task keeps the accounts, if a stop resets the lifecycle only once no
worker is active. -/
theorem Accounted.advance {g : StreamService} {l r : List StreamTask} {task : StreamTask}
    (h : Accounted g (l ++ task :: r)) (ok : Bool)
    (hclosed : task = .stop .closed → g.lifecycle.workers = []) :
    Accounted (g.advance (l ++ r) task ok).1
      (l ++ (g.advance (l ++ r) task ok).2.1 ++ r) := by
  obtain ⟨hadmission, hperm, hunmarked⟩ := h
  have htask : task.Unmarked := hunmarked task (by simp)
  obtain ⟨hnew, hrequest⟩ := request_step g (l ++ r) task ok htask
  constructor
  · rw [filterMap_replaced]
    rcases admission_step g (l ++ r) task ok with ⟨hsame, hworker, -⟩ |
      ⟨w, hnone, hadmitted, hnewWorker, -⟩ | ⟨w, hsome, hend, hcomplete, -⟩ |
      ⟨htask, hinit, hend, -⟩
    · rw [hsame, hworker.workers_eq, ← hadmission, filterMap_at]
    · obtain ⟨hactive, -, hworkers, -⟩ := StreamLifecycle.admitWorker_spec hadmitted
      rw [filterMap_at, hnone, StreamLifecycle.workers, hactive] at hadmission
      obtain ⟨hl, hr⟩ : l.filterMap admission = [] ∧ r.filterMap admission = [] := by
        simpa using hadmission
      rw [hnewWorker, hworkers, hl, hr]
      rfl
    · obtain ⟨hworkers, hl, hr⟩ := Accounted.alone ⟨hadmission, hperm, hunmarked⟩ hsome
      rw [hend, hcomplete, (StreamLifecycle.workers_complete hworkers).2.1, hl, hr]
      rfl
    · rw [filterMap_at, hclosed htask, htask] at hadmission
      obtain ⟨hl, hr⟩ : l.filterMap admission = [] ∧ r.filterMap admission = [] := by
        simpa [StreamTask.admission] using hadmission
      rw [hinit, hend, hl, hr]
      rfl
  · rw [filterMap_replaced]
    rw [filterMap_at, List.perm_iff_count] at hperm
    rw [List.perm_iff_count]
    intro request
    have hcount := hperm request
    rcases hrequest with ⟨hsame, hnext, hcompleted⟩ | ⟨hnone, hbegun, hnext, hcompleted⟩ |
      ⟨done, hsome, hend, hnext, hcompleted⟩
    · rw [hsame, hnext, hcompleted]
      exact hcount
    · rw [hbegun, hnext, hcompleted, List.range_succ]
      rw [hnone] at hcount
      simp only [List.count_append, Option.toList_none, List.count_nil] at hcount ⊢
      omega
    · rw [hend, hnext, hcompleted]
      rw [hsome] at hcount
      simp only [List.count_append, Option.toList_some, List.count_nil] at hcount ⊢
      omega
  · intro t ht
    rw [List.mem_append, List.mem_append] at ht
    rcases ht with (ht | ht) | ht
    · exact hunmarked t (List.mem_append_left _ ht)
    · exact hnew t ht
    · exact hunmarked t (List.mem_append_right _ (List.mem_cons_of_mem _ ht))

/-! ### The stop protocol -/

/-- A step of a task that is not a stop call. -/
structure Frame (g g' : StreamService) (task : StreamTask) (new : List StreamTask) : Prop where
  httpd_eq : g'.httpd = g.httpd
  server_eq : g'.server = g.server
  stopInProgress_eq : g'.stopInProgress = g.stopInProgress
  no_stop : ∀ t ∈ new, ∀ step, t ≠ .stop step
  no_handler : task.isHandler = false → ∀ t ∈ new, t.isHandler = false

theorem frame_step (g : StreamService) (others : List StreamTask) {task : StreamTask} (ok : Bool)
    (h : ∀ step, task ≠ .stop step) :
    Frame g (g.advance others task ok).1 task (g.advance others task ok).2.1 := by
  cases task with
  | stop step => exact absurd rfl (h step)
  | streamAuthenticated generation authorized socket =>
    simp only [StreamService.advance]
    split
    next w g' hadmission =>
      obtain ⟨-, -, lifecycle, -, rfl⟩ := admitStream_spec hadmission
      exact ⟨rfl, rfl, rfl, by simp, by simp [isHandler]⟩
    next => exact ⟨rfl, rfl, rfl, by simp, by simp⟩
  | streamFailed context =>
    obtain ⟨-, hhttpd, hserver, hstop, -⟩ := completeStreamContext_frame g context
    exact ⟨hhttpd, hserver, hstop, by simp [StreamService.advance], by simp [isHandler]⟩
  | worker context iteration step =>
    cases step with
    | finishing =>
      obtain ⟨-, hhttpd, hserver, hstop, -⟩ := completeStreamContext_frame g context
      exact ⟨hhttpd, hserver, hstop, by simp [StreamService.advance, advanceWorker],
        by simp [StreamService.advance, advanceWorker, isHandler]⟩
    | _ =>
      simp only [StreamService.advance, advanceWorker]
      repeat' split
      all_goals exact ⟨rfl, rfl, rfl, by simp, by simp [isHandler]⟩
  | _ =>
    simp only [StreamService.advance]
    repeat' split
    all_goals exact ⟨rfl, rfl, rfl, by simp, by simp [isHandler]⟩

/-- What a stop call may rely on at each of its steps. -/
def StopFact (g : StreamService) : StopStep → Prop
  | .requested w => g.lifecycle.serviceStopping = true ∧
    (g.lifecycle.active = true → g.lifecycle.activeWorkerGeneration = w ∧ w ≠ 0)
  | .waiting w _ => g.lifecycle.serviceStopping = true ∧
    (g.lifecycle.active = true → g.lifecycle.activeWorkerGeneration = w ∧ w ≠ 0)
  | .late w _ => g.lifecycle.serviceStopping = true ∧
    (g.lifecycle.active = true → g.lifecycle.activeWorkerGeneration = w ∧ w ≠ 0)
  | .satisfied => g.lifecycle.serviceStopping = true ∧ g.lifecycle.active = false
  | .cleared => g.lifecycle.serviceStopping = true ∧ g.lifecycle.active = false
  | .closed => g.httpd = false
  | .reinitialised => g.httpd = false
  | .releasing .ok => g.httpd = false
  | _ => True

/-- One stop call is in progress at most, and it finds what it relies on. Without the
server task there is neither a handler nor an active worker. -/
structure StopProtocol (g : StreamService) (ts : List StreamTask) : Prop where
  one_stop : ts.countP isStopping = if g.stopInProgress then 1 else 0
  server_of : g.httpd = true → g.server = true
  quiet : g.httpd = false → g.lifecycle.active = false ∧ ∀ t ∈ ts, t.isHandler = false
  fact : ∀ step, .stop step ∈ ts → g.StopFact step
  positive : g.lifecycle.active = true → g.lifecycle.activeWorkerGeneration ≠ 0

/-- What a stop call relies on stays true when no worker appears during a service stop. -/
theorem StopFact.mono {g g' : StreamService} {step : StopStep} (h : g.StopFact step)
    (hhttpd : g.httpd = false → g'.httpd = false)
    (hlifecycle : g.lifecycle.serviceStopping = true → g'.lifecycle.serviceStopping = true ∧
      (g'.lifecycle.active = true → g.lifecycle.active = true ∧
        g'.lifecycle.activeWorkerGeneration = g.lifecycle.activeWorkerGeneration)) :
    g'.StopFact step := by
  have hwaiting : ∀ w : UInt64, (g.lifecycle.serviceStopping = true ∧
      (g.lifecycle.active = true → g.lifecycle.activeWorkerGeneration = w ∧ w ≠ 0)) →
      g'.lifecycle.serviceStopping = true ∧
        (g'.lifecycle.active = true → g'.lifecycle.activeWorkerGeneration = w ∧ w ≠ 0) := by
    rintro w ⟨hstopping, hworker⟩
    refine ⟨(hlifecycle hstopping).1, fun hactive ↦ ?_⟩
    obtain ⟨hactive, hgeneration⟩ := (hlifecycle hstopping).2 hactive
    rw [hgeneration]
    exact hworker hactive
  have hidle : g.lifecycle.serviceStopping = true ∧ g.lifecycle.active = false →
      g'.lifecycle.serviceStopping = true ∧ g'.lifecycle.active = false := by
    rintro ⟨hstopping, hactive⟩
    refine ⟨(hlifecycle hstopping).1, Bool.eq_false_iff.mpr fun hactive' ↦ ?_⟩
    rw [((hlifecycle hstopping).2 hactive').1] at hactive
    cases hactive
  cases step with
  | requested w => exact hwaiting w h
  | waiting w deadline => exact hwaiting w h
  | late w deadline => exact hwaiting w h
  | satisfied => exact hidle h
  | cleared => exact hidle h
  | closed => exact hhttpd h
  | reinitialised => exact hhttpd h
  | releasing result =>
    cases result with
    | ok => exact hhttpd h
    | _ => trivial
  | _ => trivial

/-- What the step of a task that is not a stop call does to the lifecycle: a handler admits
a worker before any stop, or no worker appears. -/
theorem lifecycle_step (g : StreamService) (others : List StreamTask) {task : StreamTask}
    (ok : Bool) (htask : ∀ step, task ≠ .stop step) :
    let g' := (g.advance others task ok).1
    (task.isHandler = true ∧ g.lifecycle.serviceStopping = false ∧
      g'.lifecycle.activeWorkerGeneration ≠ 0) ∨
    ((g.lifecycle.serviceStopping = true → g'.lifecycle.serviceStopping = true) ∧
      (g'.lifecycle.active = true → g.lifecycle.active = true ∧
        g'.lifecycle.activeWorkerGeneration = g.lifecycle.activeWorkerGeneration)) := by
  intro g'
  rcases admission_step g others task ok with ⟨-, hworker, -⟩ |
    ⟨w, -, hadmitted, -, hhandler, -⟩ | ⟨w, -, -, hcomplete, -⟩ | ⟨hstop, -⟩
  · exact .inr ⟨hworker.stopping_of, fun hactive ↦
      ⟨hworker.active_eq ▸ hactive, hworker.generation_eq⟩⟩
  · obtain ⟨-, hstopping, hworkers, hpositive⟩ := StreamLifecycle.admitWorker_spec hadmitted
    refine .inl ⟨hhandler, hstopping, ?_⟩
    rw [StreamLifecycle.workers] at hworkers
    split at hworkers
    · rw [show g'.lifecycle.activeWorkerGeneration = w from List.singleton_inj.mp hworkers]
      exact hpositive
    · cases hworkers
  · obtain ⟨hstopping, hactive⟩ := StreamLifecycle.complete_shrinks g.lifecycle w
    rw [← hcomplete] at hstopping hactive
    exact .inr ⟨fun h ↦ hstopping ▸ h, hactive⟩
  · exact absurd hstop (htask _)

/-- The step of a task that is not a stop call keeps the stop protocol. -/
theorem StopProtocol.advance_other {g : StreamService} {l r : List StreamTask}
    {task : StreamTask} (h : StopProtocol g (l ++ task :: r)) (ok : Bool)
    (htask : ∀ step, task ≠ .stop step) :
    StopProtocol (g.advance (l ++ r) task ok).1
      (l ++ (g.advance (l ++ r) task ok).2.1 ++ r) := by
  obtain ⟨hone, hserver, hquiet, hfact, hpositive⟩ := h
  obtain ⟨hhttpd, hserver', hstop', hnostop, hnohandler⟩ := frame_step g (l ++ r) ok htask
  have hlifecycle := lifecycle_step g (l ++ r) ok htask
  generalize g.advance (l ++ r) task ok = result at *
  obtain ⟨g', new, output⟩ := result
  have hnotstop : ∀ t : StreamTask, (∀ step, t ≠ .stop step) → t.isStopping = false := by
    intro t ht
    cases t with
    | stop step => exact absurd rfl (ht step)
    | _ => rfl
  constructor
  · have hnew : new.countP isStopping = 0 := by
      rw [List.countP_eq_zero]
      intro t ht
      rw [hnotstop t (hnostop t ht)]
      exact Bool.false_ne_true
    rw [List.countP_append, List.countP_append, hnew, hstop', ← hone, List.countP_append,
      List.countP_cons_of_neg (by rw [hnotstop task htask]; exact Bool.false_ne_true)]
    rfl
  · rw [hhttpd, hserver']
    exact hserver
  · intro hclosed
    rw [hhttpd] at hclosed
    obtain ⟨hactive, hhandlers⟩ := hquiet hclosed
    have hidle : task.isHandler = false := hhandlers task (by simp)
    refine ⟨?_, ?_⟩
    · rcases hlifecycle with ⟨hhandler, -⟩ | ⟨-, hshrinks⟩
      · rw [hidle] at hhandler
        cases hhandler
      · exact Bool.eq_false_iff.mpr fun hactive' ↦ by
          rw [(hshrinks hactive').1] at hactive
          cases hactive
    · intro t ht
      rw [List.mem_append, List.mem_append] at ht
      rcases ht with (ht | ht) | ht
      · exact hhandlers t (List.mem_append_left _ ht)
      · exact hnohandler hidle t ht
      · exact hhandlers t (List.mem_append_right _ (List.mem_cons_of_mem _ ht))
  · intro step ht
    have hold : g.StopFact step := by
      rw [List.mem_append, List.mem_append] at ht
      rcases ht with (ht | ht) | ht
      · exact hfact step (List.mem_append_left _ ht)
      · exact absurd rfl (hnostop _ ht step)
      · exact hfact step (List.mem_append_right _ (List.mem_cons_of_mem _ ht))
    refine hold.mono (fun hclosed ↦ hhttpd.trans hclosed) fun hstopping ↦ ?_
    rcases hlifecycle with ⟨-, hnot, -⟩ | ⟨hkept, hshrinks⟩
    · rw [hstopping] at hnot
      cases hnot
    · exact ⟨hkept hstopping, hshrinks⟩
  · intro hactive
    rcases hlifecycle with ⟨-, -, hne⟩ | ⟨-, hshrinks⟩
    · exact hne
    · obtain ⟨hactive, hgeneration⟩ := hshrinks hactive
      rw [hgeneration]
      exact hpositive hactive

/-- While a stop call is past its entry, the others have not entered. -/
theorem StopProtocol.others_entry {g : StreamService} {l r : List StreamTask} {step : StopStep}
    (h : StopProtocol g (l ++ .stop step :: r)) (hstep : step ≠ .entry) :
    g.stopInProgress = true ∧ l.countP isStopping = 0 ∧ r.countP isStopping = 0 := by
  have hone := h.one_stop
  have hstopping : (StreamTask.stop step).isStopping = true := by
    cases step with
    | entry => exact absurd rfl hstep
    | _ => rfl
  rw [List.countP_append, List.countP_cons_of_pos hstopping] at hone
  split at hone
  next hprogress => exact ⟨hprogress, by omega, by omega⟩
  next => omega

/-- A stop call goes on to its next step. -/
theorem StopProtocol.proceed {g g' : StreamService} {l r : List StreamTask} {step next : StopStep}
    (h : StopProtocol g (l ++ .stop step :: r)) (hstep : step ≠ .entry) (hnext : next ≠ .entry)
    (hprogress : g'.stopInProgress = g.stopInProgress)
    (hserver : g'.httpd = true → g'.server = true)
    (hquiet : g'.httpd = false → g'.lifecycle.active = false ∧ ∀ t ∈ l ++ r, t.isHandler = false)
    (hfact : g'.StopFact next)
    (hpositive : g'.lifecycle.active = true → g'.lifecycle.activeWorkerGeneration ≠ 0) :
    StopProtocol g' (l ++ [.stop next] ++ r) := by
  obtain ⟨hinprogress, hl, hr⟩ := h.others_entry hstep
  have hentry : ∀ {ts : List StreamTask} {s : StopStep}, ts.countP isStopping = 0 →
      .stop s ∈ ts → s = .entry := by
    intro ts s hts hmem
    have hnot := List.countP_eq_zero.mp hts _ hmem
    cases s with
    | entry => rfl
    | _ => exact absurd rfl hnot
  constructor
  · rw [hprogress, hinprogress, List.countP_append, List.countP_append, hl, hr,
      List.countP_singleton, if_pos]
    · rfl
    · cases next with
      | entry => exact absurd rfl hnext
      | _ => rfl
  · exact hserver
  · intro hclosed
    refine ⟨(hquiet hclosed).1, fun t ht ↦ ?_⟩
    rw [List.mem_append, List.mem_append, List.mem_singleton] at ht
    rcases ht with (ht | rfl) | ht
    · exact (hquiet hclosed).2 t (List.mem_append_left _ ht)
    · rfl
    · exact (hquiet hclosed).2 t (List.mem_append_right _ ht)
  · intro s ht
    rw [List.mem_append, List.mem_append, List.mem_singleton] at ht
    rcases ht with (ht | ht) | ht
    · rw [hentry hl ht]
      trivial
    · rw [StreamTask.stop.inj ht]
      exact hfact
    · rw [hentry hr ht]
      trivial
  · exact hpositive

/-- Without the server task no other task is a handler. -/
theorem StopProtocol.quiet_others {g : StreamService} {l r : List StreamTask} {task : StreamTask}
    (h : StopProtocol g (l ++ task :: r)) (hclosed : g.httpd = false) :
    g.lifecycle.active = false ∧ ∀ t ∈ l ++ r, t.isHandler = false := by
  obtain ⟨hactive, hhandlers⟩ := h.quiet hclosed
  refine ⟨hactive, fun t ht ↦ hhandlers t ?_⟩
  rw [List.mem_append] at ht
  rw [List.mem_append, List.mem_cons]
  exact ht.imp id .inr

/-- A task that returns leaves the others what they rely on. -/
theorem StopProtocol.removed {g g' : StreamService} {l r : List StreamTask} {task : StreamTask}
    (h : StopProtocol g (l ++ task :: r)) (hlifecycle : g'.lifecycle = g.lifecycle)
    (hhttpd : g'.httpd = g.httpd) (hserver : g'.server = g.server)
    (hone : (l ++ [] ++ r).countP isStopping = if g'.stopInProgress then 1 else 0) :
    StopProtocol g' (l ++ [] ++ r) := by
  rw [List.append_nil] at hone ⊢
  refine ⟨hone, ?_, ?_, ?_, ?_⟩
  · rw [hhttpd, hserver]
    exact h.server_of
  · rw [hhttpd, hlifecycle]
    exact h.quiet_others
  · intro step ht
    have hold : g.StopFact step := by
      refine h.fact step ?_
      rw [List.mem_append] at ht
      rw [List.mem_append, List.mem_cons]
      exact ht.imp id .inr
    refine hold.mono (fun hclosed ↦ hhttpd.trans hclosed) fun hstopping ↦ ?_
    rw [hlifecycle]
    exact ⟨hstopping, fun hactive ↦ ⟨hactive, rfl⟩⟩
  · rw [hlifecycle]
    exact h.positive

/-- A stop call that leaves the server alone goes on to its next step. -/
theorem StopProtocol.proceed_same {g g' : StreamService} {l r : List StreamTask}
    {step next : StopStep} (h : StopProtocol g (l ++ .stop step :: r)) (hstep : step ≠ .entry)
    (hnext : next ≠ .entry) (hprogress : g'.stopInProgress = g.stopInProgress)
    (hhttpd : g'.httpd = g.httpd) (hserver : g'.server = g.server)
    (hworker : g.lifecycle.SameWorker g'.lifecycle) (hfact : g'.StopFact next) :
    StopProtocol g' (l ++ [.stop next] ++ r) := by
  refine h.proceed hstep hnext hprogress ?_ ?_ hfact ?_
  · rw [hhttpd, hserver]
    exact h.server_of
  · intro hclosed
    rw [hhttpd] at hclosed
    obtain ⟨hactive, hhandlers⟩ := h.quiet_others hclosed
    exact ⟨hworker.active_eq.trans hactive, hhandlers⟩
  · rw [hworker.active_eq, hworker.generation_eq]
    exact h.positive

/-- The step of a stop call keeps the stop protocol. -/
theorem StopProtocol.advance_stop {g : StreamService} {l r : List StreamTask}
    {step : StopStep} (h : StopProtocol g (l ++ .stop step :: r)) (ok : Bool) :
    StopProtocol (g.advanceStop (l ++ r) ok step).1
      (l ++ (g.advanceStop (l ++ r) ok step).2.1 ++ r) := by
  have hfact : g.StopFact step := h.fact step (by simp)
  cases step with
  | entry =>
    simp only [advanceStop]
    split
    next =>
      refine h.removed rfl rfl rfl ?_
      rw [List.append_nil, List.countP_append, ← h.one_stop, List.countP_append,
        List.countP_cons_of_neg (by simp [isStopping])]
    next hfree =>
      have hidle : l.countP isStopping + r.countP isStopping = 0 := by
        have hone := h.one_stop
        rwa [if_neg hfree, List.countP_append,
          List.countP_cons_of_neg (by simp [isStopping])] at hone
      have hremoved : StopProtocol g (l ++ [] ++ r) := by
        refine h.removed rfl rfl rfl ?_
        rw [if_neg hfree, List.append_nil, List.countP_append]
        exact hidle
      rw [List.append_nil] at hremoved
      constructor
      · rw [List.countP_append, List.countP_append, List.countP_singleton, if_pos rfl,
          if_pos (show (StreamTask.stop .entered).isStopping = true from rfl)]
        omega
      · exact hremoved.server_of
      · intro hclosed
        refine ⟨(hremoved.quiet hclosed).1, fun t ht ↦ ?_⟩
        rw [List.append_assoc, List.mem_append, List.singleton_append, List.mem_cons] at ht
        rcases ht with ht | rfl | ht
        · exact (hremoved.quiet hclosed).2 t (List.mem_append_left _ ht)
        · rfl
        · exact (hremoved.quiet hclosed).2 t (List.mem_append_right _ ht)
      · intro s ht
        rw [List.append_assoc, List.mem_append, List.singleton_append, List.mem_cons] at ht
        rcases ht with ht | ht | ht
        · exact hremoved.fact s (List.mem_append_left _ ht)
        · rw [StreamTask.stop.inj ht]
          trivial
        · exact hremoved.fact s (List.mem_append_right _ ht)
      · exact hremoved.positive
  | entered =>
    simp only [advanceStop]
    split
    next => exact h.proceed_same (by simp) (by simp) rfl rfl rfl (.refl _) trivial
    next hserver =>
      refine h.proceed_same (by simp) (by simp) rfl rfl rfl (.refl _) ?_
      exact Bool.eq_false_iff.mpr fun hhttpd ↦ hserver (h.server_of hhttpd)
  | requesting =>
    simp only [advanceStop, StreamLifecycle.requestShutdown_snd,
      StreamLifecycle.requestShutdown_fst]
    refine h.proceed_same (by simp) (by simp) rfl rfl rfl
      ⟨rfl, rfl, fun _ ↦ rfl, fun h ↦ by simp only [h, Bool.or_true]⟩ ⟨rfl, ?_⟩
    intro hactive
    rw [if_pos hactive]
    exact ⟨rfl, h.positive hactive⟩
  | requested w => exact h.proceed_same (by simp) (by simp) rfl rfl rfl (.refl _) hfact
  | waiting w deadline =>
    simp only [advanceStop]
    split
    next hdone =>
      refine h.proceed_same (by simp) (by simp) rfl rfl rfl (.refl _) ⟨hfact.1, ?_⟩
      refine Bool.eq_false_iff.mpr fun (hactive : g.lifecycle.active = true) ↦ ?_
      obtain ⟨hgeneration, hpositive⟩ := hfact.2 hactive
      simp [StreamLifecycle.stopSatisfied, hactive, hgeneration, hpositive] at hdone
    next => exact h.proceed_same (by simp) (by simp) rfl rfl rfl (.refl _) hfact
  | late w deadline =>
    simp only [advanceStop]
    split
    next => exact h.proceed_same (by simp) (by simp) rfl rfl rfl (.refl _) trivial
    next => exact h.proceed_same (by simp) (by simp) rfl rfl rfl (.refl _) hfact
  | satisfied => exact h.proceed_same (by simp) (by simp) rfl rfl rfl (.refl _) hfact
  | cleared =>
    simp only [advanceStop]
    split
    next => exact h.proceed_same (by simp) (by simp) rfl rfl rfl (.refl _) trivial
    next =>
      split
      next => exact h.proceed_same (by simp) (by simp) rfl rfl rfl (.refl _) hfact
      next hidle =>
        refine h.proceed (by simp) (by simp) rfl (by simp) ?_ rfl h.positive
        refine fun _ ↦ ⟨hfact.2, fun t ht ↦ ?_⟩
        exact Bool.eq_false_iff.mpr fun hhandler ↦
          hidle (List.any_eq_true.mpr ⟨t, ht, hhandler⟩)
  | closed =>
    refine h.proceed (by simp) (by simp) rfl h.server_of ?_ hfact
      (by simp [advanceStop, StreamLifecycle.init])
    exact fun hclosed ↦ ⟨rfl, (h.quiet_others hclosed).2⟩
  | reinitialised =>
    refine h.proceed (by simp) (by simp) rfl ?_ h.quiet_others hfact h.positive
    intro (hrun : g.httpd = true)
    have hclosed : g.httpd = false := hfact
    rw [hclosed] at hrun
    cases hrun
  | releasing result =>
    obtain ⟨-, hl, hr⟩ := h.others_entry (by simp)
    refine h.removed rfl rfl rfl ?_
    rw [List.append_nil, List.countP_append, hl, hr]
    rfl

/-- The step of any task keeps the stop protocol. -/
theorem StopProtocol.advance {g : StreamService} {l r : List StreamTask} {task : StreamTask}
    (h : StopProtocol g (l ++ task :: r)) (ok : Bool) :
    StopProtocol (g.advance (l ++ r) task ok).1
      (l ++ (g.advance (l ++ r) task ok).2.1 ++ r) := by
  by_cases hstop : ∃ step, task = .stop step
  · obtain ⟨step, rfl⟩ := hstop
    exact h.advance_stop ok
  · exact h.advance_other ok fun step hstep ↦ hstop ⟨step, hstep⟩

/-! ### Runs -/

/-- The turns of a run with what could be observed of each. -/
abbrev Trace := List (Turn Bool StreamEvent × Option StreamOutput)

/-- The worker generations admitted in a run, in order. -/
def admissions (t : Trace) : List UInt64 := t.filterMap fun x ↦ x.2.bind StreamOutput.admission

/-- The worker generations completed in a run, in order. -/
def completions (t : Trace) : List UInt64 := t.filterMap fun x ↦ x.2.bind StreamOutput.completion

/-- What holds in every state that a run reaches. -/
structure Safe (g : StreamService) (ts : List StreamTask) (t : Trace) : Prop where
  accounted : Accounted g ts
  protocol : StopProtocol g ts
  admissions_perm : (completions t ++ ts.filterMap admission).Perm (admissions t)

theorem safe_initial : Safe {} [] [] where
  accounted := accounted_initial
  protocol := {
    one_stop := rfl
    server_of := by simp
    quiet := fun _ ↦ ⟨rfl, by simp⟩
    fact := by simp
    positive := by simp [StreamLifecycle.init] }
  admissions_perm := .refl _

/-- New tasks without admission or request keep the accounts. -/
theorem Accounted.spawn {g : StreamService} {ts new : List StreamTask} (h : Accounted g ts)
    (hadmission : new.filterMap admission = []) (howes : new.filterMap owes = [])
    (hunmarked : ∀ t ∈ new, t.Unmarked) : Accounted g (ts ++ new) where
  admission_eq := by rw [List.filterMap_append, hadmission, List.append_nil, h.admission_eq]
  requests_perm := by
    rw [List.filterMap_append, howes, List.append_nil]
    exact h.requests_perm
  unmarked := fun t ht ↦ (List.mem_append.mp ht).elim (h.unmarked t) (hunmarked t)

/-- New tasks that are handlers of a running server, or stop calls, keep the protocol. -/
theorem StopProtocol.spawn {g : StreamService} {ts new : List StreamTask} (h : StopProtocol g ts)
    (hstop : ∀ t ∈ new, t.isStopping = false) (hhandler : g.httpd = false →
      ∀ t ∈ new, t.isHandler = false) : StopProtocol g (ts ++ new) where
  one_stop := by
    have hnew : new.countP isStopping = 0 := by
      rw [List.countP_eq_zero]
      intro t ht
      rw [hstop t ht]
      exact Bool.false_ne_true
    rw [List.countP_append, hnew, Nat.add_zero, h.one_stop]
  server_of := h.server_of
  quiet := fun hclosed ↦ ⟨(h.quiet hclosed).1, fun t ht ↦
    (List.mem_append.mp ht).elim ((h.quiet hclosed).2 t) (hhandler hclosed t)⟩
  fact := by
    intro step ht
    rcases List.mem_append.mp ht with ht | ht
    · exact h.fact step ht
    · have hentry := hstop _ ht
      cases step with
      | entry => trivial
      | _ => cases hentry
  positive := h.positive

/-- A request to a running server keeps both. -/
theorem kept_request {g : StreamService} {ts : List StreamTask} (hacc : Accounted g ts)
    (hstop : StopProtocol g ts) {task : StreamTask} (hadmission : task.admission = none)
    (howes : task.owes = none) (hunmarked : task.Unmarked) (hnot : task.isStopping = false) :
    let new := if g.httpd then [task] else []
    Accounted g (ts ++ new) ∧ StopProtocol g (ts ++ new) ∧ new.filterMap admission = [] := by
  intro new
  cases hrun : g.httpd with
  | true =>
    have hnew : new = [task] := if_pos hrun
    rw [hnew]
    refine ⟨hacc.spawn ?_ ?_ ?_, hstop.spawn ?_ ?_, ?_⟩
    · rw [List.filterMap_cons_none hadmission, List.filterMap_nil]
    · rw [List.filterMap_cons_none howes, List.filterMap_nil]
    · simpa using hunmarked
    · simpa using hnot
    · intro hclosed
      rw [hrun] at hclosed
      cases hclosed
    · rw [List.filterMap_cons_none hadmission, List.filterMap_nil]
  | false =>
    have hnew : new = [] := if_neg (by rw [hrun]; exact Bool.false_ne_true)
    rw [hnew, List.append_nil]
    exact ⟨hacc, hstop, rfl⟩

/-- An event outside of the tasks keeps both. -/
theorem kept_outside {g : StreamService} {ts : List StreamTask} (event : StreamEvent)
    (hacc : Accounted g ts) (hstop : StopProtocol g ts) :
    let r := g.outside ts event
    Accounted r.1 (ts ++ r.2.1) ∧ StopProtocol r.1 (ts ++ r.2.1) ∧
      r.2.1.filterMap admission = [] := by
  intro r
  cases event with
  | start =>
    simp only [r, outside]
    split
    next =>
      rw [List.append_nil]
      exact ⟨hacc, hstop, rfl⟩
    next hfree =>
      rw [Bool.or_eq_true, not_or, Bool.not_eq_true] at hfree
      obtain ⟨hserver, hnone⟩ := hfree
      have hclosed : g.httpd = false := Bool.eq_false_iff.mpr fun hrun ↦ by
        rw [hstop.server_of hrun] at hserver
        cases hserver
      have hworkers : ts.filterMap admission = [] := by
        rw [hacc.admission_eq, StreamLifecycle.workers, (hstop.quiet hclosed).1]
        rfl
      have hentry : ∀ step, .stop step ∈ ts → step = .entry := by
        intro step ht
        cases step with
        | entry => rfl
        | _ => exact absurd (List.any_eq_true.mpr ⟨_, ht, rfl⟩) hnone
      rw [List.append_nil]
      refine ⟨⟨hworkers, hacc.requests_perm, hacc.unmarked⟩, ⟨hstop.one_stop, fun _ ↦ rfl,
        ?_, ?_, ?_⟩, rfl⟩
      · intro hrun
        cases hrun
      · intro step ht
        rw [hentry step ht]
        trivial
      · intro hactive
        cases hactive
  | login seconds => exact kept_request hacc hstop rfl rfl trivial rfl
  | logout => exact kept_request hacc hstop rfl rfl trivial rfl
  | streamRequest generation socket => exact kept_request hacc hstop rfl rfl trivial rfl
  | stopCall =>
    simp only [r, outside]
    exact ⟨hacc.spawn rfl rfl (by simp [Unmarked]),
      hstop.spawn (by simp [isStopping]) (by simp [isHandler]), rfl⟩
  | elapse ms =>
    simp only [r, outside, List.append_nil]
    exact ⟨⟨hacc.admission_eq, hacc.requests_perm, hacc.unmarked⟩,
      ⟨hstop.one_stop, hstop.server_of, hstop.quiet, fun step ht ↦
        (hstop.fact step ht).mono id fun hstopping ↦ ⟨hstopping, fun hactive ↦ ⟨hactive, rfl⟩⟩,
        hstop.positive⟩, rfl⟩

/-- A step adds to the admissions and completions of a run what its task's owners say. -/
theorem admissions_step {g : StreamService} {l r : List StreamTask} {task : StreamTask}
    (hacc : Accounted g (l ++ task :: r)) (ok : Bool)
    (hclosed : task = .stop .closed → g.lifecycle.workers = []) :
    let result := g.advance (l ++ r) task ok
    ((result.2.2.bind StreamOutput.completion).toList ++
      (l ++ result.2.1 ++ r).filterMap admission).Perm
      ((l ++ task :: r).filterMap admission ++
        (result.2.2.bind StreamOutput.admission).toList) := by
  intro result
  rw [filterMap_at, filterMap_replaced]
  rcases admission_step g (l ++ r) task ok with ⟨hsame, -, hadmitted, hcompleted⟩ |
    ⟨w, hnone, -, hnew, -, hadmitted, hcompleted⟩ | ⟨w, hsome, hend, -, hout⟩ |
    ⟨htask, -, hend, hout⟩
  · rw [hsame, hadmitted, hcompleted]
    simp
  · rw [hnone, hnew, hadmitted, hcompleted]
    simp only [Option.toList_none, List.nil_append, List.append_nil, Option.toList_some]
    rw [List.append_assoc, List.append_assoc]
    exact (List.perm_append_comm).append_left _
  · obtain ⟨hworkers, hl, hr⟩ := hacc.alone hsome
    have hcompleted : result.2.2 = some (.workerCompleted w true) := by
      rw [← (StreamLifecycle.workers_complete hworkers).1]
      exact hout
    rw [hsome, hend, hl, hr, hcompleted]
    rfl
  · have hworkers := hacc.admission_eq
    rw [hclosed htask, filterMap_at, htask] at hworkers
    obtain ⟨hl, hr⟩ : l.filterMap admission = [] ∧ r.filterMap admission = [] := by
      simpa [StreamTask.admission] using hworkers
    rw [htask, hend, hout, hl, hr]
    rfl

theorem admissions_concat (t : Trace) (turn : Turn Bool StreamEvent)
    (output : Option StreamOutput) : admissions (t ++ [(turn, output)]) =
      admissions t ++ (output.bind StreamOutput.admission).toList := by
  rw [admissions, List.filterMap_append, admissions, List.filterMap_cons]
  cases output.bind StreamOutput.admission <;> rfl

theorem completions_concat (t : Trace) (turn : Turn Bool StreamEvent)
    (output : Option StreamOutput) : completions (t ++ [(turn, output)]) =
      completions t ++ (output.bind StreamOutput.completion).toList := by
  rw [completions, List.filterMap_append, completions, List.filterMap_cons]
  cases output.bind StreamOutput.completion <;> rfl

/-- A stop call that resets the lifecycle finds no active worker. -/
theorem StopProtocol.workers_closed {g : StreamService} {ts : List StreamTask}
    (h : StopProtocol g ts) (task : StreamTask) (hmem : task ∈ ts)
    (htask : task = .stop .closed) : g.lifecycle.workers = [] := by
  rw [htask] at hmem
  rw [StreamLifecycle.workers, (h.quiet (h.fact _ hmem)).1]
  rfl

/-- Events outside of the tasks have no output. -/
theorem outside_output (g : StreamService) (ts : List StreamTask) (event : StreamEvent) :
    (g.outside ts event).2.2 = none := by
  cases event with
  | start =>
    simp only [outside]
    split <;> rfl
  | _ => rfl

/-- Every turn keeps what holds. -/
theorem safe_step (s : StreamService × List StreamTask) (t : Trace) (turn : Turn Bool StreamEvent)
    (h : Safe s.1 s.2 t) : Safe (tasks.machine.step s turn).1.1 (tasks.machine.step s turn).1.2
      (t ++ [(turn, (tasks.machine.step s turn).2)]) := by
  obtain ⟨g, ts⟩ := s
  obtain ⟨hacc, hstop, hperm⟩ := h
  rcases tasks.step_cases g ts turn with hstep | ⟨l, task, r, i, ok, -, rfl, -, hstep⟩ |
    ⟨event, -, hstep⟩
  · rw [hstep]
    refine ⟨hacc, hstop, ?_⟩
    rw [admissions_concat, completions_concat]
    simpa using hperm
  · have hclosed := hstop.workers_closed task (by simp)
    rw [hstep]
    refine ⟨hacc.advance ok hclosed, hstop.advance ok, ?_⟩
    rw [admissions_concat, completions_concat, List.append_assoc]
    refine ((admissions_step hacc ok hclosed).append_left _).trans ?_
    rw [← List.append_assoc]
    exact hperm.append_right _
  · obtain ⟨hacc', hstop', hnone⟩ := kept_outside event hacc hstop
    rw [hstep]
    refine ⟨hacc', hstop', ?_⟩
    rw [admissions_concat, completions_concat, show tasks.outside g ts event =
      g.outside ts event from rfl, outside_output, List.filterMap_append, hnone]
    simpa using hperm

theorem safe_run (turns : List (Turn Bool StreamEvent)) :
    Safe (tasks.machine.run initial turns).1 (tasks.machine.run initial turns).2
      (tasks.machine.trace initial turns) :=
  tasks.machine.invariant_trace (fun s t ↦ Safe s.1 s.2 t) (fun s t turn ↦ safe_step s t turn)
    safe_initial turns

/-- Without the server task and a start, no turn admits a worker or starts the server. -/
theorem closed_step {s : StreamService × List StreamTask} {t : Trace}
    {turn : Turn Bool StreamEvent} (h : Safe s.1 s.2 t) (hclosed : s.1.httpd = false)
    (hturn : turn ≠ .outside .start) : (tasks.machine.step s turn).1.1.httpd = false ∧
      (tasks.machine.step s turn).2.bind StreamOutput.admission = none := by
  obtain ⟨g, ts⟩ := s
  rcases tasks.step_cases g ts turn with hstep | ⟨l, task, r, i, ok, -, rfl, -, hstep⟩ |
    ⟨event, rfl, hstep⟩
  · rw [hstep]
    exact ⟨hclosed, rfl⟩
  · have hidle : task.isHandler = false := (h.protocol.quiet hclosed).2 task (by simp)
    rw [hstep]
    refine ⟨?_, ?_⟩
    · by_cases hstop : ∃ step, task = .stop step
      · obtain ⟨step, rfl⟩ := hstop
        have hclosed : g.httpd = false := hclosed
        simp only [tasks, StreamService.advance]
        cases step <;> simp only [advanceStop] <;> repeat' split
        all_goals first | exact hclosed | rfl
      · exact (frame_step g (l ++ r) ok fun step hstep ↦ hstop ⟨step, hstep⟩).httpd_eq.trans hclosed
    · rcases admission_step g (l ++ r) task ok with ⟨-, -, hnone, -⟩ |
        ⟨w, -, -, -, hhandler, -⟩ | ⟨w, -, -, -, hout⟩ | ⟨-, -, -, hout⟩
      · exact hnone
      · rw [hidle] at hhandler
        cases hhandler
      · rw [show (tasks.advance g (l ++ r) task ok).2.2 = _ from hout]
        rfl
      · rw [show (tasks.advance g (l ++ r) task ok).2.2 = _ from hout]
        rfl
  · rw [hstep]
    cases event with
    | start => exact absurd rfl hturn
    | _ => exact ⟨hclosed, rfl⟩

/-- Without the server task and a start, a run admits no worker. -/
theorem closed_run {s : StreamService × List StreamTask} {t : Trace}
    (h : Safe s.1 s.2 t) (hclosed : s.1.httpd = false) (later : List (Turn Bool StreamEvent))
    (hlater : ∀ turn ∈ later, turn ≠ .outside .start) :
    admissions (tasks.machine.trace s later) = [] := by
  induction later generalizing s t with
  | nil => rfl
  | cons turn later ih =>
    obtain ⟨hstill, hnone⟩ := closed_step h hclosed (hlater turn (by simp))
    have hrest := ih (safe_step s t turn h) hstill fun x hx ↦ hlater x (List.mem_cons_of_mem _ hx)
    rw [admissions] at hrest ⊢
    rw [Machine.trace, List.filterMap_cons, hnone]
    exact hrest

/-- Only a stop call resets the lifecycle or returns. -/
theorem stop_of_output (g : StreamService) (others : List StreamTask) (task : StreamTask)
    (ok : Bool) (h : (g.advance others task ok).2.2 = some .reinitialised ∨
      (g.advance others task ok).2.2 = some (.stopped .ok)) :
    task = .stop .closed ∨ task = .stop (.releasing .ok) := by
  cases task with
  | stop step =>
    cases step with
    | closed => exact .inl rfl
    | releasing result =>
      cases result with
      | ok => exact .inr rfl
      | _ => simp [StreamService.advance, advanceStop] at h
    | _ =>
      simp only [StreamService.advance, advanceStop] at h
      repeat' split at h
      all_goals simp at h
  | streamAuthenticated generation authorized socket =>
    simp only [StreamService.advance] at h
    split at h <;> simp at h
  | streamFailed context =>
    simp only [StreamService.advance, completeStreamContext] at h
    split at h <;> simp at h
  | streamReleasing w => simp [StreamService.advance, completeWorker] at h
  | worker context iteration step =>
    cases step with
    | finishing =>
      simp only [StreamService.advance, advanceWorker, completeStreamContext] at h
      split at h <;> simp at h
    | completing => simp [StreamService.advance, advanceWorker, completeWorker] at h
    | _ =>
      simp only [StreamService.advance, advanceWorker] at h
      repeat' split at h
      all_goals simp at h
  | _ =>
    simp only [StreamService.advance] at h
    repeat' split at h
    all_goals simp at h

/-- A stop call that resets the lifecycle or succeeds finds the server task ended. -/
theorem closed_of_output {s : StreamService × List StreamTask} {t : Trace}
    {turn : Turn Bool StreamEvent} (h : Safe s.1 s.2 t)
    (hout : (tasks.machine.step s turn).2 = some .reinitialised ∨
      (tasks.machine.step s turn).2 = some (.stopped .ok)) : s.1.httpd = false := by
  obtain ⟨g, ts⟩ := s
  rcases tasks.step_cases g ts turn with hstep | ⟨l, task, r, i, ok, -, rfl, -, hstep⟩ |
    ⟨event, rfl, hstep⟩
  · rw [hstep] at hout
    simp at hout
  · rw [hstep] at hout
    rcases stop_of_output g (l ++ r) task ok hout with rfl | rfl
    · exact h.protocol.fact .closed (by simp)
    · exact h.protocol.fact (.releasing .ok) (by simp)
  · rw [hstep, show tasks.outside g ts event = g.outside ts event from rfl,
      outside_output] at hout
    simp at hout

/-- After every interleaving: each async request that was begun has been completed once, or
is still owned by the one task that will complete it; of the admitted workers at most the
active one has not completed, and no other task holds its generation. When a stop call
resets the lifecycle or returns `ESP_OK`, all admitted workers have completed, and none is
admitted before the next start. -/
theorem stop_leaves_no_stream (turns : List (Turn Bool StreamEvent)) :
    let s := tasks.machine.run initial turns
    let t := tasks.machine.trace initial turns
    (∀ request, s.1.completed.count request + (s.2.filterMap owes).count request =
      if request < s.1.nextRequest then 1 else 0) ∧
    (completions t ++ s.2.filterMap admission).Perm (admissions t) ∧
    s.2.filterMap admission = s.1.lifecycle.workers ∧
    ∀ turn, (tasks.machine.step s turn).2 = some .reinitialised ∨
        (tasks.machine.step s turn).2 = some (.stopped .ok) →
      (completions t).Perm (admissions t) ∧ s.2.filterMap admission = [] ∧
      ∀ later, (∀ x ∈ later, x ≠ .outside .start) →
        admissions (tasks.machine.trace s (turn :: later)) = [] := by
  intro s t
  have h : Safe s.1 s.2 t := safe_run turns
  refine ⟨?_, h.admissions_perm, h.accounted.admission_eq, ?_⟩
  · intro request
    have hcount := List.perm_iff_count.mp h.accounted.requests_perm request
    rw [List.count_append] at hcount
    rw [hcount, List.count_range]
  · intro turn hout
    have hclosed := closed_of_output h hout
    have hworkers : s.2.filterMap admission = [] := by
      rw [h.accounted.admission_eq, StreamLifecycle.workers, (h.protocol.quiet hclosed).1]
      rfl
    have hperm := h.admissions_perm
    rw [hworkers, List.append_nil] at hperm
    refine ⟨hperm, hworkers, fun later hlater ↦ ?_⟩
    have hturn : turn ≠ .outside .start := by
      rintro rfl
      simp only [Threads.machine, show tasks.outside s.1 s.2 .start = s.1.outside s.2 .start from
        rfl, outside_output] at hout
      simp at hout
    exact closed_run h hclosed (turn :: later)
      (List.forall_mem_cons.mpr ⟨hturn, hlater⟩)

/-- A stop call that waits for a worker in its first iteration. -/
example : ((tasks.machine.trace initial ([.outside .start, .outside (.login 600), .run 0 true,
      .run 0 true, .outside (.streamRequest [49] 7)] ++ List.replicate 7 (.run 0 true) ++
      [.outside .stopCall] ++ List.replicate 5 (.run 1 true) ++
      List.replicate 12 (.run 0 true))).getLast?.bind (·.2)) =
    some (.stopped .ok) := by decide +kernel

end StreamService
end EdgeMonitor.Firmware
