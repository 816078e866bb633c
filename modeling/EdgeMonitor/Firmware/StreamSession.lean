import EdgeMonitor.Firmware.StreamStop

/-!
# Diagnostic streams and their sessions

Library `Firmware`. Over every interleaving of the tasks of `StreamService`: a worker is
admitted for the current session only, and after a login or logout has requested the
shutdown, a worker of an earlier session starts no batch but one whose check of the
lifecycle was already over.
-/

namespace EdgeMonitor.Firmware
open EdgeMonitor.Base

namespace StreamService
open StreamTask

/-- The session generations under which a run starts batches, in order. -/
def batches (t : Trace) : List UInt64 := t.filterMap fun x ↦ x.2.bind StreamOutput.batch

/-- The session generations that a run stores, in order. -/
def sessions (t : Trace) : List UInt64 := t.filterMap fun x ↦ x.2.bind StreamOutput.newSession

/-- A worker of a session before the given one whose check has found the worker current
and released the stream mutex. -/
def inFlight (generation : UInt64) : StreamTask → Bool
  | .worker context _ (.lifecycleRead true _ _) => context.sessionGeneration < generation
  | _ => false

/-- The tasks of an earlier session find the shutdown requested. -/
structure Revoked (generation : UInt64) (g : StreamService) (ts : List StreamTask) : Prop where
  generation_le : generation ≤ g.sessionGeneration
  shutdown : ∀ t ∈ ts, ∀ session, t.session = some session → session < generation →
    g.lifecycle.shutdownRequested = true

/-- A task with a session owns an admission. -/
theorem admission_of_session {task : StreamTask} {session : UInt64}
    (h : task.session = some session) : ∃ w, task.admission = some w := by
  cases task <;> first | exact ⟨_, rfl⟩ | cases h

/-- Session generation and task sessions after the step of a task. -/
theorem session_step (g : StreamService) (others : List StreamTask) (task : StreamTask)
    (ok : Bool) :
    let r := g.advance others task ok
    ((r.1.sessionGeneration = g.sessionGeneration ∧
        r.2.2.bind StreamOutput.newSession = none) ∨
      (r.1.sessionGeneration = g.nextGeneration ∧
        r.2.2 = some (.sessionChanged g.nextGeneration))) ∧
    (∀ t ∈ r.2.1, ∀ session, t.session = some session →
      task.session = some session ∨ session = g.sessionGeneration) := by
  intro r
  cases task with
  | login seconds => exact ⟨.inr ⟨rfl, rfl⟩, by simp [r, StreamService.advance, session]⟩
  | logout => exact ⟨.inr ⟨rfl, rfl⟩, by simp [r, StreamService.advance, session]⟩
  | streamAuthenticated generation authorized socket =>
    simp only [r, StreamService.advance]
    split
    next w g' hadmission =>
      obtain ⟨-, hcurrent, lifecycle, -, rfl⟩ := admitStream_spec hadmission
      exact ⟨.inl ⟨rfl, rfl⟩, by simp [session, hcurrent]⟩
    next => exact ⟨.inl ⟨rfl, rfl⟩, by simp⟩
  | streamContext context socket =>
    refine ⟨.inl ⟨rfl, rfl⟩, ?_⟩
    simp only [r, StreamService.advance, List.mem_singleton, forall_eq]
    split
    next => exact fun s hs ↦ .inl hs
    next => exact fun s hs ↦ by cases hs
  | streamFailed context =>
    simp only [r, StreamService.advance, completeStreamContext]
    split <;> exact ⟨.inl ⟨by trivial, by trivial⟩, by simp [session]⟩
  | worker context iteration step =>
    cases step with
    | finishing =>
      simp only [r, StreamService.advance, advanceWorker, completeStreamContext]
      split <;> exact ⟨.inl ⟨by trivial, by trivial⟩, by simp [session]⟩
    | completing => exact ⟨.inl ⟨rfl, rfl⟩, by simp [r, StreamService.advance, advanceWorker]⟩
    | _ =>
      simp only [r, StreamService.advance, advanceWorker]
      repeat' split
      all_goals exact ⟨.inl ⟨by trivial, by trivial⟩, by simp [session]⟩
  | stop step =>
    cases step with
    | satisfied => exact ⟨.inr ⟨rfl, rfl⟩, by simp [r, StreamService.advance, advanceStop, session]⟩
    | _ =>
      simp only [r, StreamService.advance, advanceStop]
      repeat' split
      all_goals exact ⟨.inl ⟨by trivial, by trivial⟩, by simp [session]⟩
  | _ =>
    simp only [r, StreamService.advance]
    repeat' split
    all_goals exact ⟨.inl ⟨by trivial, by trivial⟩, by simp [session]⟩

/-- Without overflow the next session generation is larger. -/
theorem nextGeneration_toNat {g : StreamService} (h : g.sessionGeneration.toNat + 1 < 2 ^ 64) :
    g.nextGeneration.toNat = g.sessionGeneration.toNat + 1 := by
  have hnext : (g.sessionGeneration + 1).toNat = g.sessionGeneration.toNat + 1 := by
    rw [UInt64.toNat_add, UInt64.toNat_one, Nat.mod_eq_of_lt h]
  rw [nextGeneration, if_neg]
  · exact hnext
  · intro hzero
    rw [hzero] at hnext
    exact Nat.succ_ne_zero _ hnext.symm

/-- The step of a task keeps earlier sessions revoked. -/
theorem Revoked.advance {generation : UInt64} {g : StreamService} {l r : List StreamTask}
    {task : StreamTask} (h : Revoked generation g (l ++ task :: r))
    (hacc : Accounted g (l ++ task :: r)) (ok : Bool)
    (hclosed : task = .stop .closed → g.lifecycle.workers = [])
    (hroom : g.sessionGeneration.toNat +
      ((g.advance (l ++ r) task ok).2.2.bind StreamOutput.newSession).toList.length < 2 ^ 64) :
    Revoked generation (g.advance (l ++ r) task ok).1
      (l ++ (g.advance (l ++ r) task ok).2.1 ++ r) := by
  obtain ⟨hgeneration, hsession⟩ := session_step g (l ++ r) task ok
  constructor
  · rcases hgeneration with ⟨hsame, -⟩ | ⟨hnext, hout⟩
    · rw [hsame]
      exact h.generation_le
    · have hle := h.generation_le
      rw [hout] at hroom
      rw [UInt64.le_iff_toNat_le] at hle ⊢
      rw [hnext, nextGeneration_toNat hroom]
      omega
  · intro t ht session hs hold
    -- some task had the session before the step
    have hbefore : ∃ u ∈ l ++ task :: r, u.session = some session := by
      rw [List.mem_append, List.mem_append] at ht
      rcases ht with (ht | ht) | ht
      · exact ⟨t, List.mem_append_left _ ht, hs⟩
      · refine ⟨task, by simp, (hsession t ht session hs).resolve_right fun hcurrent ↦ ?_⟩
        have hle := h.generation_le
        rw [UInt64.le_iff_toNat_le] at hle
        rw [UInt64.lt_iff_toNat_lt, hcurrent] at hold
        omega
      · exact ⟨t, List.mem_append_right _ (List.mem_cons_of_mem _ ht), hs⟩
    obtain ⟨u, hu, hus⟩ := hbefore
    have hrequested : g.lifecycle.shutdownRequested = true := h.shutdown u hu session hus hold
    have howner : g.lifecycle.workers ≠ [] := by
      obtain ⟨w, hw⟩ := admission_of_session hus
      rw [← hacc.admission_eq]
      exact List.ne_nil_of_mem (List.mem_filterMap.mpr ⟨u, hu, hw⟩)
    rcases admission_step g (l ++ r) task ok with ⟨-, hworker, -⟩ | ⟨w, -, hadmitted, -⟩ |
      ⟨w, hsome, hend, -⟩ | ⟨htask, -⟩
    · exact hworker.shutdown_of hrequested
    · obtain ⟨hactive, -⟩ := StreamLifecycle.admitWorker_spec hadmitted
      rw [StreamLifecycle.workers, hactive] at howner
      exact absurd rfl howner
    · -- the owner that completes was the only one
      obtain ⟨-, hl, hr⟩ := hacc.alone hsome
      obtain ⟨w', hw'⟩ := admission_of_session hs
      rw [hend, List.append_nil, List.mem_append] at ht
      rcases ht with ht | ht
      · exact absurd (List.mem_filterMap.mpr ⟨t, ht, hw'⟩) (by rw [hl]; exact List.not_mem_nil)
      · exact absurd (List.mem_filterMap.mpr ⟨t, ht, hw'⟩) (by rw [hr]; exact List.not_mem_nil)
    · exact absurd (hclosed htask) howner

/-- An event outside of the tasks keeps earlier sessions revoked. -/
theorem Revoked.outside {generation : UInt64} {g : StreamService} {ts : List StreamTask}
    (h : Revoked generation g ts) (hacc : Accounted g ts) (hstop : StopProtocol g ts)
    (event : StreamEvent) :
    Revoked generation (g.outside ts event).1 (ts ++ (g.outside ts event).2.1) ∧
      (g.outside ts event).2.1.countP (inFlight generation) = 0 := by
  have hspawn : ∀ new : List StreamTask, (∀ t ∈ new, t.session = none) →
      Revoked generation g (ts ++ new) := by
    intro new hnew
    refine ⟨h.generation_le, fun t ht session hs hold ↦ ?_⟩
    rcases List.mem_append.mp ht with ht | ht
    · exact h.shutdown t ht session hs hold
    · rw [hnew t ht] at hs
      cases hs
  cases event with
  | start =>
    simp only [StreamService.outside]
    split
    next =>
      rw [List.append_nil]
      exact ⟨h, rfl⟩
    next hfree =>
      rw [Bool.or_eq_true, not_or, Bool.not_eq_true] at hfree
      have hclosed : g.httpd = false := Bool.eq_false_iff.mpr fun hrun ↦ by
        rw [hstop.server_of hrun] at hfree
        cases hfree.1
      have hnone : ts.filterMap admission = [] := by
        rw [hacc.admission_eq, StreamLifecycle.workers, (hstop.quiet hclosed).1]
        rfl
      refine ⟨⟨h.generation_le, fun t ht session hs _ ↦ ?_⟩, rfl⟩
      obtain ⟨w, hw⟩ := admission_of_session hs
      rw [List.append_nil] at ht
      exact absurd (List.mem_filterMap.mpr ⟨t, ht, hw⟩) (by rw [hnone]; exact List.not_mem_nil)
  | login seconds =>
    simp only [StreamService.outside]
    split <;> exact ⟨hspawn _ (by simp [session]), rfl⟩
  | logout =>
    simp only [StreamService.outside]
    split <;> exact ⟨hspawn _ (by simp [session]), rfl⟩
  | streamRequest generation socket =>
    simp only [StreamService.outside]
    split <;> exact ⟨hspawn _ (by simp [session]), rfl⟩
  | stopCall => exact ⟨hspawn [.stop .entry] (by simp [session]), rfl⟩
  | elapse ms =>
    simp only [StreamService.outside, List.append_nil]
    exact ⟨⟨h.generation_le, h.shutdown⟩, rfl⟩

/-- The step of a task in flight may start one batch; no other task comes in flight. -/
theorem inFlight_step {generation : UInt64} {g : StreamService} {ts : List StreamTask}
    (h : Revoked generation g ts) (others : List StreamTask) (task : StreamTask)
    (htask : task ∈ ts) (ok : Bool) :
    let r := g.advance others task ok
    (r.2.2.bind StreamOutput.batch).toList.countP (· < generation) +
      r.2.1.countP (inFlight generation) ≤ if inFlight generation task then 1 else 0 := by
  intro r
  have hzero : r.2.2.bind StreamOutput.batch = none →
      (∀ t ∈ r.2.1, inFlight generation t = false) →
      (r.2.2.bind StreamOutput.batch).toList.countP (· < generation) +
        r.2.1.countP (inFlight generation) = 0 := by
    intro hout hnew
    have hnone : r.2.1.countP (inFlight generation) = 0 :=
      List.countP_eq_zero.mpr fun t ht ↦ by simp [hnew t ht]
    rw [hout, hnone]
    rfl
  cases task with
  | streamAuthenticated generation' authorized socket =>
    refine (hzero ?_ ?_).trans_le (Nat.zero_le _) <;> simp only [r, StreamService.advance] <;>
      split <;> simp [inFlight, StreamOutput.batch]
  | streamFailed context =>
    refine (hzero ?_ ?_).trans_le (Nat.zero_le _) <;>
      simp only [r, StreamService.advance, completeStreamContext]
    · split <;> rfl
    · simp [inFlight]
  | worker context iteration step =>
    cases step with
    | sessionRead current expires =>
      refine (hzero rfl ?_).trans_le (Nat.zero_le _)
      simp only [r, StreamService.advance, advanceWorker, List.mem_singleton, forall_eq]
      cases hcurrent : g.lifecycle.workerCurrent context.workerGeneration with
      | false => rfl
      | true =>
        rw [inFlight, decide_eq_false_iff_not]
        intro hold
        have hshutdown := h.shutdown _ htask context.sessionGeneration rfl hold
        rw [StreamLifecycle.workerCurrent_eq_true_iff, hshutdown] at hcurrent
        cases hcurrent.2.1
    | lifecycleRead workerCurrent current expires =>
      simp only [r, StreamService.advance, advanceWorker]
      split
      next hvalid =>
        rw [Bool.and_eq_true] at hvalid
        rw [hvalid.1]
        simp [inFlight, StreamOutput.batch, List.countP_cons]
      next => simp [inFlight]
    | finishing =>
      refine (hzero ?_ ?_).trans_le (Nat.zero_le _) <;>
        simp only [r, StreamService.advance, advanceWorker, completeStreamContext]
      · split <;> rfl
      · simp [inFlight]
    | _ =>
      refine (hzero ?_ ?_).trans_le (Nat.zero_le _) <;>
        simp only [r, StreamService.advance, advanceWorker] <;> repeat' split
      all_goals simp [inFlight, completeWorker, StreamOutput.batch]
  | stop step =>
    cases step <;> refine (hzero ?_ ?_).trans_le (Nat.zero_le _) <;>
      simp only [r, StreamService.advance, advanceStop] <;> repeat' split
    all_goals simp [inFlight, StreamOutput.batch]
  | _ =>
    refine (hzero ?_ ?_).trans_le (Nat.zero_le _) <;>
      simp only [r, StreamService.advance] <;> repeat' split
    all_goals simp [inFlight, completeWorker, StreamOutput.batch]

theorem batches_cons (turn : Turn Bool StreamEvent) (output : Option StreamOutput) (t : Trace) :
    batches ((turn, output) :: t) = (output.bind StreamOutput.batch).toList ++ batches t := by
  rw [batches, List.filterMap_cons]
  cases output.bind StreamOutput.batch <;> rfl

theorem sessions_cons (turn : Turn Bool StreamEvent) (output : Option StreamOutput) (t : Trace) :
    sessions ((turn, output) :: t) =
      (output.bind StreamOutput.newSession).toList ++ sessions t := by
  rw [sessions, List.filterMap_cons]
  cases output.bind StreamOutput.newSession <;> rfl

theorem sessions_append (t t' : Trace) : sessions (t ++ t') = sessions t ++ sessions t' :=
  List.filterMap_append

/-- The session generation counts the sessions that the turns store. -/
theorem session_turn (s : StreamService × List StreamTask) (turn : Turn Bool StreamEvent)
    (hroom : s.1.sessionGeneration.toNat +
      ((tasks.machine.step s turn).2.bind StreamOutput.newSession).toList.length < 2 ^ 64) :
    (tasks.machine.step s turn).1.1.sessionGeneration.toNat = s.1.sessionGeneration.toNat +
      ((tasks.machine.step s turn).2.bind StreamOutput.newSession).toList.length := by
  obtain ⟨g, ts⟩ := s
  rcases tasks.step_cases g ts turn with hstep | ⟨l, task, r, i, ok, -, rfl, -, hstep⟩ |
    ⟨event, -, hstep⟩
  · rw [hstep]
    rfl
  · rw [hstep] at hroom ⊢
    simp only [tasks] at hroom ⊢
    rcases (session_step g (l ++ r) task ok).1 with ⟨hsame, hout⟩ | ⟨hnext, hout⟩
    · rw [hsame, hout]
      rfl
    · rw [hout] at hroom ⊢
      rw [hnext]
      exact nextGeneration_toNat hroom
  · have hout : (tasks.outside g ts event).2.2 = none := outside_output g ts event
    rw [hstep, hout]
    cases event with
    | start =>
      simp only [tasks, outside]
      split <;> rfl
    | _ => rfl

/-- One turn keeps earlier sessions revoked, and takes a task out of flight for each batch
it starts for them. -/
theorem revoked_step {generation : UInt64} {s : StreamService × List StreamTask} {t : Trace}
    (hsafe : Safe s.1 s.2 t) (h : Revoked generation s.1 s.2) (turn : Turn Bool StreamEvent)
    (hroom : s.1.sessionGeneration.toNat +
      ((tasks.machine.step s turn).2.bind StreamOutput.newSession).toList.length < 2 ^ 64) :
    let r := tasks.machine.step s turn
    Revoked generation r.1.1 r.1.2 ∧
      (r.2.bind StreamOutput.batch).toList.countP (· < generation) +
        r.1.2.countP (inFlight generation) ≤ s.2.countP (inFlight generation) := by
  intro r
  obtain ⟨g, ts⟩ := s
  obtain ⟨hacc, hstop, -⟩ := hsafe
  rcases tasks.step_cases g ts turn with hstep | ⟨l, task, rest, i, ok, -, rfl, -, hstep⟩ |
    ⟨event, -, hstep⟩
  · rw [show r = _ from hstep]
    exact ⟨h, by simp⟩
  · rw [hstep] at hroom
    rw [show r = _ from hstep]
    refine ⟨h.advance hacc ok (hstop.workers_closed task (by simp)) hroom, ?_⟩
    have hflight := inFlight_step h (l ++ rest) task (by simp) ok
    simp only [tasks, List.countP_append, List.countP_cons] at hflight ⊢
    omega
  · rw [show r = _ from hstep]
    obtain ⟨hrevoked, hflight⟩ := h.outside hacc hstop event
    refine ⟨hrevoked, ?_⟩
    have hout : (tasks.outside g ts event).2.2 = none := outside_output g ts event
    simp only [hout, Option.bind_none, Option.toList_none, List.countP_nil, Nat.zero_add]
    rw [List.countP_append]
    exact (congrArg _ hflight).le

/-- After a revocation, as many batches are started for earlier sessions as their workers
were in flight. -/
theorem batches_run {generation : UInt64} {s : StreamService × List StreamTask} {t : Trace}
    (hsafe : Safe s.1 s.2 t) (h : Revoked generation s.1 s.2)
    (later : List (Turn Bool StreamEvent)) (hroom : s.1.sessionGeneration.toNat +
      (sessions (tasks.machine.trace s later)).length < 2 ^ 64) :
    (batches (tasks.machine.trace s later)).countP (· < generation) ≤
      s.2.countP (inFlight generation) := by
  induction later generalizing s t with
  | nil => exact Nat.zero_le _
  | cons turn later ih =>
    rw [Machine.trace, sessions_cons, List.length_append] at hroom
    have hgeneration := session_turn s turn (by omega)
    obtain ⟨hrevoked, hflight⟩ := revoked_step hsafe h turn (by omega)
    have hrest := ih (safe_step s t turn hsafe) hrevoked (by omega)
    rw [Machine.trace, batches_cons, List.countP_append]
    omega

theorem sessionGeneration_run (turns : List (Turn Bool StreamEvent))
    (hroom : (sessions (tasks.machine.trace initial turns)).length < 2 ^ 64) :
    (tasks.machine.run initial turns).1.sessionGeneration.toNat =
      (sessions (tasks.machine.trace initial turns)).length := by
  induction turns using List.reverseRecOn with
  | nil => rfl
  | append_singleton turns turn ih =>
    rw [Machine.trace_concat, sessions_append, sessions_cons, List.length_append] at hroom ⊢
    simp only [sessions, List.filterMap_nil, List.append_nil] at hroom ih ⊢
    rw [Machine.run_append, Machine.run_cons, Machine.run_nil]
    have hbefore := ih (by omega)
    rw [session_turn _ turn (by omega), hbefore]

/-- At most one worker holds an admission, so at most one is in flight. -/
theorem inFlight_le_one {g : StreamService} {ts : List StreamTask} (h : Accounted g ts)
    (generation : UInt64) : ts.countP (inFlight generation) ≤ 1 := by
  have howners : (ts.filterMap admission).length ≤ 1 := by
    rw [h.admission_eq, StreamLifecycle.workers]
    split <;> simp
  refine le_trans ?_ howners
  rw [List.length_filterMap_eq_countP]
  refine List.countP_mono_left fun task _ htask ↦ ?_
  cases task with
  | worker => rfl
  | _ => cases htask

/-- A step that requests a shutdown does nothing else. -/
theorem shutdown_of_output {g : StreamService} {others : List StreamTask} {task : StreamTask}
    {ok : Bool} (h : (g.advance others task ok).2.2 = some .shutdownRequested) :
    (g.advance others task ok).1.sessionGeneration = g.sessionGeneration ∧
      ∃ stopping, (g.advance others task ok).1.lifecycle =
        (g.lifecycle.requestShutdown stopping).2 := by
  cases task with
  | sessionChanged => exact ⟨rfl, false, rfl⟩
  | stop step =>
    cases step with
    | requesting => exact ⟨rfl, true, rfl⟩
    | _ =>
      simp only [StreamService.advance, advanceStop] at h
      repeat' split at h
      all_goals simp at h
  | streamFailed context =>
    simp only [StreamService.advance, completeStreamContext] at h
    split at h <;> simp at h
  | streamReleasing w => simp [StreamService.advance, completeWorker] at h
  | worker context iteration step =>
    cases step with
    | finishing =>
      simp only [StreamService.advance, advanceWorker, completeStreamContext] at h
      split at h <;> simp at h
    | completing => simp [StreamService.advance, advanceWorker, completeWorker] at h
    | _ =>
      simp only [StreamService.advance, advanceWorker] at h
      repeat' split at h
      all_goals simp at h
  | _ =>
    simp only [StreamService.advance] at h
    repeat' split at h
    all_goals simp at h

/-- After a request to shut down, the tasks of all earlier sessions find it. -/
theorem revoked_of_output {s : StreamService × List StreamTask} {t : Trace}
    {turn : Turn Bool StreamEvent} (hsafe : Safe s.1 s.2 t)
    (hout : (tasks.machine.step s turn).2 = some .shutdownRequested) :
    Revoked s.1.sessionGeneration (tasks.machine.step s turn).1.1
      (tasks.machine.step s turn).1.2 := by
  have hacc := (safe_step s t turn hsafe).accounted
  have hrequest : (tasks.machine.step s turn).1.1.sessionGeneration = s.1.sessionGeneration ∧
      ∃ stopping, (tasks.machine.step s turn).1.1.lifecycle =
        (s.1.lifecycle.requestShutdown stopping).2 := by
    obtain ⟨g, ts⟩ := s
    rcases tasks.step_cases g ts turn with hstep | ⟨l, task, r, i, ok, -, rfl, -, hstep⟩ |
      ⟨event, -, hstep⟩
    · rw [hstep] at hout
      cases hout
    · rw [hstep] at hout ⊢
      exact shutdown_of_output hout
    · rw [hstep, show (tasks.outside g ts event).2.2 = none from outside_output g ts event] at hout
      cases hout
  obtain ⟨hgeneration, stopping, hlifecycle⟩ := hrequest
  refine ⟨UInt64.le_of_eq hgeneration.symm, fun t ht session hs _ ↦ ?_⟩
  obtain ⟨w, hw⟩ := admission_of_session hs
  have howner := List.mem_filterMap.mpr ⟨t, ht, hw⟩
  rw [hacc.admission_eq, hlifecycle, StreamLifecycle.workers,
    StreamLifecycle.requestShutdown_snd] at howner
  rw [hlifecycle, StreamLifecycle.requestShutdown_snd]
  split at howner
  next hactive =>
    rw [show s.1.lifecycle.active = true from hactive]
    rfl
  next => cases howner

/-- A step that admits a worker finds the request authorized for the current session. -/
theorem current_of_admitted {g : StreamService} {others : List StreamTask} {task : StreamTask}
    {ok : Bool} {requested : List UInt8} {authorized w : UInt64}
    (h : (g.advance others task ok).2.2 = some (.admitted requested authorized w)) :
    parseStreamGeneration requested = some g.sessionGeneration ∧
      authorized = g.sessionGeneration ∧ g.nowMs < g.sessionExpiresMs := by
  cases task with
  | streamAuthenticated generation authorized' socket =>
    simp only [StreamService.advance] at h
    split at h
    next w' g' hadmission =>
      cases h
      obtain ⟨hauthorized, hcurrent, -⟩ := admitStream_spec hadmission
      simp only [streamRequestAuthorized, Bool.and_eq_true, decide_eq_true_eq, beq_iff_eq]
        at hauthorized
      exact ⟨hauthorized.2.trans (congrArg _ hcurrent.symm), hcurrent.symm, hauthorized.1.2⟩
    next => cases h
  | streamFailed context =>
    simp only [StreamService.advance, completeStreamContext] at h
    split at h <;> simp at h
  | streamReleasing w => simp [StreamService.advance, completeWorker] at h
  | worker context iteration step =>
    cases step with
    | finishing =>
      simp only [StreamService.advance, advanceWorker, completeStreamContext] at h
      split at h <;> simp at h
    | completing => simp [StreamService.advance, advanceWorker, completeWorker] at h
    | _ =>
      simp only [StreamService.advance, advanceWorker] at h
      repeat' split at h
      all_goals simp at h
  | stop step =>
    cases step <;> simp only [StreamService.advance, advanceStop] at h <;> repeat' split at h
    all_goals simp at h
  | _ =>
    simp only [StreamService.advance] at h
    repeat' split at h
    all_goals simp at h

/-- Over every interleaving: a worker is admitted only while the requested, the
authenticated and the current session generation are equal and the session lasts. After a
login, a logout or a stop call has requested the shutdown, at most as many batches are
started for sessions before the current one as workers of such sessions had then passed the
check of the lifecycle, and this is one at most. -/
theorem stream_ends_with_session (turns : List (Turn Bool StreamEvent)) :
    let s := tasks.machine.run initial turns
    (∀ turn requested authorized w,
      (tasks.machine.step s turn).2 = some (.admitted requested authorized w) →
        parseStreamGeneration requested = some s.1.sessionGeneration ∧
        authorized = s.1.sessionGeneration ∧ s.1.nowMs < s.1.sessionExpiresMs) ∧
    ∀ turn later, (tasks.machine.step s turn).2 = some .shutdownRequested →
      (sessions (tasks.machine.trace initial (turns ++ turn :: later))).length < 2 ^ 64 →
      let s' := (tasks.machine.step s turn).1
      (batches (tasks.machine.trace s' later)).countP (· < s.1.sessionGeneration) ≤
        s'.2.countP (inFlight s.1.sessionGeneration) ∧
      s'.2.countP (inFlight s.1.sessionGeneration) ≤ 1 := by
  intro s
  have hsafe : Safe s.1 s.2 (tasks.machine.trace initial turns) := safe_run turns
  constructor
  · intro turn requested authorized w hout
    rcases tasks.step_cases s.1 s.2 turn with hstep | ⟨l, task, r, i, ok, -, -, -, hstep⟩ |
      ⟨event, -, hstep⟩
    · rw [hstep] at hout
      cases hout
    · rw [hstep] at hout
      exact current_of_admitted hout
    · rw [hstep, show (tasks.outside s.1 s.2 event).2.2 = none from
        outside_output s.1 s.2 event] at hout
      cases hout
  · intro turn later hout hroom s'
    have hafter := safe_step s _ turn hsafe
    rw [Machine.trace_append, Machine.trace, sessions_append, sessions_cons, List.length_append,
      List.length_append, show tasks.machine.run initial turns = s from rfl] at hroom
    have hgeneration : s.1.sessionGeneration.toNat =
        (sessions (tasks.machine.trace initial turns)).length :=
      sessionGeneration_run turns (by omega)
    have hnext := session_turn s turn (by omega)
    refine ⟨batches_run hafter (revoked_of_output hsafe hout) later ?_,
      inFlight_le_one hafter.accounted _⟩
    rw [hnext, hgeneration]
    omega

/-- A worker whose check has released the stream mutex starts a batch after a login has
requested the shutdown. -/
theorem stream_ends_with_session_fails : ¬ ∀ (turns : List (Turn Bool StreamEvent)) turn later,
    (tasks.machine.step (tasks.machine.run initial turns) turn).2 = some .shutdownRequested →
    (sessions (tasks.machine.trace initial (turns ++ turn :: later))).length < 2 ^ 64 →
    ∀ session ∈ batches (tasks.machine.trace
      (tasks.machine.step (tasks.machine.run initial turns) turn).1 later),
      ¬ session < (tasks.machine.run initial turns).1.sessionGeneration := by
  intro h
  have hbatch := h ([.outside .start, .outside (.login 600), .run 0 true, .run 0 true,
    .outside (.streamRequest [49] 7)] ++ List.replicate 9 (.run 0 true) ++
    [.outside (.login 600), .run 1 true]) (.run 1 true) [.run 0 true] (by decide +kernel)
    (by decide +kernel) 1 (by decide +kernel)
  exact hbatch (by decide +kernel)

end StreamService
end EdgeMonitor.Firmware
