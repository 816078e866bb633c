import EdgeMonitor.Base.Machine

/-!
# The lifecycle of stream workers

Library `Firmware`. The worker lifecycle of
`firmware/components/provisioning_service/provisioning_security.c:105–202`, as calls on
its record. Over every sequence of calls with fewer than `2^64` admissions, the admitted
generations are `1, 2, 3, …`, and all of them but possibly the last have completed.
-/

namespace EdgeMonitor.Firmware
open EdgeMonitor.Base

/-- `provisioning_stream_lifecycle_t`, `provisioning_security.h:24–32`. -/
structure StreamLifecycle where
  nextWorkerGeneration : UInt64
  activeWorkerGeneration : UInt64
  completedWorkerGeneration : UInt64
  activeSocket : Int32
  active : Bool
  shutdownRequested : Bool
  serviceStopping : Bool
  deriving DecidableEq

namespace StreamLifecycle

/-- `provisioning_stream_lifecycle_init`. -/
def init : StreamLifecycle where
  nextWorkerGeneration := 0
  activeWorkerGeneration := 0
  completedWorkerGeneration := 0
  activeSocket := -1
  active := false
  shutdownRequested := false
  serviceStopping := false

/-- `provisioning_stream_admit`: the new worker generation, none when it refuses. -/
def admitWorker (s : StreamLifecycle) : Option (UInt64 × StreamLifecycle) :=
  if s.active || s.serviceStopping then none
  else
    let next := s.nextWorkerGeneration + 1
    let next := if next = 0 then 1 else next
    some (next, { s with
      nextWorkerGeneration := next
      activeWorkerGeneration := next
      activeSocket := -1
      active := true
      shutdownRequested := false })

/-- `provisioning_stream_attach_socket`. The socket is stored even when it answers false
for a current worker that was asked to stop. -/
def attachSocket (s : StreamLifecycle) (workerGeneration : UInt64) (socketFd : Int32) :
    Bool × StreamLifecycle :=
  if socketFd < 0 || !s.active || s.activeWorkerGeneration != workerGeneration then (false, s)
  else (!s.shutdownRequested && !s.serviceStopping, { s with activeSocket := socketFd })

/-- `provisioning_stream_worker_current`. -/
def workerCurrent (s : StreamLifecycle) (workerGeneration : UInt64) : Bool :=
  s.active && s.activeWorkerGeneration == workerGeneration
    && !s.shutdownRequested && !s.serviceStopping

/-- `provisioning_stream_request_shutdown`: the active generation and its socket, 0 and −1
when no worker is active. -/
def requestShutdown (s : StreamLifecycle) (serviceStopping : Bool) :
    (UInt64 × Int32) × StreamLifecycle :=
  let s := if serviceStopping then { s with serviceStopping := true } else s
  if !s.active then ((0, -1), s)
  else ((s.activeWorkerGeneration, s.activeSocket), { s with shutdownRequested := true })

/-- `provisioning_stream_complete`. -/
def complete (s : StreamLifecycle) (workerGeneration : UInt64) : Bool × StreamLifecycle :=
  if !s.active || s.activeWorkerGeneration != workerGeneration then (false, s)
  else (true, { s with
    completedWorkerGeneration := workerGeneration
    activeWorkerGeneration := 0
    activeSocket := -1
    active := false
    shutdownRequested := false })

/-- A shutdown request marks the lifecycle and nothing else. -/
theorem requestShutdown_snd (s : StreamLifecycle) (serviceStopping : Bool) :
    (s.requestShutdown serviceStopping).2 = { s with
      shutdownRequested := s.active || s.shutdownRequested
      serviceStopping := serviceStopping || s.serviceStopping } := by
  obtain ⟨_, _, _, _, active, _, _⟩ := s
  cases active <;> cases serviceStopping <;> rfl

/-- It answers with the active worker. -/
theorem requestShutdown_fst (s : StreamLifecycle) (serviceStopping : Bool) :
    (s.requestShutdown serviceStopping).1.1 = if s.active then s.activeWorkerGeneration else 0 := by
  obtain ⟨_, _, _, _, active, _, _⟩ := s
  cases active <;> cases serviceStopping <;> rfl

/-- `provisioning_stream_stop_satisfied`. -/
def stopSatisfied (s : StreamLifecycle) (workerGeneration : UInt64) : Bool :=
  workerGeneration == 0 || (workerGeneration ≤ s.completedWorkerGeneration
    && (!s.active || s.activeWorkerGeneration != workerGeneration))

end StreamLifecycle

/-! ### Calls -/

/-- The calls that change a lifecycle. -/
inductive StreamCall where
  | admitWorker
  | attachSocket (workerGeneration : UInt64) (socketFd : Int32)
  | requestShutdown (serviceStopping : Bool)
  | complete (workerGeneration : UInt64)
  deriving DecidableEq

/-- What a call returns. -/
inductive StreamResult where
  | admitted (workerGeneration : Option UInt64)
  | attached (ok : Bool)
  | shutdown (workerGeneration : UInt64) (socketFd : Int32)
  | completed (ok : Bool)
  deriving DecidableEq

/-- A lifecycle under calls with arbitrary arguments. -/
def streamMachine : Machine StreamLifecycle StreamCall StreamResult where
  step s
    | .admitWorker =>
      match s.admitWorker with
      | some (g, s') => (s', .admitted (some g))
      | none => (s, .admitted none)
    | .attachSocket g fd => ((s.attachSocket g fd).2, .attached (s.attachSocket g fd).1)
    | .requestShutdown stopping =>
      let r := s.requestShutdown stopping
      (r.2, .shutdown r.1.1 r.1.2)
    | .complete g => ((s.complete g).2, .completed (s.complete g).1)

/-- The calls of a run with what each returned. -/
abbrev StreamTrace := List (StreamCall × StreamResult)

namespace StreamTrace

/-- The generations that successful admissions returned, in order. -/
def admitted (t : StreamTrace) : List UInt64 :=
  t.filterMap fun
    | (_, .admitted g) => g
    | _ => none

/-- The generations of successful completions, in order. -/
def completed (t : StreamTrace) : List UInt64 :=
  t.filterMap fun
    | (.complete g, .completed true) => some g
    | _ => none

/-- A generation that was admitted and has not completed. -/
def Live (t : StreamTrace) (g : UInt64) : Prop := g ∈ t.admitted ∧ g ∉ t.completed

/-- The service was asked to stop. -/
def StopRequested (t : StreamTrace) : Prop := ∃ r, (StreamCall.requestShutdown true, r) ∈ t

/-- Some shutdown was requested after the generation was admitted. -/
def ShutDown (t : StreamTrace) (g : UInt64) : Prop :=
  ∃ before stopping r after,
    t = before ++ (.requestShutdown stopping, r) :: after ∧ g ∈ admitted before

@[simp] theorem admitted_append (t u : StreamTrace) :
    admitted (t ++ u) = t.admitted ++ u.admitted := List.filterMap_append

@[simp] theorem completed_append (t u : StreamTrace) :
    completed (t ++ u) = t.completed ++ u.completed := List.filterMap_append

theorem stopRequested_concat (t : StreamTrace) (x : StreamCall × StreamResult) :
    StopRequested (t ++ [x]) ↔ t.StopRequested ∨ x.1 = .requestShutdown true := by
  obtain ⟨call, result⟩ := x
  simp only [StopRequested, List.mem_append, List.mem_singleton, Prod.mk.injEq, exists_or]
  constructor
  · rintro (h | ⟨_, h, _⟩)
    · exact .inl h
    · exact .inr h.symm
  · rintro (h | h)
    · exact .inl h
    · exact .inr ⟨_, h.symm, rfl⟩

theorem shutDown_concat (t : StreamTrace) (x : StreamCall × StreamResult) (g : UInt64) :
    ShutDown (t ++ [x]) g ↔
      t.ShutDown g ∨ (∃ stopping, x.1 = .requestShutdown stopping) ∧ g ∈ t.admitted := by
  constructor
  · rintro ⟨before, stopping, r, after, h, hg⟩
    rcases List.eq_nil_or_concat after with rfl | ⟨after, y, rfl⟩
    · obtain ⟨rfl, hx⟩ := List.append_inj' h rfl
      exact .inr ⟨⟨stopping, by rw [List.singleton_inj.mp hx]⟩, hg⟩
    · rw [List.concat_eq_append, ← List.cons_append, ← List.append_assoc] at h
      obtain ⟨rfl, -⟩ := List.append_inj' h rfl
      exact .inl ⟨before, stopping, r, after, rfl, hg⟩
  · rintro (⟨before, stopping, r, after, rfl, hg⟩ | ⟨⟨stopping, hx⟩, hg⟩)
    · exact ⟨before, stopping, r, after ++ [x], by simp, hg⟩
    · exact ⟨t, stopping, x.2, [], by rw [← hx], hg⟩

end StreamTrace

/-! ### What the record keeps of the calls -/

namespace StreamLifecycle
open StreamTrace

/-- The record agrees with the calls made so far. -/
structure Tracks (s : StreamLifecycle) (t : StreamTrace) : Prop where
  next_eq : s.nextWorkerGeneration.toNat = t.admitted.length
  admitted_eq : t.admitted.map UInt64.toNat = List.range' 1 t.admitted.length
  admitted_split : t.admitted = t.completed ++ if s.active then [s.activeWorkerGeneration] else []
  completed_eq : s.completedWorkerGeneration.toNat = t.completed.length
  shutdown_iff : s.active = true →
    (s.shutdownRequested = true ↔ t.ShutDown s.activeWorkerGeneration)
  stopping_iff : s.serviceStopping = true ↔ t.StopRequested

theorem tracks_init : Tracks init [] where
  next_eq := rfl
  admitted_eq := rfl
  admitted_split := rfl
  completed_eq := rfl
  shutdown_iff := by simp [init]
  stopping_iff := by simp [init, StopRequested]

namespace Tracks
variable {s : StreamLifecycle} {t : StreamTrace}

/-- The admitted generations increase, and none is zero. -/
theorem admitted_increasing (h : Tracks s t) : (0 :: t.admitted).Pairwise (· < ·) := by
  have hrange : ((0 :: t.admitted).map UInt64.toNat).Pairwise (· < ·) := by
    rw [List.map_cons, h.admitted_eq]
    exact List.pairwise_lt_range' (s := 0) (n := t.admitted.length + 1)
  exact (List.pairwise_map.mp hrange).imp UInt64.lt_iff_toNat_lt.mpr

theorem admitted_nodup (h : Tracks s t) : t.admitted.Nodup :=
  (List.pairwise_cons.mp h.admitted_increasing).2.imp UInt64.ne_of_lt

theorem live_iff (h : Tracks s t) (g : UInt64) :
    t.Live g ↔ s.active = true ∧ s.activeWorkerGeneration = g := by
  have hnodup := h.admitted_nodup
  have hsplit := h.admitted_split
  rw [hsplit] at hnodup
  rw [Live, hsplit]
  cases hactive : s.active with
  | false => simp
  | true =>
    rw [hactive, if_pos rfl] at hnodup
    have hlast := (List.nodup_append.mp hnodup).2.2
    simp only [if_true, List.mem_append, List.mem_singleton, true_and]
    constructor
    · rintro ⟨hg | hg, hout⟩
      · exact (hout hg).elim
      · exact hg.symm
    · rintro rfl
      exact ⟨.inr rfl, fun hin ↦ hlast _ hin _ (List.mem_singleton.mpr rfl) rfl⟩

/-- An admission takes the next number. -/
theorem admitWorker (h : Tracks s t) (hroom : t.admitted.length + 1 < 2 ^ 64) {g : UInt64}
    {s' : StreamLifecycle} (hadmission : s.admitWorker = some (g, s')) :
    Tracks s' (t ++ [(.admitWorker, .admitted (some g))]) := by
  simp only [StreamLifecycle.admitWorker] at hadmission
  split at hadmission
  next => cases hadmission
  next hidle =>
    simp only [Bool.or_eq_true, not_or, Bool.not_eq_true] at hidle
    obtain ⟨hactive, hstopping⟩ := hidle
    have hnext : (s.nextWorkerGeneration + 1).toNat = t.admitted.length + 1 := by
      rw [UInt64.toNat_add, h.next_eq, UInt64.toNat_one, Nat.mod_eq_of_lt hroom]
    have hpositive : s.nextWorkerGeneration + 1 ≠ 0 := by
      intro hzero
      rw [hzero] at hnext
      exact Nat.succ_ne_zero _ hnext.symm
    rw [if_neg hpositive] at hadmission
    cases hadmission
    have hsplit := h.admitted_split
    rw [hactive, if_neg Bool.false_ne_true, List.append_nil] at hsplit
    have hnew : StreamTrace.admitted [(StreamCall.admitWorker,
        StreamResult.admitted (some (s.nextWorkerGeneration + 1)))] =
        [s.nextWorkerGeneration + 1] := rfl
    have hnone : StreamTrace.completed [(StreamCall.admitWorker,
        StreamResult.admitted (some (s.nextWorkerGeneration + 1)))] = [] := rfl
    constructor
    · simp only [admitted_append, hnew, hnext, List.length_append, List.length_singleton]
    · rw [admitted_append, hnew, List.map_append, h.admitted_eq, List.length_append,
        List.length_singleton, List.range'_concat, List.map_singleton, hnext, Nat.one_mul,
        Nat.add_comm 1]
    · rw [admitted_append, completed_append, hnew, hnone, List.append_nil, if_pos rfl, ← hsplit]
    · rw [completed_append, hnone, List.append_nil]
      exact h.completed_eq
    · intro _
      simp only [Bool.false_eq_true, false_iff, shutDown_concat, not_or, reduceCtorEq,
        exists_false, false_and, not_false_eq_true, and_true]
      rintro ⟨before, stopping, r, after, rfl, hg⟩
      -- the new number is larger than all that were admitted
      have hmem : (s.nextWorkerGeneration + 1).toNat ∈
          List.range' 1 (admitted (before ++ (.requestShutdown stopping, r) :: after)).length := by
        rw [← h.admitted_eq, admitted_append, List.map_append]
        exact List.mem_append_left _ (List.mem_map_of_mem hg)
      rw [hnext, List.mem_range'_1] at hmem
      omega
    · rw [stopRequested_concat]
      simpa using h.stopping_iff

/-- A completion that succeeds adds the active generation. -/
theorem complete (h : Tracks s t) {g : UInt64} (hactive : s.active = true)
    (hg : s.activeWorkerGeneration = g) :
    Tracks (s.complete g).2 (t ++ [(.complete g, .completed true)]) := by
  have hsplit := h.admitted_split
  rw [hactive, if_pos rfl, hg] at hsplit
  have hnone : StreamTrace.admitted [(StreamCall.complete g, StreamResult.completed true)] = [] :=
    rfl
  have hnew : StreamTrace.completed [(StreamCall.complete g, StreamResult.completed true)] = [g] :=
    rfl
  have hlast : g.toNat = t.completed.length + 1 := by
    have hrange := h.admitted_eq
    rw [hsplit, List.map_append, List.length_append, List.length_singleton,
      List.range'_concat, Nat.one_mul, Nat.add_comm 1] at hrange
    exact (List.singleton_inj.mp (List.append_inj' hrange rfl).2)
  simp only [StreamLifecycle.complete, hactive, hg, bne_self_eq_false, Bool.not_true,
    Bool.or_false, Bool.false_eq_true, if_false]
  constructor
  · rw [admitted_append, hnone, List.append_nil]
    exact h.next_eq
  · rw [admitted_append, hnone, List.append_nil]
    exact h.admitted_eq
  · rw [admitted_append, completed_append, hnone, hnew, List.append_nil, hsplit]
    simp
  · rw [completed_append, hnew, List.length_append, List.length_singleton]
    exact hlast
  · simp
  · rw [stopRequested_concat]
    simpa using h.stopping_iff

/-- A call that neither admits nor completes keeps the generations. -/
theorem other (h : Tracks s t) {s' : StreamLifecycle} {x : StreamCall × StreamResult}
    (hadmitted : admitted [x] = []) (hcompleted : completed [x] = [])
    (hsame : { s' with
      activeSocket := s.activeSocket
      shutdownRequested := s.shutdownRequested
      serviceStopping := s.serviceStopping } = s)
    (hshutdown : s.active = true → (s'.shutdownRequested = true ↔
      s.shutdownRequested = true ∨ ∃ stopping, x.1 = .requestShutdown stopping))
    (hstopping : s'.serviceStopping = true ↔
      s.serviceStopping = true ∨ x.1 = .requestShutdown true) : Tracks s' (t ++ [x]) := by
  have hactive : s'.active = s.active := by rw [← hsame]
  have hgeneration : s'.activeWorkerGeneration = s.activeWorkerGeneration := by
    rw [← hsame]
  constructor
  · rw [admitted_append, hadmitted, List.append_nil, ← h.next_eq]
    rw [← hsame]
  · rw [admitted_append, hadmitted, List.append_nil]
    exact h.admitted_eq
  · rw [admitted_append, completed_append, hadmitted, hcompleted, List.append_nil,
      List.append_nil, hactive, hgeneration]
    exact h.admitted_split
  · rw [completed_append, hcompleted, List.append_nil, ← h.completed_eq]
    rw [← hsame]
  · intro hlive
    rw [hactive] at hlive
    have hmem : s.activeWorkerGeneration ∈ t.admitted := ((h.live_iff _).mpr ⟨hlive, rfl⟩).1
    rw [hshutdown hlive, h.shutdown_iff hlive, hgeneration, shutDown_concat, and_iff_left hmem]
  · rw [hstopping, h.stopping_iff, stopRequested_concat]

end Tracks

theorem attachSocket_refused {s : StreamLifecycle} {g : UInt64}
    (h : ¬(s.active = true ∧ s.activeWorkerGeneration = g)) (fd : Int32) :
    s.attachSocket g fd = (false, s) := by
  rw [attachSocket, if_pos]
  by_cases hactive : s.active = true
  · simp [hactive, show s.activeWorkerGeneration ≠ g from fun hg ↦ h ⟨hactive, hg⟩]
  · simp [hactive]

theorem complete_refused {s : StreamLifecycle} {g : UInt64}
    (h : ¬(s.active = true ∧ s.activeWorkerGeneration = g)) : s.complete g = (false, s) := by
  rw [complete, if_pos]
  by_cases hactive : s.active = true
  · simp [hactive, show s.activeWorkerGeneration ≠ g from fun hg ↦ h ⟨hactive, hg⟩]
  · simp [hactive]

theorem complete_accepted {s : StreamLifecycle} {g : UInt64} (hactive : s.active = true)
    (hg : s.activeWorkerGeneration = g) : (s.complete g).1 = true := by
  simp [complete, hactive, hg]

/-- One call keeps the agreement while fewer than `2^64` workers have been admitted. -/
theorem tracks_step {s : StreamLifecycle} {t : StreamTrace} (h : Tracks s t) (call : StreamCall)
    (hroom : (admitted (t ++ [(call, (streamMachine.step s call).2)])).length < 2 ^ 64) :
    Tracks (streamMachine.step s call).1 (t ++ [(call, (streamMachine.step s call).2)]) := by
  cases call with
  | admitWorker =>
    simp only [streamMachine] at hroom ⊢
    split
    next g s' hadmission =>
      rw [hadmission] at hroom
      rw [admitted_append, List.length_append] at hroom
      exact h.admitWorker hroom hadmission
    next => exact h.other rfl rfl rfl (by simp) (by simp)
  | attachSocket g fd =>
    simp only [streamMachine, attachSocket]
    split
    next => exact h.other rfl rfl rfl (by simp) (by simp)
    next => exact h.other rfl rfl rfl (by simp) (by simp)
  | requestShutdown stopping =>
    simp only [streamMachine, requestShutdown_snd]
    refine h.other rfl rfl rfl ?_ ?_
    · intro hactive
      simp [hactive]
    · cases stopping <;> simp
  | complete g =>
    simp only [streamMachine]
    by_cases hlive : s.active = true ∧ s.activeWorkerGeneration = g
    · rw [complete_accepted hlive.1 hlive.2]
      exact h.complete hlive.1 hlive.2
    · rw [complete_refused hlive]
      exact h.other rfl rfl rfl (by simp) (by simp)

/-- The record agrees with every sequence of fewer than `2^64` admissions. -/
theorem tracks_run (calls : List StreamCall)
    (hroom : (admitted (streamMachine.trace init calls)).length < 2 ^ 64) :
    Tracks (streamMachine.run init calls) (streamMachine.trace init calls) := by
  refine streamMachine.invariant_trace
    (fun s t ↦ (admitted t).length < 2 ^ 64 → Tracks s t) ?_ (fun _ ↦ tracks_init) calls hroom
  intro s t call ih hlen
  refine tracks_step (ih ?_) call hlen
  rw [admitted_append, List.length_append] at hlen
  omega

/-- The agreement held before every call of such a sequence. -/
theorem tracks_before {calls : List StreamCall}
    (hroom : (admitted (streamMachine.trace init calls)).length < 2 ^ 64)
    {before after : StreamTrace} {x : StreamCall × StreamResult}
    (h : streamMachine.trace init calls = before ++ x :: after) :
    ∃ s, Tracks s before ∧ x.2 = (streamMachine.step s x.1).2 := by
  obtain ⟨calls', call, rest, -, rfl, rfl⟩ := streamMachine.trace_eq_append_cons h
  refine ⟨streamMachine.run init calls', tracks_run calls' ?_, rfl⟩
  rw [h, admitted_append, List.length_append] at hroom
  omega

theorem admit_eq_some_idle {s s' : StreamLifecycle} {g : UInt64} (h : s.admitWorker = some (g, s')) :
    s.active = false ∧ s.serviceStopping = false := by
  simp only [admitWorker] at h
  split at h
  next => cases h
  next hidle => simpa using hidle

theorem workerCurrent_eq_true_iff (s : StreamLifecycle) (g : UInt64) :
    s.workerCurrent g = true ↔ (s.active = true ∧ s.activeWorkerGeneration = g) ∧
      s.shutdownRequested = false ∧ s.serviceStopping = false := by
  simp [workerCurrent, and_assoc]

/-- An admitted worker satisfies a stop exactly after its completion. -/
theorem Tracks.stopSatisfied_iff {s : StreamLifecycle} {t : StreamTrace} (h : Tracks s t)
    {g : UInt64} (hg : g ∈ t.admitted) : s.stopSatisfied g = true ↔ g ∈ t.completed := by
  have hpositive : g ≠ 0 :=
    (UInt64.ne_of_lt ((List.pairwise_cons.mp h.admitted_increasing).1 g hg)).symm
  have hlive : s.active = true ∧ s.activeWorkerGeneration = g ↔ g ∉ t.completed := by
    rw [← h.live_iff, Live, and_iff_right hg]
  simp only [stopSatisfied, beq_eq_false_iff_ne.mpr hpositive, Bool.false_or, Bool.and_eq_true,
    decide_eq_true_eq, Bool.or_eq_true, Bool.not_eq_true', bne_iff_ne]
  constructor
  · rintro ⟨-, hdone⟩
    by_contra hout
    have := hlive.mpr hout
    simp_all
  · intro hin
    refine ⟨?_, ?_⟩
    · -- the completed generations are the numbers up to the last one
      have hmem : g.toNat ∈ (t.completed.map UInt64.toNat) := List.mem_map_of_mem hin
      have hearlier : t.completed.map UInt64.toNat = List.range' 1 t.completed.length := by
        have hrange := h.admitted_eq
        rw [h.admitted_split, List.map_append, List.length_append,
          ← List.range'_append_1] at hrange
        exact (List.append_inj hrange (by simp)).1
      rw [hearlier, List.mem_range'_1] at hmem
      rw [UInt64.le_iff_toNat_le, h.completed_eq]
      omega
    · by_contra hout
      simp only [not_or, Bool.not_eq_false, ne_eq, not_not] at hout
      exact hlive.mp hout hin

/-- Over every sequence of calls with fewer than `2^64` admissions: one worker is active at
most; admissions return increasing positive generations, only without an active worker and
before any service stop; a completion succeeds exactly for the active worker, so once for
each; other generations change nothing; a worker is not current after a shutdown request;
and a stop waits exactly for the completion of its worker. -/
theorem stream_lifecycle_safe (calls : List StreamCall)
    (hroom : (admitted (streamMachine.trace init calls)).length < 2 ^ 64) :
    let s := streamMachine.run init calls
    let t : StreamTrace := streamMachine.trace init calls
    (∀ g h, t.Live g → t.Live h → g = h) ∧
    (∀ g, t.Live g ↔ s.active = true ∧ s.activeWorkerGeneration = g) ∧
    (0 :: t.admitted).Pairwise (· < ·) ∧
    (∀ before g after, t = before ++ (.admitWorker, .admitted (some g)) :: after →
      (∀ h, ¬Live before h) ∧ ¬StopRequested before) ∧
    t.completed.Nodup ∧
    (∀ before g ok after, t = before ++ (.complete g, .completed ok) :: after →
      (ok = true ↔ Live before g)) ∧
    (∀ g, ¬t.Live g → (∀ fd, s.attachSocket g fd = (false, s)) ∧ s.complete g = (false, s)) ∧
    (∀ g, t.ShutDown g ∨ t.StopRequested → s.workerCurrent g = false) ∧
    (∀ g ∈ t.admitted, s.stopSatisfied g = true ↔ g ∈ t.completed) := by
  intro s t
  have h : Tracks s t := tracks_run calls hroom
  refine ⟨?_, h.live_iff, h.admitted_increasing, ?_, ?_, ?_, ?_, ?_, ?_⟩
  · intro g g' hg hg'
    rw [h.live_iff] at hg hg'
    exact hg.2.symm.trans hg'.2
  · intro before g after ht
    obtain ⟨s', h', hresult⟩ := tracks_before hroom ht
    simp only [streamMachine] at hresult
    split at hresult
    next hadmission =>
      obtain ⟨hactive, hstopping⟩ := admit_eq_some_idle hadmission
      refine ⟨fun g' ↦ ?_, ?_⟩
      · rw [h'.live_iff, hactive]
        simp
      · rw [← h'.stopping_iff, hstopping]
        exact Bool.false_ne_true
    next => cases hresult
  · have hnodup := h.admitted_nodup
    rw [h.admitted_split] at hnodup
    exact (List.nodup_append.mp hnodup).1
  · intro before g ok after ht
    obtain ⟨s', h', hresult⟩ := tracks_before hroom ht
    obtain rfl : ok = (s'.complete g).1 := StreamResult.completed.inj hresult
    rw [h'.live_iff]
    constructor
    · intro hok
      by_contra hlive
      rw [complete_refused hlive] at hok
      cases hok
    · rintro ⟨hactive, hg⟩
      exact complete_accepted hactive hg
  · intro g hg
    rw [h.live_iff] at hg
    exact ⟨attachSocket_refused hg, complete_refused hg⟩
  · intro g hg
    rw [Bool.eq_false_iff, ne_eq, workerCurrent_eq_true_iff]
    rintro ⟨⟨hactive, rfl⟩, hshutdown, hstopping⟩
    rcases hg with hg | hg
    · rw [← h.shutdown_iff hactive, hshutdown] at hg
      cases hg
    · rw [← h.stopping_iff, hstopping] at hg
      cases hg
  · intro g hg
    exact h.stopSatisfied_iff hg

theorem stream_lifecycle_safe_two_workers :
    let calls : List StreamCall := [.admitWorker, .attachSocket 1 10, .requestShutdown false,
      .complete 1, .admitWorker, .complete 1, .requestShutdown true, .admitWorker, .complete 2]
    (streamMachine.run init calls).stopSatisfied 2 = true ↔
      2 ∈ completed (streamMachine.trace init calls) :=
  (stream_lifecycle_safe [.admitWorker, .attachSocket 1 10, .requestShutdown false, .complete 1, .admitWorker,
    .complete 1, .requestShutdown true, .admitWorker, .complete 2] (by decide)).2.2.2.2.2.2.2.2 2
    (by decide)

end StreamLifecycle
end EdgeMonitor.Firmware
