import EdgeMonitor.Base.Threads
import EdgeMonitor.Firmware.ProvisioningSecurity
import EdgeMonitor.Firmware.StreamLifecycle

/-!
# The diagnostic stream of the provisioning service

Library `Firmware`. The tasks that touch the diagnostic stream in
`firmware/components/provisioning_service/provisioning_service.c`: the login, logout and
stream handlers, the stream worker and the callers of `provisioning_service_stop`. A step
is what the code does while it holds `stream_mutex` or `service_state_lock`, one access
of an atomic or of the clock, or one call of the server or allocator, which may fail. The
scheduler may switch tasks between any two steps. The server runs its handlers one at a
time; here any number may run at once.
-/

namespace EdgeMonitor.Firmware
open EdgeMonitor.Base

/-- What the tasks share. `completed` lists the calls of `httpd_req_async_handler_complete`
by the number of their request; `httpd` tells whether the server task runs. -/
structure StreamService where
  lifecycle : StreamLifecycle := .init
  sessionGeneration : UInt64 := 0
  sessionExpiresMs : Int := 0
  nowMs : Int := 0
  server : Bool := false
  httpd : Bool := false
  stopInProgress : Bool := false
  nextRequest : Nat := 0
  completed : List Nat := []
  deriving DecidableEq

/-- `diagnostic_stream_context_t`. -/
structure StreamContext where
  request : Nat
  sessionGeneration : UInt64
  workerGeneration : UInt64
  lifecycle : AsyncLifecycle := {}
  deriving DecidableEq

/-- Where a stream worker is in `logs_stream_worker`. -/
inductive WorkerStep where
  /-- At the start of an iteration. -/
  | check
  /-- In `stream_session_is_valid`, before it takes the stream mutex. -/
  | sessionRead (currentGeneration : UInt64) (expiresMs : Int)
  /-- In `stream_session_is_valid`, after it released the stream mutex. -/
  | lifecycleRead (workerCurrent : Bool) (currentGeneration : UInt64) (expiresMs : Int)
  /-- Building and sending a batch. -/
  | batch
  /-- After the loop, before the async request is completed. -/
  | finishing
  /-- Before the worker completes in the lifecycle. -/
  | completing
  deriving DecidableEq

/-- What `provisioning_service_stop` returns: `ESP_OK`, `ESP_ERR_TIMEOUT`, or the error of
`httpd_stop`. -/
inductive StopResult where
  | ok
  | timeout
  | failed
  deriving DecidableEq

/-- Where a caller is in `provisioning_service_stop`. -/
inductive StopStep where
  | entry
  | entered
  | requesting
  | requested (workerGeneration : UInt64)
  | waiting (workerGeneration : UInt64) (deadlineMs : Int)
  | late (workerGeneration : UInt64) (deadlineMs : Int)
  | satisfied
  | cleared
  | closed
  | reinitialised
  | releasing (result : StopResult)
  deriving DecidableEq

/-- A task that is in one of the modelled functions. -/
inductive StreamTask where
  /-- `session_create_handler` with a valid secret, before the session is stored. -/
  | login (sessionSeconds : Nat)
  /-- `session_delete_handler` after `require_auth`. -/
  | logout
  /-- Both after the session changed, before `request_stream_shutdown(false)`. -/
  | sessionChanged
  /-- `logs_stream_handler` before and in `authenticated`, then after it. -/
  | streamRequested (generation : List UInt8) (socket : Int32)
  | streamServing (generation : List UInt8) (socket : Int32)
  | streamAuthenticated (generation : List UInt8) (authorized : UInt64) (socket : Int32)
  /-- `logs_stream_handler` after the admission. -/
  | streamAdmitted (authorized workerGeneration : UInt64) (socket : Int32)
  | streamBegun (request : Nat) (authorized workerGeneration : UInt64) (socket : Int32)
  | streamContext (context : StreamContext) (socket : Int32)
  | streamAttached (context : StreamContext)
  /-- `logs_stream_handler` on its failure exits: with an async request to complete, and
  with only the admission left to complete. -/
  | streamFailed (context : StreamContext)
  | streamReleasing (workerGeneration : UInt64)
  | worker (context : StreamContext) (iteration : Nat) (step : WorkerStep)
  | stop (step : StopStep)
  deriving DecidableEq

/-- What the server and the other tasks bring about. -/
inductive StreamEvent where
  /-- `provisioning_service_start`. -/
  | start
  | login (sessionSeconds : Nat)
  | logout
  | streamRequest (generation : List UInt8) (socket : Int32)
  | stopCall
  /-- Time passes. -/
  | elapse (ms : Nat)
  deriving DecidableEq

/-- What can be observed of a step. -/
inductive StreamOutput where
  | sessionChanged (generation : UInt64)
  | shutdownRequested
  | admitted (requested : List UInt8) (authorized workerGeneration : UInt64)
  | begun (request : Nat)
  | asyncCompleted (request : Nat)
  | workerCompleted (workerGeneration : UInt64) (ok : Bool)
  | batchStarted (sessionGeneration workerGeneration : UInt64)
  | reinitialised
  | stopped (result : StopResult)
  deriving DecidableEq

/-- The worker generation that a step admits. -/
def StreamOutput.admission : StreamOutput → Option UInt64
  | admitted _ _ w => some w
  | _ => none

/-- The worker generation that a step completes in the lifecycle. -/
def StreamOutput.completion : StreamOutput → Option UInt64
  | workerCompleted w true => some w
  | _ => none

/-- The session generation under which a step starts a batch. -/
def StreamOutput.batch : StreamOutput → Option UInt64
  | batchStarted session _ => some session
  | _ => none

/-- The session generation that a step stores. -/
def StreamOutput.newSession : StreamOutput → Option UInt64
  | sessionChanged generation => some generation
  | _ => none

namespace StreamTask

/-- The task runs in the server's task, which `httpd_stop` waits for. -/
def isHandler : StreamTask → Bool
  | worker .. => false
  | stop _ => false
  | _ => true

/-- The task is a stop call that has entered. -/
def isStopping : StreamTask → Bool
  | stop .entry => false
  | stop _ => true
  | _ => false

/-- The worker generation that the task was admitted with and has not completed. -/
def admission : StreamTask → Option UInt64
  | streamAdmitted _ w _ => some w
  | streamBegun _ _ w _ => some w
  | streamContext context _ => some context.workerGeneration
  | streamAttached context => some context.workerGeneration
  | streamFailed context => some context.workerGeneration
  | streamReleasing w => some w
  | worker context _ _ => some context.workerGeneration
  | _ => none

/-- The session generation under which the task was admitted, until it completes. -/
def session : StreamTask → Option UInt64
  | streamAdmitted authorized _ _ => some authorized
  | streamBegun _ authorized _ _ => some authorized
  | streamContext context _ => some context.sessionGeneration
  | streamAttached context => some context.sessionGeneration
  | worker context _ _ => some context.sessionGeneration
  | _ => none

/-- The async request that the task began and still has to complete. -/
def owes : StreamTask → Option Nat
  | streamBegun request _ _ _ => some request
  | streamContext context _ => some context.request
  | streamAttached context => some context.request
  | streamFailed context => some context.request
  | worker _ _ .completing => none
  | worker context _ _ => some context.request
  | _ => none

/-- A task that still has to complete its request has not marked it as completed. -/
def Unmarked : StreamTask → Prop
  | streamContext context _ => context.lifecycle.completed = false
  | streamAttached context => context.lifecycle.completed = false
  | streamFailed context => context.lifecycle.completed = false
  | worker _ _ .completing => True
  | worker context _ _ => context.lifecycle.completed = false
  | _ => True

end StreamTask

namespace StreamService

/-- The session generation after the next change. -/
def nextGeneration (g : StreamService) : UInt64 :=
  if g.sessionGeneration + 1 = 0 then 1 else g.sessionGeneration + 1

/-- `session_clear`. -/
def sessionClear (g : StreamService) : StreamService :=
  { g with sessionExpiresMs := 0, sessionGeneration := g.nextGeneration }

/-- `complete_stream_context`. -/
def completeStreamContext (g : StreamService) (context : StreamContext) :
    StreamContext × StreamService × Option StreamOutput :=
  let r := context.lifecycle.markComplete
  ({ context with lifecycle := r.2 },
    if r.1 then ({ g with completed := g.completed ++ [context.request] },
      some (.asyncCompleted context.request))
    else (g, none))

/-- A call of `provisioning_stream_complete` under the stream mutex. -/
def completeWorker (g : StreamService) (workerGeneration : UInt64) :
    StreamService × Option StreamOutput :=
  let r := g.lifecycle.complete workerGeneration
  ({ g with lifecycle := r.2 }, some (.workerCompleted workerGeneration r.1))

/-- The admission of `logs_stream_handler`, `provisioning_service.c:903–919`, under both
locks: the worker generation, none when the request is refused. -/
def admitStream (g : StreamService) (generation : List UInt8) (authorized : UInt64) :
    Option (UInt64 × StreamService) :=
  if streamRequestAuthorized generation authorized g.sessionExpiresMs g.nowMs
      && g.sessionGeneration == authorized then
    match g.lifecycle.admitWorker with
    | some (w, lifecycle) => some (w, { g with lifecycle })
    | none => none
  else none

/-- One step of `logs_stream_worker`. -/
def advanceWorker (g : StreamService) (context : StreamContext) (iteration : Nat) (ok : Bool) :
    WorkerStep → StreamService × List StreamTask × Option StreamOutput
  | .check =>
    if iteration < 30 then
      (g, [.worker context iteration (.sessionRead g.sessionGeneration g.sessionExpiresMs)], none)
    else (g, [.worker context iteration .finishing], none)
  | .sessionRead current expires =>
    (g, [.worker context iteration (.lifecycleRead
      (g.lifecycle.workerCurrent context.workerGeneration) current expires)], none)
  | .lifecycleRead workerCurrent current expires =>
    if workerCurrent && streamSessionValid context.sessionGeneration current expires g.nowMs
        false false then
      (g, [.worker context iteration .batch],
        some (.batchStarted context.sessionGeneration context.workerGeneration))
    else (g, [.worker context iteration .finishing], none)
  | .batch =>
    if ok then (g, [.worker context (iteration + 1) .check], none)
    else (g, [.worker context iteration .finishing], none)
  | .finishing =>
    let (context, g, output) := g.completeStreamContext context
    (g, [.worker context iteration .completing], output)
  | .completing =>
    let r := g.completeWorker context.workerGeneration
    (r.1, [], r.2)

/-- One step of `provisioning_service_stop`. `httpd_stop` succeeds only once no handler
runs, and the server task has ended then. -/
def advanceStop (g : StreamService) (others : List StreamTask) (ok : Bool) :
    StopStep → StreamService × List StreamTask × Option StreamOutput
  | .entry =>
    if g.stopInProgress then (g, [], some (.stopped .timeout))
    else ({ g with stopInProgress := true }, [.stop .entered], none)
  | .entered =>
    if g.server then (g, [.stop .requesting], none) else (g, [.stop (.releasing .ok)], none)
  | .requesting =>
    let r := g.lifecycle.requestShutdown true
    ({ g with lifecycle := r.2 }, [.stop (.requested r.1.1)], some .shutdownRequested)
  | .requested w => (g, [.stop (.waiting w (g.nowMs + 4000))], none)
  | .waiting w deadline =>
    if w = 0 || g.lifecycle.stopSatisfied w then (g, [.stop .satisfied], none)
    else (g, [.stop (.late w deadline)], none)
  | .late w deadline =>
    if g.nowMs ≥ deadline then (g, [.stop (.releasing .timeout)], none)
    else (g, [.stop (.waiting w deadline)], none)
  | .satisfied =>
    (g.sessionClear, [.stop .cleared], some (.sessionChanged g.nextGeneration))
  | .cleared =>
    if !ok then (g, [.stop (.releasing .failed)], none)
    else if others.any StreamTask.isHandler then (g, [.stop .cleared], none)
    else ({ g with httpd := false }, [.stop .closed], none)
  | .closed => ({ g with lifecycle := .init }, [.stop .reinitialised], some .reinitialised)
  | .reinitialised => ({ g with server := false }, [.stop (.releasing .ok)], none)
  | .releasing result => ({ g with stopInProgress := false }, [], some (.stopped result))

/-- One step of a task. `ok` is what the called server, allocator or network functions, or
the comparison of cookies, answer in that step. -/
def advance (g : StreamService) (others : List StreamTask) (task : StreamTask) (ok : Bool) :
    StreamService × List StreamTask × Option StreamOutput :=
  match task with
  | .login sessionSeconds =>
    ({ g with
      sessionGeneration := g.nextGeneration
      sessionExpiresMs := g.nowMs + sessionSeconds * 1000 },
      [.sessionChanged], some (.sessionChanged g.nextGeneration))
  | .logout => (g.sessionClear, [.sessionChanged], some (.sessionChanged g.nextGeneration))
  | .sessionChanged =>
    ({ g with lifecycle := (g.lifecycle.requestShutdown false).2 }, [], some .shutdownRequested)
  | .streamRequested generation socket =>
    if g.lifecycle.serviceStopping then (g, [], none)
    else (g, [.streamServing generation socket], none)
  | .streamServing generation socket =>
    if ok && g.nowMs < g.sessionExpiresMs then
      (g, [.streamAuthenticated generation g.sessionGeneration socket], none)
    else (g, [], none)
  | .streamAuthenticated generation authorized socket =>
    match g.admitStream generation authorized with
    | some (w, g') =>
      (g', [.streamAdmitted authorized w socket], some (.admitted generation authorized w))
    | none => (g, [], none)
  | .streamAdmitted authorized w socket =>
    if ok then
      ({ g with nextRequest := g.nextRequest + 1 },
        [.streamBegun g.nextRequest authorized w socket], some (.begun g.nextRequest))
    else (g, [.streamReleasing w], none)
  | .streamBegun request authorized w socket =>
    let context : StreamContext :=
      { request, sessionGeneration := authorized, workerGeneration := w }
    if ok then (g, [.streamContext context socket], none) else (g, [.streamFailed context], none)
  | .streamContext context socket =>
    let r := g.lifecycle.attachSocket context.workerGeneration socket
    ({ g with lifecycle := r.2 },
      [if r.1 then .streamAttached context else .streamFailed context], none)
  | .streamAttached context =>
    (g, [if ok then .worker context 0 .check else .streamFailed context], none)
  | .streamFailed context =>
    let (context, g, output) := g.completeStreamContext context
    (g, [.streamReleasing context.workerGeneration], output)
  | .streamReleasing w =>
    let r := g.completeWorker w
    (r.1, [], r.2)
  | .worker context iteration step => g.advanceWorker context iteration ok step
  | .stop step => g.advanceStop others ok step

/-- What an event does. The service is started while no caller is in the middle of
stopping it; requests reach the handlers only while the server task runs. -/
def outside (g : StreamService) (tasks : List StreamTask) (event : StreamEvent) :
    StreamService × List StreamTask × Option StreamOutput :=
  match event with
  | .start =>
    if g.server || tasks.any StreamTask.isStopping then (g, [], none)
    else ({ g with lifecycle := .init, server := true, httpd := true }, [], none)
  | .login sessionSeconds => (g, if g.httpd then [.login sessionSeconds] else [], none)
  | .logout => (g, if g.httpd then [.logout] else [], none)
  | .streamRequest generation socket =>
    (g, if g.httpd then [.streamRequested generation socket] else [], none)
  | .stopCall => (g, [.stop .entry], none)
  | .elapse ms => ({ g with nowMs := g.nowMs + ms }, [], none)

/-- The tasks of the service. -/
def tasks : Threads StreamService StreamTask Bool StreamEvent StreamOutput where
  advance := advance
  outside := outside

/-- The service before its first start. -/
def initial : StreamService × List StreamTask := ({}, [])

end StreamService
end EdgeMonitor.Firmware
