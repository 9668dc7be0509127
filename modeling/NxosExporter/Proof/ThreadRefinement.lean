import NxosExporter.IoService
import NxosExporter.Lib.Simulation
import NxosExporter.Proof.Stop

/-!
# The threads refine the pool

Seen from the counters, the threads with their tasks are the pool of `NXOSHttpClientImpl`: a call and a step of a
worker are the same there, the wait is over when the caller has passed its condition or joined the threads, and
what the I/O service does in between does not show.
-/

namespace NxosExporter

open Transition

variable {τ : Type} {client client' : ClientThreads τ} {action : ThreadsAction τ}
  {actions : List (ThreadsAction τ)}

def WorkerStage.phase : WorkerStage τ → WorkerPhase
  | readState => .readState
  | enterRun => .enterRun
  | inRun | inTask _ | leaveRun => .inRun
  | exit => .exit
  | exited => .exited

def CallerStage.waiting : CallerStage τ → Option ThreadState
  | idle => none
  | polling | inTask _ | joining => some .stopped
  | checking state | asleep state | notified state => some state

@[simp]
theorem CallerStage.waiting_notify (caller : CallerStage τ) : caller.notify.waiting = caller.waiting := by
  cases caller <;> rfl

namespace ClientThreads

/-- The pool without the I/O service. -/
def impl (client : ClientThreads τ) : NXOSHttpClientImpl where
  poolSize := client.poolSize
  threadPool := client.threadPool.map WorkerStage.phase
  runningThreads := client.runningThreads
  exitedThreads := client.exitedThreads
  threadsState := client.threadsState
  waiting := client.caller.waiting
  destroyed := client.destroyed

/-- What a step of the threads is for the pool. -/
def poolActions (client : ClientThreads τ) : ThreadsAction τ → List PoolAction
  | .call clientCall => [.call clientCall]
  | .check =>
      match client.caller with
      | .checking .running => if client.waitsFor .running then [.wake] else []
      | _ => []
  | .join => [.wake]
  | .worker i =>
      match client.threadPool[i]? with
      | some .readState | some .enterRun | some .leaveRun | some .exit => [.worker i]
      | some .inRun | some (.inTask _) | some .exited | none => []
  | .post _ | .poll | .polled _ _ | .wake | .spurious | .workerDone _ _ _ => []

/-- The caller joins the threads when it has counted all of them out. -/
def CountedOut (client : ClientThreads τ) : Prop :=
  client.caller = .joining → client.exitedThreads = client.threadPool.length

theorem set_map_phase {i : Nat} {stage : WorkerStage τ} (hstage : client.threadPool[i]? = some stage)
    {stage' : WorkerStage τ} (hphase : stage'.phase = stage.phase) :
    (client.threadPool.set i stage').map WorkerStage.phase = client.threadPool.map WorkerStage.phase := by
  have hmap : (client.threadPool.map WorkerStage.phase)[i]? = some stage.phase := by
    rw [List.getElem?_map, hstage, Option.map_some]
  obtain ⟨hlength, hget⟩ := List.getElem?_eq_some_iff.mp hmap
  rw [List.map_set, hphase, ← hget]
  exact List.set_getElem_self hlength

theorem impl_call (clientCall : ClientCall) (client : ClientThreads τ) :
    (client.call clientCall).impl = client.impl.call clientCall := by
  have hstopped : (if client.stopped then CallerStage.checking .stopped else .polling : CallerStage τ).waiting
      = some .stopped := by split <;> rfl
  cases clientCall with
  | startClient =>
      simp [call, setThreadsState, impl, NXOSHttpClientImpl.call, NXOSHttpClientImpl.setThreadsState,
        CallerStage.waiting, WorkerStage.phase]
  | stopClient =>
      simp [call, setThreadsState, impl, NXOSHttpClientImpl.call, NXOSHttpClientImpl.setThreadsState, hstopped]
  | destroy =>
      simp [call, setThreadsState, impl, NXOSHttpClientImpl.call, NXOSHttpClientImpl.setThreadsState, hstopped]

theorem getElem?_impl {i : Nat} {stage : WorkerStage τ} (hstage : client.threadPool[i]? = some stage) :
    client.impl.threadPool[i]? = some stage.phase := by
  simp [impl, hstage]

theorem notifyIf_impl (reached : Bool) : (client.notifyIf reached).impl = client.impl := by
  cases reached <;> simp [notifyIf, impl]

theorem setWorker_impl (i : Nat) (stage : WorkerStage τ) :
    (client.setWorker i stage).impl
      = { client.impl with threadPool := client.impl.threadPool.set i stage.phase } := by
  simp [setWorker, impl, List.map_set]

theorem enter_impl (i : Nat) :
    (client.enter i).impl = { client.impl with
      threadPool := client.impl.threadPool.set i .inRun
      runningThreads := client.impl.runningThreads + 1 } := by
  rw [enter, notifyIf_impl]
  simp [setWorker, impl, List.map_set, WorkerStage.phase]

theorem leaveLoop_impl (i : Nat) :
    (client.leaveLoop i).impl = { client.impl with
      threadPool := client.impl.threadPool.set i .exited
      exitedThreads := client.impl.exitedThreads + 1 } := by
  rw [leaveLoop, notifyIf_impl]
  simp [setWorker, impl, List.map_set, WorkerStage.phase]

theorem comeBack_impl (i : Nat) :
    (client.comeBack i).impl = { client.impl with
      threadPool := client.impl.threadPool.set i .readState
      runningThreads := client.impl.runningThreads - 1 } := by
  simp [comeBack, setWorker, impl, List.map_set, WorkerStage.phase]

theorem threadLoop_of_workerStep {pool pool' : NXOSHttpClientImpl} {i : Nat} (hstep : WorkerStep pool i pool') :
    pool.threadLoop i = some pool' := by
  cases hstep with
  | goOn hphase hstate => simp [NXOSHttpClientImpl.threadLoop, hphase, hstate]
  | giveUp hphase hstate => simp [NXOSHttpClientImpl.threadLoop, hphase, hstate]
  | enter hphase => simp [NXOSHttpClientImpl.threadLoop, hphase]
  | comeBack hphase => simp [NXOSHttpClientImpl.threadLoop, hphase]
  | finish hphase => simp [NXOSHttpClientImpl.threadLoop, hphase]

/-- A worker that begins a task or leaves it is within `run` all the time. -/
theorem setWorker_impl_of_inRun {i : Nat} {stage stage' : WorkerStage τ}
    (hstage : client.threadPool[i]? = some stage) (hphase : stage'.phase = stage.phase) :
    (client.setWorker i stage').impl = client.impl := by
  have hpool := set_map_phase hstage hphase
  simp only [impl, setWorker, hpool]

theorem simulates_worker {i : Nat} (hworker : WorkerCases client i client') :
    Run NXOSHttpClientImpl.step client.impl (client.poolActions (.worker i)) client'.impl := by
  have hsingle : ∀ {pool}, WorkerStep client.impl i pool →
      Run NXOSHttpClientImpl.step client.impl [.worker i] pool :=
    fun hstep => .single trivial (threadLoop_of_workerStep hstep)
  cases hworker with
  | goOn hstage hstate =>
      simp only [poolActions, hstage]
      rw [setWorker_impl]
      exact hsingle (.goOn (getElem?_impl hstage) hstate)
  | giveUp hstage hstate =>
      simp only [poolActions, hstage]
      rw [setWorker_impl]
      exact hsingle (.giveUp (getElem?_impl hstage) hstate)
  | enter hstage _ =>
      simp only [poolActions, hstage]
      rw [enter_impl]
      exact hsingle (.enter (getElem?_impl hstage))
  | leaveRun hstage _ =>
      simp only [poolActions, hstage]
      have hsame : (client.setWorker i .leaveRun).impl = client.impl := setWorker_impl_of_inRun hstage rfl
      rw [hsame]
      exact .nil _
  | takeTask task rest hstage _ _ =>
      simp only [poolActions, hstage]
      have hsame : (client.setWorker i (.inTask task)).impl = client.impl := setWorker_impl_of_inRun hstage rfl
      exact hsame ▸ .nil _
  | comeBack hstage _ =>
      simp only [poolActions, hstage]
      rw [comeBack_impl]
      exact hsingle (.comeBack (getElem?_impl hstage))
  | leaveLoop hstage _ =>
      simp only [poolActions, hstage]
      rw [leaveLoop_impl]
      exact hsingle (.finish (getElem?_impl hstage))

theorem simulates_step (hcounted : client.CountedOut) (hstep : client.step action = some client') :
    Run NXOSHttpClientImpl.step client.impl (client.poolActions action) client'.impl := by
  cases step_cases hstep with
  | post task => exact .nil _
  | call clientCall hcaller hdestroyed =>
      refine .single trivial ?_
      rw [impl_call]
      simp [NXOSHttpClientImpl.step, impl, hcaller, hdestroyed, CallerStage.waiting]
  | pollTask task rest hcaller _ =>
      have hsame : (client.pollTask task rest).impl = client.impl := by
        simp [pollTask, impl, hcaller, CallerStage.waiting]
      exact hsame ▸ .nil _
  | pollEnd hcaller _ =>
      have hsame : client.stopService.impl = client.impl := by
        simp [stopService, impl, hcaller, CallerStage.waiting]
      exact hsame ▸ .nil _
  | polled task posted raises hcaller =>
      have hsame : (client.polled posted raises).impl = client.impl := by
        cases raises <;> simp [polled, ClientThreads.post, stopService, impl, hcaller, CallerStage.waiting]
      exact hsame ▸ .nil _
  | pass state hcaller hwaits =>
      cases state with
      | running =>
          simp only [poolActions, hcaller, hwaits, if_true]
          refine .single trivial ?_
          have hcondition : client.runningThreads = client.threadPool.length := hwaits
          simp [NXOSHttpClientImpl.step, NXOSHttpClientImpl.wake, impl, afterWait, hcaller, CallerStage.waiting,
            hcondition]
      | stopped =>
          have hsame : (client.afterWait .stopped).impl = client.impl := by
            simp [afterWait, impl, hcaller, CallerStage.waiting]
          simp only [poolActions, hcaller]
          exact hsame ▸ .nil _
  | sleep state hcaller hwaits =>
      have hsame : ({ client with caller := .asleep state } : ClientThreads τ).impl = client.impl := by
        simp [impl, hcaller, CallerStage.waiting]
      cases state with
      | running =>
          simp only [poolActions, hcaller, hwaits, if_false]
          exact hsame ▸ .nil _
      | stopped =>
          simp only [poolActions, hcaller]
          exact hsame ▸ .nil _
  | wake state hcaller =>
      have hsame : ({ client with caller := .checking state } : ClientThreads τ).impl = client.impl := by
        simp [impl, hcaller, CallerStage.waiting]
      exact hsame ▸ .nil _
  | spurious state hcaller =>
      have hsame : ({ client with caller := .checking state } : ClientThreads τ).impl = client.impl := by
        simp [impl, hcaller, CallerStage.waiting]
      exact hsame ▸ .nil _
  | join hcaller hexited =>
      refine .single trivial ?_
      have hcount : client.exitedThreads = client.threadPool.length := hcounted hcaller
      have hphases : ∀ stage ∈ client.threadPool, stage.phase = .exited := by
        intro stage hmem
        rw [hexited stage hmem]
        rfl
      simp [NXOSHttpClientImpl.step, NXOSHttpClientImpl.wake, impl, ClientThreads.join, hcaller,
        CallerStage.waiting, hcount]
      exact hphases
  | worker i hworker => exact simulates_worker hworker
  | workerDone i task posted raises hstage =>
      have hphase : (if raises then WorkerStage.leaveRun else .inRun : WorkerStage τ).phase
          = (WorkerStage.inTask task).phase := by
        cases raises <;> rfl
      have hsame : (client.setWorker i (if raises then .leaveRun else .inRun)).impl = client.impl :=
        setWorker_impl_of_inRun hstage hphase
      exact hsame ▸ .nil _

/-- While the caller joins, the mutex keeps the counter as it was. -/
theorem countedOut_step (hcounted : client.CountedOut) (hstep : client.step action = some client') :
    client'.CountedOut := by
  intro hjoining
  cases step_cases hstep with
  | post task => exact hcounted hjoining
  | call clientCall hcaller _ =>
      cases clientCall <;> simp [call, setThreadsState] at hjoining <;> split at hjoining <;> cases hjoining
  | pollTask task rest _ _ => cases hjoining
  | pollEnd _ _ => cases hjoining
  | polled task posted raises _ => cases raises <;> cases hjoining
  | pass state hcaller hwaits =>
      cases state with
      | running => cases hjoining
      | stopped => exact hwaits
  | sleep state _ _ => cases hjoining
  | wake state _ => cases hjoining
  | spurious state _ => cases hjoining
  | join _ _ => cases hjoining
  | worker i hworker =>
      have hcaller : client.caller = .joining := by
        obtain heq | heq := worker_caller hworker
        · exact heq ▸ hjoining
        · rw [heq] at hjoining
          cases hcaller : client.caller <;> simp [hcaller, CallerStage.notify] at hjoining
          rfl
      have hcount := hcounted hcaller
      cases hworker with
      | goOn _ _ => simpa [setWorker] using hcount
      | giveUp _ _ => simpa [setWorker] using hcount
      | enter _ hmutex => simp [hcaller, CallerStage.holdsMutex] at hmutex
      | leaveRun _ _ => simpa [setWorker] using hcount
      | takeTask task rest _ _ _ => simpa [takeTask, setWorker] using hcount
      | comeBack _ hmutex => simp [hcaller, CallerStage.holdsMutex] at hmutex
      | leaveLoop _ hmutex => simp [hcaller, CallerStage.holdsMutex] at hmutex
  | workerDone i task posted raises hstage =>
      have hcount := hcounted hjoining
      simpa [workerDone, setWorker, ClientThreads.post] using hcount

theorem countedOut_run {poolSize : Nat} (hrun : Run step (create poolSize) actions client) : client.CountedOut :=
  hrun.invariant CountedOut nofun fun _ _ _ _ hstep hcounted => countedOut_step hcounted hstep

/-- **Refinement.** A run of the threads and their I/O service is a run of the pool. -/
theorem threads_refine_pool {poolSize : Nat} (hrun : Run step (create poolSize) actions client) :
    Run NXOSHttpClientImpl.step (.create poolSize)
      (observe step poolActions (create poolSize : ClientThreads τ) actions) client.impl :=
  hrun.simulates impl CountedOut nofun (fun _ _ _ _ hstep hcounted => countedOut_step hcounted hstep)
    fun _ _ _ _ hstep hcounted => simulates_step hcounted hstep

/-- A client of one thread that is started; the caller looks once before the thread runs. -/
def startedOnce : List (ThreadsAction Nat) :=
  [.call .startClient, .worker 0, .check, .worker 0, .wake, .check]

theorem threads_refine_pool_startedOnce :
    ∃ client, Run NXOSHttpClientImpl.step (.create 1) [.call .startClient, .worker 0, .worker 0, .wake] client ∧
      client.threadPool = [.inRun] ∧ client.waiting = none := by
  have hrun : Run step (create 1) startedOnce ((replay step (create 1) startedOnce).getD (create 1)) :=
    run_of_replay rfl
  exact ⟨_, threads_refine_pool hrun, rfl, rfl⟩

end ClientThreads

end NxosExporter
