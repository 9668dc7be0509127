import Mathlib.Algebra.Ring.Nat
import Mathlib.Data.List.Perm.Basic
import NxosExporter.Proof.TaskOrder
import NxosExporter.Proof.ThreadRefinement

/-!
# A call that is pending

While the caller sleeps, what it waits for does not hold: the step that makes it hold notifies the caller. So as
long as no stop of a started client directly follows another, a pending call always has a way to return that needs
no task to be posted and none to raise.
-/

namespace NxosExporter

open Transition

variable {τ : Type} {client client' : ClientThreads τ} {action : ThreadsAction τ}
  {actions : List (ThreadsAction τ)}

namespace ClientThreads

/-- What the counters, the flags and the caller have to do with each other. -/
structure Sound (client : ClientThreads τ) : Prop where
  running : client.runningThreads = client.impl.threadPool.count .inRun
  length : client.threadPool.length ≤ client.poolSize
  filled : client.caller.waiting = some .running → client.threadPool.length = client.poolSize
  state : ∀ state, client.caller.waiting = some state → client.threadsState = state
  stopped : client.caller.waiting = some .stopped → client.caller.polls = false → client.stopped = true
  asleep : ∀ state, client.caller = .asleep state → ¬ client.waitsFor state

theorem worker_waiting {i : Nat} (hworker : WorkerCases client i client') :
    client'.caller.waiting = client.caller.waiting :=
  worker_of_notify CallerStage.waiting_notify hworker

theorem worker_frame {i : Nat} (hworker : WorkerCases client i client') :
    client'.poolSize = client.poolSize ∧ client'.threadsState = client.threadsState ∧
      client'.threadPool.length = client.threadPool.length := by
  cases hworker with
  | goOn _ _ => exact ⟨rfl, rfl, List.length_set⟩
  | giveUp _ _ => exact ⟨rfl, rfl, List.length_set⟩
  | enter _ _ => exact ⟨rfl, rfl, List.length_set⟩
  | leaveRun _ _ => exact ⟨rfl, rfl, List.length_set⟩
  | takeTask task rest _ _ _ => exact ⟨rfl, rfl, List.length_set⟩
  | comeBack _ _ => exact ⟨rfl, rfl, List.length_set⟩
  | leaveLoop _ _ => exact ⟨rfl, rfl, List.length_set⟩

/-- The counter follows the workers that are in `run`. -/
theorem running_worker {i : Nat} (hworker : WorkerCases client i client')
    (hrunning : client.runningThreads = client.impl.threadPool.count .inRun) :
    client'.runningThreads = client'.impl.threadPool.count .inRun := by
  cases hworker with
  | goOn hstage _ =>
      rw [setWorker_impl, count_set_phase (getElem?_impl hstage)]
      simpa [setWorker, WorkerStage.phase] using hrunning
  | giveUp hstage _ =>
      rw [setWorker_impl, count_set_phase (getElem?_impl hstage)]
      simpa [setWorker, WorkerStage.phase] using hrunning
  | enter hstage _ =>
      rw [enter_impl, count_set_phase (getElem?_impl hstage)]
      simp [enter, notifyIf, WorkerStage.phase, hrunning]
  | leaveRun hstage _ =>
      rw [setWorker_impl, count_set_phase (getElem?_impl hstage)]
      simpa [setWorker, WorkerStage.phase] using hrunning
  | takeTask task rest hstage _ _ =>
      have hsame : (client.takeTask i task rest).impl = client.impl := setWorker_impl_of_inRun hstage rfl
      rw [hsame]
      exact hrunning
  | comeBack hstage _ =>
      rw [comeBack_impl, count_set_phase (getElem?_impl hstage)]
      simp [comeBack, setWorker, WorkerStage.phase, hrunning]
  | leaveLoop hstage _ =>
      rw [leaveLoop_impl, count_set_phase (getElem?_impl hstage)]
      simpa [leaveLoop, notifyIf, setWorker, WorkerStage.phase] using hrunning

/-- A worker that brings about what the caller waits for notifies it. -/
theorem asleep_worker {i : Nat} (hworker : WorkerCases client i client') (hsound : client.Sound)
    {state : ThreadState} (hasleep : client'.caller = .asleep state) : ¬ client'.waitsFor state := by
  have hcaller : client.caller = .asleep state := by
    obtain heq | heq := worker_caller hworker
    · exact heq ▸ hasleep
    · rw [heq] at hasleep
      cases hcaller : client.caller <;> simp [hcaller, CallerStage.notify] at hasleep
  have hwaits := hsound.asleep state hcaller
  have hlength := (worker_frame hworker).2.2
  have hsame : client'.runningThreads = client.runningThreads → client'.exitedThreads = client.exitedThreads →
      ¬ client'.waitsFor state := by
    intro hrunning hexited
    cases state with
    | running => simpa [waitsFor, hrunning, hlength] using hwaits
    | stopped => simpa [waitsFor, hexited, hlength] using hwaits
  cases hworker with
  | goOn _ _ => exact hsame rfl rfl
  | giveUp _ _ => exact hsame rfl rfl
  | enter hstage _ =>
      have hnot : client.runningThreads + 1 ≠ client.poolSize := by
        intro hreached
        simp [enter, notifyIf, hreached, hcaller, CallerStage.notify, setWorker] at hasleep
      cases state with
      | running =>
          have hfilled := hsound.filled (by rw [hcaller]; rfl)
          intro hnow
          have hall : client.runningThreads + 1 = ((client.enter i).threadPool.length : Int) := hnow
          rw [hlength, hfilled] at hall
          exact hnot hall
      | stopped => simpa [waitsFor, enter, notifyIf, setWorker] using hwaits
  | leaveRun _ _ => exact hsame rfl rfl
  | takeTask task rest _ _ _ => exact hsame rfl rfl
  | comeBack hstage _ =>
      cases state with
      | running =>
          have hbound : client.impl.threadPool.count .inRun ≤ client.impl.threadPool.length :=
            List.count_le_length
          have hmap : client.impl.threadPool.length = client.threadPool.length := List.length_map _
          have hrunning := hsound.running
          intro hnow
          have hall : client.runningThreads - 1 = ((client.comeBack i).threadPool.length : Int) := hnow
          omega
      | stopped => simpa [waitsFor, comeBack, setWorker] using hwaits
  | leaveLoop hstage _ =>
      have hnot : client.exitedThreads + 1 ≠ client.threadPool.length := by
        intro hreached
        simp [leaveLoop, notifyIf, hreached, hcaller, CallerStage.notify, setWorker] at hasleep
      cases state with
      | running => simpa [waitsFor, leaveLoop, notifyIf, setWorker] using hwaits
      | stopped =>
          intro hnow
          have hall : client.exitedThreads + 1 = ((client.leaveLoop i).threadPool.length : Int) := hnow
          rw [hlength] at hall
          exact hnot hall

theorem sound_worker {i : Nat} (hworker : WorkerCases client i client') (hsound : client.Sound) :
    client'.Sound := by
  obtain ⟨hsize, hstate, hlength⟩ := worker_frame hworker
  have hwaiting := worker_waiting hworker
  refine ⟨running_worker hworker hsound.running, ?_, fun hwaits => ?_, fun state hwaits => ?_,
    fun hwaits hpolls => ?_, fun state hasleep => asleep_worker hworker hsound hasleep⟩
  · rw [hsize, hlength]
    exact hsound.length
  · rw [hsize, hlength]
    exact hsound.filled (hwaiting ▸ hwaits)
  · rw [hstate]
    exact hsound.state state (hwaiting ▸ hwaits)
  · rw [worker_stopped hworker]
    exact hsound.stopped (hwaiting ▸ hwaits) (worker_polls hworker ▸ hpolls)

theorem sound_start (hsound : client.Sound) : (client.setThreadsState .running).Sound := by
  have hlength : (client.setThreadsState .running).threadPool.length = client.poolSize := by
    have hbound := hsound.length
    simp only [setThreadsState, List.length_append, List.length_replicate]
    omega
  refine ⟨?_, Nat.le_of_eq hlength, fun _ => hlength, fun state hwaits => Option.some.inj hwaits, ?stopped, ?asleep⟩
  case stopped =>
    intro hstopping
    cases hstopping
  case asleep =>
    intro state hasleep
    cases hasleep
  have hcount : (List.replicate (client.poolSize - client.threadPool.length) WorkerPhase.readState).count .inRun
      = 0 := by
    rw [List.count_replicate]
    rfl
  have hpool : (client.setThreadsState .running).impl.threadPool = client.impl.threadPool
      ++ List.replicate (client.poolSize - client.threadPool.length) .readState := by
    simp [setThreadsState, impl, WorkerStage.phase]
  rw [hpool, List.count_append, hcount, Nat.add_zero]
  exact hsound.running

theorem sound_stop (hsound : client.Sound) : (client.setThreadsState .stopped).Sound := by
  cases hservice : client.stopped with
  | true =>
      have hcaller : (client.setThreadsState .stopped).caller = .checking .stopped := by
        simp [setThreadsState, hservice]
      refine ⟨hsound.running, hsound.length, ?_, ?_, fun _ _ => hservice, ?_⟩
      · simp [hcaller, CallerStage.waiting]
      · intro state hwaits
        rw [hcaller] at hwaits
        exact Option.some.inj hwaits
      · simp [hcaller]
  | false =>
      have hcaller : (client.setThreadsState .stopped).caller = .polling := by simp [setThreadsState, hservice]
      refine ⟨hsound.running, hsound.length, ?_, ?_, ?_, ?_⟩
      · simp [hcaller, CallerStage.waiting]
      · intro state hwaits
        rw [hcaller] at hwaits
        exact Option.some.inj hwaits
      · simp [hcaller, CallerStage.polls]
      · simp [hcaller]

theorem sound_call (clientCall : ClientCall) (hsound : client.Sound) : (client.call clientCall).Sound := by
  cases clientCall with
  | startClient => exact sound_start hsound
  | stopClient => exact sound_stop hsound
  | destroy =>
      obtain ⟨hrunning, hlength, hfilled, hstate, hstopped, hasleep⟩ := sound_stop hsound
      exact ⟨hrunning, hlength, hfilled, hstate, hstopped, hasleep⟩

theorem sound_join (hexited : ∀ stage ∈ client.threadPool, stage = .exited) (hsound : client.Sound) :
    client.join.Sound := by
  have hnone : client.impl.threadPool.count .inRun = 0 := by
    refine List.count_eq_zero.mpr fun hmem => ?_
    obtain ⟨stage, hstage, hphase⟩ := List.mem_map.mp hmem
    rw [hexited stage hstage] at hphase
    cases hphase
  have hrunning : client.runningThreads = 0 := by
    rw [hsound.running, hnone]
    rfl
  exact ⟨hrunning, Nat.zero_le _, nofun, nofun, nofun, nofun⟩

theorem sound_workerDone {i : Nat} {task : τ} {posted : List τ} {raises : Bool}
    (hstage : client.threadPool[i]? = some (.inTask task)) (hsound : client.Sound) :
    (client.workerDone i posted raises).Sound := by
  have hphase : (if raises then WorkerStage.leaveRun else .inRun : WorkerStage τ).phase
      = (WorkerStage.inTask task).phase := by cases raises <;> rfl
  have hsame : (client.workerDone i posted raises).impl = client.impl := setWorker_impl_of_inRun hstage hphase
  have hlength : (client.workerDone i posted raises).threadPool.length = client.threadPool.length :=
    List.length_set
  refine ⟨?_, hlength ▸ hsound.length, fun hwaits => hlength ▸ hsound.filled hwaits, hsound.state, hsound.stopped,
    fun state hasleep => ?_⟩
  · rw [hsame]
    exact hsound.running
  · have hwaits := hsound.asleep state hasleep
    cases state with
    | running =>
        have hsame : (client.workerDone i posted raises).runningThreads = client.runningThreads := rfl
        simpa [waitsFor, hlength, hsame] using hwaits
    | stopped =>
        have hsame : (client.workerDone i posted raises).exitedThreads = client.exitedThreads := rfl
        simpa [waitsFor, hlength, hsame] using hwaits

theorem sound_step (hstep : client.step action = some client') (hsound : client.Sound) : client'.Sound := by
  have hparts := hsound
  obtain ⟨hrunning, hlength, hfilled, hstate, hstopped, hasleep⟩ := hparts
  cases step_cases hstep with
  | post task => exact ⟨hrunning, hlength, hfilled, hstate, hstopped, hasleep⟩
  | call clientCall _ _ => exact sound_call clientCall hsound
  | pollTask task rest hcaller _ =>
      rw [hcaller] at hstate
      exact ⟨hrunning, hlength, nofun, hstate, nofun, nofun⟩
  | pollEnd hcaller _ =>
      rw [hcaller] at hstate
      exact ⟨hrunning, hlength, nofun, hstate, fun _ _ => rfl, nofun⟩
  | polled task posted raises hcaller =>
      rw [hcaller] at hstate
      cases raises with
      | true => exact ⟨hrunning, hlength, nofun, hstate, fun _ _ => rfl, nofun⟩
      | false => exact ⟨hrunning, hlength, nofun, hstate, nofun, nofun⟩
  | pass state hcaller _ =>
      rw [hcaller] at hstate hstopped
      cases state with
      | running => exact ⟨hrunning, hlength, nofun, nofun, nofun, nofun⟩
      | stopped => exact ⟨hrunning, hlength, nofun, hstate, hstopped, nofun⟩
  | sleep state hcaller hwaits =>
      rw [hcaller] at hfilled hstate hstopped
      refine ⟨hrunning, hlength, hfilled, hstate, hstopped, fun other hother => ?_⟩
      obtain rfl := CallerStage.asleep.inj hother
      exact hwaits
  | wake state hcaller =>
      rw [hcaller] at hfilled hstate hstopped
      exact ⟨hrunning, hlength, hfilled, hstate, hstopped, nofun⟩
  | spurious state hcaller =>
      rw [hcaller] at hfilled hstate hstopped
      exact ⟨hrunning, hlength, hfilled, hstate, hstopped, nofun⟩
  | join _ hexited => exact sound_join hexited hsound
  | worker i hworker => exact sound_worker hworker hsound
  | workerDone i task posted raises hstage => exact sound_workerDone hstage hsound

theorem sound_create (poolSize : Nat) : (create poolSize : ClientThreads τ).Sound :=
  ⟨rfl, Nat.zero_le _, nofun, nofun, nofun, nofun⟩

/-- **No lost wakeup.** In every run, while the caller sleeps and nothing has notified it, what it waits for does not
hold. -/
theorem not_waitsFor_of_asleep {poolSize : Nat} {state : ThreadState}
    (hrun : Run step (create poolSize) actions client) (hasleep : client.caller = .asleep state) :
    ¬ client.waitsFor state := by
  have hsound : client.Sound :=
    hrun.invariant Sound (sound_create poolSize) fun _ _ _ _ hstep hmid => sound_step hstep hmid
  exact hsound.asleep state hasleep

/-! ### Returning -/

/-- No new call, tasks that neither post nor raise, and no wakeup without a notification. -/
def Helpful : ThreadsAction τ → Prop
  | .call _ | .post _ | .spurious => False
  | .polled posted raises | .workerDone _ posted raises => posted = [] ∧ raises = false
  | .poll | .check | .wake | .join | .worker _ => True

end ClientThreads

/-- How far a worker is from where the transition wants it: in `run`, or out of the loop. -/
def WorkerStage.rank : ThreadState → WorkerStage τ → Nat
  | .running, leaveRun => 3
  | .running, readState => 2
  | .running, enterRun => 1
  | .running, inRun | .running, inTask _ | .running, exit | .running, exited => 0
  | .stopped, enterRun | .stopped, inTask _ => 5
  | .stopped, inRun => 4
  | .stopped, leaveRun => 3
  | .stopped, readState => 2
  | .stopped, exit => 1
  | .stopped, exited => 0

def CallerStage.rank : CallerStage τ → Nat
  | inTask _ => 4
  | polling | notified _ => 3
  | checking _ => 2
  | joining => 1
  | idle | asleep _ => 0

namespace ClientThreads

/-- A worker that comes closer may notify the caller, which puts the caller three steps back. -/
def effort (client : ClientThreads τ) : Nat :=
  2 * client.tasks.length + client.caller.rank
    + 4 * (client.threadPool.map (WorkerStage.rank client.threadsState)).sum

theorem sum_map_set {α : Type} {items : List α} {i : Nat} {item : α} (hitem : items[i]? = some item)
    (f : α → Nat) (item' : α) : ((items.set i item').map f).sum + f item = (items.map f).sum + f item' := by
  obtain ⟨hlength, rfl⟩ := List.getElem?_eq_some_iff.mp hitem
  have hafter : ((items.set i item').map f).sum = f item' + ((items.eraseIdx i).map f).sum :=
    ((List.set_perm_cons_eraseIdx hlength item').map f).sum_nat
  have hbefore : f items[i] + ((items.eraseIdx i).map f).sum = (items.map f).sum :=
    ((List.getElem_cons_eraseIdx_perm hlength).map f).sum_nat
  omega

theorem rank_notify_le (caller : CallerStage τ) : caller.notify.rank ≤ caller.rank + 3 := by
  cases caller with
  | asleep state => exact Nat.le_refl 3
  | _ => exact Nat.le_add_right _ 3

theorem effort_lt_of_worker {i : Nat} {stage stage' : WorkerStage τ}
    (hstage : client.threadPool[i]? = some stage) (hpool : client'.threadPool = client.threadPool.set i stage')
    (hstate : client'.threadsState = client.threadsState) (htasks : client'.tasks = client.tasks)
    (hcaller : client'.caller = client.caller ∨ client'.caller = client.caller.notify)
    (hless : stage'.rank client.threadsState < stage.rank client.threadsState) : client'.effort < client.effort := by
  have hsum := sum_map_set hstage (WorkerStage.rank client.threadsState) stage'
  have hrank : client'.caller.rank ≤ client.caller.rank + 3 := by
    obtain heq | heq := hcaller
    · rw [heq]
      exact Nat.le_add_right _ 3
    · rw [heq]
      exact rank_notify_le client.caller
  rw [effort, effort, hpool, hstate, htasks]
  omega

/-- A pending call has a helpful step. -/
def CanHelp (client : ClientThreads τ) : Prop :=
  ∃ action client', Helpful action ∧ client.step action = some client' ∧ client'.effort < client.effort

theorem canHelp_of_polling (hcaller : client.caller = .polling) : client.CanHelp := by
  cases htasks : client.tasks with
  | nil =>
      refine ⟨.poll, client.stopService, trivial, by simp [step, hcaller, htasks], ?_⟩
      simp [effort, stopService, hcaller, CallerStage.rank]
  | cons task rest =>
      refine ⟨.poll, client.pollTask task rest, trivial, by simp [step, hcaller, htasks], ?_⟩
      simp only [effort, pollTask, hcaller, htasks, CallerStage.rank, List.length_cons]
      omega

theorem canHelp_of_inTask {task : τ} (hcaller : client.caller = .inTask task) : client.CanHelp := by
  refine ⟨.polled [] false, client.polled [] false, ⟨rfl, rfl⟩, by simp [step, hcaller], ?_⟩
  simp [effort, polled, ClientThreads.post, hcaller, CallerStage.rank]

theorem canHelp_of_checking {state : ThreadState} (hcaller : client.caller = .checking state) :
    client.CanHelp := by
  by_cases hwaits : client.waitsFor state
  · refine ⟨.check, client.afterWait state, trivial, by simp [step, hcaller, hwaits], ?_⟩
    cases state <;> simp [effort, afterWait, hcaller, CallerStage.rank]
  · refine ⟨.check, { client with caller := .asleep state }, trivial, by simp [step, hcaller, hwaits], ?_⟩
    simp [effort, hcaller, CallerStage.rank]

theorem canHelp_of_notified {state : ThreadState} (hcaller : client.caller = .notified state) :
    client.CanHelp := by
  refine ⟨.wake, { client with caller := .checking state }, trivial, by simp [step, hcaller], ?_⟩
  simp [effort, hcaller, CallerStage.rank]

/-- While the caller sleeps the mutex is free, so a worker that has not exited can come closer to it. -/
theorem canHelp_of_worker {i : Nat} {stage : WorkerStage τ} (hstage : client.threadPool[i]? = some stage)
    (hmutex : client.caller.holdsMutex = false) (hstopped : client.threadsState = .stopped → client.stopped = true)
    (hrank : 0 < stage.rank client.threadsState) : client.CanHelp := by
  have hhelp : ∀ {client' : ClientThreads τ} {stage' : WorkerStage τ}, WorkerCases client i client' →
      client.threadLoop i = some client' → client'.threadPool = client.threadPool.set i stage' →
      client'.tasks = client.tasks → stage'.rank client.threadsState < stage.rank client.threadsState →
      client.CanHelp := fun hworker hloop hpool htasks hless =>
    ⟨.worker i, _, trivial, hloop, effort_lt_of_worker hstage hpool (worker_frame hworker).2.1 htasks
      (worker_caller hworker) hless⟩
  cases stage with
  | readState =>
      cases hstate : client.threadsState with
      | running =>
          refine hhelp (.goOn hstage hstate) (by simp [threadLoop, hstage, hstate]) rfl rfl ?_
          rw [hstate]
          exact Nat.lt_succ_self 1
      | stopped =>
          refine hhelp (.giveUp hstage hstate) (by simp [threadLoop, hstage, hstate]) rfl rfl ?_
          rw [hstate]
          exact Nat.lt_succ_self 1
  | enterRun =>
      refine hhelp (.enter hstage hmutex) (by simp [threadLoop, hstage, hmutex]) rfl rfl ?_
      cases client.threadsState <;> simp [WorkerStage.rank]
  | inRun =>
      cases hstate : client.threadsState with
      | running => simp [hstate, WorkerStage.rank] at hrank
      | stopped =>
          have hservice := hstopped hstate
          refine hhelp (.leaveRun hstage hservice) (by simp [threadLoop, hstage, hservice]) rfl rfl ?_
          rw [hstate]
          exact Nat.lt_succ_self 3
  | inTask task =>
      cases hstate : client.threadsState with
      | running => simp [hstate, WorkerStage.rank] at hrank
      | stopped =>
          refine ⟨.workerDone i [] false, client.workerDone i [] false, ⟨rfl, rfl⟩, by simp [step, hstage], ?_⟩
          refine effort_lt_of_worker hstage rfl rfl (List.append_nil _) (.inl rfl) ?_
          rw [hstate]
          exact Nat.lt_succ_self 4
  | leaveRun =>
      refine hhelp (.comeBack hstage hmutex) (by simp [threadLoop, hstage, hmutex]) rfl rfl ?_
      cases client.threadsState <;> simp [WorkerStage.rank]
  | exit =>
      cases hstate : client.threadsState with
      | running => simp [hstate, WorkerStage.rank] at hrank
      | stopped =>
          refine hhelp (.leaveLoop hstage hmutex) (by simp [threadLoop, hstage, hmutex]) rfl rfl ?_
          rw [hstate]
          exact Nat.lt_succ_self 0
  | exited => cases hstate : client.threadsState <;> simp [hstate, WorkerStage.rank] at hrank

/-- A client that was given no threads. -/
structure Unmanned (pool : NXOSHttpClientImpl) : Prop where
  size : pool.poolSize = 0
  threads : pool.threadPool = []
  exited : pool.exitedThreads = 0

/-- The counters are right for what the caller waits for. -/
def Answerable (pool : NXOSHttpClientImpl) : Prop :=
  Unmanned pool ∨ ∃ calls, Situation calls pool

structure Pending (client : ClientThreads τ) : Prop where
  sound : client.Sound
  countedOut : client.CountedOut
  answerable : Answerable client.impl

theorem exited_of_stopping (hanswerable : Answerable client.impl)
    (hwaiting : client.caller.waiting = some .stopped) :
    client.exitedThreads = client.impl.threadPool.count .exited := by
  obtain hunmanned | ⟨calls, hsituation⟩ := hanswerable
  · have hexited : client.exitedThreads = 0 := hunmanned.exited
    rw [hexited, hunmanned.threads]
    rfl
  cases hsituation with
  | fresh _ hfresh =>
      have hexited : client.exitedThreads = 0 := hfresh.exited
      rw [hexited, hfresh.pool]
      rfl
  | started _ hstarted => exact absurd hwaiting hstarted.waiting
  | stopping _ _ _ hstopping => exact hstopping.exited hwaiting

theorem working_of_starting (hanswerable : Answerable client.impl)
    (hwaiting : client.caller.waiting = some .running) :
    ∀ stage ∈ client.threadPool, stage.phase ≠ .exit ∧ stage.phase ≠ .exited := by
  obtain hunmanned | ⟨calls, hsituation⟩ := hanswerable
  · have hpool : client.threadPool = [] := List.map_eq_nil_iff.mp hunmanned.threads
    simp [hpool]
  cases hsituation with
  | fresh _ hfresh => exact absurd hwaiting hfresh.waiting
  | started _ hstarted => exact fun stage hmem => hstarted.working _ (List.mem_map_of_mem hmem)
  | stopping _ _ _ hstopping => exact absurd hwaiting hstopping.waiting

/-- When not all phases are the one that is counted, one is not. -/
theorem exists_phase_ne {phase : WorkerPhase}
    (hcount : (client.impl.threadPool.count phase : Int) ≠ client.threadPool.length) :
    ∃ (i : Nat) (stage : WorkerStage τ), client.threadPool[i]? = some stage ∧ stage.phase ≠ phase := by
  by_contra hall
  push Not at hall
  refine hcount ?_
  have heq : client.impl.threadPool.count phase = client.impl.threadPool.length := by
    refine List.count_eq_length.mpr fun other hmem => ?_
    obtain ⟨stage, hstage, rfl⟩ := List.mem_map.mp hmem
    obtain ⟨i, hget⟩ := List.mem_iff_getElem?.mp hstage
    exact (hall i stage hget).symm
  rw [heq]
  exact congrArg Nat.cast (List.length_map _)

theorem canHelp_of_asleep {state : ThreadState} (hcaller : client.caller = .asleep state)
    (hpending : client.Pending) : client.CanHelp := by
  obtain ⟨hsound, -, hanswerable⟩ := hpending
  have hwaits := hsound.asleep state hcaller
  have hwaiting : client.caller.waiting = some state := by rw [hcaller]; rfl
  have hmutex : client.caller.holdsMutex = false := by rw [hcaller]; rfl
  have hstate := hsound.state state hwaiting
  cases state with
  | running =>
      have hcount : (client.impl.threadPool.count .inRun : Int) ≠ client.threadPool.length :=
        fun hall => hwaits (hsound.running.trans hall)
      obtain ⟨i, stage, hstage, hphase⟩ := exists_phase_ne hcount
      obtain ⟨hexit, hexited⟩ := working_of_starting hanswerable hwaiting stage (List.mem_of_getElem? hstage)
      refine canHelp_of_worker hstage hmutex (fun hstopped => ?_) ?_
      · rw [hstate] at hstopped
        cases hstopped
      · rw [hstate]
        cases stage <;> simp [WorkerStage.phase, WorkerStage.rank] at *
  | stopped =>
      have hcount : (client.impl.threadPool.count .exited : Int) ≠ client.threadPool.length :=
        fun hall => hwaits ((exited_of_stopping hanswerable hwaiting).trans hall)
      obtain ⟨i, stage, hstage, hphase⟩ := exists_phase_ne hcount
      refine canHelp_of_worker hstage hmutex (fun _ => ?_) ?_
      · exact hsound.stopped hwaiting (by rw [hcaller]; rfl)
      · rw [hstate]
        cases stage <;> simp [WorkerStage.phase, WorkerStage.rank] at *

theorem canHelp_of_joining (hcaller : client.caller = .joining) (hpending : client.Pending) : client.CanHelp := by
  obtain ⟨-, hcounted, hanswerable⟩ := hpending
  have hwaiting : client.caller.waiting = some .stopped := by rw [hcaller]; rfl
  have hcount : client.impl.threadPool.count .exited = client.impl.threadPool.length := by
    have hall := hcounted hcaller
    rw [exited_of_stopping hanswerable hwaiting] at hall
    rw [impl, List.length_map]
    exact_mod_cast hall
  have hexited : ∀ stage ∈ client.threadPool, stage = .exited := by
    intro stage hmem
    have hphase := List.count_eq_length.mp hcount stage.phase (List.mem_map_of_mem hmem)
    cases stage <;> simp [WorkerStage.phase] at hphase
    rfl
  have hstep : client.step .join = some client.join := by
    simp only [step, hcaller]
    refine if_pos fun stage hmem => ?_
    rw [hexited stage hmem]
  have htasks : client.join.tasks.length ≤ client.tasks.length := by
    cases hdestroyed : client.destroyed <;> simp [ClientThreads.join, hdestroyed]
  refine ⟨.join, client.join, trivial, hstep, ?_⟩
  have hafter : client.join.effort = 2 * client.join.tasks.length := rfl
  rw [hafter, effort, hcaller, CallerStage.rank]
  omega

theorem idle_or_canHelp (hpending : client.Pending) : client.caller = .idle ∨ client.CanHelp := by
  cases hcaller : client.caller with
  | idle => exact .inl rfl
  | polling => exact .inr (canHelp_of_polling hcaller)
  | inTask task => exact .inr (canHelp_of_inTask hcaller)
  | checking state => exact .inr (canHelp_of_checking hcaller)
  | asleep state => exact .inr (canHelp_of_asleep hcaller hpending)
  | notified state => exact .inr (canHelp_of_notified hcaller)
  | joining => exact .inr (canHelp_of_joining hcaller hpending)

theorem call_of_mem_poolActions {clientCall : ClientCall}
    (hmem : PoolAction.call clientCall ∈ client.poolActions action) : action = .call clientCall := by
  cases action with
  | call other =>
      obtain rfl : clientCall = other := by simpa [poolActions] using hmem
      rfl
  | check =>
      simp only [poolActions] at hmem
      split at hmem
      · split at hmem <;> simp at hmem
      · cases hmem
  | join => simp [poolActions] at hmem
  | worker i =>
      simp only [poolActions] at hmem
      split at hmem <;> simp at hmem
  | _ => cases hmem

theorem Unmanned.step {pool pool' : NXOSHttpClientImpl} {poolAction : PoolAction} (hunmanned : Unmanned pool)
    (hstep : pool.step poolAction = some pool') : Unmanned pool' := by
  obtain ⟨hsize, hpool, hexited⟩ := hunmanned
  refine ⟨(step_poolSize hstep).trans hsize, ?_, ?_⟩
  all_goals
    cases poolAction with
    | call clientCall =>
        simp only [NXOSHttpClientImpl.step, Option.ite_none_right_eq_some, Option.some.injEq] at hstep
        obtain ⟨-, rfl⟩ := hstep
        cases clientCall <;>
          simp [NXOSHttpClientImpl.call, NXOSHttpClientImpl.setThreadsState, hsize, hpool, hexited]
    | wake =>
        simp only [NXOSHttpClientImpl.step, NXOSHttpClientImpl.wake, hpool] at hstep
        split at hstep
        · split at hstep <;> cases hstep
          simp
        · split at hstep <;> cases hstep
          simp [hexited]
        · cases hstep
    | worker i => simp [NXOSHttpClientImpl.step, NXOSHttpClientImpl.threadLoop, hpool] at hstep

/-- A helpful step makes no call, so the situation stays. -/
theorem pending_step (hhelpful : Helpful action) (hstep : client.step action = some client')
    (hpending : client.Pending) : client'.Pending := by
  obtain ⟨hsound, hcounted, hanswerable⟩ := hpending
  refine ⟨sound_step hstep hsound, countedOut_step hcounted hstep, ?_⟩
  have hnone : ∀ clientCall, PoolAction.call clientCall ∉ client.poolActions action := by
    intro clientCall hmem
    have hcalls := call_of_mem_poolActions hmem
    rw [hcalls] at hhelpful
    exact hhelpful
  refine (simulates_step hcounted hstep).and_mem.invariant Answerable hanswerable ?_
  rintro mid poolAction last ⟨-, hmem⟩ hnext (hunmanned | ⟨calls, hsituation⟩)
  · exact .inl (hunmanned.step hnext)
  · cases poolAction with
    | call clientCall => exact absurd hmem (hnone clientCall)
    | wake => exact .inr ⟨calls, hsituation.wake hnext⟩
    | worker i => exact .inr ⟨calls, hsituation.threadLoop hnext⟩

/-- The calls of a run, in order. -/
def clientCalls (actions : List (ThreadsAction τ)) : List ClientCall :=
  actions.filterMap fun
    | .call clientCall => some clientCall
    | _ => none

theorem callsOf_poolActions (client : ClientThreads τ) (action : ThreadsAction τ) :
    callsOf (client.poolActions action) = clientCalls [action] := by
  cases action with
  | call clientCall => rfl
  | check =>
      simp only [poolActions]
      split
      · split <;> rfl
      · rfl
  | worker i =>
      simp only [poolActions]
      split <;> rfl
  | _ => rfl

/-- The pool sees the calls that were made. -/
theorem callsOf_observe {start : ClientThreads τ} (hrun : Run step start actions client) :
    callsOf (observe step poolActions start actions) = clientCalls actions := by
  induction hrun with
  | nil => rfl
  | snoc hrun _ hlast ih =>
      rw [hrun.observe_snoc hlast, callsOf_append, ih, callsOf_poolActions]
      exact List.filterMap_append.symm

/-- The pending call can return, and so can one that has. -/
def CanReturn (client : ClientThreads τ) : Prop :=
  ∃ actions last, RunWhere step (fun _ action => Helpful action) client actions last ∧ last.caller = .idle

theorem Pending.canReturn (hpending : client.Pending) : client.CanReturn := by
  have hprogress : ∀ mid : ClientThreads τ, mid.Pending → mid.caller = .idle ∨
      ∃ action next, Helpful action ∧ mid.step action = some next ∧ next.Pending ∧ next.effort < mid.effort := by
    intro mid hmid
    obtain hidle | ⟨action, next, hhelpful, hstep, hless⟩ := idle_or_canHelp hmid
    · exact .inl hidle
    · exact .inr ⟨action, next, hhelpful, hstep, pending_step hhelpful hstep hmid, hless⟩
  obtain ⟨actions, last, hrun, -, hidle⟩ :=
    exists_run_of_progress Pending (fun mid => mid.caller = .idle) effort hprogress hpending
  exact ⟨actions, last, hrun, hidle⟩

/-- A pool that is stuck stays as it is, and its caller does not come back. -/
theorem not_canReturn_of_stuck (hcounted : client.CountedOut) (hstuck : Stuck client.impl) :
    ¬ client.CanReturn := by
  rintro ⟨actions, last, hrun, hidle⟩
  have hlast : last.CountedOut ∧ last.impl = client.impl := by
    refine hrun.invariant (fun mid => mid.CountedOut ∧ mid.impl = client.impl) ⟨hcounted, rfl⟩ ?_
    rintro mid action next - hstep ⟨hmid, hsame⟩
    refine ⟨countedOut_step hmid hstep, ?_⟩
    refine (simulates_step hmid hstep).invariant (fun pool => pool = client.impl) hsame ?_
    rintro pool poolAction pool' - hpool rfl
    rw [hstuck.step_eq_none] at hpool
    cases hpool
  have hwaiting : last.impl.waiting = none := by
    rw [impl, hidle]
    rfl
  rw [hlast.2, hstuck.waiting] at hwaiting
  cases hwaiting

/-- Where a run can be: what the caller waits for can come about, or it cannot after a stop that directly followed
another. -/
theorem pending_or_stuck {poolSize : Nat} (hrun : Run step (create poolSize) actions client) :
    ((poolSize = 0 ∨ StartBetweenStops (clientCalls actions)) ∧ client.Pending) ∨
      (¬ (poolSize = 0 ∨ StartBetweenStops (clientCalls actions)) ∧ client.CountedOut ∧ Stuck client.impl) := by
  have hcounted : client.CountedOut := countedOut_run hrun
  have hsound : client.Sound :=
    hrun.invariant Sound (sound_create poolSize) fun _ _ _ _ hstep hmid => sound_step hstep hmid
  have hpool : Run NXOSHttpClientImpl.step (.create poolSize)
      (observe step poolActions (create poolSize : ClientThreads τ) actions) client.impl :=
    hrun.simulates impl CountedOut nofun (fun _ _ _ _ hstep hmid => countedOut_step hmid hstep)
      fun _ _ _ _ hstep hmid => simulates_step hmid hstep
  by_cases hsize : poolSize = 0
  · have hunmanned : Unmanned client.impl :=
      hpool.invariant Unmanned ⟨hsize, rfl, rfl⟩ fun _ _ _ _ hstep hmid => hmid.step hstep
    exact .inl ⟨.inl hsize, hsound, hcounted, .inl hunmanned⟩
  · obtain ⟨-, hsituation⟩ := situation_or_stuck hsize hpool
    rw [callsOf_observe hrun] at hsituation
    obtain ⟨hcalls, hsituation⟩ | ⟨hcalls, hstuck⟩ := hsituation
    · exact .inl ⟨.inr hcalls, hsound, hcounted, .inr ⟨_, hsituation⟩⟩
    · exact .inr ⟨not_or.mpr ⟨hsize, hcalls⟩, hcounted, hstuck⟩

/-- **Returning.** In every run the pending call can return, by steps of the threads alone and with tasks that neither
post nor raise, exactly when the client was given no threads or each stop of a started client was followed by a start
before the next stop. -/
theorem canReturn_iff {poolSize : Nat} (hrun : Run step (create poolSize) actions client) :
    client.CanReturn ↔ poolSize = 0 ∨ StartBetweenStops (clientCalls actions) := by
  obtain ⟨hcalls, hpending⟩ | ⟨hcalls, hcounted, hstuck⟩ := pending_or_stuck hrun
  · exact iff_of_true hpending.canReturn hcalls
  · exact iff_of_false (not_canReturn_of_stuck hcounted hstuck) hcalls

/-! The caller of a stop sleeps until the thread that executes a task has come out of its loop. -/

theorem not_waitsFor_of_asleep_stopClient :
    ¬ (threadsAfter (startUp ++ .call .stopClient :: [.poll, .polled [] false, .poll, .check])).waitsFor .stopped := by
  have hrun : Run step (create 1) (startUp ++ .call .stopClient :: [.poll, .polled [] false, .poll, .check])
      (threadsAfter (startUp ++ .call .stopClient :: [.poll, .polled [] false, .poll, .check])) :=
    run_of_replay rfl
  exact not_waitsFor_of_asleep hrun rfl

theorem canReturn_iff_stopClient :
    (threadsAfter (startUp ++ [.call .stopClient])).CanReturn ↔
      1 = 0 ∨ StartBetweenStops (clientCalls (startUp ++ [.call .stopClient])) := by
  have hrun : Run step (create 1) (startUp ++ [.call .stopClient])
      (threadsAfter (startUp ++ [.call .stopClient])) := run_of_replay rfl
  exact canReturn_iff hrun

end ClientThreads

end NxosExporter
