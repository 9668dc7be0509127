import NxosExporter.ThreadPool

/-!
# The threads of the client and their I/O service

The pool of `NXOSHttpClientImpl` with what its I/O service keeps: the tasks that were posted, whether it is
stopped, and the task that each thread executes. The caller of `setThreadsState` holds the mutex while it executes the
tasks that `poll` finds. While it sleeps on `m_cv` a notification wakes it; a wakeup without one is `spurious`.

`IOService` is Kea's. The model assumes of it that it keeps one queue, whose first task goes to whichever thread asks
next; that `run` executes tasks until the service is stopped or one of them raises, and waits for more while there is
none, since the service holds a work guard; that `poll` executes tasks until none is left or one of them raises; that
after `stop` no thread is given a task before `restart`; and that the tasks still queued when the service is destroyed
are never executed.
-/

namespace NxosExporter

inductive WorkerStage (τ : Type) where
  | readState
  | enterRun
  | inRun
  | inTask (task : τ)
  | leaveRun
  | exit
  | exited
  deriving DecidableEq

/-- Where the caller of `setThreadsState` is. -/
inductive CallerStage (τ : Type) where
  | idle
  | polling
  | inTask (task : τ)
  | checking (state : ThreadState)
  | asleep (state : ThreadState)
  | notified (state : ThreadState)
  | joining
  deriving DecidableEq

/-- The mutex is given up during the wait on `m_cv` alone. -/
def CallerStage.holdsMutex {τ : Type} : CallerStage τ → Bool
  | polling | inTask _ | checking _ | joining => true
  | idle | asleep _ | notified _ => false

/-- `m_cv.notify_all` -/
def CallerStage.notify {τ : Type} : CallerStage τ → CallerStage τ
  | asleep state => notified state
  | caller => caller

/-- `tasks` is the queue of the I/O service, `taken` are the tasks that a thread or the caller has begun, in order, and
`dropped` those that went with the service. -/
structure ClientThreads (τ : Type) where
  poolSize : Nat
  threadPool : List (WorkerStage τ)
  runningThreads : Int
  exitedThreads : Int
  threadsState : ThreadState
  caller : CallerStage τ
  destroyed : Bool
  stopped : Bool
  tasks : List τ
  taken : List τ
  dropped : List τ
  deriving DecidableEq

/-- A task that ends may have posted others, and it may raise. -/
inductive ThreadsAction (τ : Type) where
  | post (task : τ)
  | call (call : ClientCall)
  | poll
  | polled (posted : List τ) (raises : Bool)
  | check
  | wake
  | spurious
  | join
  | worker (i : Nat)
  | workerDone (i : Nat) (posted : List τ) (raises : Bool)

namespace ClientThreads

variable {τ : Type}

def create (threadPoolSize : Nat) : ClientThreads τ where
  poolSize := threadPoolSize
  threadPool := []
  runningThreads := 0
  exitedThreads := 0
  threadsState := .stopped
  caller := .idle
  destroyed := false
  stopped := false
  tasks := []
  taken := []
  dropped := []

def post (client : ClientThreads τ) (posted : List τ) : ClientThreads τ :=
  { client with tasks := client.tasks ++ posted }

/-- `setThreadsState`, up to `poll` or the wait. -/
def setThreadsState (client : ClientThreads τ) : ThreadState → ClientThreads τ
  | .running => { client with
      threadsState := .running
      stopped := false
      threadPool := client.threadPool
        ++ List.replicate (client.poolSize - client.threadPool.length) .readState
      caller := .checking .running }
  | .stopped => { client with
      threadsState := .stopped
      caller := if client.stopped then .checking .stopped else .polling }

def call (client : ClientThreads τ) : ClientCall → ClientThreads τ
  | .startClient => client.setThreadsState .running
  | .stopClient => client.setThreadsState .stopped
  | .destroy => { client.setThreadsState .stopped with destroyed := true }

/-! ### The caller -/

def pollTask (client : ClientThreads τ) (task : τ) (rest : List τ) : ClientThreads τ :=
  { client with tasks := rest, taken := client.taken ++ [task], caller := .inTask task }

/-- `m_ioService->stop()`, after which the caller checks the condition of the wait. -/
def stopService (client : ClientThreads τ) : ClientThreads τ :=
  { client with stopped := true, caller := .checking .stopped }

/-- An exception of a task ends `poll`. -/
def polled (client : ClientThreads τ) (posted : List τ) (raises : Bool) : ClientThreads τ :=
  if raises then (client.post posted).stopService else { client.post posted with caller := .polling }

/-- The condition of the wait. -/
def waitsFor (client : ClientThreads τ) : ThreadState → Prop
  | .running => client.runningThreads = client.threadPool.length
  | .stopped => client.exitedThreads = client.threadPool.length

instance (client : ClientThreads τ) : DecidablePred client.waitsFor
  | .running => inferInstanceAs (Decidable (client.runningThreads = client.threadPool.length))
  | .stopped => inferInstanceAs (Decidable (client.exitedThreads = client.threadPool.length))

/-- What follows the wait. -/
def afterWait (client : ClientThreads τ) : ThreadState → ClientThreads τ
  | .running => { client with exitedThreads := 0, caller := .idle }
  | .stopped => { client with caller := .joining }

/-- The threads are joined. After the destructor the I/O service goes with its client. -/
def join (client : ClientThreads τ) : ClientThreads τ :=
  { client with
    threadPool := []
    caller := .idle
    tasks := if client.destroyed then [] else client.tasks
    dropped := if client.destroyed then client.dropped ++ client.tasks else client.dropped }

/-! ### The workers -/

def setWorker (client : ClientThreads τ) (i : Nat) (stage : WorkerStage τ) : ClientThreads τ :=
  { client with threadPool := client.threadPool.set i stage }

def notifyIf (client : ClientThreads τ) (reached : Bool) : ClientThreads τ :=
  { client with caller := if reached then client.caller.notify else client.caller }

def enter (client : ClientThreads τ) (i : Nat) : ClientThreads τ :=
  { client.setWorker i .inRun with runningThreads := client.runningThreads + 1 }.notifyIf
    (client.runningThreads + 1 = client.poolSize)

def takeTask (client : ClientThreads τ) (i : Nat) (task : τ) (rest : List τ) : ClientThreads τ :=
  { client.setWorker i (.inTask task) with tasks := rest, taken := client.taken ++ [task] }

def workerDone (client : ClientThreads τ) (i : Nat) (posted : List τ) (raises : Bool) : ClientThreads τ :=
  (client.post posted).setWorker i (if raises then .leaveRun else .inRun)

def comeBack (client : ClientThreads τ) (i : Nat) : ClientThreads τ :=
  { client.setWorker i .readState with runningThreads := client.runningThreads - 1 }

def leaveLoop (client : ClientThreads τ) (i : Nat) : ClientThreads τ :=
  { client.setWorker i .exited with exitedThreads := client.exitedThreads + 1 }.notifyIf
    (client.exitedThreads + 1 = client.threadPool.length)

/-- `threadLoop`; a change of a counter needs the mutex. -/
def threadLoop (client : ClientThreads τ) (i : Nat) : Option (ClientThreads τ) :=
  match client.threadPool[i]? with
  | some .readState =>
      match client.threadsState with
      | .running => some (client.setWorker i .enterRun)
      | .stopped => some (client.setWorker i .exit)
  | some .enterRun => if client.caller.holdsMutex then none else some (client.enter i)
  | some .inRun =>
      if client.stopped then
        some (client.setWorker i .leaveRun)
      else
        match client.tasks with
        | task :: rest => some (client.takeTask i task rest)
        | [] => none
  | some .leaveRun => if client.caller.holdsMutex then none else some (client.comeBack i)
  | some .exit => if client.caller.holdsMutex then none else some (client.leaveLoop i)
  | some (.inTask _) | some .exited | none => none

def step (client : ClientThreads τ) : ThreadsAction τ → Option (ClientThreads τ)
  | .post task => if client.destroyed then none else some (client.post [task])
  | .call clientCall =>
      match client.caller with
      | .idle => if client.destroyed then none else some (client.call clientCall)
      | _ => none
  | .poll =>
      match client.caller, client.tasks with
      | .polling, task :: rest => some (client.pollTask task rest)
      | .polling, [] => some client.stopService
      | _, _ => none
  | .polled posted raises =>
      match client.caller with
      | .inTask _ => some (client.polled posted raises)
      | _ => none
  | .check =>
      match client.caller with
      | .checking state =>
          if client.waitsFor state then
            some (client.afterWait state)
          else
            some { client with caller := .asleep state }
      | _ => none
  | .wake =>
      match client.caller with
      | .notified state => some { client with caller := .checking state }
      | _ => none
  | .spurious =>
      match client.caller with
      | .asleep state => some { client with caller := .checking state }
      | _ => none
  | .join =>
      match client.caller with
      | .joining => if ∀ stage ∈ client.threadPool, stage matches .exited then some client.join else none
      | _ => none
  | .worker i => client.threadLoop i
  | .workerDone i posted raises =>
      match client.threadPool[i]? with
      | some (.inTask _) => some (client.workerDone i posted raises)
      | _ => none

/-- What a worker of the pool can do next. -/
inductive WorkerCases (client : ClientThreads τ) (i : Nat) : ClientThreads τ → Prop
  | goOn (hstage : client.threadPool[i]? = some .readState) (hstate : client.threadsState = .running) :
      WorkerCases client i (client.setWorker i .enterRun)
  | giveUp (hstage : client.threadPool[i]? = some .readState) (hstate : client.threadsState = .stopped) :
      WorkerCases client i (client.setWorker i .exit)
  | enter (hstage : client.threadPool[i]? = some .enterRun) (hmutex : client.caller.holdsMutex = false) :
      WorkerCases client i (client.enter i)
  | leaveRun (hstage : client.threadPool[i]? = some .inRun) (hstopped : client.stopped = true) :
      WorkerCases client i (client.setWorker i .leaveRun)
  | takeTask (task : τ) (rest : List τ) (hstage : client.threadPool[i]? = some .inRun)
      (hstopped : client.stopped = false) (htasks : client.tasks = task :: rest) :
      WorkerCases client i (client.takeTask i task rest)
  | comeBack (hstage : client.threadPool[i]? = some .leaveRun) (hmutex : client.caller.holdsMutex = false) :
      WorkerCases client i (client.comeBack i)
  | leaveLoop (hstage : client.threadPool[i]? = some .exit) (hmutex : client.caller.holdsMutex = false) :
      WorkerCases client i (client.leaveLoop i)

/-- **Inversion.** What a step can do. -/
inductive StepCases (client : ClientThreads τ) : ThreadsAction τ → ClientThreads τ → Prop
  | post (task : τ) (hdestroyed : client.destroyed = false) : StepCases client (.post task) (client.post [task])
  | call (clientCall : ClientCall) (hcaller : client.caller = .idle) (hdestroyed : client.destroyed = false) :
      StepCases client (.call clientCall) (client.call clientCall)
  | pollTask (task : τ) (rest : List τ) (hcaller : client.caller = .polling)
      (htasks : client.tasks = task :: rest) : StepCases client .poll (client.pollTask task rest)
  | pollEnd (hcaller : client.caller = .polling) (htasks : client.tasks = []) :
      StepCases client .poll client.stopService
  | polled (task : τ) (posted : List τ) (raises : Bool) (hcaller : client.caller = .inTask task) :
      StepCases client (.polled posted raises) (client.polled posted raises)
  | pass (state : ThreadState) (hcaller : client.caller = .checking state) (hwaits : client.waitsFor state) :
      StepCases client .check (client.afterWait state)
  | sleep (state : ThreadState) (hcaller : client.caller = .checking state) (hwaits : ¬ client.waitsFor state) :
      StepCases client .check { client with caller := .asleep state }
  | wake (state : ThreadState) (hcaller : client.caller = .notified state) :
      StepCases client .wake { client with caller := .checking state }
  | spurious (state : ThreadState) (hcaller : client.caller = .asleep state) :
      StepCases client .spurious { client with caller := .checking state }
  | join (hcaller : client.caller = .joining) (hexited : ∀ stage ∈ client.threadPool, stage = .exited) :
      StepCases client .join client.join
  | worker (i : Nat) {client' : ClientThreads τ} (hworker : WorkerCases client i client') :
      StepCases client (.worker i) client'
  | workerDone (i : Nat) (task : τ) (posted : List τ) (raises : Bool)
      (hstage : client.threadPool[i]? = some (.inTask task)) :
      StepCases client (.workerDone i posted raises) (client.workerDone i posted raises)

theorem workerCases_of_threadLoop {client client' : ClientThreads τ} {i : Nat}
    (hstep : client.threadLoop i = some client') : WorkerCases client i client' := by
  simp only [threadLoop] at hstep
  split at hstep
  · rename_i hstage
    split at hstep
    · rename_i hstate
      cases hstep
      exact .goOn hstage hstate
    · rename_i hstate
      cases hstep
      exact .giveUp hstage hstate
  · rename_i hstage
    rw [Option.ite_none_left_eq_some, Bool.not_eq_true, Option.some.injEq] at hstep
    obtain ⟨hmutex, rfl⟩ := hstep
    exact .enter hstage hmutex
  · rename_i hstage
    split at hstep
    · rename_i hstopped
      cases hstep
      exact .leaveRun hstage hstopped
    · rename_i hstopped
      split at hstep
      · rename_i task rest htasks
        cases hstep
        exact .takeTask task rest hstage (Bool.not_eq_true _ ▸ hstopped) htasks
      · cases hstep
  · rename_i hstage
    rw [Option.ite_none_left_eq_some, Bool.not_eq_true, Option.some.injEq] at hstep
    obtain ⟨hmutex, rfl⟩ := hstep
    exact .comeBack hstage hmutex
  · rename_i hstage
    rw [Option.ite_none_left_eq_some, Bool.not_eq_true, Option.some.injEq] at hstep
    obtain ⟨hmutex, rfl⟩ := hstep
    exact .leaveLoop hstage hmutex
  · cases hstep
  · cases hstep
  · cases hstep

/-! What every step of a worker has in common. -/

section Worker

variable {client client' : ClientThreads τ} {i : Nat}

theorem worker_stopped (hworker : WorkerCases client i client') : client'.stopped = client.stopped := by
  cases hworker <;> rfl

theorem worker_destroyed (hworker : WorkerCases client i client') : client'.destroyed = client.destroyed := by
  cases hworker <;> rfl

theorem worker_caller (hworker : WorkerCases client i client') :
    client'.caller = client.caller ∨ client'.caller = client.caller.notify := by
  cases hworker with
  | goOn _ _ => exact .inl rfl
  | giveUp _ _ => exact .inl rfl
  | enter _ _ =>
      rw [enter, notifyIf]
      split
      · exact .inr rfl
      · exact .inl rfl
  | leaveRun _ _ => exact .inl rfl
  | takeTask task rest _ _ _ => exact .inl rfl
  | comeBack _ _ => exact .inl rfl
  | leaveLoop _ _ =>
      rw [leaveLoop, notifyIf]
      split
      · exact .inr rfl
      · exact .inl rfl

/-- What a notification leaves as it is. -/
theorem worker_of_notify {α : Type} {view : CallerStage τ → α} (hnotify : ∀ caller, view caller.notify = view caller)
    (hworker : WorkerCases client i client') : view client'.caller = view client.caller := by
  obtain heq | heq := worker_caller hworker
  · rw [heq]
  · rw [heq, hnotify]

theorem worker_stage (hworker : WorkerCases client i client') :
    ∃ stage, client.threadPool[i]? = some stage := by
  cases hworker with
  | goOn hstage _ => exact ⟨_, hstage⟩
  | giveUp hstage _ => exact ⟨_, hstage⟩
  | enter hstage _ => exact ⟨_, hstage⟩
  | leaveRun hstage _ => exact ⟨_, hstage⟩
  | takeTask task rest hstage _ _ => exact ⟨_, hstage⟩
  | comeBack hstage _ => exact ⟨_, hstage⟩
  | leaveLoop hstage _ => exact ⟨_, hstage⟩

end Worker

theorem step_cases {client client' : ClientThreads τ} {action : ThreadsAction τ}
    (hstep : client.step action = some client') : StepCases client action client' := by
  cases action with
  | post task =>
      rw [step, Option.ite_none_left_eq_some, Bool.not_eq_true, Option.some.injEq] at hstep
      obtain ⟨hdestroyed, rfl⟩ := hstep
      exact .post task hdestroyed
  | call clientCall =>
      simp only [step] at hstep
      split at hstep
      · rename_i hcaller
        rw [Option.ite_none_left_eq_some, Bool.not_eq_true, Option.some.injEq] at hstep
        obtain ⟨hdestroyed, rfl⟩ := hstep
        exact .call clientCall hcaller hdestroyed
      · cases hstep
  | poll =>
      simp only [step] at hstep
      split at hstep
      · rename_i task rest hcaller htasks
        cases hstep
        exact .pollTask task rest hcaller htasks
      · rename_i hcaller htasks
        cases hstep
        exact .pollEnd hcaller htasks
      · cases hstep
  | polled posted raises =>
      simp only [step] at hstep
      split at hstep
      · rename_i task hcaller
        cases hstep
        exact .polled task posted raises hcaller
      · cases hstep
  | check =>
      simp only [step] at hstep
      split at hstep
      · rename_i state hcaller
        split at hstep
        · rename_i hwaits
          cases hstep
          exact .pass state hcaller hwaits
        · rename_i hwaits
          cases hstep
          exact .sleep state hcaller hwaits
      · cases hstep
  | wake =>
      simp only [step] at hstep
      split at hstep
      · rename_i state hcaller
        cases hstep
        exact .wake state hcaller
      · cases hstep
  | spurious =>
      simp only [step] at hstep
      split at hstep
      · rename_i state hcaller
        cases hstep
        exact .spurious state hcaller
      · cases hstep
  | join =>
      simp only [step] at hstep
      split at hstep
      · rename_i hcaller
        rw [Option.ite_none_right_eq_some, Option.some.injEq] at hstep
        obtain ⟨hexited, rfl⟩ := hstep
        refine .join hcaller fun stage hmem => ?_
        have hmatches := hexited stage hmem
        cases stage <;> simp at hmatches
        rfl
      · cases hstep
  | worker i => exact .worker i (workerCases_of_threadLoop hstep)
  | workerDone i posted raises =>
      simp only [step] at hstep
      split at hstep
      · rename_i task hstage
        cases hstep
        exact .workerDone i task posted raises hstage
      · cases hstep

end ClientThreads

end NxosExporter
