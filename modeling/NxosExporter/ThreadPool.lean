import NxosExporter.Lib.Transition

/-!
# The thread pool of the HTTP client

`NXOSHttpClientImpl` runs its I/O service on a pool of threads. A caller of `setThreadsState` holds
the pool mutex up to the wait on `m_cv` and again from the moment its condition holds; a worker takes
the mutex to change a counter and reads the state of the pool without it. A worker may come back from
the I/O service at any time, since a task may raise.
-/

namespace NxosExporter

inductive ThreadState where
  | running
  | stopped
  deriving DecidableEq, Repr

inductive WorkerPhase where
  | readState
  | enterRun
  | inRun
  | exit
  | exited
  deriving DecidableEq, Repr

/-- The state behind the pool mutex; `waiting` is the transition whose caller waits on `m_cv`. -/
structure NXOSHttpClientImpl where
  poolSize : Nat
  threadPool : List WorkerPhase
  runningThreads : Int
  exitedThreads : Int
  threadsState : ThreadState
  waiting : Option ThreadState
  destroyed : Bool
  deriving DecidableEq, Repr

inductive ClientCall where
  | startClient
  | stopClient
  | destroy
  deriving DecidableEq, Repr

inductive PoolAction where
  | call (call : ClientCall)
  | wake
  | worker (i : Nat)
  deriving DecidableEq, Repr

namespace NXOSHttpClientImpl

def create (threadPoolSize : Nat) : NXOSHttpClientImpl where
  poolSize := threadPoolSize
  threadPool := []
  runningThreads := 0
  exitedThreads := 0
  threadsState := .stopped
  waiting := none
  destroyed := false

/-- `setThreadsState`, up to the wait. -/
def setThreadsState (client : NXOSHttpClientImpl) : ThreadState → NXOSHttpClientImpl
  | .running => { client with
      threadsState := .running
      threadPool := client.threadPool
        ++ List.replicate (client.poolSize - client.threadPool.length) .readState
      waiting := some .running }
  | .stopped => { client with
      threadsState := .stopped
      waiting := some .stopped }

/-- `setThreadsState`, from the wait on. Joining the threads takes until each of them has exited. -/
def wake (client : NXOSHttpClientImpl) : Option NXOSHttpClientImpl :=
  match client.waiting with
  | some .running =>
      if client.runningThreads = client.threadPool.length then
        some { client with exitedThreads := 0, waiting := none }
      else
        none
  | some .stopped =>
      if client.exitedThreads = client.threadPool.length ∧ ∀ phase ∈ client.threadPool, phase = .exited then
        some { client with threadPool := [], waiting := none }
      else
        none
  | none => none

def call (client : NXOSHttpClientImpl) : ClientCall → NXOSHttpClientImpl
  | .startClient => client.setThreadsState .running
  | .stopClient => client.setThreadsState .stopped
  | .destroy => { client.setThreadsState .stopped with destroyed := true }

def threadLoop (client : NXOSHttpClientImpl) (i : Nat) : Option NXOSHttpClientImpl :=
  match client.threadPool[i]? with
  | some .readState =>
      match client.threadsState with
      | .running => some { client with threadPool := client.threadPool.set i .enterRun }
      | .stopped => some { client with threadPool := client.threadPool.set i .exit }
  | some .enterRun => some { client with
      threadPool := client.threadPool.set i .inRun
      runningThreads := client.runningThreads + 1 }
  | some .inRun => some { client with
      threadPool := client.threadPool.set i .readState
      runningThreads := client.runningThreads - 1 }
  | some .exit => some { client with
      threadPool := client.threadPool.set i .exited
      exitedThreads := client.exitedThreads + 1 }
  | some .exited => none
  | none => none

/-- One caller makes the calls one after the other and none after the destructor. -/
def step (client : NXOSHttpClientImpl) : PoolAction → Option NXOSHttpClientImpl
  | .call clientCall =>
      if client.waiting = none ∧ client.destroyed = false then some (client.call clientCall) else none
  | .wake => client.wake
  | .worker i => client.threadLoop i

end NXOSHttpClientImpl

end NxosExporter
