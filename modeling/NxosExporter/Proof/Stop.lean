import NxosExporter.ThreadPool

/-!
# Stopping the thread pool

A STOPPED transition clears the pool but leaves `m_exitedThreads` at the number of its threads, and only a
RUNNING transition resets the counter. While every stop of a started client is followed by a start before
the next stop, the counter is the number of exited threads whenever a stop waits for it.
-/

namespace NxosExporter

open Transition

def callsOf (actions : List PoolAction) : List ClientCall :=
  actions.filterMap fun
    | .call clientCall => some clientCall
    | _ => none

def ClientCall.stops : ClientCall → Bool
  | startClient => false
  | stopClient => true
  | destroy => true

/-- Once the client was started, no stop directly follows another. -/
def StartBetweenStops (calls : List ClientCall) : Prop :=
  ∀ past stop stop' rest, calls = past ++ stop :: stop' :: rest → stop.stops = true → stop'.stops = true →
    .startClient ∉ past

/-- A STOPPED transition that waits for threads which have all exited has what it waits for. -/
def CanStop (client : NXOSHttpClientImpl) : Prop :=
  client.waiting = some .stopped → (∀ phase ∈ client.threadPool, phase = .exited) →
    client.exitedThreads = client.threadPool.length

/-- The five steps of a worker. -/
inductive WorkerStep (client : NXOSHttpClientImpl) (i : Nat) : NXOSHttpClientImpl → Prop
  | goOn (hphase : client.threadPool[i]? = some .readState) (hstate : client.threadsState = .running) :
      WorkerStep client i { client with threadPool := client.threadPool.set i .enterRun }
  | giveUp (hphase : client.threadPool[i]? = some .readState) (hstate : client.threadsState = .stopped) :
      WorkerStep client i { client with threadPool := client.threadPool.set i .exit }
  | enter (hphase : client.threadPool[i]? = some .enterRun) :
      WorkerStep client i { client with
        threadPool := client.threadPool.set i .inRun
        runningThreads := client.runningThreads + 1 }
  | comeBack (hphase : client.threadPool[i]? = some .inRun) :
      WorkerStep client i { client with
        threadPool := client.threadPool.set i .readState
        runningThreads := client.runningThreads - 1 }
  | finish (hphase : client.threadPool[i]? = some .exit) :
      WorkerStep client i { client with
        threadPool := client.threadPool.set i .exited
        exitedThreads := client.exitedThreads + 1 }

theorem workerStep_of_threadLoop {client client' : NXOSHttpClientImpl} {i : Nat}
    (hstep : client.threadLoop i = some client') : WorkerStep client i client' := by
  unfold NXOSHttpClientImpl.threadLoop at hstep
  split at hstep
  · rename_i hphase
    split at hstep
    · rename_i hstate
      cases hstep
      exact .goOn hphase hstate
    · rename_i hstate
      cases hstep
      exact .giveUp hphase hstate
  · rename_i hphase
    cases hstep
    exact .enter hphase
  · rename_i hphase
    cases hstep
    exact .comeBack hphase
  · rename_i hphase
    cases hstep
    exact .finish hphase
  · cases hstep
  · cases hstep

theorem count_set_phase {pool : List WorkerPhase} {i : Nat} {phase : WorkerPhase}
    (hphase : pool[i]? = some phase) (phase' counted : WorkerPhase) :
    ((pool.set i phase').count counted : Int)
      = pool.count counted - (if phase = counted then 1 else 0) + (if phase' = counted then 1 else 0) := by
  obtain ⟨hlength, hget⟩ := List.getElem?_eq_some_iff.mp hphase
  have hpos : phase = counted → 0 < pool.count counted := by
    rintro rfl
    exact List.count_pos_iff.mpr (List.mem_of_getElem? hphase)
  rw [List.count_set hlength, hget]
  by_cases hcounted : phase = counted
  · have hcount := hpos hcounted
    by_cases hcounted' : phase' = counted <;> simp [hcounted, hcounted'] <;> omega
  · by_cases hcounted' : phase' = counted <;> simp [hcounted, hcounted']

/-! ### The situations of the pool

Never started, last called to start, and started at some time but last called to stop. A pool that was
stopped twice after a start is stuck. -/

structure Fresh (client : NXOSHttpClientImpl) : Prop where
  pool : client.threadPool = []
  exited : client.exitedThreads = 0
  waiting : client.waiting ≠ some .running

structure Started (client : NXOSHttpClientImpl) : Prop where
  state : client.threadsState = .running
  waiting : client.waiting ≠ some .stopped
  size : client.threadPool.length = client.poolSize
  working : ∀ phase ∈ client.threadPool, phase ≠ .exit ∧ phase ≠ .exited
  exited : client.waiting = none → client.exitedThreads = 0

structure Stopping (client : NXOSHttpClientImpl) : Prop where
  waiting : client.waiting ≠ some .running
  size : client.waiting = some .stopped → client.threadPool.length = client.poolSize
  exited : client.waiting = some .stopped → client.exitedThreads = client.threadPool.count .exited
  pool : client.waiting = none → client.threadPool = []
  left : client.waiting = none → client.exitedThreads = client.poolSize

structure Stuck (client : NXOSHttpClientImpl) : Prop where
  waiting : client.waiting = some .stopped
  pool : client.threadPool = []
  exited : client.exitedThreads ≠ 0

/-- The situation that a list of calls leads to. -/
inductive Situation (calls : List ClientCall) (client : NXOSHttpClientImpl) : Prop
  | fresh (hcalls : .startClient ∉ calls) (hfresh : Fresh client)
  | started {past : List ClientCall} (hcalls : calls = past ++ [.startClient]) (hstarted : Started client)
  | stopping {past : List ClientCall} {stop : ClientCall} (hcalls : calls = past ++ [stop])
      (hstops : stop.stops = true) (hpast : .startClient ∈ past) (hstopping : Stopping client)

section Steps

variable {client client' : NXOSHttpClientImpl}

theorem Fresh.canStop (hfresh : Fresh client) : CanStop client := by
  intro _ _
  rw [hfresh.exited, hfresh.pool]
  rfl

theorem Started.canStop (hstarted : Started client) : CanStop client :=
  fun hwaiting => absurd hwaiting hstarted.waiting

theorem Stopping.canStop (hstopping : Stopping client) : CanStop client := by
  intro hwaiting hexited
  have hcount : client.threadPool.count .exited = client.threadPool.length :=
    List.count_eq_length.mpr fun phase hphase => (hexited phase hphase).symm
  rw [hstopping.exited hwaiting, hcount]

theorem Situation.canStop {calls : List ClientCall} (hsituation : Situation calls client) :
    CanStop client := by
  cases hsituation with
  | fresh _ hfresh => exact hfresh.canStop
  | started _ hstarted => exact hstarted.canStop
  | stopping _ _ _ hstopping => exact hstopping.canStop

theorem Fresh.threadLoop (hfresh : Fresh client) (i : Nat) : client.threadLoop i = none := by
  simp [NXOSHttpClientImpl.threadLoop, hfresh.pool]

theorem Fresh.wake (hfresh : Fresh client) (hwake : client.wake = some client') : Fresh client' := by
  unfold NXOSHttpClientImpl.wake at hwake
  split at hwake
  · rename_i hwaiting
    exact absurd hwaiting hfresh.waiting
  · split at hwake
    · cases hwake
      exact ⟨rfl, hfresh.exited, by simp⟩
    · cases hwake
  · cases hwake

theorem Started.threadLoop {i : Nat} (hstarted : Started client)
    (hstep : client.threadLoop i = some client') : Started client' := by
  obtain ⟨hstate, hwaiting, hsize, hworking, hexited⟩ := hstarted
  have hlength : ∀ phase, (client.threadPool.set i phase).length = client.poolSize := fun phase => by
    rw [List.length_set, hsize]
  have hset : ∀ phase, phase ≠ .exit → phase ≠ .exited → ∀ other ∈ client.threadPool.set i phase,
      other ≠ .exit ∧ other ≠ .exited := by
    intro phase hexit hexited other hother
    obtain hmem | rfl := List.mem_or_eq_of_mem_set hother
    · exact hworking other hmem
    · exact ⟨hexit, hexited⟩
  cases workerStep_of_threadLoop hstep with
  | goOn _ _ => exact ⟨hstate, hwaiting, hlength _, hset .enterRun (by decide) (by decide), hexited⟩
  | giveUp _ hstopped =>
      rw [hstate] at hstopped
      cases hstopped
  | enter _ => exact ⟨hstate, hwaiting, hlength _, hset .inRun (by decide) (by decide), hexited⟩
  | comeBack _ => exact ⟨hstate, hwaiting, hlength _, hset .readState (by decide) (by decide), hexited⟩
  | finish hphase => exact absurd rfl (hworking .exit (List.mem_of_getElem? hphase)).1

theorem Started.wake (hstarted : Started client) (hwake : client.wake = some client') :
    Started client' := by
  obtain ⟨hstate, hwaiting, hsize, hworking, hexited⟩ := hstarted
  unfold NXOSHttpClientImpl.wake at hwake
  split at hwake
  · split at hwake
    · cases hwake
      exact ⟨hstate, by simp, hsize, hworking, fun _ => rfl⟩
    · cases hwake
  · rename_i hstopped
    exact absurd hstopped hwaiting
  · cases hwake

/-- The counter follows the workers that exit. -/
theorem Stopping.threadLoop {i : Nat} (hstopping : Stopping client)
    (hstep : client.threadLoop i = some client') : Stopping client' := by
  obtain ⟨hwaiting, hsize, hexited, hpool, -⟩ := hstopping
  have hlength : ∀ phase, client.waiting = some .stopped →
      (client.threadPool.set i phase).length = client.poolSize := by
    intro phase hstop
    rw [List.length_set, hsize hstop]
  have hbusy : ∀ phase, client.threadPool[i]? = some phase → client.waiting ≠ none := by
    intro phase hphase hidle
    simp [hpool hidle] at hphase
  cases workerStep_of_threadLoop hstep with
  | goOn hphase _ =>
      refine ⟨hwaiting, hlength _, fun hstop => ?_, fun hidle => absurd hidle (hbusy _ hphase),
        fun hidle => absurd hidle (hbusy _ hphase)⟩
      simpa [count_set_phase hphase] using hexited hstop
  | giveUp hphase _ =>
      refine ⟨hwaiting, hlength _, fun hstop => ?_, fun hidle => absurd hidle (hbusy _ hphase),
        fun hidle => absurd hidle (hbusy _ hphase)⟩
      simpa [count_set_phase hphase] using hexited hstop
  | enter hphase =>
      refine ⟨hwaiting, hlength _, fun hstop => ?_, fun hidle => absurd hidle (hbusy _ hphase),
        fun hidle => absurd hidle (hbusy _ hphase)⟩
      simpa [count_set_phase hphase] using hexited hstop
  | comeBack hphase =>
      refine ⟨hwaiting, hlength _, fun hstop => ?_, fun hidle => absurd hidle (hbusy _ hphase),
        fun hidle => absurd hidle (hbusy _ hphase)⟩
      simpa [count_set_phase hphase] using hexited hstop
  | finish hphase =>
      refine ⟨hwaiting, hlength _, fun hstop => ?_, fun hidle => absurd hidle (hbusy _ hphase),
        fun hidle => absurd hidle (hbusy _ hphase)⟩
      simp [count_set_phase hphase, hexited hstop]

theorem Stopping.wake (hstopping : Stopping client) (hwake : client.wake = some client') :
    Stopping client' := by
  unfold NXOSHttpClientImpl.wake at hwake
  split at hwake
  · rename_i hstart
    exact absurd hstart hstopping.waiting
  · rename_i hstop
    split at hwake
    · rename_i hcondition
      cases hwake
      refine ⟨by simp, by simp, by simp, fun _ => rfl, fun _ => ?_⟩
      rw [hcondition.1, hstopping.size hstop]
    · cases hwake
  · cases hwake

theorem Stuck.step_eq_none (hstuck : Stuck client) (action : PoolAction) : client.step action = none := by
  cases action with
  | call clientCall => simp [NXOSHttpClientImpl.step, hstuck.waiting]
  | wake => simp [NXOSHttpClientImpl.step, NXOSHttpClientImpl.wake, hstuck.waiting, hstuck.pool, hstuck.exited]
  | worker i => simp [NXOSHttpClientImpl.step, NXOSHttpClientImpl.threadLoop, hstuck.pool]

theorem Stuck.not_canStop (hstuck : Stuck client) : ¬ CanStop client := by
  intro hcan
  have hexited := hcan hstuck.waiting (by simp [hstuck.pool])
  rw [hstuck.pool] at hexited
  exact hstuck.exited hexited

/-! A call begins in a client that waits for nothing. -/

variable {clientCall : ClientCall}

theorem call_waiting_of_stops (hstops : clientCall.stops = true) :
    (client.call clientCall).waiting = some .stopped := by
  cases clientCall with
  | startClient => cases hstops
  | stopClient => rfl
  | destroy => rfl

theorem call_pool_of_stops (hstops : clientCall.stops = true) :
    (client.call clientCall).threadPool = client.threadPool := by
  cases clientCall with
  | startClient => cases hstops
  | stopClient => rfl
  | destroy => rfl

theorem call_poolSize (client : NXOSHttpClientImpl) (clientCall : ClientCall) :
    (client.call clientCall).poolSize = client.poolSize := by
  cases clientCall <;> rfl

theorem call_exitedThreads (client : NXOSHttpClientImpl) (clientCall : ClientCall) :
    (client.call clientCall).exitedThreads = client.exitedThreads := by
  cases clientCall <;> rfl

theorem Fresh.stop (hfresh : Fresh client) (hstops : clientCall.stops = true) :
    Fresh (client.call clientCall) := by
  refine ⟨?_, ?_, ?_⟩
  · rw [call_pool_of_stops hstops, hfresh.pool]
  · rw [call_exitedThreads, hfresh.exited]
  · simp [call_waiting_of_stops hstops]

theorem Started.stop (hstarted : Started client) (hidle : client.waiting = none)
    (hstops : clientCall.stops = true) : Stopping (client.call clientCall) := by
  have hnone : client.threadPool.count .exited = 0 :=
    List.count_eq_zero.mpr fun hmem => (hstarted.working .exited hmem).2 rfl
  have hbusy : (client.call clientCall).waiting ≠ none := by
    simp [call_waiting_of_stops hstops]
  refine ⟨?_, fun _ => ?_, fun _ => ?_, fun hidle' => absurd hidle' hbusy, fun hidle' => absurd hidle' hbusy⟩
  · simp [call_waiting_of_stops hstops]
  · rw [call_pool_of_stops hstops, call_poolSize, hstarted.size]
  · rw [call_exitedThreads, call_pool_of_stops hstops, hstarted.exited hidle, hnone]
    rfl

theorem Stopping.stop (hstopping : Stopping client) (hidle : client.waiting = none)
    (hsize : client.poolSize ≠ 0) (hstops : clientCall.stops = true) : Stuck (client.call clientCall) := by
  refine ⟨call_waiting_of_stops hstops, ?_, ?_⟩
  · rw [call_pool_of_stops hstops, hstopping.pool hidle]
  · rw [call_exitedThreads, hstopping.left hidle]
    exact_mod_cast hsize

theorem started_of_startClient (hsize : client.threadPool.length ≤ client.poolSize)
    (hworking : ∀ phase ∈ client.threadPool, phase ≠ .exit ∧ phase ≠ .exited) :
    Started (client.call .startClient) := by
  refine ⟨rfl, by simp [NXOSHttpClientImpl.call, NXOSHttpClientImpl.setThreadsState], ?_, ?_, ?_⟩
  · simp only [NXOSHttpClientImpl.call, NXOSHttpClientImpl.setThreadsState, List.length_append,
      List.length_replicate]
    omega
  · intro phase hphase
    obtain hold | hnew := List.mem_append.mp hphase
    · exact hworking phase hold
    · rw [List.eq_of_mem_replicate hnew]
      decide
  · intro hidle
    cases hidle

end Steps

/-! ### Runs -/

section Runs

variable {calls : List ClientCall} {client client' : NXOSHttpClientImpl}

/-- The condition is first broken by a stop that directly follows a stop. -/
theorem StartBetweenStops.broken {clientCall : ClientCall} (hcalls : StartBetweenStops calls)
    (hbroken : ¬ StartBetweenStops (calls ++ [clientCall])) :
    ∃ past stop, calls = past ++ [stop] ∧ stop.stops = true ∧ clientCall.stops = true ∧
      .startClient ∈ past := by
  unfold StartBetweenStops at hbroken
  push Not at hbroken
  obtain ⟨past, stop, stop', rest, heq, hstops, hstops', hpast⟩ := hbroken
  rcases List.eq_nil_or_concat rest with rfl | ⟨rest', last, rfl⟩
  · have hsplit : calls ++ [clientCall] = (past ++ [stop]) ++ [stop'] := by simpa using heq
    obtain ⟨hfront, hlast⟩ := List.append_inj' hsplit rfl
    obtain rfl := List.singleton_inj.mp hlast
    exact ⟨past, stop, hfront, hstops, hstops', hpast⟩
  · have hsplit : calls ++ [clientCall] = (past ++ stop :: stop' :: rest') ++ [last] := by simpa using heq
    obtain ⟨hfront, -⟩ := List.append_inj' hsplit rfl
    exact absurd hpast (hcalls past stop stop' rest' hfront hstops hstops')

theorem callsOf_append (first second : List PoolAction) :
    callsOf (first ++ second) = callsOf first ++ callsOf second :=
  List.filterMap_append

theorem Situation.wake (hsituation : Situation calls client) (hwake : client.wake = some client') :
    Situation calls client' := by
  cases hsituation with
  | fresh hcalls hfresh => exact .fresh hcalls (hfresh.wake hwake)
  | started hcalls hstarted => exact .started hcalls (hstarted.wake hwake)
  | stopping hcalls hstops hpast hstopping => exact .stopping hcalls hstops hpast (hstopping.wake hwake)

theorem Situation.threadLoop {i : Nat} (hsituation : Situation calls client)
    (hstep : client.threadLoop i = some client') : Situation calls client' := by
  cases hsituation with
  | fresh _ hfresh =>
      rw [hfresh.threadLoop i] at hstep
      cases hstep
  | started hcalls hstarted => exact .started hcalls (hstarted.threadLoop hstep)
  | stopping hcalls hstops hpast hstopping =>
      exact .stopping hcalls hstops hpast (hstopping.threadLoop hstep)

theorem Situation.call {clientCall : ClientCall} (hsituation : Situation calls client)
    (hidle : client.waiting = none) (hcalls : StartBetweenStops (calls ++ [clientCall])) :
    Situation (calls ++ [clientCall]) (client.call clientCall) := by
  cases hstops : clientCall.stops with
  | false =>
      obtain rfl : clientCall = .startClient := by cases clientCall <;> simp_all [ClientCall.stops]
      cases hsituation with
      | fresh _ hfresh =>
          exact .started rfl (started_of_startClient (by simp [hfresh.pool]) (by simp [hfresh.pool]))
      | started _ hstarted =>
          exact .started rfl (started_of_startClient (Nat.le_of_eq hstarted.size) hstarted.working)
      | stopping _ _ _ hstopping =>
          exact .started rfl
            (started_of_startClient (by simp [hstopping.pool hidle]) (by simp [hstopping.pool hidle]))
  | true =>
      cases hsituation with
      | fresh hfreshCalls hfresh =>
          refine .fresh ?_ (hfresh.stop hstops)
          rw [List.mem_append, List.mem_singleton]
          rintro (hmem | rfl)
          · exact hfreshCalls hmem
          · cases hstops
      | started hstartedCalls hstarted =>
          exact .stopping rfl hstops (by simp [hstartedCalls]) (hstarted.stop hidle hstops)
      | @stopping past stop hstoppingCalls hstops' hpast hstopping =>
          exact absurd hpast (hcalls past stop clientCall [] (by simp [hstoppingCalls]) hstops' hstops)

theorem Situation.stuck {clientCall : ClientCall} (hsituation : Situation calls client)
    (hidle : client.waiting = none) (hsize : client.poolSize ≠ 0) (hcalls : StartBetweenStops calls)
    (hbroken : ¬ StartBetweenStops (calls ++ [clientCall])) : Stuck (client.call clientCall) := by
  obtain ⟨past, stop, rfl, hstops, hstops', hpast⟩ := hcalls.broken hbroken
  cases hsituation with
  | fresh hfreshCalls _ => exact absurd (List.mem_append_left _ hpast) hfreshCalls
  | started hstartedCalls _ =>
      obtain rfl := List.singleton_inj.mp (List.append_inj' hstartedCalls rfl).2
      cases hstops
  | stopping _ _ _ hstopping => exact hstopping.stop hidle hsize hstops'

theorem step_poolSize {action : PoolAction} (hstep : client.step action = some client') :
    client'.poolSize = client.poolSize := by
  cases action with
  | call clientCall =>
      simp only [NXOSHttpClientImpl.step, Option.ite_none_right_eq_some, Option.some.injEq] at hstep
      rw [← hstep.2, call_poolSize]
  | wake =>
      simp only [NXOSHttpClientImpl.step, NXOSHttpClientImpl.wake] at hstep
      split at hstep
      · split at hstep <;> cases hstep
        rfl
      · split at hstep <;> cases hstep
        rfl
      · cases hstep
  | worker i => cases workerStep_of_threadLoop hstep <;> rfl

/-- Where a run of a pool that is not empty can be: in the situation of its calls, or stuck after the call
that broke the condition. -/
theorem situation_or_stuck {threadPoolSize : Nat} {actions : List PoolAction} (hsize : threadPoolSize ≠ 0)
    (hrun : Run NXOSHttpClientImpl.step (.create threadPoolSize) actions client) :
    client.poolSize = threadPoolSize ∧
      ((StartBetweenStops (callsOf actions) ∧ Situation (callsOf actions) client) ∨
        (¬ StartBetweenStops (callsOf actions) ∧ Stuck client)) := by
  refine hrun.invariant_trace (fun past mid => mid.poolSize = threadPoolSize ∧
    ((StartBetweenStops (callsOf past) ∧ Situation (callsOf past) mid) ∨
      (¬ StartBetweenStops (callsOf past) ∧ Stuck mid))) ?_ ?_
  · refine ⟨rfl, .inl ⟨?_, .fresh List.not_mem_nil ⟨rfl, rfl, by simp [NXOSHttpClientImpl.create]⟩⟩⟩
    intro past stop stop' rest heq
    simp [callsOf] at heq
  · rintro past mid action last - hstep ⟨hpoolSize, ⟨hcalls, hsituation⟩ | ⟨-, hstuck⟩⟩
    · refine ⟨(step_poolSize hstep).trans hpoolSize, ?_⟩
      rw [callsOf_append]
      cases action with
      | call clientCall =>
          simp only [NXOSHttpClientImpl.step, Option.ite_none_right_eq_some, Option.some.injEq] at hstep
          obtain ⟨⟨hidle, -⟩, rfl⟩ := hstep
          by_cases hnext : StartBetweenStops (callsOf past ++ [clientCall])
          · exact .inl ⟨hnext, hsituation.call hidle hnext⟩
          · exact .inr ⟨hnext, hsituation.stuck hidle (hpoolSize ▸ hsize) hcalls hnext⟩
      | wake =>
          rw [show callsOf [PoolAction.wake] = [] from rfl, List.append_nil]
          exact .inl ⟨hcalls, hsituation.wake hstep⟩
      | worker i =>
          rw [show callsOf [PoolAction.worker i] = [] from rfl, List.append_nil]
          exact .inl ⟨hcalls, hsituation.threadLoop hstep⟩
    · rw [hstuck.step_eq_none] at hstep
      cases hstep

theorem canStop_of_emptyPool {actions : List PoolAction}
    (hrun : Run NXOSHttpClientImpl.step (.create 0) actions client) : CanStop client := by
  have hinv : client.poolSize = 0 ∧ client.threadPool = [] ∧ client.exitedThreads = 0 := by
    refine hrun.invariant
      (fun mid => mid.poolSize = 0 ∧ mid.threadPool = [] ∧ mid.exitedThreads = 0) ⟨rfl, rfl, rfl⟩ ?_
    rintro mid action last - hstep ⟨hsize, hpool, hexited⟩
    refine ⟨(step_poolSize hstep).trans hsize, ?_⟩
    cases action with
    | call clientCall =>
        simp only [NXOSHttpClientImpl.step, Option.ite_none_right_eq_some, Option.some.injEq] at hstep
        obtain ⟨-, rfl⟩ := hstep
        cases clientCall <;>
          simp [NXOSHttpClientImpl.call, NXOSHttpClientImpl.setThreadsState, hsize, hpool, hexited]
    | wake =>
        simp only [NXOSHttpClientImpl.step, NXOSHttpClientImpl.wake, hpool] at hstep
        split at hstep
        · split at hstep <;> cases hstep
          exact ⟨rfl, rfl⟩
        · split at hstep <;> cases hstep
          exact ⟨rfl, hexited⟩
        · cases hstep
    | worker i => simp [NXOSHttpClientImpl.step, NXOSHttpClientImpl.threadLoop, hpool] at hstep
  intro _ _
  rw [hinv.2.2, hinv.2.1]
  rfl

end Runs

/-- **Stopping the client.** In a run of the callers and the workers a stop that waits for exited threads
has what it waits for exactly when the pool is empty or each stop of a started client was followed by a
start before the next stop. -/
theorem canStop_iff {threadPoolSize : Nat} {actions : List PoolAction} {client : NXOSHttpClientImpl}
    (hrun : Run NXOSHttpClientImpl.step (.create threadPoolSize) actions client) :
    CanStop client ↔ threadPoolSize = 0 ∨ StartBetweenStops (callsOf actions) := by
  by_cases hsize : threadPoolSize = 0
  · subst hsize
    simp [canStop_of_emptyPool hrun]
  · obtain ⟨-, ⟨hcalls, hsituation⟩ | ⟨hcalls, hstuck⟩⟩ := situation_or_stuck hsize hrun
    · simp [hcalls, hsituation.canStop]
    · simp [hsize, hcalls, hstuck.not_canStop]

/-! A pool of one thread that is started, stopped and then destroyed. -/

def startRunStop : List PoolAction :=
  [.call .startClient, .worker 0, .worker 0, .wake, .call .stopClient, .worker 0, .worker 0, .worker 0, .wake]

theorem not_canStop_destroy :
    ∃ client, Run NXOSHttpClientImpl.step (.create 1) (startRunStop ++ [.call .destroy]) client ∧
      ¬ CanStop client := by
  refine ⟨⟨1, [], 0, 1, .stopped, some .stopped, true⟩, run_of_replay rfl, ?_⟩
  intro hcan
  exact absurd (hcan rfl (by simp)) (by decide)

theorem canStop_iff_startRunStop :
    CanStop ⟨1, [], 0, 1, .stopped, none, false⟩ ↔ 1 = 0 ∨ StartBetweenStops (callsOf startRunStop) :=
  canStop_iff (run_of_replay rfl)

end NxosExporter
