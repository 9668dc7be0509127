import NxosExporter.Lib.OpenPool
import NxosExporter.Proof.PendingCall

/-!
# The threads as a pool of tasks

Of the threads, their mutex and their condition variable nothing shows in the tasks: they are posted to the end of
one queue, begun in its order and finished in any, and never more of them are under way than the client has threads
and a caller. So the client is the pool that the exporter posts its requests to.
-/

namespace NxosExporter

open Transition WorkPool

variable {τ ρ σ : Type} {client client' : ClientThreads τ} {action : ThreadsAction τ} {pool : Pool τ ρ σ}

def WorkerStage.task? : WorkerStage τ → Option τ
  | inTask task => some task
  | readState | enterRun | inRun | leaveRun | exit | exited => none

def CallerStage.task? : CallerStage τ → Option τ
  | inTask task => some task
  | idle | polling | checking _ | asleep _ | notified _ | joining => none

/-- What a step does to the tasks. -/
def ThreadsAction.Performs : ThreadsAction τ → List (Operation τ) → Prop
  | post task, performed => performed = [.enqueue [task]]
  | poll, performed | worker _, performed => performed = [] ∨ performed = [.start]
  | polled posted _, performed | workerDone _ posted _, performed => ∃ i, performed = [.close i posted]
  | call _, performed | check, performed | wake, performed | spurious, performed | join, performed =>
      performed = []

namespace ClientThreads

/-- The tasks that a thread or the caller is executing. -/
def executing (client : ClientThreads τ) : Multiset τ :=
  (client.caller.task?.toList : Multiset τ) + (client.threadPool : Multiset (WorkerStage τ)).filterMap WorkerStage.task?

/-- The threads are sound, and a client that has dropped tasks is gone. -/
structure Orderly (client : ClientThreads τ) : Prop extends client.Sound where
  drops : client.DropsLast

theorem orderly_create (poolSize : Nat) : (create poolSize : ClientThreads τ).Orderly :=
  ⟨sound_create poolSize, .inl rfl⟩

theorem orderly_step (hstep : client.step action = some client') (horderly : client.Orderly) : client'.Orderly :=
  ⟨sound_step hstep horderly.toSound, dropsLast_step horderly.drops hstep⟩

/-- The client seen as a pool with a place for each thread and one for the caller. What went with the client stays in
the queue of the pool, which never comes to it. -/
structure Runs (client : ClientThreads τ) (pool : Pool τ ρ σ) : Prop where
  orderly : client.Orderly
  size : pool.size = client.poolSize + 1
  queue : pool.queue = client.unbegun
  begun : pool.begun = client.executing

/-! ### What is being executed -/

/-- What is executed when worker `i` comes from one stage to the next. -/
theorem executing_setWorker {i : Nat} {stage : WorkerStage τ} (hstage : client.threadPool[i]? = some stage) :
    ∃ others : Multiset τ, client.executing = (stage.task?.toList : Multiset τ) + others ∧
      (∀ stage', (client.setWorker i stage').executing = (stage'.task?.toList : Multiset τ) + others) ∧
      others.card ≤ client.threadPool.length := by
  obtain ⟨hbefore, hafter⟩ := coe_of_getElem? hstage
  have hcons : ∀ (stage : WorkerStage τ) (rest : Multiset (WorkerStage τ)),
      (stage ::ₘ rest).filterMap WorkerStage.task? = (stage.task?.toList : Multiset τ)
        + rest.filterMap WorkerStage.task? := by
    intro stage rest
    rw [Multiset.filterMap_cons]
    cases stage.task? <;> rfl
  refine ⟨(client.caller.task?.toList : Multiset τ)
    + (client.threadPool.eraseIdx i : Multiset (WorkerStage τ)).filterMap WorkerStage.task?, ?_, fun stage' => ?_, ?_⟩
  · rw [executing, hbefore, hcons, add_left_comm]
  · rw [executing, setWorker, hafter, hcons, add_left_comm]
  · have hcaller : (client.caller.task?.toList : Multiset τ).card ≤ 1 := by
      cases client.caller.task? <;> simp
    have hworkers : ((client.threadPool.eraseIdx i : Multiset (WorkerStage τ)).filterMap WorkerStage.task?).card + 1
        ≤ client.threadPool.length := by
      have hlt := (List.getElem?_eq_some_iff.mp hstage).1
      have hfilter := List.length_filterMap_le WorkerStage.task? (client.threadPool.eraseIdx i)
      rw [List.length_eraseIdx_of_lt hlt] at hfilter
      rw [Multiset.filterMap_coe, Multiset.coe_card]
      omega
    rw [Multiset.card_add]
    omega

/-- A worker that does not execute a task, before and after. -/
theorem executing_setWorker_of_none {i : Nat} {stage stage' : WorkerStage τ}
    (hstage : client.threadPool[i]? = some stage) (hbefore : stage.task? = none) (hafter : stage'.task? = none) :
    (client.setWorker i stage').executing = client.executing := by
  obtain ⟨others, hexecuting, hset, -⟩ := executing_setWorker hstage
  rw [hset, hexecuting, hbefore, hafter]

@[simp]
theorem task?_notify (caller : CallerStage τ) : caller.notify.task? = caller.task? := by
  cases caller <;> rfl

theorem executing_notifyIf (reached : Bool) : (client.notifyIf reached).executing = client.executing := by
  cases reached with
  | true => rw [executing, executing, notifyIf, if_pos rfl, task?_notify]
  | false => rfl

/-- A step of the caller alone, from a stage to one without a task. -/
theorem executing_of_caller (hpool : client'.threadPool = client.threadPool) (hbefore : client.caller.task? = none)
    (hafter : client'.caller.task? = none) : client'.executing = client.executing := by
  rw [executing, executing, hpool, hbefore, hafter]

theorem executing_call (clientCall : ClientCall) (hcaller : client.caller = .idle) :
    (client.call clientCall).executing = client.executing := by
  have hstop : (client.setThreadsState .stopped).executing = client.executing := by
    refine executing_of_caller rfl (by rw [hcaller]; rfl) ?_
    rw [setThreadsState]
    split <;> rfl
  cases clientCall with
  | startClient =>
      have hnone : ∀ count : Nat, (List.replicate count (.readState : WorkerStage τ)).filterMap WorkerStage.task? = [] := by
        intro count
        exact List.filterMap_eq_nil_iff.mpr fun stage hstage => by rw [List.eq_of_mem_replicate hstage]; rfl
      simp [call, setThreadsState, executing, hcaller, CallerStage.task?, hnone]
  | stopClient => exact hstop
  | destroy => exact hstop

/-! ### The simulation -/

/-- A step that begins and ends no task. -/
theorem Runs.quiet (hruns : client.Runs pool) (horderly : client'.Orderly)
    (hsize : client'.poolSize = client.poolSize) (hunbegun : client'.unbegun = client.unbegun)
    (hexecuting : client'.executing = client.executing) : client'.Runs pool :=
  ⟨horderly, by rw [hruns.size, hsize], by rw [hruns.queue, hunbegun], by rw [hruns.begun, hexecuting]⟩

theorem Runs.start {task : τ} {rest : List τ} (hruns : client.Runs pool) (horderly : client'.Orderly)
    (hsize : client'.poolSize = client.poolSize) (hbefore : client.unbegun = task :: rest)
    (hafter : client'.unbegun = rest) (hexecuting : client'.executing = task ::ₘ client.executing)
    (hfree : client.executing.card < client.poolSize + 1) :
    pool.operate .start = some (pool.start task rest) ∧ client'.Runs (pool.start task rest) := by
  refine ⟨operate_start (hruns.queue.trans hbefore) ?_, horderly, ?_, hafter.symm, ?_⟩
  · rw [hruns.begun, hruns.size]
    exact hfree
  · rw [hsize]
    exact hruns.size
  · rw [begun_start, hruns.begun, hexecuting]

theorem Runs.close {task : τ} {posted : List τ} (hruns : client.Runs pool) (horderly : client'.Orderly)
    (hsize : client'.poolSize = client.poolSize) (hunbegun : client'.unbegun = client.unbegun ++ posted)
    (hexecuting : client.executing = task ::ₘ client'.executing) :
    ∃ i, pool.operate (.close i posted) = some (pool.close i posted) ∧ client'.Runs (pool.close i posted) := by
  obtain ⟨i, hclose, hbegun⟩ := exists_operate_close (hruns.begun.trans hexecuting) posted
  refine ⟨i, hclose, horderly, ?_, ?_, hbegun⟩
  · rw [hsize]
    exact hruns.size
  · rw [hunbegun, ← hruns.queue]
    rfl

/-- A step of the client is at most one operation of the pool. -/
def Matched (action : ThreadsAction τ) (pool : Pool τ ρ σ) (client' : ClientThreads τ) : Prop :=
  ∃ performed pool', action.Performs performed ∧ Run Pool.operate pool performed pool' ∧ client'.Runs pool'

theorem matched_of_quiet (hperforms : action.Performs []) (hruns : client'.Runs pool) : Matched action pool client' :=
  ⟨[], pool, hperforms, .nil pool, hruns⟩

theorem unbegun_take {task : τ} {rest : List τ} (hdropped : client.dropped = []) (htasks : client.tasks = task :: rest) :
    client.unbegun = task :: rest ∧ client.dropped ++ rest = rest := by
  rw [unbegun, hdropped, htasks]
  exact ⟨rfl, rfl⟩

theorem matched_worker {i : Nat} (hworker : WorkerCases client i client') (hruns : client.Runs pool)
    (horderly : client'.Orderly) (hdropped : client.dropped = []) : Matched (.worker i) pool client' := by
  have hframe := worker_frame hworker
  have hquiet : client'.unbegun = client.unbegun → client'.executing = client.executing →
      Matched (.worker i) pool client' := fun hunbegun hexecuting =>
    matched_of_quiet (.inl rfl) (hruns.quiet horderly hframe.1 hunbegun hexecuting)
  cases hworker with
  | goOn hstage _ => exact hquiet rfl (executing_setWorker_of_none hstage rfl rfl)
  | giveUp hstage _ => exact hquiet rfl (executing_setWorker_of_none hstage rfl rfl)
  | enter hstage _ =>
      refine hquiet rfl ?_
      rw [enter, executing_notifyIf]
      exact executing_setWorker_of_none hstage rfl rfl
  | leaveRun hstage _ => exact hquiet rfl (executing_setWorker_of_none hstage rfl rfl)
  | takeTask task rest hstage _ htasks =>
      obtain ⟨others, hexecuting, hset, hcard⟩ := executing_setWorker hstage
      have hsame : client.executing = others := by
        rw [hexecuting]
        exact zero_add others
      have hbegun : (client.takeTask i task rest).executing = task ::ₘ client.executing := by
        rw [hsame]
        exact hset (.inTask task)
      have hfree : client.executing.card < client.poolSize + 1 := by
        have hlength := hruns.orderly.length
        rw [hsame]
        omega
      obtain ⟨hbefore, hafter⟩ := unbegun_take hdropped htasks
      obtain ⟨hstart, hruns'⟩ := hruns.start horderly rfl hbefore hafter hbegun hfree
      exact ⟨[.start], _, .inr rfl, .single trivial hstart, hruns'⟩
  | comeBack hstage _ => exact hquiet rfl (executing_setWorker_of_none hstage rfl rfl)
  | leaveLoop hstage _ =>
      refine hquiet rfl ?_
      rw [leaveLoop, executing_notifyIf]
      exact executing_setWorker_of_none hstage rfl rfl

theorem matched_step (hstep : client.step action = some client') (hruns : client.Runs pool) :
    Matched action pool client' := by
  have horderly := orderly_step hstep hruns.orderly
  have hdropped := dropped_of_step hruns.orderly.drops hstep
  cases step_cases hstep with
  | post task =>
      refine ⟨[.enqueue [task]], pool.enqueue [task], rfl, .single trivial rfl, horderly, hruns.size, ?_, hruns.begun⟩
      rw [unbegun_post, ← hruns.queue]
      rfl
  | call clientCall hcaller _ =>
      refine matched_of_quiet rfl (hruns.quiet horderly ?_ (unbegun_call clientCall) (executing_call clientCall hcaller))
      cases clientCall <;> rfl
  | pollTask task rest hcaller htasks =>
      have hbefore : client.executing = (client.threadPool : Multiset (WorkerStage τ)).filterMap WorkerStage.task? := by
        rw [executing, hcaller]
        exact zero_add _
      have hbegun : (client.pollTask task rest).executing = task ::ₘ client.executing := by
        rw [hbefore, ← Multiset.singleton_add]
        rfl
      have hfree : client.executing.card < client.poolSize + 1 := by
        have hfilter := List.length_filterMap_le WorkerStage.task? client.threadPool
        have hlength := hruns.orderly.length
        rw [hbefore, Multiset.filterMap_coe, Multiset.coe_card]
        omega
      obtain ⟨hfirst, hrest⟩ := unbegun_take hdropped htasks
      obtain ⟨hstart, hruns'⟩ := hruns.start horderly rfl hfirst hrest hbegun hfree
      exact ⟨[.start], _, .inr rfl, .single trivial hstart, hruns'⟩
  | pollEnd hcaller htasks =>
      exact matched_of_quiet (.inl rfl)
        (hruns.quiet horderly rfl rfl (executing_of_caller rfl (by rw [hcaller]; rfl) rfl))
  | polled task posted raises hcaller =>
      have hended : client.executing = task ::ₘ (client.polled posted raises).executing := by
        rw [executing, hcaller, ← Multiset.singleton_add]
        cases raises <;> exact congrArg _ (zero_add _).symm
      have hsize : (client.polled posted raises).poolSize = client.poolSize := by cases raises <;> rfl
      obtain ⟨i, hclose, hruns'⟩ := hruns.close horderly hsize (unbegun_polled posted raises) hended
      exact ⟨[.close i posted], _, ⟨i, rfl⟩, .single trivial hclose, hruns'⟩
  | pass state hcaller _ =>
      refine matched_of_quiet rfl (hruns.quiet horderly ?_ (unbegun_afterWait state) ?_)
      · cases state <;> rfl
      · cases state <;> exact executing_of_caller rfl (by rw [hcaller]; rfl) rfl
  | sleep state hcaller _ =>
      exact matched_of_quiet rfl (hruns.quiet horderly rfl rfl (executing_of_caller rfl (by rw [hcaller]; rfl) rfl))
  | wake state hcaller =>
      exact matched_of_quiet rfl (hruns.quiet horderly rfl rfl (executing_of_caller rfl (by rw [hcaller]; rfl) rfl))
  | spurious state hcaller =>
      exact matched_of_quiet rfl (hruns.quiet horderly rfl rfl (executing_of_caller rfl (by rw [hcaller]; rfl) rfl))
  | join hcaller hexited =>
      refine matched_of_quiet rfl (hruns.quiet horderly rfl unbegun_join ?_)
      have hnone : client.threadPool.filterMap WorkerStage.task? = [] := by
        refine List.filterMap_eq_nil_iff.mpr fun stage hstage => ?_
        rw [hexited stage hstage]
        rfl
      have hafter : client.join.executing = 0 := rfl
      rw [hafter, executing, hcaller, Multiset.filterMap_coe, hnone]
      rfl
  | worker i hworker => exact matched_worker hworker hruns horderly hdropped
  | workerDone i task posted raises hstage =>
      obtain ⟨others, hexecuting, hset, -⟩ := executing_setWorker hstage
      have hended : client.executing = task ::ₘ (client.workerDone i posted raises).executing := by
        have hafter : (client.workerDone i posted raises).executing
            = (client.setWorker i (if raises then .leaveRun else .inRun)).executing := rfl
        rw [hafter, hset, hexecuting]
        cases raises <;> exact congrArg _ (zero_add others).symm
      obtain ⟨j, hclose, hruns'⟩ := hruns.close horderly rfl (List.append_assoc _ _ _).symm hended
      exact ⟨[.close j posted], _, ⟨j, rfl⟩, .single trivial hclose, hruns'⟩

/-- **Refinement.** The threads do to their tasks what a pool does that has a place for each thread and one for the
caller: each step is one of its operations or none. -/
theorem threads_refine_tasks {poolSize : Nat} {actions : List (ThreadsAction τ)}
    (hrun : Run step (create poolSize) actions client) (shared : σ) :
    ∃ performed pool, List.Forall₂ ThreadsAction.Performs actions performed ∧
      Run Pool.operate (⟨poolSize + 1, [], [], shared⟩ : Pool τ ρ σ) performed.flatten pool ∧
      pool.queue = client.unbegun ∧ client.DropsLast ∧ pool.begun = client.executing := by
  have hinit : (create poolSize : ClientThreads τ).Runs (⟨poolSize + 1, [], [], shared⟩ : Pool τ ρ σ) :=
    ⟨orderly_create poolSize, rfl, rfl, rfl⟩
  obtain ⟨performed, pool, hperforms, hpool, hruns⟩ :=
    hrun.exists_simulating Runs ThreadsAction.Performs hinit
      fun _ _ _ _ _ hstep hmid => matched_step hstep hmid
  exact ⟨performed, pool, hperforms, hpool, hruns.queue, hruns.orderly.drops, hruns.begun⟩

/-! One thread has begun the first of two tasks. -/

theorem threads_refine_tasks_startUp :
    ∃ performed pool, List.Forall₂ ThreadsAction.Performs startUp performed ∧
      Run Pool.operate (⟨2, [], [], ()⟩ : Pool Nat Unit Unit) performed.flatten pool ∧
      pool.queue = [2] ∧ pool.begun = {1} := by
  have hrun : Run step (create 1) startUp (threadsAfter startUp) := run_of_replay rfl
  obtain ⟨performed, pool, hperforms, hpool, hqueue, -, hbegun⟩ := threads_refine_tasks hrun ()
  exact ⟨performed, pool, hperforms, hpool, hqueue, hbegun⟩

end ClientThreads

end NxosExporter
