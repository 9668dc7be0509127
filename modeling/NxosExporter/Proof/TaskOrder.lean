import NxosExporter.IoService
import NxosExporter.Proof.Stop

/-!
# The order of the tasks

The I/O service hands out its tasks in the order in which they were posted, to whatever thread asks next. A stop
lets the caller execute what had been posted before it, so it returns with nothing of that left, and from then on no
task is begun until the client is started again. The destructor stops the client for good: a task that was posted
while it did so, by one that was under way, is lost if no thread came to it.
-/

namespace NxosExporter

open Transition

variable {τ : Type} {client client' start called : ClientThreads τ} {action : ThreadsAction τ}
  {actions : List (ThreadsAction τ)}

/-- What a step posts. -/
def ThreadsAction.posts : ThreadsAction τ → List τ
  | post task => [task]
  | polled posted _ | workerDone _ posted _ => posted
  | call _ | poll | check | wake | spurious | join | worker _ => []

namespace CallerStage

def polls : CallerStage τ → Bool
  | polling | inTask _ => true
  | idle | checking _ | asleep _ | notified _ | joining => false

/-- The caller is in a STOPPED transition. -/
def leaves : CallerStage τ → Prop
  | polling | inTask _ | joining => True
  | checking state | asleep state | notified state => state = .stopped
  | idle => False

@[simp]
theorem polls_notify (caller : CallerStage τ) : caller.notify.polls = caller.polls := by
  cases caller <;> rfl

@[simp]
theorem leaves_notify (caller : CallerStage τ) : caller.notify.leaves ↔ caller.leaves := by
  cases caller <;> rfl

end CallerStage

namespace ClientThreads

/-! ### Every task once and in order -/

@[simp]
theorem polled_taken (posted : List τ) (raises : Bool) : (client.polled posted raises).taken = client.taken := by
  cases raises <;> rfl

@[simp]
theorem polled_tasks (posted : List τ) (raises : Bool) :
    (client.polled posted raises).tasks = client.tasks ++ posted := by
  cases raises <;> rfl

@[simp]
theorem call_taken (clientCall : ClientCall) : (client.call clientCall).taken = client.taken := by
  cases clientCall <;> rfl

@[simp]
theorem call_tasks (clientCall : ClientCall) : (client.call clientCall).tasks = client.tasks := by
  cases clientCall <;> rfl

@[simp]
theorem polled_dropped (posted : List τ) (raises : Bool) :
    (client.polled posted raises).dropped = client.dropped := by
  cases raises <;> rfl

@[simp]
theorem call_dropped (clientCall : ClientCall) : (client.call clientCall).dropped = client.dropped := by
  cases clientCall <;> rfl

@[simp]
theorem afterWait_dropped (state : ThreadState) : (client.afterWait state).dropped = client.dropped := by
  cases state <;> rfl

@[simp]
theorem afterWait_taken (state : ThreadState) : (client.afterWait state).taken = client.taken := by
  cases state <;> rfl

@[simp]
theorem afterWait_tasks (state : ThreadState) : (client.afterWait state).tasks = client.tasks := by
  cases state <;> rfl

/-- A task that is begun is the first of the queue. -/
theorem worker_tasks {i : Nat} (hworker : WorkerCases client i client') :
    client.taken <+: client'.taken ∧ client'.dropped = client.dropped ∧
      client'.taken ++ client'.tasks = client.taken ++ client.tasks := by
  cases hworker with
  | goOn _ _ => exact ⟨List.prefix_rfl, rfl, rfl⟩
  | giveUp _ _ => exact ⟨List.prefix_rfl, rfl, rfl⟩
  | enter _ _ => exact ⟨List.prefix_rfl, rfl, rfl⟩
  | leaveRun _ _ => exact ⟨List.prefix_rfl, rfl, rfl⟩
  | takeTask task rest _ _ htasks =>
      refine ⟨List.prefix_append client.taken [task], rfl, ?_⟩
      rw [htasks]
      exact List.append_assoc client.taken [task] rest
  | comeBack _ _ => exact ⟨List.prefix_rfl, rfl, rfl⟩
  | leaveLoop _ _ => exact ⟨List.prefix_rfl, rfl, rfl⟩

/-- Only where the threads are joined can tasks leave the queue that nobody begins. -/
theorem tasks_step (hstep : client.step action = some client') :
    client.taken <+: client'.taken ∧ (action ≠ .join → client'.dropped = client.dropped ∧
      client'.taken ++ client'.tasks = client.taken ++ client.tasks ++ action.posts) := by
  cases step_cases hstep with
  | post task _ => exact ⟨List.prefix_rfl, fun _ => ⟨rfl, (List.append_assoc _ _ _).symm⟩⟩
  | call clientCall => simp [ThreadsAction.posts]
  | pollTask task rest _ htasks => simp [pollTask, ThreadsAction.posts, htasks]
  | pollEnd _ _ => simp [stopService, ThreadsAction.posts]
  | polled task posted raises _ => simp [ThreadsAction.posts]
  | pass state _ _ => simp [ThreadsAction.posts]
  | sleep state _ _ => simp [ThreadsAction.posts]
  | wake state _ => simp [ThreadsAction.posts]
  | spurious state _ => simp [ThreadsAction.posts]
  | join _ _ => exact ⟨List.prefix_rfl, fun hjoin => absurd rfl hjoin⟩
  | worker i hworker => simpa [ThreadsAction.posts] using worker_tasks hworker
  | workerDone i task posted raises _ =>
      exact ⟨List.prefix_rfl, fun _ => ⟨rfl, (List.append_assoc _ _ _).symm⟩⟩

/-! ### What goes with the client -/

/-- The destructor has returned. -/
structure Gone (client : ClientThreads τ) : Prop where
  destroyed : client.destroyed = true
  caller : client.caller = .idle
  pool : client.threadPool = []
  tasks : client.tasks = []

/-- Tasks are dropped when the destructor returns, and not before. -/
def DropsLast (client : ClientThreads τ) : Prop := client.dropped = [] ∨ client.Gone

/-- The tasks that were posted and that nobody has begun. -/
def unbegun (client : ClientThreads τ) : List τ := client.dropped ++ client.tasks

theorem unbegun_post (posted : List τ) : (client.post posted).unbegun = client.unbegun ++ posted :=
  (List.append_assoc _ _ _).symm

theorem unbegun_call (clientCall : ClientCall) : (client.call clientCall).unbegun = client.unbegun := by
  rw [unbegun, unbegun, call_dropped, call_tasks]

theorem unbegun_afterWait (state : ThreadState) : (client.afterWait state).unbegun = client.unbegun := by
  rw [unbegun, unbegun, afterWait_dropped, afterWait_tasks]

theorem unbegun_polled (posted : List τ) (raises : Bool) :
    (client.polled posted raises).unbegun = client.unbegun ++ posted := by
  rw [unbegun, unbegun, polled_dropped, polled_tasks, List.append_assoc]

/-- Between two calls and without a thread a client can only be used or called, and not after its destructor. -/
theorem step_of_idle (hcaller : client.caller = .idle) (hpool : client.threadPool = [])
    (hstep : client.step action = some client') :
    client.destroyed = false ∧
      ((∃ task, action = .post task ∧ client' = client.post [task]) ∨ ∃ clientCall, action = .call clientCall) := by
  cases step_cases hstep with
  | post task hdestroyed => exact ⟨hdestroyed, .inl ⟨task, rfl, rfl⟩⟩
  | call clientCall _ hdestroyed => exact ⟨hdestroyed, .inr ⟨clientCall, rfl⟩⟩
  | pollTask task rest hpolling _ => simp [hcaller] at hpolling
  | pollEnd hpolling _ => simp [hcaller] at hpolling
  | polled task posted raises hpolling => simp [hcaller] at hpolling
  | pass state hchecking _ => simp [hcaller] at hchecking
  | sleep state hchecking _ => simp [hcaller] at hchecking
  | wake state hnotified => simp [hcaller] at hnotified
  | spurious state hasleep => simp [hcaller] at hasleep
  | join hjoining _ => simp [hcaller] at hjoining
  | worker i hworker =>
      obtain ⟨stage, hstage⟩ := worker_stage hworker
      rw [hpool] at hstage
      cases hstage
  | workerDone i task posted raises hstage =>
      rw [hpool] at hstage
      cases hstage

theorem Gone.step_eq_none (hgone : client.Gone) (action : ThreadsAction τ) : client.step action = none := by
  refine Option.eq_none_iff_forall_ne_some.mpr fun client' hstep => ?_
  have hdestroyed := (step_of_idle hgone.caller hgone.pool hstep).1
  rw [hgone.destroyed] at hdestroyed
  cases hdestroyed

theorem dropped_of_step (hdrops : client.DropsLast) (hstep : client.step action = some client') :
    client.dropped = [] := by
  refine hdrops.resolve_right fun hgone => ?_
  rw [hgone.step_eq_none] at hstep
  cases hstep

theorem unbegun_join : client.join.unbegun = client.unbegun := by
  cases hdestroyed : client.destroyed <;> simp [unbegun, ClientThreads.join, hdestroyed]

theorem dropsLast_step (hdrops : client.DropsLast) (hstep : client.step action = some client') :
    client'.DropsLast := by
  have hnone := dropped_of_step hdrops hstep
  by_cases hjoin : action = .join
  · subst hjoin
    cases step_cases hstep with
    | join _ _ =>
        cases hdestroyed : client.destroyed with
        | true => exact .inr ⟨hdestroyed, rfl, rfl, if_pos hdestroyed⟩
        | false => exact .inl ((if_neg (by simp [hdestroyed])).trans hnone)
  · exact .inl (((tasks_step hstep).2 hjoin).1.trans hnone)

/-- Nothing that is posted gets lost on the way, and nothing gets ahead of what was posted before it. -/
theorem unbegun_step (hdrops : client.DropsLast) (hstep : client.step action = some client') :
    client'.taken ++ client'.unbegun = client.taken ++ client.unbegun ++ action.posts := by
  by_cases hjoin : action = .join
  · subst hjoin
    cases step_cases hstep with
    | join _ _ =>
        rw [unbegun_join]
        exact (List.append_nil _).symm
  · obtain ⟨hdropped, htasks⟩ := (tasks_step hstep).2 hjoin
    rw [unbegun, unbegun, hdropped, dropped_of_step hdrops hstep, List.nil_append, List.nil_append, htasks]

/-- First in, first out, however the threads interleave, whatever raises and however often the client is started and
stopped. -/
theorem taken_append_unbegun {poolSize : Nat} (hrun : Run step (create poolSize) actions client) :
    client.DropsLast ∧ client.taken ++ client.unbegun = actions.flatMap ThreadsAction.posts := by
  refine hrun.invariant_trace (fun past mid => mid.DropsLast ∧
    mid.taken ++ mid.unbegun = past.flatMap ThreadsAction.posts) ⟨.inl rfl, rfl⟩ ?_
  intro past mid action last _ hstep hmid
  refine ⟨dropsLast_step hmid.1 hstep, ?_⟩
  rw [unbegun_step hmid.1 hstep, hmid.2, List.flatMap_append, List.flatMap_singleton]

/-! ### Stopping -/

/-- The caller makes no other call, and no task raises that it executes itself. -/
def Uninterrupted (_ : ClientThreads τ) : ThreadsAction τ → Prop
  | .call _ => False
  | .polled _ raises => raises = false
  | .post _ | .poll | .check | .wake | .spurious | .join | .worker _ | .workerDone _ _ _ => True

def Leaving (client : ClientThreads τ) : Prop :=
  client.caller.leaves ∨ client.caller = .idle ∧ client.threadPool = []

theorem worker_polls {i : Nat} (hworker : WorkerCases client i client') :
    client'.caller.polls = client.caller.polls :=
  worker_of_notify CallerStage.polls_notify hworker

/-- The tasks are in the queue or begun while the caller polls; when it no longer does they are begun, and the I/O
service is stopped. -/
structure Drains (posted : List τ) (client : ClientThreads τ) : Prop where
  leaving : client.Leaving
  tasks : client.caller.polls = true → posted <+: client.taken ++ client.tasks
  taken : client.caller.polls = false → posted <+: client.taken
  stopped : client.caller.polls = false → client.stopped = true

/-- A STOPPED transition comes to its end where the threads are joined. -/
theorem leaves_step (hleaves : client.caller.leaves) (hstep : client.step action = some client') :
    client'.caller.leaves ∧ client'.destroyed = client.destroyed ∨ client' = client.join := by
  cases step_cases hstep with
  | post task _ => exact .inl ⟨hleaves, rfl⟩
  | call clientCall hcaller _ =>
      rw [hcaller] at hleaves
      exact hleaves.elim
  | pollTask task rest _ _ => exact .inl ⟨trivial, rfl⟩
  | pollEnd _ _ => exact .inl ⟨rfl, rfl⟩
  | polled task posted raises _ =>
      cases raises with
      | true => exact .inl ⟨rfl, rfl⟩
      | false => exact .inl ⟨trivial, rfl⟩
  | pass state hcaller _ =>
      obtain rfl : state = .stopped := by simpa [hcaller, CallerStage.leaves] using hleaves
      exact .inl ⟨trivial, rfl⟩
  | sleep state hcaller _ => exact .inl ⟨by simpa [hcaller, CallerStage.leaves] using hleaves, rfl⟩
  | wake state hcaller => exact .inl ⟨by simpa [hcaller, CallerStage.leaves] using hleaves, rfl⟩
  | spurious state hcaller => exact .inl ⟨by simpa [hcaller, CallerStage.leaves] using hleaves, rfl⟩
  | join _ _ => exact .inr rfl
  | worker i hworker =>
      have hsame := worker_of_notify (fun caller => propext (CallerStage.leaves_notify caller)) hworker
      exact .inl ⟨hsame ▸ hleaves, worker_destroyed hworker⟩
  | workerDone i task posted raises _ => exact .inl ⟨hleaves, rfl⟩

theorem leaving_step (hok : Uninterrupted client action) (hstep : client.step action = some client')
    (hleaving : client.Leaving) : client'.Leaving := by
  obtain hleaves | ⟨hcaller, hpool⟩ := hleaving
  · obtain ⟨hleaves', -⟩ | rfl := leaves_step hleaves hstep
    · exact .inl hleaves'
    · exact .inr ⟨rfl, rfl⟩
  · obtain ⟨-, ⟨task, rfl, rfl⟩ | ⟨clientCall, rfl⟩⟩ := step_of_idle hcaller hpool hstep
    · exact .inr ⟨hcaller, hpool⟩
    · exact hok.elim

theorem drains_step {posted : List τ} (hok : Uninterrupted client action)
    (hstep : client.step action = some client') (hdrains : client.Drains posted) : client'.Drains posted := by
  obtain ⟨hleaving, htasks, htaken, hstopped⟩ := hdrains
  obtain ⟨hbegun, hqueue⟩ := tasks_step hstep
  have hkept : client.caller.polls = true → posted <+: client'.taken ++ client'.tasks := by
    intro hpolls
    have hjoin : action ≠ .join := by
      rintro rfl
      cases step_cases hstep with
      | join hcaller _ => simp [hcaller, CallerStage.polls] at hpolls
    rw [(hqueue hjoin).2]
    exact (htasks hpolls).trans (List.prefix_append _ _)
  have hsame : client'.caller.polls = client.caller.polls → client'.stopped = client.stopped →
      client'.Drains posted := fun hcaller hservice =>
    ⟨leaving_step hok hstep hleaving, fun hpolls => hkept (hcaller ▸ hpolls),
      fun hpolls => (htaken (hcaller ▸ hpolls)).trans hbegun, fun hpolls => hservice ▸ hstopped (hcaller ▸ hpolls)⟩
  cases step_cases hstep with
  | post task _ => exact hsame rfl rfl
  | call clientCall => exact hok.elim
  | pollTask task rest hcaller _ => exact hsame (by rw [hcaller]; rfl) rfl
  | pollEnd hcaller hempty =>
      -- Polling ends with an empty queue.
      have hbegun := htasks (by rw [hcaller]; rfl)
      rw [hempty, List.append_nil] at hbegun
      exact ⟨leaving_step hok hstep hleaving, nofun, fun _ => hbegun, fun _ => rfl⟩
  | polled task others raises hcaller =>
      obtain rfl : raises = false := hok
      exact hsame (by rw [hcaller]; rfl) rfl
  | pass state hcaller _ => cases state <;> exact hsame (by rw [hcaller]; rfl) rfl
  | sleep state hcaller _ => exact hsame (by rw [hcaller]; rfl) rfl
  | wake state hcaller => exact hsame (by rw [hcaller]; rfl) rfl
  | spurious state hcaller => exact hsame (by rw [hcaller]; rfl) rfl
  | join hcaller _ => exact hsame (by rw [hcaller]; rfl) rfl
  | worker i hworker => exact hsame (worker_polls hworker) (worker_stopped hworker)
  | workerDone i task others raises _ => exact hsame rfl rfl

theorem drains_call {stop : ClientCall} (hstops : stop.stops = true) (hservice : client.stopped = false) :
    (client.call stop).Drains (client.taken ++ client.tasks) := by
  have hcaller : (client.call stop).caller = .polling := by
    cases stop with
    | startClient => cases hstops
    | stopClient => simp [ClientThreads.call, setThreadsState, hservice]
    | destroy => simp [ClientThreads.call, setThreadsState, hservice]
  refine ⟨.inl ?_, fun _ => ?_, fun hpolls => ?_, fun hpolls => ?_⟩
  · rw [hcaller]
    trivial
  · have hkept : (client.call stop).taken ++ (client.call stop).tasks = client.taken ++ client.tasks := by
      rw [call_taken, call_tasks]
    exact hkept ▸ List.prefix_rfl
  · rw [hcaller] at hpolls
    cases hpolls
  · rw [hcaller] at hpolls
    cases hpolls

theorem drains_run {stop : ClientCall} (hstops : stop.stops = true) (hservice : start.stopped = false)
    (hcall : start.step (.call stop) = some called) (hrun : RunWhere step Uninterrupted called actions client) :
    client.Drains (start.taken ++ start.tasks) := by
  have hcalled : called.Drains (start.taken ++ start.tasks) := by
    cases step_cases hcall with
    | call _ _ _ => exact drains_call hstops hservice
  exact hrun.invariant (Drains (start.taken ++ start.tasks)) hcalled fun _ _ _ hok hstep hmid =>
    drains_step hok hstep hmid

theorem Drains.pool_of_idle {posted : List τ} (hdrains : client.Drains posted) (hidle : client.caller = .idle) :
    client.threadPool = [] := by
  simpa [Leaving, hidle, CallerStage.leaves] using hdrains.leaving

/-- No thread is there, and the caller finds the I/O service stopped. -/
structure Quiet (client : ClientThreads τ) : Prop where
  pool : client.threadPool = []
  stopped : client.stopped = true
  polls : client.caller.polls = false

/-- Only a start ends the quiet. -/
theorem quiet_step (hstart : action ≠ .call .startClient) (hstep : client.step action = some client')
    (hquiet : client.Quiet) : client'.Quiet ∧ client'.taken = client.taken := by
  obtain ⟨hpool, hstopped, hpolls⟩ := hquiet
  cases step_cases hstep with
  | post task => exact ⟨⟨hpool, hstopped, hpolls⟩, rfl⟩
  | call clientCall _ _ =>
      cases clientCall with
      | startClient => exact absurd rfl hstart
      | stopClient =>
          refine ⟨⟨hpool, hstopped, ?_⟩, rfl⟩
          simp [ClientThreads.call, setThreadsState, hstopped, CallerStage.polls]
      | destroy =>
          refine ⟨⟨hpool, hstopped, ?_⟩, rfl⟩
          simp [ClientThreads.call, setThreadsState, hstopped, CallerStage.polls]
  | pollTask task rest hcaller _ => simp [hcaller, CallerStage.polls] at hpolls
  | pollEnd hcaller _ => simp [hcaller, CallerStage.polls] at hpolls
  | polled task posted raises hcaller => simp [hcaller, CallerStage.polls] at hpolls
  | pass state _ _ => cases state <;> exact ⟨⟨hpool, hstopped, rfl⟩, rfl⟩
  | sleep state _ _ => exact ⟨⟨hpool, hstopped, rfl⟩, rfl⟩
  | wake state _ => exact ⟨⟨hpool, hstopped, rfl⟩, rfl⟩
  | spurious state _ => exact ⟨⟨hpool, hstopped, rfl⟩, rfl⟩
  | join _ _ => exact ⟨⟨rfl, hstopped, rfl⟩, rfl⟩
  | worker i hworker =>
      obtain ⟨stage, hstage⟩ := worker_stage hworker
      rw [hpool] at hstage
      cases hstage
  | workerDone i task posted raises hstage =>
      rw [hpool] at hstage
      cases hstage

/-- **Stopping drains.** Where no task raises that the caller executes itself, a stop of a running I/O service
returns with every task begun that had been posted before it and with no thread left, and no task is begun
afterwards until the client is started. -/
theorem stop_drains {stop : ClientCall} {actions' : List (ThreadsAction τ)} {later : ClientThreads τ}
    (hstops : stop.stops = true) (hservice : start.stopped = false)
    (hcall : start.step (.call stop) = some called) (hrun : RunWhere step Uninterrupted called actions client)
    (hreturned : client.caller = .idle)
    (hlater : RunWhere step (fun _ action => action ≠ .call .startClient) client actions' later) :
    start.taken ++ start.tasks <+: client.taken ∧ client.threadPool = [] ∧ later.taken = client.taken := by
  have hdrains := drains_run hstops hservice hcall hrun
  have hpolls : client.caller.polls = false := by rw [hreturned]; rfl
  have hpool := hdrains.pool_of_idle hreturned
  have hquiet : client.Quiet := ⟨hpool, hdrains.stopped hpolls, hpolls⟩
  have hstill : later.Quiet ∧ later.taken = client.taken :=
    hlater.invariant (fun mid => mid.Quiet ∧ mid.taken = client.taken) ⟨hquiet, rfl⟩
      fun _ _ _ hstart hstep hmid =>
        ⟨(quiet_step hstart hstep hmid.1).1, (quiet_step hstart hstep hmid.1).2.trans hmid.2⟩
  exact ⟨hdrains.taken hpolls, hpool, hstill.2⟩

/-- The destructor has been called, and has returned or is in its STOPPED transition. -/
def Destroying (client : ClientThreads τ) : Prop :=
  client.destroyed = true ∧ (client.caller.leaves ∨ client.Gone)

theorem destroying_step (hstep : client.step action = some client') (hdestroying : client.Destroying) :
    client'.Destroying := by
  obtain ⟨hdestroyed, hleaves | hgone⟩ := hdestroying
  · obtain ⟨hleaves', hsame⟩ | rfl := leaves_step hleaves hstep
    · exact ⟨hsame.trans hdestroyed, .inl hleaves'⟩
    · exact ⟨hdestroyed, .inr ⟨hdestroyed, rfl, rfl, if_pos hdestroyed⟩⟩
  · rw [hgone.step_eq_none] at hstep
    cases hstep

theorem destroying_call (hcall : client.step (.call .destroy) = some called) : called.Destroying := by
  cases step_cases hcall with
  | call _ _ _ =>
      refine ⟨rfl, .inl ?_⟩
      cases hservice : client.stopped <;> simp [ClientThreads.call, setThreadsState, hservice, CallerStage.leaves]

/-- **The destructor.** Where the I/O service runs and no task raises that the caller executes itself, the destructor
returns with every task begun that was posted before it was called, then those of the tasks posted since that a thread
came to, in their order. The rest of those goes with the client. -/
theorem destroy_drains {poolSize : Nat} {past : List (ThreadsAction τ)}
    (hpast : Run step (create poolSize) past start) (hservice : start.stopped = false)
    (hcall : start.step (.call .destroy) = some called) (hrun : RunWhere step Uninterrupted called actions client)
    (hreturned : client.caller = .idle) :
    ∃ late, client.taken = past.flatMap ThreadsAction.posts ++ late ∧
      late ++ client.dropped = actions.flatMap ThreadsAction.posts ∧ client.tasks = [] := by
  have hwhole : Run step (create poolSize) (past ++ [.call .destroy] ++ actions) client :=
    (hpast.append (.single trivial hcall)).append (hrun.mono fun _ _ _ => trivial)
  obtain ⟨-, hposted⟩ := taken_append_unbegun hwhole
  obtain ⟨hdrops, hbefore⟩ := taken_append_unbegun hpast
  have hgone : client.Gone := by
    have hdestroying : client.Destroying :=
      hrun.invariant Destroying (destroying_call hcall) fun _ _ _ _ hstep hmid => destroying_step hstep hmid
    refine hdestroying.2.resolve_left fun hleaves => ?_
    rw [hreturned] at hleaves
    exact hleaves
  have hstart : start.taken ++ start.tasks = past.flatMap ThreadsAction.posts := by
    rw [← hbefore, unbegun, dropped_of_step hdrops hcall, List.nil_append]
  obtain ⟨late, hlate⟩ := (drains_run rfl hservice hcall hrun).taken (by rw [hreturned]; rfl)
  rw [hstart] at hlate
  refine ⟨late, hlate.symm, ?_, hgone.tasks⟩
  have hsince : past.flatMap ThreadsAction.posts ++ (late ++ client.dropped)
      = past.flatMap ThreadsAction.posts ++ actions.flatMap ThreadsAction.posts := by
    rw [unbegun, hgone.tasks, List.append_nil, ← hlate] at hposted
    simpa [ThreadsAction.posts] using hposted
  exact List.append_cancel_left hsince

/-! One thread executes a task while the caller stops it and executes the next one. -/

def startUp : List (ThreadsAction Nat) :=
  [.call .startClient, .check, .worker 0, .worker 0, .wake, .check, .post 1, .post 2, .worker 0]

def shutDown : List (ThreadsAction Nat) :=
  [.poll, .polled [] false, .poll, .check, .workerDone 0 [3] false, .worker 0, .worker 0, .worker 0, .worker 0, .wake,
    .check, .join]

def threadsAfter (actions : List (ThreadsAction Nat)) : ClientThreads Nat :=
  (replay step (create 1) actions).getD (create 1)

theorem uninterrupted_shutDown (client : ClientThreads Nat) :
    ∀ action ∈ shutDown, Uninterrupted client action := by
  intro action haction
  cases action <;> simp_all [shutDown, Uninterrupted]

theorem stop_drains_shutDown :
    (threadsAfter startUp).taken ++ (threadsAfter startUp).tasks
        <+: (threadsAfter (startUp ++ .call .stopClient :: shutDown)).taken ∧
      (threadsAfter (startUp ++ .call .stopClient :: shutDown)).threadPool = [] ∧
      (threadsAfter (startUp ++ .call .stopClient :: shutDown ++ [.post 4])).taken
        = (threadsAfter (startUp ++ .call .stopClient :: shutDown)).taken := by
  have hcall : (threadsAfter startUp).step (.call .stopClient)
      = some (threadsAfter (startUp ++ [.call .stopClient])) := rfl
  have hrun : RunWhere step Uninterrupted (threadsAfter (startUp ++ [.call .stopClient])) shutDown
      (threadsAfter (startUp ++ .call .stopClient :: shutDown)) := .of_replay uninterrupted_shutDown rfl
  have hlater : RunWhere step (fun _ action => action ≠ .call .startClient)
      (threadsAfter (startUp ++ .call .stopClient :: shutDown)) [.post 4]
      (threadsAfter (startUp ++ .call .stopClient :: shutDown ++ [.post 4])) := .single nofun rfl
  exact stop_drains rfl rfl hcall hrun rfl hlater

/-- The task that the thread posts on its way out is lost. -/
theorem destroy_drains_shutDown :
    ∃ late, [1, 2] = startUp.flatMap ThreadsAction.posts ++ late ∧
      late ++ [3] = shutDown.flatMap ThreadsAction.posts ∧
      (threadsAfter (startUp ++ .call .destroy :: shutDown)).tasks = [] := by
  have hpast : Run step (create 1) startUp (threadsAfter startUp) := run_of_replay rfl
  have hcall : (threadsAfter startUp).step (.call .destroy) = some (threadsAfter (startUp ++ [.call .destroy])) := rfl
  have hrun : RunWhere step Uninterrupted (threadsAfter (startUp ++ [.call .destroy])) shutDown
      (threadsAfter (startUp ++ .call .destroy :: shutDown)) := .of_replay uninterrupted_shutDown rfl
  exact destroy_drains hpast rfl hcall hrun rfl

end ClientThreads

end NxosExporter
