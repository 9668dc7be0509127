import NxosExporter.ThreadedExporter
import NxosExporter.Proof.RenewRebind
import NxosExporter.Proof.TaskPool

/-!
# The threads as the exporter's pool

The exporter takes the requests of a callout as posted at once and a closure as one entry that is answered and
finished. On the threads the requests go out one at a time and the closure lives on until the last of them is sent.
What has yet to be sent counts as queued, in no order, so that each thread step is at most the exporter's one, with a
reordering before a task is taken.
-/

namespace NxosExporter

open Transition WorkPool

/-! ### The task of an executor -/

namespace ClientThreads

variable {τ : Type} {client client' : ClientThreads τ} {executor : Executor} {task : τ} {action : ThreadsAction τ}

theorem stage_of_taskOf {i : Nat} (htask : client.taskOf (.worker i) = some task) :
    client.threadPool[i]? = some (.inTask task) := by
  simp only [taskOf] at htask
  split at htask
  · rename_i other hstage
    obtain rfl := Option.some.inj htask
    exact hstage
  · cases htask

theorem caller_of_taskOf (htask : client.taskOf .caller = some task) : client.caller = .inTask task := by
  simp only [taskOf] at htask
  split at htask
  · rename_i other hcaller
    obtain rfl := Option.some.inj htask
    exact hcaller
  · cases htask

/-- What is executed apart from the task of one executor. -/
theorem executing_of_taskOf (htask : client.taskOf executor = some task) :
    ∃ others : Multiset τ, client.executing = task ::ₘ others ∧
      (∀ task', (client.setTask task' executor).executing = task' ::ₘ others) ∧
      ∀ raises ended, client.step (executor.ends raises) = some ended → ended.executing = others := by
  cases executor with
  | worker i =>
      obtain ⟨others, hexecuting, hset, -⟩ := executing_setWorker (stage_of_taskOf htask)
      refine ⟨others, hexecuting, fun task' => hset (.inTask task'), fun raises ended hended => ?_⟩
      have hdone : client.step (.workerDone i [] raises) = some ended := hended
      cases step_cases hdone with
      | workerDone _ _ _ _ _ =>
          have hafter : (client.workerDone i [] raises).executing
              = (client.setWorker i (if raises then .leaveRun else .inRun)).executing := rfl
          rw [hafter, hset]
          cases raises <;> exact zero_add others
  | caller =>
      have hcaller := caller_of_taskOf htask
      refine ⟨(client.threadPool : Multiset (WorkerStage τ)).filterMap WorkerStage.task?, ?_, fun task' => rfl,
        fun raises ended hended => ?_⟩
      · rw [executing, hcaller]
        rfl
      · have hdone : client.step (.polled [] raises) = some ended := hended
        cases step_cases hdone with
        | polled _ _ _ _ => cases raises <;> exact zero_add _

@[simp]
theorem setTask_unbegun (client : ClientThreads τ) (task : τ) (executor : Executor) :
    (client.setTask task executor).unbegun = client.unbegun := by cases executor <;> rfl

@[simp]
theorem setTask_poolSize (client : ClientThreads τ) (task : τ) (executor : Executor) :
    (client.setTask task executor).poolSize = client.poolSize := by cases executor <;> rfl

theorem frame_ends {raises : Bool} (hended : client.step (executor.ends raises) = some client') :
    client'.unbegun = client.unbegun ∧ client'.poolSize = client.poolSize := by
  cases executor with
  | worker i =>
      have hdone : client.step (.workerDone i [] raises) = some client' := hended
      cases step_cases hdone with
      | workerDone _ _ _ _ _ => exact ⟨congrArg (client.dropped ++ ·) (List.append_nil _), rfl⟩
  | caller =>
      have hdone : client.step (.polled [] raises) = some client' := hended
      cases step_cases hdone with
      | polled _ _ _ _ =>
          refine ⟨(unbegun_polled [] raises).trans (List.append_nil _), ?_⟩
          cases raises <;> rfl

theorem sound_post (posted : List τ) (hsound : client.Sound) : (client.post posted).Sound :=
  ⟨hsound.running, hsound.length, hsound.filled, hsound.state, hsound.stopped, hsound.asleep⟩

theorem sound_setTask (htask : client.taskOf executor = some task) (task' : τ) (hsound : client.Sound) :
    (client.setTask task' executor).Sound := by
  obtain ⟨hrunning, hlength, hfilled, hstate, hstopped, hasleep⟩ := hsound
  cases executor with
  | worker i =>
      have hsame : (client.setWorker i (.inTask task')).impl = client.impl :=
        setWorker_impl_of_inRun (stage_of_taskOf htask) rfl
      have hkept : (client.setWorker i (.inTask task')).threadPool.length = client.threadPool.length :=
        List.length_set
      refine ⟨?_, hkept ▸ hlength, fun hwaits => hkept ▸ hfilled hwaits, hstate, hstopped, fun state hcaller => ?_⟩
      · have hcount : client.runningThreads = (client.setWorker i (.inTask task')).impl.threadPool.count .inRun := by
          rw [hsame]
          exact hrunning
        exact hcount
      · have hwaits := hasleep state hcaller
        cases state <;> simpa [setTask, setWorker, waitsFor] using hwaits
  | caller =>
      rw [caller_of_taskOf htask] at hfilled hstate hstopped
      refine ⟨hrunning, hlength, hfilled, hstate, hstopped, fun state hcaller => ?_⟩
      cases hcaller

theorem dropped_of_taskOf (htask : client.taskOf executor = some task) (hdrops : client.DropsLast) :
    client.dropped = [] := by
  refine hdrops.resolve_right fun hgone => ?_
  cases executor with
  | worker i =>
      have hstage := stage_of_taskOf htask
      rw [hgone.pool] at hstage
      cases hstage
  | caller =>
      have hcaller := caller_of_taskOf htask
      rw [hgone.caller] at hcaller
      cases hcaller

theorem orderly_post (htask : client.taskOf executor = some task) (posted : List τ) (horderly : client.Orderly) :
    (client.post posted).Orderly := by
  have hdropped : client.dropped = [] := dropped_of_taskOf htask horderly.drops
  exact ⟨sound_post posted horderly.toSound, .inl hdropped⟩

theorem orderly_setTask (htask : client.taskOf executor = some task) (task' : τ) (horderly : client.Orderly) :
    (client.setTask task' executor).Orderly := by
  refine ⟨sound_setTask htask task' horderly.toSound, .inl ?_⟩
  have hdropped := dropped_of_taskOf htask horderly.drops
  cases executor <;> exact hdropped

/-- A step that neither posts a task nor ends one takes at most the first of the queue. -/
theorem tasks_of_internal (hinternal : action.isInternal = true) (hstep : client.step action = some client')
    (horderly : client.Orderly) :
    client'.poolSize = client.poolSize ∧
      ((client'.unbegun = client.unbegun ∧ client'.executing = client.executing) ∨
        ∃ task, client.unbegun = task :: client'.unbegun ∧ client'.executing = task ::ₘ client.executing ∧
          client.executing.card ≤ client.poolSize) := by
  let pool : Pool τ Unit Unit :=
    ⟨client.poolSize + 1, client.unbegun, client.executing.toList.map fun task => (task, none), ()⟩
  have hbegun : pool.begun = client.executing := by
    simp only [pool, Pool.begun, Multiset.map_coe, List.map_map, Function.comp_def, List.map_id', Multiset.coe_toList]
  obtain ⟨performed, pool', hperforms, hrun, hruns⟩ := matched_step hstep (⟨horderly, rfl, rfl, hbegun⟩ : client.Runs pool)
  have hcases : performed = [] ∨ performed = [.start] := by
    cases action <;> first | exact .inl hperforms | exact hperforms | cases hinternal
  obtain rfl | rfl := hcases
  · obtain rfl : pool = pool' := Option.some.inj (replay_of_run hrun)
    exact ⟨(Nat.succ.inj hruns.size).symm, .inl ⟨hruns.queue.symm, hruns.begun.symm.trans hbegun⟩⟩
  · have hstart : pool.operate .start = some pool' := by
      simpa [replay] using replay_of_run hrun
    rw [Pool.operate] at hstart
    split at hstart
    · rename_i task rest hqueue
      rw [Option.ite_none_right_eq_some, Option.some.injEq] at hstart
      obtain ⟨hfree, rfl⟩ := hstart
      refine ⟨(Nat.succ.inj hruns.size).symm, .inr ⟨task, ?_, ?_, ?_⟩⟩
      · rw [← hruns.queue]
        exact hqueue
      · rw [← hruns.begun, begun_start, hbegun]
      · have hcard : client.executing.card = pool.inFlight.length := by
          rw [← hbegun, Pool.begun, Multiset.card_map, Multiset.coe_card]
        rw [hcard]
        exact Nat.le_of_lt_succ hfree
    · cases hstart

end ClientThreads

/-! ### What the exporter sees -/

/-- The entry of a closure in the pool; none once its handler has run. -/
def Closure.entry? : Closure → Option (Request × Option Reply)
  | ⟨request, .fresh⟩ => some (request, none)
  | ⟨request, .replied reply⟩ => some (request, some reply)
  | ⟨_, .sending _ _⟩ => none

def Closure.unsent : Closure → List Request
  | ⟨_, .sending requests _⟩ => requests
  | ⟨_, .fresh⟩ | ⟨_, .replied _⟩ => []

variable {Addr : Type}

/-- What the exporter does for a step of the threads. -/
def ThreadedAction.Performs (started : StartedParams) : ThreadedAction Addr → List (ExporterAction Addr) → Prop
  | callout event, performed => performed = [.callout event]
  | send _, performed | sendNext _, performed | endTask _, performed => performed = []
  | tick, performed => performed = [.tick]
  | answerHeartbeat i env, performed => ∃ service reply,
      NxosExporter.exchange started env (heartbeatRequest started service) = some reply ∧
        performed = [.answerHeartbeat i reply]
  | finishHeartbeat i, performed => performed = [.finishHeartbeat i]
  | threads _, performed => performed = [] ∨ ∃ queue, performed = [.reorder queue, .take]
  | exchange _ env reached, performed => ∃ (i : Nat) (request : Request) (reply : Option Reply),
      NxosExporter.exchange started env (request.toHttp started.params.connInfo.url) = some reply ∧
        performed = [.execute i reached reply]
  | handle _ leaseMgr cfgMgr, performed => ∃ i, performed = [.finish i leaseMgr cfgMgr]
  | reboot saved, performed => performed = [.reboot saved]

namespace ThreadedExporter

variable {threaded threaded' : ThreadedExporter} {exporter : Exporter} {started : StartedParams}
  {action : ThreadedAction Addr} {executor : Executor} {request : Request}

/-- The requests that are posted and not begun or have yet to be posted. -/
def queued (threaded : ThreadedExporter) : Multiset Request :=
  (threaded.threads.unbegun.map Closure.request : Multiset Request)
    + (threaded.sending : Multiset (List Request)).bind (fun requests => (requests : Multiset Request))
    + threaded.threads.executing.bind fun closure => (closure.unsent : Multiset Request)

structure Mirrors (threaded : ThreadedExporter) (exporter : Exporter) : Prop where
  heartbeatService : exporter.heartbeatService = threaded.heartbeatService
  heartbeats : exporter.heartbeats = threaded.heartbeats
  orderly : threaded.threads.Orderly
  fresh : ∀ closure ∈ threaded.threads.unbegun, closure.stage = .fresh
  size : exporter.client.size = threaded.threads.poolSize + 1
  queue : (exporter.client.queue : Multiset Request) = threaded.queued
  inFlight : (exporter.client.inFlight : Multiset (Request × Option Reply))
    = threaded.threads.executing.filterMap Closure.entry?
  shared : exporter.client.shared = threaded.table
  sent : exporter.sent = threaded.sent
  logged : exporter.logged = threaded.logged

theorem mirrors_create (heartbeatService : NXOSHeartbeatService) (poolSize : Nat) (table : RouteTable) :
    (create heartbeatService poolSize table).Mirrors (.create heartbeatService (poolSize + 1) table) :=
  ⟨rfl, rfl, ClientThreads.orderly_create poolSize, fun _ hmem => absurd hmem List.not_mem_nil, rfl, rfl, rfl, rfl, rfl,
    rfl⟩

variable [DecidableEq Addr] [IOAddress Addr]

/-- A step of the threads is matched by what the exporter does for it. -/
def Mirrored (started : StartedParams) (action : ThreadedAction Addr) (exporter : Exporter)
    (threaded' : ThreadedExporter) : Prop :=
  ∃ performed exporter', action.Performs started performed ∧ Run Exporter.step exporter performed exporter' ∧
    threaded'.Mirrors exporter'

theorem queued_of_executing {closure : Closure} {others : Multiset Closure}
    (hexecuting : threaded.threads.executing = closure ::ₘ others) :
    threaded.queued = (closure.unsent : Multiset Request)
      + ((threaded.threads.unbegun.map Closure.request : Multiset Request)
        + (threaded.sending : Multiset (List Request)).bind (fun requests => (requests : Multiset Request))
        + others.bind fun closure => (closure.unsent : Multiset Request)) := by
  rw [queued, hexecuting, Multiset.cons_bind]
  abel

/-- The entry of the closure that an executor is at, and what is in flight apart from it. -/
theorem Mirrors.entry_of_taskOf {closure : Closure} {entry : Request × Option Reply} (hmirrors : threaded.Mirrors exporter)
    (htask : threaded.threads.taskOf executor = some closure) (hclosure : closure.entry? = some entry) :
    ∃ (others : Multiset Closure) (i : Nat), threaded.threads.executing = closure ::ₘ others ∧
      (∀ closure', (threaded.threads.setTask closure' executor).executing = closure' ::ₘ others) ∧
      exporter.client.inFlight[i]? = some entry ∧
      (∀ entry', (exporter.client.inFlight.set i entry' : Multiset (Request × Option Reply))
        = entry' ::ₘ others.filterMap Closure.entry?) ∧
      (exporter.client.inFlight.eraseIdx i : Multiset (Request × Option Reply))
        = others.filterMap Closure.entry? := by
  obtain ⟨others, hexecuting, hset, -⟩ := ClientThreads.executing_of_taskOf htask
  have hentries : (exporter.client.inFlight : Multiset (Request × Option Reply))
      = entry ::ₘ others.filterMap Closure.entry? := by
    rw [hmirrors.inFlight, hexecuting, Multiset.filterMap_cons_some _ _ _ hclosure]
  obtain ⟨i, hentry, hothers⟩ := exists_getElem?_of_coe hentries
  exact ⟨others, i, hexecuting, hset, hentry, fun entry' => hothers ▸ (coe_of_getElem? hentry).2 entry', hothers⟩

/-- A closure is posted with its request still to be made. -/
theorem Mirrors.fresh_post (hmirrors : threaded.Mirrors exporter) (request : Request) :
    ∀ closure ∈ (threaded.threads.post [⟨request, .fresh⟩]).unbegun, closure.stage = .fresh := by
  intro closure hmem
  rw [ClientThreads.unbegun_post] at hmem
  obtain hmem | hmem := List.mem_append.mp hmem
  · exact hmirrors.fresh closure hmem
  · rw [List.mem_singleton.mp hmem]

/-! ### The steps of a closure -/

theorem mirrored_exchange {env : HttpEnv} {reached : Bool} {reply : Option Reply}
    (htask : threaded.threads.taskOf executor = some ⟨request, .fresh⟩)
    (hexchange : NxosExporter.exchange started env (request.toHttp started.params.connInfo.url) = some reply)
    (hmirrors : threaded.Mirrors exporter) :
    Mirrored started (.exchange executor env reached : ThreadedAction Addr) exporter
      (threaded.afterExchange executor request reached reply) := by
  obtain ⟨others, i, hexecuting, hset, hentry, hanswered, hdropped⟩ := hmirrors.entry_of_taskOf htask rfl
  have hstep : exporter.step (.execute i reached reply : ExporterAction Addr)
      = some (exporter.execute i request reached reply) := by
    simp only [Exporter.step, hentry]
  refine ⟨[.execute i reached reply], _, ⟨i, request, reply, hexchange, rfl⟩, .single trivial hstep, ?_⟩
  have hafter : (threaded.afterExchange executor request reached reply).threads.executing
      = ⟨request, .afterExchange reply⟩ ::ₘ others := hset _
  refine ⟨hmirrors.heartbeatService, hmirrors.heartbeats, ClientThreads.orderly_setTask htask _ hmirrors.orderly,
    ?fresh, ?size, ?queue, ?inFlight, ?shared, congrArg (· ++ [request]) hmirrors.sent, hmirrors.logged⟩
  case fresh =>
    intro closure hmem
    rw [afterExchange, ClientThreads.setTask_unbegun] at hmem
    exact hmirrors.fresh closure hmem
  case size =>
    rw [afterExchange, ClientThreads.setTask_poolSize, ← hmirrors.size]
    cases reply <;> rfl
  case queue =>
    have hsame : (exporter.execute i request reached reply).client.queue = exporter.client.queue := by
      cases reply <;> rfl
    rw [hsame, hmirrors.queue, queued_of_executing hexecuting, queued_of_executing hafter, afterExchange,
      ClientThreads.setTask_unbegun]
    cases reply <;> rfl
  case inFlight =>
    rw [hafter]
    cases reply with
    | some reply => exact (hanswered _).trans (Multiset.filterMap_cons_some Closure.entry? _ _ rfl).symm
    | none => exact hdropped.trans (Multiset.filterMap_cons_none _ _ rfl).symm
  case shared =>
    rw [Exporter.execute_shared, hmirrors.shared]
    rfl

theorem mirrored_handle {leaseMgr : LeaseMgr Addr} {cfgMgr : CfgMgr} {reply : Reply} {raises : Bool}
    (htask : threaded.threads.taskOf executor = some ⟨request, .replied reply⟩) (hmirrors : threaded.Mirrors exporter) :
    Mirrored started (.handle executor leaseMgr cfgMgr : ThreadedAction Addr) exporter
      (threaded.afterHandler executor request reply leaseMgr cfgMgr raises) := by
  obtain ⟨others, i, hexecuting, hset, hentry, -, hclosed⟩ := hmirrors.entry_of_taskOf htask rfl
  have hstep : exporter.step (.finish i leaseMgr cfgMgr : ExporterAction Addr)
      = some (exporter.finish i request reply leaseMgr cfgMgr) := by
    simp only [Exporter.step, hentry]
  refine ⟨[.finish i leaseMgr cfgMgr], _, ⟨i, rfl⟩, .single trivial hstep, ?_⟩
  have hafter : (threaded.afterHandler executor request reply leaseMgr cfgMgr raises).threads.executing
      = ⟨request, .sending ((handleReply request.handler reply).effects.flatMap (ClientEffect.posted leaseMgr cfgMgr))
          raises⟩ ::ₘ others := hset _
  refine ⟨?heartbeatService, hmirrors.heartbeats, ClientThreads.orderly_setTask htask _ hmirrors.orderly, ?fresh, ?size,
    ?queue, ?inFlight, hmirrors.shared, hmirrors.sent, ?logged⟩
  case heartbeatService =>
    rw [Exporter.finish, afterHandler, hmirrors.heartbeatService]
  case fresh =>
    intro closure hmem
    rw [afterHandler, ClientThreads.setTask_unbegun] at hmem
    exact hmirrors.fresh closure hmem
  case size =>
    rw [afterHandler, ClientThreads.setTask_poolSize]
    exact hmirrors.size
  case queue =>
    rw [queued_of_executing hafter, afterHandler, ClientThreads.setTask_unbegun, add_comm]
    have hqueue : (exporter.client.queue : Multiset Request) = _ :=
      hmirrors.queue.trans ((queued_of_executing hexecuting).trans (zero_add _))
    rw [← hqueue]
    exact (Multiset.coe_add _ _).symm
  case inFlight =>
    rw [hafter, Multiset.filterMap_cons_none _ _ rfl]
    exact hclosed
  case logged =>
    rw [Exporter.finish, afterHandler, hmirrors.logged]

/-- What a closure sends next was already queued. -/
theorem mirrored_sendNext {next : Request} {rest : List Request} {raises : Bool}
    (htask : threaded.threads.taskOf executor = some ⟨request, .sending (next :: rest) raises⟩)
    (hmirrors : threaded.Mirrors exporter) :
    Mirrored started (.sendNext executor : ThreadedAction Addr) exporter { threaded with
      threads := (threaded.threads.post [⟨next, .fresh⟩]).setTask ⟨request, .sending rest raises⟩ executor } := by
  have htask' : (threaded.threads.post [⟨next, .fresh⟩]).taskOf executor
      = some ⟨request, .sending (next :: rest) raises⟩ := by
    cases executor <;> exact htask
  obtain ⟨others, hexecuting, hset, -⟩ := ClientThreads.executing_of_taskOf htask'
  have hbefore : threaded.threads.executing = ⟨request, .sending (next :: rest) raises⟩ ::ₘ others := hexecuting
  refine ⟨[], exporter, rfl, .nil exporter, hmirrors.heartbeatService, hmirrors.heartbeats,
    ClientThreads.orderly_setTask htask' _ (ClientThreads.orderly_post htask _ hmirrors.orderly), ?fresh, ?size, ?queue,
    ?inFlight, hmirrors.shared, hmirrors.sent, hmirrors.logged⟩
  case fresh =>
    rw [ClientThreads.setTask_unbegun]
    exact hmirrors.fresh_post next
  case size =>
    rw [ClientThreads.setTask_poolSize]
    exact hmirrors.size
  case queue =>
    rw [hmirrors.queue, queued_of_executing hbefore, queued_of_executing (hset _), ClientThreads.setTask_unbegun,
      ClientThreads.unbegun_post, List.map_append, ← Multiset.coe_add]
    simp only [Closure.unsent, ← Multiset.cons_coe, List.map_cons, List.map_nil, Multiset.coe_nil,
      ← Multiset.singleton_add]
    abel
  case inFlight =>
    rw [hset, hmirrors.inFlight, hbefore, Multiset.filterMap_cons_none _ _ rfl, Multiset.filterMap_cons_none _ _ rfl]

theorem mirrored_endTask {raises : Bool} {threads : ClientThreads Closure}
    (htask : threaded.threads.taskOf executor = some ⟨request, .sending [] raises⟩)
    (hended : threaded.threads.step (executor.ends raises) = some threads) (hmirrors : threaded.Mirrors exporter) :
    Mirrored started (.endTask executor : ThreadedAction Addr) exporter { threaded with threads := threads } := by
  obtain ⟨others, hexecuting, -, hends⟩ := ClientThreads.executing_of_taskOf htask
  obtain ⟨hunbegun, hsize⟩ := ClientThreads.frame_ends hended
  have hafter : threads.executing = others := hends raises threads hended
  refine ⟨[], exporter, rfl, .nil exporter, hmirrors.heartbeatService, hmirrors.heartbeats,
    ClientThreads.orderly_step hended hmirrors.orderly, ?fresh, ?size, ?queue, ?inFlight, hmirrors.shared, hmirrors.sent,
    hmirrors.logged⟩
  case fresh =>
    intro closure hmem
    exact hmirrors.fresh closure (hunbegun ▸ hmem)
  case size => rw [hmirrors.size, hsize]
  case queue =>
    rw [hmirrors.queue, queued_of_executing hexecuting, queued, hafter, hunbegun]
    exact zero_add _
  case inFlight =>
    rw [hmirrors.inFlight, hexecuting, Multiset.filterMap_cons_none _ _ rfl, hafter]

/-! ### The other steps -/

/-- A request that a callout or a heartbeat sends was already queued. -/
theorem mirrored_send {j : Nat} {rest : List Request} {threads : ClientThreads Closure}
    (hsending : threaded.sending[j]? = some (request :: rest))
    (hpost : threaded.threads.step (.post ⟨request, .fresh⟩) = some threads) (hmirrors : threaded.Mirrors exporter) :
    Mirrored started (.send j : ThreadedAction Addr) exporter
      { threaded with threads := threads, sending := threaded.sending.set j rest } := by
  have horderly := ClientThreads.orderly_step hpost hmirrors.orderly
  cases ClientThreads.step_cases hpost with
  | post _ =>
      refine ⟨[], exporter, rfl, .nil exporter, hmirrors.heartbeatService, hmirrors.heartbeats, horderly, hmirrors.fresh_post request,
        hmirrors.size, ?queue, hmirrors.inFlight, hmirrors.shared, hmirrors.sent, hmirrors.logged⟩
      case queue =>
        obtain ⟨hbefore, hafter⟩ := coe_of_getElem? hsending
        have hexecuting : (threaded.threads.post [⟨request, .fresh⟩]).executing = threaded.threads.executing := rfl
        rw [hmirrors.queue, queued, queued, hexecuting, hbefore, hafter, Multiset.cons_bind, Multiset.cons_bind,
          ClientThreads.unbegun_post, List.map_append, ← Multiset.coe_add]
        simp only [← Multiset.cons_coe, List.map_cons, List.map_nil, Multiset.coe_nil, ← Multiset.singleton_add]
        abel

/-- What is about to be sent is queued. -/
theorem queued_sending (threaded : ThreadedExporter) (requests : List Request) :
    { threaded with sending := threaded.sending ++ [requests] }.queued
      = threaded.queued + (requests : Multiset Request) := by
  simp only [queued, ← Multiset.coe_add, Multiset.add_bind, Multiset.coe_singleton, Multiset.singleton_bind]
  abel

theorem mirrored_callout {event : CalloutEvent Addr} (hmirrors : threaded.Mirrors exporter) :
    Mirrored started (.callout event) exporter { threaded with sending := threaded.sending ++ [event.posted] } := by
  refine ⟨[.callout event], _, rfl, .single trivial rfl, hmirrors.heartbeatService, hmirrors.heartbeats, hmirrors.orderly,
    hmirrors.fresh, hmirrors.size, ?_, hmirrors.inFlight, hmirrors.shared, hmirrors.sent, hmirrors.logged⟩
  rw [queued_sending, ← hmirrors.queue]
  exact (Multiset.coe_add _ _).symm

theorem mirrored_finishHeartbeat {i : Nat} {reply : Reply} {heartbeatService : NXOSHeartbeatService}
    (hreply : threaded.heartbeats[i]? = some (some reply))
    (hhandled : (threaded.heartbeatService.heartbeatReply reply).outcome = .ok heartbeatService)
    (hmirrors : threaded.Mirrors exporter) :
    Mirrored started (.finishHeartbeat i : ThreadedAction Addr) exporter { threaded with
      heartbeatService := heartbeatService
      heartbeats := threaded.heartbeats.eraseIdx i
      sending := threaded.sending
        ++ [(threaded.heartbeatService.heartbeatReply reply).effects.flatMap HeartbeatEffect.posted] } := by
  have hstep : exporter.step (.finishHeartbeat i : ExporterAction Addr) = some { exporter with
      heartbeatService := heartbeatService
      heartbeats := exporter.heartbeats.eraseIdx i
      client := exporter.client.enqueue
        ((exporter.heartbeatService.heartbeatReply reply).effects.flatMap HeartbeatEffect.posted) } := by
    rw [← hmirrors.heartbeats] at hreply
    rw [← hmirrors.heartbeatService] at hhandled
    simp only [Exporter.step, hreply, Exporter.finishHeartbeat, hhandled]
  refine ⟨[.finishHeartbeat i], _, rfl, .single trivial hstep, rfl, ?heartbeats, hmirrors.orderly, hmirrors.fresh,
    hmirrors.size, ?queue, hmirrors.inFlight, hmirrors.shared, hmirrors.sent, hmirrors.logged⟩
  case heartbeats => rw [hmirrors.heartbeats]
  case queue =>
    refine Eq.trans ?_ (queued_sending { threaded with
      heartbeatService := heartbeatService, heartbeats := threaded.heartbeats.eraseIdx i } _).symm
    rw [hmirrors.heartbeatService]
    exact (Multiset.coe_add _ _).symm.trans (congrArg (· + _) hmirrors.queue)

/-- A step that takes a task takes the one that the exporter has put first. -/
theorem mirrored_threads {threadsAction : ThreadsAction Closure} {threads : ClientThreads Closure}
    (hinternal : threadsAction.isInternal = true) (hstep : threaded.threads.step threadsAction = some threads)
    (hmirrors : threaded.Mirrors exporter) :
    Mirrored started (.threads threadsAction : ThreadedAction Addr) exporter { threaded with threads := threads } := by
  have horderly := ClientThreads.orderly_step hstep hmirrors.orderly
  obtain ⟨hsize, ⟨hunbegun, hexecuting⟩ | ⟨closure, hunbegun, hexecuting, hcard⟩⟩ :=
    ClientThreads.tasks_of_internal hinternal hstep hmirrors.orderly
  · refine ⟨[], exporter, .inl rfl, .nil exporter, hmirrors.heartbeatService, hmirrors.heartbeats, horderly, ?fresh,
      ?size, ?queue, ?inFlight, hmirrors.shared, hmirrors.sent, hmirrors.logged⟩
    case fresh =>
      intro closure hmem
      exact hmirrors.fresh closure (hunbegun ▸ hmem)
    case size => rw [hmirrors.size, hsize]
    case queue => rw [hmirrors.queue, queued, queued, hunbegun, hexecuting]
    case inFlight => rw [hmirrors.inFlight, hexecuting]
  · obtain ⟨request, stage⟩ := closure
    obtain rfl : stage = .fresh := hmirrors.fresh _ (hunbegun ▸ List.mem_cons_self)
    let rest := ({ threaded with threads := threads } : ThreadedExporter).queued.toList
    have hrest : (rest : Multiset Request) = ({ threaded with threads := threads } : ThreadedExporter).queued :=
      Multiset.coe_toList _
    have hqueue : (request :: rest).Perm exporter.client.queue := by
      rw [← Multiset.coe_eq_coe, ← Multiset.cons_coe, hrest, hmirrors.queue, queued_of_executing hexecuting, queued,
        hunbegun]
      simp only [Closure.unsent, List.map_cons, ← Multiset.cons_coe, Multiset.coe_nil, ← Multiset.singleton_add]
      abel
    have hreorder : exporter.step (.reorder (request :: rest) : ExporterAction Addr)
        = some { exporter with client := exporter.client.reorder (request :: rest) } := if_pos hqueue
    have hfree : exporter.client.inFlight.length < exporter.client.size := by
      have hentries := congrArg Multiset.card hmirrors.inFlight
      rw [Multiset.coe_card] at hentries
      have hfilter : (threaded.threads.executing.filterMap Closure.entry?).card ≤ threaded.threads.executing.card :=
        Quot.inductionOn threaded.threads.executing fun closures => List.length_filterMap_le _ closures
      rw [hmirrors.size]
      omega
    have htake : Exporter.step { exporter with client := exporter.client.reorder (request :: rest) }
        (.take : ExporterAction Addr)
        = some { exporter with client := (exporter.client.reorder (request :: rest)).start request rest } := if_pos hfree
    refine ⟨[.reorder (request :: rest), .take], _, .inr ⟨_, rfl⟩,
      (RunWhere.single trivial hreorder).append (.single trivial htake), hmirrors.heartbeatService, hmirrors.heartbeats,
      horderly, ?fresh', ?size', hrest, ?inFlight', hmirrors.shared, hmirrors.sent, hmirrors.logged⟩
    case fresh' =>
      intro closure hmem
      exact hmirrors.fresh closure (hunbegun ▸ List.mem_cons_of_mem _ hmem)
    case size' =>
      rw [hsize]
      exact hmirrors.size
    case inFlight' =>
      rw [hexecuting, Multiset.filterMap_cons_some Closure.entry? _ _ rfl, ← hmirrors.inFlight]
      rfl

theorem mirrored_step (hstep : threaded.step started action = some threaded') (hmirrors : threaded.Mirrors exporter) :
    Mirrored started action exporter threaded' := by
  cases step_cases hstep with
  | callout event => exact mirrored_callout hmirrors
  | send j request rest threads hsending hpost => exact mirrored_send hsending hpost hmirrors
  | tick =>
      refine ⟨[.tick], _, rfl, .single trivial rfl, hmirrors.heartbeatService, ?_, hmirrors.orderly, hmirrors.fresh,
        hmirrors.size, hmirrors.queue, hmirrors.inFlight, hmirrors.shared, hmirrors.sent, hmirrors.logged⟩
      rw [hmirrors.heartbeats]
  | answerHeartbeat i env reply hentry hexchange =>
      have hanswer : exporter.step (.answerHeartbeat i reply : ExporterAction Addr)
          = some (exporter.answerHeartbeat i reply) := by
        rw [← hmirrors.heartbeats] at hentry
        simp only [Exporter.step, hentry]
      refine ⟨[.answerHeartbeat i reply], _, ⟨_, reply, hexchange, rfl⟩, .single trivial hanswer, ?_⟩
      have hheartbeats := hmirrors.heartbeats
      cases reply with
      | some reply =>
          exact ⟨hmirrors.heartbeatService, congrArg (List.set · i (some reply)) hheartbeats, hmirrors.orderly,
            hmirrors.fresh, hmirrors.size, hmirrors.queue, hmirrors.inFlight, hmirrors.shared, hmirrors.sent,
            hmirrors.logged⟩
      | none =>
          exact ⟨hmirrors.heartbeatService, congrArg (List.eraseIdx · i) hheartbeats, hmirrors.orderly,
            hmirrors.fresh, hmirrors.size, hmirrors.queue, hmirrors.inFlight, hmirrors.shared, hmirrors.sent,
            hmirrors.logged⟩
  | finishHeartbeat i reply heartbeatService hreply hhandled => exact mirrored_finishHeartbeat hreply hhandled hmirrors
  | threads threadsAction threads hinternal hthreads => exact mirrored_threads hinternal hthreads hmirrors
  | exchange executor env reached request reply htask hexchange => exact mirrored_exchange htask hexchange hmirrors
  | handle executor leaseMgr cfgMgr request reply raises htask _ => exact mirrored_handle htask hmirrors
  | sendNext executor request next rest raises htask => exact mirrored_sendNext htask hmirrors
  | endTask executor request raises threads htask hended => exact mirrored_endTask htask hended hmirrors
  | reboot saved =>
      refine ⟨[.reboot saved], _, rfl, .single trivial rfl, hmirrors.heartbeatService, hmirrors.heartbeats,
        hmirrors.orderly, hmirrors.fresh, hmirrors.size, hmirrors.queue, hmirrors.inFlight, ?_, hmirrors.sent,
        hmirrors.logged⟩
      exact congrArg (· ∩ saved) hmirrors.shared

/-- **Refinement.** However the threads interleave and wherever callouts, heartbeats and closures are with what they
send, a run of the exporter on its threads is a run of the exporter whose pool has a place for each thread and one for
the caller. -/
theorem threads_refine_exporter {heartbeatService : NXOSHeartbeatService} {poolSize : Nat} {table : RouteTable}
    {actions : List (ThreadedAction Addr)}
    (hrun : Run (step started) (create heartbeatService poolSize table) actions threaded) :
    ∃ performed exporter, List.Forall₂ (ThreadedAction.Performs started) actions performed ∧
      Run Exporter.step (.create heartbeatService (poolSize + 1) table) performed.flatten exporter ∧
      threaded.Mirrors exporter :=
  hrun.exists_simulating Mirrors (ThreadedAction.Performs started) (mirrors_create heartbeatService poolSize table)
    fun _ _ _ _ _ hstep hmid => mirrored_step hstep hmid

/-! One thread makes both requests of a selection. -/

def switchParams : StartedParams where
  params := ⟨⟨⟨.http, "switch", 80⟩⟩, ⟨⟨"admin", "secret", by decide⟩⟩, none, none, 5⟩
  scheme := rfl

/-- The body is the reply that names the VLAN. -/
def relayEnv : HttpEnv where
  post _ := .response 200 "[]"
  parse _ := .ok (.object [("id", .numberUnsigned 1),
    ("result", ((vlanReply "Vlan10").response.getD []).head?.elim .null JsonRpcResponse.result)])

def threadedSelection : List (ThreadedAction TextAddress) :=
  [.threads (.call .startClient), .threads .check, .threads (.worker 0), .threads (.worker 0), .threads .wake,
    .threads .check, .callout (.lease6Select ⟨[]⟩ renewQuery addressLease false), .send 0, .threads (.worker 0),
    .exchange (.worker 0) relayEnv true, .handle (.worker 0) ⟨[]⟩ ⟨none⟩, .sendNext (.worker 0), .endTask (.worker 0),
    .threads (.worker 0), .exchange (.worker 0) relayEnv true]

def startedExporter : ThreadedExporter := .create ⟨5, false, true, 0, true⟩ 1 ∅

def afterThreadedSelection : ThreadedExporter :=
  (replay (step switchParams) startedExporter threadedSelection).getD startedExporter

theorem threads_refine_exporter_selection :
    ∃ performed exporter, List.Forall₂ (ThreadedAction.Performs switchParams) threadedSelection performed ∧
      Run Exporter.step (.create ⟨5, false, true, 0, true⟩ 2 ∅) performed.flatten exporter ∧
      (hostSubnet clientAddress, "Vlan10") ∈ exporter.client.shared := by
  have hrun : Run (step switchParams) startedExporter threadedSelection afterThreadedSelection := run_of_replay rfl
  obtain ⟨performed, exporter, hperforms, hexporter, hmirrors⟩ := threads_refine_exporter hrun
  refine ⟨performed, exporter, hperforms, hexporter, ?_⟩
  rw [hmirrors.shared]
  exact Finset.mem_insert_self _ ∅

end ThreadedExporter

end NxosExporter
