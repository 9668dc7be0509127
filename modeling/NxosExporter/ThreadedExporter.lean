import NxosExporter.HookLibrary
import NxosExporter.IoService

/-!
# The exporter on its threads

`sendRequest` posts a closure to the I/O service of the client. Whoever executes the closure makes the request, calls
the response handler with the reply and ends it, and each of these is a step of its own between the steps of other
threads. So is every single request that a callout, a heartbeat or a handler sends.
-/

namespace NxosExporter

open Effectful

/-! ### Closures and who executes them -/

/-- How far a closure has come: its request is still to be made, the reply is there, or the handler has run and these
requests are left to send before the closure ends, with an exception or without. -/
inductive ClosureStage where
  | fresh
  | replied (reply : Reply)
  | sending (requests : List Request) (raises : Bool)

structure Closure where
  request : Request
  stage : ClosureStage

/-- A thread of the pool, or the caller of `setThreadsState` inside `poll`. -/
inductive Executor where
  | worker (i : Nat)
  | caller
  deriving DecidableEq, Repr

/-- The end of a task that has posted what it posts. -/
def Executor.ends {τ : Type} (raises : Bool) : Executor → ThreadsAction τ
  | worker i => .workerDone i [] raises
  | caller => .polled [] raises

/-- The steps that neither post a task nor end one. -/
def ThreadsAction.isInternal {τ : Type} : ThreadsAction τ → Bool
  | call _ | poll | check | wake | spurious | join | worker _ => true
  | post _ | polled _ _ | workerDone _ _ _ => false

namespace ClientThreads

variable {τ : Type}

def taskOf (client : ClientThreads τ) : Executor → Option τ
  | .worker i =>
      match client.threadPool[i]? with
      | some (.inTask task) => some task
      | _ => none
  | .caller =>
      match client.caller with
      | .inTask task => some task
      | _ => none

def setTask (client : ClientThreads τ) (task : τ) : Executor → ClientThreads τ
  | .worker i => client.setWorker i (.inTask task)
  | .caller => { client with caller := .inTask task }

end ClientThreads

/-! ### What a closure does -/

/-- The parameters of a client that was started: `startClient` refuses the other scheme. -/
structure StartedParams where
  params : NXOSConnectionConfigParams
  scheme : params.connInfo.url.scheme = .http

theorem scheme_of_startClient {client client' : NXOSManagementClient} {clients clients' : HttpClients}
    (hstart : client.startClient clients = .ok (client', clients')) :
    client.params.connInfo.url.scheme = .http := by
  cases hscheme : client.params.connInfo.url.scheme with
  | http => rfl
  | https => simp [NXOSManagementClient.startClient, hscheme] at hstart

def TaskEffect.reply? {H : Type} : TaskEffect H → Option Reply
  | callHandler _ reply => some reply
  | logCommunicationFailed _ | logValidateError _ => none

/-- The reply that a task gives its handler, or none where an exception leaves the task before. -/
def exchange {H : Type} (started : StartedParams) (env : HttpEnv) (request : HttpRequest H) : Option (Option Reply) :=
  let task := requestTask env (some started.params.auth.auth.getSecret) request
  match task.outcome with
  | .ok () | .throw _ => some (task.effects.findSome? TaskEffect.reply?)
  | .undefined => none

/-- The request of `heartbeatLoop`. -/
def heartbeatRequest (started : StartedParams) (service : NXOSHeartbeatService) : HttpRequest Unit where
  url := started.params.connInfo.url
  endpointName := endpointName
  tlsContext := none
  requestBody := createRequestFromCommands [(1, .uptime)]
  responseHandler := some ()
  timeout := service.heartbeatIntervalSecs.toUInt32.toInt32.toInt

/-- The stage of a closure after its exchange. -/
def ClosureStage.afterExchange : Option Reply → ClosureStage
  | some reply => replied reply
  | none => sending [] true

variable {Addr : Type}

/-- How the callback of a restore ends, which runs inside the handler. -/
def ClientEffect.restoreOutcome (leaseMgr : LeaseMgr Addr) (cfgMgr : CfgMgr) : ClientEffect → Outcome Exn Unit
  | hwAddrMapping mapping connectionOrEarlyValidationFailed =>
      (restoreCallback leaseMgr cfgMgr (some mapping) connectionOrEarlyValidationFailed).outcome
  | sendRequest _ | log _ => .ok ()

/-- Whether the handler of a closure raises. -/
def handlerRaises (leaseMgr : LeaseMgr Addr) (cfgMgr : CfgMgr) (handled : ClientProg Unit) : Option Bool :=
  let ended : Outcome Exn Unit := do
    handled.effects.forM (ClientEffect.restoreOutcome leaseMgr cfgMgr)
    handled.outcome
  match ended with
  | .ok () => some false
  | .throw _ => some true
  | .undefined => none

/-! ### The system -/

/-- `sending` is what each callout and each heartbeat handler has yet to send. -/
structure ThreadedExporter where
  heartbeatService : NXOSHeartbeatService
  heartbeats : List (Option Reply)
  threads : ClientThreads Closure
  sending : List (List Request)
  table : RouteTable
  sent : List Request
  logged : List LogMessage

/-- What comes from outside is chosen by the action: what the switch and the network make of a request, the lease
database and the configuration of the moment. -/
inductive ThreadedAction (Addr : Type) where
  | callout (event : CalloutEvent Addr)
  | send (j : Nat)
  | tick
  | answerHeartbeat (i : Nat) (env : HttpEnv)
  | finishHeartbeat (i : Nat)
  | threads (action : ThreadsAction Closure)
  | exchange (executor : Executor) (env : HttpEnv) (reached : Bool)
  | handle (executor : Executor) (leaseMgr : LeaseMgr Addr) (cfgMgr : CfgMgr)
  | sendNext (executor : Executor)
  | endTask (executor : Executor)
  | reboot (saved : RouteTable)

namespace ThreadedExporter

def create (heartbeatService : NXOSHeartbeatService) (poolSize : Nat) (table : RouteTable) : ThreadedExporter where
  heartbeatService := heartbeatService
  heartbeats := []
  threads := .create poolSize
  sending := []
  table := table
  sent := []
  logged := []

/-- The request `j` is about to send goes to the I/O service. -/
def send (exporter : ThreadedExporter) (j : Nat) (request : Request) (rest : List Request) :
    Option ThreadedExporter := do
  let threads ← exporter.threads.step (.post ⟨request, .fresh⟩)
  pure { exporter with threads := threads, sending := exporter.sending.set j rest }

def answerHeartbeat (exporter : ThreadedExporter) (i : Nat) : Option Reply → ThreadedExporter
  | some reply => { exporter with heartbeats := exporter.heartbeats.set i (some reply) }
  | none => { exporter with heartbeats := exporter.heartbeats.eraseIdx i }

def finishHeartbeat (exporter : ThreadedExporter) (i : Nat) (reply : Reply) : Option ThreadedExporter :=
  let handled := exporter.heartbeatService.heartbeatReply reply
  match handled.outcome with
  | .ok heartbeatService => some { exporter with
      heartbeatService := heartbeatService
      heartbeats := exporter.heartbeats.eraseIdx i
      sending := exporter.sending ++ [handled.effects.flatMap HeartbeatEffect.posted] }
  | _ => none

def afterExchange (exporter : ThreadedExporter) (executor : Executor) (request : Request) (reached : Bool)
    (reply : Option Reply) : ThreadedExporter :=
  { exporter with
    threads := exporter.threads.setTask ⟨request, .afterExchange reply⟩ executor
    table := if reached then request.run exporter.table else exporter.table
    sent := exporter.sent ++ [request] }

variable [IOAddress Addr]

def afterHandler (exporter : ThreadedExporter) (executor : Executor) (request : Request) (reply : Reply)
    (leaseMgr : LeaseMgr Addr) (cfgMgr : CfgMgr) (raises : Bool) : ThreadedExporter :=
  let effects := (handleReply request.handler reply).effects
  { exporter with
    heartbeatService :=
      if effects.any (ClientEffect.reportsFailure leaseMgr cfgMgr) then
        exporter.heartbeatService.handlerFailedCallback
      else
        exporter.heartbeatService
    threads := exporter.threads.setTask
      ⟨request, .sending (effects.flatMap (ClientEffect.posted leaseMgr cfgMgr)) raises⟩ executor
    logged := exporter.logged ++ effects.filterMap ClientEffect.logged? }

variable [DecidableEq Addr]

def step (started : StartedParams) (exporter : ThreadedExporter) : ThreadedAction Addr → Option ThreadedExporter
  | .callout event => some { exporter with sending := exporter.sending ++ [event.posted] }
  | .send j =>
      match exporter.sending[j]? with
      | some (request :: rest) => exporter.send j request rest
      | _ => none
  | .tick => some { exporter with heartbeats := exporter.heartbeats ++ [none] }
  | .answerHeartbeat i env =>
      match exporter.heartbeats[i]? with
      | some none =>
          (exchange started env (heartbeatRequest started exporter.heartbeatService)).map (exporter.answerHeartbeat i)
      | _ => none
  | .finishHeartbeat i =>
      match exporter.heartbeats[i]? with
      | some (some reply) => exporter.finishHeartbeat i reply
      | _ => none
  | .threads action =>
      if action.isInternal then
        (exporter.threads.step action).map fun threads => { exporter with threads := threads }
      else
        none
  | .exchange executor env reached =>
      match exporter.threads.taskOf executor with
      | some ⟨request, .fresh⟩ =>
          (NxosExporter.exchange started env (request.toHttp started.params.connInfo.url)).map
            (exporter.afterExchange executor request reached)
      | _ => none
  | .handle executor leaseMgr cfgMgr =>
      match exporter.threads.taskOf executor with
      | some ⟨request, .replied reply⟩ =>
          (handlerRaises leaseMgr cfgMgr (handleReply request.handler reply)).map
            (exporter.afterHandler executor request reply leaseMgr cfgMgr)
      | _ => none
  | .sendNext executor =>
      match exporter.threads.taskOf executor with
      | some ⟨request, .sending (next :: rest) raises⟩ => some { exporter with
          threads := (exporter.threads.post [⟨next, .fresh⟩]).setTask ⟨request, .sending rest raises⟩ executor }
      | _ => none
  | .endTask executor =>
      match exporter.threads.taskOf executor with
      | some ⟨_, .sending [] raises⟩ =>
          (exporter.threads.step (executor.ends raises)).map fun threads => { exporter with threads := threads }
      | _ => none
  | .reboot saved => some { exporter with table := exporter.table ∩ saved }

/-- **Inversion.** What a step can do. -/
inductive StepCases (started : StartedParams) (exporter : ThreadedExporter) :
    ThreadedAction Addr → ThreadedExporter → Prop
  | callout (event : CalloutEvent Addr) :
      StepCases started exporter (.callout event) { exporter with sending := exporter.sending ++ [event.posted] }
  | send (j : Nat) (request : Request) (rest : List Request) (threads : ClientThreads Closure)
      (hsending : exporter.sending[j]? = some (request :: rest))
      (hpost : exporter.threads.step (.post ⟨request, .fresh⟩) = some threads) :
      StepCases started exporter (.send j)
        { exporter with threads := threads, sending := exporter.sending.set j rest }
  | tick : StepCases started exporter .tick { exporter with heartbeats := exporter.heartbeats ++ [none] }
  | answerHeartbeat (i : Nat) (env : HttpEnv) (reply : Option Reply) (hentry : exporter.heartbeats[i]? = some none)
      (hexchange :
        NxosExporter.exchange started env (heartbeatRequest started exporter.heartbeatService) = some reply) :
      StepCases started exporter (.answerHeartbeat i env) (exporter.answerHeartbeat i reply)
  | finishHeartbeat (i : Nat) (reply : Reply) (heartbeatService : NXOSHeartbeatService)
      (hreply : exporter.heartbeats[i]? = some (some reply))
      (hhandled : (exporter.heartbeatService.heartbeatReply reply).outcome = .ok heartbeatService) :
      StepCases started exporter (.finishHeartbeat i) { exporter with
        heartbeatService := heartbeatService
        heartbeats := exporter.heartbeats.eraseIdx i
        sending := exporter.sending
          ++ [(exporter.heartbeatService.heartbeatReply reply).effects.flatMap HeartbeatEffect.posted] }
  | threads (action : ThreadsAction Closure) (threads : ClientThreads Closure) (hinternal : action.isInternal = true)
      (hstep : exporter.threads.step action = some threads) :
      StepCases started exporter (.threads action) { exporter with threads := threads }
  | exchange (executor : Executor) (env : HttpEnv) (reached : Bool) (request : Request) (reply : Option Reply)
      (htask : exporter.threads.taskOf executor = some ⟨request, .fresh⟩)
      (hexchange :
        NxosExporter.exchange started env (request.toHttp started.params.connInfo.url) = some reply) :
      StepCases started exporter (.exchange executor env reached)
        (exporter.afterExchange executor request reached reply)
  | handle (executor : Executor) (leaseMgr : LeaseMgr Addr) (cfgMgr : CfgMgr) (request : Request) (reply : Reply)
      (raises : Bool) (htask : exporter.threads.taskOf executor = some ⟨request, .replied reply⟩)
      (hraises : handlerRaises leaseMgr cfgMgr (handleReply request.handler reply) = some raises) :
      StepCases started exporter (.handle executor leaseMgr cfgMgr)
        (exporter.afterHandler executor request reply leaseMgr cfgMgr raises)
  | sendNext (executor : Executor) (request next : Request) (rest : List Request) (raises : Bool)
      (htask : exporter.threads.taskOf executor = some ⟨request, .sending (next :: rest) raises⟩) :
      StepCases started exporter (.sendNext executor) { exporter with
        threads := (exporter.threads.post [⟨next, .fresh⟩]).setTask ⟨request, .sending rest raises⟩ executor }
  | endTask (executor : Executor) (request : Request) (raises : Bool) (threads : ClientThreads Closure)
      (htask : exporter.threads.taskOf executor = some ⟨request, .sending [] raises⟩)
      (hended : exporter.threads.step (executor.ends raises) = some threads) :
      StepCases started exporter (.endTask executor) { exporter with threads := threads }
  | reboot (saved : RouteTable) :
      StepCases started exporter (.reboot saved) { exporter with table := exporter.table ∩ saved }

theorem step_cases {started : StartedParams} {exporter exporter' : ThreadedExporter} {action : ThreadedAction Addr}
    (hstep : exporter.step started action = some exporter') : StepCases started exporter action exporter' := by
  cases action with
  | callout event =>
      obtain rfl := Option.some.inj hstep
      exact .callout event
  | send j =>
      simp only [step] at hstep
      split at hstep
      · rename_i request rest hsending
        obtain ⟨threads, hpost, hsent⟩ := Option.bind_eq_some_iff.mp hstep
        obtain rfl := Option.some.inj hsent
        exact .send j request rest threads hsending hpost
      · cases hstep
  | tick =>
      obtain rfl := Option.some.inj hstep
      exact .tick
  | answerHeartbeat i env =>
      simp only [step] at hstep
      split at hstep
      · rename_i hentry
        obtain ⟨reply, hexchange, rfl⟩ := Option.map_eq_some_iff.mp hstep
        exact .answerHeartbeat i env reply hentry hexchange
      · cases hstep
  | finishHeartbeat i =>
      simp only [step] at hstep
      split at hstep
      · rename_i reply hreply
        rw [finishHeartbeat] at hstep
        cases hhandled : (exporter.heartbeatService.heartbeatReply reply).outcome with
        | ok heartbeatService =>
            simp only [hhandled, Option.some.injEq] at hstep
            subst hstep
            exact .finishHeartbeat i reply heartbeatService hreply hhandled
        | throw exn => simp [hhandled] at hstep
        | undefined => simp [hhandled] at hstep
      · cases hstep
  | threads action =>
      rw [step, Option.ite_none_right_eq_some] at hstep
      obtain ⟨hinternal, hstep⟩ := hstep
      obtain ⟨threads, hthreads, rfl⟩ := Option.map_eq_some_iff.mp hstep
      exact .threads action threads hinternal hthreads
  | exchange executor env reached =>
      simp only [step] at hstep
      split at hstep
      · rename_i request htask
        obtain ⟨reply, hexchange, rfl⟩ := Option.map_eq_some_iff.mp hstep
        exact .exchange executor env reached request reply htask hexchange
      · cases hstep
  | handle executor leaseMgr cfgMgr =>
      simp only [step] at hstep
      split at hstep
      · rename_i request reply htask
        obtain ⟨raises, hraises, rfl⟩ := Option.map_eq_some_iff.mp hstep
        exact .handle executor leaseMgr cfgMgr request reply raises htask hraises
      · cases hstep
  | sendNext executor =>
      simp only [step] at hstep
      split at hstep
      · rename_i request next rest raises htask
        obtain rfl := Option.some.inj hstep
        exact .sendNext executor request next rest raises htask
      · cases hstep
  | endTask executor =>
      simp only [step] at hstep
      split at hstep
      · rename_i request raises htask
        obtain ⟨threads, hended, rfl⟩ := Option.map_eq_some_iff.mp hstep
        exact .endTask executor request raises threads htask hended
      · cases hstep
  | reboot saved =>
      obtain rfl := Option.some.inj hstep
      exact .reboot saved

end ThreadedExporter

end NxosExporter
