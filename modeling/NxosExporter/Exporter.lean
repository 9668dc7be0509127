import Mathlib.Data.Finset.Lattice.Basic
import NxosExporter.Lib.OpenPool
import NxosExporter.Heartbeat
import NxosExporter.RequestPool

/-!
# The exporter at work

The callouts of Kea, the heartbeat and the worker threads of the client run side by side, each step under the
mutex or the queue that it takes. What the program does not decide comes with the action: the lease database
and the configuration of the moment, whether a request reaches the switch, and every reply.
-/

namespace NxosExporter

open Effectful WorkPool UpdateTable

/-! ### The callouts as programs -/

namespace CalloutEvent

variable {Addr : Type}

def leaseMgr : CalloutEvent Addr → LeaseMgr Addr
  | lease6Select leaseMgr _ _ _ | lease6Renew leaseMgr _ _ _ | lease6Rebind leaseMgr _ _ _
  | lease6Release leaseMgr _ _ | lease6Decline leaseMgr _ _ | lease6Expire leaseMgr _ => leaseMgr

def handler [DecidableEq Addr] : CalloutEvent Addr → ServiceProg Addr Unit
  | lease6Select leaseMgr query lease fakeAllocation => handleLease6Select leaseMgr query lease fakeAllocation
  | lease6Renew leaseMgr query lease iaNA => handleLease6Renew leaseMgr query lease iaNA
  | lease6Rebind leaseMgr query lease iaNA => handleLease6Rebind leaseMgr query lease iaNA
  | lease6Release leaseMgr query lease => handleLease6Release leaseMgr query lease
  | lease6Decline leaseMgr query lease => handleLease6Decline leaseMgr query lease
  | lease6Expire _ lease => handleLease6Expire lease

theorem posted_eq [DecidableEq Addr] [IOAddress Addr] (event : CalloutEvent Addr) :
    event.posted = postedBy event.leaseMgr event.handler.effects := by
  cases event <;> simp only [posted, leaseMgr, handler, callout_effects]

end CalloutEvent

/-! ### What a reply leads to -/

section Effects

variable {Addr : Type}

def ServiceEffect.isHandlerFailed : ServiceEffect Addr → Bool
  | handlerFailed => true
  | _ => false

def ClientEffect.logged? : ClientEffect → Option LogMessage
  | log message => some message
  | _ => none

/-- The closure whose verdict a message is. -/
def LogMessage.verdict? : LogMessage → Option ResponseHandler
  | routeApplySuccess type src dst | routeApplyFailed type src dst _ => some (.routeApply type src dst)
  | routeRemoveSuccess type src dst | routeRemoveFailed type src dst _ => some (.routeRemove type src dst)
  | vlanAddrMappingError _ | responseParseError _ _ | responseFailed _ _ | routeApplyUnknownError _ => none

/-- The route update that a closure judges. -/
def ResponseHandler.update? : ResponseHandler → Option (Update (String × String))
  | routeApply _ src dst => some (.add (src, dst))
  | routeRemove _ src dst => some (.remove (src, dst))
  | lookupAddress _ _ _ | hwAddrMapping => none

/-- The closure of a request judges the route update that its commands make, if they make one. -/
def Request.JudgesItself (request : Request) : Prop :=
  updatesOf request.cliCommands = request.handler.update?.toList

/-- The handler that the service sets is `restoreLeasesFromLeaseDatabase`. -/
def HeartbeatEffect.posted : HeartbeatEffect → List Request
  | connectionRestoredHandler => requestsOf restoreLeasesFromLeaseDatabase.effects
  | _ => []

/-- The callback of the restore runs in the closure that takes the mapping. -/
def ClientEffect.restore (leaseMgr : LeaseMgr Addr) (cfgMgr : CfgMgr) :
    ClientEffect → List (ServiceEffect Addr)
  | hwAddrMapping mapping connectionOrEarlyValidationFailed =>
      (restoreCallback leaseMgr cfgMgr (some mapping) connectionOrEarlyValidationFailed).effects
  | sendRequest _ | log _ => []

def ClientEffect.reportsFailure (leaseMgr : LeaseMgr Addr) (cfgMgr : CfgMgr) (effect : ClientEffect) : Bool :=
  (effect.restore leaseMgr cfgMgr).any ServiceEffect.isHandlerFailed

variable [IOAddress Addr]

def ClientEffect.posted (leaseMgr : LeaseMgr Addr) (cfgMgr : CfgMgr) (effect : ClientEffect) : List Request :=
  effect.request?.toList ++ postedBy leaseMgr (effect.restore leaseMgr cfgMgr)

end Effects

/-! ### The system -/

/-- The heartbeats in flight have their reply or wait for it; `sent` are the requests that a worker has made
and `logged` what the client has logged. -/
structure Exporter where
  heartbeatService : NXOSHeartbeatService
  heartbeats : List (Option Reply)
  client : RequestPool
  sent : List Request
  logged : List LogMessage

/-- A request that is executed reaches the switch or not, and its reply is missing where an exception leaves
the task before the response handler is called. A step posts its requests one by one, so those of two steps may
come mixed into the queue (`reorder`). A reboot keeps the routes that were saved. -/
inductive ExporterAction (Addr : Type) where
  | callout (event : CalloutEvent Addr)
  | tick
  | answerHeartbeat (i : Nat) (reply : Option Reply)
  | finishHeartbeat (i : Nat)
  | take
  | execute (i : Nat) (reached : Bool) (reply : Option Reply)
  | finish (i : Nat) (leaseMgr : LeaseMgr Addr) (cfgMgr : CfgMgr)
  | reorder (queue : List Request)
  | reboot (saved : RouteTable)

namespace Exporter

def create (heartbeatService : NXOSHeartbeatService) (poolSize : Nat) (table : RouteTable) : Exporter where
  heartbeatService := heartbeatService
  heartbeats := []
  client := .create poolSize table
  sent := []
  logged := []

def answerHeartbeat (exporter : Exporter) (i : Nat) : Option Reply → Exporter
  | some reply => { exporter with heartbeats := exporter.heartbeats.set i (some reply) }
  | none => { exporter with heartbeats := exporter.heartbeats.eraseIdx i }

/-- `heartbeatLoop`'s response handler, with the restore that it may ask for. -/
def finishHeartbeat (exporter : Exporter) (i : Nat) (reply : Reply) : Option Exporter :=
  let handled := exporter.heartbeatService.heartbeatReply reply
  match handled.outcome with
  | .ok heartbeatService => some { exporter with
      heartbeatService := heartbeatService
      heartbeats := exporter.heartbeats.eraseIdx i
      client := exporter.client.enqueue (handled.effects.flatMap HeartbeatEffect.posted) }
  | _ => none

def execute (exporter : Exporter) (i : Nat) (request : Request) (reached : Bool) (reply : Option Reply) :
    Exporter :=
  let table := if reached then request.run exporter.client.shared else exporter.client.shared
  let client := match reply with
    | some reply => exporter.client.answer i request reply table
    | none => exporter.client.drop i table
  { exporter with client := client, sent := exporter.sent ++ [request] }

@[simp]
theorem execute_shared (exporter : Exporter) (i : Nat) (request : Request) (reached : Bool)
    (reply : Option Reply) : (exporter.execute i request reached reply).client.shared
      = if reached then request.run exporter.client.shared else exporter.client.shared := by
  cases reply <;> rfl

variable {Addr : Type} [IOAddress Addr]

def finish (exporter : Exporter) (i : Nat) (request : Request) (reply : Reply) (leaseMgr : LeaseMgr Addr)
    (cfgMgr : CfgMgr) : Exporter :=
  let effects := (handleReply request.handler reply).effects
  { exporter with
    heartbeatService :=
      if effects.any (ClientEffect.reportsFailure leaseMgr cfgMgr) then
        exporter.heartbeatService.handlerFailedCallback
      else
        exporter.heartbeatService
    client := exporter.client.close i (effects.flatMap (ClientEffect.posted leaseMgr cfgMgr))
    logged := exporter.logged ++ effects.filterMap ClientEffect.logged? }

variable [DecidableEq Addr]

def step (exporter : Exporter) : ExporterAction Addr → Option Exporter
  | .callout event => some { exporter with client := exporter.client.enqueue event.posted }
  | .tick => some { exporter with heartbeats := exporter.heartbeats ++ [none] }
  | .answerHeartbeat i reply =>
      match exporter.heartbeats[i]? with
      | some none => some (exporter.answerHeartbeat i reply)
      | _ => none
  | .finishHeartbeat i =>
      match exporter.heartbeats[i]? with
      | some (some reply) => exporter.finishHeartbeat i reply
      | _ => none
  | .take =>
      match exporter.client.queue with
      | request :: rest =>
          if exporter.client.inFlight.length < exporter.client.size then
            some { exporter with client := exporter.client.start request rest }
          else
            none
      | [] => none
  | .execute i reached reply =>
      match exporter.client.inFlight[i]? with
      | some (request, none) => some (exporter.execute i request reached reply)
      | _ => none
  | .finish i leaseMgr cfgMgr =>
      match exporter.client.inFlight[i]? with
      | some (request, some reply) => some (exporter.finish i request reply leaseMgr cfgMgr)
      | _ => none
  | .reorder queue =>
      if queue.Perm exporter.client.queue then
        some { exporter with client := exporter.client.reorder queue }
      else
        none
  | .reboot saved => some { exporter with client := exporter.client.disturb (exporter.client.shared ∩ saved) }

/-- **Inversion.** What a step can do. -/
inductive StepCases (exporter : Exporter) : ExporterAction Addr → Exporter → Prop
  | callout (event : CalloutEvent Addr) :
      StepCases exporter (.callout event) { exporter with client := exporter.client.enqueue event.posted }
  | tick : StepCases exporter .tick { exporter with heartbeats := exporter.heartbeats ++ [none] }
  | answerHeartbeat (i : Nat) (reply : Option Reply) (hentry : exporter.heartbeats[i]? = some none) :
      StepCases exporter (.answerHeartbeat i reply) (exporter.answerHeartbeat i reply)
  | finishHeartbeat (i : Nat) (reply : Reply) (heartbeatService : NXOSHeartbeatService)
      (hreply : exporter.heartbeats[i]? = some (some reply))
      (hhandled : (exporter.heartbeatService.heartbeatReply reply).outcome = .ok heartbeatService) :
      StepCases exporter (.finishHeartbeat i) { exporter with
        heartbeatService := heartbeatService
        heartbeats := exporter.heartbeats.eraseIdx i
        client := exporter.client.enqueue
          ((exporter.heartbeatService.heartbeatReply reply).effects.flatMap HeartbeatEffect.posted) }
  | take (request : Request) (rest : List Request) (hqueue : exporter.client.queue = request :: rest)
      (hfree : exporter.client.inFlight.length < exporter.client.size) :
      StepCases exporter .take { exporter with client := exporter.client.start request rest }
  | execute (i : Nat) (request : Request) (reached : Bool) (reply : Option Reply)
      (hentry : exporter.client.inFlight[i]? = some (request, none)) :
      StepCases exporter (.execute i reached reply) (exporter.execute i request reached reply)
  | finish (i : Nat) (request : Request) (reply : Reply) (leaseMgr : LeaseMgr Addr) (cfgMgr : CfgMgr)
      (hentry : exporter.client.inFlight[i]? = some (request, some reply)) :
      StepCases exporter (.finish i leaseMgr cfgMgr) (exporter.finish i request reply leaseMgr cfgMgr)
  | reorder (queue : List Request) (hperm : queue.Perm exporter.client.queue) :
      StepCases exporter (.reorder queue) { exporter with client := exporter.client.reorder queue }
  | reboot (saved : RouteTable) :
      StepCases exporter (.reboot saved)
        { exporter with client := exporter.client.disturb (exporter.client.shared ∩ saved) }

theorem step_cases {exporter exporter' : Exporter} {action : ExporterAction Addr}
    (hstep : exporter.step action = some exporter') : StepCases exporter action exporter' := by
  cases action with
  | callout event =>
      obtain rfl := Option.some.inj hstep
      exact .callout event
  | tick =>
      obtain rfl := Option.some.inj hstep
      exact .tick
  | answerHeartbeat i reply =>
      simp only [step] at hstep
      split at hstep
      · rename_i hentry
        obtain rfl := Option.some.inj hstep
        exact .answerHeartbeat i reply hentry
      · cases hstep
  | finishHeartbeat i =>
      simp only [step] at hstep
      split at hstep
      · rename_i reply hreply
        rw [finishHeartbeat] at hstep
        cases hhandled : (exporter.heartbeatService.heartbeatReply reply).outcome with
        | ok heartbeatService =>
            simp only [hhandled, Option.some.injEq] at hstep
            subst hstep
            exact .finishHeartbeat i reply heartbeatService hreply hhandled
        | throw exn => simp [hhandled] at hstep
        | undefined => simp [hhandled] at hstep
      · cases hstep
  | take =>
      simp only [step] at hstep
      split at hstep
      · rename_i request rest hqueue
        rw [Option.ite_none_right_eq_some, Option.some.injEq] at hstep
        obtain ⟨hfree, rfl⟩ := hstep
        exact .take request rest hqueue hfree
      · cases hstep
  | execute i reached reply =>
      simp only [step] at hstep
      split at hstep
      · rename_i request hentry
        obtain rfl := Option.some.inj hstep
        exact .execute i request reached reply hentry
      · cases hstep
  | finish i leaseMgr cfgMgr =>
      simp only [step] at hstep
      split at hstep
      · rename_i request reply hentry
        obtain rfl := Option.some.inj hstep
        exact .finish i request reply leaseMgr cfgMgr hentry
      · cases hstep
  | reorder queue =>
      rw [step, Option.ite_none_right_eq_some, Option.some.injEq] at hstep
      obtain ⟨hperm, rfl⟩ := hstep
      exact .reorder queue hperm
  | reboot saved =>
      obtain rfl := Option.some.inj hstep
      exact .reboot saved

end Exporter

end NxosExporter
