import NxosExporter.Lib.Simulation
import NxosExporter.Proof.Reboot
import NxosExporter.Proof.RouteOrigin

/-!
# Every request has its reason

A request is posted by a callout, by a heartbeat that notices that the switch came back, by a reply or by the
restore that a reply leads to, and it is sent once. Seen from the heartbeat the exporter is the heartbeat
service alone, so there is one neighbor lookup, and with it one restore, for each time its restored handler was
called.
-/

namespace NxosExporter

open Effectful WorkPool Transition

variable {Addr : Type} [IOAddress Addr]

/-! ### The account of the requests -/

section Account

/-- The requests that were sent or have yet to be. -/
def Exporter.made (exporter : Exporter) : Multiset Request :=
  (exporter.sent : Multiset Request) + exporter.client.unrun

variable [DecidableEq Addr] {exporter exporter' start : Exporter} {action : ExporterAction Addr}
  {actions : List (ExporterAction Addr)}

def Exporter.posts (exporter : Exporter) : ExporterAction Addr → List Request
  | .callout event => event.posted
  | .finishHeartbeat i =>
      match exporter.heartbeats[i]? with
      | some (some reply) => (exporter.heartbeatService.heartbeatReply reply).effects.flatMap HeartbeatEffect.posted
      | _ => []
  | .finish i leaseMgr cfgMgr =>
      match exporter.client.inFlight[i]? with
      | some (request, some reply) =>
          (handleReply request.handler reply).effects.flatMap (ClientEffect.posted leaseMgr cfgMgr)
      | _ => []
  | .tick | .answerHeartbeat _ _ | .take | .execute _ _ _ | .reorder _ | .reboot _ => []

theorem made_of_sent {request : Request} {client : RequestPool}
    (hunrun : exporter.client.unrun = request ::ₘ client.unrun) :
    ((exporter.sent ++ [request] : List Request) : Multiset Request) + client.unrun = exporter.made := by
  rw [Exporter.made, hunrun, ← Multiset.coe_add, Multiset.coe_singleton, ← Multiset.singleton_add]
  abel

theorem made_step (hstep : exporter.step action = some exporter') :
    exporter'.made = exporter.made + (exporter.posts action : Multiset Request) := by
  cases Exporter.step_cases hstep with
  | callout event =>
      rw [Exporter.made, unrun_enqueue, ← add_assoc]
      rfl
  | tick => exact (add_zero _).symm
  | answerHeartbeat i reply => cases reply <;> exact (add_zero _).symm
  | finishHeartbeat i reply heartbeatService hreply =>
      simp only [Exporter.made, unrun_enqueue, Exporter.posts, hreply, add_assoc]
  | take request rest hqueue =>
      rw [Exporter.made, unrun_start hqueue]
      exact (add_zero _).symm
  | execute i request reached reply hentry =>
      refine Eq.trans ?_ (add_zero _).symm
      cases reply with
      | some reply => exact made_of_sent (unrun_answer hentry)
      | none => exact made_of_sent (unrun_drop hentry)
  | finish i request reply leaseMgr cfgMgr hentry =>
      simp only [Exporter.made, Exporter.finish, unrun_close hentry, Exporter.posts, hentry, add_assoc]
  | reorder queue hperm =>
      rw [Exporter.made, unrun_reorder hperm]
      exact (add_zero _).symm
  | reboot saved => exact (add_zero _).symm

/-- **No lost or duplicated request.** Whatever the callouts, the heartbeat and the workers interleave, the
requests that were sent and those that have yet to be are together the ones that were posted, each once. -/
theorem requests_conserved (hidle : start.client.Idle) (hsent : start.sent = [])
    (hrun : Run Exporter.step start actions exporter) :
    (exporter.sent : Multiset Request) + exporter.client.unrun
      = (observe Exporter.step Exporter.posts start actions : Multiset Request) := by
  induction hrun with
  | nil => simp [hsent, hidle.unrun, observe]
  | snoc hrun _ hlast ih =>
      rw [hrun.observe_snoc hlast, ← Multiset.coe_add, ← ih]
      exact made_step hlast

theorem requests_conserved_selectedAddress :
    ((afterSelection ∅).sent : Multiset Request)
      = {exportLookup linkAddress clientAddress, exportCommand clientAddress "Vlan10"} := by
  have hidle : (afterSelection ∅).client.Idle := ⟨rfl, rfl⟩
  have hempty : (emptyExporter ∅).client.Idle := ⟨rfl, rfl⟩
  have hconserved := requests_conserved hempty rfl (run_afterSelection ∅)
  rw [hidle.unrun, add_zero] at hconserved
  exact hconserved

end Account

/-! ### The neighbor lookups -/

section Lookups

theorem neighborLookup_notMem_postedBy (leaseMgr : LeaseMgr Addr) (effects : List (ServiceEffect Addr)) :
    neighborLookup ∉ postedBy leaseMgr effects := by
  intro hmem
  obtain ⟨effect, -, hposted⟩ := mem_postedBy hmem
  obtain ⟨routeInfo, hposts⟩ := posts_of_clientCall hposted
  cases hposts

/-- A reply leads to commands for routes, and a restore to requests for them. -/
theorem neighborLookup_notMem_of_reply {request : Request} {reply : Reply} (leaseMgr : LeaseMgr Addr)
    (cfgMgr : CfgMgr) :
    neighborLookup ∉ (handleReply request.handler reply).effects.flatMap (ClientEffect.posted leaseMgr cfgMgr) := by
  intro hmem
  obtain ⟨effect, heffect, hposted⟩ := List.mem_flatMap.mp hmem
  obtain hsent | hrestored := List.mem_append.mp hposted
  · have hfollows : neighborLookup ∈ followUps request reply :=
      List.mem_filterMap.mpr ⟨effect, heffect, Option.mem_toList.mp hsent⟩
    exact Bool.false_ne_true (command_of_mem_followUps hfollows).2
  · cases effect with
    | sendRequest own => exact List.not_mem_nil hrestored
    | log message => exact List.not_mem_nil hrestored
    | hwAddrMapping mapping failed =>
        exact neighborLookup_notMem_postedBy leaseMgr _ hrestored

theorem count_heartbeat (effects : List HeartbeatEffect) :
    (effects.flatMap HeartbeatEffect.posted).count neighborLookup
      = (effects.filter fun effect => effect = .connectionRestoredHandler).length := by
  induction effects with
  | nil => rfl
  | cons effect rest ih =>
      rw [List.flatMap_cons, List.count_append, ih]
      cases effect with
      | connectionRestoredHandler => exact Nat.add_comm _ _
      | _ => exact Nat.zero_add _

end Lookups

/-! ### The heartbeat within the exporter -/

section Heartbeats

variable {exporter exporter' start : Exporter} {action : ExporterAction Addr}
  {actions : List (ExporterAction Addr)}

/-- What a step of the exporter is for the heartbeat service. -/
def Exporter.heartbeatEvents (exporter : Exporter) : ExporterAction Addr → List HeartbeatEvent
  | .finishHeartbeat i =>
      match exporter.heartbeats[i]? with
      | some (some reply) => [.reply reply]
      | _ => []
  | .finish i leaseMgr cfgMgr =>
      match exporter.client.inFlight[i]? with
      | some (request, some reply) =>
          if (handleReply request.handler reply).effects.any (ClientEffect.reportsFailure leaseMgr cfgMgr) then
            [.handlerFailed]
          else
            []
      | _ => []
  | .callout _ | .tick | .answerHeartbeat _ _ | .take | .execute _ _ _ | .reorder _ | .reboot _ => []

/-- The calls of the restored handler that an event makes. -/
def NXOSHeartbeatService.restoredCalls (service : NXOSHeartbeatService) : HeartbeatEvent → List HeartbeatEffect
  | .reply reply => (service.heartbeatReply reply).effects.filter fun effect => effect = .connectionRestoredHandler
  | .handlerFailed => []

variable [DecidableEq Addr]

theorem heartbeat_step (hstep : exporter.step action = some exporter') :
    Run heartbeatStep exporter.heartbeatService (exporter.heartbeatEvents action) exporter'.heartbeatService := by
  cases Exporter.step_cases hstep with
  | callout event => exact .nil _
  | tick => exact .nil _
  | answerHeartbeat i reply => cases reply <;> exact .nil _
  | finishHeartbeat i reply heartbeatService hreply hhandled =>
      simp only [Exporter.heartbeatEvents, hreply]
      exact .single trivial (by simp [heartbeatStep, hhandled])
  | take request rest hqueue => exact .nil _
  | execute i request reached reply hentry => exact .nil _
  | finish i request reply leaseMgr cfgMgr hentry =>
      simp only [Exporter.heartbeatEvents, hentry, Exporter.finish]
      split
      · exact .single trivial rfl
      · exact .nil _
  | reorder queue hperm => exact .nil _
  | reboot saved => exact .nil _

/-- The exporter refines its heartbeat service. -/
theorem heartbeat_run (hrun : Run Exporter.step start actions exporter) :
    Run heartbeatStep start.heartbeatService (observe Exporter.step Exporter.heartbeatEvents start actions)
      exporter.heartbeatService :=
  hrun.simulates Exporter.heartbeatService (fun _ => True) trivial (fun _ _ _ _ _ _ => trivial)
    fun _ _ _ _ hstep _ => heartbeat_step hstep

theorem lookups_step (hstep : exporter.step action = some exporter') :
    (exporter.posts action).count neighborLookup
      = (observe heartbeatStep NXOSHeartbeatService.restoredCalls exporter.heartbeatService
          (exporter.heartbeatEvents action)).length := by
  cases Exporter.step_cases hstep with
  | callout event =>
      rw [Exporter.posts, CalloutEvent.posted_eq]
      exact List.count_eq_zero.mpr (neighborLookup_notMem_postedBy _ _)
  | tick => rfl
  | answerHeartbeat i reply => rfl
  | finishHeartbeat i reply heartbeatService hreply hhandled =>
      have hevent : heartbeatStep exporter.heartbeatService (.reply reply) = some heartbeatService := by
        simp [heartbeatStep, hhandled]
      simp only [Exporter.posts, Exporter.heartbeatEvents, hreply]
      rw [observe_singleton hevent]
      exact count_heartbeat _
  | take request rest hqueue => rfl
  | execute i request reached reply hentry => rfl
  | finish i request reply leaseMgr cfgMgr hentry =>
      simp only [Exporter.posts, Exporter.heartbeatEvents, hentry]
      rw [List.count_eq_zero.mpr (neighborLookup_notMem_of_reply leaseMgr cfgMgr)]
      split
      · rw [observe_singleton rfl]
        rfl
      · rfl
  | reorder queue hperm => rfl
  | reboot saved => rfl

/-- **One restore for each notice.** However the callouts, the heartbeat and the workers interleave, the heartbeat
service goes through the history of the replies and the failed restores of the run, and there are as many neighbor
lookups as that history calls the restored handler. -/
theorem lookup_for_each_notice (hidle : start.client.Idle) (hsent : start.sent = [])
    (hrun : Run Exporter.step start actions exporter) :
    let history := observe Exporter.step Exporter.heartbeatEvents start actions
    Run heartbeatStep start.heartbeatService history exporter.heartbeatService ∧
      exporter.made.count neighborLookup
        = (observe heartbeatStep NXOSHeartbeatService.restoredCalls start.heartbeatService history).length := by
  refine ⟨heartbeat_run hrun, ?_⟩
  induction hrun with
  | nil => simp [Exporter.made, hsent, hidle.unrun, observe]
  | snoc hrun _ hlast ih =>
      rw [made_step hlast, Multiset.count_add, ih, Multiset.coe_count, lookups_step hlast,
        hrun.observe_snoc hlast, (heartbeat_run hrun).observe_append, List.length_append]

/-! A switch that is seen for the first time and then again with a larger uptime is restored to once. -/

def seenTwice : List (ExporterAction TextAddress) :=
  [.tick, .answerHeartbeat 0 (some (uptimeAfter 50)), .finishHeartbeat 0, .take, .tick,
    .answerHeartbeat 0 (some (uptimeAfter 60)), .finishHeartbeat 0]

def afterSeenTwice : Exporter :=
  (replay Exporter.step (emptyExporter ∅) seenTwice).getD (emptyExporter ∅)

theorem lookup_for_each_notice_seenTwice : afterSeenTwice.made.count neighborLookup = 1 := by
  have hempty : (emptyExporter ∅).client.Idle := ⟨rfl, rfl⟩
  have hrun : Run Exporter.step (emptyExporter ∅) seenTwice afterSeenTwice := run_of_replay rfl
  exact (lookup_for_each_notice hempty rfl hrun).2

/-! ### Retrying a restore -/

/-- No heartbeat reply that is taken in the step reports an uptime. -/
def NoUptime (exporter : Exporter) : ExporterAction Addr → Prop
  | .finishHeartbeat i => ∀ reply, exporter.heartbeats[i]? = some (some reply) → reportedUptime reply = none
  | _ => True

/-- The service takes the next uptime for a return of the switch, and has whom to tell. -/
def Exporter.OwesRestore (exporter : Exporter) : Prop :=
  exporter.heartbeatService.prevLostConnection = true ∧ exporter.heartbeatService.connectionRestoredHandler = true

theorem prevLostConnection_of_noUptime {service after : NXOSHeartbeatService} {reply : Reply}
    (hnone : reportedUptime reply = none) (hstep : heartbeatStep service (.reply reply) = some after) :
    after.prevLostConnection = true := by
  cases hcheck : checkForFailedConnectionOrRPCResponse reply with
  | ok into =>
      cases into with
      | none =>
          rw [heartbeatStep_failedReply hcheck, Option.some.injEq] at hstep
          exact hstep ▸ rfl
      | some uptime => simp [reportedUptime, hcheck] at hnone
  | throw exn => simp [heartbeatStep, NXOSHeartbeatService.heartbeatReply, hcheck] at hstep
  | undefined => simp [heartbeatStep, NXOSHeartbeatService.heartbeatReply, hcheck] at hstep

theorem owesRestore_step (hsilent : NoUptime exporter action) (hstep : exporter.step action = some exporter')
    (howes : exporter.OwesRestore) : exporter'.OwesRestore := by
  obtain ⟨hlost, hhandler⟩ := howes
  cases Exporter.step_cases hstep with
  | callout event => exact ⟨hlost, hhandler⟩
  | tick => exact ⟨hlost, hhandler⟩
  | answerHeartbeat i reply => cases reply <;> exact ⟨hlost, hhandler⟩
  | finishHeartbeat i reply heartbeatService hreply hhandled =>
      have hnone := hsilent reply hreply
      have hevent : heartbeatStep exporter.heartbeatService (.reply reply) = some heartbeatService := by
        simp [heartbeatStep, hhandled]
      exact ⟨prevLostConnection_of_noUptime hnone hevent,
        (heartbeatStep_connectionRestoredHandler hevent).trans hhandler⟩
  | take request rest hqueue => exact ⟨hlost, hhandler⟩
  | execute i request reached reply hentry => exact ⟨hlost, hhandler⟩
  | finish i request reply leaseMgr cfgMgr hentry =>
      rw [Exporter.OwesRestore, Exporter.finish]
      split
      · exact ⟨rfl, hhandler⟩
      · exact ⟨hlost, hhandler⟩
  | reorder queue hperm => exact ⟨hlost, hhandler⟩
  | reboot saved => exact ⟨hlost, hhandler⟩

theorem posted_of_owesRestore {reply : Reply} {uptime : UptimeResponse} (howes : exporter.OwesRestore)
    (huptime : reportedUptime reply = some uptime) :
    (exporter.heartbeatService.heartbeatReply reply).effects.flatMap HeartbeatEffect.posted = [neighborLookup] := by
  obtain ⟨hlost, hhandler⟩ := howes
  have hcheck := check_of_reportedUptime huptime
  have hdetects :
      exporter.heartbeatService.detectsReboot (getUptimeSecondsFromResponse uptime) = true := by
    simp [NXOSHeartbeatService.detectsReboot, hlost]
  simp [NXOSHeartbeatService.heartbeatReply, NXOSHeartbeatService.setupTimer, hcheck, hdetects, hhandler,
    HeartbeatEffect.posted, neighborLookup, restoreLeasesFromLeaseDatabase, asyncGetHWAddrToInterfaceNameMapping,
    ClientEffect.request?]

/-- **A failed restore is tried again.** When a restore reports its failure, the first heartbeat reply after it that
reports an uptime posts one neighbor lookup, whatever goes on in between. -/
theorem restore_retried {failed : Exporter} {i j : Nat} {request : Request} {reply beat : Reply}
    {uptime : UptimeResponse} {leaseMgr : LeaseMgr Addr} {cfgMgr : CfgMgr}
    (hentry : start.client.inFlight[i]? = some (request, some reply))
    (hreports :
      (handleReply request.handler reply).effects.any (ClientEffect.reportsFailure leaseMgr cfgMgr) = true)
    (hhandler : start.heartbeatService.connectionRestoredHandler = true)
    (hfinish : start.step (.finish i leaseMgr cfgMgr) = some failed)
    (hrun : RunWhere Exporter.step NoUptime failed actions exporter)
    (hbeat : exporter.heartbeats[j]? = some (some beat)) (huptime : reportedUptime beat = some uptime)
    (hstep : exporter.step (.finishHeartbeat j : ExporterAction Addr) = some exporter') :
    exporter'.client = exporter.client.enqueue [neighborLookup] := by
  have hfailed : failed.OwesRestore := by
    cases Exporter.step_cases hfinish with
    | finish i other otherReply leaseMgr cfgMgr hother =>
        obtain ⟨rfl, hsame⟩ := Prod.mk.inj (Option.some.inj (hentry.symm.trans hother))
        obtain rfl := Option.some.inj hsame
        simp only [Exporter.OwesRestore, Exporter.finish, hreports, if_true]
        exact ⟨rfl, hhandler⟩
  have howes : exporter.OwesRestore :=
    hrun.invariant Exporter.OwesRestore hfailed fun _ _ _ hsilent hnext hmid => owesRestore_step hsilent hnext hmid
  cases Exporter.step_cases hstep with
  | finishHeartbeat j other heartbeatService hother hhandled =>
      obtain rfl : beat = other := Option.some.inj (Option.some.inj (hbeat.symm.trans hother))
      exact congrArg exporter.client.enqueue (posted_of_owesRestore howes huptime)

/-! The neighbor lookup fails, and the next uptime leads to another one. -/

def failedLookup : Reply := ⟨some [], .connection, 200, none⟩

def lookupFailed : Exporter where
  heartbeatService := ⟨5, false, true, 0, false⟩
  heartbeats := [some (uptimeAfter 50)]
  client := { RequestPool.create 1 ∅ with inFlight := [(neighborLookup, some failedLookup)] }
  sent := [neighborLookup]
  logged := []

def afterLookupFailed (actions : List (ExporterAction TextAddress)) : Exporter :=
  (replay Exporter.step lookupFailed actions).getD lookupFailed

def giveUp : ExporterAction TextAddress := .finish 0 ⟨[]⟩ (configured [1])

theorem restore_retried_failedLookup :
    (afterLookupFailed [giveUp, .tick, .finishHeartbeat 0]).client
      = (afterLookupFailed [giveUp, .tick]).client.enqueue [neighborLookup] := by
  have hentry : lookupFailed.client.inFlight[0]? = some (neighborLookup, some failedLookup) := rfl
  have hfinish : lookupFailed.step giveUp = some (afterLookupFailed [giveUp]) := rfl
  have hbeat : (afterLookupFailed [giveUp, .tick]).heartbeats[0]? = some (some (uptimeAfter 50)) := rfl
  have hrun : RunWhere Exporter.step NoUptime (afterLookupFailed [giveUp]) [(.tick : ExporterAction TextAddress)]
      (afterLookupFailed [giveUp, .tick]) := .single trivial rfl
  exact restore_retried hentry rfl rfl hfinish hrun hbeat rfl rfl

end Heartbeats

end NxosExporter
