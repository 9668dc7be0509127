import NxosExporter.Proof.RouteOrigin
import NxosExporter.Proof.RouteVerdict

/-!
# One verdict for each route command

Whatever the workers interleave, the verdicts in the log are those of route commands that were sent, each at
most once and with the strings of the command; and each command has its verdict once its reply is taken.
-/

namespace NxosExporter

open Effectful WorkPool Transition

/-! ### What one reply logs -/

section Replies

def verdictsOf (effects : List ClientEffect) : List ResponseHandler :=
  (effects.filterMap ClientEffect.logged?).filterMap LogMessage.verdict?

theorem verdictsOf_eq_nil {effects : List ClientEffect}
    (hnone : ∀ effect ∈ effects, effect.logged?.bind LogMessage.verdict? = none) : verdictsOf effects = [] := by
  rw [verdictsOf, List.filterMap_filterMap, List.filterMap_eq_nil_iff]
  exact hnone

theorem verdictsOf_lookupAddressReply (responseHandler : LookupHandler) (reply : Reply) :
    verdictsOf (lookupAddressReply responseHandler reply).effects = [] := by
  refine verdictsOf_eq_nil fun effect hmem => ?_
  cases ofLookup_lookupAddressReply responseHandler reply effect hmem with
  | sendRequest request hjudges hcommand => rfl
  | log message hnone => exact hnone

theorem verdictsOf_hwAddrMappingReply (reply : Reply) : verdictsOf (hwAddrMappingReply reply).effects = [] := by
  refine verdictsOf_eq_nil ?_
  rw [hwAddrMappingReply]
  split
  · refine Prog.forall_effects_bind (Prog.forall_effects_tryCatch ?_ fun ex => ?_) fun decoded => ?_
    · cases reply.jsonRpcException with
      | some exception => simp
      | none =>
          refine Prog.forall_effects_bind (by simp) fun response => ?_
          exact Prog.forall_effects_bind (by simp) fun raw => by simp
    · exact Prog.forall_effects_bind (List.forall_mem_singleton.mpr rfl) fun _ => by simp
    · exact Prog.forall_effects_bind (by simp) fun mapping => List.forall_mem_singleton.mpr rfl
  · exact List.forall_mem_singleton.mpr rfl

theorem checkRouteReply_ne_undefined (reply : Reply) : checkRouteReply reply ≠ .undefined := by
  obtain ⟨response, responseError, statusCode, exception⟩ := reply
  rw [checkRouteReply]
  by_cases hfailed : responseError ≠ .success
  · simp [hfailed]
  · by_cases hempty : (response.getD []).isEmpty = true <;> by_cases hok : statusCode = 200 <;>
      by_cases hunauthorized : statusCode = 401 <;> cases exception <;>
      simp [hfailed, hempty, hok, hunauthorized]

/-- A reply to a route command gets one verdict, the reply to a lookup none. -/
theorem verdictsOf_handleReply (handler : ResponseHandler) (reply : Reply) :
    verdictsOf (handleReply handler reply).effects = if handler.isRouteVerdict then [handler] else [] := by
  cases handler with
  | lookupAddress lookupAddrStr lookupAddrType responseHandler =>
      exact verdictsOf_lookupAddressReply responseHandler reply
  | routeApply routeAddrTypeStr src dst =>
      rw [handleReply, handleRouteApply]
      cases hcheck : checkRouteReply reply with
      | ok value => rfl
      | throw exn => rfl
      | undefined => exact absurd hcheck (checkRouteReply_ne_undefined reply)
  | routeRemove routeAddrTypeStr src dst =>
      rw [handleReply, handleRouteRemove]
      cases hcheck : checkRouteReply reply with
      | ok value => rfl
      | throw exn => rfl
      | undefined => exact absurd hcheck (checkRouteReply_ne_undefined reply)
  | hwAddrMapping => exact verdictsOf_hwAddrMappingReply reply

end Replies

/-! ### What the closures judge -/

section Requests

variable {Addr : Type} [IOAddress Addr] {leaseMgr : LeaseMgr Addr} {cfgMgr : CfgMgr}

theorem judgesItself_of_clientCall (effect : ServiceEffect Addr) :
    ∀ request ∈ requestsOf (clientCall leaseMgr effect).effects, request.JudgesItself := by
  intro request hmem
  obtain ⟨routeInfo, hposts⟩ := posts_of_clientCall hmem
  cases hposts <;> rfl

theorem judgesItself_of_postedBy (effects : List (ServiceEffect Addr)) :
    ∀ request ∈ postedBy leaseMgr effects, request.JudgesItself := by
  intro request hmem
  obtain ⟨effect, -, hposted⟩ := mem_postedBy hmem
  exact judgesItself_of_clientCall effect request hposted

theorem judgesItself_of_heartbeat (effect : HeartbeatEffect) :
    ∀ request ∈ effect.posted, request.JudgesItself := by
  cases effect with
  | connectionRestoredHandler => exact List.forall_mem_singleton.mpr rfl
  | _ => exact List.forall_mem_nil _

theorem judgesItself_of_reply {request : Request} {reply : Reply} {effect : ClientEffect}
    (heffect : effect ∈ (handleReply request.handler reply).effects) :
    ∀ next ∈ effect.posted leaseMgr cfgMgr, next.JudgesItself := by
  intro next hmem
  obtain hsent | hrestored := List.mem_append.mp hmem
  · have hfollows : next ∈ followUps request reply :=
      List.mem_filterMap.mpr ⟨effect, heffect, Option.mem_toList.mp hsent⟩
    exact (command_of_mem_followUps hfollows).1
  · exact judgesItself_of_postedBy _ next hrestored

end Requests

/-! ### The account -/

section Runs

variable {Addr : Type} {exporter exporter' : Exporter}

/-- The closures of the route commands among some requests. -/
def routeCommands (requests : Multiset Request) : Multiset ResponseHandler :=
  (requests.map Request.handler).filter fun handler => handler.isRouteVerdict

def Exporter.verdicts (exporter : Exporter) : Multiset ResponseHandler :=
  (exporter.logged.filterMap LogMessage.verdict? : List ResponseHandler)

/-- The reply of a request is missing. -/
def ExporterAction.losesReply : ExporterAction Addr → Bool
  | .execute _ _ none => true
  | _ => false

/-- Every route command that was sent has its verdict, or its reply is there, or it went missing; and every
request that was sent or is on its way judges itself. -/
structure Exporter.Accounted (missing : Multiset ResponseHandler) (exporter : Exporter) : Prop where
  commands : exporter.verdicts + routeCommands exporter.client.answeredTasks + missing
    = routeCommands (exporter.sent : Multiset Request)
  sent : ∀ request ∈ exporter.sent, request.JudgesItself
  requests : exporter.client.Holds Request.JudgesItself fun _ _ => True

theorem routeCommands_cons (request : Request) (requests : Multiset Request) :
    routeCommands (request ::ₘ requests)
      = (if request.handler.isRouteVerdict then {request.handler} else 0) + routeCommands requests := by
  rw [routeCommands, Multiset.map_cons, Multiset.filter_cons]
  rfl

theorem routeCommands_append_singleton (requests : List Request) (request : Request) :
    routeCommands ((requests ++ [request] : List Request) : Multiset Request)
      = (if request.handler.isRouteVerdict then {request.handler} else 0)
        + routeCommands (requests : Multiset Request) := by
  rw [← routeCommands_cons, Multiset.cons_coe]
  exact congrArg routeCommands (Multiset.coe_eq_coe.mpr (List.perm_append_singleton request requests))

theorem accounted_answer {missing : Multiset ResponseHandler} {i : Nat} {request : Request} {reached : Bool}
    {reply : Reply} (hentry : exporter.client.inFlight[i]? = some (request, none))
    (haccounted : exporter.Accounted missing) :
    (exporter.execute i request reached (some reply)).Accounted missing := by
  obtain ⟨hcommands, hsent, hrequests⟩ := haccounted
  have hrequest := hrequests.left_of_entry hentry
  refine ⟨?_, List.forall_mem_append.mpr ⟨hsent, List.forall_mem_singleton.mpr hrequest⟩,
    hrequests.answer trivial⟩
  have hanswered : (exporter.execute i request reached (some reply)).client.answeredTasks
      = request ::ₘ exporter.client.answeredTasks := answeredTasks_answer hentry
  calc
    exporter.verdicts + routeCommands (exporter.execute i request reached (some reply)).client.answeredTasks + missing
      = (if request.handler.isRouteVerdict then {request.handler} else 0)
          + (exporter.verdicts + routeCommands exporter.client.answeredTasks + missing) := by
        rw [hanswered, routeCommands_cons]
        abel
    _ = routeCommands ((exporter.sent ++ [request] : List Request) : Multiset Request) := by
        rw [hcommands, routeCommands_append_singleton]

theorem accounted_drop {missing : Multiset ResponseHandler} {i : Nat} {request : Request} {reached : Bool}
    (hentry : exporter.client.inFlight[i]? = some (request, none)) (haccounted : exporter.Accounted missing) :
    (exporter.execute i request reached none).Accounted
      ((if request.handler.isRouteVerdict then {request.handler} else 0) + missing) := by
  obtain ⟨hcommands, hsent, hrequests⟩ := haccounted
  have hrequest := hrequests.left_of_entry hentry
  refine ⟨?_, List.forall_mem_append.mpr ⟨hsent, List.forall_mem_singleton.mpr hrequest⟩, hrequests.drop⟩
  have hanswered : (exporter.execute i request reached none).client.answeredTasks
      = exporter.client.answeredTasks := answeredTasks_drop hentry
  calc
    exporter.verdicts + routeCommands (exporter.execute i request reached none).client.answeredTasks
        + ((if request.handler.isRouteVerdict then {request.handler} else 0) + missing)
      = (if request.handler.isRouteVerdict then {request.handler} else 0)
          + (exporter.verdicts + routeCommands exporter.client.answeredTasks + missing) := by
        rw [hanswered]
        abel
    _ = routeCommands ((exporter.sent ++ [request] : List Request) : Multiset Request) := by
        rw [hcommands, routeCommands_append_singleton]

variable [IOAddress Addr]

theorem accounted_finish {missing : Multiset ResponseHandler} {i : Nat} {request : Request} {reply : Reply}
    {leaseMgr : LeaseMgr Addr} {cfgMgr : CfgMgr}
    (hentry : exporter.client.inFlight[i]? = some (request, some reply))
    (haccounted : exporter.Accounted missing) :
    (exporter.finish i request reply leaseMgr cfgMgr).Accounted missing := by
  obtain ⟨hcommands, hsent, hrequests⟩ := haccounted
  refine ⟨?_, hsent, hrequests.close fun next hnext => ?_⟩
  · have hverdicts : (exporter.finish i request reply leaseMgr cfgMgr).verdicts
        = exporter.verdicts + (if request.handler.isRouteVerdict then {request.handler} else 0) := by
      have hreply := verdictsOf_handleReply request.handler reply
      rw [verdictsOf] at hreply
      rw [Exporter.verdicts, Exporter.finish, List.filterMap_append, hreply, ← Multiset.coe_add]
      split_ifs <;> rfl
    have hclosed : routeCommands exporter.client.answeredTasks
        = (if request.handler.isRouteVerdict then {request.handler} else 0)
          + routeCommands (exporter.finish i request reply leaseMgr cfgMgr).client.answeredTasks := by
      rw [← routeCommands_cons]
      exact congrArg routeCommands (answeredTasks_close hentry)
    calc
      (exporter.finish i request reply leaseMgr cfgMgr).verdicts
          + routeCommands (exporter.finish i request reply leaseMgr cfgMgr).client.answeredTasks + missing
        = exporter.verdicts + routeCommands exporter.client.answeredTasks + missing := by
          rw [hverdicts, hclosed]
          abel
      _ = routeCommands (exporter.sent : Multiset Request) := hcommands
  · obtain ⟨effect, heffect, hposted⟩ := List.mem_flatMap.mp hnext
    exact judgesItself_of_reply heffect next hposted

variable [DecidableEq Addr] {action : ExporterAction Addr} {actions : List (ExporterAction Addr)}

theorem accounted_step {missing : Multiset ResponseHandler} (hstep : exporter.step action = some exporter')
    (haccounted : exporter.Accounted missing) :
    ∃ missing', exporter'.Accounted missing' ∧
      Multiset.card missing' ≤ Multiset.card missing + if action.losesReply then 1 else 0 := by
  have hsame : ∀ {other : Exporter}, other.Accounted missing → ∃ missing', other.Accounted missing' ∧
      Multiset.card missing' ≤ Multiset.card missing + if action.losesReply then 1 else 0 :=
    fun hother => ⟨missing, hother, Nat.le_add_right _ _⟩
  cases Exporter.step_cases hstep with
  | callout event =>
      refine hsame ⟨haccounted.commands, haccounted.sent, haccounted.requests.enqueue ?_⟩
      rw [CalloutEvent.posted_eq]
      exact judgesItself_of_postedBy _
  | tick => exact hsame ⟨haccounted.commands, haccounted.sent, haccounted.requests⟩
  | answerHeartbeat i reply =>
      cases reply <;> exact hsame ⟨haccounted.commands, haccounted.sent, haccounted.requests⟩
  | finishHeartbeat i reply heartbeatService =>
      refine hsame ⟨haccounted.commands, haccounted.sent, haccounted.requests.enqueue fun request hmem => ?_⟩
      obtain ⟨effect, -, hposted⟩ := List.mem_flatMap.mp hmem
      exact judgesItself_of_heartbeat effect request hposted
  | take request rest hqueue =>
      refine hsame ⟨?_, haccounted.sent, haccounted.requests.start hqueue⟩
      rw [answeredTasks_start]
      exact haccounted.commands
  | execute i request reached reply hentry =>
      cases reply with
      | some reply => exact hsame (accounted_answer hentry haccounted)
      | none =>
          refine ⟨_, accounted_drop hentry haccounted, ?_⟩
          have hloses : (ExporterAction.execute i reached none : ExporterAction Addr).losesReply = true := rfl
          rw [Multiset.card_add, Nat.add_comm, if_pos hloses]
          refine Nat.add_le_add_left ?_ _
          split_ifs <;> simp
  | finish i request reply leaseMgr cfgMgr hentry => exact hsame (accounted_finish hentry haccounted)
  | reorder queue hperm => exact hsame ⟨haccounted.commands, haccounted.sent, haccounted.requests.reorder hperm⟩
  | reboot saved => exact hsame ⟨haccounted.commands, haccounted.sent, haccounted.requests.disturb⟩

/-- **One verdict for each route command.** In every run, each verdict in the log is for one of the route commands
that were sent, and each command has its verdict, has its reply waiting to be judged, or is one of those whose
reply went missing; and the closure of every request judges the route update that its own commands make. -/
theorem verdict_for_each_command {start : Exporter} (hidle : start.client.Idle) (hsent : start.sent = [])
    (hlogged : start.logged = []) (hrun : Run Exporter.step start actions exporter) :
    ∃ missing,
      exporter.verdicts + routeCommands exporter.client.answeredTasks + missing
          = routeCommands (exporter.sent : Multiset Request) ∧
        Multiset.card missing ≤ actions.countP ExporterAction.losesReply ∧
        ∀ request ∈ exporter.sent, request.JudgesItself := by
  have hstart : start.Accounted 0 := by
    refine ⟨?_, by simp [hsent], hidle.holds⟩
    simp [Exporter.verdicts, hlogged, hsent, hidle.answeredTasks, routeCommands]
  have haccounted : ∃ missing, exporter.Accounted missing ∧
      Multiset.card missing ≤ actions.countP ExporterAction.losesReply := by
    refine hrun.invariant_trace (fun past mid => ∃ missing, mid.Accounted missing ∧
      Multiset.card missing ≤ past.countP ExporterAction.losesReply) ⟨0, hstart, le_rfl⟩ ?_
    rintro past mid action last - hstep ⟨missing, hmid, hcard⟩
    obtain ⟨missing', hlast, hgrown⟩ := accounted_step hstep hmid
    refine ⟨missing', hlast, hgrown.trans ?_⟩
    rw [List.countP_append, List.countP_singleton]
    exact Nat.add_le_add_right hcard _
  obtain ⟨missing, hmissing, hcard⟩ := haccounted
  exact ⟨missing, hmissing.commands, hcard, hmissing.sent⟩

/-! The route of a selected address is applied and judged. -/

def judgedAddress : List (ExporterAction TextAddress) :=
  [.callout (.lease6Select ⟨[]⟩ renewQuery addressLease false), .take,
    .execute 0 true (some (vlanReply "Vlan10")), .finish 0 ⟨[]⟩ ⟨none⟩, .take,
    .execute 0 true (some (vlanReply "Vlan10")), .finish 0 ⟨[]⟩ ⟨none⟩]

def afterJudgement : Exporter :=
  (replay Exporter.step (emptyExporter ∅) judgedAddress).getD (emptyExporter ∅)

theorem verdict_for_each_command_judgedAddress :
    afterJudgement.verdicts = {.routeApply "IA_NA" (hostSubnet clientAddress) "Vlan10"} := by
  have hrun : Run Exporter.step (emptyExporter ∅) judgedAddress afterJudgement := run_of_replay rfl
  obtain ⟨missing, hcommands, hcard, -⟩ := verdict_for_each_command ⟨rfl, rfl⟩ rfl rfl hrun
  obtain rfl : missing = 0 := Multiset.card_eq_zero.mp (Nat.le_zero.mp hcard)
  have hanswered : routeCommands afterJudgement.client.answeredTasks = 0 := rfl
  rw [hanswered, add_zero, add_zero] at hcommands
  exact hcommands

end Runs

end NxosExporter
