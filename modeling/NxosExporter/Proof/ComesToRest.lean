import Mathlib.Tactic.IntervalCases
import NxosExporter.Lib.DrainingPool
import NxosExporter.Proof.Recovery

/-!
# Coming to rest

A reply to a lookup leads to commands, however many, and a reply to a command leads to nothing. So what a callout, a
tick of the timer or a reboot sets off comes to an end, whatever the switch replies: the steps of the exporter itself
lower a multiset of ranks, and it is never stuck with something left to do.
-/

namespace NxosExporter

open Effectful WorkPool Transition

variable {Addr : Type} {exporter exporter' : Exporter} {request next : Request} {reply : Reply}

/-! ### What a reply leads to is closer to the end -/

def Request.level (request : Request) : Nat :=
  match request.handler with
  | .lookupAddress _ _ _ | .hwAddrMapping => 1
  | .routeApply _ _ _ | .routeRemove _ _ _ => 0

theorem Request.level_le_one (request : Request) : request.level ≤ 1 := by
  obtain ⟨commands, handler⟩ := request
  cases handler with
  | lookupAddress lookupAddrStr lookupAddrType responseHandler => exact Nat.le_refl 1
  | routeApply type src dst => exact Nat.zero_le 1
  | routeRemove type src dst => exact Nat.zero_le 1
  | hwAddrMapping => exact Nat.le_refl 1

/-- A request whose closure judges a route update. -/
theorem level_eq_zero (hcommand : request.handler.update?.isSome = true) : request.level = 0 := by
  obtain ⟨commands, handler⟩ := request
  cases handler with
  | lookupAddress lookupAddrStr lookupAddrType responseHandler => cases hcommand
  | routeApply type src dst => rfl
  | routeRemove type src dst => rfl
  | hwAddrMapping => cases hcommand

theorem level_followUp_lt (hnext : next ∈ followUps request reply) : next.level < request.level := by
  have hzero : next.level = 0 := level_eq_zero (command_of_mem_followUps hnext).2
  obtain ⟨commands, handler⟩ := request
  cases handler with
  | lookupAddress lookupAddrStr lookupAddrType responseHandler =>
      rw [hzero]
      exact Nat.zero_lt_one
  | routeApply type src dst => exact absurd (followUps_routeApply ▸ hnext) List.not_mem_nil
  | routeRemove type src dst => exact absurd (followUps_routeRemove ▸ hnext) List.not_mem_nil
  | hwAddrMapping => exact absurd (followUps_hwAddrMapping ▸ hnext) List.not_mem_nil

section Restores

variable [IOAddress Addr] {leaseMgr : LeaseMgr Addr} {cfgMgr : CfgMgr}

/-- A restore posts commands. -/
theorem level_restored {mapping : HWAddrMap} {failed : Bool}
    (hnext : next ∈ postedBy leaseMgr (restoreCallback leaseMgr cfgMgr (some mapping) failed).effects) :
    next.level = 0 := by
  obtain ⟨effect, heffect, hposted⟩ := mem_postedBy hnext
  cases onlyRoutes_restore heffect with
  | sent route hexported =>
      obtain ⟨-, lease, -, hrestored⟩ := hexported
      have hposts := posts_of_sent hposted
      generalize route.routeInfo = routeInfo at hrestored hposts
      cases hrestored <;> cases hposts <;> rfl
  | removed route hremoved => exact hremoved.elim
  | handlerFailed => exact absurd hposted List.not_mem_nil
  | setStatusSkip => exact absurd hposted List.not_mem_nil
  | log message => exact absurd hposted List.not_mem_nil

theorem level_posted_lt
    (hnext : next ∈ (handleReply request.handler reply).effects.flatMap (ClientEffect.posted leaseMgr cfgMgr)) :
    next.level < request.level := by
  obtain ⟨effect, heffect, hposted⟩ := List.mem_flatMap.mp hnext
  obtain hsent | hrestored := List.mem_append.mp hposted
  · exact level_followUp_lt (List.mem_filterMap.mpr ⟨effect, heffect, Option.mem_toList.mp hsent⟩)
  · cases effect with
    | sendRequest other => exact absurd hrestored List.not_mem_nil
    | log message => exact absurd hrestored List.not_mem_nil
    | hwAddrMapping mapping failed =>
        rw [level_restored hrestored, Request.level, handler_of_hwAddrMapping_mem heffect]
        exact Nat.zero_lt_one

end Restores

/-! ### The measure -/

/-- The steps that the exporter makes without a callout, a tick or a reboot; the order of the queue is settled with
what is posted. -/
def ExporterAction.Internal : ExporterAction Addr → Prop
  | answerHeartbeat _ _ | finishHeartbeat _ | take | execute _ _ _ | finish _ _ _ => True
  | callout _ | tick | reorder _ | reboot _ => False

/-- The rank of a heartbeat is above those of the requests. -/
def heartbeatRank : Option Reply → Nat
  | none => 7
  | some _ => 6

namespace Exporter

def ranks (exporter : Exporter) : Multiset Nat :=
  (exporter.heartbeats : Multiset (Option Reply)).map heartbeatRank + exporter.client.ranks Request.level

/-- Nothing is left to do. -/
def AtRest (exporter : Exporter) : Prop := exporter.heartbeats = [] ∧ exporter.client.Idle

theorem ranks_of_heartbeat {i : Nat} {heartbeat : Option Reply} (hentry : exporter.heartbeats[i]? = some heartbeat) :
    exporter.ranks = heartbeatRank heartbeat ::ₘ
      ((exporter.heartbeats.eraseIdx i : Multiset (Option Reply)).map heartbeatRank
        + exporter.client.ranks Request.level) := by
  rw [ranks, (coe_of_getElem? hentry).1, Multiset.map_cons, Multiset.cons_add]

theorem ranks_answerHeartbeat_lt {i : Nat} (hentry : exporter.heartbeats[i]? = some none) (reply : Option Reply) :
    (exporter.answerHeartbeat i reply).ranks.IsDershowitzMannaLT exporter.ranks := by
  rw [ranks_of_heartbeat hentry]
  cases reply with
  | none =>
      have hafter : (exporter.answerHeartbeat i none).ranks = 0
          + ((exporter.heartbeats.eraseIdx i : Multiset (Option Reply)).map heartbeatRank
            + exporter.client.ranks Request.level) := by
        rw [zero_add]
        rfl
      rw [hafter]
      exact ranks_replace_lt fun rank hrank => absurd hrank (Multiset.notMem_zero rank)
  | some reply =>
      have hafter : (exporter.answerHeartbeat i (some reply)).ranks = {6}
          + ((exporter.heartbeats.eraseIdx i : Multiset (Option Reply)).map heartbeatRank
            + exporter.client.ranks Request.level) := by
        rw [ranks, answerHeartbeat, (coe_of_getElem? hentry).2, Multiset.map_cons, Multiset.cons_add,
          Multiset.singleton_add]
        rfl
      rw [hafter]
      refine ranks_replace_lt fun rank hrank => ?_
      rw [Multiset.mem_singleton.mp hrank]
      exact Nat.lt_succ_self 6

/-- The handler of a heartbeat may post a lookup. -/
theorem ranks_finishHeartbeat_lt {i : Nat} (hentry : exporter.heartbeats[i]? = some (some reply))
    (heartbeatService : NXOSHeartbeatService) (requests : List Request) :
    { exporter with
      heartbeatService := heartbeatService
      heartbeats := exporter.heartbeats.eraseIdx i
      client := exporter.client.enqueue requests }.ranks.IsDershowitzMannaLT exporter.ranks := by
  rw [ranks_of_heartbeat hentry]
  have hafter : { exporter with
      heartbeatService := heartbeatService
      heartbeats := exporter.heartbeats.eraseIdx i
      client := exporter.client.enqueue requests }.ranks = (requests : Multiset Request).map (queuedRank Request.level)
        + ((exporter.heartbeats.eraseIdx i : Multiset (Option Reply)).map heartbeatRank
          + exporter.client.ranks Request.level) := by
    rw [ranks, ranks_enqueue, add_left_comm]
  rw [hafter]
  refine ranks_replace_lt fun rank hrank => ?_
  obtain ⟨request, -, rfl⟩ := Multiset.mem_map.mp hrank
  have hlevel := request.level_le_one
  rw [queuedRank, heartbeatRank]
  omega

variable [IOAddress Addr] [DecidableEq Addr] {action : ExporterAction Addr}

/-- **Step.** -/
theorem ranks_step_lt (hinternal : action.Internal) (hstep : exporter.step action = some exporter') :
    exporter'.ranks.IsDershowitzMannaLT exporter.ranks := by
  cases step_cases hstep with
  | callout event => exact hinternal.elim
  | tick => exact hinternal.elim
  | answerHeartbeat i reply hentry => exact ranks_answerHeartbeat_lt hentry reply
  | finishHeartbeat i reply heartbeatService hentry =>
      exact ranks_finishHeartbeat_lt hentry heartbeatService _
  | take request rest hqueue => exact ranks_add_lt (ranks_start_lt hqueue) _
  | execute i request reached reply hentry =>
      cases reply with
      | some reply => exact ranks_add_lt (ranks_answer_lt hentry) _
      | none => exact ranks_add_lt (ranks_drop_lt hentry) _
  | finish i request reply leaseMgr cfgMgr hentry =>
      exact ranks_add_lt (ranks_close_lt hentry fun next hnext => level_posted_lt hnext) _
  | reorder queue hperm => exact hinternal.elim
  | reboot saved => exact hinternal.elim

/-! ### Never stuck -/

theorem size_step (hstep : exporter.step action = some exporter') : exporter'.client.size = exporter.client.size := by
  cases step_cases hstep with
  | callout event => rfl
  | tick => rfl
  | answerHeartbeat i reply => cases reply <;> rfl
  | finishHeartbeat i reply heartbeatService => rfl
  | take request rest => rfl
  | execute i request reached reply => cases reply <;> rfl
  | finish i request reply leaseMgr cfgMgr => rfl
  | reorder queue => rfl
  | reboot saved => rfl

/-- The handlers of the heartbeats that have been answered stay within the language. -/
def Handles (exporter : Exporter) : Prop :=
  ∀ (i : Nat) (reply : Reply), exporter.heartbeats[i]? = some (some reply) →
    (exporter.heartbeatService.heartbeatReply reply).outcome ≠ .undefined

/-- The exceptions of the decoding are caught. -/
theorem check_ne_throw (reply : Reply) (exn : Exn) : checkForFailedConnectionOrRPCResponse reply ≠ .throw exn := by
  intro hthrow
  rw [checkForFailedConnectionOrRPCResponse] at hthrow
  split at hthrow
  · cases hthrow
  · split at hthrow
    · cases hthrow
    · extract_lets -underBinder proceed into at hthrow
      clear_value into
      cases into <;> cases hthrow

omit [IOAddress Addr] [DecidableEq Addr] in
theorem exists_handled {service : NXOSHeartbeatService}
    (hdefined : (service.heartbeatReply reply).outcome ≠ .undefined) :
    ∃ service', (service.heartbeatReply reply).outcome = .ok service' := by
  cases hcheck : checkForFailedConnectionOrRPCResponse reply with
  | ok uptime =>
      cases uptime with
      | none => cases hhandler : service.connectionFailedHandler <;>
          simp [NXOSHeartbeatService.heartbeatReply, hcheck, hhandler]
      | some uptime =>
          cases hdetects : service.detectsReboot (getUptimeSecondsFromResponse uptime) <;>
            cases hhandler : service.connectionRestoredHandler <;>
              simp [NXOSHeartbeatService.heartbeatReply, NXOSHeartbeatService.setupTimer, hcheck, hdetects, hhandler]
  | throw exn => exact absurd hcheck (check_ne_throw reply exn)
  | undefined => simp [NXOSHeartbeatService.heartbeatReply, hcheck] at hdefined

variable (Addr) in
/-- **Progress.** While something is left to do, there is a step. -/
theorem atRest_or_internal (hsize : 0 < exporter.client.size) (hhandles : exporter.Handles) :
    exporter.AtRest ∨ ∃ action : ExporterAction Addr, action.Internal ∧ exporter.step action ≠ none := by
  cases hheartbeats : exporter.heartbeats with
  | cons heartbeat rest =>
      refine .inr ?_
      cases heartbeat with
      | none => exact ⟨.answerHeartbeat 0 none, trivial, by simp [step, hheartbeats]⟩
      | some reply =>
          have hentry : exporter.heartbeats[0]? = some (some reply) := by rw [hheartbeats]; rfl
          obtain ⟨service', hservice⟩ := exists_handled (hhandles 0 reply hentry)
          exact ⟨.finishHeartbeat 0, trivial, by simp [step, hheartbeats, finishHeartbeat, hservice]⟩
  | nil =>
      cases hinFlight : exporter.client.inFlight with
      | cons entry others =>
          refine .inr ?_
          obtain ⟨request, reply⟩ := entry
          cases reply with
          | none => exact ⟨.execute 0 false none, trivial, by simp [step, hinFlight]⟩
          | some reply => exact ⟨.finish 0 ⟨[]⟩ ⟨none⟩, trivial, by simp [step, hinFlight]⟩
      | nil =>
          cases hqueue : exporter.client.queue with
          | nil => exact .inl ⟨hheartbeats, hqueue, hinFlight⟩
          | cons request others => exact .inr ⟨.take, trivial, by simp [step, hqueue, hinFlight, hsize]⟩

variable (Addr) in
/-- **Coming to rest.** Whatever the network and the switch do, and however the threads interleave: an exporter that
takes its steps while it can comes to a state with no heartbeat and no request left. -/
theorem comes_to_rest {trace : Nat → Exporter} (hsize : 0 < (trace 0).client.size)
    (hhandles : ∀ n, (trace n).Handles)
    (hsteps : ∀ n, (∃ action : ExporterAction Addr, action.Internal ∧ (trace n).step action = some (trace (n + 1))) ∨
      trace (n + 1) = trace n ∧ ∀ action : ExporterAction Addr, action.Internal → (trace n).step action = none) :
    ∃ n, (trace n).AtRest := by
  have hsizes : ∀ n, 0 < (trace n).client.size := by
    intro n
    induction n with
    | zero => exact hsize
    | succ n ih =>
        obtain ⟨action, -, hstep⟩ | ⟨hsame, -⟩ := hsteps n
        · rwa [size_step hstep]
        · rwa [hsame]
  refine exists_reached Multiset.wellFounded_isDershowitzMannaLT ranks AtRest fun n => ?_
  obtain ⟨action, hinternal, hstep⟩ | ⟨-, hstuck⟩ := hsteps n
  · exact .inr (ranks_step_lt hinternal hstep)
  · obtain hrest | ⟨action, hinternal, hnext⟩ := atRest_or_internal Addr (hsizes n) (hhandles n)
    · exact .inl hrest
    · exact absurd (hstuck action hinternal) hnext

/-- Nothing is left that could take a step. -/
theorem AtRest.step_eq_none (hrest : exporter.AtRest) (hinternal : action.Internal) :
    exporter.step action = none := by
  obtain ⟨hheartbeats, hqueue, hinFlight⟩ := hrest
  cases action with
  | callout event => exact hinternal.elim
  | tick => exact hinternal.elim
  | answerHeartbeat i reply => simp [step, hheartbeats]
  | finishHeartbeat i => simp [step, hheartbeats]
  | take => simp [step, hqueue]
  | execute i reached reply => simp [step, hinFlight]
  | finish i leaseMgr cfgMgr => simp [step, hinFlight]
  | reorder queue => exact hinternal.elim
  | reboot saved => exact hinternal.elim

/-! The steps after the switch is back, once its first reply is noticed. -/

def recovery : List (ExporterAction TextAddress) :=
  [.take, lookupAnswered, restored, .take, .execute 0 true none]

theorem comes_to_rest_recovery : ∃ n, (afterReturn (recovery.take n)).AtRest := by
  have hrest : (afterReturn recovery).AtRest := ⟨rfl, rfl, rfl⟩
  have hdone : ∀ n, ¬ n < 5 → afterReturn (recovery.take n) = afterReturn recovery := by
    intro n hlt
    rw [List.take_of_length_le (Nat.le_of_not_lt hlt)]
  have hnone : ∀ n, (afterReturn (recovery.take n)).heartbeats = [] := by
    intro n
    by_cases hlt : n < 5
    · interval_cases n <;> rfl
    · rw [hdone n hlt]
      exact hrest.1
  refine comes_to_rest TextAddress Nat.zero_lt_one (fun n i reply hentry => ?_) fun n => ?_
  · rw [hnone] at hentry
    cases hentry
  · by_cases hlt : n < 5
    · refine .inl ?_
      interval_cases n
      · exact ⟨.take, trivial, rfl⟩
      · exact ⟨lookupAnswered, trivial, rfl⟩
      · exact ⟨restored, trivial, rfl⟩
      · exact ⟨.take, trivial, rfl⟩
      · exact ⟨.execute 0 true none, trivial, rfl⟩
    · rw [hdone n hlt, hdone (n + 1) (by omega)]
      exact .inr ⟨rfl, fun action hinternal => hrest.step_eq_none hinternal⟩

end Exporter

end NxosExporter
