import NxosExporter.Proof.Reboot

/-!
# A loss is followed by a restore

Every event writes the flag of the lost connection: a successful reply clears it and everything else sets it.
So the flag says what the last event was, and the reply that clears it has acted on it.
-/

namespace NxosExporter

open Transition

def HeartbeatEvent.succeeds : HeartbeatEvent → Bool
  | .reply answer => (reportedUptime answer).isSome
  | .handlerFailed => false

/-- No reply has succeeded yet, or a failed reply or restore pass came after the last one that did. -/
def RestoreDue (past : List HeartbeatEvent) : Prop :=
  (∀ event ∈ past, event.succeeds = false) ∨
    ∃ before loss between, past = before ++ loss :: between ∧ loss.succeeds = false ∧
      ∀ event ∈ between, event.succeeds = false

theorem RestoreDue.last_not_succeeds {past : List HeartbeatEvent} (hdue : RestoreDue past) :
    ∀ event ∈ past.getLast?, event.succeeds = false := by
  intro event hlast
  obtain hnone | ⟨before, loss, between, rfl, hloss, hbetween⟩ := hdue
  · exact hnone event (List.mem_of_getLast? hlast)
  · rw [List.getLast?_append_of_ne_nil _ (List.cons_ne_nil loss between)] at hlast
    obtain rfl | hmem := List.mem_cons.mp (List.mem_of_getLast? hlast)
    · exact hloss
    · exact hbetween event hmem

section Steps

variable {before after : NXOSHeartbeatService} {event : HeartbeatEvent}

theorem heartbeatStep_prevLostConnection (hstep : heartbeatStep before event = some after) :
    after.prevLostConnection = !event.succeeds := by
  cases event with
  | handlerFailed =>
      obtain rfl : before.handlerFailedCallback = after := by simpa [heartbeatStep] using hstep
      rfl
  | reply reply =>
      cases hcheck : checkForFailedConnectionOrRPCResponse reply with
      | ok into =>
          have hreported : reportedUptime reply = into := by simp [reportedUptime, hcheck]
          cases into with
          | none =>
              rw [heartbeatStep_failedReply hcheck, Option.some.injEq] at hstep
              rw [← hstep, HeartbeatEvent.succeeds, hreported]
              rfl
          | some uptime =>
              rw [heartbeatStep_reply hreported, Option.some.injEq] at hstep
              rw [← hstep, HeartbeatEvent.succeeds, hreported]
              rfl
      | throw exn => simp [heartbeatStep, NXOSHeartbeatService.heartbeatReply, hcheck] at hstep
      | undefined => simp [heartbeatStep, NXOSHeartbeatService.heartbeatReply, hcheck] at hstep

/-- A reply that succeeds while the flag is set calls the restored handler. -/
theorem connectionRestoredHandler_mem_of_lost {service : NXOSHeartbeatService} {reply : Reply}
    {uptime : UptimeResponse} (hhandler : service.connectionRestoredHandler = true)
    (hlost : service.prevLostConnection = true) (huptime : reportedUptime reply = some uptime) :
    .connectionRestoredHandler ∈ (service.heartbeatReply reply).effects := by
  rw [connectionRestoredHandler_mem_iff hhandler huptime, NXOSHeartbeatService.detectsReboot, hlost,
    Bool.true_or]

end Steps

section Runs

variable {service state : NXOSHeartbeatService} {past : List HeartbeatEvent}

/-- The flag stays as it was until the first event, and then says whether the last one succeeded. -/
theorem run_prevLostConnection (hrun : Run heartbeatStep service past state) :
    state.prevLostConnection =
      past.getLast?.elim service.prevLostConnection fun event => !event.succeeds := by
  refine hrun.invariant_trace (fun past state => state.prevLostConnection =
    past.getLast?.elim service.prevLostConnection fun event => !event.succeeds) rfl ?_
  intro past mid event last _ hstep _
  rw [heartbeatStep_prevLostConnection hstep, List.getLast?_concat, Option.elim_some]

theorem run_lost_of_restoreDue (hservice : service.prevLostConnection = true)
    (hrun : Run heartbeatStep service past state) (hdue : RestoreDue past) :
    state.prevLostConnection = true := by
  rw [run_prevLostConnection hrun]
  cases hlast : past.getLast? with
  | none => exact hservice
  | some event => simp [hdue.last_not_succeeds event hlast]

end Runs

/-- **A loss is followed by a restore.** However the replies and the failures of earlier restore passes
interleave, a successful reply for which a restore is due calls the restored handler; and a flag that is set
stays set until the event that clears it is such a reply. -/
theorem restored_of_restoreDue {service started state : NXOSHeartbeatService} {past : List HeartbeatEvent}
    (hhandler : service.connectionRestoredHandler = true)
    (hstart : service.startService.outcome = .ok started) (hrun : Run heartbeatStep started past state) :
    (∀ reply uptime, reportedUptime reply = some uptime → RestoreDue past →
      .connectionRestoredHandler ∈ (state.heartbeatReply reply).effects) ∧
    (∀ event after, heartbeatStep state event = some after → event.succeeds = false →
      after.prevLostConnection = true) ∧
    ∀ event after, heartbeatStep state event = some after → state.prevLostConnection = true →
      after.prevLostConnection = false →
      ∃ reply, event = .reply reply ∧ event.succeeds = true ∧
        .connectionRestoredHandler ∈ (state.heartbeatReply reply).effects := by
  obtain rfl : { service with prevLostConnection := true, prevUptimeSecs := 0 } = started := by
    simpa [NXOSHeartbeatService.startService, NXOSHeartbeatService.setupTimer] using hstart
  have hhandler' : state.connectionRestoredHandler = true :=
    (run_connectionRestoredHandler hrun).trans hhandler
  refine ⟨?_, ?_, ?_⟩
  · intro reply uptime huptime hdue
    exact connectionRestoredHandler_mem_of_lost hhandler' (run_lost_of_restoreDue rfl hrun hdue) huptime
  · intro event after hstep hloss
    rw [heartbeatStep_prevLostConnection hstep, hloss, Bool.not_false]
  · intro event after hstep hlost hcleared
    have hsucceeds : event.succeeds = true := by
      simpa [hcleared] using heartbeatStep_prevLostConnection hstep
    cases event with
    | handlerFailed => cases hsucceeds
    | reply reply =>
        obtain ⟨uptime, huptime⟩ := Option.isSome_iff_exists.mp hsucceeds
        exact ⟨reply, rfl, hsucceeds, connectionRestoredHandler_mem_of_lost hhandler' hlost huptime⟩

/-- Two restore passes overlap, and the first of them fails after the second has begun. -/
theorem restored_of_restoreDue_overlappingPasses :
    .connectionRestoredHandler ∈
      ((⟨5, false, true, 0, true⟩ : NXOSHeartbeatService).heartbeatReply (uptimeAfter 100)).effects := by
  have hrun : Run heartbeatStep startedService
      [.reply (uptimeAfter 90), .handlerFailed, .reply (uptimeAfter 95), .handlerFailed]
      ⟨5, false, true, 0, true⟩ :=
    run_of_replay rfl
  have hdue : RestoreDue [.reply (uptimeAfter 90), .handlerFailed, .reply (uptimeAfter 95), .handlerFailed] :=
    .inr ⟨[.reply (uptimeAfter 90), .handlerFailed, .reply (uptimeAfter 95)], .handlerFailed, [], rfl, rfl,
      fun _ hmem => absurd hmem List.not_mem_nil⟩
  have hstart : startedService.startService.outcome = .ok startedService := rfl
  exact (restored_of_restoreDue rfl hstart hrun).1 (uptimeAfter 100) ⟨0, 0, 0, 100⟩ (by decide) hdue

end NxosExporter
