import NxosExporter.Lib.Transition
import NxosExporter.Heartbeat

/-!
# Noticing a reboot

A reply that finds the connection restored sets the remembered uptime to zero instead of the uptime it
reports, so the next reply is compared with zero and a reboot between the two goes unnoticed. Every
other reboot is noticed.
-/

namespace NxosExporter

open Transition

namespace UptimeResponse

def seconds (uptime : UptimeResponse) : Int :=
  uptime.kernUptmSecs.toInt + uptime.kernUptmMins.toInt * 60 + uptime.kernUptmHrs.toInt * 3600 +
    uptime.kernUptmDays.toInt * 86400

structure NonNegative (uptime : UptimeResponse) : Prop where
  secs : 0 ≤ uptime.kernUptmSecs.toInt
  mins : 0 ≤ uptime.kernUptmMins.toInt
  hrs : 0 ≤ uptime.kernUptmHrs.toInt
  days : 0 ≤ uptime.kernUptmDays.toInt

end UptimeResponse

def reportedUptime (reply : Reply) : Option UptimeResponse :=
  match checkForFailedConnectionOrRPCResponse reply with
  | .ok uptime => uptime
  | _ => none

/-- Two successful replies, the second with a strictly smaller uptime. -/
def ShowsReboot (first second : Reply) : Prop :=
  ∃ uptime uptime', reportedUptime first = some uptime ∧ reportedUptime second = some uptime' ∧
    uptime.NonNegative ∧ uptime'.NonNegative ∧ uptime'.seconds < uptime.seconds

section Uptime

variable {uptime uptime' : UptimeResponse}

theorem getUptimeSecondsFromResponse_eq (uptime : UptimeResponse) :
    getUptimeSecondsFromResponse uptime = UInt64.ofInt uptime.seconds := by
  simp only [getUptimeSecondsFromResponse, UptimeResponse.seconds, UInt64.ofInt_add, UInt64.ofInt_mul]
  rfl

theorem toNat_getUptimeSecondsFromResponse (hfields : uptime.NonNegative) :
    ((getUptimeSecondsFromResponse uptime).toNat : Int) = uptime.seconds := by
  have hsecs := uptime.kernUptmSecs.toInt_lt
  have hmins := uptime.kernUptmMins.toInt_lt
  have hhrs := uptime.kernUptmHrs.toInt_lt
  have hdays := uptime.kernUptmDays.toInt_lt
  obtain ⟨hsecs', hmins', hhrs', hdays'⟩ := hfields
  have hnonneg : 0 ≤ uptime.seconds := by
    unfold UptimeResponse.seconds
    omega
  have hbound : uptime.seconds < 2 ^ 64 := by
    unfold UptimeResponse.seconds
    omega
  rw [getUptimeSecondsFromResponse_eq, UInt64.ofInt, UInt64.toNat_ofNat']
  omega

theorem getUptimeSecondsFromResponse_lt (hfields : uptime.NonNegative) (hfields' : uptime'.NonNegative)
    (hless : uptime'.seconds < uptime.seconds) :
    getUptimeSecondsFromResponse uptime' < getUptimeSecondsFromResponse uptime := by
  rw [UInt64.lt_iff_toNat_lt]
  have huptime := toNat_getUptimeSecondsFromResponse hfields
  have huptime' := toNat_getUptimeSecondsFromResponse hfields'
  omega

end Uptime

section Replies

variable {service : NXOSHeartbeatService} {reply : Reply} {uptime : UptimeResponse}

theorem check_of_reportedUptime (huptime : reportedUptime reply = some uptime) :
    checkForFailedConnectionOrRPCResponse reply = .ok (some uptime) := by
  unfold reportedUptime at huptime
  split at huptime
  · rename_i hcheck
    rw [hcheck, huptime]
  · simp at huptime

/-- The state after a successful reply: only a reply that finds nothing new is remembered. -/
theorem heartbeatStep_reply (huptime : reportedUptime reply = some uptime) :
    heartbeatStep service (.reply reply) = some { service with
      prevUptimeSecs :=
        if service.detectsReboot (getUptimeSecondsFromResponse uptime) then 0
        else getUptimeSecondsFromResponse uptime
      prevLostConnection := false } := by
  have hcheck := check_of_reportedUptime huptime
  cases hdetects : service.detectsReboot (getUptimeSecondsFromResponse uptime) <;>
    cases hhandler : service.connectionRestoredHandler <;>
      simp [heartbeatStep, NXOSHeartbeatService.heartbeatReply, NXOSHeartbeatService.setupTimer, hcheck,
        hdetects, hhandler]

theorem heartbeatStep_failedReply (hcheck : checkForFailedConnectionOrRPCResponse reply = .ok none) :
    heartbeatStep service (.reply reply) = some { service with prevLostConnection := true } := by
  cases hhandler : service.connectionFailedHandler <;>
    simp [heartbeatStep, NXOSHeartbeatService.heartbeatReply, hcheck, hhandler]

theorem connectionRestoredHandler_mem_iff (hhandler : service.connectionRestoredHandler = true)
    (huptime : reportedUptime reply = some uptime) :
    .connectionRestoredHandler ∈ (service.heartbeatReply reply).effects ↔
      service.detectsReboot (getUptimeSecondsFromResponse uptime) = true := by
  have hcheck := check_of_reportedUptime huptime
  cases hdetects : service.detectsReboot (getUptimeSecondsFromResponse uptime) <;>
    simp [NXOSHeartbeatService.heartbeatReply, NXOSHeartbeatService.setupTimer, hcheck, hdetects, hhandler]

end Replies

section Runs

variable {service before after : NXOSHeartbeatService}

theorem heartbeatStep_connectionRestoredHandler {event : HeartbeatEvent}
    (hstep : heartbeatStep before event = some after) :
    after.connectionRestoredHandler = before.connectionRestoredHandler := by
  cases event with
  | handlerFailed =>
      obtain rfl : before.handlerFailedCallback = after := by simpa [heartbeatStep] using hstep
      rfl
  | reply reply =>
      cases hcheck : checkForFailedConnectionOrRPCResponse reply with
      | ok into =>
          cases into with
          | none =>
              rw [heartbeatStep_failedReply hcheck, Option.some.injEq] at hstep
              exact hstep ▸ rfl
          | some uptime =>
              have huptime : reportedUptime reply = some uptime := by simp [reportedUptime, hcheck]
              rw [heartbeatStep_reply huptime, Option.some.injEq] at hstep
              exact hstep ▸ rfl
      | throw exn => simp [heartbeatStep, NXOSHeartbeatService.heartbeatReply, hcheck] at hstep
      | undefined => simp [heartbeatStep, NXOSHeartbeatService.heartbeatReply, hcheck] at hstep

theorem run_connectionRestoredHandler {events : List HeartbeatEvent}
    (hrun : Run heartbeatStep service events after) :
    after.connectionRestoredHandler = service.connectionRestoredHandler :=
  hrun.invariant (fun state => state.connectionRestoredHandler = service.connectionRestoredHandler) rfl
    fun _ _ _ _ hstep hmid => (heartbeatStep_connectionRestoredHandler hstep).trans hmid

theorem replay_connectionRestoredHandler {events : List HeartbeatEvent}
    (hreplay : replay heartbeatStep service events = some after) :
    after.connectionRestoredHandler = service.connectionRestoredHandler :=
  run_connectionRestoredHandler (run_of_replay hreplay)

theorem replay_handlerFailed (k : Nat) :
    replay heartbeatStep service (List.replicate k .handlerFailed)
      = some (if k = 0 then service else service.handlerFailedCallback) := by
  induction k generalizing service with
  | zero => rfl
  | succ k ih =>
      rw [List.replicate_succ, replay, heartbeatStep, Option.bind_some, ih]
      by_cases hk : k = 0 <;> simp [hk, NXOSHeartbeatService.handlerFailedCallback]

variable {first second : Reply} {uptime : UptimeResponse} {k : Nat}

/-- **One reboot.** Whether the second reply is taken for a reboot depends on whether the first one was. -/
theorem reboot_noticed_iff (hhandler : before.connectionRestoredHandler = true)
    (hshows : ShowsReboot first second) (huptime : reportedUptime first = some uptime)
    (hreplay : replay heartbeatStep before (.reply first :: List.replicate k .handlerFailed) = some after) :
    .connectionRestoredHandler ∈ (after.heartbeatReply second).effects ↔
      0 < k ∨ before.detectsReboot (getUptimeSecondsFromResponse uptime) = false := by
  obtain ⟨_, uptime', huptime₁, huptime', hfields, hfields', hless⟩ := hshows
  obtain rfl := Option.some.inj (huptime.symm.trans huptime₁)
  have hlt := getUptimeSecondsFromResponse_lt hfields hfields' hless
  have hhandler' := (replay_connectionRestoredHandler hreplay).trans hhandler
  rw [connectionRestoredHandler_mem_iff hhandler' huptime']
  rw [replay, heartbeatStep_reply huptime, Option.bind_some, replay_handlerFailed, Option.some.injEq]
    at hreplay
  subst hreplay
  by_cases hk : k = 0
  · cases hdetects : before.detectsReboot (getUptimeSecondsFromResponse uptime) <;>
      simp [hk, NXOSHeartbeatService.detectsReboot, hlt]
  · simp [hk, NXOSHeartbeatService.detectsReboot, NXOSHeartbeatService.handlerFailedCallback,
      Nat.pos_of_ne_zero hk]

end Runs

/-! ### Histories -/

/-- A reboot in a history: two replies that show it, with only failed restore passes between them. -/
def RebootIn (events past : List HeartbeatEvent) (first : Reply) (k : Nat) (second : Reply) : Prop :=
  ShowsReboot first second ∧
    ∃ rest, events = past ++ (.reply first :: List.replicate k .handlerFailed) ++ .reply second :: rest

/-- The restored handler is called while the second reply of every reboot is processed. -/
def EveryRebootNoticed (service : NXOSHeartbeatService) (events : List HeartbeatEvent) : Prop :=
  ∀ past first k second, RebootIn events past first k second →
    ∀ after,
      replay heartbeatStep service (past ++ (.reply first :: List.replicate k .handlerFailed)) = some after →
      .connectionRestoredHandler ∈ (after.heartbeatReply second).effects

/-- The first reply of a reboot found nothing new, unless a restore pass failed after it. -/
def RebootsAfterSteadyReplies (service : NXOSHeartbeatService) (events : List HeartbeatEvent) : Prop :=
  ∀ past first k second, RebootIn events past first k second →
    0 < k ∨ ∀ before uptime, replay heartbeatStep service past = some before →
      reportedUptime first = some uptime →
      before.detectsReboot (getUptimeSecondsFromResponse uptime) = false

/-- **Noticing a reboot.** In a history of heartbeat replies every reboot is noticed exactly when each one
comes after a reply that was not itself taken for a reboot, or after a failed restore pass. -/
theorem everyRebootNoticed_iff (service : NXOSHeartbeatService)
    (hhandler : service.connectionRestoredHandler = true) (events : List HeartbeatEvent) :
    EveryRebootNoticed service events ↔ RebootsAfterSteadyReplies service events := by
  constructor
  · intro hnoticed past first k second hreboot
    by_cases hk : 0 < k
    · exact .inl hk
    · obtain rfl : k = 0 := Nat.eq_zero_of_not_pos hk
      refine .inr fun before uptime hbefore huptime => ?_
      have hhandler' : before.connectionRestoredHandler = true :=
        (replay_connectionRestoredHandler hbefore).trans hhandler
      obtain ⟨after, hreplay⟩ : ∃ after,
          replay heartbeatStep before (.reply first :: List.replicate 0 .handlerFailed) = some after := by
        rw [replay, heartbeatStep_reply huptime]
        exact ⟨_, rfl⟩
      have hafter := hnoticed past first 0 second hreboot after (by
        rw [replay_append, hbefore, Option.bind_some, hreplay])
      exact ((reboot_noticed_iff hhandler' hreboot.1 huptime hreplay).mp hafter).resolve_left (lt_irrefl 0)
  · intro hsteady past first k second hreboot after hafter
    rw [replay_append] at hafter
    obtain ⟨before, hbefore, hreplay⟩ := Option.bind_eq_some_iff.mp hafter
    obtain ⟨uptime, -, huptime, -⟩ := hreboot.1
    have hhandler' : before.connectionRestoredHandler = true :=
      (replay_connectionRestoredHandler hbefore).trans hhandler
    refine (reboot_noticed_iff hhandler' hreboot.1 huptime hreplay).mpr ?_
    exact (hsteady past first k second hreboot).imp_right fun hbranch => hbranch before uptime hbefore huptime

/-! A switch that reboots between the first two heartbeats: its uptime goes from 100 seconds to 50. -/

def uptimeAfter (secs : Int32) : Reply where
  response := some [⟨.int 1, .object [("body", .object [("kern_uptm_days", .numberInteger 0),
    ("kern_uptm_hrs", .numberInteger 0), ("kern_uptm_mins", .numberInteger 0),
    ("kern_uptm_secs", .numberInteger secs.toInt)])]⟩]
  responseError := .success
  statusCode := 200
  jsonRpcException := none

def startedService : NXOSHeartbeatService := ⟨5, false, true, 0, true⟩

theorem not_everyRebootNoticed_firstReplies :
    (NXOSHeartbeatService.startService ⟨5, false, true, 0, true⟩).outcome = .ok startedService ∧
      ¬ EveryRebootNoticed startedService [.reply (uptimeAfter 100), .reply (uptimeAfter 50)] := by
  refine ⟨rfl, fun hnoticed => ?_⟩
  have hshows : ShowsReboot (uptimeAfter 100) (uptimeAfter 50) :=
    ⟨⟨0, 0, 0, 100⟩, ⟨0, 0, 0, 50⟩, by decide, by decide, ⟨by decide, by decide, by decide, by decide⟩,
      ⟨by decide, by decide, by decide, by decide⟩, by decide⟩
  have hcalled := hnoticed [] (uptimeAfter 100) 0 (uptimeAfter 50) ⟨hshows, [], rfl⟩
    ⟨5, false, true, 0, false⟩ rfl
  exact absurd hcalled (by decide)

theorem everyRebootNoticed_iff_thirdReply :
    EveryRebootNoticed startedService
        [.reply (uptimeAfter 90), .reply (uptimeAfter 100), .reply (uptimeAfter 50)] ↔
      RebootsAfterSteadyReplies startedService
        [.reply (uptimeAfter 90), .reply (uptimeAfter 100), .reply (uptimeAfter 50)] :=
  everyRebootNoticed_iff startedService rfl _

end NxosExporter
