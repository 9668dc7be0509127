import NxosExporter.Proof.Reboot
import Mathlib.Data.List.Chain

/-!
# Overtaken replies

Several heartbeats may be in flight, and the threads of the pool process their replies in any order, while the
handler compares each uptime with the one processed before it. Replies that overtake none are taken for no
reboot after the first one. A reply that was overtaken reports a smaller uptime and is taken for a reboot.
-/

namespace NxosExporter

open Transition

/-- The replies that the switch has produced, those that no thread has processed yet, and those processed, in
order and with the number of times the restored handler was called. -/
structure HeartbeatFlight where
  service : NXOSHeartbeatService
  served : List Reply
  inFlight : List Reply
  processed : List (Reply × Nat)

inductive FlightAction where
  | serve (reply : Reply)
  | process (k : Nat)

def HeartbeatFlight.start (service : NXOSHeartbeatService) : HeartbeatFlight := ⟨service, [], [], []⟩

/-- The switch serves the next heartbeat, or a thread processes one of the replies in flight. -/
def flightStep (state : HeartbeatFlight) : FlightAction → Option HeartbeatFlight
  | .serve reply =>
      some { state with served := state.served ++ [reply], inFlight := state.inFlight ++ [reply] }
  | .process k =>
      state.inFlight[k]?.bind fun reply =>
        (heartbeatStep state.service (.reply reply)).map fun service =>
          { state with
            service := service
            inFlight := state.inFlight.eraseIdx k
            processed := state.processed ++
              [(reply, (state.service.heartbeatReply reply).effects.count .connectionRestoredHandler)] }

/-- The uptime that a reply reports, as the handler counts it. -/
def Reply.uptimeSeconds (reply : Reply) : UInt64 :=
  (reportedUptime reply).elim 0 getUptimeSecondsFromResponse

/-- Every reply succeeds, and no uptime is below one served before. -/
def NeverReboots (state : HeartbeatFlight) : FlightAction → Prop
  | .serve reply =>
      (reportedUptime reply).isSome = true ∧
        ∀ earlier ∈ state.served, earlier.uptimeSeconds ≤ reply.uptimeSeconds
  | .process _ => True

/-- The threads process the replies in the order in which the switch produced them. -/
def FlightAction.inServedOrder : FlightAction → Bool
  | serve _ => true
  | process k => k = 0

def RestoredOnceAtFirst : List (Reply × Nat) → Prop
  | [] => True
  | first :: rest => first.2 = 1 ∧ ∀ entry ∈ rest, entry.2 = 0

/-- Each reply reports at least the uptime of the one processed before it. -/
def NonDecreasing (processed : List (Reply × Nat)) : Prop :=
  processed.IsChain fun earlier later => earlier.1.uptimeSeconds ≤ later.1.uptimeSeconds

section Steps

variable {service : NXOSHeartbeatService} {reply : Reply} {uptime : UptimeResponse}
  {processed : List (Reply × Nat)}

theorem count_connectionRestoredHandler (hhandler : service.connectionRestoredHandler = true)
    (huptime : reportedUptime reply = some uptime) :
    (service.heartbeatReply reply).effects.count .connectionRestoredHandler =
      if service.detectsReboot (getUptimeSecondsFromResponse uptime) then 1 else 0 := by
  have hcheck := check_of_reportedUptime huptime
  cases hdetects : service.detectsReboot (getUptimeSecondsFromResponse uptime) <;>
    simp [NXOSHeartbeatService.heartbeatReply, NXOSHeartbeatService.setupTimer, hcheck, hdetects, hhandler]

theorem uptimeSeconds_of_reportedUptime (huptime : reportedUptime reply = some uptime) :
    reply.uptimeSeconds = getUptimeSecondsFromResponse uptime := by
  rw [Reply.uptimeSeconds, huptime, Option.elim_some]

/-- What the service remembers once a restore came at the first reply and at no other. -/
def remembered (processed : List (Reply × Nat)) : UInt64 :=
  processed.tail.getLast?.elim 0 fun entry => entry.1.uptimeSeconds

/-- A restore came at the first reply and at no other as long as the replies after it come in the order of
their uptimes, and then the last of these is what the next one is compared with. -/
structure FlightInv (state : HeartbeatFlight) : Prop where
  handler : state.service.connectionRestoredHandler = true
  lost : state.service.prevLostConnection = state.processed.isEmpty
  reports : ∀ reply ∈ state.inFlight, (reportedUptime reply).isSome = true
  restored : RestoredOnceAtFirst state.processed ↔ NonDecreasing state.processed.tail
  prevUptime : RestoredOnceAtFirst state.processed →
    state.service.prevUptimeSecs = remembered state.processed

theorem restoredOnceAtFirst_concat {first entry : Reply × Nat} {rest : List (Reply × Nat)} :
    RestoredOnceAtFirst (first :: rest ++ [entry]) ↔ RestoredOnceAtFirst (first :: rest) ∧ entry.2 = 0 := by
  rw [List.cons_append, RestoredOnceAtFirst, RestoredOnceAtFirst, List.forall_mem_append,
    List.forall_mem_singleton, and_assoc]

theorem nonDecreasing_tail_concat {first entry : Reply × Nat} {rest : List (Reply × Nat)} :
    NonDecreasing (first :: rest ++ [entry]).tail ↔ NonDecreasing (first :: rest).tail ∧
      ∀ last ∈ rest.getLast?, last.1.uptimeSeconds ≤ entry.1.uptimeSeconds := by
  simp [NonDecreasing, List.isChain_append]

/-- Without a loss a reply is taken for a reboot when it reports less than what is remembered. -/
theorem detectsReboot_eq_false_iff (hlost : service.prevLostConnection = false) :
    service.detectsReboot (getUptimeSecondsFromResponse uptime) = false ↔
      service.prevUptimeSecs ≤ getUptimeSecondsFromResponse uptime := by
  rw [NXOSHeartbeatService.detectsReboot, hlost, Bool.false_or, decide_eq_false_iff_not, UInt64.not_lt]

theorem remembered_le_iff {first : Reply × Nat} {rest : List (Reply × Nat)} :
    remembered (first :: rest) ≤ reply.uptimeSeconds ↔
      ∀ last ∈ rest.getLast?, last.1.uptimeSeconds ≤ reply.uptimeSeconds := by
  cases hlast : rest.getLast? <;> simp [remembered, hlast]

theorem flightInv_start (hhandler : service.connectionRestoredHandler = true)
    (hlost : service.prevLostConnection = true) (hprev : service.prevUptimeSecs = 0) :
    FlightInv (.start service) where
  handler := hhandler
  lost := hlost
  reports _ hmem := absurd hmem List.not_mem_nil
  restored := iff_of_true trivial .nil
  prevUptime _ := hprev

/-- What processing a reply of the flight does. -/
theorem flightStep_process {state last : HeartbeatFlight} {k : Nat} (hinv : FlightInv state)
    (hstep : flightStep state (.process k) = some last) :
    ∃ reply uptime, reportedUptime reply = some uptime ∧
      last = { state with
        service := { state.service with
          prevUptimeSecs :=
            if state.service.detectsReboot (getUptimeSecondsFromResponse uptime) then 0
            else getUptimeSecondsFromResponse uptime
          prevLostConnection := false }
        inFlight := state.inFlight.eraseIdx k
        processed := state.processed ++
          [(reply, if state.service.detectsReboot (getUptimeSecondsFromResponse uptime) then 1 else 0)] } := by
  obtain ⟨reply, hreply, hmap⟩ := Option.bind_eq_some_iff.mp hstep
  obtain ⟨uptime, huptime⟩ := Option.isSome_iff_exists.mp (hinv.reports reply (List.mem_of_getElem? hreply))
  refine ⟨reply, uptime, huptime, ?_⟩
  rw [heartbeatStep_reply huptime, count_connectionRestoredHandler hinv.handler huptime, Option.map_some,
    Option.some.injEq] at hmap
  exact hmap.symm

theorem flightInv_process {state last : HeartbeatFlight} {k : Nat} (hinv : FlightInv state)
    (hstep : flightStep state (.process k) = some last) : FlightInv last := by
  obtain ⟨reply, uptime, huptime, rfl⟩ := flightStep_process hinv hstep
  have hlost := hinv.lost
  have hflight : ∀ other ∈ state.inFlight.eraseIdx k, (reportedUptime other).isSome = true :=
    fun other hother => hinv.reports other (List.mem_of_mem_eraseIdx hother)
  cases hprocessed : state.processed with
  | nil =>
      rw [hprocessed] at hlost
      have hdetects : state.service.detectsReboot (getUptimeSecondsFromResponse uptime) = true := by
        rw [NXOSHeartbeatService.detectsReboot, hlost]
        rfl
      refine ⟨hinv.handler, rfl, hflight, ?_, fun _ => ?_⟩
      · simp [hdetects, RestoredOnceAtFirst, NonDecreasing]
      · simp [hdetects, remembered]
  | cons first rest =>
      rw [hprocessed] at hlost
      have hrestored := hinv.restored
      have hprev := hinv.prevUptime
      rw [hprocessed] at hrestored hprev
      -- While no restore but the first has happened, a restore is an uptime below the last one.
      have hdetects : RestoredOnceAtFirst (first :: rest) →
          (state.service.detectsReboot (getUptimeSecondsFromResponse uptime) = false ↔
            ∀ last ∈ rest.getLast?, last.1.uptimeSeconds ≤ reply.uptimeSeconds) := by
        intro honce
        rw [detectsReboot_eq_false_iff hlost, hprev honce, ← uptimeSeconds_of_reportedUptime huptime,
          remembered_le_iff]
      refine ⟨hinv.handler, rfl, hflight, ?_, ?_⟩
      · rw [restoredOnceAtFirst_concat, nonDecreasing_tail_concat, ← hrestored]
        refine and_congr_right fun honce => ?_
        rw [← hdetects honce]
        simp
      · intro honce
        obtain ⟨-, hcalls⟩ := restoredOnceAtFirst_concat.mp honce
        have hnone : state.service.detectsReboot (getUptimeSecondsFromResponse uptime) = false := by
          simpa using hcalls
        dsimp only
        rw [hnone, if_neg Bool.false_ne_true, ← uptimeSeconds_of_reportedUptime huptime]
        simp [remembered]

theorem flightInv_step {state last : HeartbeatFlight} {action : FlightAction}
    (hserve : NeverReboots state action) (hstep : flightStep state action = some last)
    (hinv : FlightInv state) : FlightInv last := by
  cases action with
  | process k => exact flightInv_process hinv hstep
  | serve reply =>
      obtain rfl : { state with
        served := state.served ++ [reply], inFlight := state.inFlight ++ [reply] } = last := by
          simpa [flightStep] using hstep
      have hreports : ∀ other ∈ state.inFlight ++ [reply], (reportedUptime other).isSome = true :=
        List.forall_mem_append.mpr ⟨hinv.reports, List.forall_mem_singleton.mpr hserve.1⟩
      exact { hinv with reports := hreports }

end Steps

section Runs

variable {service : NXOSHeartbeatService} {state : HeartbeatFlight} {actions : List FlightAction}

theorem run_served_pairwise (hrun : RunWhere flightStep NeverReboots (.start service) actions state) :
    state.served.Pairwise fun earlier later => earlier.uptimeSeconds ≤ later.uptimeSeconds := by
  refine hrun.invariant (fun state => state.served.Pairwise fun earlier later =>
    earlier.uptimeSeconds ≤ later.uptimeSeconds) .nil ?_
  intro mid action last hserve hstep hmid
  cases action with
  | serve reply =>
      obtain rfl := Option.some.inj hstep
      exact List.pairwise_append.mpr ⟨hmid, List.pairwise_singleton _ _, fun earlier hearlier later hlater =>
        List.mem_singleton.mp hlater ▸ hserve.2 earlier hearlier⟩
  | process k =>
      obtain ⟨reply, -, hmap⟩ := Option.bind_eq_some_iff.mp hstep
      obtain ⟨service', -, rfl⟩ := Option.map_eq_some_iff.mp hmap
      exact hmid

/-- In the served order the replies processed and those in flight are the replies served. -/
theorem run_inServedOrder (hrun : RunWhere flightStep NeverReboots (.start service) actions state)
    (horder : ∀ action ∈ actions, action.inServedOrder = true) :
    state.processed.map Prod.fst ++ state.inFlight = state.served := by
  refine hrun.invariant_trace (fun past state => (∀ action ∈ past, action.inServedOrder = true) →
    state.processed.map Prod.fst ++ state.inFlight = state.served) (fun _ => rfl) ?_ horder
  intro past mid action last _ hstep hmid horder
  obtain ⟨hpast, haction⟩ := List.forall_mem_append.mp horder
  have hserved := hmid hpast
  cases action with
  | serve reply =>
      obtain rfl := Option.some.inj hstep
      dsimp only
      rw [← hserved, List.append_assoc]
  | process k =>
      obtain rfl : k = 0 := by simpa [FlightAction.inServedOrder] using haction
      obtain ⟨reply, hreply, hmap⟩ := Option.bind_eq_some_iff.mp hstep
      obtain ⟨service', -, rfl⟩ := Option.map_eq_some_iff.mp hmap
      dsimp only
      cases hflight : mid.inFlight with
      | nil => simp [hflight] at hreply
      | cons head rest =>
          obtain rfl : head = reply := by simpa [hflight] using hreply
          rw [← hserved, hflight]
          simp

end Runs

/-- **No restore without a reason.** If the switch never reboots and every heartbeat succeeds, the restored
handler is called exactly once and at the first processed reply, as long as the replies are processed in
non-decreasing order of their uptimes; so they are when the threads keep the served order. It is called again
where the replies after the first one are processed in another order. -/
theorem restoredOnceAtFirst_of_nonDecreasing {service started : NXOSHeartbeatService}
    {state : HeartbeatFlight} {actions : List FlightAction}
    (hhandler : service.connectionRestoredHandler = true)
    (hstart : service.startService.outcome = .ok started)
    (hrun : RunWhere flightStep NeverReboots (.start started) actions state) :
    (NonDecreasing state.processed → RestoredOnceAtFirst state.processed) ∧
      ((∀ action ∈ actions, action.inServedOrder = true) → NonDecreasing state.processed) ∧
      (¬ NonDecreasing state.processed.tail → ¬ RestoredOnceAtFirst state.processed) := by
  obtain rfl : { service with prevLostConnection := true, prevUptimeSecs := 0 } = started := by
    simpa [NXOSHeartbeatService.startService, NXOSHeartbeatService.setupTimer] using hstart
  have hinv : FlightInv state :=
    hrun.invariant FlightInv (flightInv_start hhandler rfl rfl) fun _ _ _ => flightInv_step
  refine ⟨fun hordered => hinv.restored.mpr hordered.tail, fun horder => ?_, mt hinv.restored.mp⟩
  have hserved := run_served_pairwise hrun
  rw [← run_inServedOrder hrun horder, List.pairwise_append, List.pairwise_map] at hserved
  exact hserved.1.isChain

/-! Three heartbeats are served while the switch counts 100, 105 and 110 seconds, and the threads process the
third reply before the second. -/

def threeServed : HeartbeatFlight where
  service := startedService
  served := [uptimeAfter 100, uptimeAfter 105, uptimeAfter 110]
  inFlight := [uptimeAfter 100, uptimeAfter 105, uptimeAfter 110]
  processed := []

theorem run_threeServed : RunWhere flightStep NeverReboots (.start startedService)
    [.serve (uptimeAfter 100), .serve (uptimeAfter 105), .serve (uptimeAfter 110)] threeServed := by
  refine (((RunWhere.nil _).snoc ⟨rfl, ?_⟩ rfl).snoc ⟨rfl, ?_⟩ rfl).snoc ⟨rfl, ?_⟩ rfl
  all_goals decide

theorem run_processThree (order : List Nat) {state : HeartbeatFlight}
    (hreplay : replay flightStep threeServed (order.map .process) = some state) :
    RunWhere flightStep NeverReboots (.start startedService)
      ([.serve (uptimeAfter 100), .serve (uptimeAfter 105), .serve (uptimeAfter 110)] ++ order.map .process)
      state := by
  refine run_threeServed.append (RunWhere.of_replay (fun mid action hmem => ?_) hreplay)
  obtain ⟨k, -, rfl⟩ := List.mem_map.mp hmem
  trivial

/-- The second reply finds the uptime of the third one and is taken for a reboot. -/
def overtaken : HeartbeatFlight where
  service := ⟨5, false, true, 0, false⟩
  served := threeServed.served
  inFlight := []
  processed := [(uptimeAfter 100, 1), (uptimeAfter 110, 0), (uptimeAfter 105, 1)]

theorem not_restoredOnceAtFirst_overtaken :
    (∃ actions, RunWhere flightStep NeverReboots (.start startedService) actions overtaken) ∧
      ¬ RestoredOnceAtFirst overtaken.processed := by
  refine ⟨⟨_, run_processThree [0, 1, 0] rfl⟩, fun honce => ?_⟩
  exact absurd (honce.2 (uptimeAfter 105, 1) (by simp)) Nat.one_ne_zero

/-- The replies in the served order. -/
def ordered : HeartbeatFlight where
  service := ⟨5, false, true, 110, false⟩
  served := threeServed.served
  inFlight := []
  processed := [(uptimeAfter 100, 1), (uptimeAfter 105, 0), (uptimeAfter 110, 0)]

theorem restoredOnceAtFirst_of_nonDecreasing_ordered :
    RestoredOnceAtFirst ordered.processed ∧ NonDecreasing ordered.processed := by
  have hstart : startedService.startService.outcome = .ok startedService := rfl
  have hrun := run_processThree [0, 0, 0] (rfl : _ = some ordered)
  obtain ⟨honce, hserved, -⟩ := restoredOnceAtFirst_of_nonDecreasing rfl hstart hrun
  have hordered : NonDecreasing ordered.processed := hserved (by decide)
  exact ⟨honce hordered, hordered⟩

end NxosExporter
