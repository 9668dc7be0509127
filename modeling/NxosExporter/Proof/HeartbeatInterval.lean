import Mathlib.Algebra.Ring.Int.Defs
import Mathlib.Algebra.Ring.Nat
import NxosExporter.Lib.Transition
import NxosExporter.Proof.ParseConfig
import NxosExporter.Proof.Reboot

/-!
# The heartbeat interval on its way to the timer

The interval is read as a 64-bit integer, kept as `size_t`, multiplied there, handed to the timer as a `long`
and to the HTTP client as an `int`. It arrives as it was configured when it is positive and fits in 31 bits;
a negative one stays negative, and a large one reaches the client as another number.
-/

namespace NxosExporter

open Effectful Transition

/-- The timer is asked for the period in milliseconds, and the client for the timeout in seconds. -/
structure KeepsInterval (value : Int64) (effects : List HeartbeatEffect) : Prop where
  period : ∀ interval, .setupTimer interval ∈ effects →
    interval.toInt = 1000 * value.toInt ∧ 0 < interval.toInt
  timeout : ∀ commands timeout, .sendRequest commands timeout ∈ effects → timeout.toInt = value.toInt

/-- What the service asks for when it starts and, in every state that it then reaches, at the ticks of its
timer and for the replies; whichever handlers are registered. -/
def IntervalSurvives (value : Int64) (service : NXOSHeartbeatService) : Prop :=
  ∀ failed restored started events reached,
    let registered := { service with connectionFailedHandler := failed, connectionRestoredHandler := restored }
    registered.startService.outcome = .ok started → Run heartbeatStep started events reached →
      KeepsInterval value registered.startService.effects ∧ KeepsInterval value reached.heartbeatLoop.effects ∧
        ∀ reply, KeepsInterval value (reached.heartbeatReply reply).effects

/-! ### The conversions -/

section Conversions

variable {value : Int64}

theorem toInt_period (value : Int64) :
    (value.toUInt64 * 1000).toInt64.toInt = (1000 * value.toInt).bmod (2 ^ 64) := by
  rw [UInt64.toInt64_mul, Int64.toInt64_toUInt64, Int64.toInt_mul, Int.mul_comm]
  rfl

theorem toInt_timeout (value : Int64) :
    value.toUInt64.toUInt32.toInt32.toInt = value.toInt.bmod (2 ^ 32) := by
  have hnarrow : value.toUInt64.toUInt32.toInt32 = value.toInt32 := by
    apply Int32.toBitVec.inj
    simp [BitVec.signExtend_eq_setWidth_of_le]
  rw [hnarrow, Int64.toInt_toInt32]

theorem toInt_timeout_eq_iff :
    value.toUInt64.toUInt32.toInt32.toInt = value.toInt ↔ -2 ^ 31 ≤ value.toInt ∧ value.toInt < 2 ^ 31 := by
  rw [toInt_timeout]
  constructor
  · intro hkept
    have hlower := @Int.le_bmod value.toInt (2 ^ 32) (by decide)
    have hupper := @Int.bmod_lt value.toInt (2 ^ 32) (by decide)
    rw [hkept] at hlower hupper
    omega
  · rintro ⟨hlower, hupper⟩
    exact Int.bmod_eq_of_le (by omega) (by omega)

theorem toInt_period_of_lt (hpos : 0 < value.toInt) (hlt : value.toInt < 2 ^ 31) :
    (value.toUInt64 * 1000).toInt64.toInt = 1000 * value.toInt := by
  rw [toInt_period]
  exact Int.bmod_eq_of_le (by omega) (by omega)

end Conversions

/-! ### The run of the service -/

section Service

variable {value : Int64} {service service' : NXOSHeartbeatService}

theorem startService_outcome (service : NXOSHeartbeatService) : service.startService.outcome
    = .ok { service with prevLostConnection := true, prevUptimeSecs := 0 } := rfl

theorem heartbeatStep_interval {event : HeartbeatEvent} (hstep : heartbeatStep service event = some service') :
    service'.heartbeatIntervalSecs = service.heartbeatIntervalSecs := by
  cases event with
  | handlerFailed =>
      obtain rfl := Option.some.inj hstep
      rfl
  | reply reply =>
      cases hcheck : checkForFailedConnectionOrRPCResponse reply with
      | ok uptime =>
          cases uptime with
          | none =>
              rw [heartbeatStep_failedReply hcheck] at hstep
              obtain rfl := Option.some.inj hstep
              rfl
          | some uptime =>
              have huptime : reportedUptime reply = some uptime := by simp [reportedUptime, hcheck]
              rw [heartbeatStep_reply huptime] at hstep
              obtain rfl := Option.some.inj hstep
              rfl
      | throw exn => simp [heartbeatStep, NXOSHeartbeatService.heartbeatReply, hcheck] at hstep
      | undefined => simp [heartbeatStep, NXOSHeartbeatService.heartbeatReply, hcheck] at hstep

theorem run_interval {events : List HeartbeatEvent} (hrun : Run heartbeatStep service events service') :
    service'.heartbeatIntervalSecs = service.heartbeatIntervalSecs := by
  apply hrun.invariant (fun reached => reached.heartbeatIntervalSecs = service.heartbeatIntervalSecs) rfl
  intro mid event last _ hstep hmid
  rw [heartbeatStep_interval hstep, hmid]

/-- A reply sets up the timer anew or leaves it, and sends no request. -/
theorem heartbeatReply_effects {reply : Reply} {effect : HeartbeatEffect}
    (hmem : effect ∈ (service.heartbeatReply reply).effects) :
    effect = .setupTimer (service.heartbeatIntervalSecs * 1000).toInt64 ∨
      effect ∈ [.cancelTimer, .connectionFailedHandler, .connectionRestoredHandler, .logHeartbeatFailed,
        .logRestoredConnection] := by
  cases hcheck : checkForFailedConnectionOrRPCResponse reply with
  | ok uptime =>
      cases uptime with
      | none =>
          cases hhandler : service.connectionFailedHandler <;>
            simp [NXOSHeartbeatService.heartbeatReply, hcheck, hhandler] at hmem ⊢ <;> tauto
      | some uptime =>
          cases hdetects : service.detectsReboot (getUptimeSecondsFromResponse uptime) <;>
            cases hhandler : service.connectionRestoredHandler <;>
              simp [NXOSHeartbeatService.heartbeatReply, NXOSHeartbeatService.setupTimer, hcheck, hdetects,
                hhandler] at hmem ⊢ <;> tauto
  | throw exn => simp [NXOSHeartbeatService.heartbeatReply, hcheck] at hmem
  | undefined => simp [NXOSHeartbeatService.heartbeatReply, hcheck] at hmem

section Effects

variable (hperiod : (service.heartbeatIntervalSecs * 1000).toInt64.toInt = 1000 * value.toInt)
  (hpos : 0 < value.toInt)

include hperiod hpos

theorem keepsInterval_startService : KeepsInterval value service.startService.effects where
  period interval hmem := by
    obtain rfl : interval = (service.heartbeatIntervalSecs * 1000).toInt64 := by
      simpa [NXOSHeartbeatService.startService, NXOSHeartbeatService.setupTimer] using hmem
    omega
  timeout commands timeout hmem := by
    simp [NXOSHeartbeatService.startService, NXOSHeartbeatService.setupTimer] at hmem

theorem keepsInterval_heartbeatReply (reply : Reply) :
    KeepsInterval value (service.heartbeatReply reply).effects where
  period interval hmem := by
    obtain heq | hother := heartbeatReply_effects hmem
    · obtain rfl := HeartbeatEffect.setupTimer.inj heq
      omega
    · simp at hother
  timeout commands timeout hmem := by
    obtain heq | hother := heartbeatReply_effects hmem
    · cases heq
    · simp at hother

end Effects

theorem keepsInterval_heartbeatLoop
    (htimeout : service.heartbeatIntervalSecs.toUInt32.toInt32.toInt = value.toInt) :
    KeepsInterval value service.heartbeatLoop.effects where
  period interval hmem := by simp [NXOSHeartbeatService.heartbeatLoop] at hmem
  timeout commands timeout hmem := by
    obtain ⟨-, rfl⟩ : _ ∧ timeout = service.heartbeatIntervalSecs.toUInt32.toInt32 := by
      simpa [NXOSHeartbeatService.heartbeatLoop] using hmem
    exact htimeout

/-- The service keeps its interval, so that the two conversions decide about every run. -/
theorem intervalSurvives_iff_conversions : IntervalSurvives value service ↔
    ((service.heartbeatIntervalSecs * 1000).toInt64.toInt = 1000 * value.toInt ∧ 0 < value.toInt) ∧
      service.heartbeatIntervalSecs.toUInt32.toInt32.toInt = value.toInt := by
  constructor
  · intro hsurvives
    obtain ⟨hstart, hloop, -⟩ := hsurvives false false _ [] _ (startService_outcome _) (.nil _)
    obtain ⟨hperiod, hpos⟩ := hstart.period (service.heartbeatIntervalSecs * 1000).toInt64 (by
      simp [NXOSHeartbeatService.startService, NXOSHeartbeatService.setupTimer])
    have htimeout := hloop.timeout [(1, .uptime)] service.heartbeatIntervalSecs.toUInt32.toInt32 (by
      simp [NXOSHeartbeatService.heartbeatLoop])
    exact ⟨⟨hperiod, by omega⟩, htimeout⟩
  · rintro ⟨⟨hperiod, hpos⟩, htimeout⟩ failed restored started events reached registered hstart hrun
    rw [startService_outcome] at hstart
    obtain rfl := Outcome.ok.inj hstart
    have hreached := run_interval hrun
    refine ⟨keepsInterval_startService hperiod hpos, keepsInterval_heartbeatLoop ?_, fun reply =>
      keepsInterval_heartbeatReply ?_ hpos reply⟩
    · rw [hreached]
      exact htimeout
    · rw [hreached]
      exact hperiod

/-- The service takes the interval as `size_t`, whatever its sign. -/
theorem heartbeatServiceInit_interval {parseUrl : String → Except String Url} {mgmtName : String}
    {members : Members} (hinterval : members.lookup "heartbeat-interval" = some (.integer value))
    (hinit : heartbeatServiceInit parseUrl mgmtName (.map members) = .ok service) :
    service.heartbeatIntervalSecs = value.toUInt64 := by
  unfold heartbeatServiceInit at hinit
  split at hinit
  · obtain ⟨params, hparse, hservice⟩ := Outcome.bind_eq_ok_iff.mp hinit
    obtain rfl := Outcome.ok.inj hservice
    obtain ⟨url, -, hparseHost⟩ | ⟨-, what, hparseHost⟩ := decides_parseHost parseUrl members
    · rw [parseConfig_of_host hparseHost, parseHeartbeatInterval_of_integer hinterval] at hparse
      split at hparse
      · cases hparse
      · rw [Outcome.ok_bind, Outcome.map_eq_ok_iff] at hparse
        obtain ⟨auth, -, rfl⟩ := hparse
        rfl
    · simp [NXOSConnectionConfigParams.parseConfig, hparseHost, throwConfigError] at hparse
  · cases hinit

end Service

/-- **The heartbeat interval.** Of the intervals that are accepted, exactly the positive ones below `2 ^ 31`
reach the timer and the HTTP client as they are, in every run of the service. -/
theorem intervalSurvives_iff {parseUrl : String → Except String Url} {mgmtName : String} {members : Members}
    {value : Int64} {service : NXOSHeartbeatService}
    (hinterval : members.lookup "heartbeat-interval" = some (.integer value))
    (hinit : heartbeatServiceInit parseUrl mgmtName (.map members) = .ok service) :
    IntervalSurvives value service ↔ 0 < value.toInt ∧ value.toInt < 2 ^ 31 := by
  rw [intervalSurvives_iff_conversions, heartbeatServiceInit_interval hinterval hinit, toInt_timeout_eq_iff]
  constructor
  · rintro ⟨⟨-, hpos⟩, -, hlt⟩
    exact ⟨hpos, hlt⟩
  · rintro ⟨hpos, hlt⟩
    exact ⟨⟨toInt_period_of_lt hpos hlt, hpos⟩, by omega, hlt⟩

def intervalParams (value : Int64) : Members :=
  switchParams "http://switch" switchLogin [("heartbeat-interval", .integer value)]

def intervalService (value : Int64) : NXOSHeartbeatService where
  heartbeatIntervalSecs := value.toUInt64
  connectionFailedHandler := false
  connectionRestoredHandler := false
  prevUptimeSecs := 0
  prevLostConnection := true

theorem intervalSurvives_iff_tenSeconds : IntervalSurvives 10 (intervalService 10) :=
  (@intervalSurvives_iff parseSwitchUrl "nxos" (intervalParams 10) 10 (intervalService 10) rfl rfl).mpr
    (by decide)

/-- An interval of -1 is accepted and reaches the timer as -1000, one of `2 ^ 31` reaches the client as
`-2 ^ 31`. -/
theorem not_intervalSurvives_wrapped :
    (heartbeatServiceInit parseSwitchUrl "nxos" (.map (intervalParams (-1))) = .ok (intervalService (-1)) ∧
      ¬ IntervalSurvives (-1) (intervalService (-1))) ∧
    (heartbeatServiceInit parseSwitchUrl "nxos" (.map (intervalParams 2147483648))
        = .ok (intervalService 2147483648) ∧
      ¬ IntervalSurvives 2147483648 (intervalService 2147483648)) := by
  refine ⟨⟨rfl, ?_⟩, rfl, ?_⟩
  · rw [intervalSurvives_iff_conversions]
    decide
  · rw [intervalSurvives_iff_conversions]
    decide

end NxosExporter
