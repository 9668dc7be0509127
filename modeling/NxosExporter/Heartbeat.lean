import NxosExporter.ManagementClient

/-!
# The heartbeat service

`NXOSHeartbeatService` asks the switch for its uptime at every tick of a timer and takes a smaller
uptime, or the first one after a failure, for a reboot. Replies are processed one at a time under the
heartbeat mutex, and a restore pass that fails reports back under the same mutex.
-/

namespace NxosExporter

open Effectful

structure NXOSHeartbeatService where
  heartbeatIntervalSecs : UInt64
  connectionFailedHandler : Bool
  connectionRestoredHandler : Bool
  prevUptimeSecs : UInt64
  prevLostConnection : Bool
  deriving DecidableEq, Repr

inductive HeartbeatEffect where
  | startClient
  | setupTimer (interval : Int64)
  | cancelTimer
  | sendRequest (commands : List (Int × Command)) (timeout : Int32)
  | connectionFailedHandler
  | connectionRestoredHandler
  | logHeartbeatFailed
  | logRestoredConnection
  deriving DecidableEq

abbrev HeartbeatProg := Prog HeartbeatEffect Exn

namespace NXOSHeartbeatService

/-- `m_timer->setup`, whose interval is a `long`. -/
def setupTimer (service : NXOSHeartbeatService) : HeartbeatProg Unit :=
  .emit (.setupTimer (service.heartbeatIntervalSecs * 1000).toInt64)

def startService (service : NXOSHeartbeatService) : HeartbeatProg NXOSHeartbeatService := do
  .emit .startClient
  service.setupTimer
  pure { service with prevLostConnection := true, prevUptimeSecs := 0 }

/-- The request of `heartbeatLoop`; the timeout of `sendRequest` is an `int`. -/
def heartbeatLoop (service : NXOSHeartbeatService) : HeartbeatProg Unit :=
  .emit (.sendRequest [(1, .uptime)] service.heartbeatIntervalSecs.toUInt32.toInt32)

end NXOSHeartbeatService

/-- `getUptimeSecondsFromResponse`: each `int` is converted to `size_t` before it is used. -/
def getUptimeSecondsFromResponse (response : UptimeResponse) : UInt64 :=
  UInt64.ofInt response.kernUptmSecs.toInt + UInt64.ofInt response.kernUptmMins.toInt * 60 +
    UInt64.ofInt response.kernUptmHrs.toInt * 3600 + UInt64.ofInt response.kernUptmDays.toInt * 86400

/-- What `checkForFailedConnectionOrRPCResponse` decodes; nothing for a failed reply. -/
def checkForFailedConnectionOrRPCResponse (reply : Reply) : Outcome Exn (Option UptimeResponse) :=
  if reply.responseError ≠ .success then
    .ok none
  else if reply.statusCode ≠ 200 then
    .ok none
  else
    let into : Outcome Exn UptimeResponse := do
      match reply.jsonRpcException with
      | some exception => .throw (.jsonRpc exception)
      | none => pure ()
      let response := reply.response.getD []
      if response.isEmpty then
        .throw (.isc .unexpected "response must be not empty")
      let uptimeRaw ← frontBody response
      liftJson (UptimeResponse.fromJson uptimeRaw)
    match into with
    | .ok uptime => .ok (some uptime)
    | .throw _ => .ok none
    | .undefined => .undefined

namespace NXOSHeartbeatService

/-- The branch condition of the response handler. -/
def detectsReboot (service : NXOSHeartbeatService) (uptimeSecondsNew : UInt64) : Bool :=
  service.prevLostConnection || uptimeSecondsNew < service.prevUptimeSecs

/-- The response handler of `heartbeatLoop`. -/
def heartbeatReply (service : NXOSHeartbeatService) (reply : Reply) :
    HeartbeatProg NXOSHeartbeatService := do
  match ← .lift (checkForFailedConnectionOrRPCResponse reply) with
  | none => do
      .emit .logHeartbeatFailed
      if service.connectionFailedHandler then
        .emit .connectionFailedHandler
      pure { service with prevLostConnection := true }
  | some uptime =>
      let uptimeSecondsNew := getUptimeSecondsFromResponse uptime
      if service.detectsReboot uptimeSecondsNew then do
        .emit .cancelTimer
        if service.connectionRestoredHandler then do
          .emit .logRestoredConnection
          .emit .connectionRestoredHandler
        service.setupTimer
        pure { service with prevUptimeSecs := 0, prevLostConnection := false }
      else
        pure { service with prevUptimeSecs := uptimeSecondsNew, prevLostConnection := false }

/-- The callback that a failed restore pass calls. -/
def handlerFailedCallback (service : NXOSHeartbeatService) : NXOSHeartbeatService :=
  { service with prevLostConnection := true }

end NXOSHeartbeatService

inductive HeartbeatEvent where
  | reply (reply : Reply)
  | handlerFailed

/-- One event; no step where the reply leaves the language. -/
def heartbeatStep (service : NXOSHeartbeatService) : HeartbeatEvent → Option NXOSHeartbeatService
  | .reply reply =>
      match (service.heartbeatReply reply).outcome with
      | .ok service' => some service'
      | _ => none
  | .handlerFailed => some service.handlerFailedCallback

end NxosExporter
