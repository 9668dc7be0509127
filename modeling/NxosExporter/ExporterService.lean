import NxosExporter.ManagementClient

/-!
# The exporter service

`DHCP6ExporterService` passes routes on to the management client and, when the switch came back,
re-exports the routes of the leases in the database.
-/

namespace NxosExporter

open Effectful

inductive ServiceLog where
  | updateInfoOnDevice (tid iaid : UInt32)
  | removeInfoOnDevice (tid iaid : UInt32)
  | routeReinitNoHWAddrFailed (type : LeaseType) (iaid : UInt32) (duid : Option DUID)
  | routeReinitIANALeaseFailed (iaid : UInt32) (duid : DUID)
  | lease6SelectInsert (tid : UInt32)
  | lease6SelectNoIANAFailed (iaid : UInt32) (duid : Option DUID)
  | routeRemoveFindIANALeaseFailed (iaid : UInt32) (duid : Option DUID)
  deriving DecidableEq, Repr

/-- What the callouts and the restore do: calls of the management client, the status of the callout,
and the callback that asks for another restore. -/
inductive ServiceEffect (Addr : Type) where
  | sendRoutesToSwitch (route : RouteExport Addr)
  | removeRoutesFromSwitch (route : RouteExport Addr)
  | handlerFailed
  | setStatusSkip
  | log (message : ServiceLog)
  deriving DecidableEq, Repr

abbrev ServiceProg (Addr : Type) := Prog (ServiceEffect Addr) Exn

section Service

variable {Addr : Type}

def exportRoute (route : RouteExport Addr) : ServiceProg Addr Unit := do
  .emit (.log (.updateInfoOnDevice route.tid route.iaid))
  .emit (.sendRoutesToSwitch route)

def removeRoute (route : RouteExport Addr) : ServiceProg Addr Unit := do
  .emit (.log (.removeInfoOnDevice route.tid route.iaid))
  .emit (.removeRoutesFromSwitch route)

/-! ### The restore pass -/

/-- The mapping is handed to `restoreCallback`. -/
def restoreLeasesFromLeaseDatabase : ClientProg Unit :=
  asyncGetHWAddrToInterfaceNameMapping

/-- The body of the inner loop. -/
def restoreLease (leaseMgr : LeaseMgr Addr) (mapping : HWAddrMap) (lease : Lease6 Addr) :
    ServiceProg Addr LoopExit :=
  match lease.hwaddr with
  | none => .throw (.isc .unexpected "can't recover route for lease without HWAddr")
  | some leaseHWAddr =>
      match lease.type with
      | .typeNA =>
          match mapping.find leaseHWAddr with
          | some vlanIfName => do
              .emit (.sendRoutesToSwitch
                ⟨0, lease.iaid, lease.duid, .iaNAFast vlanIfName lease.addr⟩)
              pure .next
          | none => do
              .emit (.log (.routeReinitNoHWAddrFailed lease.type lease.iaid lease.duid))
              pure .next
      | .typePD => do
          match findIANALeaseByDUIDIAID leaseMgr lease.duid lease.iaid with
          | some entry =>
              .emit (.sendRoutesToSwitch
                ⟨0, lease.iaid, lease.duid, .iaPDInfo entry.addr lease.addr lease.prefixlen⟩)
          | none => do
              let leaseDUID ← .lift (.deref lease.duid)
              .emit (.log (.routeReinitIANALeaseFailed lease.iaid leaseDUID))
          -- the `return` that ends the case leaves the callback
          pure .returned
      | .typeTA | .typeV4 => pure .next

def restoreLeases (leaseMgr : LeaseMgr Addr) (mapping : HWAddrMap) :
    List (Lease6 Addr) → ServiceProg Addr LoopExit :=
  Prog.loop (restoreLease leaseMgr mapping)

def restoreSubnets (leaseMgr : LeaseMgr Addr) (mapping : HWAddrMap) :
    List UInt32 → ServiceProg Addr LoopExit :=
  Prog.loop fun subnetId => restoreLeases leaseMgr mapping (leaseMgr.getLeases6InSubnet subnetId)

/-- The callback that `restoreLeasesFromLeaseDatabase` hands to the management client. -/
def restoreCallback (leaseMgr : LeaseMgr Addr) (cfgMgr : CfgMgr) (mapping : Option HWAddrMap)
    (connectionOrEarlyValidationFailed : Bool) : ServiceProg Addr Unit :=
  if connectionOrEarlyValidationFailed then
    .emit .handlerFailed
  else
    match mapping with
    | none => .throw (.isc .unexpected "empty pointer to map from HWAddr to Vlan interface")
    | some mapping =>
        match cfgMgr.currentCfg with
        | none => .throw (.isc .unexpected "can't get current config for DHCPv6 server")
        | some currentConfig =>
            match currentConfig.cfgSubnets6 with
            | none => .throw (.isc .unexpected "can't get config subnet6 list")
            | some currentSubnets6 =>
                match currentSubnets6.all with
                | none => .throw (.isc .unexpected "can't get subnet6 list")
                | some subnet6Collection => do
                    let _ ← restoreSubnets leaseMgr mapping subnet6Collection
                    pure ()

/-! ### What a run of the service has asked of the client -/

def ServiceEffect.sent? : ServiceEffect Addr → Option (RouteExport Addr)
  | sendRoutesToSwitch route => some route
  | _ => none

def ServiceEffect.removed? : ServiceEffect Addr → Option (RouteExport Addr)
  | removeRoutesFromSwitch route => some route
  | _ => none

def routesSent (effects : List (ServiceEffect Addr)) : List (RouteExport Addr) :=
  effects.filterMap ServiceEffect.sent?

def routesRemoved (effects : List (ServiceEffect Addr)) : List (RouteExport Addr) :=
  effects.filterMap ServiceEffect.removed?

@[simp]
theorem routesSent_nil : routesSent ([] : List (ServiceEffect Addr)) = [] := rfl

@[simp]
theorem routesSent_cons (effect : ServiceEffect Addr) (rest : List (ServiceEffect Addr)) :
    routesSent (effect :: rest) = effect.sent?.toList ++ routesSent rest := by
  cases effect <;> rfl

@[simp]
theorem routesSent_append (first second : List (ServiceEffect Addr)) :
    routesSent (first ++ second) = routesSent first ++ routesSent second :=
  List.filterMap_append

@[simp]
theorem routesRemoved_nil : routesRemoved ([] : List (ServiceEffect Addr)) = [] := rfl

@[simp]
theorem routesRemoved_cons (effect : ServiceEffect Addr) (rest : List (ServiceEffect Addr)) :
    routesRemoved (effect :: rest) = effect.removed?.toList ++ routesRemoved rest := by
  cases effect <;> rfl

@[simp]
theorem routesRemoved_append (first second : List (ServiceEffect Addr)) :
    routesRemoved (first ++ second) = routesRemoved first ++ routesRemoved second :=
  List.filterMap_append

end Service

/-! The client that a run of the service drives; the status and the callback are not the client's. -/

section Client

variable {Addr : Type} [IOAddress Addr]

def clientCall (leaseMgr : LeaseMgr Addr) : ServiceEffect Addr → ClientProg Unit
  | .sendRoutesToSwitch route => sendRoutesToSwitch route
  | .removeRoutesFromSwitch route => removeRoutesFromSwitch leaseMgr route
  | .handlerFailed | .setStatusSkip | .log _ => pure ()

/-- The requests that the effects of a service run post, in order. -/
def postedBy (leaseMgr : LeaseMgr Addr) (effects : List (ServiceEffect Addr)) : List Request :=
  requestsOf (Prog.forEach (clientCall leaseMgr) effects).effects

@[simp]
theorem postedBy_nil (leaseMgr : LeaseMgr Addr) :
    postedBy leaseMgr ([] : List (ServiceEffect Addr)) = [] := rfl

theorem postedBy_cons_of_ok {leaseMgr : LeaseMgr Addr} {effect : ServiceEffect Addr}
    (hcall : (clientCall leaseMgr effect).outcome = .ok ()) (rest : List (ServiceEffect Addr)) :
    postedBy leaseMgr (effect :: rest)
      = requestsOf (clientCall leaseMgr effect).effects ++ postedBy leaseMgr rest := by
  rw [postedBy, Prog.forEach_cons, Prog.bind_effects_of_ok hcall, requestsOf_append]
  rfl

@[simp]
theorem postedBy_log (leaseMgr : LeaseMgr Addr) (message : ServiceLog) (rest : List (ServiceEffect Addr)) :
    postedBy leaseMgr (.log message :: rest) = postedBy leaseMgr rest :=
  postedBy_cons_of_ok rfl rest

@[simp]
theorem postedBy_setStatusSkip (leaseMgr : LeaseMgr Addr) (rest : List (ServiceEffect Addr)) :
    postedBy leaseMgr (.setStatusSkip :: rest) = postedBy leaseMgr rest :=
  postedBy_cons_of_ok rfl rest

def commandsPosted (leaseMgr : LeaseMgr Addr) (effects : List (ServiceEffect Addr)) : List Command :=
  (postedBy leaseMgr effects).flatMap Request.cliCommands

end Client

end NxosExporter
