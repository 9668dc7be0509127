import NxosExporter.ExporterService

/-!
# The lease callouts

`DHCP6ExporterImpl`: Kea calls one of these for every lease it selects, renews, rebinds, releases,
declines or expires, and updates its lease database after the call. The exception of a handler is
caught and logged by the C function that Kea sees.
-/

namespace NxosExporter

open Effectful

variable {Addr : Type}

def Pkt6.getRelay6LinkAddress (query : Pkt6 Addr) (level : Nat) : Outcome Exn Addr :=
  match query.relayInfo[level]? with
  | some linkAddr => .ok linkAddr
  | none => .throw (.isc .outOfRange "This message was not relayed through that many relays")

def handleLease6Select (leaseMgr : LeaseMgr Addr) (query : Pkt6 Addr) (lease : Lease6 Addr)
    (fakeAllocation : Bool) : ServiceProg Addr Unit := do
  if fakeAllocation = false then
    let relayAddr ← .lift (query.getRelay6LinkAddress 0)
    .emit (.log (.lease6SelectInsert query.transid))
    match lease.type with
    | .typeNA => exportRoute ⟨query.transid, lease.iaid, lease.duid, .iaNAInfo relayAddr lease.addr⟩
    | .typePD =>
        match findIANALeaseByDUIDIAID leaseMgr lease.duid lease.iaid with
        | some leaseIANA =>
            exportRoute ⟨query.transid, lease.iaid, lease.duid,
              .iaPDInfo leaseIANA.addr lease.addr lease.prefixlen⟩
        | none => do
            .emit (.log (.lease6SelectNoIANAFailed lease.iaid lease.duid))
            .emit .setStatusSkip
    | .typeTA | .typeV4 => pure ()

def handleLease6Expire (lease : Lease6 Addr) : ServiceProg Addr Unit :=
  match lease.type with
  | .typeNA => removeRoute ⟨0, lease.iaid, lease.duid, .iaNAInfoFuzzyRemove lease.addr⟩
  | .typePD =>
      removeRoute ⟨0, lease.iaid, lease.duid, .iaPDInfoFuzzyRemove lease.addr lease.prefixlen⟩
  | .typeTA | .typeV4 => pure ()

/-- The handlers of release and decline are the same code: the `case` of decline that has no `break`
falls through to the empty ones. -/
def handleLeaseEnd (leaseMgr : LeaseMgr Addr) (query : Pkt6 Addr) (lease : Lease6 Addr) :
    ServiceProg Addr Unit := do
  let relayAddr ← .lift (query.getRelay6LinkAddress 0)
  match lease.type with
  | .typeNA => removeRoute ⟨query.transid, lease.iaid, lease.duid, .iaNAInfo relayAddr lease.addr⟩
  | .typePD =>
      match findIANALeaseByDUIDIAID leaseMgr lease.duid lease.iaid with
      | none => .emit (.log (.routeRemoveFindIANALeaseFailed lease.iaid lease.duid))
      | some leaseIANA =>
          removeRoute ⟨query.transid, lease.iaid, lease.duid,
            .iaPDInfo leaseIANA.addr lease.addr lease.prefixlen⟩
  | .typeTA | .typeV4 => pure ()

def handleLease6Release (leaseMgr : LeaseMgr Addr) (query : Pkt6 Addr) (lease : Lease6 Addr) :
    ServiceProg Addr Unit :=
  handleLeaseEnd leaseMgr query lease

def handleLease6Decline (leaseMgr : LeaseMgr Addr) (query : Pkt6 Addr) (lease : Lease6 Addr) :
    ServiceProg Addr Unit :=
  handleLeaseEnd leaseMgr query lease

section RenewRebind

variable [DecidableEq Addr]

/-- The IA_NA branch of `handleRenewRebindProcess`. The move out of `queryOriginalAddr` copies it. -/
def renewRebindIANA (query : Pkt6 Addr) (lease : Lease6 Addr) (relayAddr : Addr) :
    ServiceProg Addr Unit := do
  let queryIANAOption ← .lift (.deref query.getOptionIANA)
  match queryIANAOption.getOptionIAADDR with
  | none => .throw (.isc .unexpected "failed to extract IAAddr from IA_NA option")
  | some queryOriginalAddr => do
      if queryOriginalAddr ≠ lease.addr then
        removeRoute ⟨query.transid, lease.iaid, lease.duid, .iaNAInfo relayAddr queryOriginalAddr⟩
      exportRoute ⟨query.transid, lease.iaid, lease.duid, .iaNAInfo relayAddr lease.addr⟩

/-- The IA_PD branch. The route withdrawn names the relay address as next hop. -/
def renewRebindIAPD (isRebindProcess : Bool) (leaseMgr : LeaseMgr Addr) (query : Pkt6 Addr)
    (lease : Lease6 Addr) (relayAddr : Addr) : ServiceProg Addr Unit := do
  let queryIAPDOption ← .lift (.deref query.getOptionIAPD)
  match queryIAPDOption.getOptionIAPREFIX with
  | none => .throw (.isc .unexpected "failed to extract IAPREFIX from IA_PD option")
  | some queryIAPrefix =>
      match findIANALeaseByDUIDIAID leaseMgr lease.duid lease.iaid with
      | none => do
          let clientDUID ← .lift (.deref lease.duid)
          .emit (.log (.routeRemoveFindIANALeaseFailed lease.iaid (some clientDUID)))
      | some leaseIANA =>
          let newRouteInfo : RouteExport Addr := ⟨query.transid, lease.iaid, lease.duid,
            .iaPDInfo leaseIANA.addr lease.addr lease.prefixlen⟩
          if queryIAPrefix.address ≠ lease.addr then do
            removeRoute ⟨query.transid, lease.iaid, lease.duid,
              .iaPDInfo relayAddr queryIAPrefix.address queryIAPrefix.length⟩
            exportRoute newRouteInfo
          else if isRebindProcess then
            exportRoute newRouteInfo
          else
            pure ()

def handleRenewRebindProcess (isRebindProcess : Bool) (leaseMgr : LeaseMgr Addr)
    (query : Pkt6 Addr) (lease : Lease6 Addr) (isIANA : Bool) : ServiceProg Addr Unit := do
  let relayAddr ← .lift (query.getRelay6LinkAddress 0)
  if isIANA then
    renewRebindIANA query lease relayAddr
  else
    renewRebindIAPD isRebindProcess leaseMgr query lease relayAddr

theorem handleRenewRebindProcess_of_relayed {isRebindProcess isIANA : Bool} {leaseMgr : LeaseMgr Addr}
    {query : Pkt6 Addr} {lease : Lease6 Addr} {relayAddr : Addr} {relays : List Addr}
    (hrelay : query.relayInfo = relayAddr :: relays) :
    handleRenewRebindProcess isRebindProcess leaseMgr query lease isIANA
      = if isIANA then renewRebindIANA query lease relayAddr
        else renewRebindIAPD isRebindProcess leaseMgr query lease relayAddr := by
  simp [handleRenewRebindProcess, Pkt6.getRelay6LinkAddress, hrelay]

/-- The `ia_na` argument of a callout: missing (`NoSuchArgument`), null or an option. -/
abbrev IAArgument (Addr : Type) := Option (Option (Option6IA Addr))

def isIANA (iaNA : IAArgument Addr) : Bool := iaNA.join.isSome

def handleLease6Rebind (leaseMgr : LeaseMgr Addr) (query : Pkt6 Addr) (lease : Lease6 Addr)
    (iaNA : IAArgument Addr) : ServiceProg Addr Unit :=
  handleRenewRebindProcess true leaseMgr query lease (isIANA iaNA)

def handleLease6Renew (leaseMgr : LeaseMgr Addr) (query : Pkt6 Addr) (lease : Lease6 Addr)
    (iaNA : IAArgument Addr) : ServiceProg Addr Unit :=
  handleRenewRebindProcess false leaseMgr query lease (isIANA iaNA)

end RenewRebind

/-- The C function around a handler. -/
def callout (handler : ServiceProg Addr Unit) : ServiceProg Addr Unit :=
  handler.tryCatch fun _ => pure ()

@[simp]
theorem callout_effects (handler : ServiceProg Addr Unit) :
    (callout handler).effects = handler.effects := by
  unfold callout Prog.tryCatch
  cases handler.outcome <;> simp

end NxosExporter
