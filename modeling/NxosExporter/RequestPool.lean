import NxosExporter.Lib.WorkPool
import NxosExporter.Callouts
import NxosExporter.Switch

/-!
# Requests on the thread pool

The threads of `NXOSHttpClientImpl` take the posted requests from one queue. The switch executes a request
at once; its reply goes to the closure of the request, which may post a follow-up at the end of the queue.
-/

namespace NxosExporter

open WorkPool

section Posted

variable {Addr : Type} [IOAddress Addr] {leaseMgr : LeaseMgr Addr} {query : Pkt6 Addr} {lease : Lease6 Addr}
  {relayAddr : Addr}

/-- What the selection of an address behind a relay posts. -/
theorem postedBy_lease6Select (htype : lease.type = .typeNA) (hrelay : query.relayInfo.head? = some relayAddr)
    (fakeAllocation : Bool) :
    postedBy leaseMgr (callout (handleLease6Select leaseMgr query lease fakeAllocation)).effects
      = if fakeAllocation then [] else [exportLookup relayAddr lease.addr] := by
  obtain ⟨relays, hrelayInfo⟩ := List.head?_eq_some_iff.mp hrelay
  cases fakeAllocation with
  | true => simp [handleLease6Select]
  | false => simp [handleLease6Select, Pkt6.getRelay6LinkAddress, hrelayInfo, htype, exportRoute]

/-- What the release and the decline of an address behind a relay post. -/
theorem postedBy_leaseEnd (htype : lease.type = .typeNA) (hrelay : query.relayInfo.head? = some relayAddr) :
    postedBy leaseMgr (callout (handleLeaseEnd leaseMgr query lease)).effects
      = [removalLookup relayAddr lease.addr] := by
  obtain ⟨relays, hrelayInfo⟩ := List.head?_eq_some_iff.mp hrelay
  simp [handleLeaseEnd, Pkt6.getRelay6LinkAddress, hrelayInfo, htype, removeRoute]

end Posted

/-- An event for the lease of one address. -/
inductive AddressEvent (Addr : Type) where
  | lease6Select (leaseMgr : LeaseMgr Addr) (query : Pkt6 Addr) (lease : Lease6 Addr)
  | lease6Release (leaseMgr : LeaseMgr Addr) (query : Pkt6 Addr) (lease : Lease6 Addr)
  | restoreLease (leaseMgr : LeaseMgr Addr) (mapping : HWAddrMap) (lease : Lease6 Addr)
  deriving DecidableEq, Repr

namespace AddressEvent

variable {Addr : Type}

def isExport : AddressEvent Addr → Bool
  | lease6Select _ _ _ | restoreLease _ _ _ => true
  | lease6Release _ _ _ => false

variable [IOAddress Addr]

def posted : AddressEvent Addr → List Request
  | lease6Select leaseMgr query lease =>
      postedBy leaseMgr (callout (handleLease6Select leaseMgr query lease false)).effects
  | lease6Release leaseMgr query lease =>
      postedBy leaseMgr (callout (handleLease6Release leaseMgr query lease)).effects
  | restoreLease leaseMgr mapping lease =>
      postedBy leaseMgr (NxosExporter.restoreLease leaseMgr mapping lease).effects

end AddressEvent

abbrev RequestPool := Pool Request Reply RouteTable

/-- The switch at work for the threads, when the events post what `posted` says. -/
def switchWork {ε : Type} (posted : ε → List Request) (switch : Switch) : Work ε Request Reply RouteTable where
  posted := posted
  run := Request.run
  reply := fun request table => switch.reply table request
  next := followUps

theorem switchWork_staged {ε : Type} (posted : ε → List Request) (switch : Switch) :
    (switchWork posted switch).Staged Request.stages :=
  stagesOf_followUps_lt

abbrev requestWork (Addr : Type) [IOAddress Addr] (switch : Switch) :
    Work (AddressEvent Addr) Request Reply RouteTable :=
  switchWork AddressEvent.posted switch

/-- A callout of Kea, with the lease database of that moment. -/
inductive CalloutEvent (Addr : Type) where
  | lease6Select (leaseMgr : LeaseMgr Addr) (query : Pkt6 Addr) (lease : Lease6 Addr) (fakeAllocation : Bool)
  | lease6Renew (leaseMgr : LeaseMgr Addr) (query : Pkt6 Addr) (lease : Lease6 Addr) (iaNA : IAArgument Addr)
  | lease6Rebind (leaseMgr : LeaseMgr Addr) (query : Pkt6 Addr) (lease : Lease6 Addr) (iaNA : IAArgument Addr)
  | lease6Release (leaseMgr : LeaseMgr Addr) (query : Pkt6 Addr) (lease : Lease6 Addr)
  | lease6Decline (leaseMgr : LeaseMgr Addr) (query : Pkt6 Addr) (lease : Lease6 Addr)
  | lease6Expire (leaseMgr : LeaseMgr Addr) (lease : Lease6 Addr)

namespace CalloutEvent

variable {Addr : Type} [DecidableEq Addr] [IOAddress Addr]

def posted : CalloutEvent Addr → List Request
  | lease6Select leaseMgr query lease fakeAllocation =>
      postedBy leaseMgr (callout (handleLease6Select leaseMgr query lease fakeAllocation)).effects
  | lease6Renew leaseMgr query lease iaNA =>
      postedBy leaseMgr (callout (handleLease6Renew leaseMgr query lease iaNA)).effects
  | lease6Rebind leaseMgr query lease iaNA =>
      postedBy leaseMgr (callout (handleLease6Rebind leaseMgr query lease iaNA)).effects
  | lease6Release leaseMgr query lease =>
      postedBy leaseMgr (callout (handleLease6Release leaseMgr query lease)).effects
  | lease6Decline leaseMgr query lease =>
      postedBy leaseMgr (callout (handleLease6Decline leaseMgr query lease)).effects
  | lease6Expire leaseMgr lease => postedBy leaseMgr (callout (handleLease6Expire lease)).effects

end CalloutEvent

abbrev calloutWork (Addr : Type) [DecidableEq Addr] [IOAddress Addr] (switch : Switch) :
    Work (CalloutEvent Addr) Request Reply RouteTable :=
  switchWork CalloutEvent.posted switch

def RequestPool.create (poolSize : Nat) (table : RouteTable) : RequestPool := ⟨poolSize, [], [], table⟩

end NxosExporter
