import NxosExporter.Kea

/-!
# Route exports

`RouteExport` is what a callout asks the management client to apply or to withdraw, and
`LeaseUtils` is the lookup that gives the next hop of a delegated prefix.
-/

namespace NxosExporter

inductive RouteInfo (Addr : Type) where
  | iaNAInfo (srcVlanAddr iaNAAddr : Addr)
  | iaPDInfo (dstIaNAAddr iaPDPrefix : Addr) (iaPDLength : UInt8)
  | iaNAInfoFuzzyRemove (iaNAAddr : Addr)
  | iaPDInfoFuzzyRemove (iaPDPrefix : Addr) (iaPDLength : UInt8)
  | iaNAFast (srcVlanIfName : String) (iaNAAddr : Addr)
  deriving DecidableEq, Repr

structure RouteExport (Addr : Type) where
  tid : UInt32
  iaid : UInt32
  duid : Option DUID
  routeInfo : RouteInfo Addr
  deriving DecidableEq, Repr

variable {Addr : Type}

def RouteExport.toDHCPv6IATypeString (route : RouteExport Addr) : String :=
  match route.routeInfo with
  | .iaNAInfo _ _ | .iaNAInfoFuzzyRemove _ | .iaNAFast _ _ => "IA_NA"
  | .iaPDInfo _ _ _ | .iaPDInfoFuzzyRemove _ _ => "IA_PD"

def Lease6.usable (lease : Lease6 Addr) : Bool :=
  !(lease.stateExpiredReclaimed || lease.stateDeclined)

/-- `LeaseUtils::findIA_NALeaseByDUID_IAID`: the first usable IA_NA lease of the client. -/
def findIANALeaseByDUIDIAID (leaseMgr : LeaseMgr Addr) (duid : Option DUID) (iaid : UInt32) :
    Option (Lease6 Addr) :=
  match duid with
  | some leaseDUID => (leaseMgr.getLeases6 .typeNA leaseDUID iaid).find? Lease6.usable
  | none => none

theorem findIANALeaseByDUIDIAID_spec {leaseMgr : LeaseMgr Addr} {duid : Option DUID} {iaid : UInt32}
    {lease : Lease6 Addr} (hfind : findIANALeaseByDUIDIAID leaseMgr duid iaid = some lease) :
    lease ∈ leaseMgr.leases ∧ lease.type = .typeNA ∧ lease.duid = duid ∧ lease.iaid = iaid ∧
      lease.usable = true := by
  cases duid with
  | none => simp [findIANALeaseByDUIDIAID] at hfind
  | some leaseDUID =>
      have husable := List.find?_some hfind
      have hmem := List.mem_of_find?_eq_some hfind
      simp only [LeaseMgr.getLeases6, List.mem_filter, decide_eq_true_eq] at hmem
      obtain ⟨hleases, htype, hduid, hiaid⟩ := hmem
      exact ⟨hleases, htype, hduid, hiaid, husable⟩

theorem findIANALeaseByDUIDIAID_eq_none_iff {leaseMgr : LeaseMgr Addr} {leaseDUID : DUID}
    {iaid : UInt32} :
    findIANALeaseByDUIDIAID leaseMgr (some leaseDUID) iaid = none ↔
      ∀ lease ∈ leaseMgr.leases, lease.type = .typeNA → lease.duid = some leaseDUID →
        lease.iaid = iaid → lease.usable = false := by
  simp only [findIANALeaseByDUIDIAID, LeaseMgr.getLeases6, List.find?_eq_none, List.mem_filter,
    decide_eq_true_eq, Bool.not_eq_true, and_imp]

end NxosExporter
