import Mathlib.Data.List.Basic
import NxosExporter.ExporterService

/-!
# The restore pass

After a reboot of the switch every lease with a match is due one route. The loop delivers the routes
of the leases up to the first IA_PD lease and then leaves the callback, so the pass is complete exactly
when nothing is due after that lease.
-/

namespace NxosExporter

open Effectful

variable {Addr : Type}

/-- The route a lease is due, if it has a match: an IA_NA lease in the map, an IA_PD lease in the lease
database. -/
def routeDue (leaseMgr : LeaseMgr Addr) (mapping : HWAddrMap) (lease : Lease6 Addr) :
    Option (RouteExport Addr) :=
  match lease.type with
  | .typeNA => (lease.hwaddr.bind mapping.find).map fun vlanIfName =>
      ⟨0, lease.iaid, lease.duid, .iaNAFast vlanIfName lease.addr⟩
  | .typePD => (findIANALeaseByDUIDIAID leaseMgr lease.duid lease.iaid).map fun entry =>
      ⟨0, lease.iaid, lease.duid, .iaPDInfo entry.addr lease.addr lease.prefixlen⟩
  | .typeTA | .typeV4 => none

/-- A lease that the pass must not lose. -/
def hasMatch (leaseMgr : LeaseMgr Addr) (mapping : HWAddrMap) (lease : Lease6 Addr) : Bool :=
  match lease.type with
  | .typeNA => (lease.hwaddr.bind mapping.find).isSome
  | .typePD => (findIANALeaseByDUIDIAID leaseMgr lease.duid lease.iaid).isSome
  | .typeTA | .typeV4 => false

def restoredLeases (leaseMgr : LeaseMgr Addr) (subnets : List UInt32) : List (Lease6 Addr) :=
  subnets.flatMap leaseMgr.getLeases6InSubnet

def isPrefixLease (lease : Lease6 Addr) : Bool := lease.type = .typePD

def configured (subnets : List UInt32) : CfgMgr := ⟨some ⟨some ⟨some subnets⟩⟩⟩

/-- The pass sends every lease its route, each once and in lease order. -/
def RestoreComplete (leaseMgr : LeaseMgr Addr) (mapping : HWAddrMap) (subnets : List UInt32) : Prop :=
  routesSent (restoreCallback leaseMgr (configured subnets) (some mapping) false).effects
    = (restoredLeases leaseMgr subnets).filterMap (routeDue leaseMgr mapping)

variable {leaseMgr : LeaseMgr Addr} {mapping : HWAddrMap}

theorem routeDue_eq_none_iff {lease : Lease6 Addr} :
    routeDue leaseMgr mapping lease = none ↔ hasMatch leaseMgr mapping lease = false := by
  cases htype : lease.type <;> simp [routeDue, hasMatch, htype]

/-- The leases that end the pass: one without a HWAddr by an exception, an IA_PD by the `return`. -/
def endsPass (lease : Lease6 Addr) : Bool := lease.hwaddr.isNone || isPrefixLease lease

def routeSent (leaseMgr : LeaseMgr Addr) (mapping : HWAddrMap) (lease : Lease6 Addr) :
    Option (RouteExport Addr) :=
  lease.hwaddr.bind fun _ => routeDue leaseMgr mapping lease

/-- One iteration sends the route its lease is due, and goes on unless its lease ends the pass. -/
theorem restoreLease_spec (lease : Lease6 Addr) :
    routesSent (restoreLease leaseMgr mapping lease).effects = (routeSent leaseMgr mapping lease).toList ∧
      ((restoreLease leaseMgr mapping lease).outcome = .ok .next ↔ endsPass lease = false) := by
  cases hhwAddr : lease.hwaddr with
  | none => simp [restoreLease, routeSent, endsPass, hhwAddr]
  | some hwAddr =>
      cases htype : lease.type with
      | typeNA =>
          cases hlookup : mapping.find hwAddr <;>
            simp [restoreLease, routeSent, routeDue, endsPass, isPrefixLease, hhwAddr, htype, hlookup,
              ServiceEffect.sent?]
      | typePD =>
          cases hfind : findIANALeaseByDUIDIAID leaseMgr lease.duid lease.iaid with
          | some entry =>
              simp [restoreLease, routeSent, routeDue, endsPass, isPrefixLease, hhwAddr, htype, hfind,
                ServiceEffect.sent?]
          | none =>
              cases hduid : lease.duid <;> rw [hduid] at hfind <;>
                simp [restoreLease, routeSent, routeDue, endsPass, isPrefixLease, hhwAddr, htype, hfind, hduid,
                  ServiceEffect.sent?]
      | typeTA => simp [restoreLease, routeSent, routeDue, endsPass, isPrefixLease, hhwAddr, htype]
      | typeV4 => simp [restoreLease, routeSent, routeDue, endsPass, isPrefixLease, hhwAddr, htype]

/-- The pass is one loop over the leases of all subnets. -/
theorem restoreSubnets_eq (leaseMgr : LeaseMgr Addr) (mapping : HWAddrMap) (subnets : List UInt32) :
    restoreSubnets leaseMgr mapping subnets
      = Prog.loop (restoreLease leaseMgr mapping) (restoredLeases leaseMgr subnets) :=
  Prog.loop_loop _ _ _

/-- The pass sends what is due up to the first lease that ends it, over all subnets. -/
theorem routesSent_restoreCallback (leaseMgr : LeaseMgr Addr) (mapping : HWAddrMap) (subnets : List UInt32) :
    routesSent (restoreCallback leaseMgr (configured subnets) (some mapping) false).effects
      = (throughFirst endsPass (restoredLeases leaseMgr subnets)).filterMap (routeSent leaseMgr mapping) := by
  calc
    routesSent (restoreCallback leaseMgr (configured subnets) (some mapping) false).effects
      = routesSent (restoreSubnets leaseMgr mapping subnets).effects := by
          simp [restoreCallback, configured]
    _ = routesSent ((throughFirst endsPass (restoredLeases leaseMgr subnets)).flatMap
          fun lease => (restoreLease leaseMgr mapping lease).effects) := by
          rw [restoreSubnets_eq, Prog.loop_effects _ endsPass _ fun lease _ => (restoreLease_spec lease).2]
    _ = (throughFirst endsPass (restoredLeases leaseMgr subnets)).flatMap
          fun lease => routesSent (restoreLease leaseMgr mapping lease).effects := by
          rw [routesSent, List.filterMap_flatMap]
          rfl
    _ = (throughFirst endsPass (restoredLeases leaseMgr subnets)).flatMap
          fun lease => (routeSent leaseMgr mapping lease).toList :=
          List.flatMap_congr fun lease _ => (restoreLease_spec lease).1
    _ = (throughFirst endsPass (restoredLeases leaseMgr subnets)).filterMap (routeSent leaseMgr mapping) :=
          (List.filterMap_eq_flatMap_toList _ _).symm

/-- Where every lease has a HWAddr, only an IA_PD lease ends the pass. -/
theorem routesSent_of_hwaddr {subnets : List UInt32}
    (hhwaddr : ∀ lease ∈ restoredLeases leaseMgr subnets, lease.hwaddr.isSome) :
    routesSent (restoreCallback leaseMgr (configured subnets) (some mapping) false).effects
      = (throughFirst isPrefixLease (restoredLeases leaseMgr subnets)).filterMap
          (routeDue leaseMgr mapping) := by
  have hends : ∀ lease ∈ restoredLeases leaseMgr subnets, endsPass lease = isPrefixLease lease := by
    intro lease hmem
    have hnone : lease.hwaddr.isNone = false := Option.isNone_eq_false_iff.mpr (hhwaddr lease hmem)
    rw [endsPass, hnone, Bool.false_or]
  rw [routesSent_restoreCallback, throughFirst_congr hends]
  refine List.filterMap_congr fun lease hmem => ?_
  obtain ⟨hwAddr, hhwAddr⟩ := Option.isSome_iff_exists.mp (hhwaddr lease (mem_of_mem_throughFirst hmem))
  rw [routeSent, hhwAddr, Option.bind_some]

/-- **The restore pass.** Over leases that all carry a HWAddr, the pass is complete exactly when no
lease after the first IA_PD lease has a match. -/
theorem restoreComplete_iff (leaseMgr : LeaseMgr Addr) (mapping : HWAddrMap) (subnets : List UInt32)
    (hhwaddr : ∀ lease ∈ restoredLeases leaseMgr subnets, lease.hwaddr.isSome) :
    RestoreComplete leaseMgr mapping subnets ↔
      ∀ lease ∈ afterFirst isPrefixLease (restoredLeases leaseMgr subnets),
        hasMatch leaseMgr mapping lease = false := by
  rw [RestoreComplete, routesSent_of_hwaddr hhwaddr, filterMap_throughFirst_eq_iff]
  exact forall₂_congr fun lease _ => routeDue_eq_none_iff

/-! A database whose one subnet holds a delegated prefix and, after it, an address lease: the prefix
route is sent and the address is forgotten. -/

def prefixThenAddress : LeaseMgr TextAddress where
  leases :=
    [prefixLease,
      ⟨.typeNA, clientAddress, 128, 2, some ⟨[2]⟩, some ⟨1, [11]⟩, 1, .stateDefault⟩]

theorem not_restoreComplete_prefixThenAddress :
    ¬ RestoreComplete prefixThenAddress [(⟨1, [11]⟩, "Vlan10")] [1] := by
  unfold RestoreComplete
  decide

theorem restoreComplete_addressThenPrefix :
    RestoreComplete ⟨prefixThenAddress.leases.reverse⟩ [(⟨1, [11]⟩, "Vlan10")] [1] :=
  (restoreComplete_iff ⟨prefixThenAddress.leases.reverse⟩ [(⟨1, [11]⟩, "Vlan10")] [1]
    (by decide)).mpr (by decide)

end NxosExporter
