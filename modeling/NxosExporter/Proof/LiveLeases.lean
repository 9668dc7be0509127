import NxosExporter.Proof.Restore

/-!
# Which leases a restore exports

The next hop of a restored prefix is looked up among the usable leases, but the lease that the loop is at is
exported in whatever state it is. A restore exports live leases only exactly when no lease it gets to that has
a match is declined or reclaimed.
-/

namespace NxosExporter

open Effectful

variable {Addr : Type}

/-- The loops of the pass get to the lease. -/
def Reached (leaseMgr : LeaseMgr Addr) (mapping : HWAddrMap) (subnets : List UInt32) (lease : Lease6 Addr) :
    Prop :=
  ∃ before after, restoredLeases leaseMgr subnets = before ++ lease :: after ∧
    (Prog.loop (restoreLease leaseMgr mapping) before).outcome = .ok .next

/-- What the pass sends is for leases that are neither declined nor reclaimed, and goes over such. -/
structure ExportsLiveLeases (leaseMgr : LeaseMgr Addr) (mapping : HWAddrMap) (subnets : List UInt32) : Prop where
  leases : ∀ lease, Reached leaseMgr mapping subnets lease →
    ∀ route ∈ routesSent (restoreLease leaseMgr mapping lease).effects,
      lease.stateDeclined = false ∧ lease.stateExpiredReclaimed = false
  nextHops : ∀ route ∈ routesSent (restoreCallback leaseMgr (configured subnets) (some mapping) false).effects,
    ∀ dstIaNAAddr iaPDPrefix iaPDLength, route.routeInfo = .iaPDInfo dstIaNAAddr iaPDPrefix iaPDLength →
      ∃ leaseIANA ∈ leaseMgr.leases, leaseIANA.type = .typeNA ∧ leaseIANA.addr = dstIaNAAddr ∧
        leaseIANA.stateDeclined = false ∧ leaseIANA.stateExpiredReclaimed = false

section Pass

variable {leaseMgr : LeaseMgr Addr} {mapping : HWAddrMap} {subnets : List UInt32} {lease : Lease6 Addr}
  {route : RouteExport Addr}

theorem usable_iff :
    lease.usable = true ↔ lease.stateDeclined = false ∧ lease.stateExpiredReclaimed = false := by
  rw [Lease6.usable, Bool.not_eq_true', Bool.or_eq_false_iff, and_comm]

theorem reached_iff :
    Reached leaseMgr mapping subnets lease ↔ lease ∈ throughFirst endsPass (restoredLeases leaseMgr subnets) := by
  rw [Reached, mem_throughFirst_iff]
  refine exists_congr fun before => exists_congr fun after => and_congr_right fun _ => ?_
  rw [Prog.loop_outcome _ endsPass before fun lease _ => (restoreLease_spec lease).2]
  cases hfind : before.find? endsPass with
  | none =>
      simp only [Option.elim_none, true_iff]
      intro other hmem
      simpa using List.find?_eq_none.mp hfind other hmem
  | some other =>
      have hends : endsPass other = true := List.find?_some hfind
      have hmem : other ∈ before := List.mem_of_find?_eq_some hfind
      rw [Option.elim_some, (restoreLease_spec other).2, hends]
      simp only [Bool.true_eq_false, false_iff, not_forall, Bool.not_eq_false]
      exact ⟨other, hmem, hends⟩

/-- The routes of the pass are those of the leases it gets to. -/
theorem mem_routesSent_iff :
    route ∈ routesSent (restoreCallback leaseMgr (configured subnets) (some mapping) false).effects ↔
      ∃ lease, Reached leaseMgr mapping subnets lease ∧
        route ∈ routesSent (restoreLease leaseMgr mapping lease).effects := by
  rw [routesSent_restoreCallback, List.mem_filterMap]
  refine exists_congr fun lease => and_congr reached_iff.symm ?_
  rw [(restoreLease_spec lease).1, Option.mem_toList]

theorem routeSent_isSome_iff :
    (routeSent leaseMgr mapping lease).isSome = true ↔
      lease.hwaddr.isSome = true ∧ hasMatch leaseMgr mapping lease = true := by
  cases hhwAddr : lease.hwaddr with
  | none => simp [routeSent, hhwAddr]
  | some hwAddr =>
      have hmatch : (routeDue leaseMgr mapping lease).isSome = true ↔ hasMatch leaseMgr mapping lease = true := by
        rw [Option.isSome_iff_ne_none, ne_eq, routeDue_eq_none_iff, Bool.not_eq_false]
      simpa [routeSent, hhwAddr] using hmatch

/-- A prefix goes over the lease that was found for its client. -/
theorem nextHop_of_mem_routesSent {dstIaNAAddr iaPDPrefix : Addr} {iaPDLength : UInt8}
    (hroute : route ∈ routesSent (restoreLease leaseMgr mapping lease).effects)
    (hinfo : route.routeInfo = .iaPDInfo dstIaNAAddr iaPDPrefix iaPDLength) :
    ∃ leaseIANA ∈ leaseMgr.leases, leaseIANA.type = .typeNA ∧ leaseIANA.addr = dstIaNAAddr ∧
      leaseIANA.usable = true := by
  rw [(restoreLease_spec lease).1, Option.mem_toList] at hroute
  obtain ⟨hwAddr, -, hdue⟩ := Option.bind_eq_some_iff.mp hroute
  cases htype : lease.type with
  | typeNA =>
      simp only [routeDue, htype, Option.map_eq_some_iff] at hdue
      obtain ⟨vlanIfName, -, rfl⟩ := hdue
      cases hinfo
  | typePD =>
      simp only [routeDue, htype, Option.map_eq_some_iff] at hdue
      obtain ⟨entry, hfind, rfl⟩ := hdue
      obtain ⟨hmem, htypeNA, -, -, husable⟩ := findIANALeaseByDUIDIAID_spec hfind
      obtain ⟨rfl, -, -⟩ := RouteInfo.iaPDInfo.inj hinfo
      exact ⟨entry, hmem, htypeNA, rfl, husable⟩
  | typeTA => simp [routeDue, htype] at hdue
  | typeV4 => simp [routeDue, htype] at hdue

end Pass

/-- **Live leases.** A restore exports only live leases exactly when every lease with a HWAddr and a match, up
to the first that ends the pass, is neither declined nor reclaimed. -/
theorem exportsLiveLeases_iff (leaseMgr : LeaseMgr Addr) (mapping : HWAddrMap) (subnets : List UInt32) :
    ExportsLiveLeases leaseMgr mapping subnets ↔
      ∀ lease ∈ throughFirst endsPass (restoredLeases leaseMgr subnets), lease.hwaddr.isSome = true →
        hasMatch leaseMgr mapping lease = true →
          lease.stateDeclined = false ∧ lease.stateExpiredReclaimed = false := by
  constructor
  · intro hlive lease hmem hhwaddr hmatch
    obtain ⟨route, hroute⟩ := Option.isSome_iff_exists.mp (routeSent_isSome_iff.mpr ⟨hhwaddr, hmatch⟩)
    refine hlive.leases lease (reached_iff.mpr hmem) route ?_
    rw [(restoreLease_spec lease).1, hroute]
    exact List.mem_singleton_self route
  · intro hstates
    refine ⟨fun lease hreached route hroute => ?_, fun route hroute dst iaPDPrefix iaPDLength hinfo => ?_⟩
    · rw [(restoreLease_spec lease).1, Option.mem_toList] at hroute
      obtain ⟨hhwaddr, hmatch⟩ := routeSent_isSome_iff.mp (Option.isSome_of_mem hroute)
      exact hstates lease (reached_iff.mp hreached) hhwaddr hmatch
    · obtain ⟨lease, -, hlease⟩ := mem_routesSent_iff.mp hroute
      obtain ⟨leaseIANA, hmem, htype, haddr, husable⟩ := nextHop_of_mem_routesSent hlease hinfo
      exact ⟨leaseIANA, hmem, htype, haddr, usable_iff.mp husable⟩

/-! An address that its client declined, and whose HWAddr the switch still knows. -/

def declinedLease : Lease6 TextAddress := { addressLease with state := .stateDeclined }

theorem not_exportsLiveLeases_declinedLease :
    routesSent (restoreCallback ⟨[declinedLease]⟩ (configured [1]) (some [(⟨1, [10]⟩, "Vlan10")]) false).effects
        = [⟨0, 1, some ⟨[1]⟩, .iaNAFast "Vlan10" clientAddress⟩] ∧
      ¬ ExportsLiveLeases ⟨[declinedLease]⟩ [(⟨1, [10]⟩, "Vlan10")] [1] := by
  refine ⟨by decide, fun hlive => ?_⟩
  have hstate := hlive.leases declinedLease ⟨[], [], rfl, rfl⟩
    ⟨0, 1, some ⟨[1]⟩, .iaNAFast "Vlan10" clientAddress⟩ (by decide)
  exact absurd hstate.1 (by decide)

end NxosExporter
