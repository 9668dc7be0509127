import NxosExporter.Callouts
import NxosExporter.Proof.Restore

/-!
# The subnet of a next hop

The helper that finds the IA_NA lease behind a delegated prefix takes the first usable one that the lease
database returns, from whatever subnet. A client with addresses on two subnets gets the one that is stored
first, so the next hop is on the subnet of the prefix exactly when every address elsewhere is stored behind
one on that subnet.
-/

namespace NxosExporter

variable {Addr : Type}

/-- `own` is a usable IA_NA lease of the same DUID and IAID. -/
def Lease6.isAddressFor (lease own : Lease6 Addr) : Bool :=
  lease.duid.isSome && own.type = .typeNA && own.duid = lease.duid && own.iaid = lease.iaid && own.usable

def HasAddressOnSubnet (leaseMgr : LeaseMgr Addr) (lease : Lease6 Addr) : Prop :=
  ∃ own ∈ leaseMgr.leases, lease.isAddressFor own = true ∧ own.subnetId = lease.subnetId

/-- Where a prefix lease is handled, with what else the handler is given. -/
inductive PrefixHandler (Addr : Type) where
  | lease6Select (query : Pkt6 Addr) (fakeAllocation : Bool)
  | lease6Release (query : Pkt6 Addr)
  | lease6Decline (query : Pkt6 Addr)
  | lease6Renew (query : Pkt6 Addr) (iaNA : IAArgument Addr)
  | lease6Rebind (query : Pkt6 Addr) (iaNA : IAArgument Addr)
  | restore (mapping : HWAddrMap)

/-- The routes that the handler exports or, at the end of the lease, withdraws. -/
def PrefixHandler.routes [DecidableEq Addr] (leaseMgr : LeaseMgr Addr) (lease : Lease6 Addr) :
    PrefixHandler Addr → List (RouteExport Addr)
  | lease6Select query fakeAllocation =>
      routesSent (callout (handleLease6Select leaseMgr query lease fakeAllocation)).effects
  | lease6Release query => routesRemoved (callout (handleLease6Release leaseMgr query lease)).effects
  | lease6Decline query => routesRemoved (callout (handleLease6Decline leaseMgr query lease)).effects
  | lease6Renew query iaNA => routesSent (callout (handleLease6Renew leaseMgr query lease iaNA)).effects
  | lease6Rebind query iaNA => routesSent (callout (handleLease6Rebind leaseMgr query lease iaNA)).effects
  | restore mapping => routesSent (restoreLease leaseMgr mapping lease).effects

/-- The helper supplies a lease of the prefix's subnet, and the routes of the prefix lead over such a lease,
whichever handler asked. -/
structure NextHopOnSubnet [DecidableEq Addr] (leaseMgr : LeaseMgr Addr) (lease : Lease6 Addr) : Prop where
  supplied : ∃ found, findIANALeaseByDUIDIAID leaseMgr lease.duid lease.iaid = some found ∧
    found.subnetId = lease.subnetId
  routed : ∀ handler : PrefixHandler Addr, ∀ route ∈ handler.routes leaseMgr lease, ∀ nextHop,
    route.routeInfo = .iaPDInfo nextHop lease.addr lease.prefixlen →
      ∃ found ∈ leaseMgr.leases, lease.isAddressFor found = true ∧ found.subnetId = lease.subnetId ∧
        found.addr = nextHop

/-- Every usable address lease of the client on another subnet is stored behind one on the subnet of the
lease. -/
def OwnSubnetFirst (leaseMgr : LeaseMgr Addr) (lease : Lease6 Addr) : Prop :=
  ∀ before other after, leaseMgr.leases = before ++ other :: after → lease.isAddressFor other = true →
    other.subnetId ≠ lease.subnetId →
      ∃ own ∈ before, lease.isAddressFor own = true ∧ own.subnetId = lease.subnetId

section FirstMatch

variable {α : Type} {p : α → Bool} {q : α → Prop}

/-- The first match satisfies `q` exactly when every match that does not has one that does before it. -/
theorem exists_find?_iff {items : List α} (hexists : ∃ item ∈ items, p item = true ∧ q item) :
    (∃ found, items.find? p = some found ∧ q found) ↔
      ∀ before other after, items = before ++ other :: after → p other = true → ¬ q other →
        ∃ item ∈ before, p item = true ∧ q item := by
  constructor
  · rintro ⟨found, hfound, hq⟩ before other after hsplit hother hnot
    obtain ⟨hp, first, last, hitems, hnone⟩ := List.find?_eq_some_iff_append.mp hfound
    rw [hitems, List.append_eq_append_iff] at hsplit
    obtain ⟨between, hbefore, hlast⟩ | ⟨between, hfirst, hlast⟩ := hsplit
    · cases between with
      | nil =>
          obtain ⟨rfl, -⟩ := List.cons.inj hlast
          exact absurd hq hnot
      | cons head rest =>
          obtain ⟨rfl, -⟩ := List.cons.inj hlast
          exact ⟨found, by simp [hbefore], hp, hq⟩
    · cases between with
      | nil =>
          obtain ⟨rfl, -⟩ := List.cons.inj hlast
          exact absurd hq hnot
      | cons head rest =>
          obtain ⟨rfl, -⟩ := List.cons.inj hlast
          have hmissed := hnone other (by simp [hfirst])
          simp [hother] at hmissed
  · intro hbefore
    obtain ⟨item, hmem, hp, -⟩ := hexists
    obtain ⟨found, hfound⟩ := Option.isSome_iff_exists.mp (List.find?_isSome.mpr ⟨item, hmem, hp⟩)
    obtain ⟨hpFound, first, last, hitems, hnone⟩ := List.find?_eq_some_iff_append.mp hfound
    refine ⟨found, hfound, ?_⟩
    by_contra hnot
    obtain ⟨earlier, hearlier, hpEarlier, -⟩ := hbefore first found last hitems hpFound hnot
    have hmissed := hnone earlier hearlier
    simp [hpEarlier] at hmissed

end FirstMatch

section NextHop

variable {leaseMgr : LeaseMgr Addr} {lease found : Lease6 Addr} {nextHop : Addr}

theorem findIANALease_eq (leaseMgr : LeaseMgr Addr) (lease : Lease6 Addr) :
    findIANALeaseByDUIDIAID leaseMgr lease.duid lease.iaid = leaseMgr.leases.find? lease.isAddressFor := by
  cases hduid : lease.duid with
  | none =>
      have hnone : lease.isAddressFor = fun _ => false := by
        funext own
        simp [Lease6.isAddressFor, hduid]
      rw [findIANALeaseByDUIDIAID, hnone, eq_comm, List.find?_eq_none]
      exact fun _ _ => Bool.false_ne_true
  | some duid =>
      rw [findIANALeaseByDUIDIAID, LeaseMgr.getLeases6, List.find?_filter]
      congr 1
      funext own
      simp [Lease6.isAddressFor, hduid, Bool.and_assoc]

/-- The routes over this prefix lead over the address of the lease that the helper finds. -/
def LeadOverFound (leaseMgr : LeaseMgr Addr) (lease : Lease6 Addr) (routes : List (RouteExport Addr)) : Prop :=
  ∀ route ∈ routes, ∀ nextHop, route.routeInfo = .iaPDInfo nextHop lease.addr lease.prefixlen →
    (findIANALeaseByDUIDIAID leaseMgr lease.duid lease.iaid).map Lease6.addr = some nextHop

theorem leadOverFound_nil : LeadOverFound leaseMgr lease [] := fun _ hmem => absurd hmem List.not_mem_nil

theorem leadOverFound_select (query : Pkt6 Addr) (fakeAllocation : Bool) :
    LeadOverFound leaseMgr lease
      (routesSent (handleLease6Select leaseMgr query lease fakeAllocation).effects) := by
  cases fakeAllocation with
  | true => exact leadOverFound_nil
  | false =>
      cases hrelay : query.getRelay6LinkAddress 0 with
      | ok relayAddr =>
          cases htype : lease.type <;>
            cases hfind : findIANALeaseByDUIDIAID leaseMgr lease.duid lease.iaid <;>
              simp [LeadOverFound, handleLease6Select, hrelay, htype, hfind, exportRoute, ServiceEffect.sent?]
      | throw exn => simp [LeadOverFound, handleLease6Select, hrelay]
      | undefined => simp [LeadOverFound, handleLease6Select, hrelay]

theorem leadOverFound_leaseEnd (query : Pkt6 Addr) :
    LeadOverFound leaseMgr lease (routesRemoved (handleLeaseEnd leaseMgr query lease).effects) := by
  cases hrelay : query.getRelay6LinkAddress 0 with
  | ok relayAddr =>
      cases htype : lease.type <;>
        cases hfind : findIANALeaseByDUIDIAID leaseMgr lease.duid lease.iaid <;>
          simp [LeadOverFound, handleLeaseEnd, hrelay, htype, hfind, removeRoute, ServiceEffect.removed?]
  | throw exn => simp [LeadOverFound, handleLeaseEnd, hrelay]
  | undefined => simp [LeadOverFound, handleLeaseEnd, hrelay]

theorem leadOverFound_renewRebind [DecidableEq Addr] (isRebindProcess isIANA : Bool) (query : Pkt6 Addr) :
    LeadOverFound leaseMgr lease
      (routesSent (handleRenewRebindProcess isRebindProcess leaseMgr query lease isIANA).effects) := by
  cases hrelay : query.relayInfo with
  | nil => simp [LeadOverFound, handleRenewRebindProcess, Pkt6.getRelay6LinkAddress, hrelay]
  | cons relayAddr relays =>
      rw [handleRenewRebindProcess_of_relayed hrelay]
      cases isIANA with
      | true =>
          cases hoption : query.getOptionIANA with
          | none => simp [LeadOverFound, renewRebindIANA, hoption]
          | some option =>
              cases haddress : option.getOptionIAADDR with
              | none => simp [LeadOverFound, renewRebindIANA, hoption, haddress]
              | some address =>
                  by_cases hsame : address = lease.addr <;>
                    simp [LeadOverFound, renewRebindIANA, hoption, haddress, hsame, exportRoute, removeRoute,
                      ServiceEffect.sent?]
      | false =>
          cases hoption : query.getOptionIAPD with
          | none => simp [LeadOverFound, renewRebindIAPD, hoption]
          | some option =>
              cases hiaPrefix : option.getOptionIAPREFIX with
              | none => simp [LeadOverFound, renewRebindIAPD, hoption, hiaPrefix]
              | some iaPrefix =>
                  cases hfind : findIANALeaseByDUIDIAID leaseMgr lease.duid lease.iaid with
                  | none =>
                      cases hduid : lease.duid <;> rw [hduid] at hfind <;>
                        simp [LeadOverFound, renewRebindIAPD, hoption, hiaPrefix, hfind, hduid,
                          ServiceEffect.sent?]
                  | some found =>
                      by_cases hsame : iaPrefix.address = lease.addr <;> cases isRebindProcess <;>
                        simp [LeadOverFound, renewRebindIAPD, hoption, hiaPrefix, hfind, hsame, exportRoute,
                          removeRoute, ServiceEffect.sent?]

theorem leadOverFound_restore (mapping : HWAddrMap) :
    LeadOverFound leaseMgr lease (routesSent (restoreLease leaseMgr mapping lease).effects) := by
  rw [(restoreLease_spec lease).1]
  cases hhwaddr : lease.hwaddr with
  | none => simp [LeadOverFound, routeSent, hhwaddr]
  | some hwAddr =>
      cases htype : lease.type <;> cases hfind : findIANALeaseByDUIDIAID leaseMgr lease.duid lease.iaid <;>
        simp [LeadOverFound, routeSent, routeDue, hhwaddr, htype, hfind]

theorem leadOverFound_handler [DecidableEq Addr] (handler : PrefixHandler Addr) :
    LeadOverFound leaseMgr lease (handler.routes leaseMgr lease) := by
  cases handler with
  | lease6Select query fakeAllocation =>
      rw [PrefixHandler.routes, callout_effects]
      exact leadOverFound_select query fakeAllocation
  | lease6Release query =>
      rw [PrefixHandler.routes, callout_effects]
      exact leadOverFound_leaseEnd query
  | lease6Decline query =>
      rw [PrefixHandler.routes, callout_effects]
      exact leadOverFound_leaseEnd query
  | lease6Renew query iaNA =>
      rw [PrefixHandler.routes, callout_effects]
      exact leadOverFound_renewRebind false (isIANA iaNA) query
  | lease6Rebind query iaNA =>
      rw [PrefixHandler.routes, callout_effects]
      exact leadOverFound_renewRebind true (isIANA iaNA) query
  | restore mapping => exact leadOverFound_restore mapping

theorem nextHopOnSubnet_of_supplied [DecidableEq Addr]
    (hfind : findIANALeaseByDUIDIAID leaseMgr lease.duid lease.iaid = some found)
    (hsubnet : found.subnetId = lease.subnetId) : NextHopOnSubnet leaseMgr lease := by
  refine ⟨⟨found, hfind, hsubnet⟩, fun handler route hmem nextHop hroute => ?_⟩
  have hover := leadOverFound_handler handler route hmem nextHop hroute
  rw [hfind, Option.map_some, Option.some.injEq] at hover
  rw [findIANALease_eq] at hfind
  exact ⟨found, List.mem_of_find?_eq_some hfind, List.find?_some hfind, hsubnet, hover⟩

/-- **The subnet of a next hop.** When the client has a usable address on the subnet of its prefix, the next
hop is on that subnet exactly when every usable address elsewhere is stored behind one there. -/
theorem nextHopOnSubnet_iff [DecidableEq Addr] (leaseMgr : LeaseMgr Addr) (lease : Lease6 Addr)
    (hown : HasAddressOnSubnet leaseMgr lease) :
    NextHopOnSubnet leaseMgr lease ↔ OwnSubnetFirst leaseMgr lease := by
  have hfirst := exists_find?_iff hown
  rw [← findIANALease_eq] at hfirst
  rw [OwnSubnetFirst, ← hfirst]
  constructor
  · exact NextHopOnSubnet.supplied
  · rintro ⟨found, hfind, hsubnet⟩
    exact nextHopOnSubnet_of_supplied hfind hsubnet

/-- The next hop does not depend on the order of the database exactly when the client has no usable address on
another subnet. -/
theorem nextHopOnSubnet_of_perm_iff [DecidableEq Addr] (leaseMgr : LeaseMgr Addr) (lease : Lease6 Addr)
    (hown : HasAddressOnSubnet leaseMgr lease) :
    (∀ reordered : LeaseMgr Addr, reordered.leases.Perm leaseMgr.leases → NextHopOnSubnet reordered lease) ↔
      ∀ other ∈ leaseMgr.leases, lease.isAddressFor other = true → other.subnetId = lease.subnetId := by
  constructor
  · intro hperm other hmem hother
    obtain ⟨before, after, hsplit⟩ := List.append_of_mem hmem
    have hreordered : (other :: (before ++ after)).Perm leaseMgr.leases := by
      rw [hsplit]
      exact List.perm_middle.symm
    obtain ⟨found, hfind, hsubnet⟩ := (hperm ⟨other :: (before ++ after)⟩ hreordered).supplied
    rw [findIANALease_eq, List.find?_cons_of_pos hother] at hfind
    rw [Option.some.inj hfind, hsubnet]
  · intro hall reordered hperm
    have hownReordered : HasAddressOnSubnet reordered lease := by
      obtain ⟨own, hmem, haddress⟩ := hown
      exact ⟨own, hperm.mem_iff.mpr hmem, haddress⟩
    rw [nextHopOnSubnet_iff reordered lease hownReordered]
    intro before other after hsplit hother hsubnet
    have hmem : other ∈ reordered.leases := by simp [hsplit]
    exact absurd (hall other (hperm.mem_iff.mp hmem) hother) hsubnet

end NextHop

/-! The client has moved: its address on subnet 2 is stored before the one on the subnet of its prefix. -/

def movedLease : Lease6 TextAddress := { addressLease with addr := otherAddress, subnetId := 2 }

theorem hasAddressOnSubnet_of_mem {leaseMgr : LeaseMgr TextAddress} (hmem : addressLease ∈ leaseMgr.leases) :
    HasAddressOnSubnet leaseMgr prefixLease :=
  ⟨addressLease, hmem, by decide, by decide⟩

theorem not_nextHopOnSubnet_movedLease :
    HasAddressOnSubnet ⟨[movedLease, addressLease, prefixLease]⟩ prefixLease ∧
      findIANALeaseByDUIDIAID ⟨[movedLease, addressLease, prefixLease]⟩ prefixLease.duid prefixLease.iaid
        = some movedLease ∧
      ¬ NextHopOnSubnet ⟨[movedLease, addressLease, prefixLease]⟩ prefixLease := by
  have hfind : findIANALeaseByDUIDIAID ⟨[movedLease, addressLease, prefixLease]⟩ prefixLease.duid
      prefixLease.iaid = some movedLease := by decide
  refine ⟨hasAddressOnSubnet_of_mem (by decide), hfind, fun hsubnet => ?_⟩
  obtain ⟨found, hfound, hfoundSubnet⟩ := hsubnet.supplied
  rw [hfind] at hfound
  obtain rfl := Option.some.inj hfound
  exact absurd hfoundSubnet (by decide)

theorem nextHopOnSubnet_iff_addressFirst :
    NextHopOnSubnet ⟨[addressLease, movedLease, prefixLease]⟩ prefixLease ↔
      OwnSubnetFirst ⟨[addressLease, movedLease, prefixLease]⟩ prefixLease :=
  nextHopOnSubnet_iff ⟨[addressLease, movedLease, prefixLease]⟩ prefixLease
    (hasAddressOnSubnet_of_mem (by decide))

end NxosExporter
