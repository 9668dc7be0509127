import NxosExporter.Callouts

/-!
# Ending an address and a prefix

Both callouts of an IA_PD lease look its next hop up in the lease database, which Kea updates after each
callout. The prefix route is withdrawn when the prefix goes first; once the address lease is gone there
is no next hop to name, and the callout says so.
-/

namespace NxosExporter

variable {Addr : Type}

inductive EndCallout where
  | lease6Release
  | lease6Decline
  deriving DecidableEq, Repr

def EndCallout.handler : EndCallout → LeaseMgr Addr → Pkt6 Addr → Lease6 Addr → ServiceProg Addr Unit
  | lease6Release => handleLease6Release
  | lease6Decline => handleLease6Decline

def EndCallout.update [DecidableEq Addr] : EndCallout → LeaseMgr Addr → Lease6 Addr → LeaseMgr Addr
  | lease6Release => LeaseMgr.deleteLease
  | lease6Decline => LeaseMgr.declineLease

structure LeaseEnd (Addr : Type) where
  endCallout : EndCallout
  query : Pkt6 Addr
  lease : Lease6 Addr
  deriving DecidableEq, Repr

def LeaseEnd.effects (leaseMgr : LeaseMgr Addr) (leaseEnd : LeaseEnd Addr) : List (ServiceEffect Addr) :=
  (callout (leaseEnd.endCallout.handler leaseMgr leaseEnd.query leaseEnd.lease)).effects

/-- The commands that a run of ending callouts posts, each callout before its update of the database. -/
def endLeases [DecidableEq Addr] [IOAddress Addr] (leaseMgr : LeaseMgr Addr) :
    List (LeaseEnd Addr) → List Command
  | [] => []
  | leaseEnd :: rest =>
      commandsPosted leaseMgr (leaseEnd.effects leaseMgr) ++
        endLeases (leaseEnd.endCallout.update leaseMgr leaseEnd.lease) rest

def removals (commands : List Command) : List (String × String) :=
  commands.filterMap fun
    | .removeRouteIpv6 srcSubnet dstAddr => some (srcSubnet, dstAddr)
    | _ => none

section Database

variable [DecidableEq Addr] {leaseMgr : LeaseMgr Addr} {lease other : Lease6 Addr}

theorem usable_of_mem_update (endCallout : EndCallout) (husable : other.usable = true)
    (hmem : other ∈ (endCallout.update leaseMgr lease).leases) :
    other ∈ leaseMgr.leases ∧ lease.sameKey other = false := by
  cases endCallout with
  | lease6Release =>
      have hfilter := List.mem_filter.mp hmem
      exact ⟨hfilter.1, by simpa using hfilter.2⟩
  | lease6Decline =>
      obtain ⟨before, hbefore, hupdated⟩ := List.mem_map.mp hmem
      cases hkey : lease.sameKey before with
      | true =>
          rw [hkey, if_pos rfl] at hupdated
          subst hupdated
          simp [Lease6.usable, Lease6.stateDeclined] at husable
      | false =>
          obtain rfl : before = other := by simpa [hkey] using hupdated
          exact ⟨hbefore, hkey⟩

/-- Once the only usable address lease of a client has ended, none is found. -/
theorem findIANALease_update_eq_none {duid : DUID} {iaid : UInt32} (endCallout : EndCallout)
    (honly : ∀ candidate ∈ leaseMgr.leases, candidate.type = .typeNA → candidate.duid = some duid →
      candidate.iaid = iaid → candidate.usable = true → lease.sameKey candidate = true) :
    findIANALeaseByDUIDIAID (endCallout.update leaseMgr lease) (some duid) iaid = none := by
  rw [findIANALeaseByDUIDIAID_eq_none_iff]
  intro candidate hmem htype hduid hiaid
  by_contra husable
  rw [Bool.not_eq_false] at husable
  obtain ⟨hbefore, hkey⟩ := usable_of_mem_update endCallout husable hmem
  have hsame := honly candidate hbefore htype hduid hiaid husable
  rw [hkey] at hsame
  exact absurd hsame Bool.false_ne_true

end Database

section Callouts

variable {leaseMgr : LeaseMgr Addr} {lease leaseIANA : Lease6 Addr} {query : Pkt6 Addr}

theorem LeaseEnd.effects_eq (endCallout : EndCallout) :
    LeaseEnd.effects leaseMgr ⟨endCallout, query, lease⟩ = (handleLeaseEnd leaseMgr query lease).effects := by
  rw [LeaseEnd.effects, callout_effects]
  cases endCallout <;> rfl

theorem effects_prefixEnd_of_none (endCallout : EndCallout) (htype : lease.type = .typePD)
    (hrelayed : query.relayInfo ≠ [])
    (hfind : findIANALeaseByDUIDIAID leaseMgr lease.duid lease.iaid = none) :
    LeaseEnd.effects leaseMgr ⟨endCallout, query, lease⟩
      = [.log (.routeRemoveFindIANALeaseFailed lease.iaid lease.duid)] := by
  obtain ⟨relayAddr, rest, hrelay⟩ := List.exists_cons_of_ne_nil hrelayed
  rw [LeaseEnd.effects_eq]
  simp [handleLeaseEnd, Pkt6.getRelay6LinkAddress, hrelay, htype, hfind]

variable [IOAddress Addr]

theorem removals_addressEnd (endCallout : EndCallout) (htype : lease.type = .typeNA) :
    removals (commandsPosted leaseMgr (LeaseEnd.effects leaseMgr ⟨endCallout, query, lease⟩)) = [] := by
  rw [LeaseEnd.effects_eq]
  cases hrelay : query.getRelay6LinkAddress 0 <;>
    simp [handleLeaseEnd, hrelay, htype, removeRoute, commandsPosted, postedBy, clientCall,
      removeRoutesFromSwitch, ClientEffect.request?, Request.cliCommands, removals]

theorem removals_prefixEnd (endCallout : EndCallout) (htype : lease.type = .typePD)
    (hrelayed : query.relayInfo ≠ [])
    (hfind : findIANALeaseByDUIDIAID leaseMgr lease.duid lease.iaid = some leaseIANA) :
    removals (commandsPosted leaseMgr (LeaseEnd.effects leaseMgr ⟨endCallout, query, lease⟩))
      = [(prefixSubnet lease.addr lease.prefixlen, IOAddress.toText leaseIANA.addr)] := by
  obtain ⟨relayAddr, rest, hrelay⟩ := List.exists_cons_of_ne_nil hrelayed
  rw [LeaseEnd.effects_eq]
  simp [handleLeaseEnd, Pkt6.getRelay6LinkAddress, hrelay, htype, hfind, removeRoute, commandsPosted,
    postedBy, clientCall, removeRoutesFromSwitch, ClientEffect.request?, Request.cliCommands, removals]

end Callouts

/-! ### Both leases of a client -/

section Both

variable [DecidableEq Addr] [IOAddress Addr] {leaseMgr : LeaseMgr Addr} {leaseIANA leaseIAPD : Lease6 Addr}

theorem removals_append (first second : List Command) :
    removals (first ++ second) = removals first ++ removals second :=
  List.filterMap_append

/-- **Ending both leases.** When the prefix ends first, exactly its route is removed. When the only
usable address lease of the client ends first, the callout of the prefix removes nothing and logs that
it found no next hop. -/
theorem removals_endLeases (htype : leaseIAPD.type = .typePD)
    (hfind : findIANALeaseByDUIDIAID leaseMgr leaseIAPD.duid leaseIAPD.iaid = some leaseIANA)
    (endIANA endIAPD : EndCallout) (queryIANA queryIAPD : Pkt6 Addr)
    (hrelayed : queryIAPD.relayInfo ≠ []) :
    removals (endLeases leaseMgr [⟨endIAPD, queryIAPD, leaseIAPD⟩, ⟨endIANA, queryIANA, leaseIANA⟩])
        = [(prefixSubnet leaseIAPD.addr leaseIAPD.prefixlen, IOAddress.toText leaseIANA.addr)] ∧
      ((∀ candidate ∈ leaseMgr.leases, candidate.type = .typeNA → candidate.duid = leaseIAPD.duid →
          candidate.iaid = leaseIAPD.iaid → candidate.usable = true → leaseIANA.sameKey candidate = true) →
        removals (endLeases leaseMgr [⟨endIANA, queryIANA, leaseIANA⟩, ⟨endIAPD, queryIAPD, leaseIAPD⟩]) = [] ∧
          LeaseEnd.effects (endIANA.update leaseMgr leaseIANA) ⟨endIAPD, queryIAPD, leaseIAPD⟩
            = [.log (.routeRemoveFindIANALeaseFailed leaseIAPD.iaid leaseIAPD.duid)]) := by
  have hspec := findIANALeaseByDUIDIAID_spec hfind
  constructor
  · simp only [endLeases, removals_append, removals_prefixEnd endIAPD htype hrelayed hfind,
      removals_addressEnd endIANA hspec.2.1]
    rfl
  · intro honly
    obtain ⟨duid, hduid⟩ : ∃ duid, leaseIAPD.duid = some duid := by
      cases hduid : leaseIAPD.duid with
      | none => simp [hduid, findIANALeaseByDUIDIAID] at hfind
      | some duid => exact ⟨duid, rfl⟩
    have hgone : findIANALeaseByDUIDIAID (endIANA.update leaseMgr leaseIANA) leaseIAPD.duid leaseIAPD.iaid
        = none := by
      rw [hduid] at honly ⊢
      exact findIANALease_update_eq_none endIANA honly
    have heffects := effects_prefixEnd_of_none endIAPD htype hrelayed hgone
    refine ⟨?_, heffects⟩
    simp only [endLeases, removals_append, removals_addressEnd endIANA hspec.2.1, heffects]
    rfl

end Both

/-! The two leases of a client are released in either order. -/

def releaseQuery : Pkt6 TextAddress := ⟨9, [linkAddress], [], []⟩

theorem removals_endLeases_addressFirst :
    removals (endLeases ⟨[addressLease, prefixLease]⟩
      [⟨.lease6Release, releaseQuery, addressLease⟩, ⟨.lease6Release, releaseQuery, prefixLease⟩]) = [] := by
  decide

theorem removals_endLeases_releaseAndDecline :
    removals (endLeases ⟨[addressLease, prefixLease]⟩
        [⟨.lease6Decline, releaseQuery, prefixLease⟩, ⟨.lease6Release, releaseQuery, addressLease⟩])
      = [("2001:db8:1::/64", "2001:db8::5")] ∧
    removals (endLeases ⟨[addressLease, prefixLease]⟩
        [⟨.lease6Release, releaseQuery, addressLease⟩, ⟨.lease6Decline, releaseQuery, prefixLease⟩]) = [] := by
  have hfind : findIANALeaseByDUIDIAID ⟨[addressLease, prefixLease]⟩ prefixLease.duid prefixLease.iaid
      = some addressLease := by decide
  obtain ⟨hprefixFirst, haddressFirst⟩ := removals_endLeases rfl hfind .lease6Release .lease6Decline
    releaseQuery releaseQuery (by decide)
  exact ⟨hprefixFirst, (haddressFirst (by decide)).1⟩

end NxosExporter
