import NxosExporter.Callouts
import NxosExporter.Proof.AmbiguousLookup

/-!
# Expiring an address

The route of an address is exported over the first interface that the relay lookup names, whatever its
name is. The expiry looks the address itself up and takes VLAN interfaces only, while the removal on
release takes the same ones as the export. So an expired address loses its route exactly when the relay
lookup named a VLAN interface.
-/

namespace NxosExporter

open Effectful

variable {Addr : Type} [IOAddress Addr]

/-- The commands that follow when each of the requests gets the reply. -/
def answeredCommands (requests : List Request) (reply : Reply) : List Command :=
  requests.flatMap fun request => (followUps request reply).flatMap Request.cliCommands

def RowPath.interfaceNames (path : RowPath) : List String := path.ifname.filterMap id

/-- A reply with single rows whose path names `vlanIfName` and no other interface. -/
def ListsOnly (reply : Reply) (vlanIfName : String) : Prop :=
  ∃ routeLookup path, decodeRouteLookup reply = .ok routeLookup ∧ HasSingleRows routeLookup path ∧
    vlanIfName ∈ path.interfaceNames ∧ ∀ other ∈ path.interfaceNames, other = vlanIfName

/-- The export of the lease's address, answered by the relay lookup reply, routes it over `vlanIfName`. -/
def ExportedOver (leaseMgr : LeaseMgr Addr) (lease : Lease6 Addr) (relayReply : Reply) (vlanIfName : String) :
    Prop :=
  ∃ tid iaid duid relayAddr, .applyRouteIpv6 (hostSubnet lease.addr) vlanIfName ∈ answeredCommands
    (postedBy leaseMgr (exportRoute ⟨tid, iaid, duid, .iaNAInfo relayAddr lease.addr⟩).effects) relayReply

/-- `lease6_expire`, answered by the reply, withdraws the route of the address over `vlanIfName`. -/
def ExpiryRemoves (leaseMgr : LeaseMgr Addr) (lease : Lease6 Addr) (reply : Reply) (vlanIfName : String) :
    Prop :=
  .removeRouteIpv6 (hostSubnet lease.addr) vlanIfName ∈
    answeredCommands (postedBy leaseMgr (callout (handleLease6Expire lease)).effects) reply

/-- Whatever route of the address the relay lookup led to, the expiry withdraws it when the switch still
lists it alone. -/
def ExpiryFollowsExport (leaseMgr : LeaseMgr Addr) (lease : Lease6 Addr) (relayReply : Reply) : Prop :=
  ∀ vlanIfName, ExportedOver leaseMgr lease relayReply vlanIfName →
    ∀ reply, ListsOnly reply vlanIfName → ExpiryRemoves leaseMgr lease reply vlanIfName

/-- If the reply comes down to a path that names interfaces, the first of them is a VLAN. -/
def NamesVlanFirst (relayReply : Reply) : Prop :=
  ∀ routeLookup path vlanIfName, decodeRouteLookup relayReply = .ok routeLookup →
    ComesDownTo routeLookup path → path.interfaceNames.head? = some vlanIfName →
      isValidVlanName vlanIfName = true

section Lookups

variable {reply : Reply} {routeLookup : RouteLookupResponse} {path : RowPath} {vlanIfName : String}

theorem lookedUpVlan_eq_some_iff :
    lookedUpVlan reply = some vlanIfName ↔
      ∃ routeLookup, decodeRouteLookup reply = .ok routeLookup ∧
        lookupVlanIfName routeLookup = .ok vlanIfName := by
  cases hdecode : decodeRouteLookup reply with
  | ok routeLookup =>
      cases hlookup : lookupVlanIfName routeLookup <;> simp [lookedUpVlan, hdecode, hlookup]
  | throw exn => simp [lookedUpVlan, hdecode]
  | undefined => simp [lookedUpVlan, hdecode]

theorem lookedUpFuzzyVlan_eq_some_iff :
    lookedUpFuzzyVlan reply = some vlanIfName ↔
      ∃ routeLookup, decodeRouteLookup reply = .ok routeLookup ∧
        lookupFuzzyVlanIfName routeLookup = .ok vlanIfName := by
  cases hdecode : decodeRouteLookup reply with
  | ok routeLookup =>
      cases hlookup : lookupFuzzyVlanIfName routeLookup <;> simp [lookedUpFuzzyVlan, hdecode, hlookup]
  | throw exn => simp [lookedUpFuzzyVlan, hdecode]
  | undefined => simp [lookedUpFuzzyVlan, hdecode]

theorem lookupVlanIfName_eq_ok_iff :
    lookupVlanIfName routeLookup = .ok vlanIfName ↔
      ∃ path, ComesDownTo routeLookup path ∧ path.interfaceNames.head? = some vlanIfName := by
  have hhead : ∀ names : List String, names.find? (fun _ => true) = names.head? := by
    intro names
    cases names <;> simp
  rw [lookupVlanIfName, lookupIfName_eq_ok_iff]
  simp only [hhead, RowPath.interfaceNames]

theorem comesDownTo_iff_of_hasSingleRows (hsingle : HasSingleRows routeLookup path) {other : RowPath} :
    ComesDownTo routeLookup other ↔ path = other := by
  obtain ⟨vrfRow, addrfRow, prefixRow, hvrf, haddrf, htable, hpath⟩ := hsingle
  simp [ComesDownTo, hvrf, haddrf, htable, hpath]

/-- A later reply that lists one interface is used exactly when that is a VLAN. -/
theorem lookedUpFuzzyVlan_of_listsOnly (hlists : ListsOnly reply vlanIfName) :
    lookedUpFuzzyVlan reply = some vlanIfName ↔ isValidVlanName vlanIfName = true := by
  obtain ⟨routeLookup, path, hdecode, hsingle, hmem, honly⟩ := hlists
  have hlookup : lookedUpFuzzyVlan reply = some vlanIfName ↔
      path.interfaceNames.find? isValidVlanName = some vlanIfName := by
    rw [lookedUpFuzzyVlan_eq_some_iff]
    simp [hdecode, lookupFuzzyVlanIfName, lookupIfName_eq_ok_iff,
      comesDownTo_iff_of_hasSingleRows hsingle, RowPath.interfaceNames]
  rw [hlookup]
  constructor
  · exact List.find?_some
  · intro hvlan
    obtain ⟨found, hfound⟩ := Option.isSome_iff_exists.mp
      (List.find?_isSome.mpr ⟨vlanIfName, hmem, hvlan⟩)
    rw [hfound, honly found (List.mem_of_find?_eq_some hfound)]

theorem listsOnly_vlanReply (vlanIfName : String) : ListsOnly (vlanReply vlanIfName) vlanIfName := by
  refine ⟨replyOver [relayPrefix vlanIfName], pathOver vlanIfName, rfl, ?_, ?_, ?_⟩
  · exact ⟨_, _, _, rfl, rfl, rfl, rfl⟩
  · simp [RowPath.interfaceNames, pathOver]
  · simp [RowPath.interfaceNames, pathOver]

end Lookups

section Expiry

variable {leaseMgr : LeaseMgr Addr} {lease : Lease6 Addr} {reply : Reply} {vlanIfName : String}

theorem exportedOver_iff :
    ExportedOver leaseMgr lease reply vlanIfName ↔ lookedUpVlan reply = some vlanIfName := by
  have hanswered : ∀ tid iaid duid relayAddr, .applyRouteIpv6 (hostSubnet lease.addr) vlanIfName ∈
      answeredCommands (postedBy leaseMgr
        (exportRoute ⟨tid, iaid, duid, .iaNAInfo relayAddr lease.addr⟩).effects) reply ↔
      lookedUpVlan reply = some vlanIfName := by
    intro tid iaid duid relayAddr
    cases hlookedUp : lookedUpVlan reply <;>
      simp [exportRoute, answeredCommands, followUps_exportLookup, hlookedUp, Request.cliCommands,
        exportCommand, eq_comm]
  constructor
  · rintro ⟨tid, iaid, duid, relayAddr, hmem⟩
    exact (hanswered tid iaid duid relayAddr).mp hmem
  · intro hlookedUp
    exact ⟨0, lease.iaid, lease.duid, lease.addr, (hanswered _ _ _ _).mpr hlookedUp⟩

theorem expiryRemoves_iff (htype : lease.type = .typeNA) :
    ExpiryRemoves leaseMgr lease reply vlanIfName ↔ lookedUpFuzzyVlan reply = some vlanIfName := by
  cases hlookedUp : lookedUpFuzzyVlan reply <;>
    simp [ExpiryRemoves, handleLease6Expire, htype, removeRoute, answeredCommands, followUps_addressLookup,
      hlookedUp, Request.cliCommands, removalCommand, eq_comm]

/-- **Expiring an address.** The expiry of a lease withdraws the exported route of its address exactly when
the first interface that the relay lookup names is a VLAN. -/
theorem expiryFollowsExport_iff (leaseMgr : LeaseMgr Addr) (lease : Lease6 Addr) (relayReply : Reply)
    (htype : lease.type = .typeNA) :
    ExpiryFollowsExport leaseMgr lease relayReply ↔ NamesVlanFirst relayReply := by
  constructor
  · intro hfollows routeLookup path vlanIfName hdecode hdown hhead
    have hlookup : lookupVlanIfName routeLookup = .ok vlanIfName :=
      lookupVlanIfName_eq_ok_iff.mpr ⟨path, hdown, hhead⟩
    have hexported : ExportedOver leaseMgr lease relayReply vlanIfName :=
      exportedOver_iff.mpr (lookedUpVlan_eq_some_iff.mpr ⟨routeLookup, hdecode, hlookup⟩)
    have hlists := listsOnly_vlanReply vlanIfName
    have hremoves := hfollows vlanIfName hexported (vlanReply vlanIfName) hlists
    exact (lookedUpFuzzyVlan_of_listsOnly hlists).mp ((expiryRemoves_iff htype).mp hremoves)
  · intro hfirst vlanIfName hexported reply hlists
    obtain ⟨routeLookup, hdecode, hlookup⟩ := lookedUpVlan_eq_some_iff.mp (exportedOver_iff.mp hexported)
    obtain ⟨path, hdown, hhead⟩ := lookupVlanIfName_eq_ok_iff.mp hlookup
    have hvlan := hfirst routeLookup path vlanIfName hdecode hdown hhead
    exact (expiryRemoves_iff htype).mpr ((lookedUpFuzzyVlan_of_listsOnly hlists).mpr hvlan)

end Expiry

/-! A relay behind a routed port: the address is exported over it, and its expiry finds no VLAN. -/

theorem not_expiryFollowsExport_routedPort :
    ExportedOver ⟨[addressLease]⟩ addressLease (vlanReply "Ethernet1/1") "Ethernet1/1" ∧
      ListsOnly (vlanReply "Ethernet1/1") "Ethernet1/1" ∧
      ¬ ExpiryRemoves ⟨[addressLease]⟩ addressLease (vlanReply "Ethernet1/1") "Ethernet1/1" ∧
      ¬ ExpiryFollowsExport ⟨[addressLease]⟩ addressLease (vlanReply "Ethernet1/1") := by
  have hexported : ExportedOver ⟨[addressLease]⟩ addressLease (vlanReply "Ethernet1/1") "Ethernet1/1" :=
    exportedOver_iff.mpr rfl
  have hkept : ¬ ExpiryRemoves ⟨[addressLease]⟩ addressLease (vlanReply "Ethernet1/1") "Ethernet1/1" := by
    rw [expiryRemoves_iff rfl, lookedUpFuzzyVlan_of_listsOnly (listsOnly_vlanReply _)]
    decide
  exact ⟨hexported, listsOnly_vlanReply _, hkept,
    fun hfollows => hkept (hfollows _ hexported _ (listsOnly_vlanReply _))⟩

theorem expiryFollowsExport_iff_vlan :
    ExpiryFollowsExport ⟨[addressLease]⟩ addressLease (vlanReply "Vlan10") ↔
      NamesVlanFirst (vlanReply "Vlan10") :=
  expiryFollowsExport_iff ⟨[addressLease]⟩ addressLease (vlanReply "Vlan10") rfl

end NxosExporter
