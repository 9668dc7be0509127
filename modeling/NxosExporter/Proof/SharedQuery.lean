import NxosExporter.Proof.RenewRebind

/-!
# Several addresses in one message

Kea runs the renew or rebind callout once for each lease, but the IA_NA branch always reads the first IA_NA
of the query. So each callout withdraws the address in the first option unless its own lease has that
address, and only the last callout decides about it.
-/

namespace NxosExporter

open UpdateTable

variable {Addr : Type}

def OwnOptionCarries (query : Pkt6 Addr) (lease : Lease6 Addr) (address : Addr) : Prop :=
  ∃ option ∈ query.iaNA, option.iaid = lease.iaid ∧ address ∈ option.iaaddr

/-- Kea renews one lease for each IA_NA of the query, and each option carries at most one address. -/
structure RenewsEach (query : Pkt6 Addr) (leases : List (Lease6 Addr)) : Prop where
  distinct : (query.iaNA.map Option6IA.iaid).Nodup
  single : ∀ option ∈ query.iaNA, option.iaaddr.length ≤ 1
  own : leases.map Lease6.iaid = query.iaNA.map Option6IA.iaid
  addresses : ∀ lease ∈ leases, lease.type = .typeNA

section Callouts

variable [DecidableEq Addr]

/-- The effects of the callout for one lease of the message, over the database of that moment. -/
def renewalEffects (isRebindProcess : Bool) (leaseMgrAt : Lease6 Addr → LeaseMgr Addr) (query : Pkt6 Addr)
    (lease : Lease6 Addr) : List (ServiceEffect Addr) :=
  (callout (handleRenewRebindProcess isRebindProcess (leaseMgrAt lease) query lease true)).effects

/-- Without a relay or an address to read, the callouts do nothing. -/
theorem exists_address_of_exported {isRebindProcess : Bool} {leaseMgrAt : Lease6 Addr → LeaseMgr Addr}
    {query : Pkt6 Addr} {lease : Lease6 Addr} {route : RouteExport Addr}
    (hsent : route ∈ routesSent (renewalEffects isRebindProcess leaseMgrAt query lease)) :
    query.relayInfo ≠ [] ∧ ∃ address, requestedAddress query = some address := by
  refine ⟨fun hrelay => ?_, Option.ne_none_iff_exists'.mp fun haddress => ?_⟩
  · rw [renewalEffects, effects_of_not_relayed hrelay] at hsent
    cases hsent
  · rw [renewalEffects, effects_of_no_address haddress] at hsent
    cases hsent

variable [IOAddress Addr]

/-- The routes after the callouts of a message, the requests of each answered before the next. -/
def afterCallouts (switch : Switch) (isRebindProcess : Bool) (leaseMgrAt : Lease6 Addr → LeaseMgr Addr)
    (query : Pkt6 Addr) (table : RouteTable) (leases : List (Lease6 Addr)) : RouteTable :=
  leases.foldl (fun table lease => switch.settled table
    (postedBy (leaseMgrAt lease) (renewalEffects isRebindProcess leaseMgrAt query lease))) table

/-- The switch answers the lookups of the first relay of the query with one interface. -/
def FindsRelay (switch : Switch) (query : Pkt6 Addr) (vlanIfName : String) : Prop :=
  ∀ relayAddr ∈ query.relayInfo.head?, ∀ table request,
    request.cliCommands = [.mappingVlanAddrToVlanId (hostSubnet relayAddr)] →
      lookedUpVlan (switch.reply table request) = some vlanIfName

structure RenewedApart (isRebindProcess : Bool) (leaseMgrAt : Lease6 Addr → LeaseMgr Addr)
    (query : Pkt6 Addr) (leases : List (Lease6 Addr)) : Prop where
  withdrawn : ∀ lease ∈ leases,
    ∀ address ∈ withdrawnAddresses (renewalEffects isRebindProcess leaseMgrAt query lease),
      OwnOptionCarries query lease address
  exported : ∀ lease ∈ leases, ∃ relayAddr,
    ⟨query.transid, lease.iaid, lease.duid, .iaNAInfo relayAddr lease.addr⟩ ∈
      routesSent (renewalEffects isRebindProcess leaseMgrAt query lease)
  routed : ∀ (switch : Switch) (vlanIfName : String), FindsRelay switch query vlanIfName →
    ∀ table, ∀ lease ∈ leases, (hostSubnet lease.addr, vlanIfName) ∈
      afterCallouts switch isRebindProcess leaseMgrAt query table leases

end Callouts

/-- The message came through a relay and its first IA_NA carries an address that every lease either has or
finds in its own option; and if a lease has it, so does the last. -/
def FirstOptionServesAll (query : Pkt6 Addr) (leases : List (Lease6 Addr)) : Prop :=
  query.relayInfo ≠ [] ∧ ∃ address, requestedAddress query = some address ∧
    (∀ lease ∈ leases, lease.addr = address ∨ OwnOptionCarries query lease address) ∧
    ((∃ lease ∈ leases, lease.addr = address) → ∃ last ∈ leases.getLast?, last.addr = address)

section Table

variable [DecidableEq Addr] [IOAddress Addr] {isRebindProcess : Bool}
  {leaseMgrAt : Lease6 Addr → LeaseMgr Addr} {query : Pkt6 Addr} {lease : Lease6 Addr}
  {leases : List (Lease6 Addr)} {relayAddr address : Addr} {relays : List Addr} {switch : Switch}
  {vlanIfName : String} {table : RouteTable}

/-- What the callout of one lease does to the routes. -/
def renewalUpdates (vlanIfName : String) (address : Addr) (lease : Lease6 Addr) :
    List (Update (String × String)) :=
  (if address ≠ lease.addr then [.remove (hostSubnet address, vlanIfName)] else [])
    ++ [.add (hostSubnet lease.addr, vlanIfName)]

theorem settled_renewal (hrelay : query.relayInfo = relayAddr :: relays)
    (haddress : requestedAddress query = some address) (hfinds : FindsRelay switch query vlanIfName) :
    switch.settled table (postedBy (leaseMgrAt lease) (renewalEffects isRebindProcess leaseMgrAt query lease))
      = applyAll table (renewalUpdates vlanIfName address lease) := by
  have hvlan : ∀ request, request.cliCommands = [.mappingVlanAddrToVlanId (hostSubnet relayAddr)] →
      ∀ table, lookedUpVlan (switch.reply table request) = some vlanIfName :=
    fun request hcommands table => hfinds relayAddr (by simp [hrelay]) table request hcommands
  have hexport := leadsTo_exportLookup (hvlan (exportLookup relayAddr lease.addr) rfl)
  have hremoval := leadsTo_removalLookup (hvlan (removalLookup relayAddr address) rfl)
  have hexports : ∀ pair ∈ [(exportLookup relayAddr lease.addr, exportCommand lease.addr vlanIfName)],
      switch.LeadsTo pair.1 pair.2 := List.forall_mem_singleton.mpr hexport
  rw [renewalEffects, postedBy_of_address hrelay haddress, renewalUpdates]
  by_cases hsame : address = lease.addr
  · rw [if_neg (not_not.mpr hsame), if_neg (not_not.mpr hsame)]
    exact settled_of_lookups hexports
  · rw [if_pos hsame, if_pos hsame]
    have hpairs : ∀ pair ∈ (removalLookup relayAddr address, removalCommand address vlanIfName) ::
        [(exportLookup relayAddr lease.addr, exportCommand lease.addr vlanIfName)],
          switch.LeadsTo pair.1 pair.2 := List.forall_mem_cons.mpr ⟨hremoval, hexports⟩
    exact settled_of_lookups hpairs

theorem afterCallouts_eq (hrelay : query.relayInfo = relayAddr :: relays)
    (haddress : requestedAddress query = some address) (hfinds : FindsRelay switch query vlanIfName) :
    afterCallouts switch isRebindProcess leaseMgrAt query table leases
      = applyAll table (leases.flatMap (renewalUpdates vlanIfName address)) := by
  induction leases generalizing table with
  | nil => rfl
  | cons lease rest ih =>
      rw [List.flatMap_cons, applyAll_append, ← settled_renewal hrelay haddress hfinds, ← ih]
      rfl

theorem mem_renewalUpdates {update : Update (String × String)}
    (hupdate : update ∈ leases.flatMap (renewalUpdates vlanIfName address)) :
    update = .remove (hostSubnet address, vlanIfName) ∨
      ∃ lease ∈ leases, update = .add (hostSubnet lease.addr, vlanIfName) := by
  obtain ⟨lease, hlease, hmem⟩ := List.mem_flatMap.mp hupdate
  rw [renewalUpdates, List.mem_append, List.mem_ite_nil_right, List.mem_singleton, List.mem_singleton] at hmem
  obtain ⟨-, hremoval⟩ | hexport := hmem
  · exact .inl hremoval
  · exact .inr ⟨lease, hlease, hexport⟩

/-- Any address but the one in the first option keeps the route that its callout exported. -/
theorem mem_applyAll_renewal_of_ne (hlease : lease ∈ leases) (hne : lease.addr ≠ address) :
    (hostSubnet lease.addr, vlanIfName) ∈
      applyAll table (leases.flatMap (renewalUpdates vlanIfName address)) := by
  refine mem_applyAll_of_added (List.mem_flatMap.mpr ⟨lease, hlease, ?_⟩) (fun update hupdate => ?_) table
  · exact List.mem_append_right _ (List.mem_singleton_self _)
  · obtain rfl | ⟨other, -, rfl⟩ := mem_renewalUpdates hupdate
    · intro heq
      exact hne (hostSubnet_injective (Prod.ext_iff.mp (Update.remove.inj heq)).1).symm
    · intro heq
      cases heq

/-- The last callout decides about the address in the first option. -/
theorem mem_applyAll_renewal_iff {last : Lease6 Addr} (hlast : leases.getLast? = some last) :
    (hostSubnet address, vlanIfName) ∈
        applyAll table (leases.flatMap (renewalUpdates vlanIfName address)) ↔
      last.addr = address := by
  obtain ⟨before, rfl⟩ := List.getLast?_eq_some_iff.mp hlast
  rw [List.flatMap_append, applyAll_append, List.flatMap_singleton, renewalUpdates]
  by_cases hsame : address = last.addr
  · subst hsame
    simp [Update.apply]
  · have hentry : hostSubnet address ≠ hostSubnet last.addr := fun heq => hsame (hostSubnet_injective heq)
    simp [hsame, Update.apply, hentry, Ne.symm hsame]

end Table

section Main

variable [DecidableEq Addr] [IOAddress Addr] {isRebindProcess : Bool}
  {leaseMgrAt : Lease6 Addr → LeaseMgr Addr} {query : Pkt6 Addr} {leases : List (Lease6 Addr)}

theorem renewedApart_of_firstOptionServesAll (hserves : FirstOptionServesAll query leases) :
    RenewedApart isRebindProcess leaseMgrAt query leases := by
  obtain ⟨hrelayed, address, haddress, hown, hlast⟩ := hserves
  obtain ⟨relayAddr, relays, hrelay⟩ := List.exists_cons_of_ne_nil hrelayed
  refine ⟨fun lease hlease withdrawn hwithdrawn => ?_, fun lease _ => ⟨relayAddr, ?_⟩,
    fun switch vlanIfName hfinds table lease hlease => ?_⟩
  · rw [renewalEffects, withdrawnAddresses_of_address hrelay haddress] at hwithdrawn
    by_cases hsame : address = lease.addr
    · simp [hsame] at hwithdrawn
    · obtain rfl : withdrawn = address := by simpa [hsame] using hwithdrawn
      exact (hown lease hlease).resolve_left (Ne.symm hsame)
  · rw [renewalEffects, effects_of_address hrelay haddress, routesSent_append]
    exact List.mem_append_right _ (by simp [exportRoute, ServiceEffect.sent?])
  · rw [afterCallouts_eq hrelay haddress hfinds]
    by_cases hsame : lease.addr = address
    · obtain ⟨last, hgetLast, hlastAddr⟩ := hlast ⟨lease, hlease, hsame⟩
      rw [hsame]
      exact (mem_applyAll_renewal_iff hgetLast).mpr hlastAddr
    · exact mem_applyAll_renewal_of_ne hlease hsame

omit [DecidableEq Addr] in
theorem findsRelay_oneVlan (query : Pkt6 Addr) : FindsRelay oneVlan query "Vlan10" := by
  intro relayAddr _ table request _
  rfl

theorem firstOptionServesAll_of_renewedApart (hleases : leases ≠ [])
    (hapart : RenewedApart isRebindProcess leaseMgrAt query leases) : FirstOptionServesAll query leases := by
  obtain ⟨last, hlast⟩ := Option.ne_none_iff_exists'.mp (mt List.getLast?_eq_none_iff.mp hleases)
  obtain ⟨_, hsent⟩ := hapart.exported last (List.mem_of_getLast? hlast)
  obtain ⟨hrelayed, address, haddress⟩ := exists_address_of_exported hsent
  obtain ⟨relayAddr, relays, hrelay⟩ := List.exists_cons_of_ne_nil hrelayed
  refine ⟨hrelayed, address, haddress, fun lease hlease => ?_, ?_⟩
  · by_cases hsame : lease.addr = address
    · exact .inl hsame
    · refine .inr (hapart.withdrawn lease hlease address ?_)
      rw [renewalEffects, withdrawnAddresses_of_address hrelay haddress, if_pos (Ne.symm hsame)]
      exact List.mem_singleton_self address
  · rintro ⟨lease, hlease, rfl⟩
    have hrouted := hapart.routed oneVlan "Vlan10" (findsRelay_oneVlan query) ∅ lease hlease
    rw [afterCallouts_eq hrelay haddress (findsRelay_oneVlan query), mem_applyAll_renewal_iff hlast]
      at hrouted
    exact ⟨last, hlast, hrouted⟩

end Main

/-- **Several addresses in one message.** The callouts of a message leave the addresses of each other alone
and give every renewed address its route exactly when there is no lease to renew or the address in the first
IA_NA serves all the leases. -/
theorem renewedApart_iff [DecidableEq Addr] [IOAddress Addr] (isRebindProcess : Bool)
    (leaseMgrAt : Lease6 Addr → LeaseMgr Addr) (query : Pkt6 Addr) (leases : List (Lease6 Addr)) :
    RenewedApart isRebindProcess leaseMgrAt query leases ↔
      leases = [] ∨ FirstOptionServesAll query leases := by
  constructor
  · intro hapart
    by_cases hleases : leases = []
    · exact .inl hleases
    · exact .inr (firstOptionServesAll_of_renewedApart hleases hapart)
  · rintro (rfl | hserves)
    · exact ⟨fun _ hmem => absurd hmem List.not_mem_nil, fun _ hmem => absurd hmem List.not_mem_nil,
        fun _ _ _ _ _ hmem => absurd hmem List.not_mem_nil⟩
    · exact renewedApart_of_firstOptionServesAll hserves

/-! A client that renews two addresses in one message, each with its own option. -/

def secondLease : Lease6 TextAddress :=
  ⟨.typeNA, otherAddress, 128, 2, some ⟨[1]⟩, some ⟨1, [10]⟩, 1, .stateDefault⟩

def twoAddressQuery : Pkt6 TextAddress :=
  ⟨12, [linkAddress], [⟨1, [clientAddress], []⟩, ⟨2, [otherAddress], []⟩], []⟩

theorem not_renewedApart_twoAddressQuery :
    RenewsEach twoAddressQuery [addressLease, secondLease] ∧
      ¬ RenewedApart false (fun _ => ⟨[addressLease, secondLease]⟩) twoAddressQuery
        [addressLease, secondLease] := by
  refine ⟨⟨by decide, by decide, by decide, by decide⟩, fun hapart => ?_⟩
  obtain ⟨option, hoption, hiaid, hcarries⟩ :=
    hapart.withdrawn secondLease (by decide) clientAddress (by decide)
  revert option
  decide

end NxosExporter
