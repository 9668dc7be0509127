import NxosExporter.Lib.UpdatePool
import NxosExporter.RequestPool
import NxosExporter.Proof.RenewRebind

/-!
# The routes mirror the leases

Every callout of an IA_NA lease adds or removes addresses, and each of its requests is a stage of one of
these updates: the lookup of the relay, or of the address itself when the lease expires, and then the command
for the interface that the lookup finds. So while each callout is answered before the next, the host routes of
the switch are those of the addresses whose last update was an addition.
-/

namespace NxosExporter

open WorkPool UpdateTable Nlohmann

variable {Addr : Type}

/-! ### What the switch answers -/

/-- The reply decodes to one vrf with one addrf, one prefix and one path, whose interface it names. -/
inductive ReturnsPath (reply : Reply) (ifName : String) : Prop
  | mk {vrfNameOut addrf ipprefix : String} {attached : Bool} {ipnexthop : List (Option String)}
      (hdecode : decodeRouteLookup reply = .ok
        ⟨[⟨vrfNameOut, [⟨addrf, some [RowPrefix.mk ipprefix attached [⟨ipnexthop, [some ifName]⟩]]⟩]⟩]⟩)

/-- The reply has an empty `TABLE_vrf`: it decodes to no row, or the table is null or has no members. -/
inductive ReturnsNoRoute (reply : Reply) : Prop
  | decoded (hdecode : decodeRouteLookup reply = .ok ⟨[]⟩)
  | member {first : JsonRpcResponse} {rest : List JsonRpcResponse} {body table : Json}
      (hresponse : reply.response = some (first :: rest)) (hbody : first.result.find? "body" = some body)
      (htable : body.find? "TABLE_vrf" = some table) (hempty : table.size = 0)

/-- The switch knows the interface of each relay, and a host route of an address as long as it has it. -/
structure Switch.KnowsRoutes [IOAddress Addr] (switch : Switch) (relay : Addr → Addr)
    (vlan : Addr → String) (addresses : Set Addr) : Prop where
  vlanName : ∀ address ∈ addresses, isValidVlanName (vlan address) = true
  relayLookup : ∀ address ∈ addresses, ∀ table request,
    request.cliCommands = [.mappingVlanAddrToVlanId (hostSubnet (relay address))] →
      ReturnsPath (switch.reply table request) (vlan address)
  routed : ∀ address ∈ addresses, ∀ table request,
    request.cliCommands = [.mappingVlanAddrToVlanId (hostSubnet address)] →
      (∀ dst, (hostSubnet address, dst) ∈ table ↔ dst = vlan address) →
        ReturnsPath (switch.reply table request) (vlan address)
  unrouted : ∀ address ∈ addresses, ∀ table request,
    request.cliCommands = [.mappingVlanAddrToVlanId (hostSubnet address)] →
      (∀ dst, (hostSubnet address, dst) ∉ table) → ReturnsNoRoute (switch.reply table request)

section Lookups

variable {reply : Reply} {ifName : String}

theorem lookedUpVlan_of_returnsPath (hreturns : ReturnsPath reply ifName) :
    lookedUpVlan reply = some ifName := by
  obtain ⟨hdecode⟩ := hreturns
  rw [lookedUpVlan, hdecode]
  rfl

theorem lookedUpFuzzyVlan_of_returnsPath (hreturns : ReturnsPath reply ifName)
    (hvlan : isValidVlanName ifName = true) : lookedUpFuzzyVlan reply = some ifName := by
  obtain ⟨hdecode⟩ := hreturns
  rw [lookedUpFuzzyVlan, hdecode]
  simp [lookupFuzzyVlanIfName, lookupIfName, singleAddrf, prefixGuard, acceptedEntry, hvlan]

/-- No member of an empty table is found. -/
theorem routeLookup_of_emptyTable {body table : Json} (htable : body.find? "TABLE_vrf" = some table)
    (hempty : table.size = 0) : ∃ error, RouteLookupResponse.fromJson body = .throw error := by
  have hrow : ∃ error, RowVrf.fromJson table.deduced = .throw error := by
    cases table with
    | array items =>
        obtain rfl : items = [] := List.length_eq_zero_iff.mp hempty
        exact ⟨.typeError 304, rfl⟩
    | object members =>
        obtain rfl : members = [] := List.length_eq_zero_iff.mp hempty
        exact ⟨.outOfRange 403, rfl⟩
    | null => exact ⟨.typeError 304, rfl⟩
    | _ => cases hempty
  obtain ⟨error, hthrow⟩ := hrow
  exact ⟨error, by simp [RouteLookupResponse.fromJson, htable, decodeCopiedTable_eq, hthrow]⟩

theorem lookedUpFuzzyVlan_of_returnsNoRoute (hreturns : ReturnsNoRoute reply) :
    lookedUpFuzzyVlan reply = none := by
  cases hreturns with
  | decoded hdecode =>
      rw [lookedUpFuzzyVlan, hdecode]
      rfl
  | @member first rest body table hresponse hbody htable hempty =>
      obtain ⟨error, hthrow⟩ := routeLookup_of_emptyTable htable hempty
      have hfront : frontBody (first :: rest) = .ok body := by
        simp [frontBody, Json.index_of_find? hbody]
      have hdecode : decodeRouteLookup reply = .throw (.json error) := by
        simp [decodeRouteLookup, hresponse, hfront, hthrow]
      rw [lookedUpFuzzyVlan, hdecode]

end Lookups

/-! ### The stages of an update -/

section Stages

variable [IOAddress Addr] {relay : Addr → Addr} {vlan : Addr → String} {addresses : Set Addr}

/-- The requests that an update of an address goes through. -/
inductive AddressStage (relay : Addr → Addr) (vlan : Addr → String) (addresses : Set Addr) :
    Update Addr → Request → Prop
  | exportLookup {address : Addr} (hmem : address ∈ addresses) :
      AddressStage relay vlan addresses (.add address) (exportLookup (relay address) address)
  | exportCommand {address : Addr} (hmem : address ∈ addresses) :
      AddressStage relay vlan addresses (.add address) (exportCommand address (vlan address))
  | removalLookup {address : Addr} (hmem : address ∈ addresses) :
      AddressStage relay vlan addresses (.remove address) (removalLookup (relay address) address)
  | addressLookup {address : Addr} (hmem : address ∈ addresses) :
      AddressStage relay vlan addresses (.remove address) (addressLookup address)
  | removalCommand {address : Addr} (hmem : address ∈ addresses) :
      AddressStage relay vlan addresses (.remove address) (removalCommand address (vlan address))

/-- The host route that a request is about. -/
def Request.hostRoute (request : Request) : Option String :=
  match request.handler with
  | .lookupAddress _ _ (.applyIANA iaNAAddrStr _ _) | .lookupAddress _ _ (.removeIANA iaNAAddrStr _ _)
  | .lookupAddress _ _ (.fuzzyRemoveIANA iaNAAddrStr _) => some iaNAAddrStr
  | .routeApply _ src _ | .routeRemove _ src _ => some src
  | .lookupAddress _ _ (.fuzzyRemoveIAPD _ _) | .hwAddrMapping => none

theorem hostRoute_of_addressStage {update : Update Addr} {request : Request}
    (hstage : AddressStage relay vlan addresses update request) :
    request.hostRoute = some (hostSubnet update.entry) := by
  cases hstage <;> rfl

/-- The host routes of the switch as a table of addresses, each over its own interface. -/
def addressCarrier (relay : Addr → Addr) (vlan : Addr → String) (addresses : Set Addr) :
    Carrier Request RouteTable Addr where
  present table address := (hostSubnet address, vlan address) ∈ table
  StageOf := AddressStage relay vlan addresses
  Inv table := ∀ address dst, (hostSubnet address, dst) ∈ table → dst = vlan address
  entry_eq hstage hstage' := hostSubnet_injective (Option.some.inj
    ((hostRoute_of_addressStage hstage).symm.trans (hostRoute_of_addressStage hstage')))

variable [DecidableEq Addr] {switch : Switch} {table : RouteTable} {address : Addr}

theorem follow_eq_singleton {lookup command : Request}
    (hnext : followUps lookup (switch.reply (lookup.run table) lookup) = [command]) :
    (calloutWork Addr switch).follow lookup table = {command} :=
  congrArg _ hnext

theorem follow_eq_zero {request : Request}
    (hnext : followUps request (switch.reply (request.run table) request) = []) :
    (calloutWork Addr switch).follow request table = 0 :=
  congrArg _ hnext

/-- A lookup changes nothing and leads to the command. -/
theorem runs_of_lookup {update : Update Addr} {lookup command : Request}
    (hinv : (addressCarrier relay vlan addresses).Inv table) (hrun : lookup.run table = table)
    (hnext : followUps lookup (switch.reply (lookup.run table) lookup) = [command])
    (hstage : AddressStage relay vlan addresses update command) :
    (addressCarrier relay vlan addresses).Runs (calloutWork Addr switch) update lookup table where
  inv := by
    have hsame : (calloutWork Addr switch).run lookup table = table := hrun
    rwa [hsame]
  follow next hmem := by
    rw [follow_eq_singleton hnext, Multiset.mem_singleton] at hmem
    exact hmem ▸ hstage
  frame key _ := by
    have hsame : (calloutWork Addr switch).run lookup table = table := hrun
    rw [hsame]
  last hnone := by
    rw [follow_eq_singleton hnext] at hnone
    exact absurd hnone (Multiset.singleton_ne_zero command)

/-- A request that makes its update and has nothing to follow. -/
theorem runs_of_last {update : Update Addr} {request : Request}
    (hinv : (addressCarrier relay vlan addresses).Inv table)
    (hnext : followUps request (switch.reply (request.run table) request) = [])
    (hothers : ∀ route, route ≠ (hostSubnet update.entry, vlan update.entry) →
      (route ∈ request.run table ↔ route ∈ table))
    (hmade : (hostSubnet update.entry, vlan update.entry) ∈ request.run table ↔ update = .add update.entry) :
    (addressCarrier relay vlan addresses).Runs (calloutWork Addr switch) update request table where
  inv other dst hmem := by
    by_cases hroute : (hostSubnet other, dst) = (hostSubnet update.entry, vlan update.entry)
    · obtain ⟨hsubnet, rfl⟩ := Prod.ext_iff.mp hroute
      rw [hostSubnet_injective hsubnet]
    · exact hinv other dst ((hothers _ hroute).mp hmem)
  follow next hmem := by
    rw [follow_eq_zero hnext] at hmem
    exact absurd hmem (Multiset.notMem_zero next)
  frame key hne := by
    refine hothers _ fun hroute => hne ?_
    exact hostSubnet_injective (Prod.ext_iff.mp hroute).1
  last _ := hmade

theorem runs_exportCommand (hinv : (addressCarrier relay vlan addresses).Inv table) :
    (addressCarrier relay vlan addresses).Runs (calloutWork Addr switch) (.add address)
      (exportCommand address (vlan address)) table := by
  have hrun : (exportCommand address (vlan address)).run table
      = insert (hostSubnet address, vlan address) table := rfl
  refine runs_of_last hinv (followUps_exportCommand _ _) (fun route hne => ?_) ?_
  · rw [hrun]
    exact Finset.mem_insert.trans (or_iff_right hne)
  · rw [hrun]
    exact iff_of_true (Finset.mem_insert_self _ table) rfl

theorem runs_removalCommand (hinv : (addressCarrier relay vlan addresses).Inv table) :
    (addressCarrier relay vlan addresses).Runs (calloutWork Addr switch) (.remove address)
      (removalCommand address (vlan address)) table := by
  have hrun : (removalCommand address (vlan address)).run table
      = table.erase (hostSubnet address, vlan address) := rfl
  refine runs_of_last hinv (followUps_removalCommand _ _) (fun route hne => ?_) ?_
  · rw [hrun]
    exact Finset.mem_erase.trans (and_iff_right hne)
  · rw [hrun]
    exact iff_of_false (Finset.notMem_erase _ table) nofun

/-- The lookup of an address finds its interface while it has a route, and otherwise there is nothing to
remove. -/
theorem runs_addressLookup (hswitch : switch.KnowsRoutes relay vlan addresses) (hmem : address ∈ addresses)
    (hinv : (addressCarrier relay vlan addresses).Inv table) :
    (addressCarrier relay vlan addresses).Runs (calloutWork Addr switch) (.remove address)
      (addressLookup address) table := by
  have hrun : (addressLookup address).run table = table := rfl
  by_cases hroute : (hostSubnet address, vlan address) ∈ table
  · have hreturns : ReturnsPath (switch.reply table (addressLookup address)) (vlan address) := by
      refine hswitch.routed address hmem table _ rfl fun dst => ⟨hinv address dst, ?_⟩
      rintro rfl
      exact hroute
    refine runs_of_lookup hinv hrun ?_ (.removalCommand hmem)
    rw [followUps_addressLookup, hrun,
      lookedUpFuzzyVlan_of_returnsPath hreturns (hswitch.vlanName address hmem)]
    rfl
  · have hreturns : ReturnsNoRoute (switch.reply table (addressLookup address)) := by
      refine hswitch.unrouted address hmem table _ rfl fun dst hdst => hroute ?_
      exact hinv address dst hdst ▸ hdst
    refine runs_of_last hinv ?_ (fun route _ => Iff.rfl) (iff_of_false hroute nofun)
    rw [followUps_addressLookup, hrun, lookedUpFuzzyVlan_of_returnsNoRoute hreturns]
    rfl

theorem addressCarrier_works (hswitch : switch.KnowsRoutes relay vlan addresses) :
    (addressCarrier relay vlan addresses).Works (calloutWork Addr switch) := by
  intro update request table hstage hinv
  cases hstage with
  | @exportLookup address hmem =>
      have hlead : switch.LeadsTo (exportLookup (relay address) address) _ := leadsTo_exportLookup
        fun table => lookedUpVlan_of_returnsPath (hswitch.relayLookup address hmem table _ rfl)
      exact runs_of_lookup hinv (hlead.run table) (hlead.next _) (.exportCommand hmem)
  | @removalLookup address hmem =>
      have hlead : switch.LeadsTo (removalLookup (relay address) address) _ := leadsTo_removalLookup
        fun table => lookedUpVlan_of_returnsPath (hswitch.relayLookup address hmem table _ rfl)
      exact runs_of_lookup hinv (hlead.run table) (hlead.next _) (.removalCommand hmem)
  | addressLookup hmem => exact runs_addressLookup hswitch hmem hinv
  | exportCommand hmem => exact runs_exportCommand hinv
  | removalCommand hmem => exact runs_removalCommand hinv

end Stages

/-! ### The callouts -/

section Callouts

variable [DecidableEq Addr]

/-- A renewed lease is exported, and the address that the query carries is removed if it is another one. -/
def renewalOf (query : Pkt6 Addr) (lease : Lease6 Addr) : List (Update Addr) :=
  ((requestedAddress query).toList.filter fun old => old ≠ lease.addr).map .remove ++ [.add lease.addr]

/-- What a callout of an IA_NA lease means for the addresses that have a route. -/
def CalloutEvent.updates : CalloutEvent Addr → List (Update Addr)
  | .lease6Select _ _ lease fakeAllocation => if fakeAllocation then [] else [.add lease.addr]
  | .lease6Renew _ query lease _ | .lease6Rebind _ query lease _ => renewalOf query lease
  | .lease6Release _ _ lease | .lease6Decline _ _ lease | .lease6Expire _ lease => [.remove lease.addr]

/-- The callout is for an IA_NA lease of one of the addresses, reached through the relay of the address; a
renewed lease shares the relay with the address that the query carries. -/
def CalloutEvent.Through (relay : Addr → Addr) (addresses : Set Addr) : CalloutEvent Addr → Prop
  | .lease6Select _ query lease _ | .lease6Release _ query lease | .lease6Decline _ query lease =>
      lease.type = .typeNA ∧ lease.addr ∈ addresses ∧ query.relayInfo.head? = some (relay lease.addr)
  | .lease6Renew _ query lease iaNA | .lease6Rebind _ query lease iaNA =>
      lease.type = .typeNA ∧ lease.addr ∈ addresses ∧ query.relayInfo.head? = some (relay lease.addr) ∧
        isIANA iaNA = true ∧
          ∃ old ∈ addresses, requestedAddress query = some old ∧ relay old = relay lease.addr
  | .lease6Expire _ lease => lease.type = .typeNA ∧ lease.addr ∈ addresses

variable [IOAddress Addr] {relay : Addr → Addr} {vlan : Addr → String} {addresses : Set Addr}
  {leaseMgr : LeaseMgr Addr} {query : Pkt6 Addr} {lease : Lease6 Addr} {event : CalloutEvent Addr}

theorem covers_renewal {isRebindProcess : Bool} {iaNA : IAArgument Addr} (hIANA : isIANA iaNA = true)
    (hlease : lease.addr ∈ addresses) (hrelay : query.relayInfo.head? = some (relay lease.addr))
    {old : Addr} (hold : old ∈ addresses) (hrequested : requestedAddress query = some old)
    (hsame : relay old = relay lease.addr) :
    (addressCarrier relay vlan addresses).Covers (renewalOf query lease)
      (postedBy leaseMgr (callout (handleRenewRebindProcess isRebindProcess leaseMgr query lease
        (isIANA iaNA))).effects) := by
  obtain ⟨relays, hrelayInfo⟩ := List.head?_eq_some_iff.mp hrelay
  have hexport : AddressStage relay vlan addresses (.add lease.addr)
      (exportLookup (relay lease.addr) lease.addr) := .exportLookup hlease
  rw [hIANA, postedBy_of_address hrelayInfo hrequested, renewalOf, hrequested]
  by_cases heq : old = lease.addr
  · rw [if_neg (not_not.mpr heq), heq]
    simpa using Carrier.covers_singleton hexport
  · have hremoval : AddressStage relay vlan addresses (.remove old)
        (removalLookup (relay lease.addr) old) := hsame ▸ .removalLookup hold
    have hupdates : ((some old).toList.filter fun old => old ≠ lease.addr).map Update.remove
        ++ [.add lease.addr] = [.remove old] ++ [.add lease.addr] := by
      simp [heq]
    rw [if_pos heq, hupdates]
    have hentries : (Update.add lease.addr).entry ≠ (Update.remove old).entry := Ne.symm heq
    exact (Carrier.covers_singleton hremoval).append (Carrier.covers_singleton hexport)
      (by simpa using hentries)

/-- The requests of a callout are the first stages of its updates. -/
theorem covers_posted (hthrough : event.Through relay addresses) :
    (addressCarrier relay vlan addresses).Covers event.updates event.posted := by
  cases event with
  | lease6Select leaseMgr query lease fakeAllocation =>
      obtain ⟨htype, hmem, hrelay⟩ := hthrough
      rw [CalloutEvent.posted, postedBy_lease6Select htype hrelay, CalloutEvent.updates]
      cases fakeAllocation with
      | true => exact ⟨List.nodup_nil, by simp, by simp⟩
      | false => exact Carrier.covers_singleton (.exportLookup hmem)
  | lease6Renew leaseMgr query lease iaNA =>
      obtain ⟨-, hmem, hrelay, hIANA, old, hold, hrequested, hsame⟩ := hthrough
      exact covers_renewal hIANA hmem hrelay hold hrequested hsame
  | lease6Rebind leaseMgr query lease iaNA =>
      obtain ⟨-, hmem, hrelay, hIANA, old, hold, hrequested, hsame⟩ := hthrough
      exact covers_renewal hIANA hmem hrelay hold hrequested hsame
  | lease6Release leaseMgr query lease =>
      obtain ⟨htype, hmem, hrelay⟩ := hthrough
      rw [CalloutEvent.posted, handleLease6Release, postedBy_leaseEnd htype hrelay]
      exact Carrier.covers_singleton (.removalLookup hmem)
  | lease6Decline leaseMgr query lease =>
      obtain ⟨htype, hmem, hrelay⟩ := hthrough
      rw [CalloutEvent.posted, handleLease6Decline, postedBy_leaseEnd htype hrelay]
      exact Carrier.covers_singleton (.removalLookup hmem)
  | lease6Expire leaseMgr lease =>
      obtain ⟨htype, hmem⟩ := hthrough
      have hposted : (CalloutEvent.lease6Expire leaseMgr lease).posted = [addressLookup lease.addr] := by
        simp [CalloutEvent.posted, handleLease6Expire, htype, removeRoute]
      rw [hposted]
      exact Carrier.covers_singleton (.addressLookup hmem)

end Callouts

/-- **The routes mirror the leases.** After any sequence of callouts, each answered before the next, the host
routes of the switch are those of the addresses whose last update was an addition, each over its own
interface. -/
theorem hostRoutes_mirror_leases [DecidableEq Addr] [IOAddress Addr] {relay : Addr → Addr}
    {vlan : Addr → String} {addresses : Set Addr} {switch : Switch} {pool pool' : RequestPool}
    {events : List (CalloutEvent Addr)}
    (hswitch : switch.KnowsRoutes relay vlan addresses) (hidle : pool.Idle)
    (hempty : ∀ (address : Addr) dst, (hostSubnet address, dst) ∉ pool.shared)
    (hevents : ∀ event ∈ events, event.Through relay addresses)
    (hrun : Sequential (calloutWork Addr switch) pool events pool') (address : Addr) (dst : String) :
    (hostSubnet address, dst) ∈ pool'.shared ↔
      dst = vlan address ∧
        lastUpdate (events.flatMap CalloutEvent.updates) address = some (.add address) := by
  have hshows : (addressCarrier relay vlan addresses).Shows ∅ pool.shared :=
    ⟨fun address dst hmem => absurd hmem (hempty address dst),
      fun address => iff_of_false (hempty address _) (Finset.notMem_empty address)⟩
  obtain ⟨-, hinv, hpresent⟩ := hrun.shows (addressCarrier_works hswitch) hidle hshows
    fun event hmem => covers_posted (hevents event hmem)
  rw [← mem_applyAll_empty_iff, ← hpresent address]
  constructor
  · intro hmem
    obtain rfl := hinv address dst hmem
    exact ⟨rfl, hmem⟩
  · rintro ⟨rfl, hmem⟩
    exact hmem

/-! A client that gets an address, moves to another one while it renews, and lets that one expire. -/

def noRouteReply : Reply where
  response := some [⟨.int 1, .object [("body", .object [("TABLE_vrf", .object [])])]⟩]
  responseError := .success
  statusCode := 200
  jsonRpcException := none

/-- A switch with one relay, behind `Vlan10`. -/
def oneRelay : Switch where
  reply table request :=
    match request.cliCommands with
    | [.mappingVlanAddrToVlanId subnet] =>
        if subnet = hostSubnet linkAddress ∨ (subnet, "Vlan10") ∈ table then vlanReply "Vlan10" else noRouteReply
    | _ => noRouteReply

theorem returnsPath_vlanReply (vlanIfName : String) : ReturnsPath (vlanReply vlanIfName) vlanIfName :=
  ⟨rfl⟩

theorem oneRelay_knowsRoutes :
    oneRelay.KnowsRoutes (fun _ => linkAddress) (fun _ => "Vlan10") {clientAddress, otherAddress} where
  vlanName _ _ := rfl
  relayLookup address _ table request hcommands := by
    simp only [oneRelay, hcommands, true_or, if_true]
    exact returnsPath_vlanReply "Vlan10"
  routed address _ table request hcommands hroute := by
    have hmem : (hostSubnet address, "Vlan10") ∈ table := (hroute "Vlan10").mpr rfl
    simp only [oneRelay, hcommands, hmem, or_true, if_true]
    exact returnsPath_vlanReply "Vlan10"
  unrouted address hmem table request hcommands hnone := by
    have hrelay : hostSubnet address ≠ hostSubnet linkAddress := by
      intro heq
      rw [hostSubnet_injective heq] at hmem
      revert hmem
      decide
    simp only [oneRelay, hcommands, hrelay, hnone "Vlan10", or_self, if_false]
    exact .member rfl rfl rfl rfl

def formerLease : Lease6 TextAddress := { addressLease with addr := otherAddress }

def movingAddress : List (CalloutEvent TextAddress) :=
  [.lease6Select ⟨[]⟩ renewQuery formerLease false,
    .lease6Renew ⟨[formerLease]⟩ renewQuery addressLease (some renewQuery.getOptionIANA),
    .lease6Expire ⟨[addressLease]⟩ addressLease]

theorem hostRoutes_mirror_leases_movingAddress : ∃ pool',
    Sequential (calloutWork TextAddress oneRelay) (RequestPool.create 4 ∅) movingAddress pool' ∧
      ∀ address dst, (hostSubnet address, dst) ∈ pool'.shared ↔
        dst = "Vlan10" ∧
          lastUpdate (movingAddress.flatMap CalloutEvent.updates) address = some (.add address) := by
  have hsize : 0 < (RequestPool.create 4 ∅).size := Nat.succ_pos 3
  obtain ⟨pool', hrun, -⟩ := exists_sequential (switchWork_staged _ oneRelay) hsize movingAddress
  have hselect : (CalloutEvent.lease6Select ⟨[]⟩ renewQuery formerLease false).Through
      (fun _ => linkAddress) {clientAddress, otherAddress} := ⟨rfl, .inr rfl, rfl⟩
  have hrenew : (CalloutEvent.lease6Renew ⟨[formerLease]⟩ renewQuery addressLease
      (some renewQuery.getOptionIANA)).Through (fun _ => linkAddress) {clientAddress, otherAddress} :=
    ⟨rfl, .inl rfl, rfl, rfl, otherAddress, .inr rfl, rfl, rfl⟩
  have hexpire : (CalloutEvent.lease6Expire ⟨[addressLease]⟩ addressLease).Through
      (fun _ => linkAddress) {clientAddress, otherAddress} := ⟨rfl, .inl rfl⟩
  have hevents : ∀ event ∈ movingAddress,
      event.Through (fun _ => linkAddress) {clientAddress, otherAddress} :=
    List.forall_mem_cons.mpr ⟨hselect, List.forall_mem_cons.mpr ⟨hrenew, List.forall_mem_singleton.mpr hexpire⟩⟩
  exact ⟨pool', hrun, hostRoutes_mirror_leases oneRelay_knowsRoutes ⟨rfl, rfl⟩
    (fun _ _ => Finset.notMem_empty _) hevents hrun⟩

end NxosExporter
