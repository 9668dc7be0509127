import NxosExporter.Proof.RenewRebind

/-!
# The route of a delegated prefix

Only the callouts of the prefix touch its route, and none of them knows the next hop of the route that is
on the switch. The route follows the address of the client exactly when there is nothing to follow: every
callout of the prefix finds one and the same address, and the first of them exports the route.
-/

namespace NxosExporter

variable {Addr : Type}

inductive CalloutKind where
  | lease6Select
  | lease6Renew
  | lease6Rebind
  deriving DecidableEq, Repr

/-- A callout for one lease; `iaNA` is the argument that tells an IA_NA from an IA_PD. -/
structure LeaseCallout (Addr : Type) where
  kind : CalloutKind
  query : Pkt6 Addr
  lease : Lease6 Addr
  iaNA : IAArgument Addr
  deriving DecidableEq, Repr

def LeaseCallout.handler [DecidableEq Addr] (event : LeaseCallout Addr) (leaseMgr : LeaseMgr Addr) :
    ServiceProg Addr Unit :=
  match event.kind with
  | .lease6Select => handleLease6Select leaseMgr event.query event.lease false
  | .lease6Renew => handleLease6Renew leaseMgr event.query event.lease event.iaNA
  | .lease6Rebind => handleLease6Rebind leaseMgr event.query event.lease event.iaNA

structure PrefixSystem (Addr : Type) where
  leaseMgr : LeaseMgr Addr
  table : RouteTable
  deriving DecidableEq

/-- One callout: its requests complete in order, and then Kea updates the database. -/
def PrefixSystem.step [DecidableEq Addr] [IOAddress Addr] (switch : Switch) (system : PrefixSystem Addr)
    (event : LeaseCallout Addr) : PrefixSystem Addr where
  leaseMgr := system.leaseMgr.assignLease event.lease
  table := switch.settled system.table
    (postedBy system.leaseMgr (callout (event.handler system.leaseMgr)).effects)

structure PrefixClient (Addr : Type) where
  duid : DUID
  iaid : UInt32
  iaPDPrefix : Addr
  iaPDLength : UInt8

def requestedPrefix (query : Pkt6 Addr) : Option (Option6IAPrefix Addr) :=
  query.getOptionIAPD.bind Option6IA.getOptionIAPREFIX

/-- A callout of the client: for its IA_NA lease, whatever the address, or for its prefix, which the query
does not ask to change. -/
structure PrefixClient.Concerns (client : PrefixClient Addr) (event : LeaseCallout Addr) : Prop where
  duid : event.lease.duid = some client.duid
  iaid : event.lease.iaid = client.iaid
  lease : (event.lease.type = .typeNA ∧ (event.kind ≠ .lease6Select → isIANA event.iaNA = true)) ∨
    (event.lease.type = .typePD ∧ event.lease.addr = client.iaPDPrefix ∧
      event.lease.prefixlen = client.iaPDLength ∧
      (event.kind ≠ .lease6Select → isIANA event.iaNA = false ∧
        ∀ iaPrefix, requestedPrefix event.query = some iaPrefix → iaPrefix.address = client.iaPDPrefix))

/-- The address that the callout of a prefix finds in the lease database, when it gets to look for it. -/
def LeaseCallout.found (event : LeaseCallout Addr) (leaseMgr : LeaseMgr Addr) : Option Addr :=
  if event.lease.type = .typePD ∧ event.query.relayInfo ≠ [] ∧
      (event.kind = .lease6Select ∨ (requestedPrefix event.query).isSome) then
    (findIANALeaseByDUIDIAID leaseMgr event.lease.duid event.lease.iaid).map Lease6.addr
  else
    none

theorem LeaseCallout.typePD_of_found {event : LeaseCallout Addr} {leaseMgr : LeaseMgr Addr} {address : Addr}
    (hfound : event.found leaseMgr = some address) : event.lease.type = .typePD := by
  unfold LeaseCallout.found at hfound
  split at hfound
  · rename_i hcondition
    exact hcondition.1
  · cases hfound

def findings (leaseMgr : LeaseMgr Addr) : List (LeaseCallout Addr) → List (CalloutKind × Addr)
  | [] => []
  | event :: rest =>
      ((event.found leaseMgr).map fun address => (event.kind, address)).toList
        ++ findings (leaseMgr.assignLease event.lease) rest

section Routes

variable [IOAddress Addr]

def PrefixClient.route (client : PrefixClient Addr) (address : Addr) : String × String :=
  (prefixSubnet client.iaPDPrefix client.iaPDLength, IOAddress.toText address)

/-- The prefix is routed over the address and over no other. -/
def PrefixClient.RoutedOver (client : PrefixClient Addr) (table : RouteTable) (address : Addr) : Prop :=
  client.route address ∈ table ∧ ∀ other, other ≠ address → client.route other ∉ table

/-- One address is found throughout. At the start no other address has a route, and it has one itself or
is found first by a callout that exports. -/
def PrefixClient.Steady (client : PrefixClient Addr) (table : RouteTable) : List (CalloutKind × Addr) → Prop
  | [] => True
  | first :: later =>
      (first.1 ≠ .lease6Renew ∨ client.route first.2 ∈ table) ∧
      (∀ other, other ≠ first.2 → client.route other ∉ table) ∧
      ∀ finding ∈ later, finding.2 = first.2

/-- After each callout of the prefix that finds an address, the prefix is routed over it and over no
other. -/
def RouteFollowsAddress [DecidableEq Addr] (switch : Switch) (client : PrefixClient Addr) :
    PrefixSystem Addr → List (LeaseCallout Addr) → Prop
  | _, [] => True
  | system, event :: rest =>
      (∀ address, event.found system.leaseMgr = some address →
        client.RoutedOver (system.step switch event).table address) ∧
      RouteFollowsAddress switch client (system.step switch event) rest

/-- No interface that the switch names in a lookup is spelled like an address. -/
def Switch.NamesNoAddress (switch : Switch) (Addr : Type) [IOAddress Addr] : Prop :=
  ∀ table request vlanIfName, lookedUpVlan (switch.reply table request) = some vlanIfName →
    ∀ address : Addr, vlanIfName ≠ IOAddress.toText address

end Routes

/-! ### What the callouts post -/

def IsAddressLookup (Addr : Type) [IOAddress Addr] (request : Request) : Prop :=
  ∃ relayAddr address : Addr,
    request = exportLookup relayAddr address ∨ request = removalLookup relayAddr address

section Posted

variable [DecidableEq Addr] [IOAddress Addr] {client : PrefixClient Addr} {event : LeaseCallout Addr}
  {leaseMgr : LeaseMgr Addr} {request : Request}

theorem isAddressLookup_of_renewRebind {isRebindProcess : Bool} {query : Pkt6 Addr} {lease : Lease6 Addr}
    (hmem : request ∈ postedBy leaseMgr
      (callout (handleRenewRebindProcess isRebindProcess leaseMgr query lease true)).effects) :
    IsAddressLookup Addr request := by
  cases hrelay : query.relayInfo with
  | nil =>
      rw [effects_of_not_relayed hrelay] at hmem
      cases hmem
  | cons relayAddr relays =>
      cases haddress : requestedAddress query with
      | none =>
          rw [effects_of_no_address haddress] at hmem
          cases hmem
      | some address =>
          rw [postedBy_of_address hrelay haddress, List.mem_append, List.mem_ite_nil_right, List.mem_singleton,
            List.mem_singleton] at hmem
          obtain ⟨-, hremoval⟩ | hexport := hmem
          · exact ⟨relayAddr, address, .inr hremoval⟩
          · exact ⟨relayAddr, lease.addr, .inl hexport⟩

theorem isAddressLookup_of_addressEvent (htype : event.lease.type = .typeNA)
    (hiaNA : event.kind ≠ .lease6Select → isIANA event.iaNA = true)
    (hmem : request ∈ postedBy leaseMgr (callout (event.handler leaseMgr)).effects) :
    IsAddressLookup Addr request := by
  unfold LeaseCallout.handler at hmem
  cases hkind : event.kind with
  | lease6Select =>
      simp only [hkind] at hmem
      cases hrelay : event.query.relayInfo with
      | nil => simp [handleLease6Select, Pkt6.getRelay6LinkAddress, hrelay] at hmem
      | cons relayAddr relays =>
          have hexport : request = exportLookup relayAddr event.lease.addr := by
            simpa [handleLease6Select, Pkt6.getRelay6LinkAddress, hrelay, htype, exportRoute] using hmem
          exact ⟨relayAddr, event.lease.addr, .inl hexport⟩
  | lease6Renew =>
      simp only [hkind, handleLease6Renew, hiaNA (by simp [hkind])] at hmem
      exact isAddressLookup_of_renewRebind hmem
  | lease6Rebind =>
      simp only [hkind, handleLease6Rebind, hiaNA (by simp [hkind])] at hmem
      exact isAddressLookup_of_renewRebind hmem

theorem postedBy_renewRebind_prefix (isRebindProcess : Bool) (leaseMgr : LeaseMgr Addr)
    {query : Pkt6 Addr} {lease : Lease6 Addr} {relayAddr : Addr} {relays : List Addr}
    (hrelay : query.relayInfo = relayAddr :: relays)
    (hsame : ∀ iaPrefix, requestedPrefix query = some iaPrefix → iaPrefix.address = lease.addr) :
    postedBy leaseMgr (callout (handleRenewRebindProcess isRebindProcess leaseMgr query lease false)).effects
      = match requestedPrefix query, findIANALeaseByDUIDIAID leaseMgr lease.duid lease.iaid with
        | some _, some leaseIANA =>
            if isRebindProcess then [exportPrefix leaseIANA.addr lease.addr lease.prefixlen] else []
        | _, _ => [] := by
  rw [callout_effects, handleRenewRebindProcess_of_relayed hrelay, if_neg Bool.false_ne_true]
  cases hoption : query.getOptionIAPD with
  | none =>
      have hrequested : requestedPrefix query = none := by simp [requestedPrefix, hoption]
      simp [renewRebindIAPD, hoption, hrequested]
  | some option =>
      cases hiaPrefix : option.getOptionIAPREFIX with
      | none =>
          have hrequested : requestedPrefix query = none := by simp [requestedPrefix, hoption, hiaPrefix]
          simp [renewRebindIAPD, hoption, hiaPrefix, hrequested]
      | some iaPrefix =>
          have hrequested : requestedPrefix query = some iaPrefix := by
            simp [requestedPrefix, hoption, hiaPrefix]
          have haddress := hsame iaPrefix hrequested
          cases hfind : findIANALeaseByDUIDIAID leaseMgr lease.duid lease.iaid with
          | none =>
              cases hduid : lease.duid <;> rw [hduid] at hfind <;>
                simp [renewRebindIAPD, hoption, hiaPrefix, hrequested, hfind, hduid]
          | some leaseIANA =>
              cases isRebindProcess <;>
                simp [renewRebindIAPD, hoption, hiaPrefix, hrequested, hfind, haddress, exportRoute]

theorem postedBy_prefixEvent (hconcerns : client.Concerns event) (htype : event.lease.type = .typePD) :
    postedBy leaseMgr (callout (event.handler leaseMgr)).effects
      = match event.found leaseMgr with
        | some address =>
            if event.kind = .lease6Renew then []
            else [exportPrefix address client.iaPDPrefix client.iaPDLength]
        | none => [] := by
  obtain ⟨htypeNA, -⟩ | ⟨-, haddr, hlength, hquery⟩ := hconcerns.lease
  · rw [htype] at htypeNA
    cases htypeNA
  · cases hrelay : event.query.relayInfo with
    | nil =>
        have hfound : event.found leaseMgr = none := by simp [LeaseCallout.found, hrelay]
        cases hkind : event.kind with
        | lease6Select =>
            simp [LeaseCallout.handler, hkind, hfound, handleLease6Select, Pkt6.getRelay6LinkAddress, hrelay]
        | lease6Renew =>
            simp only [LeaseCallout.handler, hkind, handleLease6Renew, effects_of_not_relayed hrelay, hfound]
            rfl
        | lease6Rebind =>
            simp only [LeaseCallout.handler, hkind, handleLease6Rebind, effects_of_not_relayed hrelay, hfound]
            rfl
    | cons relayAddr relays =>
        cases hkind : event.kind with
        | lease6Select =>
            cases hfind : findIANALeaseByDUIDIAID leaseMgr event.lease.duid event.lease.iaid <;>
              simp [LeaseCallout.handler, hkind, LeaseCallout.found, handleLease6Select,
                Pkt6.getRelay6LinkAddress, hrelay, htype, hfind, exportRoute, haddr, hlength]
        | lease6Renew =>
            obtain ⟨hiaNA, hsame⟩ := hquery (by simp [hkind])
            have hposted := postedBy_renewRebind_prefix false leaseMgr hrelay (haddr ▸ hsame)
            simp only [LeaseCallout.handler, hkind, handleLease6Renew, hiaNA, hposted]
            cases hrequested : requestedPrefix event.query <;>
              cases hfind : findIANALeaseByDUIDIAID leaseMgr event.lease.duid event.lease.iaid <;>
                simp [LeaseCallout.found, hrelay, htype, hkind, hrequested, hfind]
        | lease6Rebind =>
            obtain ⟨hiaNA, hsame⟩ := hquery (by simp [hkind])
            have hposted := postedBy_renewRebind_prefix true leaseMgr hrelay (haddr ▸ hsame)
            simp only [LeaseCallout.handler, hkind, handleLease6Rebind, hiaNA, hposted]
            cases hrequested : requestedPrefix event.query <;>
              cases hfind : findIANALeaseByDUIDIAID leaseMgr event.lease.duid event.lease.iaid <;>
                simp [LeaseCallout.found, hrelay, htype, hkind, hrequested, hfind, haddr, hlength]

end Posted

/-! ### What the callouts do to the route of the prefix -/

section Steps

variable [IOAddress Addr] {switch : Switch} {client : PrefixClient Addr} {event : LeaseCallout Addr}
  {system : PrefixSystem Addr} {table table' : RouteTable} {address : Addr}
  {found : List (CalloutKind × Addr)}

theorem PrefixClient.route_injective (client : PrefixClient Addr) {left right : Addr}
    (heq : client.route left = client.route right) : left = right :=
  IOAddress.toText_injective (Prod.mk.inj heq).2

theorem not_names_of_addressLookup {request : Request} {command : Command}
    (hswitch : switch.NamesNoAddress Addr) (hrequest : IsAddressLookup Addr request)
    (hissued : Issued switch.Answers [request] command) :
    ¬ command.Names (client.route address) := by
  obtain ⟨relayAddr, iaNAAddr, rfl | rfl⟩ := hrequest
  · obtain hlookup | ⟨reply, vlanIfName, ⟨table, rfl⟩, hvlan, hcommand⟩ :=
      issued_lookup followUps_exportLookup followUps_exportCommand hissued
    · obtain rfl : command = _ := by simpa [exportLookup, Request.cliCommands] using hlookup
      simp [Command.Names]
    · obtain rfl : command = _ := by simpa [exportCommand, Request.cliCommands] using hcommand
      simp [Command.Names, PrefixClient.route, hswitch _ _ _ hvlan address]
  · obtain hlookup | ⟨reply, vlanIfName, ⟨table, rfl⟩, hvlan, hcommand⟩ :=
      issued_lookup followUps_removalLookup followUps_removalCommand hissued
    · obtain rfl : command = _ := by simpa [removalLookup, Request.cliCommands] using hlookup
      simp [Command.Names]
    · obtain rfl | rfl : command = _ ∨ command = _ := by
        simpa [removalCommand, Request.cliCommands] using hcommand
      · simp [Command.Names, PrefixClient.route, hswitch _ _ _ hvlan address]
      · simp [Command.Names]

theorem PrefixClient.steady_congr
    (hroutes : ∀ address, client.route address ∈ table ↔ client.route address ∈ table') :
    client.Steady table found ↔ client.Steady table' found := by
  cases found with
  | nil => rfl
  | cons first later => simp only [PrefixClient.Steady, hroutes]

theorem PrefixClient.RoutedOver.steady_iff (hover : client.RoutedOver table address) :
    client.Steady table found ↔ ∀ finding ∈ found, finding.2 = address := by
  obtain ⟨hroute, honly⟩ := hover
  cases found with
  | nil => simp [PrefixClient.Steady]
  | cons first later =>
      rw [List.forall_mem_cons]
      constructor
      · rintro ⟨-, hothers, hlater⟩
        have hfirst : first.2 = address := by
          by_contra hne
          exact hothers address (Ne.symm hne) hroute
        exact ⟨hfirst, fun finding hmem => (hlater finding hmem).trans hfirst⟩
      · rintro ⟨rfl, hlater⟩
        exact ⟨.inr hroute, honly, hlater⟩

theorem PrefixClient.routedOver_insert_iff :
    client.RoutedOver (insert (client.route address) table) address ↔
      ∀ other, other ≠ address → client.route other ∉ table := by
  rw [PrefixClient.RoutedOver]
  constructor
  · rintro ⟨-, honly⟩ other hne hmem
    exact honly other hne (Finset.mem_insert_of_mem hmem)
  · intro honly
    refine ⟨Finset.mem_insert_self _ _, fun other hne hmem => ?_⟩
    obtain heq | hmem := Finset.mem_insert.mp hmem
    · exact hne (client.route_injective heq)
    · exact honly other hne hmem

variable [DecidableEq Addr]

theorem mem_step_of_addressEvent (hswitch : switch.NamesNoAddress Addr) (htype : event.lease.type = .typeNA)
    (hiaNA : event.kind ≠ .lease6Select → isIANA event.iaNA = true) :
    client.route address ∈ (system.step switch event).table ↔ client.route address ∈ system.table := by
  refine mem_settled_of_not_named fun command hissued => ?_
  obtain ⟨request, hmem, hsingle⟩ := hissued.exists_request
  exact not_names_of_addressLookup hswitch (isAddressLookup_of_addressEvent htype hiaNA hmem) hsingle

/-- The callouts of the prefix add the route they find, except renew, and never remove one. -/
theorem step_table_of_prefixEvent (hconcerns : client.Concerns event) (htype : event.lease.type = .typePD) :
    (system.step switch event).table
      = match event.found system.leaseMgr with
        | some address =>
            if event.kind = .lease6Renew then system.table else insert (client.route address) system.table
        | none => system.table := by
  rw [PrefixSystem.step, postedBy_prefixEvent hconcerns htype]
  cases hfound : event.found system.leaseMgr with
  | none => rfl
  | some address =>
      by_cases hkind : event.kind = .lease6Renew
      · simp only [if_pos hkind]
        rfl
      · simp only [if_neg hkind]
        have hnone : ∀ request ∈ [exportPrefix address client.iaPDPrefix client.iaPDLength], ∀ reply,
            followUps request reply = [] := by
          intro request hrequest reply
          rw [List.mem_singleton.mp hrequest, followUps_exportPrefix]
        rw [settled_of_no_followUps hnone]
        rfl

theorem mem_step_of_not_found (hswitch : switch.NamesNoAddress Addr) (hconcerns : client.Concerns event)
    (hfound : event.found system.leaseMgr = none) :
    client.route address ∈ (system.step switch event).table ↔ client.route address ∈ system.table := by
  obtain ⟨htype, hiaNA⟩ | ⟨htype, -⟩ := hconcerns.lease
  · exact mem_step_of_addressEvent hswitch htype hiaNA
  · rw [step_table_of_prefixEvent hconcerns htype, hfound]

theorem steady_cons_iff (hconcerns : client.Concerns event)
    (hfound : event.found system.leaseMgr = some address) (later : List (CalloutKind × Addr)) :
    client.RoutedOver (system.step switch event).table address ∧
        client.Steady (system.step switch event).table later ↔
      client.Steady system.table ((event.kind, address) :: later) := by
  have htable : (system.step switch event).table
      = if event.kind = .lease6Renew then system.table
        else insert (client.route address) system.table := by
    rw [step_table_of_prefixEvent hconcerns (LeaseCallout.typePD_of_found hfound), hfound]
  rw [and_congr_right fun hover => hover.steady_iff, htable]
  by_cases hrenew : event.kind = .lease6Renew
  · -- renew changes nothing, so the route has to be there
    rw [if_pos hrenew]
    simp only [PrefixClient.Steady, PrefixClient.RoutedOver, hrenew, ne_eq, not_true_eq_false, false_or,
      and_assoc]
  · -- the others add the route, so no other one may be there
    rw [if_neg hrenew, PrefixClient.routedOver_insert_iff]
    simp only [PrefixClient.Steady, ne_eq, hrenew, not_false_eq_true, true_or, true_and]

end Steps

/-- **The route of a delegated prefix.** Over a run of callouts of one client, the prefix is routed over
the address found, and over no other, exactly when one address is found throughout, no other address had a
route at the start, and the route is there at the start or is added by the first callout that finds it. -/
theorem routeFollowsAddress_iff [DecidableEq Addr] [IOAddress Addr] (switch : Switch)
    (client : PrefixClient Addr) (system : PrefixSystem Addr) (events : List (LeaseCallout Addr))
    (hswitch : switch.NamesNoAddress Addr) (hconcerns : ∀ event ∈ events, client.Concerns event) :
    RouteFollowsAddress switch client system events ↔
      client.Steady system.table (findings system.leaseMgr events) := by
  induction events generalizing system with
  | nil => simp [RouteFollowsAddress, findings, PrefixClient.Steady]
  | cons event rest ih =>
      have hevent := hconcerns event (by simp)
      have hrest := ih (system.step switch event) fun other hother => hconcerns other (by simp [hother])
      rw [RouteFollowsAddress, hrest, findings]
      cases hfound : event.found system.leaseMgr with
      | none =>
          have hroutes : ∀ address, client.route address ∈ (system.step switch event).table ↔
              client.route address ∈ system.table :=
            fun _ => mem_step_of_not_found hswitch hevent hfound
          rw [PrefixClient.steady_congr hroutes]
          simp [PrefixSystem.step]
      | some address =>
          have hfindings : (Option.map (fun found => (event.kind, found)) (some address)).toList
                ++ findings (system.leaseMgr.assignLease event.lease) rest
              = (event.kind, address) :: findings (system.leaseMgr.assignLease event.lease) rest := rfl
          rw [hfindings, ← steady_cons_iff hevent hfound]
          refine and_congr_left fun _ => ⟨fun hall => hall address rfl, fun hover found heq => ?_⟩
          rwa [← Option.some.inj heq]

/-! A client that renews: its address lease moves to another address, and the renewal of the prefix finds
the new address while the route of the prefix still leads over the old one. -/

def movingClient : PrefixClient TextAddress := ⟨⟨[1]⟩, 1, delegatedPrefix, 64⟩

def addressCallout (kind : CalloutKind) (address : TextAddress) : LeaseCallout TextAddress where
  kind := kind
  query := ⟨11, [linkAddress], [⟨1, [clientAddress], []⟩], []⟩
  lease := { addressLease with addr := address }
  iaNA := some (some ⟨1, [clientAddress], []⟩)

def prefixCallout (kind : CalloutKind) : LeaseCallout TextAddress where
  kind := kind
  query := ⟨12, [linkAddress], [], [⟨1, [], [⟨delegatedPrefix, 64⟩]⟩]⟩
  lease := prefixLease
  iaNA := some none

def emptySystem : PrefixSystem TextAddress := ⟨⟨[]⟩, ∅⟩

def movingRun : List (LeaseCallout TextAddress) :=
  [addressCallout .lease6Select clientAddress, prefixCallout .lease6Select,
    addressCallout .lease6Renew otherAddress, prefixCallout .lease6Renew]

theorem oneVlan_namesNoAddress : oneVlan.NamesNoAddress TextAddress := by
  intro table request vlanIfName hlookup address heq
  obtain rfl : "Vlan10" = vlanIfName := Option.some.inj hlookup
  have hcolon := address.colon
  rw [show address.text = "Vlan10" from heq.symm] at hcolon
  revert hcolon
  decide

theorem concerns_addressCallout (kind : CalloutKind) (address : TextAddress) :
    movingClient.Concerns (addressCallout kind address) :=
  ⟨rfl, rfl, .inl ⟨rfl, fun _ => rfl⟩⟩

theorem concerns_prefixCallout (kind : CalloutKind) : movingClient.Concerns (prefixCallout kind) := by
  refine ⟨rfl, rfl, .inr ⟨rfl, rfl, rfl, fun _ => ⟨rfl, fun iaPrefix hrequested => ?_⟩⟩⟩
  rw [← Option.some.inj hrequested]
  rfl

theorem not_routeFollowsAddress_movingRun :
    (∀ event ∈ movingRun, movingClient.Concerns event) ∧
      ¬ RouteFollowsAddress oneVlan movingClient emptySystem movingRun := by
  constructor
  · simp [movingRun, concerns_addressCallout, concerns_prefixCallout]
  · intro hfollows
    obtain ⟨hroute, -⟩ := hfollows.2.2.2.1 otherAddress (by decide)
    revert hroute
    decide

theorem routeFollowsAddress_beforeMoving :
    RouteFollowsAddress oneVlan movingClient emptySystem (movingRun.take 3) := by
  refine (routeFollowsAddress_iff oneVlan movingClient emptySystem _ oneVlan_namesNoAddress ?_).mpr ?_
  · simp [movingRun, concerns_addressCallout, concerns_prefixCallout]
  · have hfindings : findings emptySystem.leaseMgr (movingRun.take 3)
        = [(.lease6Select, clientAddress)] := by decide
    rw [hfindings]
    refine ⟨.inl (by decide), fun other _ => Finset.notMem_empty _, fun _ hmem => ?_⟩
    exact absurd hmem List.not_mem_nil

end NxosExporter
