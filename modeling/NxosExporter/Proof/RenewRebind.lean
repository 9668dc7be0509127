import NxosExporter.Callouts
import NxosExporter.Switch

/-!
# Whose routes a renewal withdraws

The IA_NA branch of renew and rebind withdraws the address that the query asks for whenever Kea extends
another one. The address comes from the client, so the branch keeps to the routes of the client exactly
when the query does not ask for an address of somebody else.
-/

namespace NxosExporter

variable {Addr : Type}

def requestedAddress (query : Pkt6 Addr) : Option Addr :=
  query.getOptionIANA.bind Option6IA.getOptionIAADDR

/-- The lease database assigns the address to a client with another DUID. -/
def AssignedToOther (leaseMgr : LeaseMgr Addr) (duid : Option DUID) (address : Addr) : Prop :=
  ∃ other ∈ leaseMgr.leases, other.type = .typeNA ∧ other.addr = address ∧ other.usable = true ∧
    other.duid ≠ duid

def withdrawnAddresses (effects : List (ServiceEffect Addr)) : List Addr :=
  (routesRemoved effects).filterMap fun route =>
    match route.routeInfo with
    | .iaNAInfo _ iaNAAddr | .iaNAInfoFuzzyRemove iaNAAddr | .iaNAFast _ iaNAAddr => some iaNAAddr
    | .iaPDInfo _ _ _ | .iaPDInfoFuzzyRemove _ _ => none

/-- What the callout of an IA_NA lease does to the routes of others: it withdraws no address of theirs, and
whatever the switch answers and in whatever order, their routes survive. -/
structure KeepsToOwnRoutes [IOAddress Addr] (leaseMgr : LeaseMgr Addr) (duid : Option DUID)
    (effects : List (ServiceEffect Addr)) : Prop where
  withdrawn : ∀ address ∈ withdrawnAddresses effects, ¬ AssignedToOther leaseMgr duid address
  survives : ∀ address, AssignedToOther leaseMgr duid address →
    ∀ commands, (∀ command ∈ commands, Issued (fun _ _ => True) (postedBy leaseMgr effects) command) →
      ∀ (table : RouteTable) (dst : String), (hostSubnet address, dst) ∈ table →
        (hostSubnet address, dst) ∈ runCommands table commands

/-- The query came through a relay and asks for an address, not that of the lease, which is somebody
else's. -/
def AsksForOther (leaseMgr : LeaseMgr Addr) (query : Pkt6 Addr) (lease : Lease6 Addr) : Prop :=
  query.relayInfo ≠ [] ∧ ∃ address, requestedAddress query = some address ∧ address ≠ lease.addr ∧
    AssignedToOther leaseMgr lease.duid address

section Effects

variable [DecidableEq Addr] {isRebindProcess : Bool} {leaseMgr : LeaseMgr Addr} {query : Pkt6 Addr}
  {lease : Lease6 Addr} {relayAddr address : Addr} {relays : List Addr}

theorem effects_of_not_relayed {isIANA : Bool} (hrelay : query.relayInfo = []) :
    (callout (handleRenewRebindProcess isRebindProcess leaseMgr query lease isIANA)).effects = [] := by
  simp [handleRenewRebindProcess, Pkt6.getRelay6LinkAddress, hrelay]

theorem effects_of_no_address (haddress : requestedAddress query = none) :
    (callout (handleRenewRebindProcess isRebindProcess leaseMgr query lease true)).effects = [] := by
  cases hrelay : query.relayInfo with
  | nil => exact effects_of_not_relayed hrelay
  | cons relayAddr relays =>
      rw [callout_effects, handleRenewRebindProcess_of_relayed hrelay, if_pos rfl]
      cases hoption : query.getOptionIANA with
      | none => simp [renewRebindIANA, hoption]
      | some option =>
          have hnone : option.getOptionIAADDR = none := by simpa [requestedAddress, hoption] using haddress
          simp [renewRebindIANA, hoption, hnone]

theorem effects_of_address (hrelay : query.relayInfo = relayAddr :: relays)
    (haddress : requestedAddress query = some address) :
    (callout (handleRenewRebindProcess isRebindProcess leaseMgr query lease true)).effects
      = (if address ≠ lease.addr then
          (removeRoute ⟨query.transid, lease.iaid, lease.duid, .iaNAInfo relayAddr address⟩).effects
        else []) ++
        (exportRoute ⟨query.transid, lease.iaid, lease.duid, .iaNAInfo relayAddr lease.addr⟩).effects := by
  obtain ⟨option, hoption, hIAADDR⟩ := Option.bind_eq_some_iff.mp haddress
  rw [callout_effects, handleRenewRebindProcess_of_relayed hrelay, if_pos rfl]
  by_cases hsame : address = lease.addr <;>
    simp [renewRebindIANA, hoption, hIAADDR, hsame, removeRoute, exportRoute]

theorem withdrawnAddresses_of_address (hrelay : query.relayInfo = relayAddr :: relays)
    (haddress : requestedAddress query = some address) :
    withdrawnAddresses
        (callout (handleRenewRebindProcess isRebindProcess leaseMgr query lease true)).effects
      = if address ≠ lease.addr then [address] else [] := by
  rw [effects_of_address hrelay haddress]
  by_cases hsame : address = lease.addr <;>
    simp [hsame, withdrawnAddresses, removeRoute, exportRoute, ServiceEffect.removed?]

end Effects

section Survival

variable [IOAddress Addr] {isRebindProcess : Bool} {leaseMgr : LeaseMgr Addr} {query : Pkt6 Addr}
  {lease : Lease6 Addr} {relayAddr address other : Addr} {relays : List Addr}
  {allowed : Request → Reply → Prop} {dst : String}

theorem not_issued_removal_exportLookup :
    ¬ Issued allowed [exportLookup relayAddr address] (.removeRouteIpv6 (hostSubnet other) dst) := by
  intro hissued
  obtain hlookup | ⟨reply, vlanIfName, -, -, hcommand⟩ :=
    issued_lookup followUps_exportLookup followUps_exportCommand hissued
  · simp [exportLookup, Request.cliCommands] at hlookup
  · simp [exportCommand, Request.cliCommands] at hcommand

theorem eq_of_issued_removal_removalLookup
    (hissued : Issued allowed [removalLookup relayAddr address] (.removeRouteIpv6 (hostSubnet other) dst)) :
    other = address := by
  obtain hlookup | ⟨reply, vlanIfName, -, -, hcommand⟩ :=
    issued_lookup followUps_removalLookup followUps_removalCommand hissued
  · simp [removalLookup, Request.cliCommands] at hlookup
  · simp only [removalCommand, Request.cliCommands, List.map_cons, List.map_nil, List.mem_cons,
      Command.removeRouteIpv6.injEq, reduceCtorEq, List.not_mem_nil, or_false] at hcommand
    exact hostSubnet_injective hcommand.1

variable [DecidableEq Addr]

theorem postedBy_of_address (hrelay : query.relayInfo = relayAddr :: relays)
    (haddress : requestedAddress query = some address) :
    postedBy leaseMgr (callout (handleRenewRebindProcess isRebindProcess leaseMgr query lease true)).effects
      = (if address ≠ lease.addr then [removalLookup relayAddr address] else [])
          ++ [exportLookup relayAddr lease.addr] := by
  rw [effects_of_address hrelay haddress]
  by_cases hsame : address = lease.addr <;> simp [hsame, removeRoute, exportRoute]

/-- The only routes a renewal can remove are those of the requested address. -/
theorem requestedAddress_of_issued_removal
    (hissued : Issued allowed
      (postedBy leaseMgr (callout (handleRenewRebindProcess isRebindProcess leaseMgr query lease true)).effects)
      (.removeRouteIpv6 (hostSubnet other) dst)) :
    query.relayInfo ≠ [] ∧ requestedAddress query = some other ∧ other ≠ lease.addr := by
  cases hrelay : query.relayInfo with
  | nil =>
      rw [effects_of_not_relayed hrelay] at hissued
      exact absurd hissued not_issued_nil
  | cons relayAddr relays =>
      cases haddress : requestedAddress query with
      | none =>
          rw [effects_of_no_address haddress] at hissued
          exact absurd hissued not_issued_nil
      | some address =>
          rw [postedBy_of_address hrelay haddress] at hissued
          obtain hremoval | hexport := issued_append hissued
          · by_cases hsame : address = lease.addr
            · rw [if_neg (not_not.mpr hsame)] at hremoval
              exact absurd hremoval not_issued_nil
            · rw [if_pos hsame] at hremoval
              obtain rfl := eq_of_issued_removal_removalLookup hremoval
              exact ⟨List.cons_ne_nil _ _, rfl, hsame⟩
          · exact absurd hexport not_issued_removal_exportLookup

end Survival

/-- **Renewing an address.** A renew or rebind keeps to the routes of its client exactly when the query does
not ask for an address that the lease database assigns to somebody else. -/
theorem keepsToOwnRoutes_iff [DecidableEq Addr] [IOAddress Addr] (isRebindProcess : Bool)
    (leaseMgr : LeaseMgr Addr) (query : Pkt6 Addr) (lease : Lease6 Addr) :
    KeepsToOwnRoutes leaseMgr lease.duid
        (callout (handleRenewRebindProcess isRebindProcess leaseMgr query lease true)).effects ↔
      ¬ AsksForOther leaseMgr query lease := by
  constructor
  · rintro ⟨hwithdrawn, -⟩ ⟨hrelayed, address, haddress, hne, hassigned⟩
    obtain ⟨relayAddr, relays, hrelay⟩ := List.exists_cons_of_ne_nil hrelayed
    refine hwithdrawn address ?_ hassigned
    rw [withdrawnAddresses_of_address hrelay haddress, if_pos hne]
    exact List.mem_singleton_self address
  · intro hnot
    refine ⟨fun address hmem hassigned => ?_, fun address hassigned commands hcommands table dst hroute => ?_⟩
    · cases hrelay : query.relayInfo with
      | nil =>
          rw [effects_of_not_relayed hrelay] at hmem
          cases hmem
      | cons relayAddr relays =>
          cases haddress : requestedAddress query with
          | none =>
              rw [effects_of_no_address haddress] at hmem
              cases hmem
          | some requested =>
              rw [withdrawnAddresses_of_address hrelay haddress] at hmem
              by_cases hsame : requested = lease.addr
              · simp [hsame] at hmem
              · obtain rfl : address = requested := by simpa [hsame] using hmem
                exact hnot ⟨by simp [hrelay], address, haddress, hsame, hassigned⟩
    · refine mem_runCommands_of_not_removed (fun hremoved => ?_) hroute
      obtain ⟨hrelayed, haddress, hne⟩ := requestedAddress_of_issued_removal (hcommands _ hremoved)
      exact hnot ⟨hrelayed, address, haddress, hne, hassigned⟩

/-! A client that holds one address and asks, while it renews, for the address of another client. -/

def othersAddress : Lease6 TextAddress :=
  ⟨.typeNA, otherAddress, 128, 1, some ⟨[2]⟩, some ⟨1, [11]⟩, 1, .stateDefault⟩

def renewQuery : Pkt6 TextAddress :=
  ⟨11, [linkAddress], [⟨1, [otherAddress], []⟩], []⟩

theorem not_keepsToOwnRoutes_renewQuery :
    ¬ KeepsToOwnRoutes ⟨[addressLease, othersAddress]⟩ addressLease.duid
      (callout (handleRenewRebindProcess false ⟨[addressLease, othersAddress]⟩ renewQuery addressLease
        true)).effects := by
  intro hkeeps
  exact hkeeps.withdrawn otherAddress (by decide)
    ⟨othersAddress, by decide, by decide, by decide, by decide, by decide⟩

end NxosExporter
