import NxosExporter.Proof.Expire
import NxosExporter.Proof.LeaseEnd
import NxosExporter.Proof.PrefixRoute

/-!
# Changing a delegated prefix

A renewal that extends another prefix than the one asked for withdraws the old route and exports the new one.
It compares the prefixes without their lengths, and the route it withdraws names the relay as next hop, where
the export named the address of the client.
-/

namespace NxosExporter

variable {Addr : Type}

def exports (commands : List Command) : List (String × String) :=
  commands.filterMap fun
    | .applyRouteIpv6 srcSubnet dstAddr => some (srcSubnet, dstAddr)
    | _ => none

/-- Of all routes exactly the old one is removed, and exactly the new one is added. -/
structure ReplacesRoute (commands : List Command) (old new : String × String) : Prop where
  removed : removals commands = [old]
  exported : exports commands = [new]

/-- The lease as it was when it still had the prefix that the query asks for. -/
def Lease6.withPrefix (lease : Lease6 Addr) (iaPrefix : Option6IAPrefix Addr) : Lease6 Addr :=
  { lease with addr := iaPrefix.address, prefixlen := iaPrefix.length }

section Commands

variable [DecidableEq Addr] {isRebindProcess : Bool} {leaseMgr : LeaseMgr Addr} {query : Pkt6 Addr}
  {lease leaseIANA : Lease6 Addr} {relayAddr : Addr} {relays : List Addr} {iaPrefix : Option6IAPrefix Addr}

theorem handleRenewRebindProcess_prefix (hrelay : query.relayInfo = relayAddr :: relays)
    (hrequested : requestedPrefix query = some iaPrefix)
    (hfind : findIANALeaseByDUIDIAID leaseMgr lease.duid lease.iaid = some leaseIANA) :
    handleRenewRebindProcess isRebindProcess leaseMgr query lease false
      = if iaPrefix.address ≠ lease.addr then do
          removeRoute ⟨query.transid, lease.iaid, lease.duid,
            .iaPDInfo relayAddr iaPrefix.address iaPrefix.length⟩
          exportRoute ⟨query.transid, lease.iaid, lease.duid,
            .iaPDInfo leaseIANA.addr lease.addr lease.prefixlen⟩
        else if isRebindProcess then
          exportRoute ⟨query.transid, lease.iaid, lease.duid,
            .iaPDInfo leaseIANA.addr lease.addr lease.prefixlen⟩
        else pure () := by
  obtain ⟨option, hoption, hiaPrefix⟩ := Option.bind_eq_some_iff.mp hrequested
  rw [handleRenewRebindProcess_of_relayed hrelay, if_neg Bool.false_ne_true]
  simp only [renewRebindIAPD, hoption, hiaPrefix, hfind, Effectful.Outcome.deref_some,
    Effectful.Prog.lift_ok_bind]

theorem commandsPosted_prefixChange [IOAddress Addr] (isRebindProcess : Bool)
    (hrelay : query.relayInfo = relayAddr :: relays) (hrequested : requestedPrefix query = some iaPrefix)
    (hfind : findIANALeaseByDUIDIAID leaseMgr lease.duid lease.iaid = some leaseIANA) :
    commandsPosted leaseMgr
        (callout (handleRenewRebindProcess isRebindProcess leaseMgr query lease false)).effects
      = if iaPrefix.address ≠ lease.addr then
          [.removeRouteIpv6 (prefixSubnet iaPrefix.address iaPrefix.length) (IOAddress.toText relayAddr),
            .applyRouteIpv6 (prefixSubnet lease.addr lease.prefixlen) (IOAddress.toText leaseIANA.addr)]
        else if isRebindProcess then
          [.applyRouteIpv6 (prefixSubnet lease.addr lease.prefixlen) (IOAddress.toText leaseIANA.addr)]
        else [] := by
  rw [callout_effects, handleRenewRebindProcess_prefix hrelay hrequested hfind]
  by_cases hsame : iaPrefix.address = lease.addr
  · cases isRebindProcess <;>
      simp [hsame, exportRoute, commandsPosted, exportPrefix, Request.cliCommands]
  · simp [hsame, removeRoute, exportRoute, commandsPosted, removalPrefix, exportPrefix, Request.cliCommands]

end Commands

/-- **Changing a prefix.** An earlier export over the IA_NA lease installed the route of the old prefix over its
address. A renew or rebind replaces that route by the one of the new prefix exactly when the prefixes differ,
not only in length, and the relay has the address of the client. -/
theorem replacesRoute_iff [DecidableEq Addr] [IOAddress Addr] (isRebindProcess : Bool)
    (leaseMgr : LeaseMgr Addr) (query : Pkt6 Addr) (lease leaseIANA : Lease6 Addr) (relayAddr : Addr)
    (iaPrefix : Option6IAPrefix Addr) (htype : lease.type = .typePD)
    (hrelay : query.relayInfo.head? = some relayAddr) (hrequested : requestedPrefix query = some iaPrefix)
    (hfind : findIANALeaseByDUIDIAID leaseMgr lease.duid lease.iaid = some leaseIANA) :
    (∀ (atExport : LeaseMgr Addr) (S D : String),
      findIANALeaseByDUIDIAID atExport lease.duid lease.iaid = some leaseIANA →
      PrefixExported atExport (lease.withPrefix iaPrefix) S D →
      S = prefixSubnet iaPrefix.address iaPrefix.length ∧ D = IOAddress.toText leaseIANA.addr) ∧
    (ReplacesRoute
        (commandsPosted leaseMgr
          (callout (handleRenewRebindProcess isRebindProcess leaseMgr query lease false)).effects)
        (prefixSubnet iaPrefix.address iaPrefix.length, IOAddress.toText leaseIANA.addr)
        (prefixSubnet lease.addr lease.prefixlen, IOAddress.toText leaseIANA.addr) ↔
      iaPrefix.address ≠ lease.addr ∧ relayAddr = leaseIANA.addr) := by
  obtain ⟨relays, hrelayInfo⟩ := List.head?_eq_some_iff.mp hrelay
  have hcommands := commandsPosted_prefixChange isRebindProcess hrelayInfo hrequested hfind
  have htypeBefore : (lease.withPrefix iaPrefix).type = .typePD := htype
  refine ⟨fun atExport S D hatExport hexported => hexported.eq htypeBefore hatExport, ?_⟩
  rw [hcommands]
  by_cases hsame : iaPrefix.address = lease.addr
  · -- nothing is removed when only the length changes
    constructor
    · intro hreplaces
      have hremoved := hreplaces.removed
      cases isRebindProcess <;> simp [hsame, removals] at hremoved
    · rintro ⟨hne, -⟩
      exact absurd hsame hne
  · constructor
    · intro hreplaces
      have hhop : IOAddress.toText relayAddr = IOAddress.toText leaseIANA.addr := by
        simpa [hsame, removals] using hreplaces.removed
      exact ⟨hsame, IOAddress.toText_injective hhop⟩
    · rintro ⟨-, rfl⟩
      constructor
      · simp [hsame, removals]
      · simp [hsame, exports]

/-! A client whose prefix changes: the route that is withdrawn is one over the relay. -/

def otherPrefix : TextAddress := ⟨"2001:db8:2::", by decide⟩

def changeQuery (iaPrefix : Option6IAPrefix TextAddress) : Pkt6 TextAddress :=
  ⟨13, [linkAddress], [], [⟨1, [], [iaPrefix]⟩]⟩

def changeEffects (iaPrefix : Option6IAPrefix TextAddress) : List (ServiceEffect TextAddress) :=
  (callout (handleRenewRebindProcess false ⟨[addressLease]⟩ (changeQuery iaPrefix) prefixLease false)).effects

theorem not_replacesRoute_otherPrefix :
    commandsPosted ⟨[addressLease]⟩ (changeEffects ⟨otherPrefix, 64⟩)
        = [.removeRouteIpv6 "2001:db8:2::/64" "2001:db8::1", .applyRouteIpv6 "2001:db8:1::/64" "2001:db8::5"] ∧
      commandsPosted ⟨[addressLease]⟩ (changeEffects ⟨delegatedPrefix, 56⟩) = [] ∧
      ¬ ReplacesRoute (commandsPosted ⟨[addressLease]⟩ (changeEffects ⟨otherPrefix, 64⟩))
        ("2001:db8:2::/64", "2001:db8::5") ("2001:db8:1::/64", "2001:db8::5") := by
  refine ⟨by decide, by decide, fun hreplaces => ?_⟩
  exact absurd hreplaces.removed (by decide)

theorem replacesRoute_iff_otherPrefix :
    ReplacesRoute (commandsPosted ⟨[addressLease]⟩ (changeEffects ⟨otherPrefix, 64⟩))
        ("2001:db8:2::/64", "2001:db8::5") ("2001:db8:1::/64", "2001:db8::5") ↔
      otherPrefix ≠ delegatedPrefix ∧ linkAddress = clientAddress :=
  (replacesRoute_iff false ⟨[addressLease]⟩ (changeQuery ⟨otherPrefix, 64⟩) prefixLease addressLease linkAddress
    ⟨otherPrefix, 64⟩ rfl rfl rfl (by decide)).2

end NxosExporter
