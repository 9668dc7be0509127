import NxosExporter.Callouts

/-!
# Expiring a delegated prefix

An IA_PD route is exported with the bare IA_NA address as its next hop. The removal that an expired
IA_PD lease asks for builds the next hop from the same address with `/128` after it, so it names a
route that was never exported.
-/

namespace NxosExporter

variable {Addr : Type} [IOAddress Addr]

inductive PrefixExported (leaseMgr : LeaseMgr Addr) (lease : Lease6 Addr) (S D : String) : Prop
  | select (query : Pkt6 Addr)
      (hposted : .applyRouteIpv6 S D ∈
        commandsPosted leaseMgr (callout (handleLease6Select leaseMgr query lease false)).effects)
  | restore (mapping : HWAddrMap)
      (hposted : .applyRouteIpv6 S D ∈
        commandsPosted leaseMgr (restoreLease leaseMgr mapping lease).effects)

/-- `lease6_expire` withdraws the route `S` to `D`. -/
def WithdrawnOnExpiry (leaseMgr : LeaseMgr Addr) (lease : Lease6 Addr) (S D : String) : Prop :=
  .removeRouteIpv6 S D ∈ commandsPosted leaseMgr (callout (handleLease6Expire lease)).effects

theorem hostSubnet_ne_toText (address : Addr) : hostSubnet address ≠ IOAddress.toText address := by
  intro heq
  have hlength : (hostSubnet address).length = (IOAddress.toText address).length :=
    congrArg String.length heq
  rw [hostSubnet, String.length_append] at hlength
  have hsuffix : "/128".length = 4 := rfl
  omega

variable {leaseMgr : LeaseMgr Addr} {lease leaseIANA : Lease6 Addr} {S D : String}

/-- Both exports of a prefix lease name the IA_NA address itself as the next hop. -/
theorem PrefixExported.eq (htype : lease.type = .typePD)
    (hfind : findIANALeaseByDUIDIAID leaseMgr lease.duid lease.iaid = some leaseIANA)
    (hexported : PrefixExported leaseMgr lease S D) :
    S = prefixSubnet lease.addr lease.prefixlen ∧ D = IOAddress.toText leaseIANA.addr := by
  cases hexported with
  | select query hposted =>
      cases hrelay : query.getRelay6LinkAddress 0 with
      | ok relayAddr =>
          simpa [handleLease6Select, hrelay, htype, hfind, exportRoute, commandsPosted, postedBy,
            clientCall, ClientEffect.request?, Request.cliCommands] using hposted
      | throw exn => simp [handleLease6Select, hrelay, commandsPosted, postedBy] at hposted
      | undefined => simp [handleLease6Select, hrelay, commandsPosted, postedBy] at hposted
  | restore mapping hposted =>
      cases hhwaddr : lease.hwaddr with
      | none => simp [restoreLease, hhwaddr, commandsPosted, postedBy] at hposted
      | some leaseHWAddr =>
          simpa [restoreLease, hhwaddr, htype, hfind, commandsPosted, postedBy, clientCall,
            ClientEffect.request?, Request.cliCommands] using hposted

theorem commandsPosted_handleLease6Expire (htype : lease.type = .typePD)
    (hfind : findIANALeaseByDUIDIAID leaseMgr lease.duid lease.iaid = some leaseIANA) :
    commandsPosted leaseMgr (callout (handleLease6Expire lease)).effects
      = [.removeRouteIpv6 (prefixSubnet lease.addr lease.prefixlen) (hostSubnet leaseIANA.addr)] := by
  simp [handleLease6Expire, htype, removeRoute, commandsPosted, postedBy, clientCall,
    removeRoutesFromSwitch, hfind, ClientEffect.request?, Request.cliCommands]

/-- **Expiry of a delegated prefix.** A prefix route exported over an IA_NA lease is not withdrawn when
the prefix expires while that lease is still found, whatever the database looked like at each of the two
times. -/
theorem not_withdrawnOnExpiry {atExport atExpiry : LeaseMgr Addr} (htype : lease.type = .typePD)
    (hfindAtExport : findIANALeaseByDUIDIAID atExport lease.duid lease.iaid = some leaseIANA)
    (hfindAtExpiry : findIANALeaseByDUIDIAID atExpiry lease.duid lease.iaid = some leaseIANA)
    (hexported : PrefixExported atExport lease S D) :
    ¬ WithdrawnOnExpiry atExpiry lease S D := by
  obtain ⟨rfl, rfl⟩ := hexported.eq htype hfindAtExport
  rw [WithdrawnOnExpiry, commandsPosted_handleLease6Expire htype hfindAtExpiry, List.mem_singleton]
  intro hcommand
  have hdst := (Command.removeRouteIpv6.inj hcommand).2
  exact hostSubnet_ne_toText leaseIANA.addr hdst.symm

/-! The client of the two leases, and the query that selected them. -/

def selectQuery : Pkt6 TextAddress := ⟨7, [linkAddress], [], []⟩

def selectedLeases : LeaseMgr TextAddress := ⟨[addressLease, prefixLease]⟩

theorem exported_not_withdrawn_selectedPrefix :
    PrefixExported selectedLeases prefixLease "2001:db8:1::/64" "2001:db8::5" ∧
      ¬ WithdrawnOnExpiry selectedLeases prefixLease "2001:db8:1::/64" "2001:db8::5" := by
  refine ⟨.select selectQuery (by decide), ?_⟩
  unfold WithdrawnOnExpiry
  decide

theorem not_withdrawnOnExpiry_selectedPrefix :
    ¬ WithdrawnOnExpiry selectedLeases prefixLease "2001:db8:1::/64" "2001:db8::5" := by
  have hfind : findIANALeaseByDUIDIAID selectedLeases prefixLease.duid prefixLease.iaid
      = some addressLease := by decide
  exact not_withdrawnOnExpiry rfl hfind hfind (.select selectQuery (by decide))

end NxosExporter
