import NxosExporter.Proof.AmbiguousLookup
import NxosExporter.Proof.LiveLeases
import NxosExporter.Proof.PostedRequests

/-!
# Where the routes come from

A command for a route is traced back through the request that carried it and the replies that led there: an
addition to a lease that a callout or a restore exported, with the next hop that the reply to its own lookup, the
neighbors of that restore or the database gave for it, and a removal to a callout that asked for it. The requests
that are on their way keep this at every step, whatever the switch and the network do.
-/

namespace NxosExporter

open Effectful WorkPool Transition

variable {Addr : Type}

/-! ### What an effect of the service can come to -/

section Effects

variable [IOAddress Addr] {leaseMgr : LeaseMgr Addr} {allowed : Request → Reply → Prop} {command : Command}

/-- The subnet that a route is for. -/
def RouteInfo.subnet : RouteInfo Addr → String
  | iaNAInfo _ iaNAAddr | iaNAInfoFuzzyRemove iaNAAddr | iaNAFast _ iaNAAddr => hostSubnet iaNAAddr
  | iaPDInfo _ iaPDPrefix iaPDLength | iaPDInfoFuzzyRemove iaPDPrefix iaPDLength =>
      prefixSubnet iaPDPrefix iaPDLength

/-- What an exported route comes to: over the interface that its lookup finds, or over its next hop. -/
inductive RouteInfo.LeadsTo (allowed : Request → Reply → Prop) : RouteInfo Addr → String → Prop
  | lookup {srcVlanAddr iaNAAddr : Addr} {reply : Reply} {vlanIfName : String}
      (hallowed : allowed (exportLookup srcVlanAddr iaNAAddr) reply)
      (hvlan : lookedUpVlan reply = some vlanIfName) : LeadsTo allowed (.iaNAInfo srcVlanAddr iaNAAddr) vlanIfName
  | fast {srcVlanIfName : String} {iaNAAddr : Addr} :
      LeadsTo allowed (.iaNAFast srcVlanIfName iaNAAddr) srcVlanIfName
  | nextHop {dstIaNAAddr iaPDPrefix : Addr} {iaPDLength : UInt8} :
      LeadsTo allowed (.iaPDInfo dstIaNAAddr iaPDPrefix iaPDLength) (IOAddress.toText dstIaNAAddr)

/-- The commands that change the routes, and which ones they change. -/
def Command.OnlyIf (added : String → String → Prop) (removed : String → Prop) : Command → Prop
  | applyRouteIpv6 srcSubnet dstAddr => added srcSubnet dstAddr
  | removeRouteIpv6 srcSubnet _ => removed srcSubnet
  | mappingVlanAddrToVlanId _ | showIPv6Neighbour | removeNDCacheEntryIpv6 _ | uptime => True

variable {added : String → String → Prop} {removed : String → Prop}

/-- A request whose follow-ups are the last ones issues its own commands and theirs. -/
theorem onlyIf_of_issued {request : Request} (hcommands : ∀ command ∈ request.cliCommands, command.OnlyIf added removed)
    (hfollow : ∀ reply, allowed request reply → ∀ next ∈ followUps request reply,
      (∀ command ∈ next.cliCommands, command.OnlyIf added removed) ∧ ∀ reply', followUps next reply' = [])
    (hissued : Issued allowed [request] command) : command.OnlyIf added removed := by
  cases hissued with
  | posted hmem hcommand =>
      obtain rfl := List.mem_singleton.mp hmem
      exact hcommands command hcommand
  | followUp hmem hallowed hissued =>
      obtain rfl := List.mem_singleton.mp hmem
      obtain ⟨next, hnext, hissued⟩ := hissued.exists_request
      obtain ⟨hcommands, hlast⟩ := hfollow _ hallowed next hnext
      cases hissued with
      | posted hmem hcommand =>
          obtain rfl := List.mem_singleton.mp hmem
          exact hcommands command hcommand
      | followUp hmem _ hissued =>
          obtain rfl := List.mem_singleton.mp hmem
          rw [hlast] at hissued
          exact absurd hissued not_issued_nil

theorem onlyIf_of_issued_last {request : Request} (hlast : ∀ reply, followUps request reply = [])
    (hcommands : ∀ command ∈ request.cliCommands, command.OnlyIf added removed)
    (hissued : Issued allowed [request] command) : command.OnlyIf added removed :=
  onlyIf_of_issued hcommands (fun reply _ _ hnext => absurd (hlast reply ▸ hnext) List.not_mem_nil) hissued

theorem removal_of_fuzzyRemoveIAPD {commands : List (Int × Command)} {lookupAddrStr lookupAddrType : String}
    {srcIAPDSubnetStr dhcpv6TypeStr : String} {reply : Reply} {next : Request}
    (hnext : next ∈ followUps ⟨commands, .lookupAddress lookupAddrStr lookupAddrType
      (.fuzzyRemoveIAPD srcIAPDSubnetStr dhcpv6TypeStr)⟩ reply) :
    ∃ routeLookup path iaNAAddrStr, decodeRouteLookup reply = .ok routeLookup ∧ ComesDownTo routeLookup path ∧
      some iaNAAddrStr ∈ path.ipnexthop ∧ next = ⟨[(1, .removeRouteIpv6 srcIAPDSubnetStr iaNAAddrStr)],
        .routeRemove dhcpv6TypeStr srcIAPDSubnetStr iaNAAddrStr⟩ := by
  rw [followUps, handleReply, requestsOf_lookupAddressReply] at hnext
  cases hdecode : decodeRouteLookup reply with
  | ok routeLookup =>
      simp only [hdecode, runLookupHandler] at hnext
      cases hsingle : singleAddrf routeLookup with
      | ok addrfRow =>
          cases hguard : prefixGuard addrfRow with
          | ok guard =>
              cases guard with
              | true => simp [hsingle, hguard, ClientEffect.request?] at hnext
              | false =>
                  cases hentry : acceptedEntry RowPath.ipnexthop (fun _ => true)
                      "can't find IA_NA address" addrfRow with
                  | ok iaNAAddrStr =>
                      obtain ⟨vrfRow, hvrf, haddrf⟩ := singleAddrf_eq_ok_iff.mp hsingle
                      obtain ⟨prefixRow, rest, path, htable, hpath, -⟩ := acceptedEntry_eq_ok_iff.mp hentry
                      refine ⟨routeLookup, path, iaNAAddrStr, rfl,
                        ⟨vrfRow, addrfRow, prefixRow, rest, hvrf, haddrf, htable, hpath⟩,
                        acceptedEntry_mem htable hpath hentry, ?_⟩
                      simpa [hsingle, hguard, hentry, ClientEffect.request?] using hnext
                  | throw exn => simp [hsingle, hguard, hentry] at hnext
                  | undefined => simp [hsingle, hguard, hentry] at hnext
          | throw exn => simp [hsingle, hguard] at hnext
          | undefined => simp [hsingle, hguard] at hnext
      | throw exn => simp [hsingle] at hnext
      | undefined => simp [hsingle] at hnext
  | throw exn => simp [hdecode] at hnext
  | undefined => simp [hdecode] at hnext

/-! The requests for one route, by what they carry. -/

theorem onlyIf_of_lookup {request : Request} {command : String → Request} {lookedUp : Reply → Option String}
    (hlookup : request.cliCommands.all fun command => command.update?.isNone)
    (hfollow : ∀ reply, followUps request reply = (lookedUp reply).toList.map command)
    (hlast : ∀ vlanIfName reply, followUps (command vlanIfName) reply = [])
    (hcommand : ∀ reply vlanIfName, allowed request reply → lookedUp reply = some vlanIfName →
      ∀ issued ∈ (command vlanIfName).cliCommands, issued.OnlyIf added removed)
    {issued : Command} (hissued : Issued allowed [request] issued) : issued.OnlyIf added removed := by
  refine onlyIf_of_issued (fun own hown => ?_) (fun reply hallowed next hnext => ?_) hissued
  · have hnone := List.all_eq_true.mp hlookup own hown
    cases own <;> simp [Command.update?, Command.OnlyIf] at hnone ⊢
  · rw [hfollow] at hnext
    obtain ⟨vlanIfName, hvlan, rfl⟩ := List.mem_map.mp hnext
    exact ⟨hcommand reply vlanIfName hallowed (Option.mem_toList.mp hvlan), hlast vlanIfName⟩

theorem onlyIf_removalCommand {iaNAAddr : Addr} (vlanIfName : String) (hremoved : removed (hostSubnet iaNAAddr)) :
    ∀ issued ∈ (removalCommand iaNAAddr vlanIfName).cliCommands, issued.OnlyIf added removed := by
  simp [removalCommand, Request.cliCommands, Command.OnlyIf, hremoved]

theorem onlyIf_of_sent {route : RouteExport Addr}
    (hadded : ∀ dst, route.routeInfo.LeadsTo allowed dst → added route.routeInfo.subnet dst)
    (hissued : Issued allowed (requestsOf (clientCall leaseMgr (.sendRoutesToSwitch route)).effects) command) :
    command.OnlyIf added removed := by
  obtain ⟨tid, iaid, duid, routeInfo⟩ := route
  cases routeInfo with
  | iaNAInfo srcVlanAddr iaNAAddr =>
      have hposted : Issued allowed [exportLookup srcVlanAddr iaNAAddr] command := by
        simpa [clientCall, ClientEffect.request?, exportLookup] using hissued
      refine onlyIf_of_lookup rfl followUps_exportLookup followUps_exportCommand ?_ hposted
      intro reply vlanIfName hallowed hvlan issued hmem
      obtain rfl : issued = .applyRouteIpv6 (hostSubnet iaNAAddr) vlanIfName := by
        simpa [exportCommand, Request.cliCommands] using hmem
      exact hadded vlanIfName (.lookup hallowed hvlan)
  | iaNAFast srcVlanIfName iaNAAddr =>
      have hposted : Issued allowed [exportCommand iaNAAddr srcVlanIfName] command := by
        simpa [clientCall, ClientEffect.request?, exportCommand] using hissued
      refine onlyIf_of_issued_last (followUps_exportCommand srcVlanIfName) ?_ hposted
      exact List.forall_mem_singleton.mpr (hadded srcVlanIfName .fast)
  | iaPDInfo dstIaNAAddr iaPDPrefix iaPDLength =>
      have hposted : Issued allowed [exportPrefix dstIaNAAddr iaPDPrefix iaPDLength] command := by
        simpa [clientCall, ClientEffect.request?, exportPrefix] using hissued
      refine onlyIf_of_issued_last followUps_exportPrefix ?_ hposted
      exact List.forall_mem_singleton.mpr (hadded _ .nextHop)
  | iaNAInfoFuzzyRemove iaNAAddr =>
      have hposted : Issued allowed [] command := hissued
      exact absurd hposted not_issued_nil
  | iaPDInfoFuzzyRemove iaPDPrefix iaPDLength =>
      have hposted : Issued allowed [] command := hissued
      exact absurd hposted not_issued_nil

theorem onlyIf_of_removed {route : RouteExport Addr} (hremoved : removed route.routeInfo.subnet)
    (hissued : Issued allowed
      (requestsOf (clientCall leaseMgr (.removeRoutesFromSwitch route)).effects) command) :
    command.OnlyIf added removed := by
  obtain ⟨tid, iaid, duid, routeInfo⟩ := route
  cases routeInfo with
  | iaNAInfo srcVlanAddr iaNAAddr =>
      have hposted : Issued allowed [removalLookup srcVlanAddr iaNAAddr] command := by
        simpa [clientCall, removeRoutesFromSwitch, ClientEffect.request?, removalLookup,
          RouteExport.toDHCPv6IATypeString] using hissued
      exact onlyIf_of_lookup rfl followUps_removalLookup followUps_removalCommand
        (fun _ vlanIfName _ _ => onlyIf_removalCommand vlanIfName hremoved) hposted
  | iaNAFast srcVlanIfName iaNAAddr =>
      have hposted : Issued allowed [] command := hissued
      exact absurd hposted not_issued_nil
  | iaPDInfo dstIaNAAddr iaPDPrefix iaPDLength =>
      have hposted : Issued allowed [removalPrefix dstIaNAAddr iaPDPrefix iaPDLength] command := by
        simpa [clientCall, removeRoutesFromSwitch, ClientEffect.request?, removalPrefix,
          RouteExport.toDHCPv6IATypeString] using hissued
      refine onlyIf_of_issued_last (fun reply => followUps_routeRemove) ?_ hposted
      exact List.forall_mem_singleton.mpr hremoved
  | iaNAInfoFuzzyRemove iaNAAddr =>
      have hposted : Issued allowed [addressLookup iaNAAddr] command := by
        simpa [clientCall, removeRoutesFromSwitch, ClientEffect.request?, addressLookup,
          RouteExport.toDHCPv6IATypeString] using hissued
      exact onlyIf_of_lookup rfl followUps_addressLookup followUps_removalCommand
        (fun _ vlanIfName _ _ => onlyIf_removalCommand vlanIfName hremoved) hposted
  | iaPDInfoFuzzyRemove iaPDPrefix iaPDLength =>
      cases hfind : findIANALeaseByDUIDIAID leaseMgr duid iaid with
      | some leaseIANA =>
          have hposted : Issued allowed [⟨[(1, .removeRouteIpv6 (prefixSubnet iaPDPrefix iaPDLength)
              (hostSubnet leaseIANA.addr))], .routeRemove "IA_PD" (prefixSubnet iaPDPrefix iaPDLength)
              (hostSubnet leaseIANA.addr)⟩] command := by
            simpa [clientCall, removeRoutesFromSwitch, ClientEffect.request?, hfind,
              RouteExport.toDHCPv6IATypeString] using hissued
          refine onlyIf_of_issued_last (fun reply => followUps_routeRemove) ?_ hposted
          exact List.forall_mem_singleton.mpr hremoved
      | none =>
          have hposted : Issued allowed [⟨[(1, .mappingVlanAddrToVlanId (prefixSubnet iaPDPrefix iaPDLength))],
              .lookupAddress (prefixSubnet iaPDPrefix iaPDLength) "IA_PD"
                (.fuzzyRemoveIAPD (prefixSubnet iaPDPrefix iaPDLength) "IA_PD")⟩] command := by
            simpa [clientCall, removeRoutesFromSwitch, ClientEffect.request?, hfind,
              RouteExport.toDHCPv6IATypeString] using hissued
          refine onlyIf_of_issued (List.forall_mem_singleton.mpr trivial) (fun reply _ next hnext => ?_) hposted
          obtain ⟨-, -, iaNAAddrStr, -, -, -, rfl⟩ := removal_of_fuzzyRemoveIAPD hnext
          exact ⟨List.forall_mem_singleton.mpr hremoved, fun _ => followUps_routeRemove⟩

end Effects

/-! ### What the callouts and the restore do -/

/-- A route of the lease: its address behind the relay of the query, or its prefix over the address that the
database gives its client. -/
inductive RouteInfo.ForLease (leaseMgr : LeaseMgr Addr) (query : Pkt6 Addr) (lease : Lease6 Addr) :
    RouteInfo Addr → Prop
  | address {relayAddr : Addr} (hrelay : query.relayInfo.head? = some relayAddr) :
      ForLease leaseMgr query lease (.iaNAInfo relayAddr lease.addr)
  | iaPrefix {leaseIANA : Lease6 Addr}
      (hfind : findIANALeaseByDUIDIAID leaseMgr lease.duid lease.iaid = some leaseIANA) :
      ForLease leaseMgr query lease (.iaPDInfo leaseIANA.addr lease.addr lease.prefixlen)

/-- The query and the lease that a selection, a renewal or a rebinding is for. -/
inductive CalloutEvent.IsFor : CalloutEvent Addr → Pkt6 Addr → Lease6 Addr → Prop
  | lease6Select (leaseMgr : LeaseMgr Addr) (query : Pkt6 Addr) (lease : Lease6 Addr) :
      IsFor (.lease6Select leaseMgr query lease false) query lease
  | lease6Renew (leaseMgr : LeaseMgr Addr) (query : Pkt6 Addr) (lease : Lease6 Addr) (iaNA : IAArgument Addr) :
      IsFor (.lease6Renew leaseMgr query lease iaNA) query lease
  | lease6Rebind (leaseMgr : LeaseMgr Addr) (query : Pkt6 Addr) (lease : Lease6 Addr) (iaNA : IAArgument Addr) :
      IsFor (.lease6Rebind leaseMgr query lease iaNA) query lease

/-- The routes that a callout asks the client to send. -/
def CalloutEvent.exported [DecidableEq Addr] (event : CalloutEvent Addr) : List (RouteInfo Addr) :=
  (routesSent event.handler.effects).map RouteExport.routeInfo

/-- The subnets of the routes that a callout asks the client to remove. -/
def CalloutEvent.withdrawn [DecidableEq Addr] [IOAddress Addr] (event : CalloutEvent Addr) : List String :=
  (routesRemoved event.handler.effects).map fun route => route.routeInfo.subnet

section Callouts

variable {leaseMgr : LeaseMgr Addr} {query : Pkt6 Addr} {lease : Lease6 Addr} {route : RouteExport Addr}
  {effect : ServiceEffect Addr}

/-- What an effect of a callout may be: an export, a removal, or nothing for the client. -/
inductive ServiceEffect.OnlyRoutes (exported removed : RouteInfo Addr → Prop) : ServiceEffect Addr → Prop
  | sent (route : RouteExport Addr) (hexported : exported route.routeInfo) :
      OnlyRoutes exported removed (.sendRoutesToSwitch route)
  | removed (route : RouteExport Addr) (hremoved : removed route.routeInfo) :
      OnlyRoutes exported removed (.removeRoutesFromSwitch route)
  | handlerFailed : OnlyRoutes exported removed .handlerFailed
  | setStatusSkip : OnlyRoutes exported removed .setStatusSkip
  | log (message : ServiceLog) : OnlyRoutes exported removed (.log message)

variable {exported exported' removed removed' : RouteInfo Addr → Prop}

theorem ServiceEffect.OnlyRoutes.mono (honly : effect.OnlyRoutes exported removed) (hexported : ∀ routeInfo, exported routeInfo → exported' routeInfo)
    (hremoved : ∀ routeInfo, removed routeInfo → removed' routeInfo) : effect.OnlyRoutes exported' removed' := by
  cases honly with
  | sent route hroute => exact .sent route (hexported _ hroute)
  | removed route hroute => exact .removed route (hremoved _ hroute)
  | handlerFailed => exact .handlerFailed
  | setStatusSkip => exact .setStatusSkip
  | log message => exact .log message

/-- What a program sends and removes is among its routes. -/
theorem ServiceEffect.OnlyRoutes.of_mem {effects : List (ServiceEffect Addr)} (hmem : effect ∈ effects)
    (honly : effect.OnlyRoutes exported removed) :
    effect.OnlyRoutes (fun routeInfo => exported routeInfo ∧ routeInfo ∈ (routesSent effects).map RouteExport.routeInfo)
      fun routeInfo => removed routeInfo ∧ routeInfo ∈ (routesRemoved effects).map RouteExport.routeInfo := by
  cases honly with
  | sent route hroute =>
      exact .sent route ⟨hroute, List.mem_map_of_mem (List.mem_filterMap.mpr ⟨_, hmem, rfl⟩)⟩
  | removed route hroute =>
      exact .removed route ⟨hroute, List.mem_map_of_mem (List.mem_filterMap.mpr ⟨_, hmem, rfl⟩)⟩
  | handlerFailed => exact .handlerFailed
  | setStatusSkip => exact .setStatusSkip
  | log message => exact .log message

theorem mem_effects_lift_bind {α β : Type} {outcome : Outcome Exn α} {next : α → ServiceProg Addr β}
    (hmem : effect ∈ (Prog.lift outcome >>= next).effects) :
    ∃ value, outcome = .ok value ∧ effect ∈ (next value).effects := by
  cases outcome with
  | ok value => exact ⟨value, rfl, by simpa using hmem⟩
  | throw exn => simp at hmem
  | undefined => simp at hmem

theorem mem_effects_bind_of_ok {first : ServiceProg Addr Unit} (hfirst : first.outcome = .ok ())
    {next : Unit → ServiceProg Addr Unit} (hmem : effect ∈ (first >>= next).effects) :
    effect ∈ first.effects ∨ effect ∈ (next ()).effects := by
  rw [Prog.bind_effects_of_ok hfirst] at hmem
  exact List.mem_append.mp hmem

theorem relay_of_getRelay6LinkAddress {relayAddr : Addr} (hrelay : query.getRelay6LinkAddress 0 = .ok relayAddr) :
    query.relayInfo.head? = some relayAddr := by
  cases hrelayInfo : query.relayInfo with
  | nil => simp [Pkt6.getRelay6LinkAddress, hrelayInfo] at hrelay
  | cons linkAddr others => simpa [Pkt6.getRelay6LinkAddress, hrelayInfo] using hrelay

theorem onlyRoutes_exportRoute (hexported : exported route.routeInfo)
    (hmem : effect ∈ (exportRoute route).effects) : effect.OnlyRoutes exported removed := by
  have hcases : effect = .log (.updateInfoOnDevice route.tid route.iaid) ∨ effect = .sendRoutesToSwitch route := by
    simpa [exportRoute] using hmem
  obtain rfl | rfl := hcases
  · exact .log _
  · exact .sent route hexported

theorem onlyRoutes_removeRoute (hremoved : removed route.routeInfo)
    (hmem : effect ∈ (removeRoute route).effects) : effect.OnlyRoutes exported removed := by
  have hcases : effect = .log (.removeInfoOnDevice route.tid route.iaid) ∨
      effect = .removeRoutesFromSwitch route := by
    simpa [removeRoute] using hmem
  obtain rfl | rfl := hcases
  · exact .log _
  · exact .removed route hremoved

theorem onlyRoutes_select {fakeAllocation : Bool}
    (hexported : fakeAllocation = false → ∀ routeInfo, routeInfo.ForLease leaseMgr query lease → exported routeInfo)
    (hmem : effect ∈ (handleLease6Select leaseMgr query lease fakeAllocation).effects) :
    effect.OnlyRoutes exported removed := by
  unfold handleLease6Select at hmem
  cases fakeAllocation with
  | true => simp at hmem
  | false =>
      obtain ⟨relayAddr, hrelay, hmem⟩ := mem_effects_lift_bind hmem
      rw [Prog.emit_bind_effects] at hmem
      obtain rfl | hmem := List.mem_cons.mp hmem
      · exact .log _
      · cases htype : lease.type with
        | typeNA =>
            rw [htype] at hmem
            exact onlyRoutes_exportRoute (hexported rfl _ (.address (relay_of_getRelay6LinkAddress hrelay))) hmem
        | typePD =>
            rw [htype] at hmem
            cases hfind : findIANALeaseByDUIDIAID leaseMgr lease.duid lease.iaid with
            | some leaseIANA =>
                simp only [hfind] at hmem
                exact onlyRoutes_exportRoute (hexported rfl _ (.iaPrefix hfind)) hmem
            | none =>
                have hcases : effect = .log (.lease6SelectNoIANAFailed lease.iaid lease.duid) ∨
                    effect = .setStatusSkip := by
                  simpa [hfind] using hmem
                obtain rfl | rfl := hcases
                · exact .log _
                · exact .setStatusSkip
        | typeTA => simp [htype] at hmem
        | typeV4 => simp [htype] at hmem

theorem onlyRoutes_leaseEnd (hmem : effect ∈ (handleLeaseEnd leaseMgr query lease).effects) :
    effect.OnlyRoutes exported fun _ => True := by
  unfold handleLeaseEnd at hmem
  obtain ⟨relayAddr, -, hmem⟩ := mem_effects_lift_bind hmem
  cases htype : lease.type with
  | typeNA =>
      rw [htype] at hmem
      exact onlyRoutes_removeRoute trivial hmem
  | typePD =>
      rw [htype] at hmem
      cases hfind : findIANALeaseByDUIDIAID leaseMgr lease.duid lease.iaid with
      | some leaseIANA =>
          simp only [hfind] at hmem
          exact onlyRoutes_removeRoute trivial hmem
      | none =>
          obtain rfl : effect = .log (.routeRemoveFindIANALeaseFailed lease.iaid lease.duid) := by
            simpa [hfind] using hmem
          exact .log _
  | typeTA => simp [htype] at hmem
  | typeV4 => simp [htype] at hmem

theorem onlyRoutes_expire (hmem : effect ∈ (handleLease6Expire lease).effects) :
    effect.OnlyRoutes exported fun _ => True := by
  unfold handleLease6Expire at hmem
  cases htype : lease.type with
  | typeNA =>
      rw [htype] at hmem
      exact onlyRoutes_removeRoute trivial hmem
  | typePD =>
      rw [htype] at hmem
      exact onlyRoutes_removeRoute trivial hmem
  | typeTA => simp [htype] at hmem
  | typeV4 => simp [htype] at hmem

variable [DecidableEq Addr]

theorem onlyRoutes_renewRebind {isRebindProcess isIANA : Bool}
    (hexported : ∀ routeInfo, routeInfo.ForLease leaseMgr query lease → exported routeInfo)
    (hmem : effect ∈ (handleRenewRebindProcess isRebindProcess leaseMgr query lease isIANA).effects) :
    effect.OnlyRoutes exported fun _ => True := by
  unfold handleRenewRebindProcess at hmem
  obtain ⟨relayAddr, hgetRelay, hmem⟩ := mem_effects_lift_bind hmem
  have hrelay := relay_of_getRelay6LinkAddress hgetRelay
  cases isIANA with
  | true =>
      rw [if_pos rfl] at hmem
      obtain ⟨option, -, hmem⟩ := mem_effects_lift_bind hmem
      cases hIAADDR : option.getOptionIAADDR with
      | none => simp [hIAADDR] at hmem
      | some old =>
          simp only [hIAADDR] at hmem
          by_cases hsame : old = lease.addr
          · simp only [hsame, ne_eq, not_true_eq_false, if_false] at hmem
            exact onlyRoutes_exportRoute (hexported _ (.address hrelay)) hmem
          · simp only [ne_eq, hsame, not_false_eq_true, if_true] at hmem
            obtain hmem | hmem := mem_effects_bind_of_ok rfl hmem
            · exact onlyRoutes_removeRoute trivial hmem
            · exact onlyRoutes_exportRoute (hexported _ (.address hrelay)) hmem
  | false =>
      rw [if_neg Bool.false_ne_true] at hmem
      obtain ⟨option, -, hmem⟩ := mem_effects_lift_bind hmem
      cases hIAPREFIX : option.getOptionIAPREFIX with
      | none => simp [hIAPREFIX] at hmem
      | some old =>
          simp only [hIAPREFIX] at hmem
          cases hfind : findIANALeaseByDUIDIAID leaseMgr lease.duid lease.iaid with
          | none =>
              simp only [hfind] at hmem
              obtain ⟨clientDUID, -, hmem⟩ := mem_effects_lift_bind hmem
              obtain rfl : effect = .log (.routeRemoveFindIANALeaseFailed lease.iaid (some clientDUID)) := by
                simpa using hmem
              exact .log _
          | some leaseIANA =>
              simp only [hfind] at hmem
              by_cases hsame : old.address = lease.addr
              · cases isRebindProcess with
                | true =>
                    simp only [hsame, ne_eq, not_true_eq_false, if_false, if_true] at hmem
                    exact onlyRoutes_exportRoute (hexported _ (.iaPrefix hfind)) hmem
                | false => simp [hsame] at hmem
              · simp only [ne_eq, hsame, not_false_eq_true, if_true] at hmem
                obtain hmem | hmem := mem_effects_bind_of_ok rfl hmem
                · exact onlyRoutes_removeRoute trivial hmem
                · exact onlyRoutes_exportRoute (hexported _ (.iaPrefix hfind)) hmem

theorem onlyRoutes_handler {event : CalloutEvent Addr} (hmem : effect ∈ event.handler.effects) :
    effect.OnlyRoutes
      (fun routeInfo => ∃ query lease, event.IsFor query lease ∧ routeInfo.ForLease event.leaseMgr query lease)
      fun _ => True := by
  cases event with
  | lease6Select leaseMgr query lease fakeAllocation =>
      refine onlyRoutes_select (fun hfake routeInfo hfor => ⟨query, lease, ?_, hfor⟩) hmem
      subst hfake
      exact .lease6Select leaseMgr query lease
  | lease6Renew leaseMgr query lease iaNA =>
      exact onlyRoutes_renewRebind
        (fun _ hfor => ⟨query, lease, .lease6Renew leaseMgr query lease iaNA, hfor⟩) hmem
  | lease6Rebind leaseMgr query lease iaNA =>
      exact onlyRoutes_renewRebind
        (fun _ hfor => ⟨query, lease, .lease6Rebind leaseMgr query lease iaNA, hfor⟩) hmem
  | lease6Release leaseMgr query lease => exact onlyRoutes_leaseEnd hmem
  | lease6Decline leaseMgr query lease => exact onlyRoutes_leaseEnd hmem
  | lease6Expire leaseMgr lease => exact onlyRoutes_expire hmem

variable [IOAddress Addr]

/-- A callout exports the lease that it is for and withdraws its own subnets. -/
theorem onlyRoutes_callout {event : CalloutEvent Addr} (hmem : effect ∈ event.handler.effects) :
    effect.OnlyRoutes
      (fun routeInfo => routeInfo ∈ event.exported ∧
        ∃ query lease, event.IsFor query lease ∧ routeInfo.ForLease event.leaseMgr query lease)
      (fun routeInfo => routeInfo.subnet ∈ event.withdrawn) := by
  refine ((onlyRoutes_handler hmem).of_mem hmem).mono (fun routeInfo hsent => hsent.symm) ?_
  rintro routeInfo ⟨-, hremoved⟩
  obtain ⟨route, hroute, rfl⟩ := List.mem_map.mp hremoved
  exact List.mem_map.mpr ⟨route, hroute, rfl⟩

end Callouts

section Restore

variable {leaseMgr : LeaseMgr Addr} {mapping : HWAddrMap} {lease : Lease6 Addr} {effect : ServiceEffect Addr}

/-- A route of the lease that a restore sends: over the interface of its hardware address, or as above. -/
inductive RouteInfo.RestoredFor (leaseMgr : LeaseMgr Addr) (mapping : HWAddrMap) (lease : Lease6 Addr) :
    RouteInfo Addr → Prop
  | address {vlanIfName : String} (hfind : lease.hwaddr.bind mapping.find = some vlanIfName) :
      RestoredFor leaseMgr mapping lease (.iaNAFast vlanIfName lease.addr)
  | iaPrefix {leaseIANA : Lease6 Addr}
      (hfind : findIANALeaseByDUIDIAID leaseMgr lease.duid lease.iaid = some leaseIANA) :
      RestoredFor leaseMgr mapping lease (.iaPDInfo leaseIANA.addr lease.addr lease.prefixlen)

theorem onlyRoutes_restoreLease (hmem : effect ∈ (restoreLease leaseMgr mapping lease).effects) :
    effect.OnlyRoutes (fun routeInfo => routeInfo.RestoredFor leaseMgr mapping lease) fun _ => False := by
  unfold restoreLease at hmem
  cases hhwAddr : lease.hwaddr with
  | none => simp [hhwAddr] at hmem
  | some hwAddr =>
      cases htype : lease.type with
      | typeNA =>
          cases hlookup : mapping.find hwAddr with
          | some vlanIfName =>
              obtain rfl : effect = .sendRoutesToSwitch
                  ⟨0, lease.iaid, lease.duid, .iaNAFast vlanIfName lease.addr⟩ := by
                simpa [hhwAddr, htype, hlookup] using hmem
              exact .sent _ (.address (by rw [hhwAddr, Option.bind_some, hlookup]))
          | none =>
              obtain rfl : effect = .log (.routeReinitNoHWAddrFailed .typeNA lease.iaid lease.duid) := by
                simpa [hhwAddr, htype, hlookup] using hmem
              exact .log _
      | typePD =>
          cases hfind : findIANALeaseByDUIDIAID leaseMgr lease.duid lease.iaid with
          | some entry =>
              obtain rfl : effect = .sendRoutesToSwitch
                  ⟨0, lease.iaid, lease.duid, .iaPDInfo entry.addr lease.addr lease.prefixlen⟩ := by
                simpa [hhwAddr, htype, hfind] using hmem
              exact .sent _ (.iaPrefix hfind)
          | none =>
              cases hduid : lease.duid with
              | none => simp [hhwAddr, htype, hduid, findIANALeaseByDUIDIAID] at hmem
              | some duid =>
                  rw [hduid] at hfind
                  obtain rfl : effect = .log (.routeReinitIANALeaseFailed lease.iaid duid) := by
                    simpa [hhwAddr, htype, hfind, hduid] using hmem
                  exact .log _
      | typeTA => simp [hhwAddr, htype] at hmem
      | typeV4 => simp [hhwAddr, htype] at hmem

/-- The routes that the callback of a restore asks the client to send. -/
def restoredRoutes (leaseMgr : LeaseMgr Addr) (cfgMgr : CfgMgr) (mapping : HWAddrMap) : List (RouteInfo Addr) :=
  (routesSent (restoreCallback leaseMgr cfgMgr (some mapping) false).effects).map RouteExport.routeInfo

/-- A restore sends routes of the leases in the database, and only once it has a mapping. -/
theorem onlyRoutes_restore {cfgMgr : CfgMgr} {failed : Bool}
    (hmem : effect ∈ (restoreCallback leaseMgr cfgMgr (some mapping) failed).effects) :
    effect.OnlyRoutes
      (fun routeInfo => failed = false ∧ ∃ lease ∈ leaseMgr.leases, routeInfo.RestoredFor leaseMgr mapping lease)
      fun _ => False := by
  cases failed with
  | true =>
      obtain rfl : effect = .handlerFailed := by simpa [restoreCallback] using hmem
      exact .handlerFailed
  | false =>
      obtain ⟨_ | ⟨_ | ⟨_ | subnets⟩⟩⟩ := cfgMgr
      · simp [restoreCallback] at hmem
      · simp [restoreCallback] at hmem
      · simp [restoreCallback] at hmem
      · have hpass : effect ∈ (restoreSubnets leaseMgr mapping subnets).effects := by
          simpa [restoreCallback] using hmem
        rw [restoreSubnets_eq, Prog.loop_effects _ endsPass _ fun lease _ => (restoreLease_spec lease).2] at hpass
        obtain ⟨lease, hlease, heffect⟩ := List.mem_flatMap.mp hpass
        obtain ⟨subnetId, -, hsubnet⟩ := List.mem_flatMap.mp (mem_of_mem_throughFirst hlease)
        have hleases : lease ∈ leaseMgr.leases := (List.mem_filter.mp hsubnet).1
        exact (onlyRoutes_restoreLease heffect).mono (fun _ hrestored => ⟨rfl, lease, hleases, hrestored⟩)
          fun _ hfalse => hfalse

end Restore

/-! ### The invariant -/

section Runs

variable [DecidableEq Addr] [IOAddress Addr] {actions : List (ExporterAction Addr)}

/-- The run executed the request, and this is the reply that came for it. -/
def AnsweredIn (start : Exporter) (actions : List (ExporterAction Addr)) (request : Request) (reply : Reply) :
    Prop :=
  ∃ mid i reached, Takes Exporter.step start actions mid (.execute i reached (some reply)) ∧
    mid.client.inFlight[i]? = some (request, none)

/-- A restore of the run: the closure of a neighbor lookup read this mapping out of its reply, and the callback
found this database and these subnets. -/
def RestoredIn (start : Exporter) (actions : List (ExporterAction Addr)) (leaseMgr : LeaseMgr Addr)
    (cfgMgr : CfgMgr) (mapping : HWAddrMap) : Prop :=
  ∃ mid i request reply, Takes Exporter.step start actions mid (.finish i leaseMgr cfgMgr) ∧
    mid.client.inFlight[i]? = some (request, some reply) ∧ request.handler = .hwAddrMapping ∧
    .hwAddrMapping mapping false ∈ (hwAddrMappingReply reply).effects

/-- A route for a lease that a callout or a restore of the run exported. A callout exports an address over the
interface that the reply to the lookup for it names, behind the relay of the query, and a restore over the
interface that its mapping has for the client; a prefix goes over the address that the database of that callout
or restore gives its client. -/
inductive HasLease (start : Exporter) (actions : List (ExporterAction Addr)) : String → String → Prop
  | address {event : CalloutEvent Addr} {query : Pkt6 Addr} {lease : Lease6 Addr} {relayAddr : Addr} {reply : Reply}
      {vlanIfName : String} (hevent : .callout event ∈ actions) (hlease : event.IsFor query lease)
      (hrelay : query.relayInfo.head? = some relayAddr)
      (hexported : .iaNAInfo relayAddr lease.addr ∈ event.exported)
      (hanswered : AnsweredIn start actions (exportLookup relayAddr lease.addr) reply)
      (hvlan : lookedUpVlan reply = some vlanIfName) : HasLease start actions (hostSubnet lease.addr) vlanIfName
  | iaPrefix {event : CalloutEvent Addr} {query : Pkt6 Addr} {lease leaseIANA : Lease6 Addr}
      (hevent : .callout event ∈ actions) (hlease : event.IsFor query lease)
      (hfind : findIANALeaseByDUIDIAID event.leaseMgr lease.duid lease.iaid = some leaseIANA)
      (hexported : .iaPDInfo leaseIANA.addr lease.addr lease.prefixlen ∈ event.exported) :
      HasLease start actions (prefixSubnet lease.addr lease.prefixlen) (IOAddress.toText leaseIANA.addr)
  | restoredAddress {leaseMgr : LeaseMgr Addr} {cfgMgr : CfgMgr} {lease : Lease6 Addr} {mapping : HWAddrMap}
      {vlanIfName : String} (hrestored : RestoredIn start actions leaseMgr cfgMgr mapping)
      (hlease : lease ∈ leaseMgr.leases) (hfind : lease.hwaddr.bind mapping.find = some vlanIfName)
      (hexported : .iaNAFast vlanIfName lease.addr ∈ restoredRoutes leaseMgr cfgMgr mapping) :
      HasLease start actions (hostSubnet lease.addr) vlanIfName
  | restoredPrefix {leaseMgr : LeaseMgr Addr} {cfgMgr : CfgMgr} {lease leaseIANA : Lease6 Addr} {mapping : HWAddrMap}
      (hrestored : RestoredIn start actions leaseMgr cfgMgr mapping) (hlease : lease ∈ leaseMgr.leases)
      (hfind : findIANALeaseByDUIDIAID leaseMgr lease.duid lease.iaid = some leaseIANA)
      (hexported :
        .iaPDInfo leaseIANA.addr lease.addr lease.prefixlen ∈ restoredRoutes leaseMgr cfgMgr mapping) :
      HasLease start actions (prefixSubnet lease.addr lease.prefixlen) (IOAddress.toText leaseIANA.addr)

/-- A callout of the run asked for the removal of a route of the subnet. -/
def WithdrawnIn (actions : List (ExporterAction Addr)) (subnet : String) : Prop :=
  ∃ event, .callout event ∈ actions ∧ subnet ∈ event.withdrawn

/-- Whatever the request comes to with the replies of the run, its commands have their reason in the run. -/
def Request.TracedTo (start : Exporter) (actions : List (ExporterAction Addr)) (request : Request) : Prop :=
  ∀ command, Issued (AnsweredIn start actions) [request] command →
    command.OnlyIf (HasLease start actions) (WithdrawnIn actions)

structure Exporter.Traced (exporter start : Exporter) (actions : List (ExporterAction Addr)) : Prop where
  requests : exporter.client.Holds (Request.TracedTo start actions)
    fun request reply => AnsweredIn start actions request reply ∧ request.TracedTo start actions
  routes : ∀ src dst, (src, dst) ∈ exporter.client.shared →
    (src, dst) ∈ start.client.shared ∨ HasLease start actions src dst
  kept : (∀ saved, .reboot saved ∉ actions) → ∀ src dst, (src, dst) ∈ start.client.shared →
    ¬ WithdrawnIn actions src → (src, dst) ∈ exporter.client.shared

variable {start exporter exporter' : Exporter} {request : Request} {reply : Reply}

theorem tracedTo_of_onlyRoutes {leaseMgr : LeaseMgr Addr} {effects : List (ServiceEffect Addr)}
    (heffects : ∀ effect ∈ effects, effect.OnlyRoutes
      (fun routeInfo => ∀ dst, routeInfo.LeadsTo (AnsweredIn start actions) dst →
        HasLease start actions routeInfo.subnet dst)
      fun routeInfo => WithdrawnIn actions routeInfo.subnet) :
    ∀ request ∈ postedBy leaseMgr effects, request.TracedTo start actions := by
  intro request hrequest command hissued
  obtain ⟨effect, heffect, hposted⟩ := mem_postedBy hrequest
  have hsub : ∀ other ∈ [request], other ∈ requestsOf (clientCall leaseMgr effect).effects :=
    List.forall_mem_singleton.mpr hposted
  cases heffects effect heffect with
  | sent route hexported => exact onlyIf_of_sent hexported (hissued.mono_requests hsub)
  | removed route hremoved => exact onlyIf_of_removed hremoved (hissued.mono_requests hsub)
  | handlerFailed => exact absurd hposted List.not_mem_nil
  | setStatusSkip => exact absurd hposted List.not_mem_nil
  | log message => exact absurd hposted List.not_mem_nil

theorem tracedTo_of_callout {event : CalloutEvent Addr} (hevent : .callout event ∈ actions) :
    ∀ request ∈ event.posted, request.TracedTo start actions := by
  rw [CalloutEvent.posted_eq]
  refine tracedTo_of_onlyRoutes fun effect heffect => (onlyRoutes_callout heffect).mono ?_ ?_
  · rintro routeInfo ⟨hexported, query, lease, hlease, hfor⟩ dst hleads
    cases hfor with
    | address hrelay =>
        cases hleads with
        | lookup hanswered hvlan => exact .address hevent hlease hrelay hexported hanswered hvlan
    | iaPrefix hfind =>
        cases hleads with
        | nextHop => exact .iaPrefix hevent hlease hfind hexported
  · intro routeInfo hsubnet
    exact ⟨event, hevent, hsubnet⟩

/-- The request of a restore leads to no command for a route. -/
theorem tracedTo_neighborLookup :
    ∀ request ∈ requestsOf restoreLeasesFromLeaseDatabase.effects, request.TracedTo start actions := by
  refine List.forall_mem_singleton.mpr fun command hissued => ?_
  exact onlyIf_of_issued_last (fun _ => followUps_hwAddrMapping) (List.forall_mem_singleton.mpr trivial) hissued

theorem tracedTo_followUp (hanswered : AnsweredIn start actions request reply) (hrequest : request.TracedTo start actions) :
    ∀ next ∈ followUps request reply, next.TracedTo start actions := by
  intro next hnext command hissued
  refine hrequest command (.followUp (List.mem_singleton_self request) hanswered ?_)
  exact hissued.mono_requests (List.forall_mem_singleton.mpr hnext)

theorem tracedTo_of_finish {i : Nat} {leaseMgr : LeaseMgr Addr} {cfgMgr : CfgMgr}
    (htakes : Takes Exporter.step start actions exporter (.finish i leaseMgr cfgMgr))
    (hentry : exporter.client.inFlight[i]? = some (request, some reply))
    (hanswered : AnsweredIn start actions request reply) (hrequest : request.TracedTo start actions) :
    ∀ next ∈ (handleReply request.handler reply).effects.flatMap (ClientEffect.posted leaseMgr cfgMgr),
      next.TracedTo start actions := by
  intro next hnext
  obtain ⟨effect, heffect, hposted⟩ := List.mem_flatMap.mp hnext
  obtain hsent | hrestored := List.mem_append.mp hposted
  · refine tracedTo_followUp hanswered hrequest next ?_
    exact List.mem_filterMap.mpr ⟨effect, heffect, Option.mem_toList.mp hsent⟩
  · cases effect with
    | sendRequest other => exact absurd hrestored List.not_mem_nil
    | log message => exact absurd hrestored List.not_mem_nil
    | hwAddrMapping mapping failed =>
        have hhandler := handler_of_hwAddrMapping_mem heffect
        rw [hhandler] at heffect
        refine tracedTo_of_onlyRoutes (fun effect hmem => ((onlyRoutes_restore hmem).of_mem hmem).mono ?_ nofun)
          next hrestored
        rintro routeInfo ⟨⟨rfl, lease, hlease, hrestores⟩, hexported⟩ dst hleads
        have hrestore : RestoredIn start actions leaseMgr cfgMgr mapping :=
          ⟨exporter, i, request, reply, htakes, hentry, hhandler, heffect⟩
        cases hrestores with
        | address hfind =>
            cases hleads with
            | fast => exact .restoredAddress hrestore hlease hfind hexported
        | iaPrefix hfind =>
            cases hleads with
            | nextHop => exact .restoredPrefix hrestore hlease hfind hexported

theorem traced_table (htraced : exporter.Traced start actions) (hrequest : request.TracedTo start actions) :
    (∀ src dst, (src, dst) ∈ request.run exporter.client.shared →
        (src, dst) ∈ start.client.shared ∨ HasLease start actions src dst) ∧
      ((∀ saved, .reboot saved ∉ actions) → ∀ src dst, (src, dst) ∈ start.client.shared →
        ¬ WithdrawnIn actions src → (src, dst) ∈ request.run exporter.client.shared) := by
  have hcommands : ∀ command ∈ request.cliCommands,
      command.OnlyIf (HasLease start actions) (WithdrawnIn actions) :=
    fun command hcommand => hrequest command (.posted (List.mem_singleton_self request) hcommand)
  refine ⟨fun src dst hmem => ?_, fun hreboot src dst hmem hkept => ?_⟩
  · obtain hold | hadded := UpdateTable.mem_or_added_of_mem_applyAll hmem
    · exact htraced.routes src dst hold
    · obtain ⟨command, hcommand, hupdate⟩ := List.mem_filterMap.mp hadded
      cases command <;> simp [Command.update?] at hupdate
      obtain ⟨rfl, rfl⟩ := hupdate
      exact .inr (hcommands _ hcommand)
  · refine mem_runCommands_of_not_removed (fun hremoved => hkept ?_) (htraced.kept hreboot src dst hmem hkept)
    exact hcommands _ hremoved

theorem traced_step {action : ExporterAction Addr} (htakes : Takes Exporter.step start actions exporter action)
    (hstep : exporter.step action = some exporter') (htraced : exporter.Traced start actions) :
    exporter'.Traced start actions := by
  obtain ⟨hrequests, hroutes, hkept⟩ := htraced
  cases Exporter.step_cases hstep with
  | callout event => exact ⟨hrequests.enqueue (tracedTo_of_callout htakes.mem), hroutes, hkept⟩
  | tick => exact ⟨hrequests, hroutes, hkept⟩
  | answerHeartbeat i reply => cases reply <;> exact ⟨hrequests, hroutes, hkept⟩
  | finishHeartbeat i reply heartbeatService =>
      refine ⟨hrequests.enqueue fun request hmem => ?_, hroutes, hkept⟩
      obtain ⟨effect, -, hposted⟩ := List.mem_flatMap.mp hmem
      cases effect with
      | connectionRestoredHandler => exact tracedTo_neighborLookup request hposted
      | _ => exact absurd hposted List.not_mem_nil
  | take request rest hqueue => exact ⟨hrequests.start hqueue, hroutes, hkept⟩
  | execute i request reached reply hentry =>
      have hrequest := hrequests.left_of_entry hentry
      obtain ⟨hroutes', hkept'⟩ := traced_table ⟨hrequests, hroutes, hkept⟩ hrequest
      refine ⟨?_, ?_, ?_⟩
      · cases reply with
        | some reply => exact hrequests.answer ⟨⟨exporter, i, reached, htakes, hentry⟩, hrequest⟩
        | none => exact hrequests.drop
      · rw [Exporter.execute_shared]
        cases reached with
        | true => exact hroutes'
        | false => exact hroutes
      · rw [Exporter.execute_shared]
        cases reached with
        | true => exact hkept'
        | false => exact hkept
  | finish i request reply leaseMgr cfgMgr hentry =>
      obtain ⟨hanswered, hrequest⟩ := hrequests.answered_of_entry hentry
      exact ⟨hrequests.close (tracedTo_of_finish htakes hentry hanswered hrequest), hroutes, hkept⟩
  | reorder queue hperm => exact ⟨hrequests.reorder hperm, hroutes, hkept⟩
  | reboot saved =>
      refine ⟨hrequests.disturb, fun src dst hmem => hroutes src dst (Finset.mem_inter.mp hmem).1, ?_⟩
      exact fun hreboot => absurd htakes.mem (hreboot saved)

theorem traced_run (hidle : start.client.Idle) (hrun : Run Exporter.step start actions exporter) :
    exporter.Traced start actions :=
  hrun.and_takes.invariant (fun mid => mid.Traced start actions)
    ⟨hidle.holds, fun _ _ hmem => .inl hmem, fun _ _ _ hmem _ => hmem⟩
    fun _ _ _ hok hstep htraced => traced_step hok.2 hstep htraced

/-- **No route without a lease.** However the callouts, the heartbeat, the restores and the workers interleave,
whatever the network loses and whatever the switch answers, a route that was not there at the start is for a
lease that the run exported, over the next hop that was found for that lease. -/
theorem route_hasLease (hidle : start.client.Idle) (hrun : Run Exporter.step start actions exporter)
    {src dst : String} (hroute : (src, dst) ∈ exporter.client.shared) :
    (src, dst) ∈ start.client.shared ∨ HasLease start actions src dst :=
  (traced_run hidle hrun).routes src dst hroute

/-! The selection of an address on an empty switch whose other route stays. -/

def emptyExporter (table : RouteTable) : Exporter := .create ⟨5, false, true, 0, true⟩ 4 table

def selectedAddress : List (ExporterAction TextAddress) :=
  [.callout (.lease6Select ⟨[]⟩ renewQuery addressLease false), .take,
    .execute 0 true (some (vlanReply "Vlan10")), .finish 0 ⟨[]⟩ ⟨none⟩, .take, .execute 0 true none]

def afterSelection (table : RouteTable) : Exporter :=
  (replay Exporter.step (emptyExporter table) selectedAddress).getD (emptyExporter table)

theorem run_afterSelection (table : RouteTable) :
    Run Exporter.step (emptyExporter table) selectedAddress (afterSelection table) :=
  run_of_replay rfl

theorem route_hasLease_selectedAddress :
    HasLease (emptyExporter ∅) selectedAddress (hostSubnet clientAddress) "Vlan10" := by
  have hroute : (hostSubnet clientAddress, "Vlan10") ∈ (afterSelection ∅).client.shared :=
    Finset.mem_insert_self _ ∅
  have hidle : (emptyExporter ∅).client.Idle := ⟨rfl, rfl⟩
  exact (route_hasLease hidle (run_afterSelection ∅) hroute).resolve_left (Finset.notMem_empty _)

/-- **No route lost without a callout.** While the switch does not reboot, a route stays unless a callout of the
run asked for the removal of its subnet. -/
theorem route_mem_of_not_withdrawn {start : Exporter} (hidle : start.client.Idle)
    (hrun : Run Exporter.step start actions exporter) (hreboot : ∀ saved, .reboot saved ∉ actions)
    {src dst : String} (hroute : (src, dst) ∈ start.client.shared) (hkept : ¬ WithdrawnIn actions src) :
    (src, dst) ∈ exporter.client.shared :=
  (traced_run hidle hrun).kept hreboot src dst hroute hkept

/-! A client renews its address while it asks for a prefix that it had before: the routes of both stay. -/

def keptQuery : Pkt6 TextAddress := ⟨12, [linkAddress], [⟨1, [clientAddress], []⟩], [⟨1, [], [⟨delegatedPrefix, 64⟩]⟩]⟩

def renewedAddress : List (ExporterAction TextAddress) :=
  [.callout (.lease6Renew ⟨[addressLease]⟩ keptQuery addressLease (some keptQuery.getOptionIANA)), .take,
    .execute 0 true (some (vlanReply "Vlan10")), .finish 0 ⟨[addressLease]⟩ ⟨none⟩, .take, .execute 0 true none]

def bothRoutes : RouteTable :=
  {(hostSubnet clientAddress, "Vlan10"), (prefixSubnet delegatedPrefix 64, "2001:db8::5")}

def afterRenewal : Exporter :=
  (replay Exporter.step (emptyExporter bothRoutes) renewedAddress).getD (emptyExporter bothRoutes)

theorem route_mem_of_not_withdrawn_renewedAddress :
    (hostSubnet clientAddress, "Vlan10") ∈ afterRenewal.client.shared ∧
      (prefixSubnet delegatedPrefix 64, "2001:db8::5") ∈ afterRenewal.client.shared := by
  have hrun : Run Exporter.step (emptyExporter bothRoutes) renewedAddress afterRenewal := run_of_replay rfl
  have hreboot : ∀ saved, .reboot saved ∉ renewedAddress := by
    intro saved
    simp [renewedAddress]
  have hkept : ∀ src, ¬ WithdrawnIn renewedAddress src := by
    rintro src ⟨event, hevent, hsubnet⟩
    obtain rfl : event = .lease6Renew ⟨[addressLease]⟩ keptQuery addressLease (some keptQuery.getOptionIANA) := by
      simpa [renewedAddress] using hevent
    exact absurd hsubnet List.not_mem_nil
  have haddress : (hostSubnet clientAddress, "Vlan10") ∈ bothRoutes := Finset.mem_insert_self _ _
  have hprefix : (prefixSubnet delegatedPrefix 64, "2001:db8::5") ∈ bothRoutes :=
    Finset.mem_insert_of_mem (Finset.mem_singleton_self _)
  exact ⟨route_mem_of_not_withdrawn ⟨rfl, rfl⟩ hrun hreboot haddress (hkept _),
    route_mem_of_not_withdrawn ⟨rfl, rfl⟩ hrun hreboot hprefix (hkept _)⟩

end Runs

end NxosExporter
