import NxosExporter.Proof.Reboot
import NxosExporter.Proof.RestoreFailure
import NxosExporter.Proof.RouteOrigin

/-!
# Recovering from a reboot

The heartbeat reply that notices that the switch came back posts a neighbor lookup, the lookup leads to a restore,
and the restore posts the command for every lease it gets to. At each moment one of these is on its way or the
route is there, while callouts, heartbeats and other restores go on beside.
-/

namespace NxosExporter

open Effectful WorkPool Transition

variable {Addr : Type}

section Restored

variable [IOAddress Addr]

/-- The entry that a route of a restore adds. -/
def RouteInfo.restored : RouteInfo Addr → Option (String × String)
  | iaNAFast srcVlanIfName iaNAAddr => some (hostSubnet iaNAAddr, srcVlanIfName)
  | iaPDInfo dstIaNAAddr iaPDPrefix iaPDLength =>
      some (prefixSubnet iaPDPrefix iaPDLength, IOAddress.toText dstIaNAAddr)
  | iaNAInfo _ _ | iaNAInfoFuzzyRemove _ | iaPDInfoFuzzyRemove _ _ => none

/-- A restore gets to a lease and sends it the route. -/
def RestoreReaches (leaseMgr : LeaseMgr Addr) (cfgMgr : CfgMgr) (mapping : HWAddrMap) (entry : String × String) :
    Prop :=
  ∃ subnets lease route, cfgMgr = configured subnets ∧
    lease ∈ throughFirst endsPass (restoredLeases leaseMgr subnets) ∧
    routeSent leaseMgr mapping lease = some route ∧ route.routeInfo.restored = some entry

def Request.Applies (request : Request) (entry : String × String) : Prop :=
  request.cliCommands = [.applyRouteIpv6 entry.1 entry.2]

variable {leaseMgr : LeaseMgr Addr} {cfgMgr : CfgMgr} {mapping : HWAddrMap} {entry : String × String}
  {effects : List (ServiceEffect Addr)} {effect : ServiceEffect Addr} {request : Request}

theorem mem_postedBy_of_ok (hok : ∀ effect ∈ effects, (clientCall leaseMgr effect).outcome = .ok ())
    (heffect : effect ∈ effects) (hrequest : request ∈ requestsOf (clientCall leaseMgr effect).effects) :
    request ∈ postedBy leaseMgr effects := by
  induction effects with
  | nil => exact absurd heffect List.not_mem_nil
  | cons first rest ih =>
      obtain ⟨hfirst, hrest⟩ := List.forall_mem_cons.mp hok
      rw [postedBy_cons_of_ok hfirst, List.mem_append]
      obtain rfl | hmem := List.mem_cons.mp heffect
      · exact .inl hrequest
      · exact .inr (ih hrest hmem)

/-- No export raises. -/
theorem clientCall_outcome_of_sent (route : RouteExport Addr) :
    (clientCall leaseMgr (.sendRoutesToSwitch route)).outcome = .ok () := by
  obtain ⟨tid, iaid, duid, routeInfo⟩ := route
  cases routeInfo <;> rfl

theorem clientCall_outcome_of_restore (heffect : effect ∈ (restoreCallback leaseMgr cfgMgr (some mapping)
    false).effects) : (clientCall leaseMgr effect).outcome = .ok () := by
  cases onlyRoutes_restore heffect with
  | sent route => exact clientCall_outcome_of_sent route
  | removed route hremoved => cases hremoved
  | handlerFailed => rfl
  | setStatusSkip => rfl
  | log message => rfl

theorem applies_of_restored {route : RouteExport Addr} (hrestored : route.routeInfo.restored = some entry) :
    ∃ request ∈ requestsOf (clientCall leaseMgr (.sendRoutesToSwitch route)).effects, request.Applies entry := by
  obtain ⟨tid, iaid, duid, routeInfo⟩ := route
  cases routeInfo with
  | iaNAFast srcVlanIfName iaNAAddr =>
      obtain rfl := Option.some.inj hrestored
      exact ⟨exportCommand iaNAAddr srcVlanIfName, by simp [clientCall, ClientEffect.request?, exportCommand], rfl⟩
  | iaPDInfo dstIaNAAddr iaPDPrefix iaPDLength =>
      obtain rfl := Option.some.inj hrestored
      exact ⟨exportPrefix dstIaNAAddr iaPDPrefix iaPDLength,
        by simp [clientCall, ClientEffect.request?, exportPrefix], rfl⟩
  | iaNAInfo _ _ => cases hrestored
  | iaNAInfoFuzzyRemove _ => cases hrestored
  | iaPDInfoFuzzyRemove _ _ => cases hrestored

theorem applies_of_restoreReaches (hreaches : RestoreReaches leaseMgr cfgMgr mapping entry) :
    ∃ request ∈ postedBy leaseMgr (restoreCallback leaseMgr cfgMgr (some mapping) false).effects,
      request.Applies entry := by
  obtain ⟨subnets, lease, route, rfl, hlease, hroute, hrestored⟩ := hreaches
  have hsent : route ∈ routesSent (restoreCallback leaseMgr (configured subnets) (some mapping) false).effects := by
    rw [routesSent_restoreCallback]
    exact List.mem_filterMap.mpr ⟨lease, hlease, hroute⟩
  obtain ⟨effect, heffect, hsome⟩ := List.mem_filterMap.mp hsent
  obtain rfl : effect = .sendRoutesToSwitch route := by
    cases effect <;> simp [ServiceEffect.sent?] at hsome
    rw [hsome]
  obtain ⟨request, hrequest, happlies⟩ := applies_of_restored hrestored
  refine ⟨request, ?_, happlies⟩
  exact mem_postedBy_of_ok (fun _ hmem => clientCall_outcome_of_restore hmem) heffect hrequest

theorem mem_run_of_applies (happlies : request.Applies entry) (table : RouteTable) : entry ∈ request.run table := by
  have hrun : request.run table = insert entry table := by
    rw [Request.run, happlies]
    rfl
  rw [hrun]
  exact Finset.mem_insert_self entry table

end Restored

/-! ### On its way -/

section Runs

variable [IOAddress Addr] {exporter exporter' : Exporter} {entry : String × String}
  {action : ExporterAction Addr}

/-- What the recovery of an entry asks of a step: a neighbor lookup is answered, and the restore that takes the
answer gets to the entry; commands for the entry reach the switch, and none removes it; a reboot saves it. -/
def Undisturbed (entry : String × String) (exporter : Exporter) : ExporterAction Addr → Prop
  | .execute i reached reply => ∀ request, exporter.client.inFlight[i]? = some (request, none) →
      (request.handler = .hwAddrMapping → reply.isSome) ∧ (request.Applies entry → reached = true) ∧
        .removeRouteIpv6 entry.1 entry.2 ∉ request.cliCommands
  | .finish i leaseMgr cfgMgr => ∀ request reply, exporter.client.inFlight[i]? = some (request, some reply) →
      request.handler = .hwAddrMapping → ∃ mapping,
        .hwAddrMapping mapping false ∈ (hwAddrMappingReply reply).effects ∧
          RestoreReaches leaseMgr cfgMgr mapping entry
  | .reboot saved => entry ∈ exporter.client.shared → entry ∈ saved
  | .callout _ | .tick | .answerHeartbeat _ _ | .finishHeartbeat _ | .take | .reorder _ => True

def Request.RecoversEntry (entry : String × String) (request : Request) : Prop :=
  request.handler = .hwAddrMapping ∨ request.Applies entry

/-- The entry is there, or a request that leads to it is on its way. -/
def Exporter.Recovering (entry : String × String) (exporter : Exporter) : Prop :=
  entry ∈ exporter.client.shared ∨
    exporter.client.Awaits (Request.RecoversEntry entry) fun request _ => request.handler = .hwAddrMapping

theorem recovering_execute {i : Nat} {request : Request} {reached : Bool} {reply : Option Reply}
    (hentry : exporter.client.inFlight[i]? = some (request, none))
    (hok : Undisturbed entry exporter (.execute i reached reply : ExporterAction Addr))
    (hrecovering : exporter.Recovering entry) : (exporter.execute i request reached reply).Recovering entry := by
  obtain ⟨hanswered, hreached, hkept⟩ := hok request hentry
  by_cases happlies : request.Applies entry
  · refine .inl ?_
    rw [Exporter.execute_shared, if_pos (hreached happlies)]
    exact mem_run_of_applies happlies _
  · refine hrecovering.imp (fun hmem => ?_) fun hawaits => ?_
    · rw [Exporter.execute_shared]
      split
      · exact mem_runCommands_of_not_removed hkept hmem
      · exact hmem
    · cases reply with
      | some reply => exact hawaits.answer hentry fun hleft => hleft.resolve_right happlies
      | none =>
          refine (hawaits.drop hentry).resolve_right fun hleft => ?_
          exact absurd (hanswered (hleft.resolve_right happlies)) Bool.false_ne_true

theorem recovering_finish {i : Nat} {request : Request} {reply : Reply} {leaseMgr : LeaseMgr Addr}
    {cfgMgr : CfgMgr} (hentry : exporter.client.inFlight[i]? = some (request, some reply))
    (hok : Undisturbed entry exporter (.finish i leaseMgr cfgMgr)) (hrecovering : exporter.Recovering entry) :
    (exporter.finish i request reply leaseMgr cfgMgr).Recovering entry := by
  refine hrecovering.imp id fun hawaits => ?_
  obtain hleft | hhandler := hawaits.close hentry
    ((handleReply request.handler reply).effects.flatMap (ClientEffect.posted leaseMgr cfgMgr))
  · exact hleft
  · obtain ⟨mapping, hmapping, hreaches⟩ := hok request reply hentry hhandler
    obtain ⟨next, hnext, happlies⟩ := applies_of_restoreReaches hreaches
    refine Pool.awaits_close_of_mem (List.mem_flatMap.mpr ⟨.hwAddrMapping mapping false, ?_, ?_⟩) (.inr happlies)
    · rw [hhandler]
      exact hmapping
    · exact List.mem_append_right _ hnext

variable [DecidableEq Addr]

theorem recovering_step (hok : Undisturbed entry exporter action) (hstep : exporter.step action = some exporter')
    (hrecovering : exporter.Recovering entry) : exporter'.Recovering entry := by
  cases Exporter.step_cases hstep with
  | callout event => exact hrecovering.imp id Pool.Awaits.enqueue
  | tick => exact hrecovering
  | answerHeartbeat i reply => cases reply <;> exact hrecovering
  | finishHeartbeat i reply heartbeatService => exact hrecovering.imp id Pool.Awaits.enqueue
  | take request rest hqueue => exact hrecovering.imp id fun hawaits => hawaits.start hqueue
  | execute i request reached reply hentry => exact recovering_execute hentry hok hrecovering
  | finish i request reply leaseMgr cfgMgr hentry => exact recovering_finish hentry hok hrecovering
  | reorder queue hperm => exact hrecovering.imp id fun hawaits => hawaits.reorder hperm
  | reboot saved =>
      exact hrecovering.imp (fun hmem => Finset.mem_inter.mpr ⟨hmem, hok hmem⟩) Pool.Awaits.disturb

/-- The reply that notices the return of the switch posts the neighbor lookup. -/
theorem recovering_of_noticed {i : Nat} {reply : Reply} {uptime : UptimeResponse}
    (hreply : exporter.heartbeats[i]? = some (some reply)) (huptime : reportedUptime reply = some uptime)
    (hdetects : exporter.heartbeatService.detectsReboot (getUptimeSecondsFromResponse uptime) = true)
    (hhandler : exporter.heartbeatService.connectionRestoredHandler = true)
    (hstep : exporter.step (.finishHeartbeat i : ExporterAction Addr) = some exporter') :
    exporter'.Recovering entry := by
  cases Exporter.step_cases hstep with
  | finishHeartbeat i other heartbeatService hother hhandled =>
      obtain rfl : reply = other := Option.some.inj (Option.some.inj (hreply.symm.trans hother))
      have hmem := (connectionRestoredHandler_mem_iff hhandler huptime).mpr hdetects
      have hlookup : ∃ request ∈ HeartbeatEffect.connectionRestoredHandler.posted,
          request.handler = .hwAddrMapping := ⟨_, List.mem_singleton_self _, rfl⟩
      obtain ⟨request, hposted, hkind⟩ := hlookup
      exact .inr (Pool.awaits_of_mem (List.mem_flatMap.mpr ⟨_, hmem, hposted⟩) (.inl hkind))

/-- **Recovery.** Once a heartbeat reply has noticed that the switch came back, a run that lets the restore take
place ends with the route, whatever else goes on in it: callouts for other routes, heartbeats, other restores. -/
theorem route_recovered {start noticed : Exporter} {i : Nat} {reply : Reply} {uptime : UptimeResponse}
    {actions : List (ExporterAction Addr)} (hreply : start.heartbeats[i]? = some (some reply))
    (huptime : reportedUptime reply = some uptime)
    (hdetects : start.heartbeatService.detectsReboot (getUptimeSecondsFromResponse uptime) = true)
    (hhandler : start.heartbeatService.connectionRestoredHandler = true)
    (hstep : start.step (.finishHeartbeat i : ExporterAction Addr) = some noticed)
    (hrun : RunWhere Exporter.step (Undisturbed entry) noticed actions exporter) (hidle : exporter.client.Idle) :
    entry ∈ exporter.client.shared := by
  have hrecovering : exporter.Recovering entry :=
    hrun.invariant (fun mid => mid.Recovering entry)
      (recovering_of_noticed hreply huptime hdetects hhandler hstep)
      fun _ _ _ hok hnext hmid => recovering_step hok hnext hmid
  exact hrecovering.resolve_right hidle.not_awaits

def neighborLease : Lease6 TextAddress :=
  { addressLease with hwaddr := some ⟨1, [0xf6, 0xa5, 0x48, 0x6e, 0x8a, 0xad]⟩ }

/-- The first reply of the switch is there. -/
def returnedExporter : Exporter where
  heartbeatService := startedService
  heartbeats := [some (uptimeAfter 50)]
  client := .create 1 ∅
  sent := []
  logged := []

def noticedExporter : Exporter :=
  (returnedExporter.step (.finishHeartbeat 0 : ExporterAction TextAddress)).getD returnedExporter

def afterReturn (actions : List (ExporterAction TextAddress)) : Exporter :=
  (replay Exporter.step noticedExporter actions).getD noticedExporter

def lookupAnswered : ExporterAction TextAddress := .execute 0 true (some (neighborReply "f6a5.486e.8aad"))

def restored : ExporterAction TextAddress := .finish 0 ⟨[neighborLease]⟩ (configured [1])

abbrev RecoveringRun (actions : List (ExporterAction TextAddress)) : Prop :=
  RunWhere Exporter.step (Undisturbed (hostSubnet clientAddress, "Vlan10")) noticedExporter actions
    (afterReturn actions)

theorem route_recovered_neighborLease :
    (hostSubnet clientAddress, "Vlan10")
      ∈ (afterReturn [.take, lookupAnswered, restored, .take, .execute 0 true none]).client.shared := by
  have htaken : RecoveringRun [.take] := .single trivial rfl
  have hanswered : RecoveringRun [.take, lookupAnswered] := by
    refine htaken.snoc ?_ rfl
    rintro request hentry
    obtain rfl := (Prod.mk.inj (Option.some.inj hentry)).1
    exact ⟨fun _ => rfl, fun _ => rfl, by decide⟩
  have hfinished : RecoveringRun [.take, lookupAnswered, restored] := by
    refine hanswered.snoc ?_ rfl
    rintro request reply hentry -
    obtain rfl := Option.some.inj (Prod.mk.inj (Option.some.inj hentry)).2
    refine ⟨[(⟨1, [0xf6, 0xa5, 0x48, 0x6e, 0x8a, 0xad]⟩, "Vlan10")], List.mem_singleton_self _, [1], neighborLease,
      ⟨0, 1, some ⟨[1]⟩, .iaNAFast "Vlan10" clientAddress⟩, rfl, List.mem_singleton_self _, rfl, rfl⟩
  have hcommanded : RecoveringRun [.take, lookupAnswered, restored, .take] := hfinished.snoc trivial rfl
  have hrun : RecoveringRun [.take, lookupAnswered, restored, .take, .execute 0 true none] := by
    refine hcommanded.snoc ?_ rfl
    rintro request hentry
    obtain rfl := (Prod.mk.inj (Option.some.inj hentry)).1
    exact ⟨fun hhandler => (nomatch hhandler), fun _ => rfl, by decide⟩
  have hreply : returnedExporter.heartbeats[0]? = some (some (uptimeAfter 50)) := rfl
  exact route_recovered hreply rfl rfl rfl rfl hrun ⟨rfl, rfl⟩

end Runs

end NxosExporter
