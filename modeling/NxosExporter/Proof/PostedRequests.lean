import NxosExporter.Exporter
import NxosExporter.Proof.PrefixRoute

/-!
# What is posted

The requests that an effect of the service posts, and the effects of the closures that take the replies.
-/

namespace NxosExporter

open Effectful

variable {Addr : Type}

section Effects

variable [IOAddress Addr] {leaseMgr : LeaseMgr Addr} {effect : ServiceEffect Addr} {request : Request}

theorem mem_postedBy {effects : List (ServiceEffect Addr)} {request : Request}
    (hmem : request ∈ postedBy leaseMgr effects) :
    ∃ effect ∈ effects, request ∈ requestsOf (clientCall leaseMgr effect).effects := by
  induction effects with
  | nil => exact absurd hmem List.not_mem_nil
  | cons effect rest ih =>
      rw [postedBy, Prog.forEach_cons, Prog.bind_eq, Prog.bind] at hmem
      have hcases : request ∈ requestsOf (clientCall leaseMgr effect).effects ∨
          request ∈ postedBy leaseMgr rest := by
        cases houtcome : (clientCall leaseMgr effect).outcome with
        | ok value =>
            simp only [houtcome, requestsOf_append, List.mem_append] at hmem
            exact hmem
        | throw exn =>
            simp only [houtcome] at hmem
            exact .inl hmem
        | undefined =>
            simp only [houtcome] at hmem
            exact .inl hmem
      obtain hfirst | hrest := hcases
      · exact ⟨effect, List.mem_cons_self, hfirst⟩
      · obtain ⟨other, hother, hposted⟩ := ih hrest
        exact ⟨other, List.mem_cons_of_mem effect hother, hposted⟩

/-- The requests that an export or a removal of a route starts with. -/
inductive RouteInfo.Posts : RouteInfo Addr → Request → Prop
  | exportLookup (srcVlanAddr iaNAAddr : Addr) :
      Posts (.iaNAInfo srcVlanAddr iaNAAddr) (exportLookup srcVlanAddr iaNAAddr)
  | removalLookup (srcVlanAddr iaNAAddr : Addr) :
      Posts (.iaNAInfo srcVlanAddr iaNAAddr) (removalLookup srcVlanAddr iaNAAddr)
  | exportCommand (srcVlanIfName : String) (iaNAAddr : Addr) :
      Posts (.iaNAFast srcVlanIfName iaNAAddr) (exportCommand iaNAAddr srcVlanIfName)
  | exportPrefix (dstIaNAAddr iaPDPrefix : Addr) (iaPDLength : UInt8) :
      Posts (.iaPDInfo dstIaNAAddr iaPDPrefix iaPDLength) (exportPrefix dstIaNAAddr iaPDPrefix iaPDLength)
  | removalPrefix (dstIaNAAddr iaPDPrefix : Addr) (iaPDLength : UInt8) :
      Posts (.iaPDInfo dstIaNAAddr iaPDPrefix iaPDLength) (removalPrefix dstIaNAAddr iaPDPrefix iaPDLength)
  | addressLookup (iaNAAddr : Addr) : Posts (.iaNAInfoFuzzyRemove iaNAAddr) (addressLookup iaNAAddr)
  | foundPrefix (iaPDPrefix iaNAAddr : Addr) (iaPDLength : UInt8) :
      Posts (.iaPDInfoFuzzyRemove iaPDPrefix iaPDLength)
        ⟨[(1, .removeRouteIpv6 (prefixSubnet iaPDPrefix iaPDLength) (hostSubnet iaNAAddr))],
          .routeRemove "IA_PD" (prefixSubnet iaPDPrefix iaPDLength) (hostSubnet iaNAAddr)⟩
  | prefixLookup (iaPDPrefix : Addr) (iaPDLength : UInt8) :
      Posts (.iaPDInfoFuzzyRemove iaPDPrefix iaPDLength)
        ⟨[(1, .mappingVlanAddrToVlanId (prefixSubnet iaPDPrefix iaPDLength))],
          .lookupAddress (prefixSubnet iaPDPrefix iaPDLength) "IA_PD"
            (.fuzzyRemoveIAPD (prefixSubnet iaPDPrefix iaPDLength) "IA_PD")⟩

def neighborLookup : Request := ⟨[(1, .showIPv6Neighbour)], .hwAddrMapping⟩

theorem posts_of_sent {route : RouteExport Addr}
    (hmem : request ∈ requestsOf (clientCall leaseMgr (.sendRoutesToSwitch route)).effects) :
    route.routeInfo.Posts request := by
  obtain ⟨tid, iaid, duid, routeInfo⟩ := route
  cases routeInfo with
  | iaNAInfo srcVlanAddr iaNAAddr =>
      obtain rfl := List.mem_singleton.mp hmem
      exact .exportLookup srcVlanAddr iaNAAddr
  | iaNAFast srcVlanIfName iaNAAddr =>
      obtain rfl := List.mem_singleton.mp hmem
      exact .exportCommand srcVlanIfName iaNAAddr
  | iaPDInfo dstIaNAAddr iaPDPrefix iaPDLength =>
      obtain rfl := List.mem_singleton.mp hmem
      exact .exportPrefix dstIaNAAddr iaPDPrefix iaPDLength
  | iaNAInfoFuzzyRemove iaNAAddr => exact absurd hmem List.not_mem_nil
  | iaPDInfoFuzzyRemove iaPDPrefix iaPDLength => exact absurd hmem List.not_mem_nil

theorem posts_of_removed {route : RouteExport Addr}
    (hmem : request ∈ requestsOf (clientCall leaseMgr (.removeRoutesFromSwitch route)).effects) :
    route.routeInfo.Posts request := by
  obtain ⟨tid, iaid, duid, routeInfo⟩ := route
  cases routeInfo with
  | iaNAInfo srcVlanAddr iaNAAddr =>
      obtain rfl := List.mem_singleton.mp hmem
      exact .removalLookup srcVlanAddr iaNAAddr
  | iaNAFast srcVlanIfName iaNAAddr => exact absurd hmem List.not_mem_nil
  | iaPDInfo dstIaNAAddr iaPDPrefix iaPDLength =>
      obtain rfl := List.mem_singleton.mp hmem
      exact .removalPrefix dstIaNAAddr iaPDPrefix iaPDLength
  | iaNAInfoFuzzyRemove iaNAAddr =>
      obtain rfl := List.mem_singleton.mp hmem
      exact .addressLookup iaNAAddr
  | iaPDInfoFuzzyRemove iaPDPrefix iaPDLength =>
      rw [clientCall, removeRoutesFromSwitch] at hmem
      cases hfind : findIANALeaseByDUIDIAID leaseMgr duid iaid with
      | some leaseIANA =>
          simp only [hfind] at hmem
          obtain rfl := List.mem_singleton.mp hmem
          exact .foundPrefix iaPDPrefix leaseIANA.addr iaPDLength
      | none =>
          simp only [hfind] at hmem
          obtain rfl := List.mem_singleton.mp hmem
          exact .prefixLookup iaPDPrefix iaPDLength

/-- A request that an effect of the service posts is for a route. -/
theorem posts_of_clientCall (hmem : request ∈ requestsOf (clientCall leaseMgr effect).effects) :
    ∃ routeInfo : RouteInfo Addr, routeInfo.Posts request := by
  cases effect with
  | sendRoutesToSwitch route => exact ⟨_, posts_of_sent hmem⟩
  | removeRoutesFromSwitch route => exact ⟨_, posts_of_removed hmem⟩
  | handlerFailed => exact absurd hmem List.not_mem_nil
  | setStatusSkip => exact absurd hmem List.not_mem_nil
  | log message => exact absurd hmem List.not_mem_nil

end Effects

section Replies

/-- The effects of the closure of a route lookup. -/
inductive ClientEffect.OfLookup : ClientEffect → Prop
  | sendRequest (request : Request) (hjudges : request.JudgesItself)
      (hcommand : request.handler.update?.isSome = true) : OfLookup (.sendRequest request)
  | log (message : LogMessage) (hnone : message.verdict? = none) : OfLookup (.log message)

theorem ofLookup_withVlanIfName {routeLookup : RouteLookupResponse} {next : String → ClientProg Unit}
    (hnext : ∀ vlanIfName, ∀ effect ∈ (next vlanIfName).effects, effect.OfLookup) :
    ∀ effect ∈ (withVlanIfName routeLookup next).effects, effect.OfLookup := by
  refine Prog.forall_effects_bind (Prog.forall_effects_tryCatch (by simp) fun ex => ?_) fun vlanIfName => ?_
  · refine Prog.forall_effects_bind (List.forall_mem_singleton.mpr (.log _ ?_)) fun _ => by simp
    split <;> rfl
  · cases vlanIfName with
    | some vlanIfName => exact hnext vlanIfName
    | none => simp

theorem ofLookup_runLookupHandler (responseHandler : LookupHandler) (routeLookup : RouteLookupResponse) :
    ∀ effect ∈ (runLookupHandler responseHandler routeLookup).effects, effect.OfLookup := by
  have hsend : ∀ request : Request, request.JudgesItself → request.handler.update?.isSome = true →
      ∀ effect ∈ (sendRequest request.commands request.handler).effects, effect.OfLookup :=
    fun request hjudges hcommand => List.forall_mem_singleton.mpr (.sendRequest _ hjudges hcommand)
  cases responseHandler with
  | applyIANA iaNAAddrStr linkAddrStr dhcpv6TypeStr =>
      exact ofLookup_withVlanIfName fun _ => hsend ⟨_, _⟩ rfl rfl
  | removeIANA iaNAAddrStr linkAddrStr dhcpv6TypeStr =>
      exact ofLookup_withVlanIfName fun _ => hsend ⟨_, _⟩ rfl rfl
  | fuzzyRemoveIANA iaNAAddrStr dhcpv6TypeStr =>
      exact Prog.forall_effects_bind (by simp) fun _ => hsend ⟨_, _⟩ rfl rfl
  | fuzzyRemoveIAPD srcIAPDSubnetStr dhcpv6TypeStr =>
      refine Prog.forall_effects_bind (by simp) fun addrfRow => ?_
      refine Prog.forall_effects_bind (by simp) fun guard => ?_
      cases guard with
      | true => exact List.forall_mem_singleton.mpr (.log _ rfl)
      | false => exact Prog.forall_effects_bind (by simp) fun _ => hsend ⟨_, _⟩ rfl rfl

theorem ofLookup_lookupAddressReply (responseHandler : LookupHandler) (reply : Reply) :
    ∀ effect ∈ (lookupAddressReply responseHandler reply).effects, effect.OfLookup := by
  refine Prog.forall_effects_bind (Prog.forall_effects_tryCatch (by simp) fun ex => ?_) fun routeLookup => ?_
  · exact Prog.forall_effects_bind (List.forall_mem_singleton.mpr (.log _ rfl)) fun _ => by simp
  · cases routeLookup with
    | some routeLookup => exact ofLookup_runLookupHandler responseHandler routeLookup
    | none => simp

/-- What follows a reply is the command for a route, which judges itself. -/
theorem command_of_mem_followUps {request next : Request} {reply : Reply} (hmem : next ∈ followUps request reply) :
    next.JudgesItself ∧ next.handler.update?.isSome = true := by
  obtain ⟨commands, handler⟩ := request
  cases handler with
  | lookupAddress lookupAddrStr lookupAddrType responseHandler =>
      obtain ⟨effect, heffect, hsome⟩ := List.mem_filterMap.mp hmem
      cases ofLookup_lookupAddressReply responseHandler reply effect heffect with
      | sendRequest own hjudges hcommand =>
          obtain rfl := Option.some.inj hsome
          exact ⟨hjudges, hcommand⟩
      | log message => cases hsome
  | routeApply type src dst => exact absurd (followUps_routeApply ▸ hmem) List.not_mem_nil
  | routeRemove type src dst => exact absurd (followUps_routeRemove ▸ hmem) List.not_mem_nil
  | hwAddrMapping => exact absurd (followUps_hwAddrMapping ▸ hmem) List.not_mem_nil

/-- Only the closure of the neighbor lookup hands a mapping over. -/
theorem handler_of_hwAddrMapping_mem {handler : ResponseHandler} {reply : Reply} {mapping : HWAddrMap}
    {failed : Bool} (hmem : .hwAddrMapping mapping failed ∈ (handleReply handler reply).effects) :
    handler = .hwAddrMapping := by
  cases handler with
  | lookupAddress lookupAddrStr lookupAddrType responseHandler =>
      cases ofLookup_lookupAddressReply responseHandler reply _ hmem
  | routeApply type src dst =>
      rw [handleReply, handleRouteApply] at hmem
      cases hcheck : checkRouteReply reply <;> simp [hcheck] at hmem
  | routeRemove type src dst =>
      rw [handleReply, handleRouteRemove] at hmem
      cases hcheck : checkRouteReply reply <;> simp [hcheck] at hmem
  | hwAddrMapping => rfl

end Replies

end NxosExporter
