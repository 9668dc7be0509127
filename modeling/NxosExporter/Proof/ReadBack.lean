import NxosExporter.CommandText
import NxosExporter.Proof.NeighborMap
import NxosExporter.Proof.RouteOrigin
import NxosExporter.Proof.AddressExpiry

/-!
# What the switch reads

The names that go into a command come from the addresses of Kea, from the VLAN names that the neighbor map lets
through, and, unchecked, from the replies to route lookups. While no reply names an interface or a next hop with a
blank in it, every request body of a run is read as the commands that the client meant.
-/

namespace NxosExporter

open Effectful WorkPool Transition

variable {Addr : Type} {reply : Reply} {request next : Request}

/-! ### Names -/

theorem isWord_append {first second : String} (hfirst : IsWord first) (hsecond : IsWord second) :
    IsWord (first ++ second) := by
  rw [IsWord, String.toList_append, List.mem_append, not_or]
  exact ⟨hfirst, hsecond⟩

theorem isWord_of_isValidVlanName {ifName : String} (hvalid : isValidVlanName ifName = true) : IsWord ifName := by
  obtain ⟨word, digits, hname, hword, -, hdigits⟩ := (isValidVlanName_iff ifName).mp hvalid
  intro hblank
  rw [hname, List.mem_append] at hblank
  obtain hblank | hblank := hblank
  · have hlower : ' '.toLower ∈ word.map Char.toLower := List.mem_map_of_mem hblank
    rw [hword] at hlower
    exact absurd hlower (by decide)
  · exact absurd (hdigits ' ' hblank) (by decide)

theorem isWord_toString (n : Nat) : IsWord (toString n) := by
  intro hblank
  have hdigits : ' ' ∈ Nat.toDigits 10 n := by simpa [toString, Nat.repr] using hblank
  exact absurd (Nat.isDigit_of_mem_toDigits (by decide) (by decide) hdigits) (by decide)

/-- The names that a path gives to the client. -/
def RowPath.NamesWords (path : RowPath) : Prop :=
  ∀ name, some name ∈ path.ifname ++ path.ipnexthop → IsWord name

/-- The names in the reply to a route lookup. -/
def Reply.NamesWords (reply : Reply) : Prop :=
  ∀ routeLookup path, decodeRouteLookup reply = .ok routeLookup → ComesDownTo routeLookup path → path.NamesWords

theorem isWord_of_lookedUp {accepts : String → Bool} {noneAccepted name : String} {routeLookup : RouteLookupResponse}
    (hwords : reply.NamesWords) (hdecode : decodeRouteLookup reply = .ok routeLookup)
    (hlookup : lookupIfName accepts noneAccepted routeLookup = .ok name) : IsWord name := by
  obtain ⟨path, hdown, hfind⟩ := lookupIfName_eq_ok_iff.mp hlookup
  have hmem : some name ∈ path.ifname := by simpa using List.mem_of_find?_eq_some hfind
  exact hwords routeLookup path hdecode hdown name (List.mem_append_left _ hmem)

/-! ### The commands that a request leads to -/

/-- The texts that a continuation puts into its commands. -/
def LookupHandler.IsPlain : LookupHandler → Prop
  | applyIANA iaNAAddrStr _ _ | removeIANA iaNAAddrStr _ _ | fuzzyRemoveIANA iaNAAddrStr _ => IsWord iaNAAddrStr
  | fuzzyRemoveIAPD srcIAPDSubnetStr _ => IsWord srcIAPDSubnetStr

structure Request.IsPlain (request : Request) : Prop where
  commands : ∀ command ∈ request.cliCommands, command.IsPlain
  handler : ∀ lookupAddrStr lookupAddrType responseHandler,
    request.handler = .lookupAddress lookupAddrStr lookupAddrType responseHandler → responseHandler.IsPlain

theorem isPlain_applyRouteIpv6 {src dst : String} (hsrc : IsWord src) (hdst : IsWord dst) :
    (Command.applyRouteIpv6 src dst).IsPlain := by
  simp only [Command.IsPlain, Command.words, List.forall_mem_cons]
  exact ⟨by decide, by decide, hsrc, hdst, fun _ hmem => absurd hmem List.not_mem_nil⟩

theorem isPlain_removeRouteIpv6 {src dst : String} (hsrc : IsWord src) (hdst : IsWord dst) :
    (Command.removeRouteIpv6 src dst).IsPlain := by
  simp only [Command.IsPlain, Command.words, List.forall_mem_cons]
  exact ⟨by decide, by decide, by decide, hsrc, hdst, fun _ hmem => absurd hmem List.not_mem_nil⟩

theorem isPlain_removeNDCacheEntryIpv6 {ifName : String} (hname : IsWord ifName) :
    (Command.removeNDCacheEntryIpv6 ifName).IsPlain := by
  simp only [Command.IsPlain, Command.words, List.forall_mem_cons]
  exact ⟨by decide, by decide, by decide, hname, by decide, fun _ hmem => absurd hmem List.not_mem_nil⟩

theorem isPlain_mappingVlanAddrToVlanId {vlanAddr : String} (hname : IsWord vlanAddr) :
    (Command.mappingVlanAddrToVlanId vlanAddr).IsPlain := by
  simp only [Command.IsPlain, Command.words, List.forall_mem_cons]
  exact ⟨by decide, by decide, by decide, hname, fun _ hmem => absurd hmem List.not_mem_nil⟩

/-- A command for a route has no continuation. -/
theorem isPlain_routeApply {type src dst : String} (hsrc : IsWord src) (hdst : IsWord dst) :
    Request.IsPlain ⟨[(1, .applyRouteIpv6 src dst)], .routeApply type src dst⟩ :=
  ⟨List.forall_mem_singleton.mpr (isPlain_applyRouteIpv6 hsrc hdst), fun _ _ _ hhandler => nomatch hhandler⟩

theorem isPlain_routeRemove {type src dst : String} (hsrc : IsWord src) (hdst : IsWord dst) :
    Request.IsPlain ⟨[(1, .removeRouteIpv6 src dst)], .routeRemove type src dst⟩ :=
  ⟨List.forall_mem_singleton.mpr (isPlain_removeRouteIpv6 hsrc hdst), fun _ _ _ hhandler => nomatch hhandler⟩

theorem isPlain_sendRemoveIANA {type src dst : String} (hsrc : IsWord src) (hdst : IsWord dst) :
    Request.IsPlain ⟨[(1, .removeRouteIpv6 src dst), (2, .removeNDCacheEntryIpv6 dst)],
      .routeRemove type src dst⟩ := by
  refine ⟨fun command hcommand => ?_, fun _ _ _ hhandler => nomatch hhandler⟩
  obtain rfl | rfl : command = .removeRouteIpv6 src dst ∨ command = .removeNDCacheEntryIpv6 dst := by
    simpa [Request.cliCommands] using hcommand
  · exact isPlain_removeRouteIpv6 hsrc hdst
  · exact isPlain_removeNDCacheEntryIpv6 hdst

theorem isPlain_lookup {lookupAddrStr lookupAddrType : String} {responseHandler : LookupHandler}
    (haddress : IsWord lookupAddrStr) (hhandler : responseHandler.IsPlain) :
    Request.IsPlain ⟨[(1, .mappingVlanAddrToVlanId lookupAddrStr)],
      .lookupAddress lookupAddrStr lookupAddrType responseHandler⟩ := by
  refine ⟨List.forall_mem_singleton.mpr (isPlain_mappingVlanAddrToVlanId haddress), ?_⟩
  rintro _ _ other heq
  cases heq
  exact hhandler

theorem isPlain_neighborLookup : neighborLookup.IsPlain := by
  refine ⟨List.forall_mem_singleton.mpr ?_, fun _ _ _ hhandler => nomatch hhandler⟩
  show Command.showIPv6Neighbour.IsPlain
  decide

theorem isPlain_followUp (hwords : reply.NamesWords) (hrequest : request.IsPlain)
    (hnext : next ∈ followUps request reply) : next.IsPlain := by
  obtain ⟨commands, handler⟩ := request
  cases handler with
  | lookupAddress lookupAddrStr lookupAddrType responseHandler =>
      have hplain : responseHandler.IsPlain := hrequest.handler _ _ _ rfl
      cases responseHandler with
      | applyIANA iaNAAddrStr linkAddrStr dhcpv6TypeStr =>
          rw [followUps_applyIANA] at hnext
          obtain ⟨vlanIfName, hvlan, rfl⟩ := List.mem_map.mp hnext
          obtain ⟨routeLookup, hdecode, hlookup⟩ := lookedUpVlan_eq_some_iff.mp (Option.mem_toList.mp hvlan)
          exact isPlain_routeApply hplain (isWord_of_lookedUp hwords hdecode hlookup)
      | removeIANA iaNAAddrStr linkAddrStr dhcpv6TypeStr =>
          rw [followUps_removeIANA] at hnext
          obtain ⟨vlanIfName, hvlan, rfl⟩ := List.mem_map.mp hnext
          obtain ⟨routeLookup, hdecode, hlookup⟩ := lookedUpVlan_eq_some_iff.mp (Option.mem_toList.mp hvlan)
          exact isPlain_sendRemoveIANA hplain (isWord_of_lookedUp hwords hdecode hlookup)
      | fuzzyRemoveIANA iaNAAddrStr dhcpv6TypeStr =>
          rw [followUps_fuzzyRemoveIANA] at hnext
          obtain ⟨vlanIfName, hvlan, rfl⟩ := List.mem_map.mp hnext
          obtain ⟨routeLookup, hdecode, hlookup⟩ := lookedUpFuzzyVlan_eq_some_iff.mp (Option.mem_toList.mp hvlan)
          exact isPlain_sendRemoveIANA hplain (isWord_of_lookedUp hwords hdecode hlookup)
      | fuzzyRemoveIAPD srcIAPDSubnetStr dhcpv6TypeStr =>
          obtain ⟨routeLookup, path, iaNAAddrStr, hdecode, hdown, hmem, rfl⟩ := removal_of_fuzzyRemoveIAPD hnext
          have hword : IsWord iaNAAddrStr :=
            hwords routeLookup path hdecode hdown iaNAAddrStr (List.mem_append_right _ hmem)
          exact isPlain_routeRemove hplain hword
  | routeApply type src dst => exact absurd (followUps_routeApply ▸ hnext) List.not_mem_nil
  | routeRemove type src dst => exact absurd (followUps_routeRemove ▸ hnext) List.not_mem_nil
  | hwAddrMapping => exact absurd (followUps_hwAddrMapping ▸ hnext) List.not_mem_nil

/-! ### The neighbor map -/

section Mapping

variable {mapping mapping' : HWAddrMap} {objects : List AdjObject}

/-- The map holds names of VLAN interfaces only. -/
def OnlyVlanNames (mapping : HWAddrMap) : Prop :=
  ∀ hwAddr ifName, mapping.find hwAddr = some ifName → isValidVlanName ifName = true

theorem onlyVlanNames_collectObject {object : AdjObject} (honly : OnlyVlanNames mapping)
    (hcollect : collectObject mapping object = .ok mapping') : OnlyVlanNames mapping' := by
  rw [collectObject] at hcollect
  split at hcollect
  · rename_i hvalid
    obtain ⟨key, -, hinsert⟩ := Outcome.bind_eq_ok_iff.mp hcollect
    obtain rfl : mapping.insert key object.intfOut = mapping' := Outcome.ok.inj hinsert
    intro hwAddr ifName hfind
    rw [HWAddrMap.find_insert] at hfind
    split at hfind
    · obtain rfl := Option.some.inj hfind
      exact hvalid
    · exact honly hwAddr ifName hfind
  · obtain rfl := Outcome.ok.inj hcollect
    exact honly

theorem onlyVlanNames_foldlM (honly : OnlyVlanNames mapping)
    (hcollect : objects.foldlM collectObject mapping = .ok mapping') : OnlyVlanNames mapping' := by
  induction objects generalizing mapping with
  | nil =>
      obtain rfl := Outcome.ok.inj hcollect
      exact honly
  | cons object rest ih =>
      rw [List.foldlM_cons] at hcollect
      obtain ⟨next, hnext, hrest⟩ := Outcome.bind_eq_ok_iff.mp hcollect
      exact ih (onlyVlanNames_collectObject honly hnext) hrest

theorem onlyVlanNames_of_mem (hmem : .hwAddrMapping mapping false ∈ (hwAddrMappingReply reply).effects) :
    OnlyVlanNames mapping := by
  have hcollected : ∃ neighborLookup, collectMapping neighborLookup = .ok mapping := by
    by_cases hanswered : reply.responseError = .success ∧ reply.statusCode = 200
    · rw [hwAddrMappingReply_eq hanswered.1 hanswered.2] at hmem
      cases hread : readNeighbors reply with
      | ok neighborLookup =>
          simp only [hread] at hmem
          cases hcollect : collectMapping neighborLookup with
          | ok collected =>
              obtain rfl : mapping = collected := by simpa [hcollect] using hmem
              exact ⟨neighborLookup, hcollect⟩
          | throw exn => simp [hcollect] at hmem
          | undefined => simp [hcollect] at hmem
      | throw exn => simp [hread, logMessage] at hmem
      | undefined => simp [hread] at hmem
    · rw [hwAddrMappingReply_of_failed hanswered] at hmem
      simp at hmem
  obtain ⟨neighborLookup, hcollect⟩ := hcollected
  rw [collectMapping_eq] at hcollect
  refine onlyVlanNames_foldlM ?_ hcollect
  intro hwAddr ifName hfind
  cases hfind

end Mapping

/-! ### What the service posts -/

section Posted

variable [IOAddress Addr] (haddresses : ∀ address : Addr, IsWord (IOAddress.toText address))
  {leaseMgr : LeaseMgr Addr} {effects : List (ServiceEffect Addr)}

include haddresses

theorem isWord_hostSubnet (address : Addr) : IsWord (hostSubnet address) :=
  isWord_append (haddresses address) (by decide)

theorem isWord_prefixSubnet (iaPDPrefix : Addr) (iaPDLength : UInt8) : IsWord (prefixSubnet iaPDPrefix iaPDLength) :=
  isWord_append (isWord_append (haddresses iaPDPrefix) (by decide)) (isWord_toString _)

/-- The interface of a route that is exported without a lookup is the one name that may fail. -/
theorem isPlain_of_posts {routeInfo : RouteInfo Addr} (hposts : routeInfo.Posts request)
    (hname : ∀ srcVlanIfName iaNAAddr, routeInfo = .iaNAFast srcVlanIfName iaNAAddr → IsWord srcVlanIfName) :
    request.IsPlain := by
  have hhost := isWord_hostSubnet haddresses
  have hsubnet := isWord_prefixSubnet haddresses
  cases hposts with
  | exportLookup srcVlanAddr iaNAAddr => exact isPlain_lookup (hhost srcVlanAddr) (hhost iaNAAddr)
  | removalLookup srcVlanAddr iaNAAddr => exact isPlain_lookup (hhost srcVlanAddr) (hhost iaNAAddr)
  | exportCommand srcVlanIfName iaNAAddr => exact isPlain_routeApply (hhost iaNAAddr) (hname _ _ rfl)
  | exportPrefix dstIaNAAddr iaPDPrefix iaPDLength =>
      exact isPlain_routeApply (hsubnet iaPDPrefix iaPDLength) (haddresses dstIaNAAddr)
  | removalPrefix dstIaNAAddr iaPDPrefix iaPDLength =>
      exact isPlain_routeRemove (hsubnet iaPDPrefix iaPDLength) (haddresses dstIaNAAddr)
  | addressLookup iaNAAddr => exact isPlain_lookup (hhost iaNAAddr) (hhost iaNAAddr)
  | foundPrefix iaPDPrefix iaNAAddr iaPDLength =>
      exact isPlain_routeRemove (hsubnet iaPDPrefix iaPDLength) (hhost iaNAAddr)
  | prefixLookup iaPDPrefix iaPDLength =>
      exact isPlain_lookup (hsubnet iaPDPrefix iaPDLength) (hsubnet iaPDPrefix iaPDLength)

theorem isPlain_of_onlyRoutes {removed : RouteInfo Addr → Prop}
    (heffects : ∀ effect ∈ effects, effect.OnlyRoutes
      (fun routeInfo => ∀ srcVlanIfName iaNAAddr, routeInfo = .iaNAFast srcVlanIfName iaNAAddr → IsWord srcVlanIfName)
      removed) : ∀ request ∈ postedBy leaseMgr effects, request.IsPlain := by
  intro request hrequest
  obtain ⟨effect, heffect, hposted⟩ := mem_postedBy hrequest
  cases heffects effect heffect with
  | sent route hexported => exact isPlain_of_posts haddresses (posts_of_sent hposted) hexported
  | removed route hremoved =>
      refine isPlain_of_posts haddresses (posts_of_removed hposted) fun srcVlanIfName iaNAAddr hroute => ?_
      -- Such a route is never removed.
      obtain ⟨tid, iaid, duid, routeInfo⟩ := route
      obtain rfl : routeInfo = .iaNAFast srcVlanIfName iaNAAddr := hroute
      exact absurd hposted List.not_mem_nil
  | handlerFailed => exact absurd hposted List.not_mem_nil
  | setStatusSkip => exact absurd hposted List.not_mem_nil
  | log message => exact absurd hposted List.not_mem_nil

theorem isPlain_of_callout [DecidableEq Addr] (event : CalloutEvent Addr) :
    ∀ request ∈ event.posted, request.IsPlain := by
  rw [CalloutEvent.posted_eq]
  refine isPlain_of_onlyRoutes haddresses fun effect heffect => (onlyRoutes_handler heffect).mono ?_ fun _ h => h
  rintro routeInfo ⟨query, lease, -, hfor⟩ srcVlanIfName iaNAAddr rfl
  cases hfor

theorem isPlain_of_finish {cfgMgr : CfgMgr} (hwords : reply.NamesWords) (hrequest : request.IsPlain) :
    ∀ next ∈ (handleReply request.handler reply).effects.flatMap (ClientEffect.posted leaseMgr cfgMgr),
      next.IsPlain := by
  intro next hnext
  obtain ⟨effect, heffect, hposted⟩ := List.mem_flatMap.mp hnext
  obtain hsent | hrestored := List.mem_append.mp hposted
  · refine isPlain_followUp hwords hrequest ?_
    exact List.mem_filterMap.mpr ⟨effect, heffect, Option.mem_toList.mp hsent⟩
  · cases effect with
    | sendRequest other => exact absurd hrestored List.not_mem_nil
    | log message => exact absurd hrestored List.not_mem_nil
    | hwAddrMapping mapping failed =>
        have hhandler := handler_of_hwAddrMapping_mem heffect
        rw [hhandler] at heffect
        refine isPlain_of_onlyRoutes haddresses
          (fun effect hmem => (onlyRoutes_restore hmem).mono ?_ fun _ h => h) next hrestored
        rintro routeInfo ⟨rfl, lease, -, hrestores⟩ srcVlanIfName iaNAAddr rfl
        cases hrestores with
        | address hfind =>
            obtain ⟨hwAddr, -, hname⟩ := Option.bind_eq_some_iff.mp hfind
            exact isWord_of_isValidVlanName (onlyVlanNames_of_mem heffect hwAddr srcVlanIfName hname)

end Posted

/-! ### The run -/

section Runs

variable [DecidableEq Addr] [IOAddress Addr] {exporter exporter' : Exporter} {action : ExporterAction Addr}
  {actions : List (ExporterAction Addr)}

/-- The replies name interfaces and next hops by words. -/
def PlainReplies (_ : Exporter) : ExporterAction Addr → Prop
  | .execute _ _ (some reply) => reply.NamesWords
  | _ => True

structure Exporter.IsPlain (exporter : Exporter) : Prop where
  requests : exporter.client.Holds Request.IsPlain fun request reply => reply.NamesWords ∧ request.IsPlain
  sent : ∀ request ∈ exporter.sent, request.IsPlain

theorem isPlain_step (haddresses : ∀ address : Addr, IsWord (IOAddress.toText address))
    (hok : PlainReplies exporter action) (hstep : exporter.step action = some exporter')
    (hplain : exporter.IsPlain) : exporter'.IsPlain := by
  obtain ⟨hrequests, hsent⟩ := hplain
  cases Exporter.step_cases hstep with
  | callout event => exact ⟨hrequests.enqueue (isPlain_of_callout haddresses event), hsent⟩
  | tick => exact ⟨hrequests, hsent⟩
  | answerHeartbeat i reply => cases reply <;> exact ⟨hrequests, hsent⟩
  | finishHeartbeat i reply heartbeatService =>
      refine ⟨hrequests.enqueue fun request hmem => ?_, hsent⟩
      obtain ⟨effect, -, hposted⟩ := List.mem_flatMap.mp hmem
      cases effect with
      | connectionRestoredHandler =>
          obtain rfl := List.mem_singleton.mp hposted
          exact isPlain_neighborLookup
      | _ => exact absurd hposted List.not_mem_nil
  | take request rest hqueue => exact ⟨hrequests.start hqueue, hsent⟩
  | execute i request reached reply hentry =>
      have hrequest := hrequests.left_of_entry hentry
      have hsent' : ∀ other ∈ exporter.sent ++ [request], other.IsPlain :=
        List.forall_mem_append.mpr ⟨hsent, List.forall_mem_singleton.mpr hrequest⟩
      cases reply with
      | some reply => exact ⟨hrequests.answer ⟨hok, hrequest⟩, hsent'⟩
      | none => exact ⟨hrequests.drop, hsent'⟩
  | finish i request reply leaseMgr cfgMgr hentry =>
      obtain ⟨hwords, hrequest⟩ := hrequests.answered_of_entry hentry
      exact ⟨hrequests.close (isPlain_of_finish haddresses hwords hrequest), hsent⟩
  | reorder queue hperm => exact ⟨hrequests.reorder hperm, hsent⟩
  | reboot saved => exact ⟨hrequests.disturb, hsent⟩

/-- **No request is misread.** Where addresses are written without blanks and no reply to a lookup names an interface
or a next hop with a blank in it, every body that is sent in a run is read as the commands of its request. -/
theorem sent_read_back {start : Exporter} (haddresses : ∀ address : Addr, IsWord (IOAddress.toText address))
    (hidle : start.client.Idle) (hsent : start.sent = [])
    (hrun : RunWhere Exporter.step PlainReplies start actions exporter) :
    ∀ request ∈ exporter.sent, readRequest (createRequestFromCommands request.commands) = some request.commands := by
  have hinit : start.IsPlain := by
    refine ⟨hidle.holds, fun request hmem => ?_⟩
    rw [hsent] at hmem
    exact absurd hmem List.not_mem_nil
  have hplain : exporter.IsPlain :=
    hrun.invariant Exporter.IsPlain hinit fun _ _ _ hok hstep hmid => isPlain_step haddresses hok hstep hmid
  intro request hmem
  refine readRequest_iff.mpr fun entry hentry => ?_
  exact (hplain.sent request hmem).commands entry.2 (List.mem_map_of_mem hentry)

/-! Addresses without blanks, and the selection of one of them. -/

structure WordAddress where
  text : String
  isWord : IsWord text
  deriving DecidableEq

instance : IOAddress WordAddress where
  toText address := address.text
  toText_injective := fun left right heq => by
    cases left
    cases right
    obtain rfl := heq
    rfl

def wordLease : Lease6 WordAddress :=
  ⟨.typeNA, ⟨"2001:db8::5", by decide⟩, 128, 1, some ⟨[1]⟩, none, 1, .stateDefault⟩

def wordQuery : Pkt6 WordAddress := ⟨11, [⟨"2001:db8::1", by decide⟩], [], []⟩

def wordSelection : List (ExporterAction WordAddress) :=
  [.callout (.lease6Select ⟨[]⟩ wordQuery wordLease false), .take, .execute 0 true (some (vlanReply "Vlan10")),
    .finish 0 ⟨[]⟩ ⟨none⟩, .take, .execute 0 true none]

def afterWordSelection : Exporter :=
  (replay Exporter.step (emptyExporter ∅) wordSelection).getD (emptyExporter ∅)

theorem namesWords_vlanReply {vlanIfName : String} (hname : IsWord vlanIfName) :
    (vlanReply vlanIfName).NamesWords := by
  intro routeLookup path hdecode hdown name hmem
  have hdecoded : decodeRouteLookup (vlanReply vlanIfName) = .ok (replyOver [relayPrefix vlanIfName]) := rfl
  obtain rfl := Outcome.ok.inj (hdecoded.symm.trans hdecode)
  have hsingle : HasSingleRows (replyOver [relayPrefix vlanIfName]) (pathOver vlanIfName) :=
    ⟨_, _, _, rfl, rfl, rfl, rfl⟩
  obtain rfl := (comesDownTo_iff_of_hasSingleRows hsingle).mp hdown
  obtain rfl : name = vlanIfName := by simpa [pathOver] using hmem
  exact hname

theorem sent_read_back_wordSelection :
    readRequest (createRequestFromCommands (exportCommand wordLease.addr "Vlan10").commands)
      = some (exportCommand wordLease.addr "Vlan10").commands := by
  have hrun : RunWhere Exporter.step PlainReplies (emptyExporter ∅) wordSelection afterWordSelection := by
    refine .of_replay (fun mid action haction => ?_) rfl
    simp only [wordSelection, List.mem_cons, List.not_mem_nil, or_false] at haction
    obtain rfl | rfl | rfl | rfl | rfl | rfl := haction
    · trivial
    · trivial
    · exact namesWords_vlanReply (by decide)
    · trivial
    · trivial
    · trivial
  have hsent : afterWordSelection.sent
      = [exportLookup (⟨"2001:db8::1", by decide⟩ : WordAddress) wordLease.addr,
        exportCommand wordLease.addr "Vlan10"] := rfl
  have hmem : exportCommand wordLease.addr "Vlan10" ∈ afterWordSelection.sent := by
    rw [hsent]
    exact List.mem_cons_of_mem _ List.mem_cons_self
  exact sent_read_back WordAddress.isWord ⟨rfl, rfl⟩ rfl hrun _ hmem

end Runs

end NxosExporter
