import NxosExporter.HookLibrary
import NxosExporter.Lib.Simulation
import NxosExporter.Proof.HeartbeatInterval

/-!
# The phases of the hook library

Which calls have come back, and with which code, decides what is behind `impl`, and that decides whether the next
callout is defined: what it posts needs the HTTP client that only `dhcp6_srv_configured` makes. Of the
configurations that `load` accepts, the ones for https and the ones whose period wraps to a negative number
abort the server there.
-/

namespace NxosExporter

open Effectful Transition

variable {Addr : Type} {parseUrl : String → Except String Url}

/-- What is behind `impl`: nothing, an implementation without a service, a service, one that was started. -/
inductive Phase where
  | unloaded
  | unconfigured
  | configured
  | started
  deriving DecidableEq

def DHCP6ExporterImpl.phase (impl : DHCP6ExporterImpl) : Phase :=
  match impl.service with
  | none => .unconfigured
  | some service => if service.client.httpClient.isSome then .started else .configured

def HookLibrary.phase (library : HookLibrary) : Phase :=
  match library.impl with
  | none => .unloaded
  | some impl => impl.phase

namespace Phase

/-- What `dhcp6_srv_configured` comes back from. -/
def configure : Phase → Option Phase
  | unloaded => none
  | unconfigured => some unconfigured
  | configured | started => some started

variable [DecidableEq Addr] [IOAddress Addr]

/-- A callout that posts nothing needs an implementation, another one the HTTP client. -/
def admits (event : CalloutEvent Addr) : Phase → Prop
  | unloaded => False
  | unconfigured | configured => event.posted = []
  | started => True

instance (event : CalloutEvent Addr) : DecidablePred (admits event)
  | unloaded => inferInstanceAs (Decidable False)
  | unconfigured | configured => inferInstanceAs (Decidable (event.posted = []))
  | started => inferInstanceAs (Decidable True)

/-- The phase after a call that came back with a code. -/
def step (phase : Phase) : LibraryCall Addr × Int → Option Phase
  | (.load .inet _ _, code) => if code = 1 then some phase else none
  | (.load .inet6 _ _, code) =>
      if code = 0 then some configured else if code = 1 then some unconfigured else none
  | (.unload, code) => if code = 0 then some unloaded else none
  | (.dhcp6SrvConfigured (some false) _, code) => if code = 1 then some phase else none
  | (.dhcp6SrvConfigured (some true) (some ()), code) => if code = 0 then phase.configure else none
  | (.dhcp6SrvConfigured _ _, _) => none
  | (.subnet6Select, code) => if code = 0 then some phase else none
  | (.leaseCallout event, code) => if code = 0 ∧ phase.admits event then some phase else none

end Phase

/-! ### Callouts -/

section Callouts

variable [IOAddress Addr] {leaseMgr : LeaseMgr Addr} {impl : DHCP6ExporterImpl}

/-- The effects of a callout: logs, a status, and calls of the client that post something. -/
inductive ServiceEffect.OfCallout (leaseMgr : LeaseMgr Addr) : ServiceEffect Addr → Prop
  | log (message : ServiceLog) : OfCallout leaseMgr (.log message)
  | setStatusSkip : OfCallout leaseMgr .setStatusSkip
  | posts {effect : ServiceEffect Addr} (hreach : ∀ impl, HookLibrary.reachEffect impl leaseMgr effect
        = HookLibrary.reach impl (requestsOf (clientCall leaseMgr effect).effects))
      (hcall : (clientCall leaseMgr effect).outcome = .ok ())
      (hposted : requestsOf (clientCall leaseMgr effect).effects ≠ []) : OfCallout leaseMgr effect

theorem ofCallout_exportRoute {route : RouteExport Addr}
    (hcall : (clientCall leaseMgr (.sendRoutesToSwitch route)).outcome = .ok ())
    (hposted : requestsOf (clientCall leaseMgr (.sendRoutesToSwitch route)).effects ≠ []) :
    ∀ effect ∈ (exportRoute route).effects, effect.OfCallout leaseMgr :=
  List.forall_mem_cons.mpr ⟨.log _, List.forall_mem_singleton.mpr (.posts (fun _ => rfl) hcall hposted)⟩

theorem ofCallout_removeRoute {route : RouteExport Addr}
    (hcall : (clientCall leaseMgr (.removeRoutesFromSwitch route)).outcome = .ok ())
    (hposted : requestsOf (clientCall leaseMgr (.removeRoutesFromSwitch route)).effects ≠ []) :
    ∀ effect ∈ (removeRoute route).effects, effect.OfCallout leaseMgr :=
  List.forall_mem_cons.mpr ⟨.log _, List.forall_mem_singleton.mpr (.posts (fun _ => rfl) hcall hposted)⟩

variable {query : Pkt6 Addr} {lease : Lease6 Addr}

theorem ofCallout_handleLease6Select (fakeAllocation : Bool) :
    ∀ effect ∈ (handleLease6Select leaseMgr query lease fakeAllocation).effects, effect.OfCallout leaseMgr := by
  unfold handleLease6Select
  split
  · refine Prog.forall_effects_bind (by simp) fun relayAddr => ?_
    refine Prog.forall_effects_bind (List.forall_mem_singleton.mpr (.log _)) fun _ => ?_
    cases lease.type with
    | typeNA => exact ofCallout_exportRoute rfl (List.cons_ne_nil _ _)
    | typePD =>
        cases findIANALeaseByDUIDIAID leaseMgr lease.duid lease.iaid with
        | some leaseIANA => exact ofCallout_exportRoute rfl (List.cons_ne_nil _ _)
        | none => exact List.forall_mem_cons.mpr ⟨.log _, List.forall_mem_singleton.mpr .setStatusSkip⟩
    | typeTA => nofun
    | typeV4 => nofun
  · nofun

theorem ofCallout_removePrefix {route : RouteExport Addr} {iaPDPrefix : Addr} {iaPDLength : UInt8}
    (hroute : route.routeInfo = .iaPDInfoFuzzyRemove iaPDPrefix iaPDLength) :
    ∀ effect ∈ (removeRoute route).effects, effect.OfCallout leaseMgr := by
  obtain ⟨tid, iaid, duid, routeInfo⟩ := route
  obtain rfl : routeInfo = .iaPDInfoFuzzyRemove iaPDPrefix iaPDLength := hroute
  cases hfind : findIANALeaseByDUIDIAID leaseMgr duid iaid with
  | some leaseIANA =>
      apply ofCallout_removeRoute
      · simp [clientCall, removeRoutesFromSwitch, hfind]
      · simp [clientCall, removeRoutesFromSwitch, hfind, ClientEffect.request?]
  | none =>
      apply ofCallout_removeRoute
      · simp [clientCall, removeRoutesFromSwitch, hfind]
      · simp [clientCall, removeRoutesFromSwitch, hfind, ClientEffect.request?]

theorem ofCallout_handleLease6Expire :
    ∀ effect ∈ (handleLease6Expire lease).effects, effect.OfCallout leaseMgr := by
  unfold handleLease6Expire
  cases lease.type with
  | typeNA => exact ofCallout_removeRoute rfl (List.cons_ne_nil _ _)
  | typePD => exact ofCallout_removePrefix rfl
  | typeTA => nofun
  | typeV4 => nofun

theorem ofCallout_handleLeaseEnd :
    ∀ effect ∈ (handleLeaseEnd leaseMgr query lease).effects, effect.OfCallout leaseMgr := by
  refine Prog.forall_effects_bind (by simp) fun relayAddr => ?_
  cases lease.type with
  | typeNA => exact ofCallout_removeRoute rfl (List.cons_ne_nil _ _)
  | typePD =>
      cases findIANALeaseByDUIDIAID leaseMgr lease.duid lease.iaid with
      | some leaseIANA => exact ofCallout_removeRoute rfl (List.cons_ne_nil _ _)
      | none => exact List.forall_mem_singleton.mpr (.log _)
  | typeTA => nofun
  | typeV4 => nofun

variable [DecidableEq Addr]

theorem ofCallout_renewRebindIANA {relayAddr : Addr} :
    ∀ effect ∈ (renewRebindIANA query lease relayAddr).effects, effect.OfCallout leaseMgr := by
  refine Prog.forall_effects_bind (by simp) fun queryIANAOption => ?_
  cases queryIANAOption.getOptionIAADDR with
  | none => nofun
  | some queryOriginalAddr =>
      simp only
      split
      · exact Prog.forall_effects_bind (ofCallout_removeRoute rfl (List.cons_ne_nil _ _)) fun _ =>
          ofCallout_exportRoute rfl (List.cons_ne_nil _ _)
      · exact ofCallout_exportRoute rfl (List.cons_ne_nil _ _)

theorem ofCallout_renewRebindIAPD {isRebindProcess : Bool} {relayAddr : Addr} :
    ∀ effect ∈ (renewRebindIAPD isRebindProcess leaseMgr query lease relayAddr).effects,
      effect.OfCallout leaseMgr := by
  refine Prog.forall_effects_bind (by simp) fun queryIAPDOption => ?_
  cases queryIAPDOption.getOptionIAPREFIX with
  | none => nofun
  | some queryIAPrefix =>
      cases findIANALeaseByDUIDIAID leaseMgr lease.duid lease.iaid with
      | none =>
          exact Prog.forall_effects_bind (by simp) fun clientDUID => List.forall_mem_singleton.mpr (.log _)
      | some leaseIANA =>
          simp only
          split
          · exact Prog.forall_effects_bind (ofCallout_removeRoute rfl (List.cons_ne_nil _ _)) fun _ =>
              ofCallout_exportRoute rfl (List.cons_ne_nil _ _)
          · split
            · exact ofCallout_exportRoute rfl (List.cons_ne_nil _ _)
            · nofun

theorem ofCallout_handleRenewRebindProcess (isRebindProcess isIANA : Bool) :
    ∀ effect ∈ (handleRenewRebindProcess isRebindProcess leaseMgr query lease isIANA).effects,
      effect.OfCallout leaseMgr := by
  refine Prog.forall_effects_bind (by simp) fun relayAddr => ?_
  split
  · exact ofCallout_renewRebindIANA
  · exact ofCallout_renewRebindIAPD

theorem ofCallout_handler (event : CalloutEvent Addr) :
    ∀ effect ∈ event.handler.effects, effect.OfCallout event.leaseMgr := by
  cases event with
  | lease6Select leaseMgr query lease fakeAllocation => exact ofCallout_handleLease6Select fakeAllocation
  | lease6Renew leaseMgr query lease iaNA => exact ofCallout_handleRenewRebindProcess false (isIANA iaNA)
  | lease6Rebind leaseMgr query lease iaNA => exact ofCallout_handleRenewRebindProcess true (isIANA iaNA)
  | lease6Release leaseMgr query lease => exact ofCallout_handleLeaseEnd
  | lease6Decline leaseMgr query lease => exact ofCallout_handleLeaseEnd
  | lease6Expire leaseMgr lease => exact ofCallout_handleLease6Expire

omit [DecidableEq Addr]

theorem reach_eq_ok_iff {posted : List Request} (hposted : posted ≠ []) :
    HookLibrary.reach impl posted = .ok () ↔ impl.phase = .started := by
  rw [HookLibrary.reach, DHCP6ExporterImpl.phase]
  cases impl.service with
  | none => simp
  | some service => cases hpointer : service.client.httpClient <;> simp [hposted, hpointer]

/-- The effects of a callout reach what they need in a started service, or without posting anything. -/
theorem forall_reachEffect_iff {effects : List (ServiceEffect Addr)}
    (heffects : ∀ effect ∈ effects, effect.OfCallout leaseMgr) :
    (∀ effect ∈ effects, HookLibrary.reachEffect impl leaseMgr effect = .ok ()) ↔
      postedBy leaseMgr effects = [] ∨ impl.phase = .started := by
  induction effects with
  | nil => simp
  | cons effect rest ih =>
      obtain ⟨heffect, hrest⟩ := List.forall_mem_cons.mp heffects
      rw [List.forall_mem_cons, ih hrest]
      cases heffect with
      | log message => simp [HookLibrary.reachEffect]
      | setStatusSkip => simp [HookLibrary.reachEffect]
      | posts hreach hcall hposted =>
          rw [hreach, reach_eq_ok_iff hposted, postedBy_cons_of_ok hcall]
          simp only [List.append_eq_nil_iff, hposted, false_and, false_or]
          tauto

end Callouts

namespace HookLibrary

variable [IOAddress Addr] [DecidableEq Addr] {library library' : HookLibrary} {calls : List (LibraryCall Addr)}
  {libraryCall : LibraryCall Addr}

/-! ### The history decides -/

theorem admits_iff {impl : DHCP6ExporterImpl} (event : CalloutEvent Addr) :
    impl.phase.admits event ↔ event.posted = [] ∨ impl.phase = .started := by
  rw [DHCP6ExporterImpl.phase]
  cases impl.service with
  | none => simp [Phase.admits]
  | some service => cases hpointer : service.client.httpClient <;> simp [Phase.admits, hpointer]

theorem leaseCallout_ne_undefined_iff (event : CalloutEvent Addr) :
    (library.leaseCallout event).outcome ≠ .undefined ↔
      event.handler.outcome ≠ .undefined ∧ library.phase.admits event := by
  have hcomesBack : (library.leaseCallout event).outcome ≠ .undefined ↔
      ∃ result, (library.leaseCallout event).outcome = .ok result := by
    cases hcallout : (library.leaseCallout event).outcome with
    | ok result => simp
    | throw exn => exact absurd hcallout (leaseCallout_ne_throw library event exn)
    | undefined => simp
  rw [hcomesBack]
  simp only [leaseCallout_eq_ok_iff, phase]
  cases library.impl with
  | none => simp [Phase.admits]
  | some impl =>
      simp only [Option.some.injEq, exists_eq_left', forall_reachEffect_iff (ofCallout_handler event),
        CalloutEvent.posted_eq event ▸ admits_iff event]
      constructor
      · rintro ⟨result, hadmits, hhandled, -⟩
        exact ⟨hhandled, hadmits⟩
      · rintro ⟨hhandled, hadmits⟩
        exact ⟨_, hadmits, hhandled, rfl⟩

/-- A call that came back, with its code. -/
def codes (parseUrl : String → Except String Url) (library : HookLibrary) (libraryCall : LibraryCall Addr) :
    List (LibraryCall Addr × Int) :=
  match (library.call parseUrl libraryCall).outcome with
  | .ok (code, _) => [(libraryCall, code)]
  | _ => []

theorem phase_callCases {code : Int} (hcall : (library.call parseUrl libraryCall).outcome = .ok (code, library'))
    (hcases : CallCases parseUrl library libraryCall code library') :
    library.phase.step (libraryCall, code) = some library'.phase := by
  cases hcases with
  | @otherFamily mgmtConnType mgmtConnParams family hfamily =>
      cases family with
      | inet => rfl
      | inet6 => exact absurd rfl hfamily
  | loadFailed mgmtConnType mgmtConnParams exn hconfigure => rfl
  | loaded mgmtConnType mgmtConnParams params heartbeatService hconfigure => rfl
  | unload => rfl
  | noIOContext networkState => rfl
  | unconfigured himpl => simp [Phase.step, phase, himpl, DHCP6ExporterImpl.phase, Phase.configure]
  | started service himpl hscheme hperiod =>
      cases hpointer : service.client.httpClient <;>
        simp [Phase.step, phase, himpl, DHCP6ExporterImpl.phase, Phase.configure, hpointer,
          DHCP6ExporterService.started]
  | subnet6Select => rfl
  | leaseCallout event impl himpl hreached hhandled =>
      have hdefined : (library.leaseCallout event).outcome ≠ .undefined := by
        rw [call] at hcall
        rw [hcall]
        intro hundefined
        cases hundefined
      have hadmits := ((leaseCallout_ne_undefined_iff event).mp hdefined).2
      simp [Phase.step, hadmits]

/-- **Refinement.** A run of the library is a run of its phases. -/
theorem simulates_phases (hrun : Run (step parseUrl) create calls library) :
    Run Phase.step .unloaded (observe (step parseUrl) (codes parseUrl) create calls) library.phase := by
  refine hrun.simulates phase (fun _ => True) trivial (fun _ _ _ _ _ _ => trivial) ?_
  intro mid libraryCall last _ hstep _
  obtain ⟨code, hcall, hcases⟩ := callCases_of_step hstep
  have hcodes : codes parseUrl mid libraryCall = [(libraryCall, code)] := by simp only [codes, hcall]
  rw [hcodes]
  exact .single trivial (phase_callCases hcall hcases)

/-- **Callouts.** In every run of the library, the calls and the codes they came back with decide whether the next
callout is defined, apart from what its own handler does with the packet and the lease. -/
theorem leaseCallout_defined_iff (hrun : Run (step parseUrl) create calls library) :
    ∃ phase, replay Phase.step .unloaded (observe (step parseUrl) (codes parseUrl) create calls) = some phase ∧
      ∀ event : CalloutEvent Addr, (library.call parseUrl (.leaseCallout event)).outcome ≠ .undefined ↔
        event.handler.outcome ≠ .undefined ∧ phase.admits event :=
  ⟨library.phase, replay_of_run (simulates_phases hrun), leaseCallout_ne_undefined_iff⟩

/-! ### Coming up -/

/-- Calls that leave alone what is behind `impl`. -/
def KeepsImpl (_ : HookLibrary) : LibraryCall Addr → Prop
  | .load .inet6 _ _ | .unload => False
  | .load .inet _ _ | .dhcp6SrvConfigured _ _ | .subnet6Select | .leaseCallout _ => True

/-- A service with these parameters, started or not. -/
def HasService (params : NXOSConnectionConfigParams) (library : HookLibrary) : Prop :=
  ∃ service, library.impl = some ⟨some service⟩ ∧ service.client.params = params ∧
    service.heartbeatService.heartbeatIntervalSecs = params.heartbeatIntervalSecs

theorem hasService_step {params : NXOSConnectionConfigParams} (hkeeps : KeepsImpl library libraryCall)
    (hstep : library.step parseUrl libraryCall = some library') (hservice : HasService params library) :
    HasService params library' := by
  obtain ⟨code, -, hcases⟩ := callCases_of_step hstep
  cases hcases with
  | otherFamily mgmtConnType mgmtConnParams hfamily => exact hservice
  | loadFailed mgmtConnType mgmtConnParams exn hconfigure => exact hkeeps.elim
  | loaded mgmtConnType mgmtConnParams params heartbeatService hconfigure => exact hkeeps.elim
  | unload => exact hkeeps.elim
  | noIOContext networkState => exact hservice
  | unconfigured himpl => exact hservice
  | started service himpl hscheme hperiod =>
      obtain ⟨other, hother, hparams, hinterval⟩ := hservice
      obtain rfl : service = other := by simpa [himpl] using hother
      exact ⟨_, rfl, hparams, hinterval⟩
  | subnet6Select => exact hservice
  | leaseCallout event impl himpl hreached hhandled => exact hservice

theorem parseConfig_eq_ok {members : Members} {params : NXOSConnectionConfigParams}
    (hparse : NXOSConnectionConfigParams.parseConfig parseUrl (some (.map members)) = .ok params) :
    NamesHost parseUrl members params.connInfo.url ∧
      ∃ value, members.lookup "heartbeat-interval" = some (.integer value) ∧
        params.heartbeatIntervalSecs = value.toUInt64 := by
  obtain ⟨url, hhost, hparseHost⟩ | ⟨-, what, hparseHost⟩ := decides_parseHost parseUrl members
  · rw [parseConfig_of_host hparseHost] at hparse
    cases hinterval : members.lookup "heartbeat-interval" with
    | none =>
        rw [parseHeartbeatInterval_of_absent hinterval] at hparse
        cases hparse
    | some element =>
        cases element with
        | integer value =>
            rw [parseHeartbeatInterval_of_integer hinterval] at hparse
            split at hparse
            · cases hparse
            · rw [Outcome.ok_bind, Outcome.map_eq_ok_iff] at hparse
              obtain ⟨auth, -, rfl⟩ := hparse
              exact ⟨hhost, value, rfl, rfl⟩
        | _ =>
            rw [parseHeartbeatInterval_of_type hinterval (by simp [Element.getType])] at hparse
            cases hparse
  · rw [NXOSConnectionConfigParams.parseConfig, hparseHost] at hparse
    cases hparse

theorem configureAndInitClient_eq_ok {mgmtName : String} {members : Members} {params : NXOSConnectionConfigParams}
    {heartbeatService : NXOSHeartbeatService}
    (hconfigure : configureAndInitClient parseUrl (some (.string mgmtName)) (some (.map members))
      = .ok (params, heartbeatService)) :
    NXOSConnectionConfigParams.parseConfig parseUrl (some (.map members)) = .ok params ∧
      heartbeatService.heartbeatIntervalSecs = params.heartbeatIntervalSecs := by
  obtain ⟨client, hclient, hrest⟩ := Outcome.bind_eq_ok_iff.mp hconfigure
  obtain ⟨service, hservice, hpair⟩ := Outcome.bind_eq_ok_iff.mp hrest
  obtain ⟨rfl, rfl⟩ := Prod.mk.inj (Outcome.ok.inj hpair)
  rw [managementClientInit] at hclient
  split at hclient
  · rename_i hname
    refine ⟨hclient, ?_⟩
    rw [heartbeatServiceInit, if_pos hname, hclient] at hservice
    rw [← Outcome.ok.inj hservice]
  · cases hclient

/-- **Coming up.** A configuration that was loaded aborts the server in `dhcp6_srv_configured`, now or after any
other calls, exactly when it is for https or its period in milliseconds wraps to one that is not positive;
otherwise the service is started. -/
theorem dhcp6SrvConfigured_abort_iff {mgmtName : String} {members : Members} {before loaded : HookLibrary}
    (hload : (before.call parseUrl (.load .inet6 (some (.string mgmtName)) (some (.map members)) :
      LibraryCall Addr)).outcome = .ok (0, loaded))
    (hrun : RunWhere (step parseUrl) KeepsImpl loaded calls library) :
    ∃ url value, NamesHost parseUrl members url ∧
      members.lookup "heartbeat-interval" = some (.integer value) ∧
      if url.scheme = .https ∨ (1000 * value.toInt).bmod (2 ^ 64) ≤ 0 then
        (library.call parseUrl (.dhcp6SrvConfigured (some true) (some ()) : LibraryCall Addr)).outcome
          = .throw .abort
      else
        ∃ up, (library.call parseUrl (.dhcp6SrvConfigured (some true) (some ()) : LibraryCall Addr)).outcome
          = .ok (0, up) ∧ up.phase = .started := by
  generalize hcode : (0 : Int) = code at hload
  cases callCases_of_call hload with
  | otherFamily => cases hcode
  | loadFailed => cases hcode
  | loaded _ _ params heartbeatService hconfigure =>
      obtain ⟨hparse, hinterval⟩ := configureAndInitClient_eq_ok hconfigure
      obtain ⟨hhost, value, hvalue, hparams⟩ := parseConfig_eq_ok hparse
      have hservice : HasService params library :=
        hrun.invariant (HasService params) ⟨_, rfl, rfl, hinterval⟩ fun _ _ _ hkeeps hstep hmid =>
          hasService_step hkeeps hstep hmid
      obtain ⟨service, himpl, rfl, hseconds⟩ := hservice
      have hperiod : service.period.toInt = (1000 * value.toInt).bmod (2 ^ 64) := by
        rw [DHCP6ExporterService.period, hseconds, hparams]
        exact toInt_period value
      refine ⟨_, value, hhost, hvalue, ?_⟩
      have hcondition : service.period ≤ 0 ↔ (1000 * value.toInt).bmod (2 ^ 64) ≤ 0 := by
        rw [Int64.le_iff_toInt_le, hperiod]
        rfl
      simp only [call, dhcp6SrvConfigured_of_service himpl, hcondition]
      split
      · rfl
      · exact ⟨_, rfl, rfl⟩

/-! The switch of the configuration is reached over http, and its interval is ten seconds. -/

def loadSwitch : LibraryCall TextAddress :=
  .load .inet6 (some (.string "nxos")) (some (.map (intervalParams 10)))

def configure : LibraryCall TextAddress := .dhcp6SrvConfigured (some true) (some ())

def libraryAfter (calls : List (LibraryCall TextAddress)) : HookLibrary :=
  (replay (step parseSwitchUrl) create calls).getD create

theorem leaseCallout_defined_iff_expire :
    ((libraryAfter [loadSwitch]).call parseSwitchUrl
      (.leaseCallout (.lease6Expire ⟨[]⟩ addressLease) : LibraryCall TextAddress)).outcome = .undefined := by
  have hrun : Run (step parseSwitchUrl) create [loadSwitch] (libraryAfter [loadSwitch]) := run_of_replay rfl
  obtain ⟨phase, hphase, hdefined⟩ := leaseCallout_defined_iff hrun
  obtain rfl : Phase.configured = phase := Option.some.inj hphase
  by_contra hne
  have hposted : (CalloutEvent.lease6Expire ⟨[]⟩ addressLease).posted = [] := ((hdefined _).mp hne).2
  cases hposted

theorem dhcp6SrvConfigured_abort_iff_tenSeconds :
    ∃ up, ((libraryAfter [loadSwitch]).call parseSwitchUrl configure).outcome = .ok (0, up) ∧
      up.phase = .started := by
  have hload : (create.call parseSwitchUrl loadSwitch).outcome = .ok (0, libraryAfter [loadSwitch]) := rfl
  obtain ⟨url, value, ⟨host, hhost, hurl⟩, hvalue, hup⟩ :=
    dhcp6SrvConfigured_abort_iff hload (.nil _)
  obtain rfl : "http://switch" = host := Element.string.inj (Option.some.inj hhost)
  obtain rfl := Except.ok.inj hurl
  obtain rfl : (10 : Int64) = value := Element.integer.inj (Option.some.inj hvalue)
  rwa [if_neg (by decide)] at hup

end HookLibrary

end NxosExporter
