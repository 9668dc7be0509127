import NxosExporter.ConnectionParams
import NxosExporter.Exporter
import NxosExporter.ThreadPool

/-!
# The hook library

What Kea calls: `load` and `unload`, `dhcp6_srv_configured`, and the lease callouts. The implementation lives behind
the global `impl` and its service behind `m_service`; neither is checked in a callout. Each start of the service
makes two HTTP clients anew, and a pointer that is assigned or reset destroys the client it held.
-/

namespace NxosExporter

open Effectful

/-! ### The HTTP clients -/

/-- The calls that each HTTP client has got, in the order in which the clients were made. -/
abbrev HttpClients := List (List ClientCall)

namespace HttpClients

def call (clients : HttpClients) (i : Nat) (clientCall : ClientCall) : HttpClients :=
  clients.modify i (· ++ [clientCall])

/-- The pointer lets go of its client. -/
def release (clients : HttpClients) : Option Nat → HttpClients
  | some i => clients.call i .destroy
  | none => clients

/-- `m_httpClient = make_shared<NXOSHttpClient>(true)`, then `startClient`. -/
def restart (clients : HttpClients) (httpClient : Option Nat) : HttpClients :=
  ((clients ++ [[]]).release httpClient).call clients.length .startClient

end HttpClients

/-- The default of `NXOSHttpClient`. -/
def defaultThreadPoolSize : Nat := 4

/-! ### The service -/

structure NXOSManagementClient where
  params : NXOSConnectionConfigParams
  httpClient : Option Nat

def NXOSManagementClient.startClient (client : NXOSManagementClient) (clients : HttpClients) :
    Outcome Exn (NXOSManagementClient × HttpClients) :=
  if client.params.connInfo.url.scheme = .https then
    .throw (.isc .notImplemented "https tls context init not implemented")
  else
    .ok ({ client with httpClient := some clients.length }, clients.restart client.httpClient)

/-- `IntervalTimer::setup` of Kea. -/
def setupIntervalTimer (interval : Int64) : Outcome Exn Int64 :=
  if interval ≤ 0 then
    .throw (.isc .badValue "Interval should not be less than or equal to 0")
  else
    .ok interval

/-- `heartbeatClient` and `timer` are the ones of the heartbeat service. -/
structure DHCP6ExporterService where
  ioService : Bool
  client : NXOSManagementClient
  heartbeatService : NXOSHeartbeatService
  heartbeatClient : Option Nat
  timer : Option Int64

namespace DHCP6ExporterService

/-- What an effect of the heartbeat service does to its HTTP client and its timer. -/
def perform (state : DHCP6ExporterService × HttpClients) :
    HeartbeatEffect → Outcome Exn (DHCP6ExporterService × HttpClients)
  | .startClient =>
      .ok ({ state.1 with heartbeatClient := some state.2.length }, state.2.restart state.1.heartbeatClient)
  | .setupTimer interval => do
      let interval ← setupIntervalTimer interval
      pure ({ state.1 with timer := some interval }, state.2)
  | .cancelTimer => .ok ({ state.1 with timer := none }, state.2)
  | .sendRequest _ _ | .connectionFailedHandler | .connectionRestoredHandler | .logHeartbeatFailed
  | .logRestoredConnection => .ok state

def startService (service : DHCP6ExporterService) (clients : HttpClients) :
    Outcome Exn (DHCP6ExporterService × HttpClients) := do
  let (client, clients) ← service.client.startClient clients
  let heartbeatService := { service.heartbeatService with connectionRestoredHandler := true }
  let started := heartbeatService.startService
  let (service, clients) ←
    started.effects.foldlM perform ({ service with client, heartbeatService }, clients)
  let heartbeatService ← started.outcome
  pure ({ service with heartbeatService }, clients)

def stopService (service : DHCP6ExporterService) (clients : HttpClients) :
    Outcome Exn (DHCP6ExporterService × HttpClients) := do
  let httpClient ← .deref service.client.httpClient
  let heartbeatClient ← .deref service.heartbeatClient
  let _ ← .deref service.timer
  pure ({ service with timer := none },
    (clients.call httpClient .stopClient).call heartbeatClient .stopClient)

/-- The period of the timer, as `startService` computes it. -/
def period (service : DHCP6ExporterService) : Int64 :=
  (service.heartbeatService.heartbeatIntervalSecs * 1000).toInt64

def started (service : DHCP6ExporterService) (clients : HttpClients) : DHCP6ExporterService where
  ioService := service.ioService
  client := { service.client with httpClient := some clients.length }
  heartbeatService := { service.heartbeatService with
    connectionRestoredHandler := true
    prevLostConnection := true
    prevUptimeSecs := 0 }
  heartbeatClient := some (clients.restart service.client.httpClient).length
  timer := some service.period

theorem startService_eq (service : DHCP6ExporterService) (clients : HttpClients) :
    service.startService clients
      = if service.client.params.connInfo.url.scheme = .https then
          .throw (.isc .notImplemented "https tls context init not implemented")
        else if service.period ≤ 0 then
          .throw (.isc .badValue "Interval should not be less than or equal to 0")
        else
          .ok (service.started clients,
            (clients.restart service.client.httpClient).restart service.heartbeatClient) := by
  by_cases hscheme : service.client.params.connInfo.url.scheme = .https
  · simp [startService, NXOSManagementClient.startClient, hscheme]
  · have hclient : service.client.startClient clients
        = .ok ({ service.client with httpClient := some clients.length },
          clients.restart service.client.httpClient) := if_neg hscheme
    have heffects : { service.heartbeatService with connectionRestoredHandler := true }.startService.effects
        = [.startClient, .setupTimer service.period] := rfl
    have houtcome : { service.heartbeatService with connectionRestoredHandler := true }.startService.outcome
        = .ok (service.started clients).heartbeatService := rfl
    rw [startService, hclient, Outcome.ok_bind, if_neg hscheme]
    simp only [heffects, houtcome, List.foldlM_cons, List.foldlM_nil, perform, Outcome.ok_bind,
      Outcome.pure_eq]
    rw [setupIntervalTimer]
    split
    · rfl
    · rfl

/-- The members are destroyed from the last to the first. -/
def destroy (service : DHCP6ExporterService) (clients : HttpClients) : HttpClients :=
  (clients.release service.heartbeatClient).release service.client.httpClient

end DHCP6ExporterService

structure DHCP6ExporterImpl where
  service : Option DHCP6ExporterService

namespace DHCP6ExporterImpl

/-- The flag says whether the start of the service is logged. -/
def startService (impl : DHCP6ExporterImpl) (clients : HttpClients) :
    Outcome Exn (Bool × DHCP6ExporterImpl × HttpClients) :=
  match impl.service with
  | some service => do
      let (service, clients) ← { service with ioService := true }.startService clients
      pure (true, ⟨some service⟩, clients)
  | none => pure (false, impl, clients)

/-- Nothing calls it: `unload` resets the implementation without it. -/
def stopService (impl : DHCP6ExporterImpl) (clients : HttpClients) :
    Outcome Exn (DHCP6ExporterImpl × HttpClients) := do
  let service ← .deref impl.service
  let (service, clients) ← service.stopService clients
  pure (⟨none⟩, service.destroy clients)

def destroy (impl : DHCP6ExporterImpl) (clients : HttpClients) : HttpClients :=
  match impl.service with
  | some service => service.destroy clients
  | none => clients

end DHCP6ExporterImpl

/-! ### The exported functions -/

inductive AddressFamily where
  | inet
  | inet6
  deriving DecidableEq, Repr

/-- The argument of `DHCP6_EXPORTER_INIT_FAILED` is the text of an exception or another one. -/
inductive LibraryEffect (Addr : Type) where
  | service (effect : ServiceEffect Addr)
  | setStatusDrop
  | setArgumentError (error : String)
  | logInitFailedException (exn : Exn)
  | logInitFailed (error : String)
  | logLoad (name : String)
  | logUnload (name : String)
  | logStartService (name : String)

/-- `std::abort` -/
inductive Terminated where
  | abort
  deriving DecidableEq, Repr

structure HookLibrary where
  impl : Option DHCP6ExporterImpl
  httpClients : HttpClients

/-- An exported function returns a code, and the library is left as it has made it. -/
abbrev LibraryProg (Addr : Type) := Prog (LibraryEffect Addr) Terminated

/-- An argument that is missing makes `getArgument` raise. -/
inductive LibraryCall (Addr : Type) where
  | load (family : AddressFamily) (mgmtConnType mgmtConnParams : Option Element)
  | unload
  | dhcp6SrvConfigured (ioContext : Option Bool) (networkState : Option Unit)
  | subnet6Select
  | leaseCallout (event : CalloutEvent Addr)

namespace HookLibrary

variable {Addr : Type}

def create : HookLibrary := ⟨none, []⟩

def name : String := "nxos_dhcp6_exporter"

/-- Whatever was behind `impl` is destroyed. -/
def assign (library : HookLibrary) (impl : Option DHCP6ExporterImpl) : HookLibrary where
  impl := impl
  httpClients :=
    match library.impl with
    | some old => old.destroy library.httpClients
    | none => library.httpClients

/-- The implementation is assigned before it is configured. -/
def load (parseUrl : String → Except String Url) (family : AddressFamily)
    (mgmtConnType mgmtConnParams : Option Element) (library : HookLibrary) : LibraryProg Addr (Int × HookLibrary) :=
  if family ≠ .inet6 then do
    .emit (.logInitFailedException (.isc .unexpected "Exporter works only in DHCPv6 server"))
    pure (1, library)
  else
    let library := library.assign (some ⟨none⟩)
    match configureAndInitClient parseUrl mgmtConnType mgmtConnParams with
    | .ok (params, heartbeatService) => do
        .emit (.logLoad name)
        let service : DHCP6ExporterService := ⟨false, ⟨params, none⟩, heartbeatService, none, none⟩
        pure (0, { library with impl := some ⟨some service⟩ })
    | .throw exn => do
        .emit (.logInitFailedException exn)
        pure (1, library)
    | .undefined => .lift .undefined

def unload (library : HookLibrary) : LibraryProg Addr (Int × HookLibrary) := do
  .emit (.logUnload name)
  pure (0, library.assign none)

def dhcp6SrvConfigured (ioContext : Option Bool) (networkState : Option Unit) (library : HookLibrary) :
    LibraryProg Addr (Int × HookLibrary) :=
  match ioContext with
  | none => .throw .abort
  | some false => do
      let error := "Error: io_context is nullptr"
      .emit .setStatusDrop
      .emit (.setArgumentError error)
      .emit (.logInitFailed error)
      pure (1, library)
  | some true =>
      match networkState with
      | none => .throw .abort
      | some () => do
          let impl ← .lift (.deref library.impl)
          match impl.startService library.httpClients with
          | .ok (started, impl, httpClients) => do
              if started then
                .emit (.logStartService name)
              pure (0, ⟨some impl, httpClients⟩)
          | .throw _ => .throw .abort
          | .undefined => .lift .undefined

theorem dhcp6SrvConfigured_of_service {library : HookLibrary} {service : DHCP6ExporterService}
    (himpl : library.impl = some ⟨some service⟩) :
    (library.dhcp6SrvConfigured (some true) (some ()) : LibraryProg Addr (Int × HookLibrary)).outcome
      = if service.client.params.connInfo.url.scheme = .https ∨ service.period ≤ 0 then
          .throw .abort
        else
          .ok (0, ⟨some ⟨some ({ service with ioService := true }.started library.httpClients)⟩,
            (library.httpClients.restart service.client.httpClient).restart service.heartbeatClient⟩) := by
  have hstart := DHCP6ExporterService.startService_eq { service with ioService := true } library.httpClients
  by_cases hscheme : service.client.params.connInfo.url.scheme = .https
  · simp only [hscheme, if_true] at hstart
    simp [dhcp6SrvConfigured, himpl, DHCP6ExporterImpl.startService, hstart, hscheme]
  · by_cases hperiod : service.period ≤ 0
    · have hperiod' : { service with ioService := true }.period ≤ 0 := hperiod
      simp only [hscheme, if_false, hperiod', if_true] at hstart
      simp [dhcp6SrvConfigured, himpl, DHCP6ExporterImpl.startService, hstart, hscheme, hperiod]
    · have hperiod' : ¬ { service with ioService := true }.period ≤ 0 := hperiod
      simp only [hscheme, if_false, hperiod'] at hstart
      simp [dhcp6SrvConfigured, himpl, DHCP6ExporterImpl.startService, hstart, hscheme, hperiod]

theorem callout_outcome_eq_undefined_iff {handler : ServiceProg Addr Unit} :
    (callout handler).outcome = .undefined ↔ handler.outcome = .undefined := by
  rw [callout, Prog.tryCatch]
  cases houtcome : handler.outcome <;> simp [houtcome]

variable [IOAddress Addr]

/-- A call of the client goes through `m_service`, and the requests that it posts through `m_httpClient`. -/
def reach (impl : DHCP6ExporterImpl) (posted : List Request) : Outcome Terminated Unit := do
  let service ← .deref impl.service
  if posted = [] then
    pure ()
  else do
    let _ ← .deref service.client.httpClient
    pure ()

def reachEffect (impl : DHCP6ExporterImpl) (leaseMgr : LeaseMgr Addr) (effect : ServiceEffect Addr) :
    Outcome Terminated Unit :=
  match effect with
  | .sendRoutesToSwitch _ | .removeRoutesFromSwitch _ =>
      reach impl (requestsOf (clientCall leaseMgr effect).effects)
  | .handlerFailed | .setStatusSkip | .log _ => pure ()

theorem reach_ne_throw (impl : DHCP6ExporterImpl) (posted : List Request) (exn : Terminated) :
    reach impl posted ≠ .throw exn := by
  refine Outcome.bind_ne_throw ?_ fun service => ?_
  · cases impl.service <;> nofun
  · split
    · nofun
    · cases service.client.httpClient <;> nofun

theorem reachEffect_ne_throw (impl : DHCP6ExporterImpl) (leaseMgr : LeaseMgr Addr) (effect : ServiceEffect Addr)
    (exn : Terminated) : reachEffect impl leaseMgr effect ≠ .throw exn := by
  cases effect with
  | sendRoutesToSwitch route => exact reach_ne_throw impl _ exn
  | removeRoutesFromSwitch route => exact reach_ne_throw impl _ exn
  | _ => nofun

variable [DecidableEq Addr]

def performEffect (impl : DHCP6ExporterImpl) (leaseMgr : LeaseMgr Addr) (effect : ServiceEffect Addr) :
    LibraryProg Addr Unit := do
  .lift (reachEffect impl leaseMgr effect)
  .emit (.service effect)

/-- The effects of a handler, as far as they reach what they need. -/
def performHandled (impl : DHCP6ExporterImpl) (leaseMgr : LeaseMgr Addr) (handled : ServiceProg Addr Unit) :
    LibraryProg Addr Unit := do
  Prog.forEach (performEffect impl leaseMgr) handled.effects
  match handled.outcome with
  | .ok () | .throw _ => pure ()
  | .undefined => .lift .undefined

def leaseCallout (event : CalloutEvent Addr) (library : HookLibrary) : LibraryProg Addr (Int × HookLibrary) := do
  let impl ← .lift (.deref library.impl)
  performHandled impl event.leaseMgr (callout event.handler)
  pure (0, library)

/-- `subnet6_select` only logs. -/
def call (parseUrl : String → Except String Url) (library : HookLibrary) :
    LibraryCall Addr → LibraryProg Addr (Int × HookLibrary)
  | .load family mgmtConnType mgmtConnParams => library.load parseUrl family mgmtConnType mgmtConnParams
  | .unload => library.unload
  | .dhcp6SrvConfigured ioContext networkState => library.dhcp6SrvConfigured ioContext networkState
  | .subnet6Select => pure (0, library)
  | .leaseCallout event => library.leaseCallout event

/-- A call that comes back; there is no step where the server is aborted or the call undefined. -/
def step (parseUrl : String → Except String Url) (library : HookLibrary) (libraryCall : LibraryCall Addr) :
    Option HookLibrary :=
  match (library.call parseUrl libraryCall).outcome with
  | .ok (_, library) => some library
  | _ => none

/-- A service that is configured and not started. -/
def configured (params : NXOSConnectionConfigParams) (heartbeatService : NXOSHeartbeatService) :
    DHCP6ExporterService :=
  ⟨false, ⟨params, none⟩, heartbeatService, none, none⟩

/-- **Inversion.** How a call can come back. -/
inductive CallCases (parseUrl : String → Except String Url) (library : HookLibrary) :
    LibraryCall Addr → Int → HookLibrary → Prop
  | otherFamily (mgmtConnType mgmtConnParams : Option Element) {family : AddressFamily} (hfamily : family ≠ .inet6) :
      CallCases parseUrl library (.load family mgmtConnType mgmtConnParams) 1 library
  | loadFailed (mgmtConnType mgmtConnParams : Option Element) (exn : Exn)
      (hconfigure : configureAndInitClient parseUrl mgmtConnType mgmtConnParams = .throw exn) :
      CallCases parseUrl library (.load .inet6 mgmtConnType mgmtConnParams) 1 (library.assign (some ⟨none⟩))
  | loaded (mgmtConnType mgmtConnParams : Option Element) (params : NXOSConnectionConfigParams)
      (heartbeatService : NXOSHeartbeatService)
      (hconfigure : configureAndInitClient parseUrl mgmtConnType mgmtConnParams = .ok (params, heartbeatService)) :
      CallCases parseUrl library (.load .inet6 mgmtConnType mgmtConnParams) 0
        (library.assign (some ⟨some (configured params heartbeatService)⟩))
  | unload : CallCases parseUrl library .unload 0 (library.assign none)
  | noIOContext (networkState : Option Unit) :
      CallCases parseUrl library (.dhcp6SrvConfigured (some false) networkState) 1 library
  | unconfigured (himpl : library.impl = some ⟨none⟩) :
      CallCases parseUrl library (.dhcp6SrvConfigured (some true) (some ())) 0 library
  | started (service : DHCP6ExporterService) (himpl : library.impl = some ⟨some service⟩)
      (hscheme : service.client.params.connInfo.url.scheme ≠ .https) (hperiod : 0 < service.period) :
      CallCases parseUrl library (.dhcp6SrvConfigured (some true) (some ())) 0
        ⟨some ⟨some ({ service with ioService := true }.started library.httpClients)⟩,
          (library.httpClients.restart service.client.httpClient).restart service.heartbeatClient⟩
  | subnet6Select : CallCases parseUrl library .subnet6Select 0 library
  | leaseCallout (event : CalloutEvent Addr) (impl : DHCP6ExporterImpl) (himpl : library.impl = some impl)
      (hreached : ∀ effect ∈ event.handler.effects, reachEffect impl event.leaseMgr effect = .ok ())
      (hhandled : event.handler.outcome ≠ .undefined) :
      CallCases parseUrl library (.leaseCallout event) 0 library

section Handled

variable {impl : DHCP6ExporterImpl} {leaseMgr : LeaseMgr Addr} {handled : ServiceProg Addr Unit}

omit [DecidableEq Addr]

theorem performEffect_outcome (effect : ServiceEffect Addr) :
    (performEffect impl leaseMgr effect).outcome = reachEffect impl leaseMgr effect := by
  rw [performEffect]
  cases reachEffect impl leaseMgr effect <;> rfl

theorem performHandled_eq_ok_iff : (performHandled impl leaseMgr handled).outcome = .ok () ↔
    (∀ effect ∈ handled.effects, reachEffect impl leaseMgr effect = .ok ()) ∧ handled.outcome ≠ .undefined := by
  have hall : (Prog.forEach (performEffect impl leaseMgr) handled.effects).outcome = .ok () ↔
      ∀ effect ∈ handled.effects, reachEffect impl leaseMgr effect = .ok () := by
    simp only [Prog.forEach_outcome_eq_ok_iff, performEffect_outcome]
  rw [performHandled, Prog.bind_outcome, Outcome.bind_eq_ok_iff]
  cases handled.outcome <;> simp [hall]

theorem performHandled_ne_throw (exn : Terminated) :
    (performHandled impl leaseMgr handled).outcome ≠ .throw exn := by
  rw [performHandled, Prog.bind_outcome]
  refine Outcome.bind_ne_throw (Prog.forEach_outcome_ne_throw handled.effects fun effect => ?_) fun _ => ?_
  · rw [performEffect_outcome]
    exact reachEffect_ne_throw impl leaseMgr effect exn
  · cases handled.outcome <;> nofun

end Handled

/-- A callout comes back when it has behind `impl` what its effects go through, and its handler is defined. -/
theorem leaseCallout_eq_ok_iff {library : HookLibrary} {event : CalloutEvent Addr} {result : Int × HookLibrary} :
    (library.leaseCallout event).outcome = .ok result ↔
      (∃ impl, library.impl = some impl ∧
        ∀ effect ∈ event.handler.effects, reachEffect impl event.leaseMgr effect = .ok ()) ∧
        event.handler.outcome ≠ .undefined ∧ result = (0, library) := by
  cases himpl : library.impl with
  | none => simp [leaseCallout, himpl]
  | some impl =>
      have hperformed : (performHandled impl event.leaseMgr (callout event.handler)).outcome = .ok () ↔
          (∀ effect ∈ event.handler.effects, reachEffect impl event.leaseMgr effect = .ok ()) ∧
            event.handler.outcome ≠ .undefined := by
        rw [performHandled_eq_ok_iff, callout_effects, ne_eq, callout_outcome_eq_undefined_iff]
      simp only [leaseCallout, himpl, Prog.bind_outcome, Prog.lift_outcome, Outcome.deref_some, Outcome.ok_bind,
        Outcome.bind_eq_ok_iff, Prog.pure_outcome, Outcome.ok.injEq, hperformed]
      simp [and_assoc, eq_comm]

theorem leaseCallout_ne_throw (library : HookLibrary) (event : CalloutEvent Addr) (exn : Terminated) :
    (library.leaseCallout event).outcome ≠ .throw exn := by
  rw [leaseCallout, Prog.bind_outcome]
  refine Outcome.bind_ne_throw ?_ fun impl => ?_
  · cases library.impl <;> nofun
  · rw [Prog.bind_outcome]
    exact Outcome.bind_ne_throw (performHandled_ne_throw exn) fun _ => nofun

theorem callCases_of_call {parseUrl : String → Except String Url} {library library' : HookLibrary}
    {libraryCall : LibraryCall Addr} {code : Int}
    (hcall : (library.call parseUrl libraryCall).outcome = .ok (code, library')) :
    CallCases parseUrl library libraryCall code library' := by
  cases libraryCall with
  | load family mgmtConnType mgmtConnParams =>
      simp only [call, load] at hcall
      split at hcall
      · rename_i hfamily
        obtain ⟨rfl, rfl⟩ := Prod.mk.inj (Outcome.ok.inj hcall)
        exact .otherFamily mgmtConnType mgmtConnParams hfamily
      · rename_i hfamily
        obtain rfl := not_not.mp hfamily
        split at hcall
        · rename_i params heartbeatService hconfigure
          obtain ⟨rfl, rfl⟩ := Prod.mk.inj (Outcome.ok.inj hcall)
          exact .loaded mgmtConnType mgmtConnParams params heartbeatService hconfigure
        · rename_i exn hconfigure
          obtain ⟨rfl, rfl⟩ := Prod.mk.inj (Outcome.ok.inj hcall)
          exact .loadFailed mgmtConnType mgmtConnParams exn hconfigure
        · cases hcall
  | unload =>
      obtain ⟨rfl, rfl⟩ := Prod.mk.inj (Outcome.ok.inj hcall)
      exact .unload
  | dhcp6SrvConfigured ioContext networkState =>
      cases ioContext with
      | none => cases hcall
      | some present =>
          cases present with
          | false =>
              obtain ⟨rfl, rfl⟩ := Prod.mk.inj (Outcome.ok.inj hcall)
              exact .noIOContext networkState
          | true =>
              cases networkState with
              | none => cases hcall
              | some state =>
                  cases himpl : library.impl with
                  | none => simp [call, dhcp6SrvConfigured, himpl] at hcall
                  | some impl =>
                      obtain ⟨service⟩ := impl
                      cases service with
                      | none =>
                          have hsame : library = ⟨some ⟨none⟩, library.httpClients⟩ := by rw [← himpl]
                          simp [call, dhcp6SrvConfigured, himpl, DHCP6ExporterImpl.startService] at hcall
                          obtain ⟨rfl, rfl⟩ := hcall
                          rw [← hsame]
                          exact .unconfigured himpl
                      | some service =>
                          rw [call, dhcp6SrvConfigured_of_service himpl] at hcall
                          split at hcall
                          · cases hcall
                          · rename_i hstarts
                            obtain ⟨rfl, rfl⟩ := Prod.mk.inj (Outcome.ok.inj hcall)
                            rw [not_or, Int64.not_le] at hstarts
                            exact .started service himpl hstarts.1 hstarts.2
  | subnet6Select =>
      obtain ⟨rfl, rfl⟩ := Prod.mk.inj (Outcome.ok.inj hcall)
      exact .subnet6Select
  | leaseCallout event =>
      obtain ⟨⟨impl, himpl, hreached⟩, hhandled, hresult⟩ := leaseCallout_eq_ok_iff.mp hcall
      obtain ⟨rfl, rfl⟩ := Prod.mk.inj hresult
      exact .leaseCallout event impl himpl hreached hhandled

theorem callCases_of_step {parseUrl : String → Except String Url} {library library' : HookLibrary}
    {libraryCall : LibraryCall Addr} (hstep : library.step parseUrl libraryCall = some library') :
    ∃ code, (library.call parseUrl libraryCall).outcome = .ok (code, library') ∧
      CallCases parseUrl library libraryCall code library' := by
  rw [step] at hstep
  split at hstep
  · rename_i code last hcall
    obtain rfl := Option.some.inj hstep
    exact ⟨code, hcall, callCases_of_call hcall⟩
  · cases hstep

end HookLibrary

end NxosExporter
