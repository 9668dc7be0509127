import NxosExporter.Proof.LibraryPhases
import NxosExporter.Proof.PendingCall

/-!
# The HTTP clients of the hook library

Each HTTP client is held by one pointer until it is destroyed. A started service holds two, and every other client
that was ever made has been started once and destroyed once. So the exported functions never stop a client twice and
their calls on it can return; `stopService`, which none of them calls, stops what it then destroys.
-/

namespace NxosExporter

open Effectful Transition

/-! ### Pointers -/

/-- The clients that are held run, the others have been destroyed. -/
structure Kept (clients : HttpClients) (held : List Nat) : Prop where
  nodup : held.Nodup
  running : ∀ i ∈ held, clients[i]? = some [.startClient]
  destroyed : ∀ i calls, clients[i]? = some calls → i ∉ held → calls = [.startClient, .destroy]

namespace Kept

variable {clients : HttpClients} {held held' rest : List Nat} {pointer : Option Nat}

theorem perm (hkept : Kept clients held) (hperm : held.Perm held') : Kept clients held' where
  nodup := hperm.nodup hkept.nodup
  running i hmem := hkept.running i (hperm.mem_iff.mpr hmem)
  destroyed i calls hcalls hmem := hkept.destroyed i calls hcalls fun hheld => hmem (hperm.mem_iff.mp hheld)

theorem lt_length (hkept : Kept clients held) {i : Nat} (hmem : i ∈ held) : i < clients.length :=
  (List.getElem?_eq_some_iff.mp (hkept.running i hmem)).1

/-- A pointer that lets go destroys its client. -/
theorem release (hkept : Kept clients (pointer.toList ++ rest)) : Kept (clients.release pointer) rest := by
  cases pointer with
  | none => exact hkept
  | some i =>
      obtain ⟨hnot, hnodup⟩ := List.nodup_cons.mp hkept.nodup
      refine ⟨hnodup, fun j hmem => ?_, fun j calls hcalls hmem => ?_⟩
      · have hne : i ≠ j := by
          rintro rfl
          exact hnot hmem
        rw [HttpClients.release, HttpClients.call, List.getElem?_modify_ne _ _ hne]
        exact hkept.running j (List.mem_cons_of_mem i hmem)
      · rw [HttpClients.release, HttpClients.call] at hcalls
        by_cases heq : i = j
        · subst heq
          rw [List.getElem?_modify_eq, hkept.running i List.mem_cons_self] at hcalls
          exact (Option.some.inj hcalls).symm
        · rw [List.getElem?_modify_ne _ _ heq] at hcalls
          refine hkept.destroyed j calls hcalls fun hheld => ?_
          obtain rfl | hrest := List.mem_cons.mp hheld
          · exact heq rfl
          · exact hmem hrest

theorem push (hkept : Kept clients held) : Kept (clients ++ [[.startClient]]) (clients.length :: held) where
  nodup := List.nodup_cons.mpr ⟨fun hmem => Nat.lt_irrefl _ (hkept.lt_length hmem), hkept.nodup⟩
  running i hmem := by
    obtain rfl | hheld := List.mem_cons.mp hmem
    · simp
    · rw [List.getElem?_append_left (hkept.lt_length hheld)]
      exact hkept.running i hheld
  destroyed i calls hcalls hmem := by
    rw [List.mem_cons, not_or] at hmem
    have hlt : i < clients.length := by
      have hbound := (List.getElem?_eq_some_iff.mp hcalls).1
      rw [List.length_append, List.length_singleton] at hbound
      omega
    rw [List.getElem?_append_left hlt] at hcalls
    exact hkept.destroyed i calls hcalls hmem.2

end Kept

section Modify

variable {α : Type} {items : List α} {f : α → α}

theorem modify_append_left {i : Nat} (hlt : i < items.length) (more : List α) :
    (items ++ more).modify i f = items.modify i f ++ more := by
  induction items generalizing i with
  | nil => exact absurd hlt (Nat.not_lt_zero i)
  | cons item rest ih =>
      cases i with
      | zero => simp
      | succ i => simp [ih (Nat.lt_of_succ_lt_succ hlt)]

theorem modify_append_singleton (items : List α) (item : α) :
    (items ++ [item]).modify items.length f = items ++ [f item] := by
  induction items with
  | nil => rfl
  | cons other rest ih => simp [ih]

end Modify

/-- The client that is replaced is destroyed and the new one is started. -/
theorem HttpClients.restart_eq {clients : HttpClients} {pointer : Option Nat}
    (hpointer : ∀ i, pointer = some i → i < clients.length) :
    clients.restart pointer = clients.release pointer ++ [[.startClient]] := by
  cases pointer with
  | none => exact modify_append_singleton clients []
  | some i =>
      have hlength : (clients.release (some i)).length = clients.length := List.length_modify _ _ _
      have hreleased : (clients ++ [[]]).release (some i) = clients.release (some i) ++ [[]] :=
        modify_append_left (hpointer i rfl) [[]]
      rw [restart, hreleased, call, ← hlength]
      exact modify_append_singleton _ []

theorem HttpClients.length_release (clients : HttpClients) (pointer : Option Nat) :
    (clients.release pointer).length = clients.length := by
  cases pointer with
  | none => rfl
  | some i => exact List.length_modify _ _ _

namespace Kept

variable {clients : HttpClients} {rest : List Nat} {pointer : Option Nat}

/-- A pointer that is assigned a new client. -/
theorem restart (hkept : Kept clients (pointer.toList ++ rest)) :
    Kept (clients.restart pointer) (clients.length :: rest) := by
  have hpointer : ∀ i, pointer = some i → i < clients.length := by
    rintro i rfl
    exact hkept.lt_length List.mem_cons_self
  rw [HttpClients.restart_eq hpointer, ← HttpClients.length_release clients pointer]
  exact hkept.release.push

end Kept

/-! ### The library -/

namespace DHCP6ExporterService

variable {service : DHCP6ExporterService} {clients : HttpClients}

def held (service : DHCP6ExporterService) : List Nat :=
  service.client.httpClient.toList ++ service.heartbeatClient.toList

/-- Both clients are there, or neither. -/
def Paired (service : DHCP6ExporterService) : Prop :=
  service.client.httpClient.isSome = service.heartbeatClient.isSome

theorem kept_destroy (hkept : Kept clients service.held) : Kept (service.destroy clients) [] := by
  have hheartbeat : Kept clients (service.heartbeatClient.toList ++ service.client.httpClient.toList) :=
    hkept.perm List.perm_append_comm
  have hclient := hheartbeat.release
  rw [← List.append_nil service.client.httpClient.toList] at hclient
  exact hclient.release

theorem kept_started (hkept : Kept clients service.held) :
    Kept ((clients.restart service.client.httpClient).restart service.heartbeatClient)
      ({ service with ioService := true }.started clients).held := by
  have hclient : Kept (clients.restart service.client.httpClient)
      (clients.length :: service.heartbeatClient.toList) := hkept.restart
  have hswapped : Kept (clients.restart service.client.httpClient)
      (service.heartbeatClient.toList ++ [clients.length]) := hclient.perm (List.perm_append_singleton _ _).symm
  exact hswapped.restart.perm (List.Perm.swap _ _ _)

end DHCP6ExporterService

namespace HookLibrary

variable {Addr : Type} [IOAddress Addr] [DecidableEq Addr] {parseUrl : String → Except String Url}
  {library library' : HookLibrary} {calls : List (LibraryCall Addr)} {libraryCall : LibraryCall Addr}

def service (library : HookLibrary) : Option DHCP6ExporterService := library.impl.bind DHCP6ExporterImpl.service

/-- The HTTP clients that the library holds. -/
def held (library : HookLibrary) : List Nat :=
  match library.service with
  | some service => service.held
  | none => []

/-- The clients that the library holds run, and they come in pairs. -/
structure Owns (library : HookLibrary) : Prop where
  kept : Kept library.httpClients library.held
  paired : ∀ service, library.service = some service → service.Paired

omit [IOAddress Addr] [DecidableEq Addr] in
/-- What is destroyed with an implementation. -/
theorem kept_assign (impl : Option DHCP6ExporterImpl) (howns : library.Owns) :
    Kept (library.assign impl).httpClients [] := by
  obtain ⟨hkept, -⟩ := howns
  rw [held, service] at hkept
  rw [assign]
  cases himpl : library.impl with
  | none =>
      simp only [himpl, Option.bind_none] at hkept
      exact hkept
  | some old =>
      cases hservice : old.service with
      | none =>
          simp only [himpl, Option.bind_some, hservice] at hkept
          simpa [DHCP6ExporterImpl.destroy, hservice] using hkept
      | some service =>
          simp only [himpl, Option.bind_some, hservice] at hkept
          simpa [DHCP6ExporterImpl.destroy, hservice] using DHCP6ExporterService.kept_destroy hkept

omit [IOAddress Addr] [DecidableEq Addr] in
theorem owns_of_noService (hservice : library.service = none) (hkept : Kept library.httpClients []) :
    library.Owns := by
  constructor
  · rw [held, hservice]
    exact hkept
  · intro service hsome
    rw [hservice] at hsome
    cases hsome

theorem owns_step (hstep : library.step parseUrl libraryCall = some library') (howns : library.Owns) :
    library'.Owns := by
  obtain ⟨code, -, hcases⟩ := callCases_of_step hstep
  cases hcases with
  | otherFamily mgmtConnType mgmtConnParams hfamily => exact howns
  | loadFailed mgmtConnType mgmtConnParams exn hconfigure => exact owns_of_noService rfl (kept_assign _ howns)
  | loaded mgmtConnType mgmtConnParams params heartbeatService hconfigure =>
      refine ⟨kept_assign _ howns, ?_⟩
      rintro service hservice
      obtain rfl := Option.some.inj hservice
      rfl
  | unload => exact owns_of_noService rfl (kept_assign _ howns)
  | noIOContext networkState => exact howns
  | unconfigured himpl => exact howns
  | started service himpl hscheme hperiod =>
      have hkept : Kept library.httpClients service.held := by
        simpa [held, HookLibrary.service, himpl] using howns.kept
      refine ⟨service.kept_started hkept, ?_⟩
      rintro other hother
      obtain rfl := Option.some.inj hother
      rfl
  | subnet6Select => exact howns
  | leaseCallout event impl himpl hreached hhandled => exact howns

theorem owns_run (hrun : Run (step parseUrl) create calls library) : library.Owns :=
  hrun.invariant Owns (owns_of_noService rfl ⟨List.nodup_nil, nofun, nofun⟩) fun _ _ _ _ hstep hmid =>
    owns_step hstep hmid

theorem length_held (howns : library.Owns) : library.held.length = if library.phase = .started then 2 else 0 := by
  have hpaired := howns.paired
  rw [held, phase]
  cases himpl : library.impl with
  | none => simp [service, himpl]
  | some impl =>
      cases hservice : impl.service with
      | none => simp [service, himpl, hservice, DHCP6ExporterImpl.phase]
      | some service =>
          have hboth : service.Paired := hpaired service (by simp [HookLibrary.service, himpl, hservice])
          rw [DHCP6ExporterService.Paired] at hboth
          simp only [HookLibrary.service, himpl, Option.bind_some, hservice, DHCP6ExporterImpl.phase,
            DHCP6ExporterService.held]
          cases hclient : service.client.httpClient with
          | none =>
              rw [hclient, Option.isSome_none] at hboth
              cases hheartbeat : service.heartbeatClient with
              | none => simp
              | some i => simp [hheartbeat] at hboth
          | some i =>
              rw [hclient, Option.isSome_some] at hboth
              cases hheartbeat : service.heartbeatClient with
              | none => simp [hheartbeat] at hboth
              | some j => simp

/-- **Ownership.** In every run of the library exactly the two clients of a started service are running; every other
client that was made has been started once and then destroyed. -/
theorem httpClients_held (hrun : Run (step parseUrl) create calls library) :
    library.held.Nodup ∧ library.held.length = (if library.phase = .started then 2 else 0) ∧
      ∀ i < library.httpClients.length, library.httpClients[i]?
        = some (if i ∈ library.held then [.startClient] else [.startClient, .destroy]) := by
  have howns := owns_run hrun
  refine ⟨howns.kept.nodup, length_held howns, fun i hlt => ?_⟩
  split
  · rename_i hmem
    exact howns.kept.running i hmem
  · rename_i hmem
    rw [List.getElem?_eq_getElem hlt, howns.kept.destroyed i _ (List.getElem?_eq_getElem hlt) hmem]

/-! ### Returning -/

section Returning

variable {τ : Type} {client : ClientThreads τ} {actions : List (ThreadsAction τ)}

theorem startBetweenStops_of_startDestroy {made : List ClientCall} (hmade : made <+: [.startClient, .destroy]) :
    StartBetweenStops made := by
  intro past stop stop' rest heq hstops
  have hlength := hmade.length_le
  rw [heq, List.length_append, List.length_cons, List.length_cons] at hlength
  obtain rfl : past = [] := List.eq_nil_of_length_eq_zero (by simp at hlength; omega)
  rw [heq] at hmade
  obtain ⟨rfl, -⟩ : stop = .startClient ∧ _ := by simpa using hmade
  cases hstops

/-- **No hanging call.** Whatever exported functions Kea has called and in which order, no call of an HTTP client is
left without a way to return. -/
theorem httpClient_canReturn {made : List ClientCall} (hrun : Run (step parseUrl) create calls library)
    (hmade : made ∈ library.httpClients)
    (hthreads : Run ClientThreads.step (.create defaultThreadPoolSize) actions client)
    (hcalls : ClientThreads.clientCalls actions <+: made) : client.CanReturn := by
  have hkept := (owns_run hrun).kept
  have hwithin : made <+: [.startClient, .destroy] := by
    obtain ⟨i, hget⟩ := List.mem_iff_getElem?.mp hmade
    by_cases hheld : i ∈ library.held
    · obtain rfl := Option.some.inj (hget.symm.trans (hkept.running i hheld))
      exact ⟨[.destroy], rfl⟩
    · rw [hkept.destroyed i made hget hheld]
  obtain ⟨-, hpending⟩ | ⟨hbroken, -⟩ := ClientThreads.pending_or_stuck hthreads
  · exact hpending.canReturn
  · exact absurd (.inr (startBetweenStops_of_startDestroy (hcalls.trans hwithin))) hbroken

/-- What `stopService` makes of a client that it finds running. -/
theorem getElem?_stopService {impl impl' : DHCP6ExporterImpl} {clients clients' : HttpClients}
    {service : DHCP6ExporterService} (hservice : impl.service = some service) (hkept : Kept clients service.held)
    (hstop : impl.stopService clients = .ok (impl', clients')) {i : Nat} (hheld : i ∈ service.held) :
    clients'[i]? = some [.startClient, .stopClient, .destroy] := by
  simp only [DHCP6ExporterImpl.stopService, hservice, Outcome.deref_some, Outcome.ok_bind,
    DHCP6ExporterService.stopService] at hstop
  have hrunning := hkept.running i hheld
  have hnodup := hkept.nodup
  rw [DHCP6ExporterService.held] at hheld hnodup
  cases hclient : service.client.httpClient with
  | none => simp [hclient] at hstop
  | some c =>
      cases hheartbeat : service.heartbeatClient with
      | none => simp [hclient, hheartbeat] at hstop
      | some h =>
          cases htimer : service.timer with
          | none => simp [hclient, hheartbeat, htimer] at hstop
          | some interval =>
              have hne : c ≠ h := by
                rintro rfl
                simp [hclient, hheartbeat] at hnodup
              simp only [hclient, hheartbeat, htimer, Outcome.deref_some, Outcome.ok_bind, Outcome.pure_eq,
                Outcome.ok.injEq, Prod.mk.injEq] at hstop
              obtain ⟨-, rfl⟩ := hstop
              simp only [DHCP6ExporterService.destroy, hclient, HttpClients.release, HttpClients.call,
                List.getElem?_modify]
              obtain rfl | rfl : i = c ∨ i = h := by simpa [hclient, hheartbeat] using hheld
              · simp [hrunning, hne.symm]
              · simp [hrunning, hne]

/-- **The call that hangs.** `stopService`, which nothing calls, destroys each client that it has stopped, and there
is no way to return from that. -/
theorem stopService_not_canReturn {impl impl' : DHCP6ExporterImpl} {clients' : HttpClients} {i : Nat}
    (hrun : Run (step parseUrl) create calls library) (himpl : library.impl = some impl)
    (hstop : impl.stopService library.httpClients = .ok (impl', clients')) (hheld : i ∈ library.held)
    (hthreads : Run ClientThreads.step (.create defaultThreadPoolSize) actions client)
    (hcalls : clients'[i]? = some (ClientThreads.clientCalls actions)) : ¬ client.CanReturn := by
  have hkept := (owns_run hrun).kept
  rw [held, service, himpl, Option.bind_some] at hkept hheld
  have hthree : ClientThreads.clientCalls actions = [.startClient, .stopClient, .destroy] := by
    cases hservice : impl.service with
    | none => simp [hservice] at hheld
    | some service =>
        simp only [hservice] at hkept hheld
        exact Option.some.inj (hcalls.symm.trans (getElem?_stopService hservice hkept hstop hheld))
  obtain ⟨hgood, -⟩ | ⟨-, hcounted, hstuck⟩ := ClientThreads.pending_or_stuck hthreads
  · rw [hthree] at hgood
    obtain hsize | hbetween := hgood
    · cases hsize
    · exact absurd List.mem_cons_self (hbetween [.startClient] .stopClient .destroy [] rfl rfl rfl)
  · exact ClientThreads.not_canReturn_of_stuck hcounted hstuck

end Returning

/-! The switch is configured twice, so that the clients of the first time are gone. -/

theorem httpClients_held_configuredTwice :
    (libraryAfter [loadSwitch, configure, configure]).held.Nodup ∧
      (libraryAfter [loadSwitch, configure, configure]).held.length = 2 ∧
        ∀ i < 4, (libraryAfter [loadSwitch, configure, configure]).httpClients[i]?
          = some (if i ∈ [2, 3] then [.startClient] else [.startClient, .destroy]) := by
  have hrun : Run (step parseSwitchUrl) create [loadSwitch, configure, configure]
      (libraryAfter [loadSwitch, configure, configure]) := run_of_replay rfl
  have hheld : (libraryAfter [loadSwitch, configure, configure]).held = [2, 3] := rfl
  have hphase : (libraryAfter [loadSwitch, configure, configure]).phase = .started := rfl
  have hlength : (libraryAfter [loadSwitch, configure, configure]).httpClients.length = 4 := rfl
  obtain ⟨hnodup, hcount, hclients⟩ := httpClients_held hrun
  rw [hphase, if_pos rfl] at hcount
  rw [hlength] at hclients
  simp only [hheld] at hclients
  exact ⟨hnodup, hcount, hclients⟩

/-- One start of a client is under way when the library that made it is unloaded. -/
theorem httpClient_canReturn_unloaded :
    ((ClientThreads.create 4).call .startClient : ClientThreads Nat).CanReturn := by
  have hrun : Run (step parseSwitchUrl) create [loadSwitch, configure, .unload]
      (libraryAfter [loadSwitch, configure, .unload]) := run_of_replay rfl
  have hclients : (libraryAfter [loadSwitch, configure, .unload]).httpClients
      = [[.startClient, .destroy], [.startClient, .destroy]] := rfl
  have hmade : [.startClient, .destroy] ∈ (libraryAfter [loadSwitch, configure, .unload]).httpClients := by
    rw [hclients]
    exact List.mem_cons_self
  have hthreads : Run ClientThreads.step (.create defaultThreadPoolSize) [.call .startClient]
      ((ClientThreads.create 4).call .startClient : ClientThreads Nat) := run_of_replay rfl
  exact httpClient_canReturn hrun hmade hthreads ⟨[.destroy], rfl⟩

/-- Four threads that are started, stopped and joined, and then stopped again by the destructor. -/
def startStopDestroy : List (ThreadsAction Nat) :=
  [.call .startClient, .check] ++ (List.range 4).flatMap (fun i => [.worker i, .worker i]) ++ [.wake, .check] ++
    [.call .stopClient, .poll, .check] ++
    (List.range 4).flatMap (fun i => [.worker i, .worker i, .worker i, .worker i]) ++ [.wake, .check, .join] ++
    [.call .destroy]

theorem stopService_not_canReturn_started :
    ¬ ((replay ClientThreads.step (.create 4) startStopDestroy).getD (.create 4)).CanReturn := by
  have hrun : Run (step parseSwitchUrl) create [loadSwitch, configure] (libraryAfter [loadSwitch, configure]) :=
    run_of_replay rfl
  have hthreads : Run ClientThreads.step (.create defaultThreadPoolSize) startStopDestroy
      ((replay ClientThreads.step (.create 4) startStopDestroy).getD (.create 4)) := run_of_replay rfl
  exact stopService_not_canReturn hrun rfl rfl (List.mem_cons_self : 0 ∈ [0, 1]) hthreads rfl

end HookLibrary

end NxosExporter
