import NxosExporter.Lib.OverlappingUpdates
import NxosExporter.Proof.LeaseMirror

/-!
# Callouts that overlap

Kea does not wait for the switch between two callouts. As long as a callout of an address comes only when no
request for the address is on its way, the workers may interleave the requests of all the others in any order:
at every moment the addresses without a request on its way have the routes that their callouts ask for.
-/

namespace NxosExporter

open WorkPool Transition UpdateTable

variable {Addr : Type} [DecidableEq Addr] [IOAddress Addr]

/-- A request for the address waits, is being executed, or will follow a reply that is already there. -/
def RequestPool.OnItsWay (switch : Switch) (pool : RequestPool) (address : Addr) : Prop :=
  ∃ request ∈ pool.pending (calloutWork Addr switch), request.hostRoute = some (hostSubnet address)

/-- A callout is for an address of the relays, and comes when no request for its addresses is on its way. -/
def Unhurried (switch : Switch) (relay : Addr → Addr) (addresses : Set Addr) (pool : RequestPool) :
    Action (CalloutEvent Addr) → Prop
  | .post event =>
      event.Through relay addresses ∧ ∀ update ∈ event.updates, ¬ pool.OnItsWay switch update.entry
  | .take | .execute _ | .finish _ => True

variable {switch : Switch} {relay : Addr → Addr} {vlan : Addr → String} {addresses : Set Addr}
  {pool pool' : RequestPool} {action : Action (CalloutEvent Addr)} {actions : List (Action (CalloutEvent Addr))}

theorem separate_of_unhurried (hunhurried : Unhurried switch relay addresses pool action) :
    (addressCarrier relay vlan addresses).Separate (calloutWork Addr switch) CalloutEvent.updates pool action := by
  cases action with
  | post event =>
      obtain ⟨hthrough, hnone⟩ := hunhurried
      refine ⟨covers_posted hthrough, fun request hrequest update hstage other hother hentry => ?_⟩
      refine hnone other hother ⟨request, hrequest, ?_⟩
      rw [hentry]
      exact hostRoute_of_addressStage hstage
  | take => trivial
  | execute i => trivial
  | finish i => trivial

/-- **Overlapping callouts.** At every moment of a run, the host routes of an address with no request on its way
are as its last update says. -/
theorem hostRoutes_between_requests (hswitch : switch.KnowsRoutes relay vlan addresses) (hidle : pool.Idle)
    (hempty : ∀ (address : Addr) dst, (hostSubnet address, dst) ∉ pool.shared)
    (hrun : RunWhere (Pool.step (calloutWork Addr switch)) (Unhurried switch relay addresses) pool actions pool')
    {address : Addr} (hnone : ¬ pool'.OnItsWay switch address) (dst : String) :
    (hostSubnet address, dst) ∈ pool'.shared ↔
      dst = vlan address ∧
        lastUpdate (postedUpdates CalloutEvent.updates actions) address = some (.add address) := by
  have hshows : (addressCarrier relay vlan addresses).Shows ∅ pool.shared :=
    ⟨fun address dst hmem => absurd hmem (hempty address dst),
      fun address => iff_of_false (hempty address _) (Finset.notMem_empty address)⟩
  have htracking := tracking_run (addressCarrier_works hswitch) hidle hshows
    (hrun.mono fun mid action => separate_of_unhurried)
  have hsettled : ∀ request ∈ pool'.pending (calloutWork Addr switch), ∀ update,
      (addressCarrier relay vlan addresses).StageOf update request → update.entry ≠ address := by
    intro request hrequest update hstage hentry
    exact hnone ⟨request, hrequest, hentry ▸ hostRoute_of_addressStage hstage⟩
  have hpresent := htracking.settled address hsettled
  rw [mem_applyAll_empty_iff] at hpresent
  constructor
  · intro hmem
    obtain rfl := htracking.inv address dst hmem
    exact ⟨rfl, hpresent.mp hmem⟩
  · rintro ⟨rfl, hlast⟩
    exact hpresent.mpr hlast

/-! A second client is served while the lookup for the first one is still on its way. -/

def selectedAtOnce (lease : Lease6 TextAddress) : Action (CalloutEvent TextAddress) :=
  .post (.lease6Select ⟨[]⟩ renewQuery lease false)

def servedMeanwhile : List (Action (CalloutEvent TextAddress)) :=
  [.take, .take, .execute 0, .finish 0, .take, .execute 0, .finish 0]

def withRequests (requests : List Request) : RequestPool := (RequestPool.create 2 ∅).enqueue requests

def bothSelected : RequestPool :=
  withRequests [exportLookup linkAddress otherAddress, exportLookup linkAddress clientAddress]

def secondServed : RequestPool :=
  (replay (Pool.step (calloutWork TextAddress oneRelay)) bothSelected servedMeanwhile).getD bothSelected

theorem onItsWay_withRequests_iff {requests : List Request} {address : TextAddress} :
    (withRequests requests).OnItsWay oneRelay address ↔
      ∃ request ∈ requests, request.hostRoute = some (hostSubnet address) := by
  have hidle : (RequestPool.create 2 ∅).Idle := ⟨rfl, rfl⟩
  rw [RequestPool.OnItsWay, withRequests, pending_enqueue, pending_of_idle hidle, zero_add]
  rfl

theorem hostRoutes_between_requests_secondServed :
    (hostSubnet clientAddress, "Vlan10") ∈ secondServed.shared := by
  have hidle : (RequestPool.create 2 ∅).Idle := ⟨rfl, rfl⟩
  have hfirst : RunWhere (Pool.step (calloutWork TextAddress oneRelay))
      (Unhurried oneRelay (fun _ => linkAddress) {clientAddress, otherAddress}) (RequestPool.create 2 ∅)
      [selectedAtOnce formerLease] (withRequests [exportLookup linkAddress otherAddress]) := by
    refine .single ⟨⟨rfl, .inr rfl, rfl⟩, List.forall_mem_singleton.mpr ?_⟩ rfl
    rintro ⟨request, hrequest, -⟩
    rw [pending_of_idle hidle] at hrequest
    exact Multiset.notMem_zero request hrequest
  have hboth : RunWhere (Pool.step (calloutWork TextAddress oneRelay))
      (Unhurried oneRelay (fun _ => linkAddress) {clientAddress, otherAddress}) (RequestPool.create 2 ∅)
      [selectedAtOnce formerLease, selectedAtOnce addressLease] bothSelected := by
    refine hfirst.snoc ⟨⟨rfl, .inl rfl, rfl⟩, List.forall_mem_singleton.mpr ?_⟩ rfl
    rw [onItsWay_withRequests_iff]
    decide
  have hmeanwhile : RunWhere (Pool.step (calloutWork TextAddress oneRelay))
      (Unhurried oneRelay (fun _ => linkAddress) {clientAddress, otherAddress}) bothSelected servedMeanwhile
      secondServed := by
    refine .of_replay (fun _ action haction => ?_) rfl
    cases action with
    | post event => simp [servedMeanwhile] at haction
    | take => trivial
    | execute i => trivial
    | finish i => trivial
  have hnone : ¬ secondServed.OnItsWay oneRelay clientAddress := by
    have hleft : secondServed.pending (calloutWork TextAddress oneRelay)
        = {exportLookup linkAddress otherAddress} := rfl
    rintro ⟨request, hrequest, hroute⟩
    rw [hleft, Multiset.mem_singleton] at hrequest
    subst hrequest
    revert hroute
    decide
  exact (hostRoutes_between_requests oneRelay_knowsRoutes hidle (fun _ _ => Finset.notMem_empty _)
    (hboth.append hmeanwhile) hnone "Vlan10").mpr ⟨rfl, rfl⟩

end NxosExporter
