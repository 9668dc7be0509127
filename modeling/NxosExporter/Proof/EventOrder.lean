import NxosExporter.RequestPool

/-!
# The last event for an address

Exports and removals of an address are requests that the pool may run in any order. The route follows the
last event when no request of the other kind was left at that event; otherwise, with a second thread, the
requests can be run so that one of the other kind comes last.
-/

namespace NxosExporter

open WorkPool Transition

variable {Addr : Type}

structure Scene (Addr : Type) where
  address : Addr
  relayAddr : Addr
  vlanIfName : String

section Requests

variable [IOAddress Addr]

def Scene.route (scene : Scene Addr) : String × String := (hostSubnet scene.address, scene.vlanIfName)

def Scene.lookup (scene : Scene Addr) : Bool → Request
  | true => exportLookup scene.relayAddr scene.address
  | false => removalLookup scene.relayAddr scene.address

def Scene.command (scene : Scene Addr) : Bool → Request
  | true => exportCommand scene.address scene.vlanIfName
  | false => removalCommand scene.address scene.vlanIfName

def Scene.RequestFor (scene : Scene Addr) (isExport : Bool) (request : Request) : Prop :=
  request = scene.lookup isExport ∨ request = scene.command isExport

def Scene.Concerns (scene : Scene Addr) : AddressEvent Addr → Prop
  | .lease6Select _ query lease | .lease6Release _ query lease =>
      lease.type = .typeNA ∧ lease.addr = scene.address ∧ query.relayInfo.head? = some scene.relayAddr
  | .restoreLease _ mapping lease =>
      lease.type = .typeNA ∧ lease.addr = scene.address ∧
        lease.hwaddr.bind mapping.find = some scene.vlanIfName

/-- The switch answers the lookups of the relay with its interface. -/
def Scene.AnsweredBy (scene : Scene Addr) (switch : Switch) : Prop :=
  ∀ table request, request.cliCommands = [.mappingVlanAddrToVlanId (hostSubnet scene.relayAddr)] →
    lookedUpVlan (switch.reply table request) = some scene.vlanIfName

variable {scene : Scene Addr} {switch : Switch} {event : AddressEvent Addr} {isExport : Bool}
  {request : Request} {table : RouteTable}

theorem posted_of_concerns (hconcerns : scene.Concerns event) :
    ∃ request, event.posted = [request] ∧ scene.RequestFor event.isExport request := by
  cases event with
  | lease6Select leaseMgr query lease =>
      obtain ⟨htype, haddr, hrelay⟩ := hconcerns
      refine ⟨scene.lookup true, ?_, .inl rfl⟩
      rw [AddressEvent.posted, postedBy_lease6Select htype hrelay, haddr]
      rfl
  | lease6Release leaseMgr query lease =>
      obtain ⟨htype, haddr, hrelay⟩ := hconcerns
      refine ⟨scene.lookup false, ?_, .inl rfl⟩
      rw [AddressEvent.posted, handleLease6Release, postedBy_leaseEnd htype hrelay, haddr]
      rfl
  | restoreLease leaseMgr mapping lease =>
      obtain ⟨htype, haddr, hvlan⟩ := hconcerns
      obtain ⟨hwAddr, hhwAddr, hfind⟩ := Option.bind_eq_some_iff.mp hvlan
      refine ⟨scene.command true, ?_, .inr rfl⟩
      simp [AddressEvent.posted, NxosExporter.restoreLease, hhwAddr, htype, hfind, haddr, Scene.command]

theorem route_mem_run_command (table : RouteTable) :
    scene.route ∈ (scene.command isExport).run table ↔ isExport = true := by
  cases isExport with
  | true =>
      have hrun : (scene.command true).run table = insert scene.route table := rfl
      simp [hrun]
  | false =>
      have hrun : (scene.command false).run table = table.erase scene.route := rfl
      simp [hrun]

theorem leadsTo_lookup (hswitch : scene.AnsweredBy switch) :
    switch.LeadsTo (scene.lookup isExport) (scene.command isExport) := by
  cases isExport with
  | true => exact leadsTo_exportLookup fun table => hswitch table _ rfl
  | false => exact leadsTo_removalLookup fun table => hswitch table _ rfl

theorem followUps_command (reply : Reply) : followUps (scene.command isExport) reply = [] := by
  cases isExport with
  | true => exact followUps_exportCommand _ _
  | false => exact followUps_removalCommand _ _

end Requests

/-! ### What the pool keeps -/

section Pool

variable [IOAddress Addr]

def Scene.Owns (scene : Scene Addr) (view : View Request RouteTable) : Prop :=
  ∀ request ∈ view.pending, ∃ isExport, scene.RequestFor isExport request

/-- Requests of one kind are left, or none and the route is as they left it. -/
structure Scene.Settles (scene : Scene Addr) (isExport : Bool) (view : View Request RouteTable) : Prop where
  requests : ∀ request ∈ view.pending, scene.RequestFor isExport request
  route : view.pending = 0 → (scene.route ∈ view.shared ↔ isExport = true)

variable {scene : Scene Addr} {switch : Switch} {event : AddressEvent Addr} {isExport : Bool}
  {view view' : View Request RouteTable} {action : Action (AddressEvent Addr)}

theorem follow_lookup (hswitch : scene.AnsweredBy switch) (table : RouteTable) :
    (requestWork Addr switch).follow (scene.lookup isExport) table = {scene.command isExport} :=
  congrArg _ ((leadsTo_lookup hswitch).next ((scene.lookup isExport).run table))

theorem follow_command (table : RouteTable) :
    (requestWork Addr switch).follow (scene.command isExport) table = 0 :=
  congrArg _ (followUps_command (switch.reply ((scene.command isExport).run table) (scene.command isExport)))

theorem requestFor_of_follow (hswitch : scene.AnsweredBy switch) {request other : Request}
    (hrequest : scene.RequestFor isExport request) {table : RouteTable}
    (hmem : other ∈ (requestWork Addr switch).follow request table) : scene.RequestFor isExport other := by
  obtain rfl | rfl := hrequest
  · rw [follow_lookup hswitch] at hmem
    exact .inr (Multiset.mem_singleton.mp hmem)
  · rw [follow_command] at hmem
    exact absurd hmem (Multiset.notMem_zero _)

theorem owns_step (hswitch : scene.AnsweredBy switch)
    (hconcerns : ∀ event, action = .post event → scene.Concerns event)
    (hstep : View.Step (requestWork Addr switch) view action view') (howns : scene.Owns view) :
    scene.Owns view' := by
  cases hstep with
  | post _ event =>
      obtain ⟨request, hposted, hrequest⟩ := posted_of_concerns (hconcerns event rfl)
      intro other hmem
      obtain hold | hnew := Multiset.mem_add.mp hmem
      · exact howns other hold
      · obtain rfl : other = request := by
          have hlist : other ∈ event.posted := hnew
          simpa [hposted] using hlist
        exact ⟨event.isExport, hrequest⟩
  | take => exact howns
  | execute request rest table i =>
      intro other hmem
      obtain hrest | hfollow := Multiset.mem_add.mp hmem
      · exact howns other (Multiset.mem_cons_of_mem hrest)
      · obtain ⟨isExport, hrequest⟩ := howns request (Multiset.mem_cons_self request rest)
        exact ⟨isExport, requestFor_of_follow hswitch hrequest hfollow⟩
  | finish => exact howns

theorem settles_step (hswitch : scene.AnsweredBy switch) (hpost : action.isPost = false)
    (hstep : View.Step (requestWork Addr switch) view action view')
    (hsettles : scene.Settles isExport view) : scene.Settles isExport view' := by
  cases hstep with
  | post event => cases hpost
  | take => exact hsettles
  | execute request rest table i =>
      have hrequest := hsettles.requests request (Multiset.mem_cons_self request rest)
      refine ⟨fun other hmem => ?_, fun hnone => ?_⟩
      · obtain hrest | hfollow := Multiset.mem_add.mp hmem
        · exact hsettles.requests other (Multiset.mem_cons_of_mem hrest)
        · exact requestFor_of_follow hswitch hrequest hfollow
      · -- a lookup leaves its command, so the last request to run is a command
        obtain rfl | rfl := hrequest
        · rw [follow_lookup hswitch] at hnone
          have hcard := congrArg Multiset.card hnone
          simp at hcard
        · exact route_mem_run_command table
  | finish => exact hsettles

end Pool

/-! ### Runs -/

/-- However the requests complete that are left when the event is posted, the route follows the event. -/
def Scene.LastEventWins [IOAddress Addr] (scene : Scene Addr) (switch : Switch) (pool : RequestPool)
    (event : AddressEvent Addr) : Prop :=
  ∀ actions last, Draining (requestWork Addr switch) (pool.enqueue event.posted) actions last → last.Idle →
    (scene.route ∈ last.shared ↔ event.isExport = true)

/-- No request of the other kind has yet to run when the event is posted. -/
def Scene.NoOtherLeft [IOAddress Addr] (scene : Scene Addr) (switch : Switch) (pool : RequestPool)
    (event : AddressEvent Addr) : Prop :=
  ∀ request ∈ pool.pending (requestWork Addr switch), ¬ scene.RequestFor (!event.isExport) request

section Runs

variable [IOAddress Addr] {scene : Scene Addr} {switch : Switch} {event : AddressEvent Addr}
  {isExport : Bool} {start mid pool pool' : RequestPool} {before actions : List (Action (AddressEvent Addr))}

theorem owns_of_run (hswitch : scene.AnsweredBy switch) (hidle : start.Idle)
    (hconcerns : ∀ past, .post past ∈ before → scene.Concerns past)
    (hrun : Run (Pool.step (requestWork Addr switch)) start before mid) :
    scene.Owns (mid.view (requestWork Addr switch)) := by
  have hinit : scene.Owns (start.view (requestWork Addr switch)) := by
    intro request hmem
    rw [Pool.view, pending_of_idle hidle] at hmem
    exact absurd hmem (Multiset.notMem_zero request)
  refine hrun.invariant_trace (fun past pool => (∀ event, .post event ∈ past → scene.Concerns event) →
    scene.Owns (pool.view (requestWork Addr switch))) (fun _ => hinit) ?_ hconcerns
  intro past pool action last _ hstep ih hpast
  have howns := ih fun event hmem => hpast event (List.mem_append_left _ hmem)
  refine owns_step hswitch (fun event heq => hpast event ?_) (view_step hstep) howns
  simp [heq]

theorem settles_of_draining (hswitch : scene.AnsweredBy switch)
    (hdraining : Draining (requestWork Addr switch) pool actions pool')
    (hsettles : scene.Settles isExport (pool.view (requestWork Addr switch))) :
    scene.Settles isExport (pool'.view (requestWork Addr switch)) :=
  view_invariant (scene.Settles isExport) hdraining hsettles fun _ _ _ hpost hstep =>
    settles_step hswitch hpost hstep

theorem settles_enqueue (howns : scene.Owns (mid.view (requestWork Addr switch)))
    (hevent : scene.Concerns event) (hnone : scene.NoOtherLeft switch mid event) :
    scene.Settles event.isExport ((mid.enqueue event.posted).view (requestWork Addr switch)) := by
  obtain ⟨request, hposted, hrequest⟩ := posted_of_concerns hevent
  have hview : (mid.enqueue event.posted).view (requestWork Addr switch)
      = ⟨mid.pending (requestWork Addr switch) + {request}, mid.shared⟩ := by
    rw [Pool.view, pending_enqueue, hposted]
    rfl
  rw [hview]
  refine ⟨fun other hmem => ?_, fun hempty => ?_⟩
  · obtain hold | hnew := Multiset.mem_add.mp hmem
    · obtain ⟨isExport, hother⟩ := howns other hold
      obtain rfl | rfl := Bool.eq_or_eq_not isExport event.isExport
      · exact hother
      · exact absurd hother (hnone other hold)
    · rw [Multiset.mem_singleton.mp hnew]
      exact hrequest
  · have hcard := congrArg Multiset.card hempty
    simp at hcard

theorem lastEventWins_of_noOtherLeft (hswitch : scene.AnsweredBy switch)
    (howns : scene.Owns (mid.view (requestWork Addr switch))) (hevent : scene.Concerns event)
    (hnone : scene.NoOtherLeft switch mid event) : scene.LastEventWins switch mid event := by
  intro actions last hdraining hidle
  have hsettles := settles_of_draining hswitch hdraining (settles_enqueue howns hevent hnone)
  exact hsettles.route (pending_of_idle hidle)

/-- A request of the other kind can be made the last one, and then decides the route. -/
theorem noOtherLeft_of_lastEventWins (hswitch : scene.AnsweredBy switch) (hsize : 2 ≤ mid.size)
    (hwins : scene.LastEventWins switch mid event) : scene.NoOtherLeft switch mid event := by
  intro request hmem hother
  have hleft : request ∈ (mid.enqueue event.posted).pending (requestWork Addr switch) := by
    rw [pending_enqueue]
    exact Multiset.mem_add.mpr (.inl hmem)
  have hworkers : 2 ≤ (mid.enqueue event.posted).size := hsize
  obtain ⟨actions, stalled, hfirst, hsame, hlast⟩ :=
    exists_draining_last (switchWork_staged _ switch) hworkers hleft
  have hworker : 0 < stalled.size := by omega
  obtain ⟨actions', last, hsecond, hidle⟩ := exists_draining_idle (switchWork_staged _ switch) hworker
  have hsettles : scene.Settles (!event.isExport) (stalled.view (requestWork Addr switch)) := by
    rw [Pool.view, hlast]
    refine ⟨fun other hmem => ?_, fun hempty => by simp at hempty⟩
    rw [Multiset.mem_singleton.mp hmem]
    exact hother
  have hroute := (settles_of_draining hswitch hsecond hsettles).route (pending_of_idle hidle)
  have hevent := hwins _ last (hfirst.append hsecond) hidle
  have hcontradiction : (!event.isExport) = true ↔ event.isExport = true :=
    calc
      (!event.isExport) = true ↔ scene.route ∈ last.shared := hroute.symm
      _ ↔ event.isExport = true := hevent
  cases hkind : event.isExport <;> simp [hkind] at hcontradiction

/-- **The last event for an address.** At an event of a run, the route follows the event in every order of
completion when no request of the other kind is left, and with two threads only then. -/
theorem lastEventWins_iff (hswitch : scene.AnsweredBy switch) (hidle : start.Idle)
    (hconcerns : ∀ past, .post past ∈ before → scene.Concerns past) (hevent : scene.Concerns event)
    (hrun : Run (Pool.step (requestWork Addr switch)) start before mid) :
    (scene.NoOtherLeft switch mid event → scene.LastEventWins switch mid event) ∧
      (2 ≤ start.size → scene.LastEventWins switch mid event → scene.NoOtherLeft switch mid event) := by
  have hsame : mid.size = start.size :=
    hrun.invariant (fun pool => pool.size = start.size) rfl fun _ _ _ _ hstep hsize =>
      (size_of_step hstep).trans hsize
  refine ⟨lastEventWins_of_noOtherLeft hswitch (owns_of_run hswitch hidle hconcerns hrun) hevent,
    fun hsize hwins => noOtherLeft_of_lastEventWins hswitch ?_ hwins⟩
  rw [hsame]
  exact hsize

end Runs

/-! A client that gets an address and gives it back. The two lookups run one after the other, and the
reply to the second is handled first. -/

def eventScene : Scene TextAddress := ⟨clientAddress, linkAddress, "Vlan10"⟩

def eventQuery : Pkt6 TextAddress := ⟨7, [linkAddress], [], []⟩

def selected : AddressEvent TextAddress := .lease6Select ⟨[]⟩ eventQuery addressLease

def released : AddressEvent TextAddress := .lease6Release ⟨[addressLease]⟩ eventQuery addressLease

def overtaking : List (Action (AddressEvent TextAddress)) :=
  [.post selected, .post released, .take, .take, .execute 0, .execute 1, .finish 0, .take, .execute 0,
    .finish 0, .finish 0, .take, .execute 0, .finish 0]

theorem eventScene_answeredBy : eventScene.AnsweredBy oneVlan := fun _ _ _ => rfl

theorem selected_concerns : eventScene.Concerns selected := ⟨rfl, rfl, rfl⟩

theorem released_concerns : eventScene.Concerns released := ⟨rfl, rfl, rfl⟩

theorem overtaking_keepsRoute :
    eventScene.AnsweredBy oneVlan ∧ eventScene.Concerns selected ∧ eventScene.Concerns released ∧
      released.isExport = false ∧
      ∃ last, Run (Pool.step (requestWork TextAddress oneVlan)) (RequestPool.create 4 ∅) overtaking last ∧
        last.Idle ∧ eventScene.route ∈ last.shared := by
  refine ⟨eventScene_answeredBy, selected_concerns, released_concerns, rfl, ?_⟩
  refine ⟨_, run_of_replay rfl, ⟨rfl, rfl⟩, ?_⟩
  decide

theorem lastEventWins_selectedAgain :
    eventScene.LastEventWins oneVlan ((RequestPool.create 4 ∅).enqueue selected.posted) selected := by
  have hrun : Run (Pool.step (requestWork TextAddress oneVlan)) (RequestPool.create 4 ∅) [.post selected]
      ((RequestPool.create 4 ∅).enqueue selected.posted) := RunWhere.single trivial rfl
  refine (lastEventWins_iff eventScene_answeredBy ⟨rfl, rfl⟩ ?_ selected_concerns hrun).1 ?_
  · intro past hmem
    obtain rfl : past = selected := by simpa using hmem
    exact selected_concerns
  · intro request hmem
    obtain rfl : request = eventScene.lookup true := Multiset.mem_singleton.mp hmem
    unfold Scene.RequestFor
    decide

end NxosExporter
