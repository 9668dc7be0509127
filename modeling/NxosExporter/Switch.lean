import Mathlib.Algebra.Ring.Nat
import NxosExporter.Lib.UpdateTable
import NxosExporter.ExporterService

/-!
# The switch

The static routes of the switch are the pairs of texts that its commands name: `ipv6 route` adds exactly
the named pair and `no ipv6 route` removes it. A request takes effect at once, and its reply may make the
closure of the request post follow-up requests.
-/

namespace NxosExporter

open Effectful UpdateTable

abbrev RouteTable := Finset (String × String)

def Command.update? : Command → Option (Update (String × String))
  | applyRouteIpv6 srcSubnet dstAddr => some (.add (srcSubnet, dstAddr))
  | removeRouteIpv6 srcSubnet dstAddr => some (.remove (srcSubnet, dstAddr))
  | _ => none

def updatesOf (commands : List Command) : List (Update (String × String)) :=
  commands.filterMap Command.update?

def runCommands (table : RouteTable) (commands : List Command) : RouteTable :=
  applyAll table (updatesOf commands)

def Request.run (request : Request) (table : RouteTable) : RouteTable :=
  runCommands table request.cliCommands

/-- The requests that the closure of a request posts when it gets its reply. -/
def followUps (request : Request) (reply : Reply) : List Request :=
  requestsOf (handleReply request.handler reply).effects

structure Switch where
  reply : RouteTable → Request → Reply

/-- Run requests in the order in which they were posted, with the follow-ups behind them, until none is
left. -/
def Switch.settle (switch : Switch) : Nat → RouteTable → List Request → Option RouteTable
  | _, table, [] => some table
  | 0, _, _ :: _ => none
  | fuel + 1, table, request :: rest =>
      let table' := request.run table
      switch.settle fuel table' (rest ++ followUps request (switch.reply table' request))

/-- How many requests a request can come to: a lookup posts at most one, and nothing else posts any. -/
def Request.stages (request : Request) : Nat :=
  match request.handler with
  | .lookupAddress _ _ _ => 2
  | _ => 1

def stagesOf (requests : List Request) : Nat := (requests.map Request.stages).sum

/-- The routes once everything posted has been answered. -/
def Switch.settled (switch : Switch) (table : RouteTable) (requests : List Request) : RouteTable :=
  (switch.settle (stagesOf requests) table requests).getD table

/-- The commands that requests can lead to, whatever the order in which they run, when the replies are the
`allowed` ones. -/
inductive Issued (allowed : Request → Reply → Prop) : List Request → Command → Prop
  | posted {requests : List Request} {request : Request} {command : Command} (hmem : request ∈ requests)
      (hcommand : command ∈ request.cliCommands) : Issued allowed requests command
  | followUp {requests : List Request} {request : Request} {reply : Reply} {command : Command}
      (hmem : request ∈ requests) (hallowed : allowed request reply)
      (hissued : Issued allowed (followUps request reply) command) : Issued allowed requests command

/-! ### What a reply makes the client post -/

def vlanReply (vlanIfName : String) : Reply where
  response := some [⟨.int 1, .object [("body", .object [("TABLE_vrf", .object [("ROW_vrf", .object
    [("vrf-name-out", .string "default"), ("TABLE_addrf", .object [("ROW_addrf", .object
      [("addrf", .string "ipv6"), ("TABLE_prefix", .object [("ROW_prefix", .object
        [("ipprefix", .string "2001:db8::/64"), ("attached", .string "true"),
          ("TABLE_path", .object [("ROW_path", .object [("ifname", .string vlanIfName)])])])])])])])])])]⟩]
  responseError := .success
  statusCode := 200
  jsonRpcException := none

def oneVlan : Switch := ⟨fun _ _ => vlanReply "Vlan10"⟩

/-- The interface that a relay lookup reads out of a reply. -/
def lookedUpVlan (reply : Reply) : Option String :=
  match decodeRouteLookup reply with
  | .ok routeLookup =>
      match lookupVlanIfName routeLookup with
      | .ok vlanIfName => some vlanIfName
      | _ => none
  | _ => none

/-- The interface that the lookup of an address itself reads out of a reply. -/
def lookedUpFuzzyVlan (reply : Reply) : Option String :=
  match decodeRouteLookup reply with
  | .ok routeLookup =>
      match lookupFuzzyVlanIfName routeLookup with
      | .ok vlanIfName => some vlanIfName
      | _ => none
  | _ => none

section FollowUps

variable {commands : List (Int × Command)} {reply : Reply}

theorem requestsOf_withVlanIfName (routeLookup : RouteLookupResponse) (next : String → ClientProg Unit) :
    requestsOf (withVlanIfName routeLookup next).effects
      = match lookupVlanIfName routeLookup with
        | .ok vlanIfName => requestsOf (next vlanIfName).effects
        | _ => [] := by
  cases hlookup : lookupVlanIfName routeLookup with
  | ok vlanIfName => simp [withVlanIfName, hlookup]
  | throw exn => simp [withVlanIfName, hlookup, ClientEffect.request?, Prog.bind_eq, Prog.bind]
  | undefined => simp [withVlanIfName, hlookup]

theorem requestsOf_lookupAddressReply (responseHandler : LookupHandler) (reply : Reply) :
    requestsOf (lookupAddressReply responseHandler reply).effects
      = match decodeRouteLookup reply with
        | .ok routeLookup => requestsOf (runLookupHandler responseHandler routeLookup).effects
        | _ => [] := by
  cases hdecode : decodeRouteLookup reply with
  | ok routeLookup => simp [lookupAddressReply, hdecode]
  | throw exn => simp [lookupAddressReply, hdecode, ClientEffect.request?, Prog.bind_eq, Prog.bind]
  | undefined => simp [lookupAddressReply, hdecode]

variable {lookupAddrStr lookupAddrType iaNAAddrStr linkAddrStr dhcpv6TypeStr src dst : String}

/-- A continuation that begins by looking the interface up posts what follows from the interface. -/
theorem followUps_withVlanIfName {responseHandler : LookupHandler} {next : String → ClientProg Unit}
    (hhandler : ∀ routeLookup, runLookupHandler responseHandler routeLookup = withVlanIfName routeLookup next) :
    followUps ⟨commands, .lookupAddress lookupAddrStr lookupAddrType responseHandler⟩ reply
      = (lookedUpVlan reply).toList.flatMap fun vlanIfName => requestsOf (next vlanIfName).effects := by
  rw [followUps, handleReply, requestsOf_lookupAddressReply, lookedUpVlan]
  cases decodeRouteLookup reply with
  | ok routeLookup =>
      simp only [hhandler, requestsOf_withVlanIfName]
      cases lookupVlanIfName routeLookup <;> simp
  | throw exn => rfl
  | undefined => rfl

theorem followUps_applyIANA :
    followUps ⟨commands, .lookupAddress lookupAddrStr lookupAddrType
        (.applyIANA iaNAAddrStr linkAddrStr dhcpv6TypeStr)⟩ reply
      = (lookedUpVlan reply).toList.map fun vlanIfName =>
          ⟨[(1, .applyRouteIpv6 iaNAAddrStr vlanIfName)],
            .routeApply dhcpv6TypeStr iaNAAddrStr vlanIfName⟩ := by
  rw [followUps_withVlanIfName fun _ => rfl]
  cases lookedUpVlan reply <;> simp [ClientEffect.request?]

theorem followUps_removeIANA :
    followUps ⟨commands, .lookupAddress lookupAddrStr lookupAddrType
        (.removeIANA iaNAAddrStr linkAddrStr dhcpv6TypeStr)⟩ reply
      = (lookedUpVlan reply).toList.map fun vlanIfName =>
          ⟨[(1, .removeRouteIpv6 iaNAAddrStr vlanIfName), (2, .removeNDCacheEntryIpv6 vlanIfName)],
            .routeRemove dhcpv6TypeStr iaNAAddrStr vlanIfName⟩ := by
  rw [followUps_withVlanIfName fun _ => rfl]
  cases lookedUpVlan reply <;> simp [sendRemoveIANA, ClientEffect.request?]

theorem followUps_fuzzyRemoveIANA :
    followUps ⟨commands, .lookupAddress lookupAddrStr lookupAddrType
        (.fuzzyRemoveIANA iaNAAddrStr dhcpv6TypeStr)⟩ reply
      = (lookedUpFuzzyVlan reply).toList.map fun vlanIfName =>
          ⟨[(1, .removeRouteIpv6 iaNAAddrStr vlanIfName), (2, .removeNDCacheEntryIpv6 vlanIfName)],
            .routeRemove dhcpv6TypeStr iaNAAddrStr vlanIfName⟩ := by
  rw [followUps, handleReply, requestsOf_lookupAddressReply, lookedUpFuzzyVlan]
  cases decodeRouteLookup reply with
  | ok routeLookup =>
      cases hlookup : lookupFuzzyVlanIfName routeLookup <;>
        simp [runLookupHandler, hlookup, sendRemoveIANA, ClientEffect.request?]
  | throw exn => rfl
  | undefined => rfl

@[simp]
theorem followUps_routeApply : followUps ⟨commands, .routeApply dhcpv6TypeStr src dst⟩ reply = [] := by
  rw [followUps, handleReply, handleRouteApply]
  cases checkRouteReply reply <;> simp [ClientEffect.request?]

@[simp]
theorem followUps_routeRemove : followUps ⟨commands, .routeRemove dhcpv6TypeStr src dst⟩ reply = [] := by
  rw [followUps, handleReply, handleRouteRemove]
  cases checkRouteReply reply <;> simp [ClientEffect.request?]

theorem requestsOf_bind_eq_nil {α β : Type} {first : ClientProg α} {next : α → ClientProg β}
    (hfirst : requestsOf first.effects = []) (hnext : ∀ value, requestsOf (next value).effects = []) :
    requestsOf (first >>= next).effects = [] := by
  rw [Prog.bind_eq, Prog.bind]
  cases first.outcome with
  | ok value => simp [hfirst, hnext value]
  | throw exn => simpa using hfirst
  | undefined => simpa using hfirst

theorem requestsOf_tryCatch_eq_nil {α : Type} {first : ClientProg α} {handler : Exn → ClientProg α}
    (hfirst : requestsOf first.effects = []) (hhandler : ∀ ex, requestsOf (handler ex).effects = []) :
    requestsOf (first.tryCatch handler).effects = [] := by
  rw [Prog.tryCatch]
  cases first.outcome with
  | ok value => simpa using hfirst
  | throw exn => simp [hfirst, hhandler exn]
  | undefined => simpa using hfirst

@[simp]
theorem followUps_hwAddrMapping : followUps ⟨commands, .hwAddrMapping⟩ reply = [] := by
  rw [followUps, handleReply, hwAddrMappingReply]
  split
  · refine requestsOf_bind_eq_nil (requestsOf_tryCatch_eq_nil ?_ fun ex => ?_) fun decoded => ?_
    · cases reply.jsonRpcException with
      | some exception => rfl
      | none => exact requestsOf_bind_eq_nil rfl fun response => requestsOf_bind_eq_nil rfl fun _ => by simp
    · rfl
    · exact requestsOf_bind_eq_nil rfl fun mapping => rfl
  · rfl

end FollowUps

/-! ### Settling -/

section Settle

theorem stagesOf_runLookupHandler_le (responseHandler : LookupHandler) (routeLookup : RouteLookupResponse) :
    stagesOf (requestsOf (runLookupHandler responseHandler routeLookup).effects) ≤ 1 := by
  cases responseHandler with
  | applyIANA _ _ _ =>
      rw [runLookupHandler, requestsOf_withVlanIfName]
      cases lookupVlanIfName routeLookup <;> simp [stagesOf, Request.stages, ClientEffect.request?]
  | removeIANA _ _ _ =>
      rw [runLookupHandler, requestsOf_withVlanIfName]
      cases lookupVlanIfName routeLookup <;>
        simp [stagesOf, Request.stages, sendRemoveIANA, ClientEffect.request?]
  | fuzzyRemoveIANA _ _ =>
      cases hlookup : lookupFuzzyVlanIfName routeLookup <;>
        simp [runLookupHandler, hlookup, stagesOf, Request.stages, sendRemoveIANA, ClientEffect.request?]
  | fuzzyRemoveIAPD _ _ =>
      cases hsingle : singleAddrf routeLookup with
      | ok addrfRow =>
          cases hguard : prefixGuard addrfRow with
          | ok guard =>
              cases guard with
              | true => simp [runLookupHandler, hsingle, hguard, stagesOf, ClientEffect.request?]
              | false =>
                  cases hentry : acceptedEntry RowPath.ipnexthop (fun _ => true)
                      "can't find IA_NA address" addrfRow <;>
                    simp [runLookupHandler, hsingle, hguard, hentry, stagesOf, Request.stages,
                      ClientEffect.request?]
          | throw exn => simp [runLookupHandler, hsingle, hguard, stagesOf]
          | undefined => simp [runLookupHandler, hsingle, hguard, stagesOf]
      | throw exn => simp [runLookupHandler, hsingle, stagesOf]
      | undefined => simp [runLookupHandler, hsingle, stagesOf]

theorem stagesOf_followUps_lt (request : Request) (reply : Reply) :
    stagesOf (followUps request reply) < request.stages := by
  obtain ⟨commands, handler⟩ := request
  cases handler with
  | lookupAddress lookupAddrStr lookupAddrType responseHandler =>
      have hle : stagesOf (followUps
          ⟨commands, .lookupAddress lookupAddrStr lookupAddrType responseHandler⟩ reply) ≤ 1 := by
        rw [followUps, handleReply, requestsOf_lookupAddressReply]
        cases decodeRouteLookup reply with
        | ok routeLookup => exact stagesOf_runLookupHandler_le responseHandler routeLookup
        | throw exn => exact Nat.zero_le 1
        | undefined => exact Nat.zero_le 1
      exact Nat.lt_succ_of_le hle
  | routeApply _ _ _ => simp [stagesOf, Request.stages]
  | routeRemove _ _ _ => simp [stagesOf, Request.stages]
  | hwAddrMapping => simp [stagesOf, Request.stages]

theorem stagesOf_append (first second : List Request) :
    stagesOf (first ++ second) = stagesOf first + stagesOf second := by
  simp [stagesOf]

variable {switch : Switch} {table table' : RouteTable} {requests : List Request} {fuel : Nat}

theorem stagesOf_settle_lt (request : Request) (rest : List Request) (reply : Reply) :
    stagesOf (rest ++ followUps request reply) < stagesOf (request :: rest) := by
  calc
    stagesOf (rest ++ followUps request reply) = stagesOf rest + stagesOf (followUps request reply) :=
      stagesOf_append _ _
    _ < stagesOf rest + request.stages := Nat.add_lt_add_left (stagesOf_followUps_lt request reply) _
    _ = stagesOf (request :: rest) := by
      simp [stagesOf, Nat.add_comm]

theorem settle_isSome (hfuel : stagesOf requests ≤ fuel) :
    ∃ table', switch.settle fuel table requests = some table' := by
  induction fuel generalizing table requests with
  | zero =>
      cases requests with
      | nil => exact ⟨table, by rw [Switch.settle]⟩
      | cons request rest =>
          have hless := stagesOf_settle_lt request rest ⟨none, .success, 200, none⟩
          omega
  | succ fuel ih =>
      cases requests with
      | nil => exact ⟨table, by rw [Switch.settle]⟩
      | cons request rest =>
          rw [Switch.settle]
          refine ih ?_
          have hless := stagesOf_settle_lt request rest (switch.reply (request.run table) request)
          omega

theorem settle_settled (switch : Switch) (table : RouteTable) (requests : List Request) :
    switch.settle (stagesOf requests) table requests = some (switch.settled table requests) := by
  obtain ⟨table', hsettle⟩ := settle_isSome (Nat.le_refl (stagesOf requests))
  rw [Switch.settled, hsettle, Option.getD_some]

end Settle

/-! ### Which routes are touched -/

section Frame

variable {switch : Switch} {table table' : RouteTable} {requests : List Request} {command : Command}
  {commands : List Command} {entry : String × String}

def Switch.Answers (switch : Switch) (request : Request) (reply : Reply) : Prop :=
  ∃ table, reply = switch.reply table request

def Command.Names (command : Command) (entry : String × String) : Prop :=
  command = .applyRouteIpv6 entry.1 entry.2 ∨ command = .removeRouteIpv6 entry.1 entry.2

theorem Command.names_of_update? {update : Update (String × String)}
    (hupdate : command.update? = some update) : command.Names update.entry := by
  cases command <;> simp [Command.update?] at hupdate
  · subst hupdate
    exact .inl rfl
  · subst hupdate
    exact .inr rfl

theorem mem_runCommands_of_not_named (hnames : ∀ command ∈ commands, ¬ command.Names entry) :
    entry ∈ runCommands table commands ↔ entry ∈ table := by
  refine mem_applyAll_of_forall_ne (fun update hupdate => ?_) table
  obtain ⟨command, hcommand, hsome⟩ := List.mem_filterMap.mp hupdate
  rintro rfl
  exact hnames command hcommand (Command.names_of_update? hsome)

theorem mem_runCommands_of_not_removed (hkept : .removeRouteIpv6 entry.1 entry.2 ∉ commands)
    (hmem : entry ∈ table) : entry ∈ runCommands table commands := by
  refine mem_applyAll_of_not_removed (fun update hupdate => ?_) hmem
  obtain ⟨command, hcommand, hsome⟩ := List.mem_filterMap.mp hupdate
  rintro rfl
  cases command <;> simp [Command.update?] at hsome
  subst hsome
  exact hkept hcommand

theorem issued_append {allowed : Request → Reply → Prop} {first second : List Request}
    (hissued : Issued allowed (first ++ second) command) :
    Issued allowed first command ∨ Issued allowed second command := by
  cases hissued with
  | posted hmem hcommand =>
      exact (List.mem_append.mp hmem).imp (fun hfirst => .posted hfirst hcommand)
        fun hsecond => .posted hsecond hcommand
  | followUp hmem hallowed hissued =>
      exact (List.mem_append.mp hmem).imp (fun hfirst => .followUp hfirst hallowed hissued)
        fun hsecond => .followUp hsecond hallowed hissued

theorem Issued.mono_requests {allowed : Request → Reply → Prop} {first second : List Request}
    (hissued : Issued allowed first command) (hsub : ∀ request ∈ first, request ∈ second) :
    Issued allowed second command := by
  cases hissued with
  | posted hmem hcommand => exact .posted (hsub _ hmem) hcommand
  | followUp hmem hallowed hissued => exact .followUp (hsub _ hmem) hallowed hissued

/-- **Frame.** Settling leaves the routes alone that nothing issued names. -/
theorem mem_settle_of_not_named {fuel : Nat}
    (hnames : ∀ command, Issued switch.Answers requests command → ¬ command.Names entry)
    (hsettle : switch.settle fuel table requests = some table') : entry ∈ table' ↔ entry ∈ table := by
  induction fuel generalizing table requests with
  | zero =>
      cases requests with
      | nil =>
          obtain rfl : table = table' := by simpa [Switch.settle] using hsettle
          rfl
      | cons request rest => simp [Switch.settle] at hsettle
  | succ fuel ih =>
      cases requests with
      | nil =>
          obtain rfl : table = table' := by simpa [Switch.settle] using hsettle
          rfl
      | cons request rest =>
          rw [Switch.settle] at hsettle
          have hrun : entry ∈ request.run table ↔ entry ∈ table :=
            mem_runCommands_of_not_named fun command hcommand =>
              hnames command (.posted (by simp) hcommand)
          rw [← hrun]
          refine ih (fun command hissued => hnames command ?_) hsettle
          obtain hrest | hfollow := issued_append hissued
          · exact hrest.mono_requests fun other hother => by simp [hother]
          · exact .followUp (by simp) ⟨_, rfl⟩ hfollow

theorem mem_settled_of_not_named
    (hnames : ∀ command, Issued switch.Answers requests command → ¬ command.Names entry) :
    entry ∈ switch.settled table requests ↔ entry ∈ table :=
  mem_settle_of_not_named hnames (settle_settled switch table requests)

theorem runCommands_append (table : RouteTable) (first second : List Command) :
    runCommands table (first ++ second) = runCommands (runCommands table first) second := by
  rw [runCommands, updatesOf, List.filterMap_append, applyAll_append]
  rfl

theorem settle_of_no_followUps {fuel : Nat}
    (hnone : ∀ request ∈ requests, ∀ reply, followUps request reply = [])
    (hsettle : switch.settle fuel table requests = some table') :
    table' = runCommands table (requests.flatMap Request.cliCommands) := by
  induction requests generalizing fuel table with
  | nil =>
      obtain rfl : table = table' := by cases fuel <;> simpa [Switch.settle] using hsettle
      rfl
  | cons request rest ih =>
      cases fuel with
      | zero => simp [Switch.settle] at hsettle
      | succ fuel =>
          rw [Switch.settle] at hsettle
          simp only [hnone request (by simp), List.append_nil] at hsettle
          rw [ih (fun other hother => hnone other (by simp [hother])) hsettle, List.flatMap_cons,
            runCommands_append]
          rfl

theorem settled_of_no_followUps (hnone : ∀ request ∈ requests, ∀ reply, followUps request reply = []) :
    switch.settled table requests = runCommands table (requests.flatMap Request.cliCommands) :=
  settle_of_no_followUps hnone (settle_settled switch table requests)

/-- A lookup that leaves the routes alone and that the switch answers so that one command follows. -/
structure Switch.LeadsTo (switch : Switch) (lookup command : Request) : Prop where
  run : ∀ table, lookup.run table = table
  next : ∀ table, followUps lookup (switch.reply table lookup) = [command]
  last : ∀ reply, followUps command reply = []

theorem settle_lookups {pairs : List (Request × Request)} {posted : List Request} {fuel : Nat}
    (hpairs : ∀ pair ∈ pairs, switch.LeadsTo pair.1 pair.2)
    (hlast : ∀ request ∈ posted, ∀ reply, followUps request reply = [])
    (hsettle : switch.settle fuel table (pairs.map Prod.fst ++ posted) = some table') :
    table' = runCommands table ((posted ++ pairs.map Prod.snd).flatMap Request.cliCommands) := by
  induction pairs generalizing posted fuel with
  | nil =>
      rw [List.map_nil, List.append_nil]
      exact settle_of_no_followUps hlast hsettle
  | cons pair rest ih =>
      obtain ⟨hpair, hrest⟩ := List.forall_mem_cons.mp hpairs
      cases fuel with
      | zero => simp [Switch.settle] at hsettle
      | succ fuel =>
          rw [List.map_cons, List.cons_append, Switch.settle] at hsettle
          simp only [hpair.run, hpair.next, List.append_assoc] at hsettle
          rw [List.map_cons, List.append_cons]
          refine ih hrest (List.forall_mem_append.mpr ⟨hlast, ?_⟩) hsettle
          exact List.forall_mem_singleton.mpr hpair.last

theorem settled_of_lookups {pairs : List (Request × Request)}
    (hpairs : ∀ pair ∈ pairs, switch.LeadsTo pair.1 pair.2) :
    switch.settled table (pairs.map Prod.fst)
      = runCommands table ((pairs.map Prod.snd).flatMap Request.cliCommands) := by
  have hsettle : switch.settle (stagesOf (pairs.map Prod.fst)) table (pairs.map Prod.fst ++ [])
      = some (switch.settled table (pairs.map Prod.fst)) := by
    rw [List.append_nil, settle_settled]
  exact settle_lookups hpairs (fun _ hmem => absurd hmem List.not_mem_nil) hsettle

theorem Issued.exists_request {allowed : Request → Reply → Prop}
    (hissued : Issued allowed requests command) : ∃ request ∈ requests, Issued allowed [request] command := by
  cases hissued with
  | @posted _ request _ hmem hcommand =>
      exact ⟨request, hmem, .posted (List.mem_singleton_self request) hcommand⟩
  | @followUp _ request _ _ hmem hallowed hissued =>
      exact ⟨request, hmem, .followUp (List.mem_singleton_self request) hallowed hissued⟩

theorem not_issued_nil {allowed : Request → Reply → Prop} : ¬ Issued allowed [] command := by
  intro hissued
  cases hissued <;> simp_all

/-- What a relay lookup can lead to: its own commands, and those of the request for the interface it
finds. -/
theorem issued_lookup {allowed : Request → Reply → Prop} {request : Request} {next : String → Request}
    (hfollow : ∀ reply, followUps request reply = (lookedUpVlan reply).toList.map next)
    (hlast : ∀ vlanIfName reply, followUps (next vlanIfName) reply = [])
    (hissued : Issued allowed [request] command) :
    command ∈ request.cliCommands ∨ ∃ reply vlanIfName, allowed request reply ∧
      lookedUpVlan reply = some vlanIfName ∧ command ∈ (next vlanIfName).cliCommands := by
  cases hissued with
  | posted hmem hcommand =>
      obtain rfl := List.mem_singleton.mp hmem
      exact .inl hcommand
  | @followUp _ _ reply _ hmem hallowed hissued =>
      obtain rfl := List.mem_singleton.mp hmem
      rw [hfollow] at hissued
      cases hvlan : lookedUpVlan reply with
      | none =>
          rw [hvlan] at hissued
          exact absurd hissued not_issued_nil
      | some vlanIfName =>
          rw [hvlan] at hissued
          refine .inr ⟨reply, vlanIfName, hallowed, hvlan, ?_⟩
          cases hissued with
          | posted hmem hcommand =>
              obtain rfl := List.mem_singleton.mp hmem
              exact hcommand
          | followUp hmem _ hissued =>
              obtain rfl := List.mem_singleton.mp hmem
              rw [hlast] at hissued
              exact absurd hissued not_issued_nil

end Frame

/-! ### The requests for an address -/

section Address

variable {Addr : Type} [IOAddress Addr]

def exportLookup (srcVlanAddr iaNAAddr : Addr) : Request :=
  ⟨[(1, .mappingVlanAddrToVlanId (hostSubnet srcVlanAddr))],
    .lookupAddress (hostSubnet srcVlanAddr) "RELAY_ADDRESS"
      (.applyIANA (hostSubnet iaNAAddr) (hostSubnet srcVlanAddr) "IA_NA")⟩

def removalLookup (srcVlanAddr iaNAAddr : Addr) : Request :=
  ⟨[(1, .mappingVlanAddrToVlanId (hostSubnet srcVlanAddr))],
    .lookupAddress (hostSubnet srcVlanAddr) "RELAY_ADDRESS"
      (.removeIANA (hostSubnet iaNAAddr) (hostSubnet srcVlanAddr) "IA_NA")⟩

/-- The lookup of an address whose interface is not known. -/
def addressLookup (iaNAAddr : Addr) : Request :=
  ⟨[(1, .mappingVlanAddrToVlanId (hostSubnet iaNAAddr))],
    .lookupAddress (hostSubnet iaNAAddr) "IA_NA" (.fuzzyRemoveIANA (hostSubnet iaNAAddr) "IA_NA")⟩

def exportCommand (iaNAAddr : Addr) (vlanIfName : String) : Request :=
  ⟨[(1, .applyRouteIpv6 (hostSubnet iaNAAddr) vlanIfName)],
    .routeApply "IA_NA" (hostSubnet iaNAAddr) vlanIfName⟩

def removalCommand (iaNAAddr : Addr) (vlanIfName : String) : Request :=
  ⟨[(1, .removeRouteIpv6 (hostSubnet iaNAAddr) vlanIfName), (2, .removeNDCacheEntryIpv6 vlanIfName)],
    .routeRemove "IA_NA" (hostSubnet iaNAAddr) vlanIfName⟩

variable {srcVlanAddr iaNAAddr : Addr} {leaseMgr : LeaseMgr Addr} {tid iaid : UInt32} {duid : Option DUID}
  {rest : List (ServiceEffect Addr)}

theorem hostSubnet_injective : Function.Injective (hostSubnet : Addr → String) := fun _ _ heq =>
  IOAddress.toText_injective ((String.append_left_inj "/128").mp heq)

theorem followUps_exportLookup (reply : Reply) :
    followUps (exportLookup srcVlanAddr iaNAAddr) reply
      = (lookedUpVlan reply).toList.map (exportCommand iaNAAddr) :=
  followUps_applyIANA

theorem followUps_removalLookup (reply : Reply) :
    followUps (removalLookup srcVlanAddr iaNAAddr) reply
      = (lookedUpVlan reply).toList.map (removalCommand iaNAAddr) :=
  followUps_removeIANA

theorem followUps_addressLookup (reply : Reply) :
    followUps (addressLookup iaNAAddr) reply
      = (lookedUpFuzzyVlan reply).toList.map (removalCommand iaNAAddr) :=
  followUps_fuzzyRemoveIANA

@[simp]
theorem followUps_exportCommand (vlanIfName : String) (reply : Reply) :
    followUps (exportCommand iaNAAddr vlanIfName) reply = [] :=
  followUps_routeApply

@[simp]
theorem followUps_removalCommand (vlanIfName : String) (reply : Reply) :
    followUps (removalCommand iaNAAddr vlanIfName) reply = [] :=
  followUps_routeRemove

theorem leadsTo_exportLookup {switch : Switch} {vlanIfName : String}
    (hvlan : ∀ table, lookedUpVlan (switch.reply table (exportLookup srcVlanAddr iaNAAddr)) = some vlanIfName) :
    switch.LeadsTo (exportLookup srcVlanAddr iaNAAddr) (exportCommand iaNAAddr vlanIfName) where
  run _ := rfl
  next table := by
    rw [followUps_exportLookup, hvlan]
    rfl
  last := followUps_exportCommand vlanIfName

theorem leadsTo_removalLookup {switch : Switch} {vlanIfName : String}
    (hvlan : ∀ table,
      lookedUpVlan (switch.reply table (removalLookup srcVlanAddr iaNAAddr)) = some vlanIfName) :
    switch.LeadsTo (removalLookup srcVlanAddr iaNAAddr) (removalCommand iaNAAddr vlanIfName) where
  run _ := rfl
  next table := by
    rw [followUps_removalLookup, hvlan]
    rfl
  last := followUps_removalCommand vlanIfName

@[simp]
theorem postedBy_sendAddress :
    postedBy leaseMgr (.sendRoutesToSwitch ⟨tid, iaid, duid, .iaNAInfo srcVlanAddr iaNAAddr⟩ :: rest)
      = exportLookup srcVlanAddr iaNAAddr :: postedBy leaseMgr rest := by
  rw [postedBy_cons_of_ok (by simp [clientCall])]
  simp [clientCall, exportLookup, ClientEffect.request?]

@[simp]
theorem postedBy_removeAddress :
    postedBy leaseMgr (.removeRoutesFromSwitch ⟨tid, iaid, duid, .iaNAInfo srcVlanAddr iaNAAddr⟩ :: rest)
      = removalLookup srcVlanAddr iaNAAddr :: postedBy leaseMgr rest := by
  rw [postedBy_cons_of_ok (by simp [clientCall, removeRoutesFromSwitch])]
  simp [clientCall, removeRoutesFromSwitch, removalLookup, ClientEffect.request?,
    RouteExport.toDHCPv6IATypeString]

@[simp]
theorem postedBy_removeFuzzy :
    postedBy leaseMgr (.removeRoutesFromSwitch ⟨tid, iaid, duid, .iaNAInfoFuzzyRemove iaNAAddr⟩ :: rest)
      = addressLookup iaNAAddr :: postedBy leaseMgr rest := by
  rw [postedBy_cons_of_ok (by simp [clientCall, removeRoutesFromSwitch])]
  simp [clientCall, removeRoutesFromSwitch, addressLookup, ClientEffect.request?,
    RouteExport.toDHCPv6IATypeString]

@[simp]
theorem postedBy_sendFast {srcVlanIfName : String} :
    postedBy leaseMgr (.sendRoutesToSwitch ⟨tid, iaid, duid, .iaNAFast srcVlanIfName iaNAAddr⟩ :: rest)
      = exportCommand iaNAAddr srcVlanIfName :: postedBy leaseMgr rest := by
  rw [postedBy_cons_of_ok (by simp [clientCall])]
  simp [clientCall, exportCommand, ClientEffect.request?]

def exportPrefix (dstIaNAAddr iaPDPrefix : Addr) (iaPDLength : UInt8) : Request :=
  ⟨[(1, .applyRouteIpv6 (prefixSubnet iaPDPrefix iaPDLength) (IOAddress.toText dstIaNAAddr))],
    .routeApply "IA_PD" (prefixSubnet iaPDPrefix iaPDLength) (IOAddress.toText dstIaNAAddr)⟩

@[simp]
theorem postedBy_sendPrefix {dstIaNAAddr iaPDPrefix : Addr} {iaPDLength : UInt8} :
    postedBy leaseMgr
        (.sendRoutesToSwitch ⟨tid, iaid, duid, .iaPDInfo dstIaNAAddr iaPDPrefix iaPDLength⟩ :: rest)
      = exportPrefix dstIaNAAddr iaPDPrefix iaPDLength :: postedBy leaseMgr rest := by
  rw [postedBy_cons_of_ok (by simp [clientCall])]
  simp [clientCall, exportPrefix, ClientEffect.request?]

def removalPrefix (dstIaNAAddr iaPDPrefix : Addr) (iaPDLength : UInt8) : Request :=
  ⟨[(1, .removeRouteIpv6 (prefixSubnet iaPDPrefix iaPDLength) (IOAddress.toText dstIaNAAddr))],
    .routeRemove "IA_PD" (prefixSubnet iaPDPrefix iaPDLength) (IOAddress.toText dstIaNAAddr)⟩

@[simp]
theorem postedBy_removePrefix {dstIaNAAddr iaPDPrefix : Addr} {iaPDLength : UInt8} :
    postedBy leaseMgr
        (.removeRoutesFromSwitch ⟨tid, iaid, duid, .iaPDInfo dstIaNAAddr iaPDPrefix iaPDLength⟩ :: rest)
      = removalPrefix dstIaNAAddr iaPDPrefix iaPDLength :: postedBy leaseMgr rest := by
  rw [postedBy_cons_of_ok (by simp [clientCall, removeRoutesFromSwitch])]
  simp [clientCall, removeRoutesFromSwitch, removalPrefix, ClientEffect.request?,
    RouteExport.toDHCPv6IATypeString]

@[simp]
theorem followUps_exportPrefix {dstIaNAAddr iaPDPrefix : Addr} {iaPDLength : UInt8} (reply : Reply) :
    followUps (exportPrefix dstIaNAAddr iaPDPrefix iaPDLength) reply = [] :=
  followUps_routeApply

end Address

end NxosExporter
