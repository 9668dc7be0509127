import NxosExporter.ManagementClient

/-!
# Consuming a lookup reply

The four continuations index the one row of each table they walk through. Every level is guarded by a
length test except `TABLE_prefix`, whose guard reads the size of an optional that it has just found
absent, so a reply is consumed safely exactly when it does not come down to a row without prefixes.
-/

namespace NxosExporter

open Effectful Nlohmann

/-- A continuation that ended through its error branch: nothing was sent, and the error was raised
or logged. -/
def StoppedWithError (run : ClientProg Unit) : Prop :=
  (∃ ex, run = .throw ex) ∨ ∃ message, run = logMessage message

def SentOneRequest (run : ClientProg Unit) : Prop :=
  ∃ request, run = .emit (.sendRequest request)

/-- Nothing absent was read, and either one request was sent or the error branch was taken. -/
def ConsumedSafely (run : ClientProg Unit) : Prop :=
  run.outcome ≠ .undefined ∧ (SentOneRequest run ∨ StoppedWithError run)

/-- The one vrf row of the reply has one addrf row, and that row has no prefix. -/
def LacksPrefixRow (routeLookup : RouteLookupResponse) : Prop :=
  ∃ vrfRow addrfRow, routeLookup.tableVrf = [vrfRow] ∧ vrfRow.tableAddrf = [addrfRow] ∧
    addrfRow.tablePrefix.getD [] = []

def Checked {α : Type} (outcome : Outcome Exn α) : Prop :=
  (∃ value, outcome = .ok value) ∨ ∃ what, outcome = throwBadValue what

theorem checked_ok {α : Type} (value : α) : Checked (.ok value) := .inl ⟨value, rfl⟩

theorem checked_throwBadValue {α : Type} (what : String) :
    Checked (throwBadValue what : Outcome Exn α) := .inr ⟨what, rfl⟩

section Guards

variable {routeLookup : RouteLookupResponse} {addrfRow : RowAddr}

theorem singleAddrf_eq_ok_iff :
    singleAddrf routeLookup = .ok addrfRow ↔
      ∃ vrfRow, routeLookup.tableVrf = [vrfRow] ∧ vrfRow.tableAddrf = [addrfRow] := by
  obtain ⟨tableVrf⟩ := routeLookup
  match tableVrf with
  | [] => simp [singleAddrf, throwBadValue]
  | [vrfRow] =>
      match htable : vrfRow.tableAddrf with
      | [] => simp [singleAddrf, throwBadValue, htable]
      | [row] => simp [singleAddrf, htable]
      | row :: next :: rest => simp [singleAddrf, throwBadValue, htable]
  | vrfRow :: next :: rest => simp [singleAddrf, throwBadValue]

theorem checked_singleAddrf (routeLookup : RouteLookupResponse) :
    Checked (singleAddrf routeLookup) := by
  unfold singleAddrf
  split
  · exact checked_throwBadValue _
  · rename_i hvrf
    obtain ⟨vrfRow, hvrfRow⟩ := List.length_eq_one_iff.mp (not_not.mp hvrf)
    simp only [hvrfRow, Outcome.index_cons_zero, Outcome.ok_bind]
    split
    · exact checked_throwBadValue _
    · rename_i haddrf
      obtain ⟨addrfRow, haddrfRow⟩ := List.length_eq_one_iff.mp (not_not.mp haddrf)
      simpa [haddrfRow] using checked_ok addrfRow

theorem lacksPrefixRow_iff :
    LacksPrefixRow routeLookup ↔
      ∃ addrfRow, singleAddrf routeLookup = .ok addrfRow ∧ addrfRow.tablePrefix.getD [] = [] := by
  constructor
  · rintro ⟨vrfRow, addrfRow, hvrf, haddrf, hrows⟩
    exact ⟨addrfRow, singleAddrf_eq_ok_iff.mpr ⟨vrfRow, hvrf, haddrf⟩, hrows⟩
  · rintro ⟨addrfRow, hsingle, hrows⟩
    obtain ⟨vrfRow, hvrf, haddrf⟩ := singleAddrf_eq_ok_iff.mp hsingle
    exact ⟨vrfRow, addrfRow, hvrf, haddrf, hrows⟩

/-- The prefix guard never fires: it passes or reads the size of nothing. -/
theorem prefixGuard_eq (addrfRow : RowAddr) :
    prefixGuard addrfRow = if addrfRow.tablePrefix.isSome then .ok false else .undefined := by
  cases htable : addrfRow.tablePrefix <;> simp [prefixGuard, htable]

variable {entries : RowPath → List (Option String)} {accepts : String → Bool} {noneAccepted : String}

theorem checked_acceptedEntry (hrows : addrfRow.tablePrefix.getD [] ≠ []) :
    Checked (acceptedEntry entries accepts noneAccepted addrfRow) := by
  obtain ⟨rows, htable⟩ : ∃ rows, addrfRow.tablePrefix = some rows := by
    cases htable : addrfRow.tablePrefix with
    | none => simp [htable] at hrows
    | some rows => exact ⟨rows, rfl⟩
  obtain ⟨prefixRow, others, rfl⟩ : ∃ prefixRow others, rows = prefixRow :: others :=
    List.exists_cons_of_ne_nil (by simpa [htable] using hrows)
  simp only [acceptedEntry, htable, Outcome.deref_some, Outcome.ok_bind, Outcome.index_cons_zero]
  split
  · exact checked_throwBadValue _
  · rename_i hpath
    obtain ⟨path, hpathRow⟩ := List.length_eq_one_iff.mp (not_not.mp hpath)
    simp only [hpathRow, Outcome.index_cons_zero, Outcome.ok_bind]
    split
    · rename_i entry hfound
      have haccepts := List.find?_some hfound
      obtain ⟨name, hname, -⟩ := (Option.any_eq_true accepts entry).mp haccepts
      rw [hname]
      exact checked_ok name
    · exact checked_throwBadValue _

/-- Coming down to a row without prefixes leaves the language: an absent table is asked for its size, an
empty one for its first element. -/
theorem undefined_of_noPrefix (hrows : addrfRow.tablePrefix.getD [] = []) :
    prefixGuard addrfRow = .undefined ∨ prefixGuard addrfRow = .ok false ∧
      ∀ entries accepts noneAccepted, acceptedEntry entries accepts noneAccepted addrfRow = .undefined := by
  cases htable : addrfRow.tablePrefix with
  | none => exact .inl (by simp [prefixGuard_eq, htable])
  | some rows =>
      obtain rfl : rows = [] := by simpa [htable] using hrows
      exact .inr ⟨by simp [prefixGuard_eq, htable], fun _ _ _ => by simp [acceptedEntry, htable]⟩

theorem prefixGuard_of_prefix (hrows : addrfRow.tablePrefix.getD [] ≠ []) :
    prefixGuard addrfRow = .ok false := by
  cases htable : addrfRow.tablePrefix with
  | none => simp [htable] at hrows
  | some rows => simp [prefixGuard_eq, htable]

theorem lookupIfName_of_lacksPrefixRow (hlacks : LacksPrefixRow routeLookup) :
    lookupIfName accepts noneAccepted routeLookup = .undefined := by
  obtain ⟨addrfRow, hsingle, hrows⟩ := lacksPrefixRow_iff.mp hlacks
  obtain hguard | ⟨hguard, haccepted⟩ := undefined_of_noPrefix hrows
  · simp [lookupIfName, hsingle, hguard]
  · simp [lookupIfName, hsingle, hguard, haccepted]

theorem checked_lookupIfName (hpresent : ¬ LacksPrefixRow routeLookup) :
    Checked (lookupIfName accepts noneAccepted routeLookup) := by
  obtain ⟨addrfRow, hsingle⟩ | ⟨what, hsingle⟩ := checked_singleAddrf routeLookup
  · have hrows : addrfRow.tablePrefix.getD [] ≠ [] := fun hrows =>
      hpresent (lacksPrefixRow_iff.mpr ⟨addrfRow, hsingle, hrows⟩)
    have hlookup : lookupIfName accepts noneAccepted routeLookup
        = acceptedEntry RowPath.ifname accepts noneAccepted addrfRow := by
      simp [lookupIfName, hsingle, prefixGuard_of_prefix hrows]
    rw [hlookup]
    exact checked_acceptedEntry hrows
  · exact .inr ⟨what, by rw [lookupIfName, hsingle]; rfl⟩

end Guards

/-! ### The four continuations -/

section Continuations

variable {routeLookup : RouteLookupResponse} {run : ClientProg Unit}

theorem consumedSafely_of_sent (hsent : SentOneRequest run) : ConsumedSafely run := by
  refine ⟨?_, .inl hsent⟩
  obtain ⟨request, rfl⟩ := hsent
  simp

theorem consumedSafely_of_stopped (hstopped : StoppedWithError run) : ConsumedSafely run := by
  refine ⟨?_, .inr hstopped⟩
  obtain ⟨ex, rfl⟩ | ⟨message, rfl⟩ := hstopped
  · simp
  · simp [logMessage]

theorem consumedSafely_withVlanIfName {next : String → ClientProg Unit}
    (hpresent : ¬ LacksPrefixRow routeLookup) (hnext : ∀ vlanIfName, SentOneRequest (next vlanIfName)) :
    ConsumedSafely (withVlanIfName routeLookup next) := by
  have hchecked : Checked (lookupVlanIfName routeLookup) := checked_lookupIfName hpresent
  obtain ⟨vlanIfName, hlookup⟩ | ⟨what, hlookup⟩ := hchecked
  · have hrun : withVlanIfName routeLookup next = next vlanIfName := by
      simp [withVlanIfName, hlookup]
    rw [hrun]
    exact consumedSafely_of_sent (hnext vlanIfName)
  · refine consumedSafely_of_stopped (.inr ⟨.vlanAddrMappingError (.isc .badValue what), ?_⟩)
    simp [withVlanIfName, hlookup, throwBadValue, Exn.isBadValue]

theorem withVlanIfName_of_lacksPrefixRow {next : String → ClientProg Unit}
    (hlacks : LacksPrefixRow routeLookup) :
    withVlanIfName routeLookup next = .lift .undefined := by
  have hlookup : lookupVlanIfName routeLookup = .undefined := lookupIfName_of_lacksPrefixRow hlacks
  simp [withVlanIfName, hlookup]

theorem consumedSafely_fuzzyRemoveIANA (iaNAAddrStr dhcpv6TypeStr : String)
    (hpresent : ¬ LacksPrefixRow routeLookup) :
    ConsumedSafely (runLookupHandler (.fuzzyRemoveIANA iaNAAddrStr dhcpv6TypeStr) routeLookup) := by
  have hchecked : Checked (lookupFuzzyVlanIfName routeLookup) := checked_lookupIfName hpresent
  obtain ⟨vlanIfName, hlookup⟩ | ⟨what, hlookup⟩ := hchecked
  · have hrun : runLookupHandler (.fuzzyRemoveIANA iaNAAddrStr dhcpv6TypeStr) routeLookup
        = sendRemoveIANA dhcpv6TypeStr iaNAAddrStr vlanIfName := by
      simp [runLookupHandler, hlookup]
    rw [hrun]
    exact consumedSafely_of_sent ⟨_, rfl⟩
  · refine consumedSafely_of_stopped (.inl ⟨.isc .badValue what, ?_⟩)
    simp [runLookupHandler, hlookup, throwBadValue]

theorem consumedSafely_fuzzyRemoveIAPD (srcIAPDSubnetStr dhcpv6TypeStr : String)
    (hpresent : ¬ LacksPrefixRow routeLookup) :
    ConsumedSafely
      (runLookupHandler (.fuzzyRemoveIAPD srcIAPDSubnetStr dhcpv6TypeStr) routeLookup) := by
  obtain ⟨addrfRow, hsingle⟩ | ⟨what, hsingle⟩ := checked_singleAddrf routeLookup
  · have hrows : addrfRow.tablePrefix.getD [] ≠ [] := fun hrows =>
      hpresent (lacksPrefixRow_iff.mpr ⟨addrfRow, hsingle, hrows⟩)
    have haccepted : Checked (acceptedEntry RowPath.ipnexthop (fun _ => true)
      "can't find IA_NA address" addrfRow) := checked_acceptedEntry hrows
    have hguard := prefixGuard_of_prefix hrows
    obtain ⟨iaNAAddrStr, hentry⟩ | ⟨what, hentry⟩ := haccepted
    · have hrun : runLookupHandler (.fuzzyRemoveIAPD srcIAPDSubnetStr dhcpv6TypeStr) routeLookup
          = sendRequest [(1, .removeRouteIpv6 srcIAPDSubnetStr iaNAAddrStr)]
              (.routeRemove dhcpv6TypeStr srcIAPDSubnetStr iaNAAddrStr) := by
        simp [runLookupHandler, hsingle, hguard, hentry]
      rw [hrun]
      exact consumedSafely_of_sent ⟨_, rfl⟩
    · refine consumedSafely_of_stopped (.inl ⟨.isc .badValue what, ?_⟩)
      simp [runLookupHandler, hsingle, hguard, hentry, throwBadValue]
  · refine consumedSafely_of_stopped (.inl ⟨.isc .badValue what, ?_⟩)
    simp [runLookupHandler, hsingle, throwBadValue]

theorem runLookupHandler_of_lacksPrefixRow (handler : LookupHandler)
    (hlacks : LacksPrefixRow routeLookup) :
    (runLookupHandler handler routeLookup).outcome = .undefined := by
  cases handler with
  | applyIANA _ _ _ => simp [runLookupHandler, withVlanIfName_of_lacksPrefixRow hlacks]
  | removeIANA _ _ _ => simp [runLookupHandler, withVlanIfName_of_lacksPrefixRow hlacks]
  | fuzzyRemoveIANA _ _ =>
      have hlookup : lookupFuzzyVlanIfName routeLookup = .undefined :=
        lookupIfName_of_lacksPrefixRow hlacks
      simp [runLookupHandler, hlookup]
  | fuzzyRemoveIAPD _ _ =>
      obtain ⟨addrfRow, hsingle, hrows⟩ := lacksPrefixRow_iff.mp hlacks
      obtain hguard | ⟨hguard, haccepted⟩ := undefined_of_noPrefix hrows
      · simp [runLookupHandler, hsingle, hguard]
      · simp [runLookupHandler, hsingle, hguard, haccepted]

/-- **Lookup replies.** Each of the four continuations consumes a reply safely exactly when the reply does
not come down to one row without prefixes. -/
theorem consumedSafely_iff (handler : LookupHandler) (routeLookup : RouteLookupResponse) :
    ConsumedSafely (runLookupHandler handler routeLookup) ↔ ¬ LacksPrefixRow routeLookup := by
  constructor
  · intro hsafe hlacks
    exact hsafe.1 (runLookupHandler_of_lacksPrefixRow handler hlacks)
  · intro hpresent
    cases handler with
    | applyIANA _ _ _ => exact consumedSafely_withVlanIfName hpresent fun _ => ⟨_, rfl⟩
    | removeIANA _ _ _ => exact consumedSafely_withVlanIfName hpresent fun _ => ⟨_, rfl⟩
    | fuzzyRemoveIANA _ _ => exact consumedSafely_fuzzyRemoveIANA _ _ hpresent
    | fuzzyRemoveIAPD _ _ => exact consumedSafely_fuzzyRemoveIAPD _ _ hpresent

/-! What the switch answers for a route that is gone: the address family without a prefix table. -/

def replyWithoutPrefixes : Json :=
  .object [("TABLE_vrf", .object [("ROW_vrf", .object [("vrf-name-out", .string "default"),
    ("TABLE_addrf", .object [("ROW_addrf", .object [("addrf", .string "ipv6")])])])])]

theorem not_consumedSafely_replyWithoutPrefixes :
    ∃ routeLookup, RouteLookupResponse.fromJson replyWithoutPrefixes = .ok routeLookup ∧
      ∀ handler, ¬ ConsumedSafely (runLookupHandler handler routeLookup) := by
  refine ⟨⟨[⟨"default", [⟨"ipv6", none⟩]⟩]⟩, by decide, fun handler hsafe => hsafe.1 ?_⟩
  cases handler <;> rfl

end Continuations

end NxosExporter
