import NxosExporter.Proof.LookupReply

/-!
# The rows of a path

The decoder of a `ROW_path` array moves the interface name out of a temporary and uses the temporary again
for the next hop. A row that names an interface and no next hop is left with the emptied text as its next
hop, so the rows come out right exactly when there is no such row.
-/

namespace NxosExporter

open Effectful Nlohmann

/-- The member of a path object as text, if the object has it. -/
def stringMember (path : Json) (key : String) : Option String :=
  match path.find? key with
  | some (.string text) => some text
  | _ => none

/-- An object whose interface and next hop are texts where they are present. -/
structure IsPathObject (path : Json) : Prop where
  object : path.isObject = true
  ifname : ∀ member, path.find? "ifname" = some member → ∃ text, member = .string text
  ipnexthop : ∀ member, path.find? "ipnexthop" = some member → ∃ text, member = .string text

/-- The reply comes down to one path, that of its first prefix. -/
def ComesDownTo (routeLookup : RouteLookupResponse) (path : RowPath) : Prop :=
  ∃ vrfRow addrfRow prefixRow rest, routeLookup.tableVrf = [vrfRow] ∧ vrfRow.tableAddrf = [addrfRow] ∧
    addrfRow.tablePrefix = some (prefixRow :: rest) ∧ prefixRow.tablePath = [path]

/-- What the removal of an expired prefix posts when it gets the reply. -/
def prefixRemovals (srcIAPDSubnetStr : String) (routeLookup : RouteLookupResponse) : List Command :=
  (requestsOf (runLookupHandler (.fuzzyRemoveIAPD srcIAPDSubnetStr "IA_PD") routeLookup).effects).flatMap
    Request.cliCommands

/-- The array is decoded row by row, and a removal over it names a next hop of the array. -/
structure DecodesRowByRow (value : Json) (paths : List Json) : Prop where
  rows : RowPath.fromJson value
    = .ok ⟨paths.map (stringMember · "ipnexthop"), paths.map (stringMember · "ifname")⟩
  removals : ∀ path routeLookup srcIAPDSubnetStr, RowPath.fromJson value = .ok path →
    ComesDownTo routeLookup path → ∀ command ∈ prefixRemovals srcIAPDSubnetStr routeLookup,
      ∃ iaNAAddrStr ∈ paths.filterMap (stringMember · "ipnexthop"),
        command = .removeRouteIpv6 srcIAPDSubnetStr iaNAAddrStr
  noRemoval : (∀ path ∈ paths, path.contains "ipnexthop" = false) →
    ∀ path routeLookup srcIAPDSubnetStr, RowPath.fromJson value = .ok path →
      ComesDownTo routeLookup path → prefixRemovals srcIAPDSubnetStr routeLookup = []

section Rows

variable {path : Json} {paths : List Json} {value : Json} {key : String}

theorem stringMember_of_not_contains (hcontains : path.contains key = false) :
    stringMember path key = none := by
  have hfind : path.find? key = none := by simpa [Json.contains] using hcontains
  simp [stringMember, hfind]

theorem contains_iff_stringMember
    (htext : ∀ member, path.find? key = some member → ∃ text, member = .string text) :
    path.contains key = true ↔ (stringMember path key).isSome = true := by
  cases hfind : path.find? key with
  | none => simp [Json.contains, stringMember, hfind]
  | some member =>
      obtain ⟨text, rfl⟩ := htext member hfind
      simp [Json.contains, stringMember, hfind]

theorem getStringAt_eq {text : String} (hfind : path.find? key = some (.string text)) :
    getStringAt path key = .ok text := by
  cases path with
  | object members =>
      have hlookup : members.lookup key = some (.string text) := hfind
      simp [getStringAt, Json.getAt, hlookup, Json.getString]
  | _ => simp [Json.find?] at hfind

/-- A row takes its own next hop, or the interface name that was moved out. -/
theorem decodePathRow_eq (hpath : IsPathObject path) :
    decodePathRow path = .ok (stringMember path "ifname",
      (stringMember path "ipnexthop").or ((stringMember path "ifname").map fun _ => movedFromString)) := by
  cases hifname : path.find? "ifname" with
  | none =>
      cases hipnexthop : path.find? "ipnexthop" with
      | none => simp [decodePathRow, Json.contains, stringMember, hifname, hipnexthop]
      | some member =>
          obtain ⟨nextHop, rfl⟩ := hpath.ipnexthop member hipnexthop
          have hget := getStringAt_eq hipnexthop
          simp [decodePathRow, Json.contains, stringMember, hifname, hipnexthop, hget]
  | some member =>
      obtain ⟨ifName, rfl⟩ := hpath.ifname member hifname
      have hgetName := getStringAt_eq hifname
      cases hipnexthop : path.find? "ipnexthop" with
      | none => simp [decodePathRow, Json.contains, stringMember, hifname, hipnexthop, hgetName]
      | some member =>
          obtain ⟨nextHop, rfl⟩ := hpath.ipnexthop member hipnexthop
          have hget := getStringAt_eq hipnexthop
          simp [decodePathRow, Json.contains, stringMember, hifname, hipnexthop, hgetName, hget]

theorem rowPath_fromJson_eq (hvalue : value.getAt "ROW_path" = .ok (.array paths))
    (hpaths : ∀ path ∈ paths, IsPathObject path) :
    RowPath.fromJson value = .ok
      ⟨paths.map fun path =>
          (stringMember path "ipnexthop").or ((stringMember path "ifname").map fun _ => movedFromString),
        paths.map (stringMember · "ifname")⟩ := by
  have hrows : paths.mapM decodePathRow = .ok (paths.map fun path => (stringMember path "ifname",
      (stringMember path "ipnexthop").or ((stringMember path "ifname").map fun _ => movedFromString))) := by
    rw [Outcome.mapM_eq_ok_iff, List.forall₂_map_right_iff, List.forall₂_same]
    intro path hmem
    exact decodePathRow_eq (hpaths path hmem)
  simp [RowPath.fromJson, hvalue, hrows, Function.comp_def]

end Rows

section Removals

variable {routeLookup : RouteLookupResponse} {path : RowPath} {srcIAPDSubnetStr : String} {command : Command}

theorem acceptedEntry_mem {entries : RowPath → List (Option String)} {accepts : String → Bool}
    {addrfRow : RowAddr} {prefixRow : RowPrefix} {rest : List RowPrefix} {noneAccepted name : String}
    (htable : addrfRow.tablePrefix = some (prefixRow :: rest)) (hpath : prefixRow.tablePath = [path])
    (hentry : acceptedEntry entries accepts noneAccepted addrfRow = .ok name) :
    some name ∈ entries path := by
  simp only [acceptedEntry, htable, hpath, Outcome.deref_some, Outcome.ok_bind, Outcome.index_cons_zero,
    List.length_singleton, ne_eq, not_true_eq_false, if_false] at hentry
  cases hfound : (entries path).find? fun entry => entry.any accepts with
  | none =>
      rw [hfound] at hentry
      cases hentry
  | some entry =>
      rw [hfound] at hentry
      have hmem := List.mem_of_find?_eq_some hfound
      cases entry with
      | none => cases hentry
      | some text =>
          obtain rfl := Outcome.ok.inj hentry
          exact hmem

theorem nextHop_of_mem_prefixRemovals (hdown : ComesDownTo routeLookup path)
    (hmem : command ∈ prefixRemovals srcIAPDSubnetStr routeLookup) :
    ∃ nextHop, some nextHop ∈ path.ipnexthop ∧ command = .removeRouteIpv6 srcIAPDSubnetStr nextHop := by
  obtain ⟨vrfRow, addrfRow, prefixRow, rest, hvrf, haddrf, htable, hpath⟩ := hdown
  have hsingle : singleAddrf routeLookup = .ok addrfRow := singleAddrf_eq_ok_iff.mpr ⟨vrfRow, hvrf, haddrf⟩
  have hguard : prefixGuard addrfRow = .ok false := prefixGuard_of_prefix (by simp [htable])
  cases hentry : acceptedEntry RowPath.ipnexthop (fun _ => true) "can't find IA_NA address" addrfRow with
  | ok nextHop =>
      refine ⟨nextHop, acceptedEntry_mem htable hpath hentry, ?_⟩
      simpa [prefixRemovals, runLookupHandler, hsingle, hguard, hentry, ClientEffect.request?,
        Request.cliCommands] using hmem
  | throw exn => simp [prefixRemovals, runLookupHandler, hsingle, hguard, hentry] at hmem
  | undefined => simp [prefixRemovals, runLookupHandler, hsingle, hguard, hentry] at hmem

end Removals

section RowByRow

variable {value : Json} {paths : List Json}

theorem rows_eq_iff (hpaths : ∀ path ∈ paths, IsPathObject path) :
    (paths.map fun path =>
        (stringMember path "ipnexthop").or ((stringMember path "ifname").map fun _ => movedFromString))
      = paths.map (stringMember · "ipnexthop") ↔
      ∀ path ∈ paths, path.contains "ifname" = true → path.contains "ipnexthop" = true := by
  rw [List.map_inj_left]
  refine forall₂_congr fun path hmem => ?_
  rw [contains_iff_stringMember (hpaths path hmem).ifname,
    contains_iff_stringMember (hpaths path hmem).ipnexthop]
  cases stringMember path "ipnexthop" <;> cases stringMember path "ifname" <;> simp

theorem removals_of_rows
    (hrows : RowPath.fromJson value
      = .ok ⟨paths.map (stringMember · "ipnexthop"), paths.map (stringMember · "ifname")⟩)
    {path : RowPath} {routeLookup : RouteLookupResponse} {srcIAPDSubnetStr : String} {command : Command}
    (hpath : RowPath.fromJson value = .ok path) (hdown : ComesDownTo routeLookup path)
    (hmem : command ∈ prefixRemovals srcIAPDSubnetStr routeLookup) :
    ∃ iaNAAddrStr ∈ paths.filterMap (stringMember · "ipnexthop"),
      command = .removeRouteIpv6 srcIAPDSubnetStr iaNAAddrStr := by
  obtain ⟨nextHop, hnextHop, hcommand⟩ := nextHop_of_mem_prefixRemovals hdown hmem
  rw [hrows] at hpath
  obtain rfl := Outcome.ok.inj hpath
  obtain ⟨row, hrow, hmember⟩ := List.mem_map.mp hnextHop
  exact ⟨nextHop, List.mem_filterMap.mpr ⟨row, hrow, hmember⟩, hcommand⟩

/-- **The rows of a path.** An array of path objects is decoded row by row exactly when every row that names
an interface has a next hop too. -/
theorem decodesRowByRow_iff (value : Json) (paths : List Json)
    (hvalue : value.getAt "ROW_path" = .ok (.array paths)) (hpaths : ∀ path ∈ paths, IsPathObject path) :
    DecodesRowByRow value paths ↔
      ∀ path ∈ paths, path.contains "ifname" = true → path.contains "ipnexthop" = true := by
  have hdecode := rowPath_fromJson_eq hvalue hpaths
  rw [← rows_eq_iff hpaths]
  constructor
  · intro hrowByRow
    have hrows := hrowByRow.rows
    rw [hdecode, Outcome.ok.injEq, RowPath.mk.injEq] at hrows
    exact hrows.1
  · intro hnextHops
    have hrows : RowPath.fromJson value
        = .ok ⟨paths.map (stringMember · "ipnexthop"), paths.map (stringMember · "ifname")⟩ := by
      rw [hdecode, hnextHops]
    refine ⟨hrows, fun _ _ _ hpath hdown _ hmem => removals_of_rows hrows hpath hdown hmem, ?_⟩
    intro hnone path routeLookup srcIAPDSubnetStr hpath hdown
    rw [List.eq_nil_iff_forall_not_mem]
    intro command hmem
    obtain ⟨nextHop, hnextHop, -⟩ := removals_of_rows hrows hpath hdown hmem
    obtain ⟨row, hrow, hmember⟩ := List.mem_filterMap.mp hnextHop
    rw [stringMember_of_not_contains (hnone row hrow)] at hmember
    cases hmember

end RowByRow

/-! A route over an interface and, in the second row, over a next hop. -/

def interfacePath : Json := .object [("ifname", .string "Vlan10")]

def nextHopPath : Json := .object [("ipnexthop", .string "2001:db8::5"), ("ifname", .string "Vlan10")]

def pathTable (paths : List Json) : Json := .object [("ROW_path", .array paths)]

theorem not_decodesRowByRow_interfacePath :
    RowPath.fromJson (pathTable [interfacePath, nextHopPath])
        = .ok ⟨[some "", some "2001:db8::5"], [some "Vlan10", some "Vlan10"]⟩ ∧
      ¬ DecodesRowByRow (pathTable [interfacePath, nextHopPath]) [interfacePath, nextHopPath] := by
  refine ⟨rfl, fun hrowByRow => ?_⟩
  have hrows := hrowByRow.rows
  revert hrows
  decide

theorem isPathObject_nextHopPath : IsPathObject nextHopPath :=
  ⟨rfl, fun _ hmember => ⟨_, (Option.some.inj hmember).symm⟩,
    fun _ hmember => ⟨_, (Option.some.inj hmember).symm⟩⟩

theorem decodesRowByRow_nextHopPath :
    DecodesRowByRow (pathTable [nextHopPath, nextHopPath]) [nextHopPath, nextHopPath] := by
  have hpaths : ∀ path ∈ [nextHopPath, nextHopPath], IsPathObject path := by
    simp [isPathObject_nextHopPath]
  exact (decodesRowByRow_iff _ _ rfl hpaths).mpr (by decide)

end NxosExporter
