import NxosExporter.NxosEncoders

/-!
# Route replies there and back

No path comes back as it was written: the names that it has are written as null, and several rows are wrapped
once too often. Several address families go under a key that nothing reads, and several rows of the other tables
are an array where the decoder of one row is called. What is left are the replies that find no prefix.
-/

namespace NxosExporter

open Effectful Nlohmann

structure RowPath.Full (row : RowPath) : Prop where
  length : row.ifname.length = row.ipnexthop.length
  notEmpty : row.ifname.length ≠ 0

structure RowPrefix.Full (row : RowPrefix) : Prop where
  notEmpty : row.tablePath ≠ []
  paths : ∀ path ∈ row.tablePath, path.Full

def RowAddr.Full (row : RowAddr) : Prop :=
  ∀ rows, row.tablePrefix = some rows → rows ≠ [] ∧ ∀ prefixRow ∈ rows, prefixRow.Full

structure RowVrf.Full (row : RowVrf) : Prop where
  notEmpty : row.tableAddrf ≠ []
  addrfs : ∀ addrfRow ∈ row.tableAddrf, addrfRow.Full

/-- A reply with rows in all its tables; only the prefixes may be missing. -/
structure RouteLookupResponse.Full (response : RouteLookupResponse) : Prop where
  notEmpty : response.tableVrf ≠ []
  vrfs : ∀ vrfRow ∈ response.tableVrf, vrfRow.Full

/-! ### Paths and prefixes -/

section Paths

variable {path : RowPath} {prefixRow : RowPrefix}

/-- A value is written as null, and nothing is written without one. -/
theorem optionalToJson_eq_ok {α : Type} {encode : α → Outcome JsonError Json} {opt : Option α} {value : Json}
    (hvalue : optionalToJson encode opt = .ok value) : opt.isSome = true ∧ value = .null := by
  cases opt with
  | none => cases hvalue
  | some member =>
      obtain rfl := Outcome.ok.inj hvalue
      exact ⟨rfl, rfl⟩

/-- The one row of a path has both values, and they are written as nulls. -/
theorem RowPath.innerToJson_one {ipnexthop ifname : Option String} {inner : Json}
    (hinner : RowPath.innerToJson ⟨[ipnexthop], [ifname]⟩ = .ok inner) :
    ipnexthop.isSome = true ∧ inner = .object [("ipnexthop", .null), ("ifname", .null)] := by
  obtain ⟨nextHopJson, hnextHop, hrest⟩ := Outcome.bind_eq_ok_iff.mp hinner
  obtain ⟨ifnameJson, hifname, hobject⟩ := Outcome.bind_eq_ok_iff.mp hrest
  obtain ⟨hsome, rfl⟩ := optionalToJson_eq_ok hnextHop
  obtain ⟨-, rfl⟩ := optionalToJson_eq_ok hifname
  exact ⟨hsome, (Outcome.ok.inj hobject).symm⟩

theorem RowPath.innerToJson_many (hfull : path.Full) (hmany : path.ifname.length ≠ 1) {inner : Json}
    (hinner : path.innerToJson = .ok inner) : ∃ rows, inner = .array [.array rows] := by
  have hkept : ¬ (path.ifname.length ≠ path.ipnexthop.length ∨ path.ifname.length = 0) := by
    rintro (hlength | hempty)
    · exact hlength hfull.length
    · exact hfull.notEmpty hempty
  rw [RowPath.innerToJson, if_neg hkept, if_neg hmany] at hinner
  obtain ⟨rows, hmapM, hrows⟩ := Outcome.bind_eq_ok_iff.mp hinner
  have hmember : (Json.array rows).member? = none := by
    refine member?_of_mapM (fun row value hvalue => ?_) hmapM
    obtain ⟨members, -, hobject⟩ := Outcome.bind_eq_ok_iff.mp hvalue
    obtain rfl := Outcome.ok.inj hobject
    exact .inl rfl
  rw [Json.braceInit_of_not_member hmember] at hrows
  exact ⟨rows, (Outcome.ok.inj hrows).symm⟩

theorem RowPath.not_roundTrips (hfull : path.Full) : ¬ RoundTrips RowPath.toJson RowPath.fromJson path := by
  intro htrip
  obtain ⟨value, hvalue, hback⟩ := roundTrips_iff_exists.mp htrip
  obtain ⟨inner, hinner, hobject⟩ := Outcome.bind_eq_ok_iff.mp hvalue
  obtain rfl := Outcome.ok.inj hobject
  by_cases hone : path.ifname.length = 1
  · obtain ⟨ipnexthops, ifnames⟩ := path
    obtain ⟨ifname, rfl⟩ := List.length_eq_one_iff.mp hone
    obtain ⟨ipnexthop, rfl⟩ := List.length_eq_one_iff.mp (hfull.length.symm.trans hone)
    obtain ⟨hsome, rfl⟩ := RowPath.innerToJson_one hinner
    have hnone : RowPath.mk [none] [none] = ⟨[ipnexthop], [ifname]⟩ := Outcome.ok.inj hback
    cases hnone
    cases hsome
  · obtain ⟨rows, rfl⟩ := RowPath.innerToJson_many hfull hone hinner
    have hnone : RowPath.mk [none] [none] = path := Outcome.ok.inj hback
    rw [← hnone] at hone
    exact hone rfl

theorem RowPrefix.not_roundTrips (hfull : prefixRow.Full) :
    ¬ RoundTrips RowPrefix.toJson RowPrefix.fromJson prefixRow := by
  intro htrip
  obtain ⟨value, hvalue, hback⟩ := roundTrips_iff_exists.mp htrip
  obtain ⟨table, htable, hassign⟩ := Outcome.bind_eq_ok_iff.mp hvalue
  obtain rfl := Outcome.ok.inj hassign
  have htable' : (fun tablePath => RowPrefix.mk prefixRow.ipprefix _ tablePath) <$>
      decodeTable RowPath.fromJson table = .ok prefixRow := hback
  obtain ⟨tablePath, hdecode, hsame⟩ := Outcome.map_eq_ok_iff.mp htable'
  have htables : RoundTrips (tableToJson RowPath.toJson) (decodeTable RowPath.fromJson)
      prefixRow.tablePath := by
    refine roundTrips_iff_exists.mpr ⟨table, htable, ?_⟩
    rw [hdecode, ← hsame]
  obtain ⟨path, hmem⟩ := List.exists_mem_of_ne_nil _ hfull.notEmpty
  have hpath := (roundTrips_table_iff (fun _ _ => RowPath.toJson_isObject) hfull.notEmpty).mp htables path hmem
  exact RowPath.not_roundTrips (hfull.paths path hmem) hpath

end Paths

/-! ### Address families -/

section Addrf

variable {addrfRow : RowAddr} {vrfRow : RowVrf} {response : RouteLookupResponse}

theorem RowAddr.roundTrips_iff (hfull : addrfRow.Full) :
    RoundTrips RowAddr.toJson RowAddr.fromJson addrfRow ↔ addrfRow.tablePrefix = none := by
  obtain ⟨addrf, tablePrefix⟩ := addrfRow
  match tablePrefix with
  | none => exact iff_of_true rfl rfl
  | some [] => exact absurd rfl (hfull [] rfl).1
  | some [prefixRow] =>
      refine iff_of_false (fun htrip => ?_) (by simp)
      rw [RoundTrips, RowAddr.toJson_one, RowAddr.fromJson_eq,
        decodeNamedRow_encodeNamedRow (fun _ _ hvalue => .inl (RowPrefix.toJson_isObject hvalue))
          (List.cons_ne_nil prefixRow []) "ROW_addrf" (by decide)] at htrip
      obtain ⟨row, hrow, hsame⟩ := Outcome.map_eq_ok_iff.mp htrip
      obtain rfl : row = prefixRow := by simpa using hsame
      exact RowPrefix.not_roundTrips ((hfull _ rfl).2 row (by simp)) hrow
  | some (first :: second :: rest) =>
      refine iff_of_false (fun htrip => ?_) (by simp)
      cases htrip

/-- One address family comes back as it does by itself, and several are not found. -/
theorem RowVrf.roundTrips_iff (hfull : vrfRow.Full) : RoundTrips RowVrf.toJson RowVrf.fromJson vrfRow ↔
    ∃ addrfRow, vrfRow.tableAddrf = [addrfRow] ∧ addrfRow.tablePrefix = none := by
  obtain ⟨vrfNameOut, tableAddrf⟩ := vrfRow
  match tableAddrf with
  | [] => exact absurd rfl hfull.notEmpty
  | [addrfRow] =>
      have haddrf := RowAddr.roundTrips_iff (hfull.addrfs addrfRow (by simp))
      rw [RoundTrips, RowVrf.toJson_one, RowVrf.fromJson_eq,
        decodeNamedRow_encodeNamedRow (fun _ _ hvalue => .inl (RowAddr.toJson_isObject hvalue))
          (List.cons_ne_nil addrfRow []) "ROW_vrf" (by decide),
        Outcome.map_eq_ok_iff]
      simp only [tableToJson, Option.getD_some, RowVrf.mk.injEq, true_and, List.cons.injEq, and_true,
        exists_eq_right, exists_eq_left']
      exact haddrf
  | first :: second :: rest =>
      refine iff_of_false (fun htrip => ?_) (by simp)
      obtain ⟨value, hvalue, hback⟩ := roundTrips_iff_exists.mp htrip
      obtain ⟨inner, hinner, hobject⟩ := Outcome.bind_eq_ok_iff.mp hvalue
      obtain ⟨table, -, hassign⟩ := Outcome.bind_eq_ok_iff.mp hinner
      obtain rfl := Outcome.ok.inj hassign
      obtain rfl := Outcome.ok.inj hobject
      cases hback

theorem RouteLookupResponse.roundTrips_iff_vrf {tableVrf : List RowVrf} (hrows : tableVrf ≠ []) :
    RoundTrips RouteLookupResponse.toJson RouteLookupResponse.fromJson ⟨tableVrf⟩ ↔
      ∃ vrfRow, tableVrf = [vrfRow] ∧ RoundTrips RowVrf.toJson RowVrf.fromJson vrfRow := by
  have hback : (RouteLookupResponse.toJson ⟨tableVrf⟩ >>= RouteLookupResponse.fromJson)
      = (fun vrfRow => ⟨[vrfRow]⟩) <$> (tableToJson RowVrf.toJson tableVrf >>= RowVrf.fromJson) := by
    rw [RouteLookupResponse.toJson, assignTable_of_ne_nil hrows]
    cases hcode : tableToJson RowVrf.toJson tableVrf with
    | ok table =>
        have hcopy : table.deduced = table :=
          deduced_of_tableToJson (fun _ _ hvalue => .inl (RowVrf.toJson_isObject hvalue)) hcode
        cases hvrf : RowVrf.fromJson table <;>
          simp [Json.assignAt, RouteLookupResponse.fromJson, decodeCopiedTable_eq, hcopy, hvrf]
    | throw error => rfl
    | undefined => rfl
  rw [RoundTrips, hback]
  exact map_tableToJson_bind_eq_ok_iff (fun _ => ⟨.typeError 304, rfl⟩) hrows fun vrfRow => by simp [eq_comm]

end Addrf

/-- **Route replies.** Of the replies with rows in all their tables, exactly those come back that have one vrf
with one address family and no prefixes. -/
theorem routeLookup_roundTrips_iff {response : RouteLookupResponse} (hfull : response.Full) :
    RoundTrips RouteLookupResponse.toJson RouteLookupResponse.fromJson response ↔
      ∃ vrfRow addrfRow, response.tableVrf = [vrfRow] ∧ vrfRow.tableAddrf = [addrfRow] ∧
        addrfRow.tablePrefix = none := by
  obtain ⟨tableVrf⟩ := response
  rw [RouteLookupResponse.roundTrips_iff_vrf hfull.notEmpty]
  constructor
  · rintro ⟨vrfRow, rfl, hvrf⟩
    obtain ⟨addrfRow, haddrf, hnone⟩ := (RowVrf.roundTrips_iff (hfull.vrfs vrfRow (by simp))).mp hvrf
    exact ⟨vrfRow, addrfRow, rfl, haddrf, hnone⟩
  · rintro ⟨vrfRow, addrfRow, rfl, haddrf, hnone⟩
    exact ⟨vrfRow, rfl, (RowVrf.roundTrips_iff (hfull.vrfs vrfRow (by simp))).mpr ⟨addrfRow, haddrf, hnone⟩⟩

/-- A reply with one address family and the prefixes `tablePrefix`. -/
def oneFamilyReply (tablePrefix : Option (List RowPrefix)) : RouteLookupResponse :=
  ⟨[⟨"default", [⟨"ipv6", tablePrefix⟩]⟩]⟩

def vlanPrefix : RowPrefix := ⟨"2001:db8::/64", true, [⟨[some "2001:db8::1"], [some "Vlan10"]⟩]⟩

theorem oneFamilyReply_full {tablePrefix : Option (List RowPrefix)}
    (hrows : ∀ rows, tablePrefix = some rows → rows ≠ [] ∧ ∀ prefixRow ∈ rows, prefixRow.Full) :
    (oneFamilyReply tablePrefix).Full where
  notEmpty := List.cons_ne_nil _ _
  vrfs := List.forall_mem_singleton.mpr ⟨List.cons_ne_nil _ _, List.forall_mem_singleton.mpr hrows⟩

theorem routeLookup_roundTrips_iff_noPrefix :
    RoundTrips RouteLookupResponse.toJson RouteLookupResponse.fromJson (oneFamilyReply none) :=
  (routeLookup_roundTrips_iff (oneFamilyReply_full (by simp))).mpr ⟨_, _, rfl, rfl, rfl⟩

/-- The reply about a prefix that a VLAN has: its interface and next hop do not come back. -/
theorem not_routeLookup_roundTrips_vlanPrefix : (oneFamilyReply (some [vlanPrefix])).Full ∧
    ¬ RoundTrips RouteLookupResponse.toJson RouteLookupResponse.fromJson
      (oneFamilyReply (some [vlanPrefix])) := by
  constructor
  · have hpath : RowPath.Full ⟨[some "2001:db8::1"], [some "Vlan10"]⟩ := ⟨rfl, Nat.one_ne_zero⟩
    have hprefix : vlanPrefix.Full := ⟨List.cons_ne_nil _ _, List.forall_mem_singleton.mpr hpath⟩
    apply oneFamilyReply_full
    intro rows hrows
    obtain rfl := Option.some.inj hrows
    exact ⟨List.cons_ne_nil _ _, List.forall_mem_singleton.mpr hprefix⟩
  · intro htrip
    cases htrip

end NxosExporter
