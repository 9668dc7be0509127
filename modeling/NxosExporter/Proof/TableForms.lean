import NxosExporter.NxosStructs

/-!
# One row and many rows

The switch sends a table with one row as an object and one with several as an array. The decoder that looks
at the table itself reads both forms. The others look at a copy that holds an array of rows as its one element,
and read this array as if it were a row.
-/

namespace NxosExporter

open Effectful Nlohmann

/-- The nested tables of the route lookup and of the neighbor lookup. -/
inductive ReplyTable where
  | routeVrf
  | routeAddrf
  | routePrefix
  | neighborVrf
  | neighborAfi
  | neighborAdj
  deriving DecidableEq, Repr

namespace ReplyTable

abbrev Row : ReplyTable → Type
  | routeVrf => RowVrf
  | routeAddrf => RowAddr
  | routePrefix => RowPrefix
  | neighborVrf => RowVrfNeighborLookup
  | neighborAfi => RowAfi
  | neighborAdj => RowAdj

/-- The rows read out of a table by the decoder of the value that holds it, next to the members `others`. -/
def decode (others : List (String × Json)) (value : Json) :
    (table : ReplyTable) → Outcome JsonError (List table.Row)
  | routeVrf =>
      RouteLookupResponse.tableVrf <$>
        RouteLookupResponse.fromJson (.object (("TABLE_vrf", value) :: others))
  | routeAddrf =>
      RowVrf.tableAddrf <$>
        RowVrf.fromJson (.object [("ROW_vrf", .object (("TABLE_addrf", value) :: others))])
  | routePrefix =>
      (fun row => row.tablePrefix.getD []) <$>
        RowAddr.fromJson (.object [("ROW_addrf", .object (("TABLE_prefix", value) :: others))])
  | neighborVrf =>
      NeighborLookupResponse.tableVrf <$>
        NeighborLookupResponse.fromJson (.object (("TABLE_vrf", value) :: others))
  | neighborAfi =>
      RowVrfNeighborLookup.tableAfi <$>
        RowVrfNeighborLookup.fromJson (.object [("ROW_vrf", .object (("TABLE_afi", value) :: others))])
  | neighborAdj =>
      RowAfi.tableAdj <$>
        RowAfi.fromJson (.object [("ROW_afi", .object (("TABLE_adj", value) :: others))])

/-- The row objects decode one by one, each as the whole table. -/
def DecodeSingly (table : ReplyTable) (others : List (String × Json)) (rows : List Json)
    (decoded : List table.Row) : Prop :=
  (∀ row ∈ rows, row.isObject = true) ∧
    List.Forall₂ (fun row value => table.decode others row = .ok [value]) rows decoded

/-- The array of the rows decodes to the list of what they decode to, and the first row alone to the same
as the array that holds it. -/
structure DecodesAlike (table : ReplyTable) (others : List (String × Json)) (rows : List Json)
    (decoded : List table.Row) : Prop where
  many : table.decode others (.array rows) = .ok decoded
  one : ∀ first ∈ rows.head?, table.decode others first = table.decode others (.array [first])

def decodeRow : (table : ReplyTable) → Json → Outcome JsonError table.Row
  | routeVrf => RowVrf.fromJson
  | routeAddrf => RowAddr.fromJson
  | routePrefix => RowPrefix.fromJson
  | neighborVrf => RowVrfNeighborLookup.fromJson
  | neighborAfi => RowAfi.fromJson
  | neighborAdj => RowAdj.fromJson

section Decoding

variable {table : ReplyTable} {others : List (String × Json)} {rows : List Json} {decoded : List table.Row}

/-- What the enclosing decoder reads before it gets to the table. -/
def field (others : List (String × Json)) : ReplyTable → Outcome JsonError String
  | routeAddrf | neighborAfi => getStringAt (.object others) "vrf-name-out"
  | routePrefix => getStringAt (.object others) "addrf"
  | neighborAdj => getStringAt (.object others) "afi"
  | routeVrf | neighborVrf => .ok ""

/-- Through a copy a table is one row, whatever it is. -/
theorem decode_of_copied (hcopied : table ≠ .neighborVrf) (value : Json) :
    table.decode others value
      = table.field others >>= fun _ => (fun row => [row]) <$> table.decodeRow value.deduced := by
  cases table with
  | routeVrf =>
      cases hrow : RowVrf.fromJson value.deduced <;>
        simp [decode, field, decodeRow, RouteLookupResponse.fromJson, decodeCopiedTable_eq, hrow]
  | routeAddrf =>
      rw [decode, RowVrf.fromJson_eq, decodeNamedRow_table (by decide)]
      simp [field, decodeRow]
  | routePrefix =>
      rw [decode, RowAddr.fromJson_eq, decodeNamedRow_table (by decide)]
      simp [field, decodeRow]
  | neighborVrf => exact absurd rfl hcopied
  | neighborAfi =>
      rw [decode, RowVrfNeighborLookup.fromJson_eq, decodeNamedRow_table (by decide)]
      simp [field, decodeRow]
  | neighborAdj =>
      rw [decode, RowAfi.fromJson_eq, decodeNamedRow_table (by decide)]
      simp [field, decodeRow]

/-- No array is a row. -/
theorem decodeRow_array (table : ReplyTable) (items : List Json) :
    table.decodeRow (.array items) = .throw (.typeError 304) := by
  cases table <;> rfl

theorem decode_array_ne_ok (hcopied : table ≠ .neighborVrf) (hobjects : ∀ row ∈ rows, row.isObject = true)
    (decoded : List table.Row) : table.decode others (.array rows) ≠ .ok decoded := by
  rw [decode_of_copied hcopied, Json.deduced_of_not_member (Json.member?_of_isObject hobjects), decodeRow_array]
  cases table.field others <;> simp

theorem decode_neighborVrf_object {row : Json} (hobject : row.isObject = true) :
    decode others row .neighborVrf = (fun value => [value]) <$> RowVrfNeighborLookup.fromJson row := by
  cases row with
  | object members =>
      cases hrow : RowVrfNeighborLookup.fromJson (.object members) <;>
        simp [decode, NeighborLookupResponse.fromJson, Json.getAt, hrow]
  | _ => simp [Json.isObject, Json.type] at hobject

theorem decode_neighborVrf_array (rows : List Json) :
    decode others (.array rows) .neighborVrf = rows.mapM RowVrfNeighborLookup.fromJson := by
  cases hrows : rows.mapM RowVrfNeighborLookup.fromJson <;>
    simp [decode, NeighborLookupResponse.fromJson, Json.getAt, hrows]

theorem decodesAlike_neighborVrf {decoded : List RowVrfNeighborLookup}
    (hsingly : DecodeSingly .neighborVrf others rows decoded) :
    DecodesAlike .neighborVrf others rows decoded := by
  obtain ⟨hobjects, hrows⟩ := hsingly
  constructor
  · rw [decode_neighborVrf_array, Outcome.mapM_eq_ok_iff]
    induction hrows with
    | nil => exact .nil
    | cons hrow _ ih =>
        rw [decode_neighborVrf_object (hobjects _ (by simp))] at hrow
        obtain ⟨found, hfound, heq⟩ := Outcome.map_eq_ok_iff.mp hrow
        obtain rfl := List.singleton_inj.mp heq
        exact .cons hfound (ih fun other hother => hobjects other (by simp [hother]))
  · intro first hfirst
    have hmem : first ∈ rows := List.mem_of_mem_head? hfirst
    rw [decode_neighborVrf_object (hobjects first hmem), decode_neighborVrf_array, List.mapM_cons,
      List.mapM_nil]
    rfl

end Decoding

/-- **One row and many rows.** Rows that decode one by one decode alike in an array exactly at the table that
the neighbor lookup reads where it is. -/
theorem decodesAlike_iff (table : ReplyTable) (others : List (String × Json)) (rows : List Json)
    (decoded : List table.Row) (hsingly : DecodeSingly table others rows decoded) :
    DecodesAlike table others rows decoded ↔ table = .neighborVrf := by
  constructor
  · intro halike
    by_contra hcopied
    exact decode_array_ne_ok hcopied hsingly.1 decoded halike.many
  · rintro rfl
    exact decodesAlike_neighborVrf hsingly

/-! Two VRFs in the reply to a route lookup and in the reply to a neighbor lookup. -/

def vrfRow (name : String) : Json := .object [("ROW_vrf", .object [("vrf-name-out", .string name)])]

theorem not_decodesAlike_routeVrf :
    DecodeSingly .routeVrf [] [vrfRow "default", vrfRow "management"]
        [⟨"default", []⟩, ⟨"management", []⟩] ∧
      ¬ DecodesAlike .routeVrf [] [vrfRow "default", vrfRow "management"]
        [⟨"default", []⟩, ⟨"management", []⟩] := by
  refine ⟨⟨by decide, .cons rfl (.cons rfl .nil)⟩, fun halike => ?_⟩
  have hthrow : decode [] (.array [vrfRow "default", vrfRow "management"]) .routeVrf
      = .throw (.typeError 304) := rfl
  have hdecoded := halike.many
  rw [hthrow] at hdecoded
  cases hdecoded

theorem decodesAlike_iff_neighborVrf :
    DecodesAlike .neighborVrf [] [vrfRow "default", vrfRow "management"]
        [⟨"default", []⟩, ⟨"management", []⟩] ↔ ReplyTable.neighborVrf = .neighborVrf :=
  decodesAlike_iff .neighborVrf [] [vrfRow "default", vrfRow "management"]
    [⟨"default", []⟩, ⟨"management", []⟩] ⟨by decide, .cons rfl (.cons rfl .nil)⟩

end ReplyTable

end NxosExporter
