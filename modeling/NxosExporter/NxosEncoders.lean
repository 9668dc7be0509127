import NxosExporter.Lib.Codec
import NxosExporter.NxosStructs

/-!
# Writing the NX-OS replies

The encoders of `nxos_structs.hpp`, beside the decoders. A table with one row is written as the row and one with
several rows as an array. `RowAddr` writes several prefixes through their optional, `RowVrf` misspells the key
of several address families, and a path with several rows is wrapped once more by its braces.
-/

namespace NxosExporter

open Effectful Nlohmann

section Encoders

variable {α : Type}

def stringToJson (text : String) : Outcome JsonError Json := pure (.string text)

/-- The `to_json` of an optional. Its test is inverted: a value is written as null, and the value of an empty
optional is read. -/
def optionalToJson (encode : α → Outcome JsonError Json) (opt : Option α) : Outcome JsonError Json :=
  if opt.isSome then
    pure .null
  else
    .deref opt >>= encode

/-- The two forms of a table: a single row as it is, anything else as a vector. -/
def tableToJson (encode : α → Outcome JsonError Json) : List α → Outcome JsonError Json
  | [row] => encode row
  | rows => Json.ofVector encode rows

/-- The `switch` over the size of a table, which leaves out an empty one. -/
def assignTable (inner : Json) (key : String) (encode : α → Outcome JsonError Json) :
    List α → Outcome JsonError Json
  | [] => pure inner
  | rows => tableToJson encode rows >>= inner.assignAt key

/-- One row of `innerRowPathes`, a map that holds the values that are there. -/
def pathRowToJson (ipnexthop ifname : Option String) : Outcome JsonError Json := do
  let values := (if ifname.isSome then [("ifname", ifname)] else []) ++
    (if ipnexthop.isSome then [("ipnexthop", ipnexthop)] else [])
  let members ← values.mapM fun value => (value.1, ·) <$> optionalToJson stringToJson value.2
  pure (.object members)

/-- What `to_json` of a path makes of `inner`; values that do not belong together are silently dropped. -/
def RowPath.innerToJson (row : RowPath) : Outcome JsonError Json :=
  if row.ifname.length ≠ row.ipnexthop.length ∨ row.ifname.length = 0 then
    pure .null
  else if row.ifname.length = 1 then do
    let ipnexthop ← .index row.ipnexthop 0 >>= optionalToJson stringToJson
    let ifname ← .index row.ifname 0 >>= optionalToJson stringToJson
    pure (.object [("ipnexthop", ipnexthop), ("ifname", ifname)])
  else do
    let innerRowPathes ← (row.ipnexthop.zip row.ifname).mapM fun path => pathRowToJson path.1 path.2
    pure (Json.array innerRowPathes).braceInit

def RowPath.toJson (row : RowPath) : Outcome JsonError Json := do
  let inner ← row.innerToJson
  pure (.object [("ROW_path", inner)])

def RowPrefix.toJson (row : RowPrefix) : Outcome JsonError Json := do
  let inner := .object [("ipprefix", .string row.ipprefix),
    ("attached", .string (if row.attached then "true" else "false"))]
  let tablePath ← tableToJson RowPath.toJson row.tablePath
  let inner ← Json.assignAt inner "TABLE_path" tablePath
  pure (.object [("ROW_prefix", inner)])

-- several prefixes are written as the optional that holds them
def RowAddr.toJson (row : RowAddr) : Outcome JsonError Json := do
  let inner := .object [("addrf", .string row.addrf)]
  let inner ← match row.tablePrefix with
    | none => pure inner
    | some [] => pure inner
    | some [prefixRow] => prefixRow.toJson >>= Json.assignAt inner "TABLE_prefix"
    | some _ =>
        optionalToJson (Json.ofVector RowPrefix.toJson) row.tablePrefix >>= Json.assignAt inner "TABLE_prefix"
  pure (.object [("ROW_addrf", inner)])

def RowVrf.toJson (row : RowVrf) : Outcome JsonError Json := do
  let inner := .object [("vrf-name-out", .string row.vrfNameOut)]
  let inner ← match row.tableAddrf with
    | [] => pure inner
    | [addrfRow] => addrfRow.toJson >>= Json.assignAt inner "TABLE_addrf"
    | rows => Json.ofVector RowAddr.toJson rows >>= Json.assignAt inner "TABLE_addf"
  pure (.object [("ROW_vrf", inner)])

def RouteLookupResponse.toJson (row : RouteLookupResponse) : Outcome JsonError Json :=
  assignTable .null "TABLE_vrf" RowVrf.toJson row.tableVrf

def UptimeResponse.toJson (row : UptimeResponse) : Json :=
  .object [("kern_uptm_days", .numberInteger row.kernUptmDays.toInt),
    ("kern_uptm_hrs", .numberInteger row.kernUptmHrs.toInt),
    ("kern_uptm_mins", .numberInteger row.kernUptmMins.toInt),
    ("kern_uptm_secs", .numberInteger row.kernUptmSecs.toInt)]

def AdjObject.toJson (row : AdjObject) : Json :=
  .object [("intf-out", .string row.intfOut), ("ipv6-addr", .string row.ipv6Addr), ("mac", .string row.mac)]

def RowAdj.toJson (row : RowAdj) : Outcome JsonError Json :=
  assignTable .null "ROW_adj" (fun adjObject => pure adjObject.toJson) row.tableObject

def RowAfi.toJson (row : RowAfi) : Outcome JsonError Json := do
  let inner ← assignTable (.object [("afi", .string row.afi)]) "TABLE_adj" RowAdj.toJson row.tableAdj
  pure (.object [("ROW_afi", inner)])

def RowVrfNeighborLookup.toJson (row : RowVrfNeighborLookup) : Outcome JsonError Json := do
  let inner ← assignTable (.object [("vrf-name-out", .string row.vrfNameOut)]) "TABLE_afi" RowAfi.toJson
    row.tableAfi
  pure (.object [("ROW_vrf", inner)])

def NeighborLookupResponse.toJson (row : NeighborLookupResponse) : Outcome JsonError Json := do
  let inner ← match row.tableVrf with
    | [] => pure .null
    | rows => tableToJson RowVrfNeighborLookup.toJson rows
  pure (.object [("TABLE_vrf", inner)])

end Encoders

/-! ### Records without tables -/

theorem AdjObject.roundTrips (adjObject : AdjObject) :
    RoundTrips (fun row => .ok (AdjObject.toJson row)) AdjObject.fromJson adjObject := rfl

theorem UptimeResponse.roundTrips (uptime : UptimeResponse) :
    RoundTrips (fun row => .ok (UptimeResponse.toJson row)) UptimeResponse.fromJson uptime := by
  have hget : ∀ value : Int32, Json.getInt32 (.numberInteger value.toInt) = .ok value := by
    intro value
    simp [Json.getInt32]
  have hback : UptimeResponse.fromJson uptime.toJson = (do
      let days ← Json.getInt32 (.numberInteger uptime.kernUptmDays.toInt)
      let hrs ← Json.getInt32 (.numberInteger uptime.kernUptmHrs.toInt)
      let mins ← Json.getInt32 (.numberInteger uptime.kernUptmMins.toInt)
      let secs ← Json.getInt32 (.numberInteger uptime.kernUptmSecs.toInt)
      pure ⟨days, hrs, mins, secs⟩) := rfl
  simp [RoundTrips, hback, hget]

/-! ### Tables

A table that has rows is written in one of two forms, and the decoders that copy a table read the second form as
a single row. -/

section Tables

variable {α β : Type} {encode : α → Outcome JsonError Json} {decode : Json → Outcome JsonError α}

theorem assignTable_of_ne_nil {rows : List α} (hrows : rows ≠ []) (inner : Json) (key : String) :
    assignTable inner key encode rows = tableToJson encode rows >>= inner.assignAt key := by
  cases rows with
  | nil => exact absurd rfl hrows
  | cons row rest => rfl

theorem tableToJson_isObject_or_isArray (hobject : ∀ row value, encode row = .ok value → value.isObject = true)
    {rows : List α} {table : Json} (htable : tableToJson encode rows = .ok table) :
    table.isObject = true ∨ table.isArray = true := by
  match rows with
  | [row] => exact .inl (hobject row table htable)
  | [] | _ :: _ :: _ =>
      obtain ⟨codes, -, rfl⟩ := Outcome.map_eq_ok_iff.mp htable
      exact .inr rfl

/-- What is written of rows is no array led by a string. -/
theorem member?_of_mapM (hform : ∀ row value, encode row = .ok value → value.isObject = true ∨ value = .null)
    {rows : List α} {codes : List Json} (hcodes : rows.mapM encode = .ok codes) :
    (Json.array codes).member? = none := by
  cases Outcome.mapM_eq_ok_iff.mp hcodes with
  | nil => rfl
  | cons hcode _ =>
      refine Json.member?_cons_of_ne_string (fun hstring => ?_) _
      obtain hobject | rfl := hform _ _ hcode
      · simp [Json.isObject, hstring] at hobject
      · cases hstring

/-- A copy of a table holds what was written, in either form. -/
theorem deduced_of_tableToJson
    (hform : ∀ row value, encode row = .ok value → value.isObject = true ∨ value = .null)
    {rows : List α} {table : Json} (htable : tableToJson encode rows = .ok table) : table.deduced = table := by
  apply Json.deduced_of_not_member
  match rows with
  | [row] =>
      obtain hobject | rfl := hform row table htable
      · cases table with
        | object members => rfl
        | _ => cases hobject
      · rfl
  | [] | _ :: _ :: _ =>
      obtain ⟨codes, hcodes, rfl⟩ := Outcome.map_eq_ok_iff.mp htable
      exact member?_of_mapM hform hcodes

/-- With a decoder of rows that takes no array, of the tables only those of one row come back. -/
theorem map_tableToJson_bind_eq_ok_iff (harray : ∀ items, ∃ error, decode (.array items) = .throw error)
    {rows : List α} (hrows : rows ≠ []) {make : α → β} {value : β}
    (hmake : ∀ row, make row = value ↔ rows = [row]) :
    make <$> (tableToJson encode rows >>= decode) = .ok value ↔
      ∃ row, rows = [row] ∧ RoundTrips encode decode row := by
  rw [Outcome.map_eq_ok_iff]
  match rows with
  | [] => exact absurd rfl hrows
  | [only] =>
      constructor
      · rintro ⟨row, hrow, hsame⟩
        obtain rfl : only = row := by simpa using (hmake row).mp hsame
        exact ⟨only, rfl, hrow⟩
      · rintro ⟨row, hsame, hrow⟩
        obtain rfl : only = row := by simpa using hsame
        exact ⟨only, hrow, (hmake only).mpr rfl⟩
  | first :: second :: rest =>
      refine iff_of_false ?_ (by simp)
      rintro ⟨row, hrow, -⟩
      obtain ⟨code, hcode, hdecode⟩ := Outcome.bind_eq_ok_iff.mp hrow
      obtain ⟨codes, -, rfl⟩ := Outcome.map_eq_ok_iff.mp hcode
      obtain ⟨error, herror⟩ := harray codes
      rw [herror] at hdecode
      cases hdecode

/-- Where a decoder looks at the table itself and its rows are objects, both forms are read back. -/
theorem roundTrips_table_iff (hobject : ∀ row value, encode row = .ok value → value.isObject = true)
    {rows : List α} (hrows : rows ≠ []) : RoundTrips (tableToJson encode) (decodeTable decode) rows ↔
      ∀ row ∈ rows, RoundTrips encode decode row := by
  match rows with
  | [] => exact absurd rfl hrows
  | [row] =>
      rw [List.forall_mem_singleton, roundTrips_iff_exists, roundTrips_iff_exists]
      refine exists_congr fun value => and_congr_right fun hvalue => ?_
      simp [decodeTable, hobject row value hvalue, Outcome.map_eq_ok_iff]
  | first :: second :: rest =>
      rw [← roundTrips_mapM_iff, RoundTrips, RoundTrips]
      cases hcodes : List.mapM encode (first :: second :: rest) with
      | ok codes =>
          simp [tableToJson, Json.ofVector, hcodes, decodeTable, Json.isObject, Json.type, Json.getVector]
      | throw error => simp [tableToJson, Json.ofVector, hcodes]
      | undefined => simp [tableToJson, Json.ofVector, hcodes]

def encodeNamedRow (rowKey name tableKey : String) (encode : α → Outcome JsonError Json) (rowName : String)
    (rows : List α) : Outcome JsonError Json := do
  let inner ← assignTable (.object [(name, .string rowName)]) tableKey encode rows
  pure (.object [(rowKey, inner)])

theorem RowAfi.toJson_eq (row : RowAfi) : row.toJson
    = encodeNamedRow "ROW_afi" "afi" "TABLE_adj" RowAdj.toJson row.afi row.tableAdj := rfl

theorem RowVrfNeighborLookup.toJson_eq (row : RowVrfNeighborLookup) : row.toJson
    = encodeNamedRow "ROW_vrf" "vrf-name-out" "TABLE_afi" RowAfi.toJson row.vrfNameOut row.tableAfi := rfl

theorem RowAddr.toJson_one (addrf : String) (prefixRow : RowPrefix) : RowAddr.toJson ⟨addrf, some [prefixRow]⟩
    = encodeNamedRow "ROW_addrf" "addrf" "TABLE_prefix" RowPrefix.toJson addrf [prefixRow] := rfl

theorem RowVrf.toJson_one (vrfNameOut : String) (addrfRow : RowAddr) : RowVrf.toJson ⟨vrfNameOut, [addrfRow]⟩
    = encodeNamedRow "ROW_vrf" "vrf-name-out" "TABLE_addrf" RowAddr.toJson vrfNameOut [addrfRow] := rfl

/-- What the decoder makes of a row with a name and a table is what it makes of the table. -/
theorem decodeNamedRow_encodeNamedRow
    (hform : ∀ row value, encode row = .ok value → value.isObject = true ∨ value = .null)
    {rows : List α} (hrows : rows ≠ []) (rowKey : String) {name tableKey : String} (hne : name ≠ tableKey)
    (rowName : String) (make : String → Option (List α) → β) :
    (encodeNamedRow rowKey name tableKey encode rowName rows >>=
        decodeNamedRow rowKey name tableKey decode make)
      = (fun row => make rowName (some [row])) <$> (tableToJson encode rows >>= decode) := by
  rw [encodeNamedRow, assignTable_of_ne_nil hrows]
  cases htable : tableToJson encode rows with
  | ok table =>
      have hassign : Json.assignAt (.object [(name, .string rowName)]) tableKey table
          = .ok (.object [(tableKey, table), (name, .string rowName)]) := by
        simp [Json.assignAt, hne]
      have hname : getStringAt (.object [(name, .string rowName)]) name = .ok rowName := by
        simp [getStringAt, Json.getString]
      rw [Outcome.ok_bind, hassign, Outcome.ok_bind, Outcome.pure_eq, Outcome.ok_bind,
        decodeNamedRow_table hne, hname, deduced_of_tableToJson hform htable]
      rfl
  | throw error => rfl
  | undefined => rfl

/-! Rows are written as objects, and adjacencies without objects as null. -/

theorem isObject_of_wrapped {outcome : Outcome JsonError Json} {key : String} {value : Json}
    (hvalue : (outcome >>= fun inner => pure (.object [(key, inner)])) = .ok value) : value.isObject = true := by
  obtain ⟨inner, -, hobject⟩ := Outcome.bind_eq_ok_iff.mp hvalue
  obtain rfl := Outcome.ok.inj hobject
  rfl

theorem RowPath.toJson_isObject {row : RowPath} {value : Json} (hvalue : row.toJson = .ok value) :
    value.isObject = true :=
  isObject_of_wrapped hvalue

theorem RowPrefix.toJson_isObject {row : RowPrefix} {value : Json} (hvalue : row.toJson = .ok value) :
    value.isObject = true := by
  obtain ⟨tablePath, -, hinner⟩ := Outcome.bind_eq_ok_iff.mp hvalue
  exact isObject_of_wrapped hinner

theorem RowAddr.toJson_isObject {row : RowAddr} {value : Json} (hvalue : row.toJson = .ok value) :
    value.isObject = true := by
  obtain ⟨addrf, _ | ⟨_ | ⟨prefixRow, _ | ⟨second, rest⟩⟩⟩⟩ := row
  · exact isObject_of_wrapped hvalue
  · exact isObject_of_wrapped hvalue
  · exact isObject_of_wrapped hvalue
  · exact isObject_of_wrapped hvalue

theorem RowVrf.toJson_isObject {row : RowVrf} {value : Json} (hvalue : row.toJson = .ok value) :
    value.isObject = true := by
  obtain ⟨vrfNameOut, _ | ⟨addrfRow, _ | ⟨second, rest⟩⟩⟩ := row
  · exact isObject_of_wrapped hvalue
  · exact isObject_of_wrapped hvalue
  · exact isObject_of_wrapped hvalue

theorem RowAdj.toJson_isObject_or_null {row : RowAdj} {value : Json} (hvalue : row.toJson = .ok value) :
    value.isObject = true ∨ value = .null := by
  obtain ⟨_ | ⟨first, rest⟩⟩ := row
  · exact .inr (Outcome.ok.inj hvalue).symm
  · obtain ⟨table, -, hassign⟩ := Outcome.bind_eq_ok_iff.mp hvalue
    obtain rfl := Outcome.ok.inj hassign
    exact .inl rfl

theorem RowAfi.toJson_isObject {row : RowAfi} {value : Json} (hvalue : row.toJson = .ok value) :
    value.isObject = true :=
  isObject_of_wrapped hvalue

theorem RowVrfNeighborLookup.toJson_isObject {row : RowVrfNeighborLookup} {value : Json}
    (hvalue : row.toJson = .ok value) : value.isObject = true :=
  isObject_of_wrapped hvalue

end Tables

end NxosExporter
