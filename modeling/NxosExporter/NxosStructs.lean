import NxosExporter.Lib.Json

/-!
# The NX-OS replies

`nxos_structs.hpp`: the tables of `show ipv6 route`, `show ipv6 neighbor` and `show version`, and
their decoders. A table with one row is sent as an object and one with several rows as an array. Where
a decoder copies the table by `auto x{...}` first, the copy is a one-element array whatever the switch
sent, unless this is an array of a name and a row, of which the copy is the object; where it looks at the
member itself, the two forms are told apart.
-/

namespace NxosExporter

open Effectful Nlohmann

structure RowPath where
  ipnexthop : List (Option String)
  ifname : List (Option String)
  deriving DecidableEq, Repr

structure RowPrefix where
  ipprefix : String
  attached : Bool
  tablePath : List RowPath
  deriving DecidableEq, Repr

structure RowAddr where
  addrf : String
  tablePrefix : Option (List RowPrefix)
  deriving DecidableEq, Repr

structure RowVrf where
  vrfNameOut : String
  tableAddrf : List RowAddr
  deriving DecidableEq, Repr

structure RouteLookupResponse where
  tableVrf : List RowVrf
  deriving DecidableEq, Repr

structure UptimeResponse where
  kernUptmDays : Int32
  kernUptmHrs : Int32
  kernUptmMins : Int32
  kernUptmSecs : Int32
  deriving DecidableEq, Repr

structure AdjObject where
  intfOut : String
  ipv6Addr : String
  mac : String
  deriving DecidableEq, Repr

structure RowAdj where
  tableObject : List AdjObject
  deriving DecidableEq, Repr

structure RowAfi where
  afi : String
  tableAdj : List RowAdj
  deriving DecidableEq, Repr

structure RowVrfNeighborLookup where
  vrfNameOut : String
  tableAfi : List RowAfi
  deriving DecidableEq, Repr

structure NeighborLookupResponse where
  tableVrf : List RowVrfNeighborLookup
  deriving DecidableEq, Repr

section Decoders

variable {α : Type}

def getStringAt (value : Json) (key : String) : Outcome JsonError String :=
  value.getAt key >>= Json.getString

def getOptionalString : Json → Outcome JsonError (Option String)
  | .null => .ok none
  | value => some <$> value.getString

/-- A table copied by `auto table{inner.at(key)}` and then decoded: rows from an object, rows from an
array, and no change to the default for anything else. -/
def decodeCopiedTable (decode : Json → Outcome JsonError α) (table : Json) :
    Outcome JsonError (Option (List α)) :=
  let copy := table.braceInit
  if copy.isObject then do
    let row ← decode copy
    pure (some [row])
  else if copy.isArray then
    some <$> copy.getVector decode
  else
    pure none

/-- A table looked at where it is: one row from an object, otherwise a vector. -/
def decodeTable (decode : Json → Outcome JsonError α) (table : Json) : Outcome JsonError (List α) :=
  if table.isObject then do
    let row ← decode table
    pure [row]
  else
    table.getVector decode

-- what libstdc++ leaves in a string that was moved from; the optional around it stays engaged
def movedFromString : String := ""

/-- One row of a `ROW_path` array. `tmp` is moved into `ifname` and then used again for `ipnexthop`. -/
def decodePathRow (path : Json) : Outcome JsonError (Option String × Option String) := do
  let ifname ← if path.contains "ifname" then some <$> getStringAt path "ifname" else pure none
  let tmp := ifname.map fun _ => movedFromString
  let ipnexthop ←
    if path.contains "ipnexthop" then some <$> getStringAt path "ipnexthop" else pure tmp
  pure (ifname, ipnexthop)

def RowPath.fromJson (value : Json) : Outcome JsonError RowPath := do
  let inner ← value.getAt "ROW_path"
  match inner with
  | .array paths => do
      let rows ← paths.mapM decodePathRow
      pure ⟨rows.map Prod.snd, rows.map Prod.fst⟩
  | .object members => do
      let ipnexthop ← match (Json.object members).find? "ipnexthop" with
        | some member => getOptionalString member
        | none => pure none
      let ifname ← match (Json.object members).find? "ifname" with
        | some member => getOptionalString member
        | none => pure none
      pure ⟨[ipnexthop], [ifname]⟩
  | _ => pure ⟨[], []⟩

def RowPrefix.fromJson (value : Json) : Outcome JsonError RowPrefix := do
  let inner ← value.getAt "ROW_prefix"
  let ipprefix ← getStringAt inner "ipprefix"
  let tmp ← getStringAt inner "attached"
  let attached := !(tmp = "false" || tmp = "FALSE")
  let tablePath ← inner.getAt "TABLE_path" >>= decodeTable RowPath.fromJson
  pure (RowPrefix.mk ipprefix attached tablePath)

def RowAddr.fromJson (value : Json) : Outcome JsonError RowAddr := do
  let inner ← value.getAt "ROW_addrf"
  let addrf ← getStringAt inner "addrf"
  let tablePrefix ← match inner.find? "TABLE_prefix" with
    | some table => decodeCopiedTable RowPrefix.fromJson table
    | none => pure none
  pure ⟨addrf, tablePrefix⟩

def RowVrf.fromJson (value : Json) : Outcome JsonError RowVrf := do
  let inner ← value.getAt "ROW_vrf"
  let vrfNameOut ← getStringAt inner "vrf-name-out"
  let tableAddrf ← match inner.find? "TABLE_addrf" with
    | some table => decodeCopiedTable RowAddr.fromJson table
    | none => pure none
  pure ⟨vrfNameOut, tableAddrf.getD []⟩

def RouteLookupResponse.fromJson (value : Json) : Outcome JsonError RouteLookupResponse := do
  let tableVrf ← match value.find? "TABLE_vrf" with
    | some table => decodeCopiedTable RowVrf.fromJson table
    | none => pure none
  pure ⟨tableVrf.getD []⟩

def UptimeResponse.fromJson (value : Json) : Outcome JsonError UptimeResponse := do
  let days ← value.getAt "kern_uptm_days" >>= Json.getInt32
  let hrs ← value.getAt "kern_uptm_hrs" >>= Json.getInt32
  let mins ← value.getAt "kern_uptm_mins" >>= Json.getInt32
  let secs ← value.getAt "kern_uptm_secs" >>= Json.getInt32
  pure ⟨days, hrs, mins, secs⟩

def AdjObject.fromJson (value : Json) : Outcome JsonError AdjObject := do
  let intfOut ← getStringAt value "intf-out"
  let ipv6Addr ← getStringAt value "ipv6-addr"
  let mac ← getStringAt value "mac"
  pure ⟨intfOut, ipv6Addr, mac⟩

-- the rows are looked for one `ROW_adj` below the one that was taken
def RowAdj.fromJson (value : Json) : Outcome JsonError RowAdj := do
  let inner ← value.getAt "ROW_adj"
  let tableObject ← match inner.find? "ROW_adj" with
    | some table => decodeCopiedTable AdjObject.fromJson table
    | none => pure none
  pure ⟨tableObject.getD []⟩

def RowAfi.fromJson (value : Json) : Outcome JsonError RowAfi := do
  let inner ← value.getAt "ROW_afi"
  let afi ← getStringAt inner "afi"
  let tableAdj ← match inner.find? "TABLE_adj" with
    | some table => decodeCopiedTable RowAdj.fromJson table
    | none => pure none
  pure ⟨afi, tableAdj.getD []⟩

def RowVrfNeighborLookup.fromJson (value : Json) : Outcome JsonError RowVrfNeighborLookup := do
  let inner ← value.getAt "ROW_vrf"
  let vrfNameOut ← getStringAt inner "vrf-name-out"
  let tableAfi ← match inner.find? "TABLE_afi" with
    | some table => decodeCopiedTable RowAfi.fromJson table
    | none => pure none
  pure ⟨vrfNameOut, tableAfi.getD []⟩

-- the one decoder that binds the table by reference, so that both forms reach it
def NeighborLookupResponse.fromJson (value : Json) : Outcome JsonError NeighborLookupResponse := do
  let table ← value.getAt "TABLE_vrf"
  match table with
  | .array rows => do
      let tableVrf ← rows.mapM RowVrfNeighborLookup.fromJson
      pure ⟨tableVrf⟩
  | .object members => do
      let row ← RowVrfNeighborLookup.fromJson (.object members)
      pure ⟨[row]⟩
  | _ => pure ⟨[]⟩

/-- A copied table is one row, whichever form it has. -/
theorem decodeCopiedTable_eq (decode : Json → Outcome JsonError α) (table : Json) :
    decodeCopiedTable decode table = (fun row => some [row]) <$> decode table.deduced := by
  cases hmember : table.member? with
  | some member =>
      rw [decodeCopiedTable, Json.braceInit_of_member hmember, Json.deduced_of_member hmember]
      simp [Json.isObject, Json.type]
  | none =>
      have hvector : (Json.array [table]).getVector decode = (fun row => [row]) <$> decode table := by
        rw [Json.getVector]
        simp [List.mapM_cons]
      rw [decodeCopiedTable, Json.braceInit_of_not_member hmember, Json.deduced_of_not_member hmember]
      simp [Json.isObject, Json.isArray, Json.type, hvector]

theorem decodeCopiedTable_eq_ok {decode : Json → Outcome JsonError α} {table : Json} {rows : Option (List α)}
    (hrows : decodeCopiedTable decode table = .ok rows) : ∃ row source, decode source = .ok row ∧ rows = some [row] := by
  rw [decodeCopiedTable_eq, Outcome.map_eq_ok_iff] at hrows
  obtain ⟨row, hrow, rfl⟩ := hrows
  exact ⟨row, table.deduced, hrow, rfl⟩

end Decoders

/-! ### The rows that hold a copied table

Four decoders read a row with one text and, under it, a table that they copy first. -/

section NamedRows

variable {α β : Type} {others : List (String × Json)}

def decodeNamedRow (rowKey name tableKey : String) (decode : Json → Outcome JsonError α)
    (make : String → Option (List α) → β) (value : Json) : Outcome JsonError β := do
  let inner ← value.getAt rowKey
  let rowName ← getStringAt inner name
  let rows ← match inner.find? tableKey with
    | some table => decodeCopiedTable decode table
    | none => pure none
  pure (make rowName rows)

theorem RowAddr.fromJson_eq : RowAddr.fromJson
    = decodeNamedRow "ROW_addrf" "addrf" "TABLE_prefix" RowPrefix.fromJson RowAddr.mk := rfl

theorem RowVrf.fromJson_eq : RowVrf.fromJson
    = decodeNamedRow "ROW_vrf" "vrf-name-out" "TABLE_addrf" RowAddr.fromJson
        fun vrfNameOut tableAddrf => ⟨vrfNameOut, tableAddrf.getD []⟩ := rfl

theorem RowAfi.fromJson_eq : RowAfi.fromJson
    = decodeNamedRow "ROW_afi" "afi" "TABLE_adj" RowAdj.fromJson
        fun afi tableAdj => ⟨afi, tableAdj.getD []⟩ := rfl

theorem RowVrfNeighborLookup.fromJson_eq : RowVrfNeighborLookup.fromJson
    = decodeNamedRow "ROW_vrf" "vrf-name-out" "TABLE_afi" RowAfi.fromJson
        fun vrfNameOut tableAfi => ⟨vrfNameOut, tableAfi.getD []⟩ := rfl

theorem getStringAt_cons_of_ne {key other : String} (hne : key ≠ other) (member : Json) :
    getStringAt (.object ((other, member) :: others)) key = getStringAt (.object others) key := by
  rw [getStringAt, getStringAt, Json.getAt_object_cons_of_ne hne]

/-- A table that is there is read as one row. -/
theorem decodeNamedRow_table {name tableKey : String} (hne : name ≠ tableKey) (rowKey : String)
    (decode : Json → Outcome JsonError α) (make : String → Option (List α) → β) (value : Json) :
    decodeNamedRow rowKey name tableKey decode make
        (.object [(rowKey, .object ((tableKey, value) :: others))])
      = getStringAt (.object others) name >>= fun rowName =>
          (fun row => make rowName (some [row])) <$> decode value.deduced := by
  cases hrow : decode value.deduced <;>
    simp [decodeNamedRow, getStringAt_cons_of_ne hne, decodeCopiedTable_eq, hrow]

/-- No more than one row of a copied table is read. -/
theorem decodeNamedRow_eq_ok {rowKey name tableKey : String} {decode : Json → Outcome JsonError α}
    {make : String → Option (List α) → β} {value : Json} {row : β}
    (hrow : decodeNamedRow rowKey name tableKey decode make value = .ok row) :
    ∃ rowName, row = make rowName none ∨
      ∃ only source, decode source = .ok only ∧ row = make rowName (some [only]) := by
  obtain ⟨inner, -, hinner⟩ := Outcome.bind_eq_ok_iff.mp hrow
  obtain ⟨rowName, -, hname⟩ := Outcome.bind_eq_ok_iff.mp hinner
  cases htable : inner.find? tableKey with
  | none =>
      simp only [htable] at hname
      exact ⟨rowName, .inl (Outcome.ok.inj hname).symm⟩
  | some table =>
      simp only [htable] at hname
      obtain ⟨rows, hrows, hmake⟩ := Outcome.bind_eq_ok_iff.mp hname
      obtain ⟨only, source, honly, rfl⟩ := decodeCopiedTable_eq_ok hrows
      exact ⟨rowName, .inr ⟨only, source, honly, (Outcome.ok.inj hmake).symm⟩⟩

end NamedRows

end NxosExporter
