import NxosExporter.NxosEncoders

/-!
# Neighbour replies there and back

The encoder puts the adjacency objects under one `ROW_adj` and the decoder looks for them under two, so that
their table comes back empty. The tables above it come back as they do in the route replies.
-/

namespace NxosExporter

open Effectful Nlohmann

def RowAdj.Full (row : RowAdj) : Prop := row.tableObject ≠ []

structure RowAfi.Full (row : RowAfi) : Prop where
  notEmpty : row.tableAdj ≠ []
  adjs : ∀ adjRow ∈ row.tableAdj, adjRow.Full

structure RowVrfNeighborLookup.Full (row : RowVrfNeighborLookup) : Prop where
  notEmpty : row.tableAfi ≠ []
  afis : ∀ afiRow ∈ row.tableAfi, afiRow.Full

/-- A reply with rows in all its tables. -/
structure NeighborLookupResponse.Full (response : NeighborLookupResponse) : Prop where
  notEmpty : response.tableVrf ≠ []
  vrfs : ∀ vrfRow ∈ response.tableVrf, vrfRow.Full

/-! ### Adjacencies -/

/-- The objects are written in one of two forms, and in neither is there another `ROW_adj`. -/
theorem RowAdj.fromJson_toJson {adjRow : RowAdj} (hfull : adjRow.Full) :
    (adjRow.toJson >>= RowAdj.fromJson) = .ok ⟨[]⟩ := by
  obtain ⟨tableObject⟩ := adjRow
  match tableObject with
  | [] => exact absurd rfl hfull
  | [adjObject] => rfl
  | first :: second :: rest =>
      have hobjects : (first :: second :: rest).mapM (fun adjObject => pure adjObject.toJson)
          = (.ok ((first :: second :: rest).map AdjObject.toJson) : Outcome JsonError (List Json)) :=
        List.mapM_pure
      simp only [RowAdj.toJson, assignTable, tableToJson, Json.ofVector, hobjects]
      rfl

theorem RowAdj.not_roundTrips {adjRow : RowAdj} (hfull : adjRow.Full) :
    ¬ RoundTrips RowAdj.toJson RowAdj.fromJson adjRow := by
  intro htrip
  rw [RoundTrips, RowAdj.fromJson_toJson hfull] at htrip
  obtain rfl := Outcome.ok.inj htrip
  exact hfull rfl

/-! ### The tables above them -/

section Tables

variable {afiRow : RowAfi} {vrfRow : RowVrfNeighborLookup}

theorem RowAfi.roundTrips_iff (hrows : afiRow.tableAdj ≠ []) : RoundTrips RowAfi.toJson RowAfi.fromJson afiRow ↔
    ∃ adjRow, afiRow.tableAdj = [adjRow] ∧ RoundTrips RowAdj.toJson RowAdj.fromJson adjRow := by
  obtain ⟨afi, tableAdj⟩ := afiRow
  rw [RoundTrips, RowAfi.toJson_eq, RowAfi.fromJson_eq,
    decodeNamedRow_encodeNamedRow (fun _ _ => RowAdj.toJson_isObject_or_null) hrows "ROW_afi" (by decide)]
  exact map_tableToJson_bind_eq_ok_iff (fun _ => ⟨.typeError 304, rfl⟩) hrows fun adjRow => by simp [eq_comm]

theorem RowVrfNeighborLookup.roundTrips_iff (hrows : vrfRow.tableAfi ≠ []) :
    RoundTrips RowVrfNeighborLookup.toJson RowVrfNeighborLookup.fromJson vrfRow ↔
      ∃ afiRow, vrfRow.tableAfi = [afiRow] ∧ RoundTrips RowAfi.toJson RowAfi.fromJson afiRow := by
  obtain ⟨vrfNameOut, tableAfi⟩ := vrfRow
  rw [RoundTrips, RowVrfNeighborLookup.toJson_eq, RowVrfNeighborLookup.fromJson_eq,
    decodeNamedRow_encodeNamedRow (fun _ _ hvalue => .inl (RowAfi.toJson_isObject hvalue)) hrows "ROW_vrf"
      (by decide)]
  exact map_tableToJson_bind_eq_ok_iff (fun _ => ⟨.typeError 304, rfl⟩) hrows fun afiRow => by simp [eq_comm]

theorem RowAfi.not_roundTrips (hfull : afiRow.Full) : ¬ RoundTrips RowAfi.toJson RowAfi.fromJson afiRow := by
  rw [RowAfi.roundTrips_iff hfull.notEmpty]
  rintro ⟨adjRow, hrow, htrip⟩
  exact RowAdj.not_roundTrips (hfull.adjs adjRow (by simp [hrow])) htrip

theorem RowVrfNeighborLookup.not_roundTrips (hfull : vrfRow.Full) :
    ¬ RoundTrips RowVrfNeighborLookup.toJson RowVrfNeighborLookup.fromJson vrfRow := by
  rw [RowVrfNeighborLookup.roundTrips_iff hfull.notEmpty]
  rintro ⟨afiRow, hrow, htrip⟩
  exact RowAfi.not_roundTrips (hfull.afis afiRow (by simp [hrow])) htrip

theorem NeighborLookupResponse.toJson_eq {tableVrf : List RowVrfNeighborLookup} (hrows : tableVrf ≠ []) :
    NeighborLookupResponse.toJson ⟨tableVrf⟩ = (fun table => .object [("TABLE_vrf", table)]) <$>
      tableToJson RowVrfNeighborLookup.toJson tableVrf := by
  cases tableVrf with
  | nil => exact absurd rfl hrows
  | cons vrfRow rest => rfl

theorem NeighborLookupResponse.fromJson_table {table : Json}
    (hform : table.isObject = true ∨ table.isArray = true) :
    NeighborLookupResponse.fromJson (.object [("TABLE_vrf", table)])
      = NeighborLookupResponse.mk <$> decodeTable RowVrfNeighborLookup.fromJson table := by
  cases table with
  | object members =>
      cases hrow : RowVrfNeighborLookup.fromJson (.object members) <;>
        simp [NeighborLookupResponse.fromJson, decodeTable, Json.isObject, Json.type, hrow]
  | array items => simp [NeighborLookupResponse.fromJson, decodeTable, Json.isObject, Json.type, Json.getVector]
  | _ => simp [Json.isObject, Json.isArray, Json.type] at hform

/-- The outermost table is read in both forms, so that only its rows matter. -/
theorem NeighborLookupResponse.roundTrips_iff {tableVrf : List RowVrfNeighborLookup} (hrows : tableVrf ≠ []) :
    RoundTrips NeighborLookupResponse.toJson NeighborLookupResponse.fromJson ⟨tableVrf⟩ ↔
      ∀ vrfRow ∈ tableVrf, RoundTrips RowVrfNeighborLookup.toJson RowVrfNeighborLookup.fromJson vrfRow := by
  have hobject : ∀ vrfRow value, RowVrfNeighborLookup.toJson vrfRow = .ok value → value.isObject = true :=
    fun _ _ => RowVrfNeighborLookup.toJson_isObject
  rw [← roundTrips_table_iff hobject hrows, RoundTrips, RoundTrips, NeighborLookupResponse.toJson_eq hrows]
  cases htable : tableToJson RowVrfNeighborLookup.toJson tableVrf with
  | ok table =>
      have hback := NeighborLookupResponse.fromJson_table (tableToJson_isObject_or_isArray hobject htable)
      simp [hback, Outcome.map_eq_ok_iff]
  | throw error => simp
  | undefined => simp

end Tables

/-- **Neighbour replies.** No reply with rows in all its tables comes back. -/
theorem neighborLookup_not_roundTrips {response : NeighborLookupResponse} (hfull : response.Full) :
    ¬ RoundTrips NeighborLookupResponse.toJson NeighborLookupResponse.fromJson response := by
  intro htrip
  obtain ⟨vrfRow, hmem⟩ := List.exists_mem_of_ne_nil _ hfull.notEmpty
  have hvrf := (NeighborLookupResponse.roundTrips_iff hfull.notEmpty).mp htrip vrfRow hmem
  exact RowVrfNeighborLookup.not_roundTrips (hfull.vrfs vrfRow hmem) hvrf

/-- A reply with one row in each table, down to the adjacency objects. -/
def adjacencyReply (tableObject : List AdjObject) : NeighborLookupResponse :=
  ⟨[⟨"default", [⟨"ipv6", [⟨tableObject⟩]⟩]⟩]⟩

def vlanNeighbor : AdjObject := ⟨"Vlan10", "2001:db8::1", "0000.5e00.5301"⟩

def portNeighbor : AdjObject := ⟨"Ethernet1/1", "2001:db8::2", "0000.5e00.5302"⟩

theorem adjacencyReply_full {tableObject : List AdjObject} (hrows : tableObject ≠ []) :
    (adjacencyReply tableObject).Full := by
  have hafi : RowAfi.Full ⟨"ipv6", [⟨tableObject⟩]⟩ :=
    ⟨List.cons_ne_nil _ _, List.forall_mem_singleton.mpr hrows⟩
  have hvrf : RowVrfNeighborLookup.Full ⟨"default", [⟨"ipv6", [⟨tableObject⟩]⟩]⟩ :=
    ⟨List.cons_ne_nil _ _, List.forall_mem_singleton.mpr hafi⟩
  exact ⟨List.cons_ne_nil _ _, List.forall_mem_singleton.mpr hvrf⟩

theorem neighborLookup_not_roundTrips_twoNeighbors :
    ¬ RoundTrips NeighborLookupResponse.toJson NeighborLookupResponse.fromJson
      (adjacencyReply [vlanNeighbor, portNeighbor]) :=
  neighborLookup_not_roundTrips (adjacencyReply_full (by simp))

/-- The reply about one neighbour comes back, but without the neighbour. -/
theorem neighborLookup_roundTrip_vlanNeighbor : (adjacencyReply [vlanNeighbor]).Full ∧
    ((adjacencyReply [vlanNeighbor]).toJson >>= NeighborLookupResponse.fromJson) = .ok (adjacencyReply []) ∧
    ¬ RoundTrips NeighborLookupResponse.toJson NeighborLookupResponse.fromJson
      (adjacencyReply [vlanNeighbor]) := by
  refine ⟨adjacencyReply_full (by simp), rfl, ?_⟩
  intro htrip
  cases htrip

end NxosExporter
