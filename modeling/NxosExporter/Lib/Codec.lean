import NxosExporter.Lib.Prog

/-!
# Round trips

An encoder and a decoder that may both fail, and the values that come back. Traversals come back exactly when
all their items do.
-/

namespace Effectful

variable {χ α β : Type} {encode : α → Outcome χ β} {decode : β → Outcome χ α}

/-- The value is encoded, and what it is encoded to is decoded to it. -/
def RoundTrips (encode : α → Outcome χ β) (decode : β → Outcome χ α) (value : α) : Prop :=
  (encode value >>= decode) = .ok value

theorem roundTrips_iff_exists {value : α} :
    RoundTrips encode decode value ↔ ∃ code, encode value = .ok code ∧ decode code = .ok value :=
  Outcome.bind_eq_ok_iff

theorem roundTrips_mapM_iff {values : List α} :
    RoundTrips (List.mapM encode) (List.mapM decode) values ↔
      ∀ value ∈ values, RoundTrips encode decode value := by
  simp only [roundTrips_iff_exists, Outcome.mapM_eq_ok_iff]
  induction values with
  | nil => exact iff_of_true ⟨[], .nil, .nil⟩ fun _ hmem => absurd hmem List.not_mem_nil
  | cons value rest ih =>
      rw [List.forall_mem_cons, ← ih]
      constructor
      · rintro ⟨codes, hcodes, hvalues⟩
        cases hcodes with
        | cons hcode hothers =>
            cases hvalues with
            | cons hvalue hrest => exact ⟨⟨_, hcode, hvalue⟩, _, hothers, hrest⟩
      · rintro ⟨⟨code, hcode, hvalue⟩, codes, hcodes, hrest⟩
        exact ⟨code :: codes, .cons hcode hcodes, .cons hvalue hrest⟩

end Effectful
