import Mathlib.Data.Finset.Insert
import Mathlib.Data.Finset.Erase
import Mathlib.Tactic.Common

/-!
# A table driven by additions and removals

A finite set of entries and the two updates a table takes. An update decides one entry and leaves
every other as it was.
-/

namespace UpdateTable

variable {κ : Type}

inductive Update (κ : Type) where
  | add (entry : κ)
  | remove (entry : κ)
  deriving DecidableEq, Repr

def Update.entry : Update κ → κ
  | add entry => entry
  | remove entry => entry

variable [DecidableEq κ]

def Update.apply (table : Finset κ) : Update κ → Finset κ
  | add entry => insert entry table
  | remove entry => table.erase entry

def applyAll (table : Finset κ) (updates : List (Update κ)) : Finset κ :=
  updates.foldl Update.apply table

@[simp]
theorem applyAll_nil (table : Finset κ) : applyAll table [] = table := rfl

@[simp]
theorem applyAll_cons (table : Finset κ) (update : Update κ) (rest : List (Update κ)) :
    applyAll table (update :: rest) = applyAll (update.apply table) rest := rfl

theorem applyAll_append (table : Finset κ) (first second : List (Update κ)) :
    applyAll table (first ++ second) = applyAll (applyAll table first) second :=
  List.foldl_append

theorem mem_apply_of_ne {table : Finset κ} {update : Update κ} {entry : κ}
    (hne : entry ≠ update.entry) : entry ∈ update.apply table ↔ entry ∈ table := by
  cases update with
  | add named => simp_all [Update.apply, Update.entry]
  | remove named => simp_all [Update.apply, Update.entry]

/-- **Frame.** Entries that no update names are left as they were. -/
theorem mem_applyAll_of_forall_ne {entry : κ} {updates : List (Update κ)}
    (hne : ∀ update ∈ updates, entry ≠ update.entry) (table : Finset κ) :
    entry ∈ applyAll table updates ↔ entry ∈ table := by
  induction updates generalizing table with
  | nil => rfl
  | cons update rest ih =>
      rw [applyAll_cons, ih fun other hother => hne other (by simp [hother])]
      exact mem_apply_of_ne (hne update (by simp))

theorem mem_applyAll_of_not_removed {entry : κ} {updates : List (Update κ)}
    (hkept : ∀ update ∈ updates, update ≠ .remove entry) {table : Finset κ} (hmem : entry ∈ table) :
    entry ∈ applyAll table updates := by
  induction updates generalizing table with
  | nil => exact hmem
  | cons update rest ih =>
      rw [applyAll_cons]
      refine ih (fun other hother => hkept other (by simp [hother])) ?_
      cases update with
      | add named => exact Finset.mem_insert_of_mem hmem
      | remove named =>
          have hne : entry ≠ named := by
            rintro rfl
            exact hkept (.remove entry) (by simp) rfl
          exact Finset.mem_erase.mpr ⟨hne, hmem⟩

theorem mem_applyAll_of_added {entry : κ} {updates : List (Update κ)} (hadded : .add entry ∈ updates)
    (hkept : ∀ update ∈ updates, update ≠ .remove entry) (table : Finset κ) :
    entry ∈ applyAll table updates := by
  obtain ⟨before, after, rfl⟩ := List.append_of_mem hadded
  rw [applyAll_append, applyAll_cons]
  refine mem_applyAll_of_not_removed (fun update hupdate => hkept update ?_) (Finset.mem_insert_self _ _)
  exact List.mem_append_right before (List.mem_cons_of_mem _ hupdate)

/-- An update of an entry that the others do not name decides whether the entry is in the table. -/
theorem mem_applyAll_of_nodup {update : Update κ} {updates : List (Update κ)}
    (hnodup : (updates.map Update.entry).Nodup) (hmem : update ∈ updates) (table : Finset κ) :
    update.entry ∈ applyAll table updates ↔ update = .add update.entry := by
  obtain ⟨before, after, rfl⟩ := List.append_of_mem hmem
  rw [List.map_append, List.map_cons] at hnodup
  have hafter : ∀ other ∈ after, update.entry ≠ other.entry := by
    intro other hother heq
    obtain ⟨hnot, -⟩ := List.nodup_cons.mp (List.nodup_append.mp hnodup).2.1
    exact hnot (heq ▸ List.mem_map_of_mem hother)
  rw [applyAll_append, applyAll_cons, mem_applyAll_of_forall_ne hafter]
  cases update <;> simp [Update.apply, Update.entry]

def lastUpdate (updates : List (Update κ)) (entry : κ) : Option (Update κ) :=
  updates.reverse.find? fun update => update.entry = entry

/-- The last update that names an entry decides whether the entry is in the table. -/
theorem mem_applyAll_iff {entry : κ} {updates : List (Update κ)} (table : Finset κ) :
    entry ∈ applyAll table updates ↔
      (lastUpdate updates entry).elim (entry ∈ table) fun update => update = .add entry := by
  induction updates using List.reverseRecOn with
  | nil => rfl
  | append_singleton rest update ih =>
      rw [applyAll_append, applyAll_cons, applyAll_nil, lastUpdate, List.reverse_append, List.reverse_singleton,
        List.singleton_append, List.find?_cons]
      by_cases hentry : update.entry = entry
      · subst hentry
        cases update <;> simp [Update.apply, Update.entry]
      · rw [mem_apply_of_ne (Ne.symm hentry), ih]
        simp [hentry, lastUpdate]

theorem lastUpdate_append_of_forall_ne {entry : κ} {later : List (Update κ)}
    (hne : ∀ update ∈ later, update.entry ≠ entry) (past : List (Update κ)) :
    lastUpdate (past ++ later) entry = lastUpdate past entry := by
  have hnone : later.reverse.find? (fun update => update.entry = entry) = none := by
    rw [List.find?_eq_none]
    intro update hmem
    simpa using hne update (List.mem_reverse.mp hmem)
  rw [lastUpdate, List.reverse_append, List.find?_append, hnone, Option.none_or, lastUpdate]

theorem lastUpdate_append_of_nodup {update : Update κ} {later : List (Update κ)}
    (hnodup : (later.map Update.entry).Nodup) (hmem : update ∈ later) (past : List (Update κ)) :
    lastUpdate (past ++ later) update.entry = some update := by
  obtain ⟨before, after, rfl⟩ := List.append_of_mem hmem
  rw [List.map_append, List.map_cons] at hnodup
  have hafter : ∀ other ∈ after, other.entry ≠ update.entry := by
    intro other hother heq
    obtain ⟨hnot, -⟩ := List.nodup_cons.mp (List.nodup_append.mp hnodup).2.1
    exact hnot (heq ▸ List.mem_map_of_mem hother)
  have hsplit : past ++ (before ++ update :: after) = (past ++ before ++ [update]) ++ after := by simp
  rw [hsplit, lastUpdate_append_of_forall_ne hafter]
  simp [lastUpdate]

theorem mem_or_added_of_mem_applyAll {entry : κ} {updates : List (Update κ)} {table : Finset κ}
    (hmem : entry ∈ applyAll table updates) : entry ∈ table ∨ .add entry ∈ updates := by
  rw [mem_applyAll_iff] at hmem
  cases hlast : lastUpdate updates entry with
  | none =>
      rw [hlast] at hmem
      exact .inl hmem
  | some update =>
      rw [hlast] at hmem
      obtain rfl : update = .add entry := hmem
      exact .inr (List.mem_reverse.mp (List.mem_of_find?_eq_some hlast))

theorem mem_applyAll_empty_iff {entry : κ} {updates : List (Update κ)} :
    entry ∈ applyAll ∅ updates ↔ lastUpdate updates entry = some (.add entry) := by
  rw [mem_applyAll_iff]
  cases lastUpdate updates entry <;> simp

end UpdateTable
