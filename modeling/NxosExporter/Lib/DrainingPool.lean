import Mathlib.Data.Multiset.DershowitzManna
import NxosExporter.Lib.OpenPool
import NxosExporter.Lib.Transition

/-!
# A pool whose replies lead downwards

Each task has a level, and what follows a reply has lower levels than the task that got it. However many tasks
that are, the steps of the pool itself lower the multiset of the ranks of its tasks: a task is ranked by its level
first and then by how far it is.
-/

namespace Transition

/-- **Termination rule.** A trace that has a descending measure wherever it is short of the goal reaches it. -/
theorem exists_reached {σ β : Type} {rel : β → β → Prop} (hwf : WellFounded rel) (measure : σ → β) (Goal : σ → Prop)
    {trace : Nat → σ} (hstep : ∀ n, Goal (trace n) ∨ rel (measure (trace (n + 1))) (measure (trace n))) :
    ∃ n, Goal (trace n) := by
  induction hmeasure : measure (trace 0) using hwf.induction generalizing trace with
  | h value ih =>
      obtain hgoal | hless := hstep 0
      · exact ⟨0, hgoal⟩
      · have hlater : ∃ n, Goal (trace (n + 1)) :=
          ih (measure (trace 1)) (hmeasure ▸ hless) (fun n => hstep (n + 1)) rfl
        obtain ⟨n, hgoal⟩ := hlater
        exact ⟨n + 1, hgoal⟩

end Transition

namespace WorkPool

/-! ### Ranks -/

section Ranks

variable {old : Nat} {new rest ranks ranks' : Multiset Nat}

/-- A rank gives way to lower ones. -/
theorem ranks_replace_lt (hless : ∀ rank ∈ new, rank < old) : (new + rest).IsDershowitzMannaLT (old ::ₘ rest) := by
  refine ⟨rest, new, {old}, Multiset.singleton_ne_zero old, add_comm new rest, ?_, ?_⟩
  · rw [add_comm, Multiset.singleton_add]
  · intro rank hrank
    exact ⟨old, Multiset.mem_singleton_self old, hless rank hrank⟩

theorem ranks_add_lt (hlt : ranks.IsDershowitzMannaLT ranks') (rest : Multiset Nat) :
    (rest + ranks).IsDershowitzMannaLT (rest + ranks') := by
  obtain ⟨kept, new, old, hold, rfl, rfl, hless⟩ := hlt
  exact ⟨rest + kept, new, old, hold, (add_assoc rest kept new).symm, (add_assoc rest kept old).symm, hless⟩

end Ranks

variable {τ ρ σ : Type} {pool : Pool τ ρ σ} {task : τ} {reply : ρ} {i : Nat} {shared : σ} {tasks rest queue : List τ}
  {level : τ → Nat}

def queuedRank (level : τ → Nat) (task : τ) : Nat := 3 * level task + 2

def entryRank (level : τ → Nat) : τ × Option ρ → Nat
  | (task, none) => 3 * level task + 1
  | (task, some _) => 3 * level task

def Pool.ranks (level : τ → Nat) (pool : Pool τ ρ σ) : Multiset Nat :=
  (pool.queue : Multiset τ).map (queuedRank level)
    + (pool.inFlight : Multiset (τ × Option ρ)).map (entryRank level)

theorem ranks_enqueue : (pool.enqueue tasks).ranks level
    = (tasks : Multiset τ).map (queuedRank level) + pool.ranks level := by
  simp only [Pool.ranks, Pool.enqueue, ← Multiset.coe_add, Multiset.map_add]
  abel

theorem ranks_start_lt (hqueue : pool.queue = task :: rest) :
    ((pool.start task rest).ranks level).IsDershowitzMannaLT (pool.ranks level) := by
  have hbefore : pool.ranks level = (3 * level task + 2) ::ₘ ((rest : Multiset τ).map (queuedRank level)
      + (pool.inFlight : Multiset (τ × Option ρ)).map (entryRank level)) := by
    rw [Pool.ranks, hqueue, ← Multiset.cons_coe, Multiset.map_cons, Multiset.cons_add]
    rfl
  have hafter : (pool.start task rest).ranks level = {3 * level task + 1} + ((rest : Multiset τ).map (queuedRank level)
      + (pool.inFlight : Multiset (τ × Option ρ)).map (entryRank level)) := by
    simp only [Pool.ranks, Pool.start, ← Multiset.cons_coe, Multiset.map_cons, entryRank]
    simp only [← Multiset.singleton_add]
    abel
  rw [hbefore, hafter]
  refine ranks_replace_lt fun rank hrank => ?_
  rw [Multiset.mem_singleton.mp hrank]
  omega

/-- The rank of an entry, and those that stay when it is taken out. -/
theorem ranks_of_entry {entry : τ × Option ρ} (hentry : pool.inFlight[i]? = some entry) :
    pool.ranks level = entryRank level entry ::ₘ ((pool.queue : Multiset τ).map (queuedRank level)
      + (pool.inFlight.eraseIdx i : Multiset (τ × Option ρ)).map (entryRank level)) := by
  rw [Pool.ranks, (coe_of_getElem? hentry).1, Multiset.map_cons, Multiset.add_cons]

theorem ranks_answer_lt (hentry : pool.inFlight[i]? = some (task, none)) :
    ((pool.answer i task reply shared).ranks level).IsDershowitzMannaLT (pool.ranks level) := by
  have hafter : (pool.answer i task reply shared).ranks level = {3 * level task}
      + ((pool.queue : Multiset τ).map (queuedRank level)
        + (pool.inFlight.eraseIdx i : Multiset (τ × Option ρ)).map (entryRank level)) := by
    simp only [Pool.ranks, Pool.answer, (coe_of_getElem? hentry).2, Multiset.map_cons, entryRank]
    simp only [← Multiset.singleton_add]
    abel
  rw [ranks_of_entry hentry, hafter]
  refine ranks_replace_lt fun rank hrank => ?_
  rw [Multiset.mem_singleton.mp hrank]
  exact Nat.lt_succ_self _

/-- What follows the reply is of lower levels. -/
theorem ranks_close_lt (hentry : pool.inFlight[i]? = some (task, some reply))
    (hless : ∀ next ∈ tasks, level next < level task) :
    ((pool.close i tasks).ranks level).IsDershowitzMannaLT (pool.ranks level) := by
  have hafter : (pool.close i tasks).ranks level = (tasks : Multiset τ).map (queuedRank level)
      + ((pool.queue : Multiset τ).map (queuedRank level)
        + (pool.inFlight.eraseIdx i : Multiset (τ × Option ρ)).map (entryRank level)) := by
    simp only [Pool.ranks, Pool.close, ← Multiset.coe_add, Multiset.map_add]
    abel
  rw [ranks_of_entry hentry, hafter]
  refine ranks_replace_lt fun rank hrank => ?_
  obtain ⟨next, hnext, rfl⟩ := Multiset.mem_map.mp hrank
  have hlevel := hless next (Multiset.mem_coe.mp hnext)
  rw [queuedRank, entryRank]
  omega

theorem ranks_drop_lt (hentry : pool.inFlight[i]? = some (task, none)) :
    ((pool.drop i shared).ranks level).IsDershowitzMannaLT (pool.ranks level) := by
  have hafter : (pool.drop i shared).ranks level = 0 + ((pool.queue : Multiset τ).map (queuedRank level)
      + (pool.inFlight.eraseIdx i : Multiset (τ × Option ρ)).map (entryRank level)) := by
    rw [zero_add]
    rfl
  rw [ranks_of_entry hentry, hafter]
  exact ranks_replace_lt fun rank hrank => absurd hrank (Multiset.notMem_zero rank)

end WorkPool
