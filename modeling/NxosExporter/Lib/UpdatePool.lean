import NxosExporter.Lib.UpdateTable
import NxosExporter.Lib.WorkPool

/-!
# Updates carried out by a pool

A task may be a stage of an update of a keyed table: it leads to the next stages, and when none follows the
update is made. Events whose updates name different keys leave the table that their updates describe, in
whatever order the workers run the stages, provided each event is drained before the next.
-/

namespace WorkPool

open Transition UpdateTable

variable {ε τ ρ σ κ : Type}

/-- Where a shared state shows the entries of a table, which tasks are stages of an update, and what has to hold
of the shared state for the stages to work. A task is a stage for one entry only. -/
structure Carrier (τ σ κ : Type) where
  present : σ → κ → Prop
  StageOf : Update κ → τ → Prop
  Inv : σ → Prop
  entry_eq : ∀ {update update' : Update κ} {task : τ}, StageOf update task → StageOf update' task →
    update.entry = update'.entry

namespace Carrier

variable (carrier : Carrier τ σ κ)

/-- What running a stage of an update does. -/
structure Runs (work : Work ε τ ρ σ) (update : Update κ) (task : τ) (shared : σ) : Prop where
  inv : carrier.Inv (work.run task shared)
  follow : ∀ next ∈ work.follow task shared, carrier.StageOf update next
  frame : ∀ key, key ≠ update.entry →
    (carrier.present (work.run task shared) key ↔ carrier.present shared key)
  last : work.follow task shared = 0 →
    (carrier.present (work.run task shared) update.entry ↔ update = .add update.entry)

def Works (work : Work ε τ ρ σ) : Prop :=
  ∀ update task shared, carrier.StageOf update task → carrier.Inv shared →
    carrier.Runs work update task shared

/-- The tasks are first stages of the updates, at least one for each, and the updates name different keys. -/
structure Covers (updates : List (Update κ)) (tasks : List τ) : Prop where
  nodup : (updates.map Update.entry).Nodup
  stages : ∀ task ∈ tasks, ∃ update ∈ updates, carrier.StageOf update task
  covered : ∀ update ∈ updates, ∃ task ∈ tasks, carrier.StageOf update task

theorem covers_singleton {carrier : Carrier τ σ κ} {update : Update κ} {task : τ}
    (hstage : carrier.StageOf update task) : carrier.Covers [update] [task] where
  nodup := List.nodup_singleton _
  stages := List.forall_mem_singleton.mpr ⟨update, List.mem_singleton_self update, hstage⟩
  covered := List.forall_mem_singleton.mpr ⟨task, List.mem_singleton_self task, hstage⟩

theorem Covers.append {carrier : Carrier τ σ κ} {first second : List (Update κ)} {tasks tasks' : List τ}
    (hfirst : carrier.Covers first tasks) (hsecond : carrier.Covers second tasks')
    (hdisjoint : (first.map Update.entry).Disjoint (second.map Update.entry)) :
    carrier.Covers (first ++ second) (tasks ++ tasks') where
  nodup := by
    rw [List.map_append]
    exact hfirst.nodup.append hsecond.nodup hdisjoint
  stages task hmem := by
    obtain htask | htask := List.mem_append.mp hmem
    · obtain ⟨update, hupdate, hstage⟩ := hfirst.stages task htask
      exact ⟨update, List.mem_append_left _ hupdate, hstage⟩
    · obtain ⟨update, hupdate, hstage⟩ := hsecond.stages task htask
      exact ⟨update, List.mem_append_right _ hupdate, hstage⟩
  covered update hmem := by
    obtain hupdate | hupdate := List.mem_append.mp hmem
    · obtain ⟨task, htask, hstage⟩ := hfirst.covered update hupdate
      exact ⟨task, List.mem_append_left _ htask, hstage⟩
    · obtain ⟨task, htask, hstage⟩ := hsecond.covered update hupdate
      exact ⟨task, List.mem_append_right _ htask, hstage⟩

/-- The shared state shows the table. -/
structure Shows (table : Finset κ) (shared : σ) : Prop where
  inv : carrier.Inv shared
  present : ∀ key, carrier.present shared key ↔ key ∈ table

/-- What is left are stages of the updates, and a key without a stage left is as in the table. -/
structure Settling (updates : List (Update κ)) (table : Finset κ) (view : View τ σ) : Prop where
  inv : carrier.Inv view.shared
  stages : ∀ task ∈ view.pending, ∃ update ∈ updates, carrier.StageOf update task
  settled : ∀ key, (∀ update ∈ updates, update.entry = key →
    ∀ task ∈ view.pending, ¬ carrier.StageOf update task) → (carrier.present view.shared key ↔ key ∈ table)

end Carrier

section Steps

variable {carrier : Carrier τ σ κ} {work : Work ε τ ρ σ} {updates : List (Update κ)} {table : Finset κ}
  {view view' : View τ σ} {action : Action ε}

theorem settling_execute (hworks : carrier.Works work)
    (htable : ∀ update ∈ updates, (update.entry ∈ table ↔ update = .add update.entry)) {task : τ}
    {rest : Multiset τ} {shared : σ} (hsettling : carrier.Settling updates table ⟨task ::ₘ rest, shared⟩) :
    carrier.Settling updates table ⟨rest + work.follow task shared, work.run task shared⟩ := by
  obtain ⟨update, hupdate, hstage⟩ := hsettling.stages task (Multiset.mem_cons_self task rest)
  have hruns := hworks update task shared hstage hsettling.inv
  refine ⟨hruns.inv, fun other hmem => ?_, fun key hnone => ?_⟩
  · obtain hrest | hfollow := Multiset.mem_add.mp hmem
    · exact hsettling.stages other (Multiset.mem_cons_of_mem hrest)
    · exact ⟨update, hupdate, hruns.follow other hfollow⟩
  · by_cases hkey : key = update.entry
    · subst hkey
      have hdone : work.follow task shared = 0 := by
        refine Multiset.eq_zero_of_forall_notMem fun next hnext => ?_
        exact hnone update hupdate rfl next (Multiset.mem_add.mpr (.inr hnext)) (hruns.follow next hnext)
      exact (hruns.last hdone).trans (htable update hupdate).symm
    · refine (hruns.frame key hkey).trans (hsettling.settled key ?_)
      intro other hother hentry left hleft hstage'
      obtain rfl | hrest := Multiset.mem_cons.mp hleft
      · exact hkey (hentry.symm.trans (carrier.entry_eq hstage' hstage))
      · exact hnone other hother hentry left (Multiset.mem_add.mpr (.inl hrest)) hstage'

theorem settling_step (hworks : carrier.Works work)
    (htable : ∀ update ∈ updates, (update.entry ∈ table ↔ update = .add update.entry))
    (hpost : action.isPost = false) (hstep : View.Step work view action view')
    (hsettling : carrier.Settling updates table view) : carrier.Settling updates table view' := by
  cases hstep with
  | post event => cases hpost
  | take => exact hsettling
  | execute task rest shared i => exact settling_execute hworks htable hsettling
  | finish => exact hsettling

end Steps

section Runs

variable [DecidableEq κ] {carrier : Carrier τ σ κ} {work : Work ε τ ρ σ} {updates : List (Update κ)}
  {table : Finset κ} {pool pool' : Pool τ ρ σ} {tasks : List τ} {actions : List (Action ε)}

theorem settling_enqueue (hidle : pool.Idle) (hshows : carrier.Shows table pool.shared)
    (hcovers : carrier.Covers updates tasks) :
    carrier.Settling updates (applyAll table updates) ((pool.enqueue tasks).view work) := by
  have hpending : (pool.enqueue tasks).pending work = (tasks : Multiset τ) := by
    rw [pending_enqueue, pending_of_idle hidle, zero_add]
  refine ⟨hshows.inv, fun task hmem => ?_, fun key hnone => ?_⟩
  · rw [Pool.view, hpending] at hmem
    exact hcovers.stages task (Multiset.mem_coe.mp hmem)
  · have hunnamed : ∀ update ∈ updates, key ≠ update.entry := by
      intro update hupdate hkey
      obtain ⟨task, htask, hstage⟩ := hcovers.covered update hupdate
      refine hnone update hupdate hkey.symm task ?_ hstage
      rw [Pool.view, hpending]
      exact Multiset.mem_coe.mpr htask
    rw [mem_applyAll_of_forall_ne hunnamed]
    exact hshows.present key

/-- **One event.** However the workers run the stages, the drained pool shows the updated table. -/
theorem shows_of_draining (hworks : carrier.Works work) (hidle : pool.Idle)
    (hshows : carrier.Shows table pool.shared) (hcovers : carrier.Covers updates tasks)
    (hdraining : Draining work (pool.enqueue tasks) actions pool') (hidle' : pool'.Idle) :
    carrier.Shows (applyAll table updates) pool'.shared := by
  have htable : ∀ update ∈ updates,
      (update.entry ∈ applyAll table updates ↔ update = .add update.entry) :=
    fun update hupdate => mem_applyAll_of_nodup hcovers.nodup hupdate table
  have hsettling : carrier.Settling updates (applyAll table updates) (pool'.view work) :=
    view_invariant (carrier.Settling updates (applyAll table updates)) hdraining
      (settling_enqueue hidle hshows hcovers) fun _ _ _ hpost hstep => settling_step hworks htable hpost hstep
  refine ⟨hsettling.inv, fun key => hsettling.settled key fun update _ _ task hmem => ?_⟩
  rw [Pool.view, pending_of_idle hidle'] at hmem
  exact absurd hmem (Multiset.notMem_zero task)

/-- Events one after the other: each is posted to the idle pool, and the pool is drained before the next. -/
inductive Sequential (work : Work ε τ ρ σ) : Pool τ ρ σ → List ε → Pool τ ρ σ → Prop
  | nil (pool : Pool τ ρ σ) : Sequential work pool [] pool
  | snoc {pool mid last : Pool τ ρ σ} {events : List ε} {event : ε} {actions : List (Action ε)}
      (hrun : Sequential work pool events mid)
      (hdraining : Draining work (mid.enqueue (work.posted event)) actions last) (hidle : last.Idle) :
      Sequential work pool (events ++ [event]) last

/-- **Run rule.** After every event the pool shows the table that the updates so far describe. -/
theorem Sequential.shows {events : List ε} {updatesOf : ε → List (Update κ)} (hworks : carrier.Works work)
    (hidle : pool.Idle) (hshows : carrier.Shows table pool.shared) (hrun : Sequential work pool events pool')
    (hcovers : ∀ event ∈ events, carrier.Covers (updatesOf event) (work.posted event)) :
    pool'.Idle ∧ carrier.Shows (applyAll table (events.flatMap updatesOf)) pool'.shared := by
  induction hrun with
  | nil => exact ⟨hidle, hshows⟩
  | @snoc mid last events event actions hrun hdraining hlast ih =>
      obtain ⟨hpast, hevent⟩ := List.forall_mem_append.mp hcovers
      obtain ⟨hmid, hshows⟩ := ih hpast
      refine ⟨hlast, ?_⟩
      rw [List.flatMap_append, applyAll_append, List.flatMap_singleton]
      exact shows_of_draining hworks hmid hshows (hevent event (List.mem_singleton_self event)) hdraining hlast

/-- Every sequence of events has such a run. -/
theorem exists_sequential {stages : τ → Nat} (hstaged : work.Staged stages) (hsize : 0 < pool.size)
    (events : List ε) : ∃ pool', Sequential work pool events pool' ∧ 0 < pool'.size := by
  induction events using List.reverseRecOn with
  | nil => exact ⟨pool, .nil pool, hsize⟩
  | append_singleton events event ih =>
      obtain ⟨mid, hrun, hmid⟩ := ih
      have henqueued : 0 < (mid.enqueue (work.posted event)).size := hmid
      obtain ⟨actions, last, hdraining, hidle⟩ := exists_draining_idle hstaged henqueued
      have hsame : last.size = (mid.enqueue (work.posted event)).size :=
        hdraining.invariant (fun pool => pool.size = (mid.enqueue (work.posted event)).size) rfl
          fun _ _ _ _ hstep hsize => (size_of_step hstep).trans hsize
      exact ⟨last, .snoc hrun hdraining hidle, hsame ▸ henqueued⟩

end Runs

end WorkPool
