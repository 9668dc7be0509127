import NxosExporter.Lib.UpdatePool

/-!
# Updates that overlap

Events are posted while the stages of earlier ones are still on their way, as long as none of these is a stage
of an update of the same key. Then every stage on its way belongs to the last update of its key, and a key
without one is already as the updates so far describe it.
-/

namespace WorkPool

open Transition UpdateTable

variable {ε τ ρ σ κ : Type}

/-- The updates that the posted events ask for, in the order of the posts. -/
def postedUpdates (updatesOf : ε → List (Update κ)) (actions : List (Action ε)) : List (Update κ) :=
  actions.flatMap fun
    | .post event => updatesOf event
    | .take | .execute _ | .finish _ => []

namespace Carrier

variable (carrier : Carrier τ σ κ)

/-- No task on its way is a stage of an update of one of the keys. -/
def Apart (updates : List (Update κ)) (view : View τ σ) : Prop :=
  ∀ task ∈ view.pending, ∀ update, carrier.StageOf update task → ∀ other ∈ updates, other.entry ≠ update.entry

/-- An event comes only while nothing is on its way for its keys. -/
def Separate (work : Work ε τ ρ σ) (updatesOf : ε → List (Update κ)) (pool : Pool τ ρ σ) : Action ε → Prop
  | .post event =>
      carrier.Covers (updatesOf event) (work.posted event) ∧ carrier.Apart (updatesOf event) (pool.view work)
  | .take | .execute _ | .finish _ => True

/-- What is left are stages of the last update of their key, and a key without a stage left is as in the
table. -/
structure Tracking [DecidableEq κ] (updates : List (Update κ)) (table : Finset κ) (view : View τ σ) : Prop where
  inv : carrier.Inv view.shared
  stages : ∀ task ∈ view.pending, ∃ update, carrier.StageOf update task ∧
    lastUpdate updates update.entry = some update
  settled : ∀ key, (∀ task ∈ view.pending, ∀ update, carrier.StageOf update task → update.entry ≠ key) →
    (carrier.present view.shared key ↔ key ∈ applyAll table updates)

end Carrier

variable [DecidableEq κ] {carrier : Carrier τ σ κ} {work : Work ε τ ρ σ} {updatesOf : ε → List (Update κ)}
  {updates past : List (Update κ)} {table : Finset κ} {view view' : View τ σ} {pool pool' : Pool τ ρ σ}
  {tasks : List τ} {action : Action ε} {actions : List (Action ε)}

theorem tracking_of_idle (hidle : pool.Idle) (hshows : carrier.Shows table pool.shared) :
    carrier.Tracking [] table (pool.view work) := by
  have hpending : (pool.view work).pending = 0 := pending_of_idle hidle
  refine ⟨hshows.inv, fun task hmem => ?_, fun key _ => hshows.present key⟩
  rw [hpending] at hmem
  exact absurd hmem (Multiset.notMem_zero task)

theorem tracking_post (hcovers : carrier.Covers updates tasks) (hapart : carrier.Apart updates view)
    (htracking : carrier.Tracking past table view) :
    carrier.Tracking (past ++ updates) table ⟨view.pending + (tasks : Multiset τ), view.shared⟩ := by
  refine ⟨htracking.inv, fun task hmem => ?_, fun key hnone => ?_⟩
  · obtain hpending | hposted := Multiset.mem_add.mp hmem
    · obtain ⟨update, hstage, hlast⟩ := htracking.stages task hpending
      refine ⟨update, hstage, ?_⟩
      rw [lastUpdate_append_of_forall_ne (hapart task hpending update hstage), hlast]
    · obtain ⟨update, hupdate, hstage⟩ := hcovers.stages task (Multiset.mem_coe.mp hposted)
      exact ⟨update, hstage, lastUpdate_append_of_nodup hcovers.nodup hupdate past⟩
  · -- Each new update has a stage on its way, so the key is one of the others.
    have hunnamed : ∀ update ∈ updates, key ≠ update.entry := by
      intro update hupdate hkey
      obtain ⟨task, htask, hstage⟩ := hcovers.covered update hupdate
      exact hnone task (Multiset.mem_add.mpr (.inr (Multiset.mem_coe.mpr htask))) update hstage hkey.symm
    rw [applyAll_append, mem_applyAll_of_forall_ne hunnamed]
    exact htracking.settled key fun task hpending => hnone task (Multiset.mem_add.mpr (.inl hpending))

theorem tracking_execute (hworks : carrier.Works work) {task : τ} {rest : Multiset τ} {shared : σ}
    (htracking : carrier.Tracking updates table ⟨task ::ₘ rest, shared⟩) :
    carrier.Tracking updates table ⟨rest + work.follow task shared, work.run task shared⟩ := by
  obtain ⟨update, hstage, hlast⟩ := htracking.stages task (Multiset.mem_cons_self task rest)
  have hruns := hworks update task shared hstage htracking.inv
  refine ⟨hruns.inv, fun other hmem => ?_, fun key hnone => ?_⟩
  · obtain hrest | hfollow := Multiset.mem_add.mp hmem
    · exact htracking.stages other (Multiset.mem_cons_of_mem hrest)
    · exact ⟨update, hruns.follow other hfollow, hlast⟩
  · by_cases hkey : key = update.entry
    · subst hkey
      have hdone : work.follow task shared = 0 := by
        refine Multiset.eq_zero_of_forall_notMem fun next hnext => ?_
        exact hnone next (Multiset.mem_add.mpr (.inr hnext)) update (hruns.follow next hnext) rfl
      rw [mem_applyAll_iff, hlast]
      exact hruns.last hdone
    · refine (hruns.frame key hkey).trans (htracking.settled key ?_)
      intro left hleft other hother hentry
      obtain rfl | hrest := Multiset.mem_cons.mp hleft
      · exact hkey (hentry.symm.trans (carrier.entry_eq hother hstage))
      · exact hnone left (Multiset.mem_add.mpr (.inl hrest)) other hother hentry

theorem tracking_step (hworks : carrier.Works work) (hseparate : carrier.Separate work updatesOf pool action)
    (hstep : View.Step work (pool.view work) action view')
    (htracking : carrier.Tracking past table (pool.view work)) :
    carrier.Tracking (past ++ postedUpdates updatesOf [action]) table view' := by
  generalize hview : pool.view work = view at hstep htracking
  cases hstep with
  | post event =>
      obtain ⟨hcovers, hapart⟩ := hseparate
      rw [postedUpdates, List.flatMap_singleton]
      exact tracking_post hcovers (hview ▸ hapart) htracking
  | take =>
      rw [postedUpdates, List.flatMap_singleton, List.append_nil]
      exact htracking
  | execute task rest shared i =>
      rw [postedUpdates, List.flatMap_singleton, List.append_nil]
      exact tracking_execute hworks htracking
  | finish =>
      rw [postedUpdates, List.flatMap_singleton, List.append_nil]
      exact htracking

/-- **Run rule.** However posts and workers interleave, the pool tracks the updates posted so far. -/
theorem tracking_run (hworks : carrier.Works work) (hidle : pool.Idle)
    (hshows : carrier.Shows table pool.shared)
    (hrun : RunWhere (Pool.step work) (carrier.Separate work updatesOf) pool actions pool') :
    carrier.Tracking (postedUpdates updatesOf actions) table (pool'.view work) := by
  have hinit : carrier.Tracking (postedUpdates updatesOf []) table (pool.view work) :=
    tracking_of_idle hidle hshows
  refine hrun.invariant_trace
    (fun past mid => carrier.Tracking (postedUpdates updatesOf past) table (mid.view work)) hinit
    fun past mid action last hseparate hstep htracking => ?_
  rw [postedUpdates, List.flatMap_append]
  exact tracking_step hworks hseparate (view_step hstep) htracking

end WorkPool
