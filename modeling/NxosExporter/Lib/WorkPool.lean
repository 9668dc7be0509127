import Mathlib.Data.List.Perm.Basic
import Mathlib.Data.Multiset.Bind
import Mathlib.Algebra.BigOperators.Group.Multiset.Basic
import Mathlib.Tactic.Abel
import NxosExporter.Lib.Transition

/-!
# A pool of workers over one queue

Tasks wait in a queue. A free worker takes the first of them, runs it on the shared state, and when it has
the reply puts the tasks that follow at the end of the queue. Seen from outside, a pool is the multiset of
the tasks that have yet to run and the shared state: taking and finishing a task change nothing there, and
running one may pick any of them. A pool that gets no new tasks can always be drained, and with a second
worker any one task can be made the last to run.
-/

namespace WorkPool

open Transition

structure Work (ε τ ρ σ : Type) where
  posted : ε → List τ
  run : τ → σ → σ
  reply : τ → σ → ρ
  next : τ → ρ → List τ

/-- A task is in flight from the moment a worker takes it; it has a reply from the moment it ran. -/
structure Pool (τ ρ σ : Type) where
  size : Nat
  queue : List τ
  inFlight : List (τ × Option ρ)
  shared : σ
  deriving DecidableEq

inductive Action (ε : Type) where
  | post (event : ε)
  | take
  | execute (i : Nat)
  | finish (i : Nat)
  deriving DecidableEq, Repr

variable {ε τ ρ σ : Type}

def Action.isPost : Action ε → Bool
  | post _ => true
  | take | execute _ | finish _ => false

namespace Pool

def enqueue (pool : Pool τ ρ σ) (tasks : List τ) : Pool τ ρ σ :=
  { pool with queue := pool.queue ++ tasks }

def start (pool : Pool τ ρ σ) (task : τ) (rest : List τ) : Pool τ ρ σ :=
  { pool with queue := rest, inFlight := (task, none) :: pool.inFlight }

def execute (work : Work ε τ ρ σ) (pool : Pool τ ρ σ) (i : Nat) (task : τ) : Pool τ ρ σ :=
  let shared := work.run task pool.shared
  { pool with inFlight := pool.inFlight.set i (task, some (work.reply task shared)), shared := shared }

def finish (work : Work ε τ ρ σ) (pool : Pool τ ρ σ) (i : Nat) (task : τ) (reply : ρ) : Pool τ ρ σ :=
  { pool with queue := pool.queue ++ work.next task reply, inFlight := pool.inFlight.eraseIdx i }

def step (work : Work ε τ ρ σ) (pool : Pool τ ρ σ) : Action ε → Option (Pool τ ρ σ)
  | .post event => some (pool.enqueue (work.posted event))
  | .take =>
      match pool.queue with
      | task :: rest => if pool.inFlight.length < pool.size then some (pool.start task rest) else none
      | [] => none
  | .execute i =>
      match pool.inFlight[i]? with
      | some (task, none) => some (pool.execute work i task)
      | _ => none
  | .finish i =>
      match pool.inFlight[i]? with
      | some (task, some reply) => some (pool.finish work i task reply)
      | _ => none

def Idle (pool : Pool τ ρ σ) : Prop := pool.queue = [] ∧ pool.inFlight = []

end Pool

variable {work : Work ε τ ρ σ} {pool pool' : Pool τ ρ σ} {action : Action ε} {i : Nat} {task : τ}
  {reply : ρ}

/-- **Inversion.** What a step can do. -/
theorem step_cases (hstep : pool.step work action = some pool') :
    (∃ event, action = .post event ∧ pool' = pool.enqueue (work.posted event)) ∨
    (∃ task rest, action = .take ∧ pool.queue = task :: rest ∧ pool' = pool.start task rest) ∨
    (∃ i task, action = .execute i ∧ pool.inFlight[i]? = some (task, none) ∧
      pool' = pool.execute work i task) ∨
    ∃ i task reply, action = .finish i ∧ pool.inFlight[i]? = some (task, some reply) ∧
      pool' = pool.finish work i task reply := by
  cases action with
  | post event => exact .inl ⟨event, rfl, (Option.some.inj hstep).symm⟩
  | take =>
      simp only [Pool.step] at hstep
      cases hqueue : pool.queue with
      | nil => simp [hqueue] at hstep
      | cons task rest =>
          simp only [hqueue, Option.ite_none_right_eq_some, Option.some.injEq] at hstep
          exact .inr (.inl ⟨task, rest, rfl, rfl, hstep.2.symm⟩)
  | execute i =>
      simp only [Pool.step] at hstep
      split at hstep
      · rename_i task hentry
        exact .inr (.inr (.inl ⟨i, task, rfl, hentry, (Option.some.inj hstep).symm⟩))
      · cases hstep
  | finish i =>
      simp only [Pool.step] at hstep
      split at hstep
      · rename_i task reply hentry
        exact .inr (.inr (.inr ⟨i, task, reply, rfl, hentry, (Option.some.inj hstep).symm⟩))
      · cases hstep

theorem size_of_step (hstep : pool.step work action = some pool') : pool'.size = pool.size := by
  obtain ⟨_, -, rfl⟩ | ⟨_, _, -, -, rfl⟩ | ⟨_, _, -, -, rfl⟩ | ⟨_, _, _, -, -, rfl⟩ := step_cases hstep
  all_goals rfl

/-! ### The view from outside -/

structure View (τ σ : Type) where
  pending : Multiset τ
  shared : σ

/-- What a task in flight has yet to run. -/
def Work.left (work : Work ε τ ρ σ) : τ × Option ρ → Multiset τ
  | (task, none) => {task}
  | (task, some reply) => work.next task reply

def Pool.pending (work : Work ε τ ρ σ) (pool : Pool τ ρ σ) : Multiset τ :=
  pool.queue + (pool.inFlight : Multiset (τ × Option ρ)).bind work.left

def Pool.view (work : Work ε τ ρ σ) (pool : Pool τ ρ σ) : View τ σ := ⟨pool.pending work, pool.shared⟩

def Work.follow (work : Work ε τ ρ σ) (task : τ) (shared : σ) : Multiset τ :=
  work.next task (work.reply task (work.run task shared))

inductive View.Step (work : Work ε τ ρ σ) : View τ σ → Action ε → View τ σ → Prop
  | post (view : View τ σ) (event : ε) :
      Step work view (.post event) ⟨view.pending + (work.posted event : Multiset τ), view.shared⟩
  | take (view : View τ σ) : Step work view .take view
  | execute (task : τ) (rest : Multiset τ) (shared : σ) (i : Nat) :
      Step work ⟨task ::ₘ rest, shared⟩ (.execute i) ⟨rest + work.follow task shared, work.run task shared⟩
  | finish (view : View τ σ) (i : Nat) : Step work view (.finish i) view

/-- The entry at an index, taken out of a list or replaced there, as multisets. -/
theorem coe_of_getElem? {α : Type} {items : List α} {item : α} (hitem : items[i]? = some item) :
    (items : Multiset α) = item ::ₘ (items.eraseIdx i : Multiset α) ∧
      ∀ item', (items.set i item' : Multiset α) = item' ::ₘ (items.eraseIdx i : Multiset α) := by
  obtain ⟨hlength, rfl⟩ := List.getElem?_eq_some_iff.mp hitem
  exact ⟨(Multiset.coe_eq_coe.mpr (List.getElem_cons_eraseIdx_perm hlength)).symm,
    fun item' => Multiset.coe_eq_coe.mpr (List.set_perm_cons_eraseIdx hlength item')⟩

theorem pending_enqueue (tasks : List τ) :
    (pool.enqueue tasks).pending work = pool.pending work + (tasks : Multiset τ) := by
  simp only [Pool.pending, Pool.enqueue, ← Multiset.coe_add]
  abel

theorem pending_start {rest : List τ} (hqueue : pool.queue = task :: rest) :
    (pool.start task rest).pending work = pool.pending work := by
  simp only [Pool.pending, Pool.start, hqueue, ← Multiset.cons_coe, Multiset.cons_bind, Work.left]
  simp only [← Multiset.singleton_add]
  abel

variable (work) in
theorem pending_execute (hentry : pool.inFlight[i]? = some (task, none)) :
    ∃ rest, pool.pending work = task ::ₘ rest ∧
      (pool.execute work i task).pending work = rest + work.follow task pool.shared := by
  obtain ⟨hbefore, hafter⟩ := coe_of_getElem? hentry
  refine ⟨pool.queue + (pool.inFlight.eraseIdx i : Multiset (τ × Option ρ)).bind work.left, ?_, ?_⟩
  · simp only [Pool.pending, hbefore, Multiset.cons_bind, Work.left]
    simp only [← Multiset.singleton_add]
    abel
  · simp only [Pool.pending, Pool.execute, hafter, Multiset.cons_bind, Work.left, Work.follow]
    abel

theorem pending_finish (hentry : pool.inFlight[i]? = some (task, some reply)) :
    (pool.finish work i task reply).pending work = pool.pending work := by
  simp only [Pool.pending, Pool.finish, (coe_of_getElem? hentry).1, Multiset.cons_bind, Work.left,
    ← Multiset.coe_add]
  abel

theorem pending_of_idle (hidle : pool.Idle) : pool.pending work = 0 := by
  obtain ⟨hqueue, hinFlight⟩ := hidle
  simp [Pool.pending, hqueue, hinFlight]

/-- **Refinement.** A step of a pool is a step of its view. -/
theorem view_step (hstep : pool.step work action = some pool') :
    View.Step work (pool.view work) action (pool'.view work) := by
  obtain ⟨event, rfl, rfl⟩ | ⟨task, rest, rfl, hqueue, rfl⟩ | ⟨i, task, rfl, hentry, rfl⟩ |
    ⟨i, task, reply, rfl, hentry, rfl⟩ := step_cases hstep
  · rw [Pool.view, Pool.view, pending_enqueue]
    exact .post ⟨_, _⟩ event
  · rw [Pool.view, Pool.view, pending_start hqueue]
    exact .take _
  · obtain ⟨rest, hbefore, hafter⟩ := pending_execute work hentry
    rw [Pool.view, Pool.view, hbefore, hafter]
    exact .execute task rest pool.shared i
  · rw [Pool.view, Pool.view, pending_finish hentry]
    exact .finish _ i

/-- **Run rule.** What the steps of the view preserve, the runs of the pool preserve. -/
theorem view_invariant {ok : Pool τ ρ σ → Action ε → Prop} {actions : List (Action ε)}
    (Inv : View τ σ → Prop) (hrun : RunWhere (Pool.step work) ok pool actions pool')
    (hinit : Inv (pool.view work))
    (hstep : ∀ mid action view, ok mid action → View.Step work (mid.view work) action view →
      Inv (mid.view work) → Inv view) : Inv (pool'.view work) :=
  hrun.invariant (fun mid => Inv (mid.view work)) hinit fun mid action last hok hlast =>
    hstep mid action (last.view work) hok (view_step hlast)

/-! ### Progress -/

section Progress

variable {stages : τ → Nat}

def remaining (stages : τ → Nat) (tasks : List τ) : Nat := (tasks.map stages).sum

def Work.Staged (work : Work ε τ ρ σ) (stages : τ → Nat) : Prop :=
  ∀ task reply, remaining stages (work.next task reply) < stages task

/-- Each stage takes three steps: to take the task, to run it and to finish it. -/
def Work.entryEffort (work : Work ε τ ρ σ) (stages : τ → Nat) : τ × Option ρ → Nat
  | (task, none) => 3 * stages task - 1
  | (task, some reply) => 3 * remaining stages (work.next task reply) + 1

def Pool.effort (work : Work ε τ ρ σ) (stages : τ → Nat) (pool : Pool τ ρ σ) : Nat :=
  3 * remaining stages pool.queue
    + ((pool.inFlight : Multiset (τ × Option ρ)).map (work.entryEffort stages)).sum

theorem Work.Staged.pos (hstaged : work.Staged stages) (task : τ) (shared : σ) : 0 < stages task :=
  Nat.zero_lt_of_lt (hstaged task (work.reply task shared))

theorem effort_start_lt (hstaged : work.Staged stages) {rest : List τ}
    (hqueue : pool.queue = task :: rest) :
    (pool.start task rest).effort work stages < pool.effort work stages := by
  have hpos := hstaged.pos task pool.shared
  simp only [Pool.effort, Pool.start, hqueue, remaining, List.map_cons, List.sum_cons, ← Multiset.cons_coe,
    Multiset.map_cons, Multiset.sum_cons, Work.entryEffort]
  omega

theorem effort_execute_lt (hstaged : work.Staged stages) (hentry : pool.inFlight[i]? = some (task, none)) :
    (pool.execute work i task).effort work stages < pool.effort work stages := by
  obtain ⟨hbefore, hafter⟩ := coe_of_getElem? hentry
  have hless := hstaged task (work.reply task (work.run task pool.shared))
  simp only [Pool.effort, Pool.execute, hbefore, hafter, Multiset.map_cons, Multiset.sum_cons,
    Work.entryEffort]
  omega

theorem effort_finish_lt (hentry : pool.inFlight[i]? = some (task, some reply)) :
    (pool.finish work i task reply).effort work stages < pool.effort work stages := by
  simp only [Pool.effort, Pool.finish, (coe_of_getElem? hentry).1, remaining, List.map_append,
    List.sum_append, Multiset.map_cons, Multiset.sum_cons, Work.entryEffort]
  omega

abbrev Draining (work : Work ε τ ρ σ) (pool : Pool τ ρ σ) (actions : List (Action ε)) (pool' : Pool τ ρ σ) :
    Prop :=
  RunWhere (Pool.step work) (fun _ action => action.isPost = false) pool actions pool'

inductive Pool.Advances (work : Work ε τ ρ σ) (stages : τ → Nat) (pool pool' : Pool τ ρ σ) : Prop
  | mk (action : Action ε) (hpost : action.isPost = false) (hstep : pool.step work action = some pool')
      (hless : pool'.effort work stages < pool.effort work stages)

theorem advances_start (hstaged : work.Staged stages) {rest : List τ} (hqueue : pool.queue = task :: rest)
    (hfree : pool.inFlight.length < pool.size) : pool.Advances work stages (pool.start task rest) :=
  ⟨.take, rfl, by simp [Pool.step, hqueue, hfree], effort_start_lt hstaged hqueue⟩

theorem advances_execute (hstaged : work.Staged stages) (hentry : pool.inFlight[i]? = some (task, none)) :
    pool.Advances work stages (pool.execute work i task) :=
  ⟨.execute i, rfl, by simp [Pool.step, hentry], effort_execute_lt hstaged hentry⟩

theorem advances_finish (hentry : pool.inFlight[i]? = some (task, some reply)) :
    pool.Advances work stages (pool.finish work i task reply) :=
  ⟨.finish i, rfl, by simp [Pool.step, hentry], effort_finish_lt hentry⟩

variable (work stages) in
theorem exists_draining (Inv Goal : Pool τ ρ σ → Prop)
    (hadvance : ∀ pool, Inv pool → Goal pool ∨ ∃ pool', Inv pool' ∧ pool.Advances work stages pool')
    (hinit : Inv pool) :
    ∃ actions pool', Draining work pool actions pool' ∧ Inv pool' ∧ Goal pool' := by
  refine exists_run_of_progress Inv Goal (Pool.effort work stages) (fun mid hmid => ?_) hinit
  refine (hadvance mid hmid).imp_right ?_
  rintro ⟨next, hnext, action, hpost, hstep, hless⟩
  exact ⟨action, next, hpost, hstep, hnext, hless⟩

theorem idle_or_advances (hstaged : work.Staged stages) (hsize : 0 < pool.size) :
    pool.Idle ∨ ∃ pool', pool'.size = pool.size ∧ pool.Advances work stages pool' := by
  cases hinFlight : pool.inFlight with
  | cons entry entries =>
      obtain ⟨task, _ | reply⟩ := entry
      · have hentry : pool.inFlight[0]? = some (task, none) := by simp [hinFlight]
        exact .inr ⟨pool.execute work 0 task, rfl, advances_execute hstaged hentry⟩
      · have hentry : pool.inFlight[0]? = some (task, some reply) := by simp [hinFlight]
        exact .inr ⟨pool.finish work 0 task reply, rfl, advances_finish hentry⟩
  | nil =>
      cases hqueue : pool.queue with
      | cons task rest =>
          have hfree : pool.inFlight.length < pool.size := by simpa [hinFlight] using hsize
          exact .inr ⟨pool.start task rest, rfl, advances_start hstaged hqueue hfree⟩
      | nil => exact .inl ⟨hqueue, hinFlight⟩

theorem exists_draining_idle (hstaged : work.Staged stages) (hsize : 0 < pool.size) :
    ∃ actions pool', Draining work pool actions pool' ∧ pool'.Idle := by
  obtain ⟨actions, pool', hrun, -, hidle⟩ :=
    exists_draining work stages (fun mid => 0 < mid.size) Pool.Idle
      (fun mid hmid => (idle_or_advances hstaged hmid).imp_right fun ⟨next, hnext, hadvances⟩ =>
        ⟨next, hnext ▸ hmid, hadvances⟩) hsize
  exact ⟨actions, pool', hrun, hidle⟩

theorem length_inFlight_le_one
    (hlast : ∀ entry ∈ pool.inFlight,
      entry = (task, none) ∧ ∃ rest, pool.pending work = task ::ₘ rest ∧ task ∉ rest) :
    pool.inFlight.length ≤ 1 := by
  match hinFlight : pool.inFlight with
  | [] => exact Nat.zero_le 1
  | [_] => exact Nat.le_refl 1
  | first :: second :: entries =>
      obtain ⟨rfl, rest, hpending, hnot⟩ := hlast first (by simp [hinFlight])
      obtain ⟨rfl, -⟩ := hlast second (by simp [hinFlight])
      have htwice : pool.pending work
          = task ::ₘ task ::ₘ (pool.queue + (entries : Multiset (τ × Option ρ)).bind work.left) := by
        simp only [Pool.pending, hinFlight, ← Multiset.cons_coe, Multiset.cons_bind, Work.left]
        simp only [← Multiset.singleton_add]
        abel
      rw [hpending, Multiset.cons_inj_right] at htwice
      exact absurd (htwice ▸ Multiset.mem_cons_self _ _) hnot

/-- While another task is pending, a pool with two workers can advance and keep `task` pending: it finishes
what has run, runs a task other than this one, or takes the next one. -/
theorem pending_eq_or_advances (hstaged : work.Staged stages) (hsize : 2 ≤ pool.size)
    (hmem : task ∈ pool.pending work) :
    pool.pending work = {task} ∨ ∃ pool', task ∈ pool'.pending work ∧ pool'.size = pool.size ∧
      pool.Advances work stages pool' := by
  by_cases hran : ∃ (i : Nat) (other : τ) (reply : ρ), pool.inFlight[i]? = some (other, some reply)
  · obtain ⟨i, other, reply, hentry⟩ := hran
    exact .inr ⟨pool.finish work i other reply, by rwa [pending_finish hentry], rfl, advances_finish hentry⟩
  · by_cases hother : ∃ (i : Nat) (other : τ), pool.inFlight[i]? = some (other, none) ∧
        ∀ rest, pool.pending work = other ::ₘ rest → task ∈ rest
    · obtain ⟨i, other, hentry, hkept⟩ := hother
      obtain ⟨rest, hbefore, hafter⟩ := pending_execute work hentry
      refine .inr ⟨pool.execute work i other, ?_, rfl, advances_execute hstaged hentry⟩
      rw [hafter]
      exact Multiset.mem_add.mpr (.inl (hkept rest hbefore))
    · push Not at hran hother
      have hlast : ∀ entry ∈ pool.inFlight,
          entry = (task, none) ∧ ∃ rest, pool.pending work = task ::ₘ rest ∧ task ∉ rest := by
        rintro ⟨other, _ | reply⟩ hentry
        · obtain ⟨i, hi⟩ := List.mem_iff_getElem?.mp hentry
          obtain ⟨rest, hpending, hnot⟩ := hother i other hi
          obtain rfl : task = other := by
            rw [hpending, Multiset.mem_cons] at hmem
            exact hmem.resolve_right hnot
          exact ⟨rfl, rest, hpending, hnot⟩
        · obtain ⟨i, hi⟩ := List.mem_iff_getElem?.mp hentry
          exact absurd hi (hran i other reply)
      have hlength := length_inFlight_le_one hlast
      cases hqueue : pool.queue with
      | cons first rest =>
          refine .inr ⟨pool.start first rest, by rwa [pending_start hqueue], rfl, ?_⟩
          exact advances_start hstaged hqueue (by omega)
      | nil =>
          -- only the stalled task is left
          match hinFlight : pool.inFlight with
          | [] => simp [Pool.pending, hqueue, hinFlight] at hmem
          | [entry] =>
              obtain ⟨rfl, -⟩ := hlast entry (by simp [hinFlight])
              exact .inl (by simp [Pool.pending, hqueue, hinFlight, Work.left])
          | _ :: _ :: _ => simp [hinFlight] at hlength

/-- **Stalling.** A pool with two workers can be drained down to any one of its pending tasks. -/
theorem exists_draining_last (hstaged : work.Staged stages) (hsize : 2 ≤ pool.size)
    (hmem : task ∈ pool.pending work) :
    ∃ actions pool', Draining work pool actions pool' ∧ pool'.size = pool.size ∧
      pool'.pending work = {task} := by
  obtain ⟨actions, pool', hrun, hinv, hlast⟩ :=
    exists_draining work stages (fun mid => mid.size = pool.size ∧ task ∈ mid.pending work)
      (fun mid => mid.pending work = {task}) (fun mid ⟨hmid, hpending⟩ =>
        (pending_eq_or_advances hstaged (hmid ▸ hsize) hpending).imp_right
          fun ⟨next, hnext, hsame, hadvances⟩ => ⟨next, ⟨hsame.trans hmid, hnext⟩, hadvances⟩)
      ⟨rfl, hmem⟩
  exact ⟨actions, pool', hrun, hinv.1, hlast⟩

end Progress

end WorkPool
