import NxosExporter.Lib.WorkPool

/-!
# A pool whose tasks are answered from outside

The environment chooses the reply of a task and what the task does to the shared state, and whoever drives the
pool chooses what follows a reply. Four views of the tasks in such a pool are kept by every operation:
what all of them satisfy, whether one of a kind is on its way, which of them have yet to run, and which have been
answered.
-/

namespace WorkPool

theorem exists_getElem?_of_coe {α : Type} {items : List α} {item : α} {others : Multiset α}
    (hitems : (items : Multiset α) = item ::ₘ others) :
    ∃ i, items[i]? = some item ∧ (items.eraseIdx i : Multiset α) = others := by
  have hmem : item ∈ items := Multiset.mem_coe.mp (hitems ▸ Multiset.mem_cons_self item others)
  obtain ⟨i, hget⟩ := List.mem_iff_getElem?.mp hmem
  exact ⟨i, hget, (Multiset.cons_inj_right item).mp ((coe_of_getElem? hget).1.symm.trans hitems)⟩

variable {τ ρ σ : Type}

/-- Task `i` ran and was answered; the environment has made the shared state what it is now. -/
def Pool.answer (pool : Pool τ ρ σ) (i : Nat) (task : τ) (reply : ρ) (shared : σ) : Pool τ ρ σ :=
  { pool with inFlight := pool.inFlight.set i (task, some reply), shared := shared }

def Pool.close (pool : Pool τ ρ σ) (i : Nat) (tasks : List τ) : Pool τ ρ σ :=
  { pool with queue := pool.queue ++ tasks, inFlight := pool.inFlight.eraseIdx i }

/-- Task `i` ran and gets no reply. -/
def Pool.drop (pool : Pool τ ρ σ) (i : Nat) (shared : σ) : Pool τ ρ σ :=
  { pool with inFlight := pool.inFlight.eraseIdx i, shared := shared }

def Pool.disturb (pool : Pool τ ρ σ) (shared : σ) : Pool τ ρ σ := { pool with shared := shared }

def Pool.reorder (pool : Pool τ ρ σ) (queue : List τ) : Pool τ ρ σ := { pool with queue := queue }

variable {pool : Pool τ ρ σ} {left left' : τ → Prop} {answered answered' : τ → ρ → Prop} {task : τ} {reply : ρ}
  {i : Nat} {shared : σ} {tasks rest queue : List τ}

@[simp]
theorem Pool.enqueue_shared : (pool.enqueue tasks).shared = pool.shared := rfl

@[simp]
theorem Pool.start_shared : (pool.start task rest).shared = pool.shared := rfl

@[simp]
theorem Pool.answer_shared : (pool.answer i task reply shared).shared = shared := rfl

@[simp]
theorem Pool.close_shared : (pool.close i tasks).shared = pool.shared := rfl

@[simp]
theorem Pool.drop_shared : (pool.drop i shared).shared = shared := rfl

@[simp]
theorem Pool.disturb_shared : (pool.disturb shared).shared = shared := rfl

@[simp]
theorem Pool.reorder_shared : (pool.reorder queue).shared = pool.shared := rfl

theorem eq_or_mem_eraseIdx {α : Type} {items : List α} {item other : α} (hitem : items[i]? = some item)
    (hmem : other ∈ items) : other = item ∨ other ∈ items.eraseIdx i := by
  obtain ⟨hlength, rfl⟩ := List.getElem?_eq_some_iff.mp hitem
  have hperm := List.getElem_cons_eraseIdx_perm hlength
  exact List.mem_cons.mp (hperm.mem_iff.mpr hmem)

theorem mem_set_of_mem_eraseIdx {α : Type} {items : List α} {item other : α} (hitem : items[i]? = some item)
    (item' : α) (hmem : other ∈ items.eraseIdx i) : other ∈ items.set i item' := by
  obtain ⟨hlength, -⟩ := List.getElem?_eq_some_iff.mp hitem
  exact (List.set_perm_cons_eraseIdx hlength item').mem_iff.mpr (List.mem_cons_of_mem item' hmem)

theorem mem_set_self {α : Type} {items : List α} {item : α} (hitem : items[i]? = some item) (item' : α) :
    item' ∈ items.set i item' :=
  List.mem_set (List.getElem?_eq_some_iff.mp hitem).1 item'

/-! ### What all tasks satisfy -/

/-- Every task that has yet to run satisfies `left`, and every one that has its reply satisfies `answered`. -/
structure Pool.Holds (left : τ → Prop) (answered : τ → ρ → Prop) (pool : Pool τ ρ σ) : Prop where
  queue : ∀ task ∈ pool.queue, left task
  inFlight : ∀ task, (task, none) ∈ pool.inFlight → left task
  answered : ∀ task reply, (task, some reply) ∈ pool.inFlight → answered task reply

theorem Pool.Idle.holds (hidle : pool.Idle) : pool.Holds left answered := by
  obtain ⟨hqueue, hinFlight⟩ := hidle
  exact ⟨by simp [hqueue], by simp [hinFlight], by simp [hinFlight]⟩

theorem Pool.Holds.mono (hpool : pool.Holds left answered) (hleft : ∀ task, left task → left' task)
    (hanswered : ∀ task reply, answered task reply → answered' task reply) : pool.Holds left' answered' :=
  ⟨fun task hmem => hleft task (hpool.queue task hmem), fun task hmem => hleft task (hpool.inFlight task hmem),
    fun task reply hmem => hanswered task reply (hpool.answered task reply hmem)⟩

theorem Pool.Holds.enqueue (hpool : pool.Holds left answered) (htasks : ∀ task ∈ tasks, left task) :
    (pool.enqueue tasks).Holds left answered :=
  ⟨List.forall_mem_append.mpr ⟨hpool.queue, htasks⟩, hpool.inFlight, hpool.answered⟩

theorem Pool.Holds.start (hpool : pool.Holds left answered) (hqueue : pool.queue = task :: rest) :
    (pool.start task rest).Holds left answered := by
  obtain ⟨htask, hrest⟩ := List.forall_mem_cons.mp (hqueue ▸ hpool.queue)
  refine ⟨hrest, fun other hmem => ?_, fun other reply hmem => ?_⟩
  · obtain heq | hmem := List.mem_cons.mp hmem
    · obtain rfl := (Prod.mk.inj heq).1
      exact htask
    · exact hpool.inFlight other hmem
  · obtain heq | hmem := List.mem_cons.mp hmem
    · cases (Prod.mk.inj heq).2
    · exact hpool.answered other reply hmem

theorem Pool.Holds.left_of_entry (hpool : pool.Holds left answered)
    (hentry : pool.inFlight[i]? = some (task, none)) : left task :=
  hpool.inFlight task (List.mem_of_getElem? hentry)

theorem Pool.Holds.answered_of_entry (hpool : pool.Holds left answered)
    (hentry : pool.inFlight[i]? = some (task, some reply)) : answered task reply :=
  hpool.answered task reply (List.mem_of_getElem? hentry)

theorem Pool.Holds.answer (hpool : pool.Holds left answered) (hreply : answered task reply) :
    (pool.answer i task reply shared).Holds left answered := by
  refine ⟨hpool.queue, fun other hmem => ?_, fun other reply' hmem => ?_⟩
  · obtain hmem | heq := List.mem_or_eq_of_mem_set hmem
    · exact hpool.inFlight other hmem
    · cases (Prod.mk.inj heq).2
  · obtain hmem | heq := List.mem_or_eq_of_mem_set hmem
    · exact hpool.answered other reply' hmem
    · obtain ⟨rfl, hreply'⟩ := Prod.mk.inj heq
      obtain rfl := Option.some.inj hreply'
      exact hreply

theorem Pool.Holds.close (hpool : pool.Holds left answered) (htasks : ∀ task ∈ tasks, left task) :
    (pool.close i tasks).Holds left answered :=
  ⟨List.forall_mem_append.mpr ⟨hpool.queue, htasks⟩,
    fun task hmem => hpool.inFlight task (List.mem_of_mem_eraseIdx hmem),
    fun task reply hmem => hpool.answered task reply (List.mem_of_mem_eraseIdx hmem)⟩

theorem Pool.Holds.drop (hpool : pool.Holds left answered) : (pool.drop i shared).Holds left answered :=
  ⟨hpool.queue, fun task hmem => hpool.inFlight task (List.mem_of_mem_eraseIdx hmem),
    fun task reply hmem => hpool.answered task reply (List.mem_of_mem_eraseIdx hmem)⟩

theorem Pool.Holds.disturb (hpool : pool.Holds left answered) : (pool.disturb shared).Holds left answered :=
  ⟨hpool.queue, hpool.inFlight, hpool.answered⟩

theorem Pool.Holds.reorder (hpool : pool.Holds left answered) (hperm : queue.Perm pool.queue) :
    (pool.reorder queue).Holds left answered :=
  ⟨fun task hmem => hpool.queue task (hperm.mem_iff.mp hmem), hpool.inFlight, hpool.answered⟩

/-! ### Whether a task is on its way -/

/-- A task of the kind `left` has yet to run, or one has its reply and is of the kind `answered`. -/
inductive Pool.Awaits (left : τ → Prop) (answered : τ → ρ → Prop) (pool : Pool τ ρ σ) : Prop
  | queued (task : τ) (hmem : task ∈ pool.queue) (hleft : left task)
  | taken (task : τ) (hmem : (task, none) ∈ pool.inFlight) (hleft : left task)
  | replied (task : τ) (reply : ρ) (hmem : (task, some reply) ∈ pool.inFlight) (hanswered : answered task reply)

theorem Pool.Idle.not_awaits (hidle : pool.Idle) : ¬ pool.Awaits left answered := by
  obtain ⟨hqueue, hinFlight⟩ := hidle
  intro hawaits
  cases hawaits with
  | queued task hmem => simp [hqueue] at hmem
  | taken task hmem => simp [hinFlight] at hmem
  | replied task reply hmem => simp [hinFlight] at hmem

theorem Pool.awaits_of_mem (hmem : task ∈ tasks) (hleft : left task) :
    (pool.enqueue tasks).Awaits left answered :=
  .queued task (List.mem_append_right pool.queue hmem) hleft

theorem Pool.Awaits.enqueue (hawaits : pool.Awaits left answered) :
    (pool.enqueue tasks).Awaits left answered := by
  cases hawaits with
  | queued task hmem hleft => exact .queued task (List.mem_append_left tasks hmem) hleft
  | taken task hmem hleft => exact .taken task hmem hleft
  | replied task reply hmem hanswered => exact .replied task reply hmem hanswered

theorem Pool.Awaits.start (hawaits : pool.Awaits left answered) (hqueue : pool.queue = task :: rest) :
    (pool.start task rest).Awaits left answered := by
  cases hawaits with
  | queued other hmem hleft =>
      obtain rfl | hrest := List.mem_cons.mp (hqueue ▸ hmem)
      · exact .taken other List.mem_cons_self hleft
      · exact .queued other hrest hleft
  | taken other hmem hleft => exact .taken other (List.mem_cons_of_mem _ hmem) hleft
  | replied other reply hmem hanswered => exact .replied other reply (List.mem_cons_of_mem _ hmem) hanswered

/-- A task whose reply is of the kind stays on its way. -/
theorem Pool.Awaits.answer (hawaits : pool.Awaits left answered)
    (hentry : pool.inFlight[i]? = some (task, none)) (hreply : left task → answered task reply) :
    (pool.answer i task reply shared).Awaits left answered := by
  cases hawaits with
  | queued other hmem hleft => exact .queued other hmem hleft
  | taken other hmem hleft =>
      obtain heq | hmem := eq_or_mem_eraseIdx hentry hmem
      · obtain rfl := (Prod.mk.inj heq).1
        exact .replied other reply (mem_set_self hentry _) (hreply hleft)
      · exact .taken other (mem_set_of_mem_eraseIdx hentry _ hmem) hleft
  | replied other reply' hmem hanswered =>
      obtain heq | hmem := eq_or_mem_eraseIdx hentry hmem
      · cases (Prod.mk.inj heq).2
      · exact .replied other reply' (mem_set_of_mem_eraseIdx hentry _ hmem) hanswered

/-- Closing an entry leaves a task on its way, or the entry was that task. -/
theorem Pool.Awaits.close (hawaits : pool.Awaits left answered)
    (hentry : pool.inFlight[i]? = some (task, some reply)) (tasks : List τ) :
    (pool.close i tasks).Awaits left answered ∨ answered task reply := by
  cases hawaits with
  | queued other hmem hleft => exact .inl (.queued other (List.mem_append_left tasks hmem) hleft)
  | taken other hmem hleft =>
      obtain heq | hmem := eq_or_mem_eraseIdx hentry hmem
      · cases (Prod.mk.inj heq).2
      · exact .inl (.taken other hmem hleft)
  | replied other reply' hmem hanswered =>
      obtain heq | hmem := eq_or_mem_eraseIdx hentry hmem
      · obtain ⟨rfl, hreply⟩ := Prod.mk.inj heq
        obtain rfl := Option.some.inj hreply
        exact .inr hanswered
      · exact .inl (.replied other reply' hmem hanswered)

theorem Pool.awaits_close_of_mem (hmem : task ∈ tasks) (hleft : left task) :
    (pool.close i tasks).Awaits left answered :=
  .queued task (List.mem_append_right pool.queue hmem) hleft

/-- Dropping an entry leaves a task on its way, or the entry was that task. -/
theorem Pool.Awaits.drop (hawaits : pool.Awaits left answered)
    (hentry : pool.inFlight[i]? = some (task, none)) :
    (pool.drop i shared).Awaits left answered ∨ left task := by
  cases hawaits with
  | queued other hmem hleft => exact .inl (.queued other hmem hleft)
  | taken other hmem hleft =>
      obtain heq | hmem := eq_or_mem_eraseIdx hentry hmem
      · obtain rfl := (Prod.mk.inj heq).1
        exact .inr hleft
      · exact .inl (.taken other hmem hleft)
  | replied other reply' hmem hanswered =>
      obtain heq | hmem := eq_or_mem_eraseIdx hentry hmem
      · cases (Prod.mk.inj heq).2
      · exact .inl (.replied other reply' hmem hanswered)

theorem Pool.Awaits.disturb (hawaits : pool.Awaits left answered) :
    (pool.disturb shared).Awaits left answered := by
  cases hawaits with
  | queued task hmem hleft => exact .queued task hmem hleft
  | taken task hmem hleft => exact .taken task hmem hleft
  | replied task reply hmem hanswered => exact .replied task reply hmem hanswered

theorem Pool.Awaits.reorder (hawaits : pool.Awaits left answered) (hperm : queue.Perm pool.queue) :
    (pool.reorder queue).Awaits left answered := by
  cases hawaits with
  | queued task hmem hleft => exact .queued task (hperm.mem_iff.mpr hmem) hleft
  | taken task hmem hleft => exact .taken task hmem hleft
  | replied task reply hmem hanswered => exact .replied task reply hmem hanswered

/-! ### Which tasks have yet to run -/

def entryUnrun : τ × Option ρ → Multiset τ
  | (task, none) => {task}
  | (_, some _) => 0

def Pool.unrun (pool : Pool τ ρ σ) : Multiset τ :=
  pool.queue + (pool.inFlight : Multiset (τ × Option ρ)).bind entryUnrun

theorem Pool.Idle.unrun (hidle : pool.Idle) : pool.unrun = 0 := by
  simp [Pool.unrun, hidle.1, hidle.2]

@[simp]
theorem unrun_disturb : (pool.disturb shared).unrun = pool.unrun := rfl

theorem unrun_reorder (hperm : queue.Perm pool.queue) : (pool.reorder queue).unrun = pool.unrun := by
  simp only [Pool.unrun, Pool.reorder, Multiset.coe_eq_coe.mpr hperm]

theorem unrun_enqueue : (pool.enqueue tasks).unrun = pool.unrun + (tasks : Multiset τ) := by
  simp only [Pool.unrun, Pool.enqueue, ← Multiset.coe_add]
  abel

theorem unrun_start (hqueue : pool.queue = task :: rest) : (pool.start task rest).unrun = pool.unrun := by
  simp only [Pool.unrun, Pool.start, hqueue, ← Multiset.cons_coe, Multiset.cons_bind, entryUnrun]
  simp only [← Multiset.singleton_add]
  abel

theorem unrun_answer (hentry : pool.inFlight[i]? = some (task, none)) :
    pool.unrun = task ::ₘ (pool.answer i task reply shared).unrun := by
  obtain ⟨hbefore, hafter⟩ := coe_of_getElem? hentry
  simp only [Pool.unrun, Pool.answer, hafter, hbefore, Multiset.cons_bind, entryUnrun]
  simp only [← Multiset.singleton_add]
  abel

theorem unrun_close (hentry : pool.inFlight[i]? = some (task, some reply)) :
    (pool.close i tasks).unrun = pool.unrun + (tasks : Multiset τ) := by
  simp only [Pool.unrun, Pool.close, (coe_of_getElem? hentry).1, Multiset.cons_bind, entryUnrun,
    ← Multiset.coe_add]
  abel

theorem unrun_drop (hentry : pool.inFlight[i]? = some (task, none)) :
    pool.unrun = task ::ₘ (pool.drop i shared).unrun := by
  simp only [Pool.unrun, Pool.drop, (coe_of_getElem? hentry).1, Multiset.cons_bind, entryUnrun]
  simp only [← Multiset.singleton_add]
  abel

/-! ### Which tasks have been answered -/

def entryAnswered : τ × Option ρ → Multiset τ
  | (task, some _) => {task}
  | (_, none) => 0

def Pool.answeredTasks (pool : Pool τ ρ σ) : Multiset τ :=
  (pool.inFlight : Multiset (τ × Option ρ)).bind entryAnswered

theorem Pool.Idle.answeredTasks (hidle : pool.Idle) : pool.answeredTasks = 0 := by
  simp [Pool.answeredTasks, hidle.2]

@[simp]
theorem answeredTasks_enqueue : (pool.enqueue tasks).answeredTasks = pool.answeredTasks := rfl

@[simp]
theorem answeredTasks_start : (pool.start task rest).answeredTasks = pool.answeredTasks := by
  simp [Pool.answeredTasks, Pool.start, ← Multiset.cons_coe, entryAnswered]

@[simp]
theorem answeredTasks_disturb : (pool.disturb shared).answeredTasks = pool.answeredTasks := rfl

@[simp]
theorem answeredTasks_reorder : (pool.reorder queue).answeredTasks = pool.answeredTasks := rfl

theorem answeredTasks_answer (hentry : pool.inFlight[i]? = some (task, none)) :
    (pool.answer i task reply shared).answeredTasks = task ::ₘ pool.answeredTasks := by
  obtain ⟨hbefore, hafter⟩ := coe_of_getElem? hentry
  simp only [Pool.answeredTasks, Pool.answer, hafter, hbefore, Multiset.cons_bind, entryAnswered, zero_add,
    Multiset.singleton_add]

theorem answeredTasks_close (hentry : pool.inFlight[i]? = some (task, some reply)) :
    pool.answeredTasks = task ::ₘ (pool.close i tasks).answeredTasks := by
  simp only [Pool.answeredTasks, Pool.close, (coe_of_getElem? hentry).1, Multiset.cons_bind, entryAnswered,
    Multiset.singleton_add]

theorem answeredTasks_drop (hentry : pool.inFlight[i]? = some (task, none)) :
    (pool.drop i shared).answeredTasks = pool.answeredTasks := by
  simp only [Pool.answeredTasks, Pool.drop, (coe_of_getElem? hentry).1, Multiset.cons_bind, entryAnswered,
    zero_add]

/-! ### The operations as a system of their own -/

inductive Operation (τ : Type) where
  | enqueue (tasks : List τ)
  | start
  | close (i : Nat) (tasks : List τ)
  deriving DecidableEq, Repr

/-- Tasks are posted, the first of the queue is begun where a place is free, and one that is begun is finished with
the tasks that it has posted. -/
def Pool.operate (pool : Pool τ ρ σ) : Operation τ → Option (Pool τ ρ σ)
  | .enqueue tasks => some (pool.enqueue tasks)
  | .start =>
      match pool.queue with
      | task :: rest => if pool.inFlight.length < pool.size then some (pool.start task rest) else none
      | [] => none
  | .close i tasks => if i < pool.inFlight.length then some (pool.close i tasks) else none

/-- The tasks that have been begun. -/
def Pool.begun (pool : Pool τ ρ σ) : Multiset τ := (pool.inFlight : Multiset (τ × Option ρ)).map Prod.fst

theorem operate_start (hqueue : pool.queue = task :: rest) (hfree : pool.begun.card < pool.size) :
    pool.operate .start = some (pool.start task rest) := by
  rw [Pool.begun, Multiset.card_map, Multiset.coe_card] at hfree
  simp only [Pool.operate, hqueue, if_pos hfree]

theorem begun_start : (pool.start task rest).begun = task ::ₘ pool.begun := rfl

/-- A task that has been begun can be finished. -/
theorem exists_operate_close {others : Multiset τ} (hbegun : pool.begun = task ::ₘ others) (tasks : List τ) :
    ∃ i, pool.operate (.close i tasks) = some (pool.close i tasks) ∧ (pool.close i tasks).begun = others := by
  have hmem : task ∈ pool.begun := hbegun ▸ Multiset.mem_cons_self task others
  obtain ⟨entry, hentry, rfl⟩ := Multiset.mem_map.mp hmem
  obtain ⟨rest, hrest⟩ := Multiset.exists_cons_of_mem hentry
  obtain ⟨i, hget, hothers⟩ := exists_getElem?_of_coe hrest
  refine ⟨i, if_pos (List.getElem?_eq_some_iff.mp hget).1, ?_⟩
  rw [Pool.begun, hrest, Multiset.map_cons] at hbegun
  have hbegun' : (pool.close i tasks).begun = rest.map Prod.fst := congrArg (Multiset.map Prod.fst) hothers
  rw [hbegun']
  exact (Multiset.cons_inj_right entry.1).mp hbegun

end WorkPool
