import Mathlib.Data.List.Forall2
import Mathlib.Tactic.Common

/-!
# Computations that keep their effects

An imperative procedure is modelled by the effects it has had and by how it ended: with a value, with
an exception, or outside what its language defines (an absent optional dereferenced, an index past
the end). An exception unwinds the control flow and nothing else, so the effects made before it stay,
and that is the one way in which `Prog` differs from a writer stacked on `Except`.
-/

namespace Effectful

/-- How a computation ends. -/
inductive Outcome (χ α : Type) where
  | ok (value : α)
  | throw (exn : χ)
  | undefined
  deriving DecidableEq, Repr

namespace Outcome

variable {χ χ' α β : Type}

def bind : Outcome χ α → (α → Outcome χ β) → Outcome χ β
  | ok value, next => next value
  | throw exn, _ => throw exn
  | undefined, _ => undefined

instance : Monad (Outcome χ) where
  pure := ok
  bind := bind

@[simp]
theorem pure_eq (value : α) : (pure value : Outcome χ α) = ok value := rfl

@[simp]
theorem ok_bind (value : α) (next : α → Outcome χ β) : (ok value >>= next) = next value := rfl

@[simp]
theorem throw_bind (exn : χ) (next : α → Outcome χ β) :
    ((throw exn : Outcome χ α) >>= next) = throw exn := rfl

@[simp]
theorem undefined_bind (next : α → Outcome χ β) :
    ((undefined : Outcome χ α) >>= next) = undefined := rfl

@[simp]
theorem map_ok (f : α → β) (value : α) : f <$> (ok value : Outcome χ α) = ok (f value) := rfl

@[simp]
theorem map_throw (f : α → β) (exn : χ) : f <$> (throw exn : Outcome χ α) = throw exn := rfl

@[simp]
theorem map_undefined (f : α → β) : f <$> (undefined : Outcome χ α) = undefined := rfl

instance : LawfulMonad (Outcome χ) := LawfulMonad.mk' _
  (fun outcome => by cases outcome <;> rfl)
  (fun _ _ => rfl)
  (fun outcome _ _ => by cases outcome <;> rfl)

@[simp]
theorem bind_ok_comp (f : α → β) (outcome : Outcome χ α) :
    (outcome >>= fun value => ok (f value)) = f <$> outcome := rfl

def mapExn (f : χ → χ') : Outcome χ α → Outcome χ' α
  | ok value => ok value
  | throw exn => throw (f exn)
  | undefined => undefined

@[simp]
theorem mapExn_ok (f : χ → χ') (value : α) : (ok value : Outcome χ α).mapExn f = ok value := rfl

@[simp]
theorem mapExn_throw (f : χ → χ') (exn : χ) :
    (throw exn : Outcome χ α).mapExn f = throw (f exn) := rfl

@[simp]
theorem mapExn_undefined (f : χ → χ') :
    (undefined : Outcome χ α).mapExn f = undefined := rfl

/-- Reading through a pointer or an optional: undefined when there is nothing behind it. -/
def deref : Option α → Outcome χ α
  | some value => ok value
  | none => undefined

@[simp]
theorem deref_some (value : α) : (deref (some value) : Outcome χ α) = ok value := rfl

@[simp]
theorem deref_none : (deref none : Outcome χ α) = undefined := rfl

def index (items : List α) (i : Nat) : Outcome χ α :=
  deref items[i]?

@[simp]
theorem index_nil (i : Nat) : (index [] i : Outcome χ α) = undefined := rfl

@[simp]
theorem index_cons_zero (item : α) (rest : List α) :
    (index (item :: rest) 0 : Outcome χ α) = ok item := rfl

/-- An outcome that leaves nothing to a handler which takes the exceptions `caught`. -/
def Handled (caught : χ → Prop) (outcome : Outcome χ α) : Prop :=
  (∃ value, outcome = ok value) ∨ ∃ exn, caught exn ∧ outcome = throw exn

@[simp]
theorem handled_ok (caught : χ → Prop) (value : α) : Handled caught (ok value) :=
  .inl ⟨value, rfl⟩

@[simp]
theorem handled_throw_iff {caught : χ → Prop} {exn : χ} :
    Handled caught (throw exn : Outcome χ α) ↔ caught exn := by
  simp [Handled]

@[simp]
theorem not_handled_undefined (caught : χ → Prop) :
    ¬ Handled caught (undefined : Outcome χ α) := by
  simp [Handled]

@[simp]
theorem handled_map_iff {caught : χ → Prop} (f : α → β) {outcome : Outcome χ α} :
    Handled caught (f <$> outcome) ↔ Handled caught outcome := by
  cases outcome <;> simp

theorem handled_bind {caught : χ → Prop} {outcome : Outcome χ α} {next : α → Outcome χ β}
    (houtcome : Handled caught outcome) (hnext : ∀ value, Handled caught (next value)) :
    Handled caught (outcome >>= next) := by
  obtain ⟨value, rfl⟩ | ⟨exn, hcaught, rfl⟩ := houtcome
  · exact hnext value
  · exact .inr ⟨exn, hcaught, rfl⟩

theorem handled_mapM {caught : χ → Prop} {f : α → Outcome χ β} (hf : ∀ item, Handled caught (f item))
    (items : List α) : Handled caught (items.mapM f) := by
  induction items with
  | nil => exact handled_ok caught []
  | cons item rest ih =>
      rw [List.mapM_cons]
      exact handled_bind (hf item) fun value => handled_bind ih fun others => handled_ok caught _

theorem map_eq_ok_iff {f : α → β} {outcome : Outcome χ α} {result : β} :
    f <$> outcome = ok result ↔ ∃ value, outcome = ok value ∧ f value = result := by
  cases outcome <;> simp

theorem bind_eq_ok_iff {outcome : Outcome χ α} {next : α → Outcome χ β} {result : β} :
    (outcome >>= next) = ok result ↔ ∃ value, outcome = ok value ∧ next value = ok result := by
  cases outcome <;> simp

theorem bind_ne_throw {outcome : Outcome χ α} {next : α → Outcome χ β} {exn : χ} (hfirst : outcome ≠ throw exn)
    (hnext : ∀ value, next value ≠ throw exn) : (outcome >>= next) ≠ throw exn := by
  cases outcome with
  | ok value => exact hnext value
  | throw other =>
      rintro ⟨⟩
      exact hfirst rfl
  | undefined => nofun

/-- A traversal succeeds with the values its items come to, in their order. -/
theorem mapM_eq_ok_iff {f : α → Outcome χ β} {items : List α} {values : List β} :
    items.mapM f = ok values ↔ List.Forall₂ (fun item value => f item = ok value) items values := by
  induction items generalizing values with
  | nil =>
      rw [List.mapM_nil, pure_eq, ok.injEq, List.forall₂_nil_left_iff]
      exact eq_comm
  | cons item rest ih =>
      rw [List.mapM_cons, List.forall₂_cons_left_iff, bind_eq_ok_iff]
      constructor
      · rintro ⟨value, hitem, hrest⟩
        obtain ⟨others, hothers, heq⟩ := bind_eq_ok_iff.mp hrest
        rw [pure_eq, ok.injEq] at heq
        exact ⟨value, others, hitem, ih.mp hothers, heq.symm⟩
      · rintro ⟨value, others, hitem, hothers, rfl⟩
        exact ⟨value, hitem, by rw [ih.mpr hothers]; rfl⟩

theorem exists_mapM_ok_iff {f : α → Outcome χ β} {items : List α} :
    (∃ values, items.mapM f = ok values) ↔ ∀ item ∈ items, ∃ value, f item = ok value := by
  induction items with
  | nil => exact iff_of_true ⟨[], rfl⟩ fun _ hmem => absurd hmem List.not_mem_nil
  | cons item rest ih =>
      rw [List.forall_mem_cons, ← ih]
      constructor
      · rintro ⟨values, hvalues⟩
        cases mapM_eq_ok_iff.mp hvalues with
        | cons hitem hrest => exact ⟨⟨_, hitem⟩, _, mapM_eq_ok_iff.mpr hrest⟩
      · rintro ⟨⟨value, hitem⟩, values, hrest⟩
        exact ⟨value :: values, mapM_eq_ok_iff.mpr (.cons hitem (mapM_eq_ok_iff.mp hrest))⟩

/-- Nested folds are one fold over the concatenated items. -/
theorem foldlM_flatMap {κ : Type} (f : β → α → Outcome χ β) (inner : κ → List α) (outer : List κ) (init : β) :
    (outer.flatMap inner).foldlM f init = outer.foldlM (fun acc key => (inner key).foldlM f acc) init := by
  induction outer generalizing init with
  | nil => rfl
  | cons key rest ih =>
      rw [List.flatMap_cons, List.foldlM_append, List.foldlM_cons]
      exact bind_congr fun acc => ih acc

end Outcome

/-- A computation: the effects it has had, in order, and how it ended. -/
structure Prog (ε χ α : Type) where
  effects : List ε
  outcome : Outcome χ α
  deriving DecidableEq, Repr

namespace Prog

variable {ε ε' χ α β : Type}

def bind (first : Prog ε χ α) (next : α → Prog ε χ β) : Prog ε χ β :=
  match first.outcome with
  | .ok value => ⟨first.effects ++ (next value).effects, (next value).outcome⟩
  | .throw exn => ⟨first.effects, .throw exn⟩
  | .undefined => ⟨first.effects, .undefined⟩

instance : Monad (Prog ε χ) where
  pure value := ⟨[], .ok value⟩
  bind := bind

def emit (effect : ε) : Prog ε χ Unit := ⟨[effect], .ok ()⟩

def throw (exn : χ) : Prog ε χ α := ⟨[], .throw exn⟩

def lift (outcome : Outcome χ α) : Prog ε χ α := ⟨[], outcome⟩

/-- `try { first } catch`: the handler sees the exception, and the effects made before it stay. -/
def tryCatch (first : Prog ε χ α) (handler : χ → Prog ε χ α) : Prog ε χ α :=
  match first.outcome with
  | .throw exn => ⟨first.effects ++ (handler exn).effects, (handler exn).outcome⟩
  | _ => first

@[ext]
theorem ext {left right : Prog ε χ α} (heffects : left.effects = right.effects)
    (houtcome : left.outcome = right.outcome) : left = right := by
  cases left
  cases right
  simp_all

@[simp]
theorem pure_effects (value : α) : (pure value : Prog ε χ α).effects = [] := rfl

@[simp]
theorem pure_outcome (value : α) : (pure value : Prog ε χ α).outcome = .ok value := rfl

theorem bind_eq (first : Prog ε χ α) (next : α → Prog ε χ β) :
    (first >>= next) = first.bind next := rfl

instance : LawfulMonad (Prog ε χ) := LawfulMonad.mk' _
  (fun first => by
    obtain ⟨effects, outcome⟩ := first
    cases outcome <;> simp [Functor.map, bind])
  (fun _ _ => by simp [bind_eq, bind])
  (fun first next last => by
    obtain ⟨effects, outcome⟩ := first
    cases outcome with
    | ok value =>
        simp only [bind_eq, bind]
        cases (next value).outcome <;> simp
    | throw exn => rfl
    | undefined => rfl)

@[simp]
theorem map_effects (f : α → β) (first : Prog ε χ α) : (f <$> first).effects = first.effects := by
  obtain ⟨effects, outcome⟩ := first
  cases outcome <;> simp [Functor.map, bind]

@[simp]
theorem map_outcome (f : α → β) (first : Prog ε χ α) :
    (f <$> first).outcome = f <$> first.outcome := by
  obtain ⟨effects, outcome⟩ := first
  cases outcome <;> rfl

@[simp]
theorem emit_effects (effect : ε) : (emit effect : Prog ε χ Unit).effects = [effect] := rfl

@[simp]
theorem emit_outcome (effect : ε) : (emit effect : Prog ε χ Unit).outcome = .ok () := rfl

@[simp]
theorem throw_effects (exn : χ) : (throw exn : Prog ε χ α).effects = [] := rfl

@[simp]
theorem throw_outcome (exn : χ) : (throw exn : Prog ε χ α).outcome = .throw exn := rfl

@[simp]
theorem lift_effects (outcome : Outcome χ α) : (lift outcome : Prog ε χ α).effects = [] := rfl

@[simp]
theorem lift_outcome (outcome : Outcome χ α) : (lift outcome : Prog ε χ α).outcome = outcome := rfl

@[simp]
theorem emit_bind_effects (effect : ε) (next : Unit → Prog ε χ α) :
    (emit effect >>= next).effects = effect :: (next ()).effects := rfl

@[simp]
theorem emit_bind_outcome (effect : ε) (next : Unit → Prog ε χ α) :
    (emit effect >>= next).outcome = (next ()).outcome := rfl

@[simp]
theorem throw_bind (exn : χ) (next : α → Prog ε χ β) :
    ((throw exn : Prog ε χ α) >>= next) = throw exn := rfl

@[simp]
theorem lift_ok_bind (value : α) (next : α → Prog ε χ β) :
    (lift (.ok value) >>= next) = next value := by
  simp [bind_eq, bind, lift]

@[simp]
theorem lift_throw_bind (exn : χ) (next : α → Prog ε χ β) :
    ((lift (.throw exn) : Prog ε χ α) >>= next) = throw exn := rfl

@[simp]
theorem lift_undefined_bind (next : α → Prog ε χ β) :
    ((lift .undefined : Prog ε χ α) >>= next) = lift .undefined := rfl

/-- How a program ends is how its steps end, one after the other. -/
theorem bind_outcome (first : Prog ε χ α) (next : α → Prog ε χ β) :
    (first >>= next).outcome = first.outcome >>= fun value => (next value).outcome := by
  rw [bind_eq, bind]
  cases first.outcome <;> rfl

theorem bind_effects_of_ok {first : Prog ε χ α} {value : α} (hfirst : first.outcome = .ok value)
    (next : α → Prog ε χ β) :
    (first >>= next).effects = first.effects ++ (next value).effects := by
  simp [bind_eq, bind, hfirst]

theorem bind_outcome_of_ok {first : Prog ε χ α} {value : α} (hfirst : first.outcome = .ok value)
    (next : α → Prog ε χ β) : (first >>= next).outcome = (next value).outcome := by
  simp [bind_eq, bind, hfirst]

/-! What every effect of the parts satisfies, every effect of the whole does. -/

theorem forall_effects_bind {p : ε → Prop} {first : Prog ε χ α} {next : α → Prog ε χ β}
    (hfirst : ∀ effect ∈ first.effects, p effect) (hnext : ∀ value, ∀ effect ∈ (next value).effects, p effect) :
    ∀ effect ∈ (first >>= next).effects, p effect := by
  rw [bind_eq, bind]
  cases first.outcome with
  | ok value => exact List.forall_mem_append.mpr ⟨hfirst, hnext value⟩
  | throw exn => exact hfirst
  | undefined => exact hfirst

theorem forall_effects_tryCatch {p : ε → Prop} {first : Prog ε χ α} {handler : χ → Prog ε χ α}
    (hfirst : ∀ effect ∈ first.effects, p effect) (hhandler : ∀ exn, ∀ effect ∈ (handler exn).effects, p effect) :
    ∀ effect ∈ (first.tryCatch handler).effects, p effect := by
  rw [tryCatch]
  cases first.outcome with
  | ok value => exact hfirst
  | throw exn => exact List.forall_mem_append.mpr ⟨hfirst, hhandler exn⟩
  | undefined => exact hfirst

theorem tryCatch_of_ok {first : Prog ε χ α} {value : α} (hfirst : first.outcome = .ok value)
    (handler : χ → Prog ε χ α) : first.tryCatch handler = first := by
  simp [tryCatch, hfirst]

@[simp]
theorem map_lift (f : α → β) (outcome : Outcome χ α) :
    f <$> (lift outcome : Prog ε χ α) = lift (f <$> outcome) := by
  cases outcome <;> rfl

@[simp]
theorem tryCatch_lift_ok (value : α) (handler : χ → Prog ε χ α) :
    (lift (.ok value)).tryCatch handler = lift (.ok value) := rfl

@[simp]
theorem tryCatch_lift_undefined (handler : χ → Prog ε χ α) :
    (lift .undefined).tryCatch handler = lift .undefined := rfl

@[simp]
theorem tryCatch_lift_throw (exn : χ) (handler : χ → Prog ε χ α) :
    (lift (.throw exn)).tryCatch handler = handler exn := rfl

@[simp]
theorem tryCatch_throw (exn : χ) (handler : χ → Prog ε χ α) :
    (throw exn).tryCatch handler = handler exn := rfl

def forEach (body : ε' → Prog ε χ Unit) : List ε' → Prog ε χ Unit
  | [] => pure ()
  | item :: rest => do
      body item
      forEach body rest

@[simp]
theorem forEach_nil (body : ε' → Prog ε χ Unit) : forEach body [] = pure () := rfl

@[simp]
theorem forEach_cons (body : ε' → Prog ε χ Unit) (item : ε') (rest : List ε') :
    forEach body (item :: rest) = (body item >>= fun _ => forEach body rest) := rfl

theorem forEach_outcome_eq_ok_iff {body : ε' → Prog ε χ Unit} {items : List ε'} :
    (forEach body items).outcome = .ok () ↔ ∀ item ∈ items, (body item).outcome = .ok () := by
  induction items with
  | nil => simp
  | cons item rest ih =>
      rw [forEach_cons, List.forall_mem_cons]
      cases hitem : (body item).outcome with
      | ok value =>
          rw [bind_outcome_of_ok hitem, ih]
          simp
      | throw exn => simp [bind_eq, bind, hitem]
      | undefined => simp [bind_eq, bind, hitem]

theorem forEach_outcome_ne_throw {body : ε' → Prog ε χ Unit} (items : List ε') {exn : χ}
    (hbody : ∀ item, (body item).outcome ≠ .throw exn) : (forEach body items).outcome ≠ .throw exn := by
  induction items with
  | nil => nofun
  | cons item rest ih =>
      rw [forEach_cons, bind_outcome]
      exact Outcome.bind_ne_throw (hbody item) fun _ => ih

end Prog

/-! ### Loops that may be left

The body of a loop says whether to go on with the next item or to return from the enclosing function.
Nested loops with such a body are one loop over the concatenated items. -/

inductive LoopExit where
  | next
  | returned
  deriving DecidableEq, Repr

section Loop

variable {ε χ ι κ : Type}

def Prog.loop (body : ι → Prog ε χ LoopExit) : List ι → Prog ε χ LoopExit
  | [] => pure .next
  | item :: rest => do
      match ← body item with
      | .next => loop body rest
      | .returned => pure .returned

def Prog.thenUnlessReturned (later : Prog ε χ LoopExit) : LoopExit → Prog ε χ LoopExit
  | .next => later
  | .returned => pure .returned

theorem Prog.loop_cons (body : ι → Prog ε χ LoopExit) (item : ι) (rest : List ι) :
    Prog.loop body (item :: rest) = body item >>= Prog.thenUnlessReturned (Prog.loop body rest) := by
  rw [Prog.loop]
  congr 1

theorem Prog.loop_append (body : ι → Prog ε χ LoopExit) (first second : List ι) :
    Prog.loop body (first ++ second)
      = Prog.loop body first >>= Prog.thenUnlessReturned (Prog.loop body second) := by
  induction first with
  | nil => simp [Prog.loop, Prog.thenUnlessReturned]
  | cons item rest ih =>
      rw [List.cons_append, Prog.loop_cons, Prog.loop_cons, ih, bind_assoc]
      congr 1
      funext exit
      cases exit with
      | next => rfl
      | returned => simp [Prog.thenUnlessReturned]

/-- **Nested loops.** Leaving the inner loop by `return` leaves the outer one. -/
theorem Prog.loop_loop (body : ι → Prog ε χ LoopExit) (inner : κ → List ι) (outer : List κ) :
    Prog.loop (fun key => Prog.loop body (inner key)) outer
      = Prog.loop body (outer.flatMap inner) := by
  induction outer with
  | nil => rfl
  | cons key rest ih => rw [Prog.loop_cons, ih, List.flatMap_cons, Prog.loop_append]

def throughFirst (p : ι → Bool) : List ι → List ι
  | [] => []
  | item :: rest => if p item then [item] else item :: throughFirst p rest

def afterFirst (p : ι → Bool) : List ι → List ι
  | [] => []
  | item :: rest => if p item then rest else afterFirst p rest

theorem throughFirst_append_afterFirst (p : ι → Bool) (items : List ι) :
    throughFirst p items ++ afterFirst p items = items := by
  induction items with
  | nil => rfl
  | cons item rest ih =>
      by_cases hitem : p item
      · simp [throughFirst, afterFirst, hitem]
      · simp [throughFirst, afterFirst, hitem, ih]

theorem throughFirst_congr {p q : ι → Bool} {items : List ι} (hsame : ∀ item ∈ items, p item = q item) :
    throughFirst p items = throughFirst q items := by
  induction items with
  | nil => rfl
  | cons item rest ih =>
      rw [throughFirst, throughFirst, hsame item (by simp), ih fun other hother => hsame other (by simp [hother])]

theorem mem_of_mem_throughFirst {p : ι → Bool} {items : List ι} {item : ι}
    (hmem : item ∈ throughFirst p items) : item ∈ items := by
  rw [← throughFirst_append_afterFirst p items]
  exact List.mem_append_left _ hmem

/-- The items through the first are those that only others come before. -/
theorem mem_throughFirst_iff {p : ι → Bool} {items : List ι} {item : ι} :
    item ∈ throughFirst p items ↔
      ∃ before after, items = before ++ item :: after ∧ ∀ other ∈ before, p other = false := by
  induction items with
  | nil => simp [throughFirst]
  | cons first rest ih =>
      constructor
      · intro hmem
        by_cases hfirst : p first
        · obtain rfl : item = first := by simpa [throughFirst, hfirst] using hmem
          exact ⟨[], rest, rfl, by simp⟩
        · rw [throughFirst, if_neg hfirst] at hmem
          obtain rfl | hrest := List.mem_cons.mp hmem
          · exact ⟨[], rest, rfl, by simp⟩
          · obtain ⟨before, after, rfl, hbefore⟩ := ih.mp hrest
            exact ⟨first :: before, after, rfl, List.forall_mem_cons.mpr ⟨by simpa using hfirst, hbefore⟩⟩
      · rintro ⟨before, after, hitems, hbefore⟩
        cases before with
        | nil =>
            obtain ⟨rfl, rfl⟩ := List.cons.inj hitems
            by_cases hfirst : p first <;> simp [throughFirst, hfirst]
        | cons head others =>
            obtain ⟨rfl, rfl⟩ := List.cons.inj hitems
            obtain ⟨hhead, hothers⟩ := List.forall_mem_cons.mp hbefore
            have hrest : item ∈ throughFirst p (others ++ item :: after) :=
              ih.mpr ⟨others, after, rfl, hothers⟩
            simp [throughFirst, hhead, hrest]

theorem filterMap_throughFirst_eq_iff (p : ι → Bool) (f : ι → Option κ) (items : List ι) :
    (throughFirst p items).filterMap f = items.filterMap f ↔
      ∀ item ∈ afterFirst p items, f item = none := by
  have hsplit : items.filterMap f
      = (throughFirst p items).filterMap f ++ (afterFirst p items).filterMap f := by
    rw [← List.filterMap_append, throughFirst_append_afterFirst]
  rw [hsplit, List.self_eq_append_right, List.filterMap_eq_nil_iff]

/-- **Traversal rule.** Where a caught exception comes from exactly the items that `stops` names, a
traversal is handled when each item it gets to is. -/
theorem handled_mapM_iff {α : Type} {caught : χ → Prop} {f : ι → Outcome χ α} {stops : ι → Bool}
    (hstops : ∀ item, stops item = true ↔ ∃ exn, caught exn ∧ f item = .throw exn) (items : List ι) :
    Outcome.Handled caught (items.mapM f) ↔
      ∀ item ∈ throughFirst stops items, Outcome.Handled caught (f item) := by
  induction items with
  | nil => simp [throughFirst]
  | cons item rest ih =>
      rw [List.mapM_cons]
      cases hitem : f item with
      | ok value =>
          have hgoes : stops item = false := by
            rw [Bool.eq_false_iff, ne_eq, hstops, hitem]
            simp
          simp [throughFirst, hgoes, hitem, ih]
      | throw exn =>
          by_cases hcaught : caught exn
          · have hstop : stops item = true := (hstops item).mpr ⟨exn, hcaught, hitem⟩
            simp [throughFirst, hstop, hitem]
          · have hgoes : stops item = false := by
              rw [Bool.eq_false_iff, ne_eq, hstops, hitem]
              rintro ⟨other, hother, heq⟩
              cases heq
              exact hcaught hother
            simp [throughFirst, hgoes, hitem, hcaught]
      | undefined =>
          have hgoes : stops item = false := by
            rw [Bool.eq_false_iff, ne_eq, hstops, hitem]
            simp
          simp [throughFirst, hgoes, hitem]

/-- **Loop rule.** A loop has the effects of its bodies up to the first that does not go on. -/
theorem Prog.loop_effects (body : ι → Prog ε χ LoopExit) (stops : ι → Bool) (items : List ι)
    (hbody : ∀ item ∈ items, (body item).outcome = .ok .next ↔ stops item = false) :
    (Prog.loop body items).effects
      = (throughFirst stops items).flatMap fun item => (body item).effects := by
  induction items with
  | nil => rfl
  | cons item rest ih =>
      have hitem := hbody item (by simp)
      have hrest := ih fun other hother => hbody other (by simp [hother])
      rw [Prog.loop_cons]
      cases hstops : stops item with
      | false =>
          rw [Prog.bind_effects_of_ok (hitem.mpr hstops)]
          simp [throughFirst, hstops, Prog.thenUnlessReturned, hrest]
      | true =>
          have hleft : (body item).outcome ≠ .ok .next := by simp [hitem, hstops]
          simp only [throughFirst, hstops, if_true, List.flatMap_cons, List.flatMap_nil,
            List.append_nil, Prog.bind_eq, Prog.bind]
          -- whatever else the body came to, nothing runs after it
          cases houtcome : (body item).outcome with
          | ok exit =>
              cases exit with
              | next => exact absurd houtcome hleft
              | returned => simp [Prog.thenUnlessReturned]
          | throw exn => rfl
          | undefined => rfl

/-- A loop ends as the first of its bodies that does not go on. -/
theorem Prog.loop_outcome (body : ι → Prog ε χ LoopExit) (stops : ι → Bool) (items : List ι)
    (hbody : ∀ item ∈ items, (body item).outcome = .ok .next ↔ stops item = false) :
    (Prog.loop body items).outcome
      = (items.find? stops).elim (.ok .next) fun item => (body item).outcome := by
  induction items with
  | nil => rfl
  | cons item rest ih =>
      have hitem := hbody item (by simp)
      have hrest := ih fun other hother => hbody other (by simp [hother])
      rw [Prog.loop_cons]
      cases hstops : stops item with
      | false =>
          rw [Prog.bind_outcome_of_ok (hitem.mpr hstops), List.find?_cons_of_neg (by simp [hstops])]
          exact hrest
      | true =>
          have hleft : (body item).outcome ≠ .ok .next := by simp [hitem, hstops]
          rw [List.find?_cons_of_pos hstops, Option.elim_some, Prog.bind_eq, Prog.bind]
          cases houtcome : (body item).outcome with
          | ok exit =>
              cases exit with
              | next => exact absurd houtcome hleft
              | returned => rfl
          | throw exn => rfl
          | undefined => rfl

end Loop

end Effectful
