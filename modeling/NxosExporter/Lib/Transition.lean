import Mathlib.Tactic.Common

/-!
# Guarded runs of a transition system

`step s a` is `some s'` when the action `a` is enabled in `s`, and `none` otherwise, so one definition
serves replaying a concrete trace and reasoning about every trace. `RunWhere ok` are the runs whose
steps all meet a condition on the state before the step and the action taken; the runs of the system
are those with no condition. What one step preserves, a run preserves, and `invariant_trace` is that
rule for facts that also speak of the actions taken so far.
-/

namespace Transition

variable {σ α : Type}

/-- The runs of `step` whose steps all meet `ok`, with the actions they took in order. -/
inductive RunWhere (step : σ → α → Option σ) (ok : σ → α → Prop) : σ → List α → σ → Prop
  | nil (s : σ) : RunWhere step ok s [] s
  | snoc {s mid last : σ} {actions : List α} {a : α} (hrun : RunWhere step ok s actions mid)
      (hok : ok mid a) (hstep : step mid a = some last) : RunWhere step ok s (actions ++ [a]) last

abbrev Run (step : σ → α → Option σ) : σ → List α → σ → Prop :=
  RunWhere step fun _ _ => True

variable {step : σ → α → Option σ} {ok ok' : σ → α → Prop} {s s' s'' : σ} {actions actions' : List α}

/-- **Run rule.** What every permitted step preserves together with its trace, every run preserves. -/
theorem RunWhere.invariant_trace (Inv : List α → σ → Prop) (hrun : RunWhere step ok s actions s')
    (hinit : Inv [] s)
    (hstep : ∀ past mid a last, ok mid a → step mid a = some last → Inv past mid →
      Inv (past ++ [a]) last) :
    Inv actions s' := by
  induction hrun with
  | nil => exact hinit
  | snoc _ hok hlast ih => exact hstep _ _ _ _ hok hlast ih

theorem RunWhere.invariant (Inv : σ → Prop) (hrun : RunWhere step ok s actions s') (hinit : Inv s)
    (hstep : ∀ mid a last, ok mid a → step mid a = some last → Inv mid → Inv last) : Inv s' :=
  hrun.invariant_trace (fun _ => Inv) hinit fun _ => hstep

theorem RunWhere.append (hfirst : RunWhere step ok s actions s')
    (hsecond : RunWhere step ok s' actions' s'') : RunWhere step ok s (actions ++ actions') s'' := by
  induction hsecond with
  | nil => simpa using hfirst
  | snoc _ hok hlast ih =>
      rw [← List.append_assoc]
      exact .snoc ih hok hlast

theorem RunWhere.single {a : α} (hok : ok s a) (hstep : step s a = some s') :
    RunWhere step ok s [a] s' :=
  RunWhere.snoc (.nil s) hok hstep

theorem RunWhere.mono (hrun : RunWhere step ok s actions s') (hle : ∀ mid a, ok mid a → ok' mid a) :
    RunWhere step ok' s actions s' := by
  induction hrun with
  | nil => exact .nil _
  | snoc _ hok hlast ih => exact .snoc ih (hle _ _ hok) hlast

/-- A run with these actions takes the action `a` in the state `mid`. -/
def Takes (step : σ → α → Option σ) (s : σ) (actions : List α) (mid : σ) (a : α) : Prop :=
  ∃ past future, actions = past ++ a :: future ∧ Run step s past mid

theorem Takes.mem {mid : σ} {a : α} (htakes : Takes step s actions mid a) : a ∈ actions := by
  obtain ⟨past, future, rfl, -⟩ := htakes
  exact List.mem_append_right past List.mem_cons_self

/-- Each step of a run is one that the run takes. -/
theorem RunWhere.and_takes (hrun : RunWhere step ok s actions s') :
    RunWhere step (fun mid a => ok mid a ∧ Takes step s actions mid a) s actions s' := by
  have hwithin : ∀ {past last}, RunWhere step ok s past last → ∀ future, actions = past ++ future →
      RunWhere step (fun mid a => ok mid a ∧ Takes step s actions mid a) s past last := by
    intro past last hpast
    induction hpast with
    | nil => exact fun _ _ => .nil _
    | @snoc mid last past a hrun hok hlast ih =>
        intro future hactions
        have hsplit : actions = past ++ a :: future := by rw [hactions, List.append_assoc, List.singleton_append]
        exact .snoc (ih (a :: future) hsplit) ⟨hok, past, future, hsplit, hrun.mono fun _ _ _ => trivial⟩ hlast
  exact hwithin hrun [] (List.append_nil actions).symm

/-- The actions of a run are those of its trace. -/
theorem RunWhere.and_mem (hrun : RunWhere step ok s actions s') :
    RunWhere step (fun mid a => ok mid a ∧ a ∈ actions) s actions s' :=
  hrun.and_takes.mono fun _ _ hok => ⟨hok.1, hok.2.mem⟩

/-- **Progress rule.** Where each state short of the goal has a permitted step that lowers a measure, a run
leads to the goal. -/
theorem exists_run_of_progress (Inv Goal : σ → Prop) (effort : σ → Nat)
    (hprogress : ∀ s, Inv s → Goal s ∨
      ∃ a mid, ok s a ∧ step s a = some mid ∧ Inv mid ∧ effort mid < effort s) (hinit : Inv s) :
    ∃ actions last, RunWhere step ok s actions last ∧ Inv last ∧ Goal last := by
  induction heffort : effort s using Nat.strongRecOn generalizing s with
  | ind n ih =>
      obtain hgoal | ⟨a, mid, hok, hstep, hmid, hless⟩ := hprogress s hinit
      · exact ⟨[], s, .nil s, hinit, hgoal⟩
      · obtain ⟨actions, last, hrun, hlast⟩ := ih (effort mid) (heffort ▸ hless) hmid rfl
        exact ⟨[a] ++ actions, last, (RunWhere.single hok hstep).append hrun, hlast⟩

/-- Replay a list of actions; `none` when one of them is not enabled. -/
def replay (step : σ → α → Option σ) : σ → List α → Option σ
  | s, [] => some s
  | s, a :: rest => (step s a).bind fun mid => replay step mid rest

theorem replay_append (s : σ) (first second : List α) :
    replay step s (first ++ second) = (replay step s first).bind fun mid => replay step mid second := by
  induction first generalizing s with
  | nil => rfl
  | cons a rest ih =>
      rw [List.cons_append, replay, replay, Option.bind_assoc]
      exact congrArg _ (funext ih)

theorem RunWhere.of_replay (hok : ∀ s, ∀ a ∈ actions, ok s a) (hreplay : replay step s actions = some s') :
    RunWhere step ok s actions s' := by
  induction actions generalizing s with
  | nil =>
      obtain rfl : s = s' := by simpa [replay] using hreplay
      exact .nil _
  | cons a rest ih =>
      obtain ⟨mid, hmid, hrest⟩ := Option.bind_eq_some_iff.mp hreplay
      have htail := ih (fun s b hb => hok s b (List.mem_cons_of_mem a hb)) hrest
      exact (RunWhere.single (hok s a List.mem_cons_self) hmid).append htail

theorem run_of_replay (hreplay : replay step s actions = some s') : Run step s actions s' :=
  .of_replay (fun _ _ _ => trivial) hreplay

end Transition
