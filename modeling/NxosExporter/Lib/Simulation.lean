import Mathlib.Data.List.Forall2
import NxosExporter.Lib.Transition

/-!
# Runs seen through an abstraction

A view says what each step shows of itself, as a list of events or of actions of another system. The events of
a run are those of its steps, and when each step is a run of the other system between the abstractions of its
states, so is the whole run.
-/

namespace Transition

variable {σ σ' α β : Type} {step : σ → α → Option σ} {ok : σ → α → Prop} {s s' mid : σ} {actions : List α}

/-- What the steps of a trace show, in order; nothing from the first action on that is not enabled. -/
def observe (step : σ → α → Option σ) (view : σ → α → List β) : σ → List α → List β
  | _, [] => []
  | s, a :: rest =>
      match step s a with
      | some mid => view s a ++ observe step view mid rest
      | none => []

theorem replay_of_run (hrun : RunWhere step ok s actions s') : replay step s actions = some s' := by
  induction hrun with
  | nil => rfl
  | snoc _ _ hlast ih => simp [replay_append, ih, replay, hlast]

variable {view : σ → α → List β}

theorem observe_append_of_replay (hreplay : replay step s actions = some mid) (more : List α) :
    observe step view s (actions ++ more) = observe step view s actions ++ observe step view mid more := by
  induction actions generalizing s with
  | nil =>
      obtain rfl : s = mid := by simpa [replay] using hreplay
      rfl
  | cons a rest ih =>
      obtain ⟨next, hnext, hrest⟩ := Option.bind_eq_some_iff.mp hreplay
      simp only [List.cons_append, observe, hnext, ih hrest, List.append_assoc]

theorem RunWhere.observe_append (hrun : RunWhere step ok s actions mid) (more : List α) :
    observe step view s (actions ++ more) = observe step view s actions ++ observe step view mid more :=
  observe_append_of_replay (replay_of_run hrun) more

theorem observe_singleton {a : α} (hstep : step s a = some s') : observe step view s [a] = view s a := by
  simp [observe, hstep]

theorem RunWhere.observe_snoc {a : α} (hrun : RunWhere step ok s actions mid) (hstep : step mid a = some s') :
    observe step view s (actions ++ [a]) = observe step view s actions ++ view mid a := by
  rw [hrun.observe_append, observe_singleton hstep]

/-- **Simulation rule.** Where each step from a state that keeps the invariant is a run of the abstract system,
each run is one. -/
theorem RunWhere.simulates {step' : σ' → β → Option σ'} (abs : σ → σ') (Inv : σ → Prop)
    (hrun : RunWhere step ok s actions s') (hinit : Inv s)
    (hinv : ∀ mid a last, ok mid a → step mid a = some last → Inv mid → Inv last)
    (hsimulates : ∀ mid a last, ok mid a → step mid a = some last → Inv mid →
      Run step' (abs mid) (view mid a) (abs last)) :
    Run step' (abs s) (observe step view s actions) (abs s') := by
  have hboth : Inv s' ∧ Run step' (abs s) (observe step view s actions) (abs s') := by
    induction hrun with
    | nil => exact ⟨hinit, .nil _⟩
    | snoc hrun hok hlast ih =>
        obtain ⟨hmid, hpast⟩ := ih
        rw [hrun.observe_snoc hlast]
        exact ⟨hinv _ _ _ hok hlast hmid, hpast.append (hsimulates _ _ _ hok hlast hmid)⟩
  exact hboth.2

/-- **Forward simulation.** Where each step is matched by a run of the abstract system that keeps the relation, each
run is matched step by step. -/
theorem RunWhere.exists_simulating {step' : σ' → β → Option σ'} (Rel : σ → σ' → Prop) (Performs : α → List β → Prop)
    {abs : σ'} (hrun : RunWhere step ok s actions s') (hinit : Rel s abs)
    (hsimulates : ∀ mid a last abs, ok mid a → step mid a = some last → Rel mid abs →
      ∃ performed abs', Performs a performed ∧ Run step' abs performed abs' ∧ Rel last abs') :
    ∃ performed abs', List.Forall₂ Performs actions performed ∧ Run step' abs performed.flatten abs' ∧
      Rel s' abs' := by
  induction hrun with
  | nil => exact ⟨[], abs, .nil, .nil abs, hinit⟩
  | snoc hrun hok hlast ih =>
      obtain ⟨past, mid', hpast, hpastRun, hmid⟩ := ih
      obtain ⟨performed, abs', hperforms, hperformedRun, hrel⟩ := hsimulates _ _ _ mid' hok hlast hmid
      refine ⟨past ++ [performed], abs', List.rel_append hpast (.cons hperforms .nil), ?_, hrel⟩
      rw [List.flatten_append, List.flatten_singleton]
      exact hpastRun.append hperformedRun

end Transition
