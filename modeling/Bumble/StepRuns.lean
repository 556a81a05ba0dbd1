import Mathlib

/-!
# Runs of a step function that may refuse

A run is the monadic fold of a step function over a list of actions.  Two rules
are used of it: what every step keeps, a run keeps; and when one kind of action
spoils a property for good and every other keeps it, the property holds at the
end exactly when no action of that kind was taken.
-/

namespace Bumble

variable {σ α : Type}

theorem foldlM_keeps {step : σ → α → Option σ} {I : σ → Prop}
    (hstep : ∀ state action next, I state → step state action = some next → I next)
    (actions : List α) {state final : σ} (hstate : I state)
    (hrun : actions.foldlM step state = some final) : I final := by
  induction actions generalizing state with
  | nil =>
    rw [List.foldlM_nil] at hrun
    obtain rfl : state = final := Option.some.inj hrun
    exact hstate
  | cons action actions ih =>
    rw [List.foldlM_cons] at hrun
    obtain ⟨next, hnext, hrun⟩ := Option.bind_eq_some_iff.mp hrun
    exact ih (hstep state action next hstate hnext) hrun

theorem forall_split_nil {P : List α → α → Prop} :
    ∀ before action after, ([] : List α) = before ++ action :: after → P before action := by
  intro before action after hsplit
  cases before <;> cases hsplit

theorem forall_split_cons {P : List α → α → Prop} {first : α} {actions : List α}
    (hfirst : P [] first)
    (hrest : ∀ before action after, actions = before ++ action :: after →
      P (first :: before) action) :
    ∀ before action after, first :: actions = before ++ action :: after → P before action := by
  intro before action after hsplit
  cases before with
  | nil =>
    obtain ⟨rfl, -⟩ := List.cons.inj hsplit
    exact hfirst
  | cons head before =>
    obtain ⟨rfl, htail⟩ := List.cons.inj hsplit
    exact hrest before action after htail

theorem forall_split_cons_iff {P : List α → α → Prop} {first : α} {actions : List α} :
    (∀ before action after, first :: actions = before ++ action :: after → P before action) ↔
      P [] first ∧ ∀ before action after, actions = before ++ action :: after →
        P (first :: before) action := by
  constructor
  · intro hall
    refine ⟨hall [] first actions rfl, ?_⟩
    intro before action after hsplit
    exact hall (first :: before) action after (by rw [hsplit]; rfl)
  · rintro ⟨hfirst, hrest⟩
    exact forall_split_cons hfirst hrest

/-- Every step from a good state is judged: an action that is fine there keeps the
    state good, any other spoils it, and what is spoilt stays so. -/
structure Judged (step : σ → α → Option σ) (I Good : σ → Prop) (Fine : σ → α → Prop) : Prop where
  invariant : ∀ state action next, I state → step state action = some next → I next
  keep : ∀ state action next, I state → Good state → Fine state action →
    step state action = some next → Good next
  spoil : ∀ state action next, I state → Good state → ¬ Fine state action →
    step state action = some next → ¬ Good next
  stuck : ∀ state action next, ¬ Good state → step state action = some next → ¬ Good next

/-- Every action of a run was fine where it was taken. -/
def AllFine (step : σ → α → Option σ) (Fine : σ → α → Prop) (state : σ) (actions : List α) :
    Prop :=
  ∀ before action after reached, actions = before ++ action :: after →
    before.foldlM step state = some reached → Fine reached action

theorem allFine_nil (step : σ → α → Option σ) (Fine : σ → α → Prop) (state : σ) :
    AllFine step Fine state [] := by
  intro before action after reached hsplit
  cases before <;> cases hsplit

theorem allFine_cons {step : σ → α → Option σ} {Fine : σ → α → Prop} {state next : σ}
    {action : α} (hstep : step state action = some next) (actions : List α) :
    AllFine step Fine state (action :: actions) ↔
      Fine state action ∧ AllFine step Fine next actions := by
  constructor
  · intro hall
    refine ⟨hall [] action actions state rfl rfl, ?_⟩
    intro before later after reached hsplit hreached
    apply hall (action :: before) later after reached (by rw [hsplit]; rfl)
    rw [List.foldlM_cons, hstep]
    exact hreached
  · rintro ⟨hfine, hall⟩ before later after reached hsplit hreached
    cases before with
    | nil =>
      obtain ⟨rfl, -⟩ := List.cons.inj hsplit
      obtain rfl : state = reached := Option.some.inj hreached
      exact hfine
    | cons first before =>
      obtain ⟨rfl, hrest⟩ := List.cons.inj hsplit
      apply hall before later after reached hrest
      rw [List.foldlM_cons, hstep] at hreached
      exact hreached

namespace Judged

variable {step : σ → α → Option σ} {I Good : σ → Prop} {Fine : σ → α → Prop}

theorem good_iff (hjudged : Judged step I Good Fine) (actions : List α) {state final : σ}
    (hinvariant : I state) (hstate : Good state) (hrun : actions.foldlM step state = some final) :
    Good final ↔ AllFine step Fine state actions := by
  induction actions generalizing state with
  | nil =>
    obtain rfl : state = final := Option.some.inj hrun
    exact iff_of_true hstate (allFine_nil step Fine state)
  | cons action actions ih =>
    rw [List.foldlM_cons] at hrun
    obtain ⟨next, hnext, hrun⟩ := Option.bind_eq_some_iff.mp hrun
    rw [allFine_cons hnext]
    by_cases hfine : Fine state action
    · have hgood := hjudged.keep state action next hinvariant hstate hfine hnext
      rw [ih (hjudged.invariant state action next hinvariant hnext) hgood hrun]
      exact (and_iff_right hfine).symm
    · have hspoilt := hjudged.spoil state action next hinvariant hstate hfine hnext
      apply iff_of_false
      · exact foldlM_keeps hjudged.stuck actions hspoilt hrun
      · exact fun hall => hfine hall.1

end Judged

end Bumble
