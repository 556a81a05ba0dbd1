import Mathlib

/-!
# Outcomes of calls that change a state and may fail

A method that borrows its receiver mutably and returns a `Result` leaves two
things behind: the state, with everything it had already done when it failed,
and the value or the error.  `Outcome` keeps both, and `Outcome.andThen` is the
question mark operator: go on with the new state, or stop and keep it.
-/

namespace Bumble

structure Outcome (σ ε α : Type) where
  state : σ
  result : Except ε α

namespace Outcome

variable {σ τ ε α β : Type}

def ok (state : σ) (value : α) : Outcome σ ε α := ⟨state, .ok value⟩

/-- A call that returns an error in the state it has reached. -/
def fail (state : σ) (error : ε) : Outcome σ ε α := ⟨state, .error error⟩

def andThen (call : Outcome σ ε α) (next : σ → α → Outcome σ ε β) : Outcome σ ε β :=
  match call.result with
  | .ok value => next call.state value
  | .error error => fail call.state error

/-- The same call seen on a state that the first one determines. -/
def mapState (f : σ → τ) (call : Outcome σ ε α) : Outcome τ ε α := ⟨f call.state, call.result⟩

@[simp] theorem mapState_state (f : σ → τ) (call : Outcome σ ε α) :
    (call.mapState f).state = f call.state := rfl

@[simp] theorem mapState_result (f : σ → τ) (call : Outcome σ ε α) :
    (call.mapState f).result = call.result := rfl

@[simp] theorem ok_state (state : σ) (value : α) :
    (ok state value : Outcome σ ε α).state = state := rfl

@[simp] theorem ok_result (state : σ) (value : α) :
    (ok state value : Outcome σ ε α).result = .ok value := rfl

@[simp] theorem fail_state (state : σ) (error : ε) :
    (fail state error : Outcome σ ε α).state = state := rfl

@[simp] theorem fail_result (state : σ) (error : ε) :
    (fail state error : Outcome σ ε α).result = .error error := rfl

@[simp] theorem ok_andThen (state : σ) (value : α) (next : σ → α → Outcome σ ε β) :
    (ok state value : Outcome σ ε α).andThen next = next state value := rfl

@[simp] theorem fail_andThen (state : σ) (error : ε) (next : σ → α → Outcome σ ε β) :
    (fail state error : Outcome σ ε α).andThen next = fail state error := rfl

end Outcome

theorem except_bind_eq_ok {ε α β : Type} {first : Except ε α} {next : α → Except ε β} {value : β}
    (hbind : (first >>= next) = .ok value) :
    ∃ middle, first = .ok middle ∧ next middle = .ok value := by
  cases first with
  | error error => cases hbind
  | ok middle => exact ⟨middle, rfl, hbind⟩

theorem except_bind_eq_error {ε α β : Type} {first : Except ε α} {next : α → Except ε β}
    {error : ε} (hbind : (first >>= next) = .error error) :
    first = .error error ∨ ∃ middle, first = .ok middle ∧ next middle = .error error := by
  cases first with
  | error fault =>
    cases hbind
    exact .inl rfl
  | ok middle => exact .inr ⟨middle, rfl, hbind⟩

theorem except_mapM_eq_ok {ε α β : Type} {f : α → Except ε β} :
    ∀ {values : List α} {results : List β}, values.mapM f = .ok results →
      List.Forall₂ (fun value result => f value = .ok result) values results := by
  intro values
  induction values with
  | nil =>
    intro results hall
    rw [List.mapM_nil] at hall
    cases hall
    exact .nil
  | cons value values ih =>
    intro results hall
    rw [List.mapM_cons] at hall
    obtain ⟨first, hfirst, hall⟩ := except_bind_eq_ok hall
    obtain ⟨later, hlater, hall⟩ := except_bind_eq_ok hall
    cases hall
    exact .cons hfirst (ih hlater)

theorem except_mapM_of_forall {ε α β : Type} {f : α → Except ε β} {g : α → β} {values : List α}
    (hall : ∀ value ∈ values, f value = .ok (g value)) : values.mapM f = .ok (values.map g) := by
  induction values with
  | nil => rfl
  | cons value values ih =>
    rw [List.mapM_cons, hall value List.mem_cons_self,
      ih fun other hother => hall other (List.mem_cons_of_mem value hother)]
    rfl

end Bumble
