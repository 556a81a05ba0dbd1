import Bumble.Outcome

/-!
# Runs of code that may fault

Code that indexes, cuts and subtracts has more ways to end than a value and an error that it
returns: an index out of range or an overflow is a fault, and a loop may not end.  A run keeps
them apart, and a safe run is one that has neither, with a property of its value.
-/

namespace Bumble

inductive Stop (ε : Type) where
  | failed (error : ε)
  | fault
  | endless
deriving DecidableEq, Repr

abbrev Run (ε α : Type) := Except (Stop ε) α

namespace Run

variable {ε α β σ : Type}

/-! ## 1. Operations -/

/-- The largest index of a platform with words of 64 bits. -/
def usizeMax : Nat := 2 ^ 64 - 1

def failed (error : ε) : Run ε α := .error (.failed error)

def add (first second : Nat) : Run ε Nat :=
  if first + second ≤ usizeMax then .ok (first + second) else .error .fault

def mul (first second : Nat) : Run ε Nat :=
  if first * second ≤ usizeMax then .ok (first * second) else .error .fault

def sub (first second : Nat) : Run ε Nat :=
  if second ≤ first then .ok (first - second) else .error .fault

def checkedAdd (first second : Nat) : Option Nat :=
  if first + second ≤ usizeMax then some (first + second) else none

def checkedMul (first second : Nat) : Option Nat :=
  if first * second ≤ usizeMax then some (first * second) else none

def okOrElse (value : Option α) (error : ε) : Run ε α :=
  match value with
  | some value => .ok value
  | none => failed error

def index (values : List α) (place : Nat) : Run ε α :=
  match values[place]? with
  | some value => .ok value
  | none => .error .fault

/-- The elements of a range, if it lies within the list. -/
def get (values : List α) (first last : Nat) : Option (List α) :=
  if first ≤ last ∧ last ≤ values.length then some ((values.drop first).take (last - first))
  else none

def slice (values : List α) (first last : Nat) : Run ε (List α) :=
  match get values first last with
  | some values => .ok values
  | none => .error .fault

/-- An array of a fixed size from a slice that must have it. -/
def expectArray (count : Nat) (values : List α) : Run ε (List α) :=
  if values.length = count then .ok values else .error .fault

inductive Flow (σ α : Type) where
  | next (state : σ)
  | done (value : α)

/-- A loop of at most `fuel` passes. -/
def loop (pass : σ → Run ε (Flow σ α)) : Nat → σ → Run ε α
  | 0, _ => .error .endless
  | fuel + 1, state => do
    match ← pass state with
    | .next state => loop pass fuel state
    | .done value => pure value

/-! ## 2. Safe runs -/

/-- A run without a fault that ends; its value, if it has one, has a property. -/
def Safe (run : Run ε α) (post : α → Prop) : Prop :=
  match run with
  | .ok value => post value
  | .error (.failed _) => True
  | .error .fault => False
  | .error .endless => False

variable {run : Run ε α} {post : α → Prop}

theorem Safe.ne_fault (hsafe : Safe run post) : run ≠ .error .fault := by
  rintro rfl
  exact hsafe

theorem Safe.ne_endless (hsafe : Safe run post) : run ≠ .error .endless := by
  rintro rfl
  exact hsafe

theorem Safe.value (hsafe : Safe run post) {value : α} (hrun : run = .ok value) : post value := by
  subst hrun
  exact hsafe

theorem safe_pure {value : α} (hvalue : post value) : Safe (pure value : Run ε α) post := hvalue

theorem safe_failed (error : ε) : Safe (failed error : Run ε α) post := trivial

theorem Safe.bind {next : α → Run ε β} {post' : β → Prop} (hsafe : Safe run post)
    (hnext : ∀ value, post value → Safe (next value) post') : Safe (run >>= next) post' := by
  match run, hsafe with
  | .ok value, hvalue => exact hnext value hvalue
  | .error (.failed error), _ => exact trivial

theorem safe_guard {condition : Prop} [Decidable condition] {error : ε} {rest : Run ε α}
    (hrest : ¬ condition → Safe rest post) :
    Safe (if condition then failed error else rest) post := by
  split
  · exact safe_failed error
  · next hcondition => exact hrest hcondition

theorem safe_add {first second : Nat} (hfits : first + second ≤ usizeMax) :
    Safe (add first second : Run ε Nat) fun sum => sum = first + second := by
  rw [add, if_pos hfits]
  exact rfl

theorem safe_mul {first second : Nat} (hfits : first * second ≤ usizeMax) :
    Safe (mul first second : Run ε Nat) fun product => product = first * second := by
  rw [mul, if_pos hfits]
  exact rfl

theorem safe_sub {first second : Nat} (hfits : second ≤ first) :
    Safe (sub first second : Run ε Nat) fun difference => difference = first - second := by
  rw [sub, if_pos hfits]
  exact rfl

theorem safe_okOrElse {value : Option α} {error : ε}
    (hvalue : ∀ found, value = some found → post found) :
    Safe (okOrElse value error) post := by
  cases value with
  | none => exact trivial
  | some found => exact hvalue found rfl

theorem safe_index {values : List α} {place : Nat} (hplace : place < values.length) :
    Safe (index values place : Run ε α) fun value => values[place]? = some value := by
  rw [index, List.getElem?_eq_getElem hplace]
  exact rfl

theorem get_eq_some {values found : List α} {first last : Nat} :
    get values first last = some found ↔
      (first ≤ last ∧ last ≤ values.length) ∧ found = (values.drop first).take (last - first) := by
  rw [get]
  split
  · next hrange =>
    rw [Option.some.injEq, eq_comm]
    exact ⟨fun heq => ⟨hrange, heq⟩, And.right⟩
  · next hrange => exact ⟨nofun, fun hboth => absurd hboth.1 hrange⟩

theorem length_get {values found : List α} {first last : Nat}
    (hget : get values first last = some found) : found.length = last - first := by
  obtain ⟨⟨hfirst, hlast⟩, rfl⟩ := get_eq_some.mp hget
  rw [List.length_take, List.length_drop]
  omega

theorem safe_slice {values : List α} {first last : Nat} (hfirst : first ≤ last)
    (hlast : last ≤ values.length) :
    Safe (slice values first last : Run ε (List α)) fun found =>
      found = (values.drop first).take (last - first) := by
  rw [slice, get, if_pos ⟨hfirst, hlast⟩]
  exact rfl

theorem safe_expectArray {values : List α} {count : Nat} (hlength : values.length = count) :
    Safe (expectArray count values : Run ε (List α)) fun found => found = values := by
  rw [expectArray, if_pos hlength]
  exact rfl

/-! ## 3. Loops -/

/-- How a pass of a safe loop ends: with the value wanted, or closer to the end. -/
def Advances (invariant : σ → Prop) (measure : σ → Nat) (post : α → Prop) (state : σ) :
    Flow σ α → Prop
  | .next later => invariant later ∧ measure later < measure state
  | .done value => post value

/-- **Loops.**  A loop whose passes keep an invariant and lower a measure ends, safely. -/
theorem Safe.loop {pass : σ → Run ε (Flow σ α)} {invariant : σ → Prop} {measure : σ → Nat}
    (hpass : ∀ state, invariant state → Safe (pass state) (Advances invariant measure post state)) :
    ∀ {fuel : Nat} {state : σ}, invariant state → measure state < fuel →
      Safe (Run.loop pass fuel state) post := by
  intro fuel
  induction fuel with
  | zero =>
    intro state _ hfuel
    exact absurd hfuel (Nat.not_lt_zero _)
  | succ fuel ih =>
    intro state hinvariant hfuel
    rw [Run.loop]
    refine (hpass state hinvariant).bind ?_
    rintro (later | value) hflow
    · exact ih hflow.1 (Nat.lt_of_lt_of_le hflow.2 (Nat.le_of_lt_succ hfuel))
    · exact safe_pure hflow

theorem Safe.mapM {f : σ → Run ε α} {each : σ → α → Prop} {inputs : List σ}
    (hsafe : ∀ input ∈ inputs, Safe (f input) (each input)) :
    Safe (inputs.mapM f) fun values => List.Forall₂ each inputs values := by
  induction inputs with
  | nil => exact safe_pure .nil
  | cons input inputs ih =>
    rw [List.mapM_cons]
    refine (hsafe input List.mem_cons_self).bind fun value hvalue => ?_
    refine (ih fun other hmem => hsafe other (List.mem_cons_of_mem _ hmem)).bind
      fun values hvalues => ?_
    exact safe_pure (.cons hvalue hvalues)

end Run

end Bumble
