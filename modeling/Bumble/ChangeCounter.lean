import Bumble.StepRuns
import Bumble.Outcome

/-!
# States guarded by a change counter

Several clients write to one state.  Each write names the counter value its
client has read, and a state that checks the name and counts every change lets
no client overwrite what it has not seen.  `CountedService` is such a state seen
from outside: its settings, its counter and what one write does.  `Guards` is
what the counter is for, over a whole run of writes; it follows from what one
write does (`guards_iff`).
-/

namespace Bumble

/-! ## 1. Services and runs -/

/-- A state with a counter, and the writes that change it. -/
structure CountedService (σ τ β ε : Type) where
  settings : σ → τ
  counter : σ → UInt8
  /-- The counter value a write carries. -/
  carried : β → Option UInt8
  write : σ → β → Outcome σ ε Unit

namespace CountedService

variable {σ τ β ε : Type} (service : CountedService σ τ β ε)

/-- The state after a write, however it is answered. -/
def next (state : σ) (value : β) : σ := (service.write state value).state

def run (state : σ) (values : List β) : σ := values.foldl service.next state

def Changes (state : σ) (value : β) : Prop :=
  service.settings (service.next state value) ≠ service.settings state

instance [DecidableEq τ] (state : σ) (value : β) : Decidable (service.Changes state value) :=
  inferInstanceAs (Decidable (_ ≠ _))

def moves (state : σ) : List β → Nat
  | [] => 0
  | value :: values =>
    (if service.counter (service.next state value) = service.counter state then 0 else 1) +
      moves (service.next state value) values

@[simp] theorem run_nil (state : σ) : service.run state [] = state := rfl

@[simp] theorem run_cons (state : σ) (value : β) (values : List β) :
    service.run state (value :: values) = service.run (service.next state value) values := rfl

theorem run_append (state : σ) (values later : List β) :
    service.run state (values ++ later) = service.run (service.run state values) later :=
  List.foldl_append

/-! ## 2. What the counter is for -/

structure Guarded (state : σ) (value : β) : Prop where
  /-- A change names the current counter, -/
  current : service.Changes state value → service.carried value = some (service.counter state)
  /-- moves it by one, -/
  counted : service.Changes state value →
    service.counter (service.next state value) = service.counter state + 1
  /-- and is not answered with an error. -/
  still : ∀ error, (service.write state value).result = .error error →
    service.next state value = state

/-- Every write of a run respects the counter, and no two of them change the
    settings under one counter value unless the counter has gone round between. -/
structure Guards (state : σ) (values : List β) : Prop where
  each : ∀ before value after, values = before ++ value :: after →
    service.Guarded (service.run state before) value
  single : ∀ before first between second after,
    values = before ++ first :: (between ++ second :: after) →
    service.Changes (service.run state before) first →
    service.Changes (service.run state (before ++ first :: between)) second →
    service.carried first = service.carried second →
    256 ≤ service.moves (service.run state before) (first :: between)

def Steady : Prop :=
  ∀ state value, service.counter (service.next state value) = service.counter state ∨
    service.counter (service.next state value) = service.counter state + 1

/-! ## 3. What a write shows of itself -/

section OneWrite

variable {service} {state after : σ} {value : β}

theorem guarded_of_unchanged (hnext : service.next state value = state) :
    service.Guarded state value := by
  have hsame : ¬ service.Changes state value := by
    intro hchange
    exact hchange (congrArg service.settings hnext)
  exact ⟨fun hchange => absurd hchange hsame, fun hchange => absurd hchange hsame,
    fun _ _ => hnext⟩

theorem guarded_iff_of_counted (hwrite : service.write state value = Outcome.ok after ())
    (hchange : service.settings after ≠ service.settings state)
    (hcounter : service.counter after = service.counter state + 1) :
    service.Guarded state value ↔ service.carried value = some (service.counter state) := by
  have hnext : service.next state value = after := by rw [next, hwrite]; rfl
  constructor
  · intro hguard
    apply hguard.current
    rwa [Changes, hnext]
  · intro hcarried
    refine ⟨fun _ => hcarried, fun _ => by rw [hnext, hcounter], ?_⟩
    intro error herror
    rw [hwrite] at herror
    cases herror

theorem not_guarded_of_uncounted (hwrite : service.write state value = Outcome.ok after ())
    (hchange : service.settings after ≠ service.settings state)
    (hcounter : service.counter after = service.counter state) :
    ¬ service.Guarded state value := by
  intro hguard
  have hnext : service.next state value = after := by rw [next, hwrite]; rfl
  have hmoved := hguard.counted (by rwa [Changes, hnext])
  rw [hnext, hcounter] at hmoved
  simp at hmoved

end OneWrite

/-! ## 4. From one write to a run -/

variable {service}

theorem Steady.counter_run (hsteady : service.Steady) (state : σ) (values : List β) :
    service.counter (service.run state values) =
      service.counter state + UInt8.ofNat (service.moves state values) := by
  induction values generalizing state with
  | nil => simp [moves]
  | cons value values ih =>
    rw [run_cons, ih, moves, UInt8.ofNat_add]
    by_cases hsame : service.counter (service.next state value) = service.counter state
    · rw [if_pos hsame, hsame]
      simp
    · have hmove := (hsteady state value).resolve_left hsame
      rw [if_neg hsame, hmove, UInt8.add_assoc]
      rfl

theorem Steady.moves_of_counter_eq (hsteady : service.Steady) {state : σ} {values : List β}
    (hsame : service.counter (service.run state values) = service.counter state)
    (hmoved : 0 < service.moves state values) : 256 ≤ service.moves state values := by
  have hcount := hsteady.counter_run state values
  rw [hsame] at hcount
  have hzero : UInt8.ofNat (service.moves state values) = 0 := by
    have h : service.counter state + 0 =
        service.counter state + UInt8.ofNat (service.moves state values) := by simpa using hcount
    exact ((UInt8.add_right_inj _).mp h).symm
  have hmod : service.moves state values % 256 = 0 := by
    simpa using congrArg UInt8.toNat hzero
  omega

/-- **Guarded writes make a guarded run.**  Nothing more has to be shown of a run
    than that each of its writes respects the counter. -/
theorem guards_iff (hsteady : service.Steady) (state : σ) (values : List β) :
    service.Guards state values ↔ ∀ before value after, values = before ++ value :: after →
      service.Guarded (service.run state before) value := by
  constructor
  · intro hguards
    exact hguards.each
  · intro heach
    refine ⟨heach, ?_⟩
    intro before first between second after hsplit hfirst hsecond hcarried
    have hguard₁ := heach before first (between ++ second :: after) hsplit
    have hguard₂ := heach (before ++ first :: between) second after (by rw [hsplit]; simp)
    -- both writes carry the counter they find, so the counter has come back
    have hback : service.counter (service.run (service.run state before) (first :: between)) =
        service.counter (service.run state before) := by
      have hcurrent := hguard₂.current hsecond
      rw [← hcarried, hguard₁.current hfirst, run_append] at hcurrent
      exact (Option.some.inj hcurrent).symm
    apply hsteady.moves_of_counter_eq hback
    have hmove := hguard₁.counted hfirst
    have hmoved : service.counter (service.next (service.run state before) first) ≠
        service.counter (service.run state before) := by
      rw [hmove]
      intro h
      simp at h
    rw [moves, if_neg hmoved]
    omega

theorem guards_of_guarded (hsteady : service.Steady)
    (hguarded : ∀ state value, service.Guarded state value) (state : σ) (values : List β) :
    service.Guards state values :=
  (guards_iff hsteady state values).mpr fun before value _ _ =>
    hguarded (service.run state before) value

end CountedService

end Bumble
