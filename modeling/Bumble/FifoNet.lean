import Mathlib

/-!
# Two parties joined by two FIFO links

A party is a state machine that takes calls, hands out messages when it is
polled and takes delivered messages.  Two copies of it joined by one link in
each direction make a net; a run is any interleaving of calls, polls,
deliveries and losses at the two ends.

A link is a list with its oldest message first.  A poll moves a message from a
party to the end of its link, a delivery takes the first message of the link,
a loss removes any message of it; nothing is duplicated or reordered.

Every move is described from the side that makes it, and the other side moves
by swapping the net.  An invariant that is closed under swapping therefore
needs its preservation proved on one side only: that is `Net.run_invariant`.
-/

namespace Bumble

/-- A party with inputs `ι`, messages `μ` and states `σ`. -/
structure Party (σ ι μ : Type) where
  call : σ → ι → σ
  poll : σ → Option (μ × σ)
  receive : σ → μ → σ

/-- Two parties and the messages between them, oldest first; `lost` counts the
    messages that were removed from a link. -/
structure Net (σ μ : Type) where
  left : σ
  right : σ
  toRight : List μ
  toLeft : List μ
  lost : Nat

/-- What the left party of a net can do or suffer. -/
inductive Move (ι : Type) where
  | call (input : ι)
  | poll
  | deliver
  | lose (index : Nat)

inductive Side where
  | left
  | right
deriving DecidableEq, Repr

namespace Net

variable {σ ι μ : Type}

def swap (net : Net σ μ) : Net σ μ :=
  ⟨net.right, net.left, net.toLeft, net.toRight, net.lost⟩

@[simp] theorem swap_swap (net : Net σ μ) : net.swap.swap = net := rfl
@[simp] theorem swap_left (net : Net σ μ) : net.swap.left = net.right := rfl
@[simp] theorem swap_right (net : Net σ μ) : net.swap.right = net.left := rfl
@[simp] theorem swap_toRight (net : Net σ μ) : net.swap.toRight = net.toLeft := rfl
@[simp] theorem swap_toLeft (net : Net σ μ) : net.swap.toLeft = net.toRight := rfl
@[simp] theorem swap_lost (net : Net σ μ) : net.swap.lost = net.lost := rfl

/-- One move of the left party; a move that is not possible changes nothing. -/
def stepLeft (party : Party σ ι μ) (net : Net σ μ) : Move ι → Net σ μ
  | .call input => { net with left := party.call net.left input }
  | .poll =>
    match party.poll net.left with
    | none => net
    | some (message, left) => { net with left, toRight := net.toRight ++ [message] }
  | .deliver =>
    match net.toLeft with
    | [] => net
    | message :: toLeft => { net with left := party.receive net.left message, toLeft }
  | .lose index =>
    if index < net.toLeft.length then
      { net with toLeft := net.toLeft.eraseIdx index, lost := net.lost + 1 }
    else net

section StepLeft

variable {party : Party σ ι μ} {net : Net σ μ}

theorem stepLeft_call (input : ι) :
    net.stepLeft party (.call input) = { net with left := party.call net.left input } := rfl

theorem stepLeft_poll_none (hpoll : party.poll net.left = none) :
    net.stepLeft party .poll = net := by
  simp only [stepLeft, hpoll]

theorem stepLeft_poll_some {message : μ} {left : σ}
    (hpoll : party.poll net.left = some (message, left)) :
    net.stepLeft party .poll = { net with left, toRight := net.toRight ++ [message] } := by
  simp only [stepLeft, hpoll]

theorem stepLeft_deliver_nil (hlink : net.toLeft = []) :
    net.stepLeft party .deliver = net := by
  simp only [stepLeft, hlink]

theorem stepLeft_deliver_cons {message : μ} {toLeft : List μ}
    (hlink : net.toLeft = message :: toLeft) :
    net.stepLeft party .deliver =
      { net with left := party.receive net.left message, toLeft } := by
  simp only [stepLeft, hlink]

end StepLeft

def step (party : Party σ ι μ) (net : Net σ μ) : Side × Move ι → Net σ μ
  | (.left, move) => net.stepLeft party move
  | (.right, move) => (net.swap.stepLeft party move).swap

def run (party : Party σ ι μ) (net : Net σ μ) (moves : List (Side × Move ι)) : Net σ μ :=
  moves.foldl (step party) net

/-- `allowed`, which judges the moves of the left party, at either end. -/
def AllowedStep (allowed : Net σ μ → Move ι → Prop) (net : Net σ μ) : Side × Move ι → Prop
  | (.left, move) => allowed net move
  | (.right, move) => allowed net.swap move

/-- Every move of the list is allowed in the net it is made in. -/
def Admissible (party : Party σ ι μ) (allowed : Net σ μ → Move ι → Prop) :
    Net σ μ → List (Side × Move ι) → Prop
  | _, [] => True
  | net, action :: actions =>
    AllowedStep allowed net action ∧ Admissible party allowed (net.step party action) actions

theorem admissible_concat {party : Party σ ι μ} {allowed : Net σ μ → Move ι → Prop}
    {net : Net σ μ} {moves : List (Side × Move ι)} {action : Side × Move ι}
    (hmoves : Admissible party allowed net moves)
    (haction : AllowedStep allowed (net.run party moves) action) :
    Admissible party allowed net (moves ++ [action]) := by
  induction moves generalizing net with
  | nil => exact ⟨haction, trivial⟩
  | cons first moves ih => exact ⟨hmoves.1, ih hmoves.2 haction⟩

/-- **Runs end.**  Where the admissible runs are bounded, one of them leads to a net
    in which no move is allowed. -/
theorem exists_finished {party : Party σ ι μ} {allowed : Net σ μ → Move ι → Prop} {net : Net σ μ}
    {bound : Nat} (hbound : ∀ moves, Admissible party allowed net moves → moves.length ≤ bound) :
    ∃ moves, Admissible party allowed net moves ∧
      ∀ action, ¬ AllowedStep allowed (net.run party moves) action := by
  by_contra hnone
  push Not at hnone
  have hlong : ∀ count, ∃ moves, Admissible party allowed net moves ∧ moves.length = count := by
    intro count
    induction count with
    | zero => exact ⟨[], trivial, rfl⟩
    | succ count ih =>
      obtain ⟨moves, hmoves, hlength⟩ := ih
      obtain ⟨action, haction⟩ := hnone moves hmoves
      exact ⟨moves ++ [action], admissible_concat hmoves haction, by simp [hlength]⟩
  obtain ⟨moves, hmoves, hlength⟩ := hlong (bound + 1)
  have := hbound moves hmoves
  omega

/-- A net some admissible run from `start` ends in. -/
def Reachable (party : Party σ ι μ) (allowed : Net σ μ → Move ι → Prop)
    (start net : Net σ μ) : Prop :=
  ∃ moves, Admissible party allowed start moves ∧ start.run party moves = net

instance (allowed : Net σ μ → Move ι → Prop) [∀ net move, Decidable (allowed net move)]
    (net : Net σ μ) (action : Side × Move ι) : Decidable (AllowedStep allowed net action) :=
  match action with
  | (.left, move) => inferInstanceAs (Decidable (allowed net move))
  | (.right, move) => inferInstanceAs (Decidable (allowed net.swap move))

instance decidableAdmissible (party : Party σ ι μ) (allowed : Net σ μ → Move ι → Prop)
    [∀ net move, Decidable (allowed net move)] :
    (net : Net σ μ) → (moves : List (Side × Move ι)) →
      Decidable (Admissible party allowed net moves)
  | _, [] => .isTrue trivial
  | net, action :: actions =>
    have := decidableAdmissible party allowed (net.step party action) actions
    inferInstanceAs (Decidable (_ ∧ _))

section Invariant

variable {party : Party σ ι μ} {allowed : Net σ μ → Move ι → Prop} {I : Net σ μ → Prop}

theorem step_invariant (hswap : ∀ net, I net → I net.swap)
    (hleft : ∀ net move, I net → allowed net move → I (net.stepLeft party move))
    {net : Net σ μ} {action : Side × Move ι} (hnet : I net)
    (hallowed : AllowedStep allowed net action) : I (net.step party action) := by
  obtain ⟨side, move⟩ := action
  cases side with
  | left => exact hleft net move hnet hallowed
  | right => exact hswap _ (hleft net.swap move (hswap net hnet) hallowed)

/-- **The invariant rule.**  A property closed under swapping the ends and kept
    by the allowed moves of the left party holds in every reachable net. -/
theorem run_invariant (hswap : ∀ net, I net → I net.swap)
    (hleft : ∀ net move, I net → allowed net move → I (net.stepLeft party move))
    {start net : Net σ μ} (hstart : I start)
    (hreach : Reachable party allowed start net) : I net := by
  obtain ⟨moves, hadmissible, rfl⟩ := hreach
  induction moves generalizing start with
  | nil => exact hstart
  | cons action actions ih =>
    exact ih (step_invariant hswap hleft hstart hadmissible.1) hadmissible.2

end Invariant

end Net

end Bumble
