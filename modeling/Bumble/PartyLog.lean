import Bumble.FifoNet

/-!
# Logs of a party

A party on its own takes calls and messages in any order and is polled at any
time: that is an adversary's view of it.  A logged party remembers what it has
received and what it has sent.

In a net without losses the two views meet: what one side has received, with
what is under way to it, is what the other side has sent, and each side is in a
state that some run of its own leads to.  So a property of every run of one party
and the comparison of two logs are enough for a property of the net.
-/

namespace Bumble

inductive Event (ι μ : Type) where
  | call (input : ι)
  | poll
  | receive (message : μ)

/-- A party's state with the messages it has received and sent, oldest first. -/
structure Log (σ μ : Type) where
  state : σ
  received : List μ
  sent : List μ

namespace Party

variable {σ ι μ : Type} (party : Party σ ι μ)

def apply (state : σ) : Event ι μ → σ
  | .call input => party.call state input
  | .poll =>
    match party.poll state with
    | none => state
    | some (_, state) => state
  | .receive message => party.receive state message

def run (state : σ) (events : List (Event ι μ)) : σ := events.foldl party.apply state

theorem run_append (state : σ) (events events' : List (Event ι μ)) :
    party.run state (events ++ events') = party.run (party.run state events) events' :=
  List.foldl_append

theorem run_concat (state : σ) (events : List (Event ι μ)) (event : Event ι μ) :
    party.run state (events ++ [event]) = party.apply (party.run state events) event := by
  rw [run_append]
  rfl

theorem run_keeps {I : σ → Prop} (hstep : ∀ state event, I state → I (party.apply state event))
    {state : σ} (hstate : I state) (events : List (Event ι μ)) : I (party.run state events) := by
  induction events generalizing state with
  | nil => exact hstate
  | cons event events ih => exact ih (hstep state event hstate)

def logged : Party (Log σ μ) ι μ where
  call log input := { log with state := party.call log.state input }
  poll log := (party.poll log.state).map fun (message, state) =>
    (message, { log with state, sent := log.sent ++ [message] })
  receive log message :=
    { log with state := party.receive log.state message, received := log.received ++ [message] }

theorem logged_run_state (log : Log σ μ) (events : List (Event ι μ)) :
    (party.logged.run log events).state = party.run log.state events := by
  induction events generalizing log with
  | nil => rfl
  | cons event events ih =>
    have hstate : (party.logged.apply log event).state = party.apply log.state event := by
      cases event with
      | call input => rfl
      | poll =>
        simp only [apply, logged]
        cases party.poll log.state <;> rfl
      | receive message => rfl
    change (party.logged.run (party.logged.apply log event) events).state = _
    rw [ih, hstate]
    rfl

theorem logged_poll_none {log : Log σ μ} (hpoll : party.poll log.state = none) :
    party.logged.apply log .poll = log := by
  simp only [apply, logged, hpoll, Option.map_none]

theorem logged_poll_some {log : Log σ μ} {message : μ} {state : σ}
    (hpoll : party.poll log.state = some (message, state)) :
    party.logged.apply log .poll = { log with state, sent := log.sent ++ [message] } := by
  simp only [apply, logged, hpoll, Option.map_some]

end Party

/-- The log of a party that nothing has happened to. -/
def Log.start {σ : Type} (μ : Type) (state : σ) : Log σ μ := ⟨state, [], []⟩

namespace Net

variable {σ ι μ : Type} {party : Party σ ι μ}

def Lossless (_ : Net σ μ) : Move ι → Prop
  | .lose _ => False
  | _ => True

instance (net : Net σ μ) (move : Move ι) : Decidable (net.Lossless move) :=
  match move with
  | .lose _ => .isFalse id
  | .call _ => .isTrue trivial
  | .poll => .isTrue trivial
  | .deliver => .isTrue trivial

theorem stepLeft_right (net : Net σ μ) (move : Move ι) :
    (net.stepLeft party move).right = net.right := by
  cases move with
  | call input => rfl
  | poll => simp only [stepLeft]; split <;> rfl
  | deliver => simp only [stepLeft]; split <;> rfl
  | lose index => simp only [stepLeft]; split <;> rfl

theorem stepLeft_left (net : Net σ μ) (move : Move ι) :
    (net.stepLeft party move).left = net.left ∨
      ∃ event, (net.stepLeft party move).left = party.apply net.left event := by
  cases move with
  | call input => exact .inr ⟨.call input, rfl⟩
  | poll =>
    right
    refine ⟨.poll, ?_⟩
    simp only [stepLeft, Party.apply]
    cases party.poll net.left <;> rfl
  | deliver =>
    simp only [stepLeft]
    split
    · exact .inl rfl
    · next message _ _ => exact .inr ⟨.receive message, rfl⟩
  | lose index =>
    left
    simp only [stepLeft]
    split <;> rfl

/-- **Each side on its own.**  What every event of a party keeps holds on its side
    of every reachable net, whatever the other side does. -/
theorem sides_keep {allowed : Net σ μ → Move ι → Prop} {I J : σ → Prop}
    (hI : ∀ state event, I state → I (party.apply state event))
    (hJ : ∀ state event, J state → J (party.apply state event)) {start net : Net σ μ}
    (hleft : I start.left) (hright : J start.right)
    (hreach : Reachable party allowed start net) : I net.left ∧ J net.right := by
  obtain ⟨moves, -, rfl⟩ := hreach
  induction moves generalizing start with
  | nil => exact ⟨hleft, hright⟩
  | cons action actions ih =>
    obtain ⟨side, move⟩ := action
    cases side with
    | left =>
      apply ih
      · change I (start.stepLeft party move).left
        rcases stepLeft_left start move with hsame | ⟨event, hevent⟩
        · rw [hsame]; exact hleft
        · rw [hevent]; exact hI _ _ hleft
      · change J (start.stepLeft party move).right
        rw [stepLeft_right]
        exact hright
    | right =>
      apply ih
      · change I (start.swap.stepLeft party move).right
        rw [stepLeft_right]
        exact hleft
      · change J (start.swap.stepLeft party move).left
        rcases stepLeft_left start.swap move with hsame | ⟨event, hevent⟩
        · rw [hsame]; exact hright
        · rw [hevent]; exact hJ _ _ hright

/-- The log of each side of a reachable net is that of a run of its own. -/
theorem sides_run {left right : σ} {allowed : Net σ μ → Move ι → Prop} {net : Net σ μ}
    (hreach : Reachable party allowed ⟨left, right, [], [], 0⟩ net) :
    (∃ events, net.left = party.run left events) ∧
    ∃ events, net.right = party.run right events := by
  have hextends : ∀ start state event, (∃ events, state = party.run start events) →
      ∃ events, party.apply state event = party.run start events := by
    rintro start _ event ⟨events, rfl⟩
    exact ⟨events ++ [event], (party.run_concat start events event).symm⟩
  exact sides_keep (hextends left) (hextends right) ⟨[], rfl⟩ ⟨[], rfl⟩ hreach

/-! ### Forgetting the logs -/

def forget (net : Net (Log σ μ) μ) : Net σ μ :=
  ⟨net.left.state, net.right.state, net.toRight, net.toLeft, net.lost⟩

theorem forget_stepLeft (net : Net (Log σ μ) μ) (move : Move ι) :
    (net.stepLeft party.logged move).forget = net.forget.stepLeft party move := by
  cases move with
  | call input => rfl
  | poll =>
    cases hpoll : party.poll net.left.state with
    | none =>
      have hlogged : party.logged.poll net.left = none := by simp [Party.logged, hpoll]
      have hforgotten : party.poll net.forget.left = none := hpoll
      rw [stepLeft_poll_none hlogged, stepLeft_poll_none hforgotten]
    | some next =>
      obtain ⟨message, state⟩ := next
      have hlogged : party.logged.poll net.left =
          some (message, { net.left with state, sent := net.left.sent ++ [message] }) := by
        simp [Party.logged, hpoll]
      have hforgotten : party.poll net.forget.left = some (message, state) := hpoll
      rw [stepLeft_poll_some hlogged, stepLeft_poll_some hforgotten]
      rfl
  | deliver =>
    cases hlink : net.toLeft with
    | nil =>
      have hforgotten : net.forget.toLeft = [] := hlink
      rw [stepLeft_deliver_nil hlink, stepLeft_deliver_nil hforgotten]
    | cons message rest =>
      have hforgotten : net.forget.toLeft = message :: rest := hlink
      rw [stepLeft_deliver_cons hlink, stepLeft_deliver_cons hforgotten]
      rfl
  | lose index =>
    by_cases hindex : index < net.toLeft.length
    · have hlogged : net.stepLeft party.logged (.lose index) = _ := if_pos hindex
      have hforgotten : net.forget.stepLeft party (.lose index) = _ := if_pos hindex
      rw [hlogged, hforgotten]
      rfl
    · have hlogged : net.stepLeft party.logged (.lose index) = _ := if_neg hindex
      have hforgotten : net.forget.stepLeft party (.lose index) = _ := if_neg hindex
      rw [hlogged, hforgotten]

theorem forget_step (net : Net (Log σ μ) μ) (action : Side × Move ι) :
    (net.step party.logged action).forget = net.forget.step party action := by
  obtain ⟨side, move⟩ := action
  cases side with
  | left => exact forget_stepLeft net move
  | right => exact congrArg swap (forget_stepLeft net.swap move)

theorem forget_run (net : Net (Log σ μ) μ) (moves : List (Side × Move ι)) :
    (net.run party.logged moves).forget = net.forget.run party moves := by
  induction moves generalizing net with
  | nil => rfl
  | cons action actions ih =>
    change ((net.step party.logged action).run party.logged actions).forget = _
    rw [ih, forget_step]
    rfl

/-- **Every run has logs.**  The moves of a run are also moves of the logged net. -/
theorem admissible_logged {allowed : Net σ μ → Move ι → Prop} {start : Net (Log σ μ) μ}
    {moves : List (Side × Move ι)} (hadmissible : Admissible party allowed start.forget moves) :
    Admissible party.logged (fun net move => allowed net.forget move) start moves := by
  induction moves generalizing start with
  | nil => trivial
  | cons action actions ih =>
    obtain ⟨hfirst, hrest⟩ := hadmissible
    refine ⟨?_, ih ?_⟩
    · obtain ⟨side, move⟩ := action
      cases side <;> exact hfirst
    · rw [forget_step]
      exact hrest

theorem reachable_logged {allowed : Net σ μ → Move ι → Prop} {start : Net (Log σ μ) μ}
    {net : Net σ μ} (hreach : Reachable party allowed start.forget net) :
    ∃ logs, Reachable party.logged (fun net move => allowed net.forget move) start logs ∧
      logs.forget = net := by
  obtain ⟨moves, hadmissible, rfl⟩ := hreach
  exact ⟨start.run party.logged moves, ⟨moves, admissible_logged hadmissible, rfl⟩,
    forget_run start moves⟩

theorem Reachable.mono {allowed allowed' : Net σ μ → Move ι → Prop} {start net : Net σ μ}
    (hreach : Reachable party allowed start net)
    (hallowed : ∀ net move, allowed net move → allowed' net move) :
    Reachable party allowed' start net := by
  obtain ⟨moves, hadmissible, rfl⟩ := hreach
  refine ⟨moves, ?_, rfl⟩
  induction moves generalizing start with
  | nil => trivial
  | cons action actions ih =>
    obtain ⟨hfirst, hrest⟩ := hadmissible
    refine ⟨?_, ih hrest⟩
    obtain ⟨side, move⟩ := action
    cases side <;> exact hallowed _ _ hfirst

/-- What each side has received and has still to receive is what the other sent. -/
structure LogsMeet (net : Net (Log σ μ) μ) : Prop where
  right : net.right.received ++ net.toRight = net.left.sent
  left : net.left.received ++ net.toLeft = net.right.sent

theorem LogsMeet.swap {net : Net (Log σ μ) μ} (hnet : LogsMeet net) : LogsMeet net.swap :=
  ⟨hnet.left, hnet.right⟩

theorem LogsMeet.stepLeft {net : Net (Log σ μ) μ} (hnet : LogsMeet net) {move : Move ι}
    (hmove : net.Lossless move) : LogsMeet (net.stepLeft party.logged move) := by
  cases move with
  | call input => exact ⟨hnet.right, hnet.left⟩
  | poll =>
    cases hpoll : party.poll net.left.state with
    | none =>
      have hlogged : party.logged.poll net.left = none := by simp [Party.logged, hpoll]
      rw [stepLeft_poll_none hlogged]
      exact hnet
    | some next =>
      obtain ⟨message, state⟩ := next
      have hlogged : party.logged.poll net.left =
          some (message, { net.left with state, sent := net.left.sent ++ [message] }) := by
        simp [Party.logged, hpoll]
      rw [stepLeft_poll_some hlogged]
      refine ⟨?_, hnet.left⟩
      change net.right.received ++ (net.toRight ++ [message]) = net.left.sent ++ [message]
      rw [← List.append_assoc, hnet.right]
  | deliver =>
    cases hlink : net.toLeft with
    | nil =>
      rw [stepLeft_deliver_nil hlink]
      exact hnet
    | cons message rest =>
      rw [stepLeft_deliver_cons hlink]
      refine ⟨hnet.right, ?_⟩
      change (net.left.received ++ [message]) ++ rest = net.right.sent
      rw [List.append_assoc, ← hnet.left, hlink]
      rfl
  | lose index => exact hmove.elim

/-- **The logs meet** in every net that started with empty logs and links and lost
    nothing. -/
theorem logsMeet_of_reachable {left right : σ} {net : Net (Log σ μ) μ}
    (hreach : Reachable party.logged Lossless ⟨.start μ left, .start μ right, [], [], 0⟩ net) :
    LogsMeet net :=
  run_invariant (fun _ hnet => hnet.swap) (fun _ _ hnet hmove => hnet.stepLeft hmove)
    ⟨rfl, rfl⟩ hreach

theorem logs_cross {left right : σ} {logs : Net (Log σ μ) μ}
    (hreach : Reachable party.logged Lossless ⟨.start μ left, .start μ right, [], [], 0⟩ logs)
    (queued queued' : List μ) :
    logs.right.received <+: logs.left.sent ++ queued ∧
      logs.left.received <+: logs.right.sent ++ queued' := by
  have hmeet := logsMeet_of_reachable hreach
  constructor
  · rw [← hmeet.right, List.append_assoc]
    exact List.prefix_append _ _
  · rw [← hmeet.left, List.append_assoc]
    exact List.prefix_append _ _

end Net

end Bumble
