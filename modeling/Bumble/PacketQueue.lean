import Bumble.Outcome
import Bumble.OrderedMap

/-!
# The controller packet queue (`bumble-host/src/data_queue.rs`)

Packets wait in one queue for all connections until the controller has room.  The
window is counted as a whole and for each connection; the counters of what has ever been
queued and completed give what is pending.
-/

namespace Bumble.Host

inductive DataPacketQueueError where
  | zeroCapacity
  | unknownConnection (connectionHandle : UInt16)
  | completionOverflow (connectionHandle : UInt16) (completed inFlight : Nat)
deriving DecidableEq, Repr

structure DataPacketQueue (α : Type) where
  maxInFlight : Nat
  inFlight : Nat := 0
  perConnectionInFlight : Std.ExtTreeMap UInt16 Nat := ∅
  packets : List (α × UInt16) := []
  queued : Nat := 0
  completed : Nat := 0

namespace DataPacketQueue

variable {α : Type}

def new (maxInFlight : Nat) : Except DataPacketQueueError (DataPacketQueue α) :=
  if maxInFlight = 0 then .error .zeroCapacity else .ok { maxInFlight }

def enqueue (queue : DataPacketQueue α) (packet : α) (connectionHandle : UInt16) :
    DataPacketQueue α :=
  { queue with
    packets := queue.packets ++ [(packet, connectionHandle)]
    queued := queue.queued + 1 }

def connectionInFlight (queue : DataPacketQueue α) (connectionHandle : UInt16) : Nat :=
  queue.perConnectionInFlight[connectionHandle]?.getD 0

/-- The next packet that the controller has room for, marked as in flight. -/
def pollReady (queue : DataPacketQueue α) : DataPacketQueue α × Option α :=
  if queue.inFlight ≥ queue.maxInFlight then (queue, none)
  else
    match queue.packets with
    | [] => (queue, none)
    | (packet, handle) :: packets =>
      ({ queue with
        packets
        inFlight := queue.inFlight + 1
        perConnectionInFlight :=
          queue.perConnectionInFlight.insert handle (queue.connectionInFlight handle + 1) },
        some packet)

def onPacketsCompleted (queue : DataPacketQueue α) (packetCount : Nat)
    (connectionHandle : UInt16) : Outcome (DataPacketQueue α) DataPacketQueueError Unit :=
  match queue.perConnectionInFlight[connectionHandle]? with
  | none => .fail queue (.unknownConnection connectionHandle)
  | some connectionInFlight =>
    if packetCount > connectionInFlight then
      .fail { queue with
        inFlight := queue.inFlight - connectionInFlight
        completed := queue.completed + connectionInFlight
        perConnectionInFlight := queue.perConnectionInFlight.insert connectionHandle 0 }
        (.completionOverflow connectionHandle packetCount connectionInFlight)
    else
      .ok { queue with
        inFlight := queue.inFlight - packetCount
        completed := queue.completed + packetCount
        perConnectionInFlight :=
          queue.perConnectionInFlight.insert connectionHandle
            (connectionInFlight - packetCount) } ()

def retained (queue : DataPacketQueue α) (connectionHandle : UInt16) : List (α × UInt16) :=
  queue.packets.filter fun entry => entry.2 ≠ connectionHandle

/-- Drop the waiting packets of a connection and complete those in flight. -/
def flush (queue : DataPacketQueue α) (connectionHandle : UInt16) : DataPacketQueue α × Nat :=
  let dropped := queue.packets.length - (queue.retained connectionHandle).length
  let inFlight := queue.connectionInFlight connectionHandle
  ({ queue with
    packets := queue.retained connectionHandle
    perConnectionInFlight := queue.perConnectionInFlight.erase connectionHandle
    inFlight := queue.inFlight - inFlight
    completed := queue.completed + (dropped + inFlight) }, dropped + inFlight)

def flushAll (queue : DataPacketQueue α) : DataPacketQueue α × Nat :=
  let pending := queue.packets.length + queue.inFlight
  ({ queue with
    packets := []
    perConnectionInFlight := ∅
    inFlight := 0
    completed := queue.completed + pending }, pending)

def pending (queue : DataPacketQueue α) : Nat := queue.queued - queue.completed

def waiting (queue : DataPacketQueue α) : Nat := queue.packets.length

def waitingFor (queue : DataPacketQueue α) (connectionHandle : UInt16) : List α :=
  (queue.packets.filter fun entry => entry.2 = connectionHandle).map (·.1)

def connectionWaiting (queue : DataPacketQueue α) (connectionHandle : UInt16) : Nat :=
  (queue.waitingFor connectionHandle).length

/-- The sum of the per-connection counts, over all handles. -/
def totalInFlight (queue : DataPacketQueue α) : Nat :=
  ∑ handle : Fin 65536, queue.connectionInFlight (UInt16.ofFin handle)

/-! ## 1. Counts of one connection -/

theorem sum_changed {ι : Type} [Fintype ι] [DecidableEq ι] (before after : ι → Nat) (index : ι)
    (hother : ∀ other, other ≠ index → after other = before other) :
    (∑ other, after other) + before index = (∑ other, before other) + after index := by
  rw [← Finset.add_sum_erase _ before (Finset.mem_univ index),
    ← Finset.add_sum_erase _ after (Finset.mem_univ index)]
  have hrest : ∑ other ∈ Finset.univ.erase index, after other =
      ∑ other ∈ Finset.univ.erase index, before other := by
    apply Finset.sum_congr rfl
    intro other hmem
    exact hother other (Finset.ne_of_mem_erase hmem)
  rw [hrest]
  omega

theorem totalInFlight_changed {queue next : DataPacketQueue α} {handle : UInt16}
    (hother : ∀ other, other ≠ handle →
      next.connectionInFlight other = queue.connectionInFlight other) :
    next.totalInFlight + queue.connectionInFlight handle =
      queue.totalInFlight + next.connectionInFlight handle := by
  refine sum_changed (fun index : Fin 65536 => queue.connectionInFlight (UInt16.ofFin index))
    (fun index : Fin 65536 => next.connectionInFlight (UInt16.ofFin index)) handle.toFin ?_
  intro other hne
  apply hother
  rintro rfl
  exact hne rfl

theorem connectionInFlight_le_total (queue : DataPacketQueue α) (handle : UInt16) :
    queue.connectionInFlight handle ≤ queue.totalInFlight :=
  Finset.single_le_sum (f := fun index : Fin 65536 =>
    queue.connectionInFlight (UInt16.ofFin index)) (fun _ _ => Nat.zero_le _)
    (Finset.mem_univ handle.toFin)

theorem totalInFlight_eq_zero {queue : DataPacketQueue α}
    (hzero : ∀ handle, queue.connectionInFlight handle = 0) : queue.totalInFlight = 0 :=
  Finset.sum_eq_zero fun handle _ => hzero (UInt16.ofFin handle)

/-! ## 2. The accounts -/

/-- The counters agree with each other and with the window. -/
structure Accounted (queue : DataPacketQueue α) : Prop where
  total : queue.totalInFlight = queue.inFlight
  bounded : queue.inFlight ≤ queue.maxInFlight
  balance : queue.completed + (queue.waiting + queue.inFlight) = queue.queued

theorem accounted_new {maxInFlight : Nat} {queue : DataPacketQueue α}
    (hnew : new maxInFlight = .ok queue) : queue.Accounted := by
  rw [new] at hnew
  split at hnew
  · cases hnew
  · cases hnew
    refine ⟨totalInFlight_eq_zero ?_, Nat.zero_le _, rfl⟩
    intro handle
    rw [connectionInFlight, Std.ExtTreeMap.getElem?_empty]
    rfl

theorem Accounted.enqueue {queue : DataPacketQueue α} (haccounted : queue.Accounted) (packet : α)
    (handle : UInt16) : (queue.enqueue packet handle).Accounted := by
  refine ⟨haccounted.total, haccounted.bounded, ?_⟩
  have hbalance := haccounted.balance
  simp only [DataPacketQueue.enqueue, waiting, List.length_append, List.length_singleton] at *
  omega

theorem pollReady_cons {queue : DataPacketQueue α} {packet : α} {handle : UInt16}
    {packets : List (α × UInt16)} (hroom : queue.inFlight < queue.maxInFlight)
    (hpackets : queue.packets = (packet, handle) :: packets) :
    queue.pollReady = ({ queue with
      packets
      inFlight := queue.inFlight + 1
      perConnectionInFlight :=
        queue.perConnectionInFlight.insert handle (queue.connectionInFlight handle + 1) },
      some packet) := by
  rw [pollReady, if_neg (Nat.not_le.mpr hroom), hpackets]

theorem pollReady_none_iff (queue : DataPacketQueue α) :
    queue.pollReady.2 = none ↔ queue.packets = [] ∨ queue.maxInFlight ≤ queue.inFlight := by
  by_cases hroom : queue.maxInFlight ≤ queue.inFlight
  · rw [pollReady, if_pos hroom]
    exact iff_of_true rfl (.inr hroom)
  · rw [or_iff_left hroom]
    cases hpackets : queue.packets with
    | nil =>
      rw [pollReady, if_neg hroom, hpackets]
      exact iff_of_true rfl rfl
    | cons entry packets =>
      rw [pollReady_cons (Nat.lt_of_not_le hroom) hpackets]
      exact iff_of_false (Option.some_ne_none _) (List.cons_ne_nil _ _)

theorem pollReady_of_none {queue : DataPacketQueue α} (hnone : queue.pollReady.2 = none) :
    queue.pollReady.1 = queue := by
  rw [pollReady] at *
  split
  · rfl
  · next hroom =>
    rw [if_neg hroom] at hnone
    split
    · rfl
    · next hpackets =>
      rw [hpackets] at hnone
      cases hnone

theorem Accounted.set {queue next : DataPacketQueue α} (haccounted : queue.Accounted)
    {handle : UInt16}
    (hother : ∀ other, other ≠ handle →
      next.connectionInFlight other = queue.connectionInFlight other)
    (hcount : next.inFlight + queue.connectionInFlight handle =
      queue.inFlight + next.connectionInFlight handle)
    (hbounded : next.inFlight ≤ next.maxInFlight)
    (hbalance : next.completed + (next.waiting + next.inFlight) = next.queued) :
    next.Accounted := by
  refine ⟨?_, hbounded, hbalance⟩
  have hchanged := totalInFlight_changed hother
  have htotal := haccounted.total
  omega

theorem Accounted.insert {queue next : DataPacketQueue α} (haccounted : queue.Accounted)
    {handle : UInt16} {count : Nat}
    (hnext : next.perConnectionInFlight = queue.perConnectionInFlight.insert handle count)
    (hcount : next.inFlight + queue.connectionInFlight handle = queue.inFlight + count)
    (hbounded : next.inFlight ≤ next.maxInFlight)
    (hbalance : next.completed + (next.waiting + next.inFlight) = next.queued) :
    next.Accounted := by
  have hget : ∀ other, next.connectionInFlight other =
      if handle = other then count else queue.connectionInFlight other := by
    intro other
    rw [connectionInFlight, hnext, OrderedMap.getElem?_insert]
    split <;> rfl
  apply haccounted.set (fun other hne => (hget other).trans (if_neg (Ne.symm hne))) _ hbounded
    hbalance
  rw [hget, if_pos rfl]
  exact hcount

theorem Accounted.erase {queue next : DataPacketQueue α} (haccounted : queue.Accounted)
    {handle : UInt16}
    (hnext : next.perConnectionInFlight = queue.perConnectionInFlight.erase handle)
    (hcount : next.inFlight + queue.connectionInFlight handle = queue.inFlight)
    (hbounded : next.inFlight ≤ next.maxInFlight)
    (hbalance : next.completed + (next.waiting + next.inFlight) = next.queued) :
    next.Accounted := by
  have hget : ∀ other, next.connectionInFlight other =
      if handle = other then 0 else queue.connectionInFlight other := by
    intro other
    rw [connectionInFlight, hnext, OrderedMap.getElem?_erase]
    split <;> rfl
  apply haccounted.set (fun other hne => (hget other).trans (if_neg (Ne.symm hne))) _ hbounded
    hbalance
  rw [hget, if_pos rfl]
  exact hcount

theorem Accounted.pollReady {queue : DataPacketQueue α} (haccounted : queue.Accounted) :
    queue.pollReady.1.Accounted := by
  cases hpoll : queue.pollReady.2 with
  | none =>
    rw [pollReady_of_none hpoll]
    exact haccounted
  | some packet =>
    have hsome := (pollReady_none_iff queue).not.mp (by rw [hpoll]; exact Option.some_ne_none _)
    rw [not_or, Nat.not_le] at hsome
    obtain ⟨⟨first, handle⟩, packets, hpackets⟩ := List.exists_cons_of_ne_nil hsome.1
    rw [pollReady_cons hsome.2 hpackets]
    have hbalance := haccounted.balance
    rw [waiting, hpackets, List.length_cons] at hbalance
    apply haccounted.insert rfl
    · dsimp only
      omega
    · exact hsome.2
    · simp only [waiting]
      omega

theorem Accounted.onPacketsCompleted {queue : DataPacketQueue α} (haccounted : queue.Accounted)
    (packetCount : Nat) (handle : UInt16) :
    (queue.onPacketsCompleted packetCount handle).state.Accounted := by
  rw [DataPacketQueue.onPacketsCompleted]
  have hle := (queue.connectionInFlight_le_total handle).trans haccounted.total.le
  have hbounded := haccounted.bounded
  have hbalance := haccounted.balance
  rw [waiting] at hbalance
  cases hget : queue.perConnectionInFlight[handle]? with
  | none => exact haccounted
  | some connectionInFlight =>
    have hcurrent : queue.connectionInFlight handle = connectionInFlight := by
      rw [DataPacketQueue.connectionInFlight, hget]
      rfl
    dsimp only
    split
    all_goals
      apply haccounted.insert rfl
      · simp only [Outcome.ok_state, Outcome.fail_state]
        omega
      · simp only [Outcome.ok_state, Outcome.fail_state]
        omega
      · simp only [Outcome.ok_state, Outcome.fail_state, waiting]
        omega

theorem length_retained_le (queue : DataPacketQueue α) (handle : UInt16) :
    (queue.retained handle).length ≤ queue.packets.length := List.length_filter_le _ _

theorem Accounted.flush {queue : DataPacketQueue α} (haccounted : queue.Accounted)
    (handle : UInt16) : (queue.flush handle).1.Accounted := by
  have hle := (queue.connectionInFlight_le_total handle).trans haccounted.total.le
  have hbounded := haccounted.bounded
  have hbalance := haccounted.balance
  have hretained := queue.length_retained_le handle
  rw [waiting] at hbalance
  apply haccounted.erase rfl
  · simp only [DataPacketQueue.flush]
    omega
  · simp only [DataPacketQueue.flush]
    omega
  · simp only [DataPacketQueue.flush, waiting]
    omega

theorem Accounted.flushAll {queue : DataPacketQueue α} (haccounted : queue.Accounted) :
    queue.flushAll.1.Accounted := by
  have hbalance := haccounted.balance
  refine ⟨totalInFlight_eq_zero ?_, Nat.zero_le _, ?_⟩
  · intro handle
    rw [connectionInFlight, DataPacketQueue.flushAll, Std.ExtTreeMap.getElem?_empty]
    rfl
  · simp only [DataPacketQueue.flushAll, waiting, List.length_nil] at *
    omega

theorem Accounted.pending {queue : DataPacketQueue α} (haccounted : queue.Accounted) :
    queue.pending = queue.waiting + queue.inFlight := by
  have hbalance := haccounted.balance
  rw [DataPacketQueue.pending]
  omega

end DataPacketQueue

/-! ## 3. Runs -/

inductive QueueCall (α : Type) where
  | enqueue (packet : α) (connectionHandle : UInt16)
  | pollReady
  | onPacketsCompleted (packetCount : Nat) (connectionHandle : UInt16)
  | flush (connectionHandle : UInt16)
  | flushAll

/-- A queue with, for each handle, the packets enqueued and those returned since its last
flush. -/
structure QueueHistory (α : Type) where
  queue : DataPacketQueue α
  entered : UInt16 → List α := fun _ => []
  returned : UInt16 → List α := fun _ => []

namespace QueueHistory

variable {α : Type}

def record (log : UInt16 → List α) (handle : UInt16) (packet : α) : UInt16 → List α :=
  Function.update log handle (log handle ++ [packet])

def step (history : QueueHistory α) : QueueCall α → QueueHistory α
  | .enqueue packet handle =>
    { history with
      queue := history.queue.enqueue packet handle
      entered := record history.entered handle packet }
  | .pollReady =>
    { history with
      queue := history.queue.pollReady.1
      returned := match history.queue.pollReady.2, history.queue.packets with
        | some packet, (_, handle) :: _ => record history.returned handle packet
        | _, _ => history.returned }
  | .onPacketsCompleted packetCount handle =>
    { history with queue := (history.queue.onPacketsCompleted packetCount handle).state }
  | .flush handle =>
    { queue := (history.queue.flush handle).1
      entered := Function.update history.entered handle []
      returned := Function.update history.returned handle [] }
  | .flushAll => { queue := history.queue.flushAll.1 }

def run (history : QueueHistory α) (calls : List (QueueCall α)) : QueueHistory α :=
  calls.foldl step history

/-- For each handle, what was returned since its last flush and then what waits is what was
enqueued since. -/
def InOrder (history : QueueHistory α) : Prop :=
  ∀ handle, history.entered handle = history.returned handle ++ history.queue.waitingFor handle

theorem record_self (log : UInt16 → List α) (handle : UInt16) (packet : α) :
    record log handle packet handle = log handle ++ [packet] := Function.update_self _ _ _

theorem record_other (log : UInt16 → List α) {handle other : UInt16} (packet : α)
    (hne : other ≠ handle) : record log handle packet other = log other :=
  Function.update_of_ne hne _ _

theorem onPacketsCompleted_packets (queue : DataPacketQueue α) (packetCount : Nat)
    (handle : UInt16) :
    (queue.onPacketsCompleted packetCount handle).state.packets = queue.packets := by
  rw [DataPacketQueue.onPacketsCompleted]
  split
  · rfl
  · split <;> rfl

/-- A call keeps the packets of each connection in the order they entered. -/
theorem InOrder.step {history : QueueHistory α} (horder : history.InOrder) (call : QueueCall α) :
    (history.step call).InOrder := by
  intro other
  have hother := horder other
  cases call with
  | enqueue packet handle =>
    simp only [QueueHistory.step, DataPacketQueue.enqueue, DataPacketQueue.waitingFor,
      List.filter_append, List.map_append] at hother ⊢
    by_cases heq : other = handle
    · subst heq
      rw [record_self, hother, List.append_assoc]
      simp
    · rw [record_other _ _ heq, hother]
      simp [Ne.symm heq]
  | pollReady =>
    cases hpoll : history.queue.pollReady.2 with
    | none =>
      have hsame := DataPacketQueue.pollReady_of_none hpoll
      have hstep : history.step .pollReady = history := by
        rw [QueueHistory.step, hpoll, hsame]
      rw [hstep]
      exact hother
    | some packet =>
      have hsome := (DataPacketQueue.pollReady_none_iff history.queue).not.mp
        (by rw [hpoll]; exact Option.some_ne_none _)
      rw [not_or, Nat.not_le] at hsome
      obtain ⟨⟨first, handle⟩, packets, hpackets⟩ := List.exists_cons_of_ne_nil hsome.1
      have hready := DataPacketQueue.pollReady_cons hsome.2 hpackets
      rw [QueueHistory.step, hready, hpackets]
      rw [DataPacketQueue.waitingFor, hpackets] at hother
      dsimp only [DataPacketQueue.waitingFor]
      by_cases heq : other = handle
      · subst heq
        rw [record_self, hother]
        simp
      · rw [record_other _ _ heq, hother]
        simp [Ne.symm heq]
  | onPacketsCompleted packetCount handle =>
    change history.entered other = history.returned other ++
      DataPacketQueue.waitingFor (history.queue.onPacketsCompleted packetCount handle).state other
    rw [DataPacketQueue.waitingFor, onPacketsCompleted_packets]
    exact hother
  | flush handle =>
    simp only [QueueHistory.step, DataPacketQueue.flush, DataPacketQueue.waitingFor,
      DataPacketQueue.retained, List.filter_filter] at hother ⊢
    by_cases heq : other = handle
    · subst heq
      simp
    · rw [Function.update_of_ne heq, Function.update_of_ne heq, hother]
      congr 2
      apply List.filter_congr
      intro entry _
      by_cases hentry : entry.2 = other
      · simp [hentry, heq]
      · simp [hentry]
  | flushAll => rfl

theorem accounted_step {history : QueueHistory α} (haccounted : history.queue.Accounted)
    (call : QueueCall α) : (history.step call).queue.Accounted := by
  cases call with
  | enqueue packet handle => exact haccounted.enqueue packet handle
  | pollReady => exact haccounted.pollReady
  | onPacketsCompleted packetCount handle => exact haccounted.onPacketsCompleted packetCount handle
  | flush handle => exact haccounted.flush handle
  | flushAll => exact haccounted.flushAll

/-- **Accounts.**  After every sequence of calls on a new queue the counters agree, the window is
kept, the packets of each handle have been returned in their order, each once and none after a
flush, and a packet is refused only when none waits or the window is full. -/
theorem run_accounted {maxInFlight : Nat} {queue : DataPacketQueue α}
    (hnew : DataPacketQueue.new maxInFlight = .ok queue) (calls : List (QueueCall α)) :
    let history := run { queue } calls
    history.queue.inFlight = history.queue.totalInFlight ∧
      history.queue.inFlight ≤ history.queue.maxInFlight ∧
      history.queue.completed ≤ history.queue.queued ∧
      history.queue.queued - history.queue.completed =
        history.queue.waiting + history.queue.inFlight ∧
      (∀ handle, history.queue.connectionInFlight handle ≤ history.queue.inFlight) ∧
      history.InOrder ∧
      (history.queue.pollReady.2 = none ↔
        history.queue.waiting = 0 ∨ history.queue.inFlight = history.queue.maxInFlight) := by
  intro history
  have hboth : history.queue.Accounted ∧ history.InOrder := by
    have hall : ∀ start : QueueHistory α, start.queue.Accounted ∧ start.InOrder →
        (run start calls).queue.Accounted ∧ (run start calls).InOrder := by
      induction calls with
      | nil => exact fun start hstart => hstart
      | cons call calls ih =>
        intro start hstart
        exact ih (start.step call) ⟨accounted_step hstart.1 call, hstart.2.step call⟩
    apply hall
    refine ⟨DataPacketQueue.accounted_new hnew, ?_⟩
    rw [DataPacketQueue.new] at hnew
    split at hnew
    · cases hnew
    · cases hnew
      exact fun handle => rfl
  obtain ⟨haccounted, horder⟩ := hboth
  have hbalance := haccounted.balance
  refine ⟨haccounted.total.symm, haccounted.bounded, by omega, haccounted.pending, ?_, horder, ?_⟩
  · intro handle
    exact (history.queue.connectionInFlight_le_total handle).trans haccounted.total.le
  · rw [DataPacketQueue.pollReady_none_iff, DataPacketQueue.waiting, List.length_eq_zero_iff]
    have hbounded := haccounted.bounded
    constructor
    · exact Or.imp_right fun hfull => Nat.le_antisymm hbounded hfull
    · exact Or.imp_right fun hfull => hfull.ge

/-- Two packets of one connection, one of them in flight. -/
def twoPackets : List (QueueCall Nat) := [.enqueue 7 1, .enqueue 8 1, .pollReady]

theorem twoPackets_accounted :
    DataPacketQueue.new 2 = .ok ({ maxInFlight := 2 } : DataPacketQueue Nat) ∧
      (run { queue := { maxInFlight := 2 } } twoPackets).queue.totalInFlight = 1 := by
  have hnew : DataPacketQueue.new 2 = .ok ({ maxInFlight := 2 } : DataPacketQueue Nat) := rfl
  exact ⟨hnew, (run_accounted hnew twoPackets).1.symm⟩

end QueueHistory

end Bumble.Host
