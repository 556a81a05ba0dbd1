import Bumble.QueueRuns

/-!
# The handles that hold the window

A handle holds a queue while packets of it wait or are in flight.  A disconnection
takes the handle out of every queue, so a connection that ends gives its share of
the window back.  The end of a BIG clears the tables of its streams and leaves the
queues as they are.
-/

namespace Bumble.Host

/-! ## 1. Handles of one queue -/

namespace DataPacketQueue

variable {α : Type}

def Holds (queue : DataPacketQueue α) (handle : UInt16) : Prop :=
  (∃ entry ∈ queue.packets, entry.2 = handle) ∨ 0 < queue.connectionInFlight handle

instance (queue : DataPacketQueue α) (handle : UInt16) : Decidable (queue.Holds handle) :=
  inferInstanceAs (Decidable (_ ∨ _))

/-- Only handles of the given kind hold the queue. -/
def HeldBy (allowed : UInt16 → Prop) (queue : DataPacketQueue α) : Prop :=
  ∀ handle, queue.Holds handle → allowed handle

theorem not_holds_new (maxInFlight : Nat) (handle : UInt16) :
    ¬ ({ maxInFlight } : DataPacketQueue α).Holds handle := by
  rintro (⟨entry, hentry, -⟩ | hcount)
  · exact absurd hentry List.not_mem_nil
  · rw [connectionInFlight, Std.ExtTreeMap.getElem?_empty] at hcount
    exact absurd hcount (Nat.lt_irrefl _)

theorem not_holds_flushAll (queue : DataPacketQueue α) (handle : UInt16) :
    ¬ queue.flushAll.1.Holds handle := by
  rintro (⟨entry, hentry, -⟩ | hcount)
  · exact absurd hentry List.not_mem_nil
  · rw [connectionInFlight, flushAll, Std.ExtTreeMap.getElem?_empty] at hcount
    exact absurd hcount (Nat.lt_irrefl _)

/-- **A flush gives the whole share back**: the handle no longer holds the queue. -/
theorem holds_flush_iff (queue : DataPacketQueue α) (handle other : UInt16) :
    (queue.flush handle).1.Holds other ↔ queue.Holds other ∧ other ≠ handle := by
  have hcount : (queue.flush handle).1.connectionInFlight other =
      if handle = other then 0 else queue.connectionInFlight other := by
    rw [connectionInFlight, flush, OrderedMap.getElem?_erase]
    split_ifs
    · rfl
    · rfl
  have hwaiting : (∃ entry ∈ (queue.flush handle).1.packets, entry.2 = other) ↔
      (∃ entry ∈ queue.packets, entry.2 = other) ∧ other ≠ handle := by
    change (∃ entry ∈ queue.retained handle, entry.2 = other) ↔ _
    constructor
    · rintro ⟨entry, hentry, rfl⟩
      obtain ⟨hmem, hne⟩ := List.mem_filter.mp hentry
      exact ⟨⟨entry, hmem, rfl⟩, of_decide_eq_true hne⟩
    · rintro ⟨⟨entry, hentry, rfl⟩, hne⟩
      exact ⟨entry, List.mem_filter.mpr ⟨hentry, decide_eq_true hne⟩, rfl⟩
  rw [Holds, hcount, hwaiting, Holds, or_and_right]
  apply or_congr_right
  by_cases hsame : handle = other
  · rw [if_pos hsame]
    apply iff_of_false (Nat.lt_irrefl _)
    rintro ⟨-, hne⟩
    exact hne hsame.symm
  · rw [if_neg hsame]
    constructor
    · intro hpositive
      exact ⟨hpositive, Ne.symm hsame⟩
    · intro hboth
      exact hboth.1

theorem holds_enqueue {queue : DataPacketQueue α} {packet : α} {handle other : UInt16}
    (hholds : (queue.enqueue packet handle).Holds other) : queue.Holds other ∨ other = handle := by
  rcases hholds with ⟨entry, hentry, rfl⟩ | hcount
  · rcases List.mem_append.mp hentry with hold | hnew
    · exact Or.inl (Or.inl ⟨entry, hold, rfl⟩)
    · right
      rw [List.mem_singleton.mp hnew]
  · exact Or.inl (Or.inr hcount)

theorem holds_pollReady {queue : DataPacketQueue α} {other : UInt16}
    (hholds : queue.pollReady.1.Holds other) : queue.Holds other := by
  cases hpoll : queue.pollReady.2 with
  | none =>
    rw [pollReady_of_none hpoll] at hholds
    exact hholds
  | some packet =>
    have hsome := (pollReady_none_iff queue).not.mp (by rw [hpoll]; exact Option.some_ne_none _)
    rw [not_or, Nat.not_le] at hsome
    obtain ⟨⟨first, handle⟩, packets, hpackets⟩ := List.exists_cons_of_ne_nil hsome.1
    rw [pollReady_cons hsome.2 hpackets] at hholds
    rcases hholds with ⟨entry, hentry, hhandle⟩ | hcount
    · left
      refine ⟨entry, ?_, hhandle⟩
      rw [hpackets]
      exact List.mem_cons_of_mem _ hentry
    · by_cases hsame : handle = other
      · left
        refine ⟨(first, handle), ?_, hsame⟩
        rw [hpackets]
        exact List.mem_cons_self
      · right
        rw [connectionInFlight, OrderedMap.getElem?_insert, if_neg hsame] at hcount
        exact hcount

theorem holds_onPacketsCompleted {queue : DataPacketQueue α} {count : Nat} {handle other : UInt16}
    (hholds : (queue.onPacketsCompleted count handle).state.Holds other) : queue.Holds other := by
  have hcounts : (queue.onPacketsCompleted count handle).state.connectionInFlight other ≤
      queue.connectionInFlight other := by
    rw [onPacketsCompleted]
    cases hget : queue.perConnectionInFlight[handle]? with
    | none => exact le_rfl
    | some inFlight =>
      by_cases hsame : handle = other
      · have hcurrent : queue.connectionInFlight other = inFlight := by
          rw [connectionInFlight, ← hsame, hget]
          rfl
        rw [hcurrent]
        simp only
        split_ifs
        · simp only [Outcome.fail_state, connectionInFlight, OrderedMap.getElem?_insert,
            if_pos hsame]
          exact Nat.zero_le _
        · simp only [Outcome.ok_state, connectionInFlight, OrderedMap.getElem?_insert,
            if_pos hsame]
          exact Nat.sub_le _ _
      · simp only
        split_ifs
        · simp only [Outcome.fail_state, connectionInFlight, OrderedMap.getElem?_insert,
            if_neg hsame]
          exact le_rfl
        · simp only [Outcome.ok_state, connectionInFlight, OrderedMap.getElem?_insert,
            if_neg hsame]
          exact le_rfl
  rcases hholds with hwaiting | hcount
  · rw [QueueHistory.onPacketsCompleted_packets] at hwaiting
    exact Or.inl hwaiting
  · exact Or.inr (hcount.trans_le hcounts)

end DataPacketQueue

theorem heldBy_keptByQueues (allowed : UInt16 → Prop) :
    KeptByQueues (fun _ queue => queue.HeldBy allowed) allowed where
  enqueue := by
    intro α queue packet handle hallowed hheld other hholds
    rcases DataPacketQueue.holds_enqueue hholds with hold | rfl
    · exact hheld other hold
    · exact hallowed
  pollReady := by
    intro α queue hheld other hholds
    exact hheld other (DataPacketQueue.holds_pollReady hholds)
  completed := by
    intro α queue count handle hheld other hholds
    exact hheld other (DataPacketQueue.holds_onPacketsCompleted hholds)

theorem heldBy_keptByFlushes (allowed : UInt16 → Prop) :
    KeptByFlushes fun _ queue => queue.HeldBy allowed where
  new := by
    intro α maxInFlight other hholds
    exact absurd hholds (DataPacketQueue.not_holds_new maxInFlight other)
  flush := by
    intro α queue handle hheld other hholds
    exact hheld other ((DataPacketQueue.holds_flush_iff queue handle other).mp hholds).1
  flushAll := by
    intro α queue _ other hholds
    exact absurd hholds (DataPacketQueue.not_holds_flushAll queue other)

namespace HostQueues

variable {L : Type} {port : LinkPort L} {device : HostQueues L}

/-! ## 2. Handles of a device -/

/-- A connection or a CIS of the device has the handle. -/
def Connected (device : HostQueues L) (handle : UInt16) : Prop :=
  handle ∈ device.leConnections ∨ handle ∈ device.classicConnections ∨
    handle ∈ device.synchronousConnections ∨ handle ∈ device.cisLinks

/-- A connection, CIS or BIS of the device has the handle. -/
def Exists (device : HostQueues L) (handle : UInt16) : Prop :=
  device.Connected handle ∨ handle ∈ device.bisDirections

instance (device : HostQueues L) (handle : UInt16) : Decidable (device.Exists handle) :=
  inferInstanceAs (Decidable ((_ ∨ _ ∨ _ ∨ _) ∨ _))

/-- Some queue of the device is held by the handle. -/
def Holds (device : HostQueues L) (handle : UInt16) : Prop :=
  device.aclPacketQueue.Holds handle ∨ (∃ pool ∈ device.leAclPool, pool.queue.Holds handle) ∨
    ∃ pool ∈ device.isoPool, pool.queue.Holds handle

/-- **No dead handle holds the window.** -/
def NoDeadHandle (device : HostQueues L) : Prop :=
  ∀ handle, device.Holds handle → device.Exists handle

theorem heldBy_iff (allowed : UInt16 → Prop) :
    device.AllQueues (fun _ queue => queue.HeldBy allowed) ↔
      ∀ handle, device.Holds handle → allowed handle := by
  constructor
  · rintro hall handle (hacl | ⟨pool, hpool, hle⟩ | ⟨pool, hpool, hiso⟩)
    · exact hall.acl handle hacl
    · exact hall.le pool hpool handle hle
    · exact hall.iso pool hpool handle hiso
  · intro hall
    refine ⟨?_, ?_, ?_⟩
    · intro handle hholds
      exact hall handle (Or.inl hholds)
    · intro pool hpool handle hholds
      exact hall handle (Or.inr (Or.inl ⟨pool, hpool, hholds⟩))
    · intro pool hpool handle hholds
      exact hall handle (Or.inr (Or.inr ⟨pool, hpool, hholds⟩))

theorem holds_disconnected {handle other : UInt16}
    (hholds : (device.disconnected handle).Holds other) : device.Holds other ∧ other ≠ handle := by
  rcases hholds with hacl | ⟨pool, hpool, hle⟩ | ⟨pool, hpool, hiso⟩
  · obtain ⟨hheld, hne⟩ := (DataPacketQueue.holds_flush_iff _ _ _).mp hacl
    exact ⟨Or.inl hheld, hne⟩
  · obtain ⟨found, hfound, rfl⟩ := Option.map_eq_some_iff.mp hpool
    obtain ⟨hheld, hne⟩ := (DataPacketQueue.holds_flush_iff _ _ _).mp hle
    exact ⟨Or.inr (Or.inl ⟨found, hfound, hheld⟩), hne⟩
  · obtain ⟨found, hfound, rfl⟩ := Option.map_eq_some_iff.mp hpool
    obtain ⟨hheld, hne⟩ := (DataPacketQueue.holds_flush_iff _ _ _).mp hiso
    exact ⟨Or.inr (Or.inr ⟨found, hfound, hheld⟩), hne⟩

theorem exists_disconnected {handle other : UInt16} (hexists : device.Exists other)
    (hne : other ≠ handle) : (device.disconnected handle).Exists other := by
  have hcompare : ¬ compare handle other = .eq := by
    rw [Std.LawfulEqOrd.compare_eq_iff_eq]
    exact Ne.symm hne
  rcases hexists with (hle | hclassic | hsynchronous | hcis) | hbis
  · exact Or.inl (Or.inl (Std.ExtTreeSet.mem_erase.mpr ⟨hcompare, hle⟩))
  · exact Or.inl (Or.inr (Or.inl (Std.ExtTreeSet.mem_erase.mpr ⟨hcompare, hclassic⟩)))
  · exact Or.inl (Or.inr (Or.inr (Or.inl
      (List.mem_filter.mpr ⟨hsynchronous, decide_eq_true hne⟩))))
  · exact Or.inl (Or.inr (Or.inr (Or.inr (Std.ExtTreeSet.mem_erase.mpr ⟨hcompare, hcis⟩))))
  · exact Or.inr hbis

/-! ## 3. Streams -/

theorem mem_addBisHandles (direction : UInt8) (handles : List UInt16) {other : UInt16} :
    ∀ {device : HostQueues L}, other ∈ device.bisDirections →
      other ∈ (device.addBisHandles direction handles).bisDirections := by
  induction handles with
  | nil =>
    intro device hother
    exact hother
  | cons handle handles ih =>
    intro device hother
    apply ih
    exact Std.ExtTreeMap.mem_insert.mpr (Or.inr hother)

theorem mem_clearBisHandles (handles : List UInt16) {other : UInt16} :
    ∀ {device : HostQueues L}, other ∈ device.bisDirections → other ∉ handles →
      other ∈ (handles.foldl clearBisHandle device).bisDirections := by
  induction handles with
  | nil =>
    intro device hother _
    exact hother
  | cons handle handles ih =>
    intro device hother hnot
    rw [List.mem_cons, not_or] at hnot
    apply ih _ hnot.2
    apply Std.ExtTreeMap.mem_erase.mpr
    refine ⟨?_, hother⟩
    rw [ne_eq, Std.LawfulEqOrd.compare_eq_iff_eq]
    exact Ne.symm hnot.1

theorem not_mem_clearBisHandles {handles : List UInt16} {other : UInt16}
    (hmem : other ∈ handles) : ∀ device : HostQueues L,
      other ∉ (handles.foldl clearBisHandle device).bisDirections := by
  have hkeeps : ∀ (handles : List UInt16) {device : HostQueues L},
      other ∉ device.bisDirections →
        other ∉ (handles.foldl clearBisHandle device).bisDirections := by
    intro handles
    induction handles with
    | nil =>
      intro device hnot
      exact hnot
    | cons handle handles ih =>
      intro device hnot
      apply ih
      intro herased
      exact hnot (Std.ExtTreeMap.mem_of_mem_erase herased)
  induction handles with
  | nil => exact absurd hmem List.not_mem_nil
  | cons handle handles ih =>
    intro device
    rcases List.mem_cons.mp hmem with rfl | hlater
    · refine hkeeps handles ?_
      intro herased
      change other ∈ device.bisDirections.erase other at herased
      have hne := (Std.ExtTreeMap.mem_erase.mp herased).1
      rw [ne_eq, Std.LawfulEqOrd.compare_eq_iff_eq] at hne
      exact hne rfl
    · exact ih hlater _

theorem exists_addBisHandles (direction : UInt8) (handles : List UInt16) {other : UInt16}
    (hexists : device.Exists other) : (device.addBisHandles direction handles).Exists other := by
  rcases hexists with hconnected | hbis
  · obtain ⟨directions, numbers, hframe⟩ := addBisHandles_frame direction handles device
    rw [hframe]
    exact Or.inl hconnected
  · exact Or.inr (mem_addBisHandles direction handles hbis)

/-- What must hold of the event for no dead handle to appear: a handler sends on live
handles, and a BIG ends only when none of its streams holds a queue on its own. -/
def SettledEvent (device : HostQueues L) : HostEvent → Prop
  | .other sends => ∀ send ∈ sends, device.Exists send.handle
  | .terminateBigComplete bigHandle =>
    ∀ handle ∈ device.bigs[bigHandle]?.getD [], device.Holds handle → device.Connected handle
  | .bigSyncLost bigHandle =>
    ∀ handle ∈ device.bigSyncs[bigHandle]?.getD [], device.Holds handle → device.Connected handle
  | _ => True

theorem exists_sendAll (sends : List L2capSend) (handle : UInt16) : ∀ {device : HostQueues L},
    (device.sendAll port sends).Exists handle ↔ device.Exists handle := by
  induction sends with
  | nil =>
    intro device
    rfl
  | cons send sends ih =>
    intro device
    obtain ⟨link, acl, le, hframe⟩ :=
      sendL2capOnHandle_frame port device send.handle send.cid send.payload
    rw [sendAll, List.foldl_cons, hframe]
    exact ih

theorem exists_completions (entries : List (UInt16 × UInt16)) (handle : UInt16) :
    ∀ {device : HostQueues L},
      (entries.foldl (fun device entry => device.packetsCompleted entry.1 entry.2.toNat)
        device).Exists handle ↔ device.Exists handle := by
  induction entries with
  | nil =>
    intro device
    rfl
  | cons entry entries ih =>
    intro device
    obtain ⟨acl, le, iso, hframe⟩ := packetsCompleted_frame device entry.1 entry.2.toNat
    rw [List.foldl_cons, hframe]
    exact ih

theorem exists_clearBisHandles {handles : List UInt16} {other : UInt16}
    (hexists : device.Exists other) (hstream : other ∈ handles → device.Connected other) :
    (handles.foldl clearBisHandle device).Exists other := by
  by_cases hmem : other ∈ handles
  · obtain ⟨directions, numbers, hframe⟩ := clearBisHandles_frame handles device
    rw [hframe]
    exact Or.inl (hstream hmem)
  · rcases hexists with hconnected | hbis
    · obtain ⟨directions, numbers, hframe⟩ := clearBisHandles_frame handles device
      rw [hframe]
      exact Or.inl hconnected
    · exact Or.inr (mem_clearBisHandles handles hbis hmem)

/-- **Which handles an event forgets**: that of a disconnection and the streams of a BIG
that ends. -/
theorem exists_handleEvent {event : HostEvent} {other : UInt16} (hexists : device.Exists other)
    (hdisconnected : ∀ handle, event = .disconnectionComplete 0 handle → other ≠ handle)
    (hterminated : ∀ bigHandle, event = .terminateBigComplete bigHandle →
      other ∈ device.bigs[bigHandle]?.getD [] → device.Connected other)
    (hlost : ∀ bigHandle, event = .bigSyncLost bigHandle →
      other ∈ device.bigSyncs[bigHandle]?.getD [] → device.Connected other) :
    (device.handleEvent port event).Exists other := by
  cases event with
  | resetComplete status => exact hexists
  | leConnectionComplete status handle =>
    rw [handleEvent]
    split_ifs
    · rcases hexists with (hle | hrest) | hbis
      · exact Or.inl (Or.inl (Std.ExtTreeSet.mem_insert.mpr (Or.inr hle)))
      · exact Or.inl (Or.inr hrest)
      · exact Or.inr hbis
    · exact hexists
  | connectionComplete status handle =>
    rw [handleEvent]
    split_ifs
    · rcases hexists with (hle | hclassic | hrest) | hbis
      · exact Or.inl (Or.inl hle)
      · exact Or.inl (Or.inr (Or.inl (Std.ExtTreeSet.mem_insert.mpr (Or.inr hclassic))))
      · exact Or.inl (Or.inr (Or.inr hrest))
      · exact Or.inr hbis
    · exact hexists
  | synchronousConnectionComplete status handle =>
    rw [handleEvent]
    split_ifs
    · rcases hexists with (hle | hclassic | hsynchronous | hcis) | hbis
      · exact Or.inl (Or.inl hle)
      · exact Or.inl (Or.inr (Or.inl hclassic))
      · exact Or.inl (Or.inr (Or.inr (Or.inl (List.mem_append_left _ hsynchronous))))
      · exact Or.inl (Or.inr (Or.inr (Or.inr hcis)))
      · exact Or.inr hbis
    · exact hexists
  | cisEstablished status handle =>
    rw [handleEvent]
    split_ifs
    · rcases hexists with (hle | hclassic | hsynchronous | hcis) | hbis
      · exact Or.inl (Or.inl hle)
      · exact Or.inl (Or.inr (Or.inl hclassic))
      · exact Or.inl (Or.inr (Or.inr (Or.inl hsynchronous)))
      · exact Or.inl (Or.inr (Or.inr (Or.inr (Std.ExtTreeSet.mem_insert.mpr (Or.inr hcis)))))
      · exact Or.inr hbis
    · exact hexists
  | createBigComplete status bigHandle handles =>
    rw [handleEvent]
    split_ifs
    · exact exists_addBisHandles 0 handles hexists
    · exact hexists
  | terminateBigComplete bigHandle =>
    have hstart : ({ device with bigs := device.bigs.erase bigHandle } : HostQueues L).Exists
        other := hexists
    exact exists_clearBisHandles hstart (hterminated bigHandle rfl)
  | bigSyncEstablished status bigHandle handles =>
    rw [handleEvent]
    split_ifs
    · exact exists_addBisHandles 1 handles hexists
    · exact hexists
  | bigSyncLost bigHandle =>
    have hstart : ({ device with bigSyncs := device.bigSyncs.erase bigHandle } :
        HostQueues L).Exists other := hexists
    exact exists_clearBisHandles hstart (hlost bigHandle rfl)
  | disconnectionComplete status handle =>
    rw [handleEvent]
    split_ifs with hstatus
    · exact exists_disconnected hexists (hdisconnected handle (by rw [hstatus]))
    · exact hexists
  | numberOfCompletedPackets handles counts =>
    rw [handleEvent]
    have hcompleted := (exists_completions (handles.zip counts) other).mpr hexists
    generalize (handles.zip counts).foldl
      (fun device entry => device.packetsCompleted entry.1 entry.2.toNat) device = completed at *
    obtain ⟨link, acl, le, hacl⟩ := flushAclQueue_frame port completed
    rw [hacl]
    obtain ⟨later, iso, hiso⟩ := flushIsoQueue_frame port { completed with
      link, aclPacketQueue := acl, leAclPool := le }
    rw [hiso]
    exact hcompleted
  | readBufferSize status length count =>
    rw [handleEvent]
    split_ifs <;> exact hexists
  | leReadBufferSize status length count =>
    rw [handleEvent]
    split_ifs <;> exact hexists
  | leReadBufferSizeV2 status length count isoLength isoCount =>
    rw [handleEvent]
    split_ifs <;> exact hexists
  | other sends => exact (exists_sendAll sends other).mpr hexists

/-! ## 4. Runs -/

/-- **One event.**  A settled event leaves no dead handle. -/
theorem NoDeadHandle.handleEvent (hlive : device.NoDeadHandle) {event : HostEvent}
    (hsettled : device.SettledEvent event) : (device.handleEvent port event).NoDeadHandle := by
  -- nothing but the handles that existed before can hold a queue
  have hheld : ∀ handle, (device.handleEvent port event).Holds handle → device.Exists handle := by
    rw [← heldBy_iff]
    apply AllQueues.handleEvent (heldBy_keptByQueues device.Exists)
      (heldBy_keptByFlushes device.Exists) ((heldBy_iff device.Exists).mpr hlive)
    intro sends hevent
    rw [hevent] at hsettled
    exact hsettled
  intro handle hholds
  apply exists_handleEvent (hheld handle hholds)
  · intro gone hevent
    rw [hevent, HostQueues.handleEvent, if_pos rfl] at hholds
    exact (holds_disconnected hholds).2
  · intro bigHandle hevent hstream
    rw [hevent] at hsettled hholds
    apply hsettled handle hstream
    obtain ⟨directions, numbers, hframe⟩ := clearBisHandles_frame
      (device.bigs[bigHandle]?.getD []) { device with bigs := device.bigs.erase bigHandle }
    rw [HostQueues.handleEvent, hframe] at hholds
    exact hholds
  · intro bigHandle hevent hstream
    rw [hevent] at hsettled hholds
    apply hsettled handle hstream
    obtain ⟨directions, numbers, hframe⟩ := clearBisHandles_frame
      (device.bigSyncs[bigHandle]?.getD [])
      { device with bigSyncs := device.bigSyncs.erase bigHandle }
    rw [HostQueues.handleEvent, hframe] at hholds
    exact hholds

theorem NoDeadHandle.pollEvent (hlive : device.NoDeadHandle) {event : HostEvent}
    (hsettled : device.controllerReady → device.SettledEvent event) :
    (device.pollEvent port event).NoDeadHandle := by
  by_cases hready : device.controllerReady
  · rw [pollEvent_ready hready]
    exact hlive.handleEvent (hsettled hready)
  · rcases pollEvent_not_ready port hready event with hsame | ⟨status, hevent, hsame⟩
    · rw [hsame]
      exact hlive
    · rw [hsame, hevent]
      exact hlive.handleEvent trivial

/-- A call is settled when its ACL payload goes to a live handle and, in a poll, each event
that is handled is. -/
def SettledCall (port : LinkPort L) (device : HostQueues L) : HostCall → Prop
  | .poll events =>
    device.EventsMeet port
      (fun device event => device.controllerReady → device.SettledEvent event) events
  | .sendL2capOnHandle send => device.Exists send.handle
  | _ => True

theorem noDeadHandle_of_empty (hempty : ∀ handle, ¬ device.Holds handle) : device.NoDeadHandle :=
  fun handle hholds => absurd hholds (hempty handle)

theorem NoDeadHandle.of_frame {later : HostQueues L}
    (hheld : later.AllQueues fun _ queue => queue.HeldBy device.Exists)
    (htables : ∀ handle, device.Exists handle → later.Exists handle) : later.NoDeadHandle := by
  intro handle hholds
  exact htables handle ((heldBy_iff device.Exists).mp hheld handle hholds)

/-- **One call.** -/
theorem NoDeadHandle.apply (hlive : device.NoDeadHandle) {call : HostCall}
    (hsettled : device.SettledCall port call) : (device.apply port call).NoDeadHandle := by
  have hheld := (heldBy_iff device.Exists).mpr hlive
  have hflushes := heldBy_keptByFlushes device.Exists
  cases call with
  | poll events =>
    apply poll_kept _ hlive hsettled
    intro device event hlive hmeets
    exact hlive.pollEvent hmeets
  | sendL2capOnHandle send =>
    apply NoDeadHandle.of_frame (AllQueues.sendL2capOnHandle (heldBy_keptByQueues device.Exists)
      hheld hsettled send.cid send.payload)
    obtain ⟨link, acl, le, hframe⟩ :=
      sendL2capOnHandle_frame port device send.handle send.cid send.payload
    intro handle hexists
    rw [hframe]
    exact hexists
  | sendIsoSdu isoHandle sdu =>
    have hcan : device.canSendIso isoHandle → device.Exists isoHandle := by
      intro hcan
      rw [canSendIso, Bool.or_eq_true, decide_eq_true_eq, decide_eq_true_eq] at hcan
      rcases hcan with hcis | hbis
      · exact Or.inl (Or.inr (Or.inr (Or.inr hcis)))
      · right
        rw [Std.ExtTreeMap.mem_iff_contains, OrderedMap.contains_iff]
        exact ⟨0, hbis⟩
    apply NoDeadHandle.of_frame (AllQueues.sendIsoSdu (heldBy_keptByQueues device.Exists) hheld
      hcan sdu)
    obtain ⟨link, numbers, iso, hframe⟩ := sendIsoSdu_frame port device isoHandle sdu
    intro handle hexists
    rw [hframe]
    exact hexists
  | configureControllerPacketPools classicAcl leAcl iso =>
    apply NoDeadHandle.of_frame (AllQueues.configured hflushes.new hheld classicAcl leAcl iso)
    intro handle hexists
    rw [configureControllerPacketPools]
    split_ifs <;> exact hexists
  | setAclDataPacketLength length =>
    rw [HostQueues.apply, setAclDataPacketLength]
    split_ifs <;> exact hlive
  | setAclMaxInFlight count =>
    apply NoDeadHandle.of_frame (AllQueues.setAclMaxInFlight hflushes.new hheld count)
    intro handle hexists
    unfold setAclMaxInFlight
    split_ifs
    · exact hexists
    · rw [DataPacketQueue.new]
      split_ifs <;> exact hexists
  | flush =>
    apply noDeadHandle_of_empty
    rintro handle (hacl | ⟨pool, hpool, hle⟩ | ⟨pool, hpool, hiso⟩)
    · exact DataPacketQueue.not_holds_flushAll _ handle hacl
    · obtain ⟨found, -, rfl⟩ := Option.map_eq_some_iff.mp hpool
      exact DataPacketQueue.not_holds_flushAll _ handle hle
    · obtain ⟨found, -, rfl⟩ := Option.map_eq_some_iff.mp hpool
      exact DataPacketQueue.not_holds_flushAll _ handle hiso
  | reset inUse =>
    apply noDeadHandle_of_empty
    rintro handle (hacl | ⟨pool, hpool, -⟩ | ⟨pool, hpool, -⟩)
    · exact DataPacketQueue.not_holds_new 64 handle hacl
    · cases hpool
    · cases hpool

/-! ## 5. Streams that end -/

theorem noDeadHandle_terminated_iff (hlive : device.NoDeadHandle) (bigHandle : UInt8) :
    (device.handleEvent port (.terminateBigComplete bigHandle)).NoDeadHandle ↔
      device.SettledEvent (.terminateBigComplete bigHandle) := by
  constructor
  · intro hafter handle hstream hholds
    obtain ⟨directions, numbers, hframe⟩ := clearBisHandles_frame
      (device.bigs[bigHandle]?.getD []) { device with bigs := device.bigs.erase bigHandle }
    have hgone := not_mem_clearBisHandles hstream
      { device with bigs := device.bigs.erase bigHandle }
    rw [handleEvent] at hafter
    rw [hframe] at hafter hgone
    rcases hafter handle hholds with hconnected | hbis
    · exact hconnected
    · exact absurd hbis hgone
  · intro hsettled
    exact hlive.handleEvent hsettled

/-- **Settled runs.**  In each state that settled calls reach every handle that holds a
queue belongs to a connection, CIS or BIS of the device; and there a BIG may end without
leaving a dead handle exactly when none of its streams holds a queue on its own. -/
theorem noDeadHandle_of_settled (port : LinkPort L) (link : L)
    (hreached : Reached port (SettledCall port) link device) :
    device.NoDeadHandle ∧ ∀ bigHandle, device.controllerReady →
      ((device.poll port [.terminateBigComplete bigHandle]).NoDeadHandle ↔
        ∀ handle ∈ device.bigs[bigHandle]?.getD [], device.Holds handle →
          device.Connected handle) := by
  have hlive : device.NoDeadHandle := by
    induction hreached with
    | new =>
      apply noDeadHandle_of_empty
      rintro handle (hacl | ⟨pool, hpool, -⟩ | ⟨pool, hpool, -⟩)
      · exact DataPacketQueue.not_holds_new 64 handle hacl
      · exact nomatch hpool
      · exact nomatch hpool
    | call call _ hsettled ih => exact ih.apply hsettled
  refine ⟨hlive, ?_⟩
  intro bigHandle hready
  have hpoll : device.poll port [.terminateBigComplete bigHandle] =
      device.handleEvent port (.terminateBigComplete bigHandle) := by
    change device.pollEvent port (.terminateBigComplete bigHandle) = _
    rw [pollEvent_ready hready]
  rw [hpoll]
  exact noDeadHandle_terminated_iff hlive bigHandle

/-- A BIG with one stream, on a controller with a pool of two ISO packets. -/
def broadcast : List HostCall :=
  [.poll [.leReadBufferSizeV2 0 251 4 120 2, .createBigComplete 0 1 [0x60]],
    .sendIsoSdu 0x60 [0x0A]]

/-- The run up to the SDU is settled. -/
theorem noDeadHandle_broadcast :
    Reached acceptingPort (SettledCall acceptingPort) ()
      (run acceptingPort { link := () } broadcast) ∧
      (run acceptingPort { link := () } broadcast).NoDeadHandle := by
  have hcreated : Reached acceptingPort (SettledCall acceptingPort) ()
    (apply acceptingPort { link := () }
      (.poll [.leReadBufferSizeV2 0 251 4 120 2, .createBigComplete 0 1 [0x60]])) :=
    .call _ .new ⟨fun _ => trivial, fun _ => trivial, trivial⟩
  have hreached := Reached.call (.sendIsoSdu 0x60 [0x0A]) hcreated trivial
  exact ⟨hreached, (noDeadHandle_of_settled acceptingPort () hreached).1⟩

/-- When the BIG ends, its packet in flight stays counted against the ISO window under a
handle that names nothing. -/
theorem broadcast_leaks : ¬ ∀ calls : List HostCall,
    (run acceptingPort { link := () } calls).NoDeadHandle := by
  intro hnever
  have hdead := hnever (broadcast ++ [.poll [.terminateBigComplete 1]]) 0x60
  have hholds : (run acceptingPort { link := () }
      (broadcast ++ [.poll [.terminateBigComplete 1]])).isoPool.any
        (fun pool => pool.queue.Holds 0x60) = true := by decide
  obtain ⟨pool, hpool, hheld⟩ := (Option.any_eq_true _ _).mp hholds
  have hexists := hdead (Or.inr (Or.inr ⟨pool, hpool, of_decide_eq_true hheld⟩))
  revert hexists
  decide

end HostQueues

end Bumble.Host
