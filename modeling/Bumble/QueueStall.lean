import Bumble.QueueRuns

/-!
# No packet waits beside a free slot

A queue is saturated when nothing waits or the window is full.  The flush loops
establish this and everything else keeps it, except a disconnection, which gives
slots back without sending: the queues then stay as they are until the next flush.
-/

namespace Bumble.Host

/-! ## 1. Saturated queues -/

namespace DataPacketQueue

variable {α : Type}

def Saturated (queue : DataPacketQueue α) : Prop :=
  queue.packets = [] ∨ queue.maxInFlight ≤ queue.inFlight

/-- The connection has packets in flight while packets of others wait. -/
def FreesSlots (queue : DataPacketQueue α) (handle : UInt16) : Prop :=
  0 < queue.connectionInFlight handle ∧ ∃ entry ∈ queue.packets, entry.2 ≠ handle

theorem saturated_new (maxInFlight : Nat) : ({ maxInFlight } : DataPacketQueue α).Saturated :=
  Or.inl rfl

theorem saturated_flushAll (queue : DataPacketQueue α) : queue.flushAll.1.Saturated := Or.inl rfl

theorem pollReady_packets (queue : DataPacketQueue α) {packet : α}
    (hready : queue.pollReady.2 = some packet) :
    queue.packets.length = queue.pollReady.1.packets.length + 1 := by
  have hsome := (pollReady_none_iff queue).not.mp (by rw [hready]; exact Option.some_ne_none _)
  rw [not_or, Nat.not_le] at hsome
  obtain ⟨⟨first, handle⟩, packets, hpackets⟩ := List.exists_cons_of_ne_nil hsome.1
  rw [pollReady_cons hsome.2 hpackets, hpackets]
  rfl

/-- **What a disconnection does to a saturated queue.**  It stays saturated exactly when
the connection had nothing in flight or only its own packets were waiting. -/
theorem saturated_flush_iff {queue : DataPacketQueue α} (haccounted : queue.Accounted)
    (hsaturated : queue.Saturated) (handle : UInt16) :
    (queue.flush handle).1.Saturated ↔ ¬ queue.FreesSlots handle := by
  have hle := (queue.connectionInFlight_le_total handle).trans haccounted.total.le
  have hbounded := haccounted.bounded
  have hretained : (queue.flush handle).1.packets = [] ↔
      ¬ ∃ entry ∈ queue.packets, entry.2 ≠ handle := by
    change queue.retained handle = [] ↔ _
    rw [retained, List.filter_eq_nil_iff]
    simp only [decide_eq_true_eq, not_exists, not_and]
  have hroom : (queue.flush handle).1.maxInFlight ≤ (queue.flush handle).1.inFlight ↔
      queue.maxInFlight ≤ queue.inFlight - queue.connectionInFlight handle := Iff.rfl
  rw [Saturated, hretained, hroom, FreesSlots, not_and_or, or_comm]
  rcases hsaturated with hempty | hfull
  · have hnone : ¬ ∃ entry ∈ queue.packets, entry.2 ≠ handle := by
      rintro ⟨entry, hentry, -⟩
      rw [hempty] at hentry
      exact absurd hentry List.not_mem_nil
    exact iff_of_true (Or.inr hnone) (Or.inr hnone)
  · apply or_congr_left
    omega

theorem saturated_flushLoop {L : Type} (send : L → α → L × Bool) (handleOf : α → UInt16)
    (fuel : Nat) : ∀ {link : L} {queue : DataPacketQueue α} {success : Bool},
      queue.packets.length < fuel →
        (flushLoop send handleOf fuel link queue success).2.1.Saturated := by
  induction fuel with
  | zero =>
    intro link queue success hfuel
    exact absurd hfuel (Nat.not_lt_zero _)
  | succ fuel ih =>
    intro link queue success hfuel
    rw [flushLoop]
    rcases hpoll : queue.pollReady with ⟨later, packet⟩
    cases packet with
    | none =>
      have hnone : queue.pollReady.2 = none := by rw [hpoll]
      have hsame := pollReady_of_none hnone
      rw [hpoll] at hsame
      change later.Saturated
      rw [show later = queue from hsame]
      exact (pollReady_none_iff queue).mp hnone
    | some packet =>
      have hlength := pollReady_packets queue (by rw [hpoll])
      rw [hpoll] at hlength
      simp only at hlength ⊢
      split_ifs
      · apply ih
        omega
      · apply ih
        rw [QueueHistory.onPacketsCompleted_packets]
        omega

theorem saturated_flushQueue {L : Type} (send : L → α → L × Bool) (handleOf : α → UInt16)
    (link : L) (queue : DataPacketQueue α) :
    (flushQueue send handleOf link queue).2.1.Saturated :=
  saturated_flushLoop send handleOf _ (Nat.lt_succ_self _)

end DataPacketQueue

theorem accounted_keptByQueues :
    KeptByQueues (fun _ queue => queue.Accounted) fun _ => True where
  enqueue := by
    intro α queue packet handle _ haccounted
    exact haccounted.enqueue packet handle
  pollReady := by
    intro α queue haccounted
    exact haccounted.pollReady
  completed := by
    intro α queue count handle haccounted
    exact haccounted.onPacketsCompleted count handle

theorem accounted_keptByFlushes : KeptByFlushes fun _ queue => queue.Accounted where
  new := by
    intro α maxInFlight
    refine ⟨DataPacketQueue.totalInFlight_eq_zero ?_, Nat.zero_le _, rfl⟩
    intro handle
    rw [DataPacketQueue.connectionInFlight, Std.ExtTreeMap.getElem?_empty]
    rfl
  flush := by
    intro α queue handle haccounted
    exact haccounted.flush handle
  flushAll := by
    intro α queue haccounted
    exact haccounted.flushAll

/-! ## 2. Saturated devices -/

namespace HostQueues

variable {L : Type} {port : LinkPort L} {device : HostQueues L}

def Accounted (device : HostQueues L) : Prop := device.AllQueues fun _ queue => queue.Accounted

def Saturated (device : HostQueues L) : Prop := device.AllQueues fun _ queue => queue.Saturated

/-- The end of the connection frees slots in a queue in which others wait. -/
def FreesSlots (device : HostQueues L) (handle : UInt16) : Prop :=
  device.aclPacketQueue.FreesSlots handle ∨
    (∃ pool ∈ device.leAclPool, pool.queue.FreesSlots handle) ∨
    ∃ pool ∈ device.isoPool, pool.queue.FreesSlots handle

theorem flushAclQueue_saturated (port : LinkPort L) (device : HostQueues L) :
    (device.flushAclQueue port).1.aclPacketQueue.Saturated ∧
      ∀ pool ∈ (device.flushAclQueue port).1.leAclPool, pool.queue.Saturated := by
  rw [flushAclQueue]
  cases hpool : device.leAclPool with
  | none =>
    refine ⟨DataPacketQueue.saturated_flushQueue _ _ _ _, ?_⟩
    intro pool hmem
    cases hmem
  | some pool =>
    refine ⟨DataPacketQueue.saturated_flushQueue _ _ _ _, ?_⟩
    apply forall_some (P := fun pool : PacketPool _ => pool.queue.Saturated)
    exact DataPacketQueue.saturated_flushQueue _ _ _ _

theorem flushAclQueue_keeps (port : LinkPort L) (device : HostQueues L)
    (hiso : ∀ pool ∈ device.isoPool, pool.queue.Saturated) :
    (device.flushAclQueue port).1.Saturated := by
  obtain ⟨hacl, hle⟩ := flushAclQueue_saturated port device
  obtain ⟨link, acl, le, hframe⟩ := flushAclQueue_frame port device
  rw [hframe] at hacl hle ⊢
  exact ⟨hacl, hle, hiso⟩

theorem flushIsoQueue_saturated (port : LinkPort L) (device : HostQueues L) :
    ∀ pool ∈ (device.flushIsoQueue port).1.isoPool, pool.queue.Saturated := by
  rw [flushIsoQueue]
  cases hpool : device.isoPool with
  | none =>
    intro pool hmem
    rw [hpool] at hmem
    cases hmem
  | some pool =>
    apply forall_some (P := fun pool : PacketPool _ => pool.queue.Saturated)
    exact DataPacketQueue.saturated_flushQueue _ _ _ _

theorem Saturated.sendL2capOnHandle (hsaturated : device.Saturated) (handle cid : UInt16)
    (payload : Bytes) : (device.sendL2capOnHandle port handle cid payload).1.Saturated := by
  rcases sendL2capOnHandle_cases port device handle cid payload with
    hsend | ⟨pool, fragments, -, hsend⟩ | ⟨fragments, hsend⟩
  · rw [hsend]
    exact hsaturated
  · rw [hsend]
    exact flushAclQueue_keeps port _ hsaturated.iso
  · rw [hsend]
    exact flushAclQueue_keeps port _ hsaturated.iso

theorem Saturated.sendIsoSdu (hsaturated : device.Saturated) (isoHandle : UInt16) (sdu : Bytes) :
    (device.sendIsoSdu port isoHandle sdu).1.Saturated := by
  rcases sendIsoSdu_cases port device isoHandle sdu with
    hsend | ⟨-, link, numbers, hsend⟩ | ⟨-, pool, packets, numbers, -, hsend⟩
  · rw [hsend]
    exact hsaturated
  · rw [hsend]
    exact ⟨hsaturated.acl, hsaturated.le, hsaturated.iso⟩
  · rw [hsend]
    generalize hqueued : { device with
      isoPool := some { pool with queue := enqueueAll isoHandle packets pool.queue }
      isoSequenceNumbers := numbers } = queued
    have hiso := flushIsoQueue_saturated port queued
    obtain ⟨link, isoPool, hframe⟩ := flushIsoQueue_frame port queued
    rw [hframe] at hiso ⊢
    rw [← hqueued]
    exact ⟨hsaturated.acl, hsaturated.le, hiso⟩

theorem Saturated.sendAll (sends : List L2capSend) : ∀ {device : HostQueues L},
    device.Saturated → (device.sendAll port sends).Saturated := by
  induction sends with
  | nil =>
    intro device hsaturated
    exact hsaturated
  | cons send sends ih =>
    intro device hsaturated
    exact ih (hsaturated.sendL2capOnHandle send.handle send.cid send.payload)

/-- **Disconnections.**  A saturated device stays saturated exactly when the connection
frees no slot beside waiting packets of others. -/
theorem disconnected_saturated_iff (haccounted : device.Accounted)
    (hsaturated : device.Saturated) (handle : UInt16) :
    (device.disconnected handle).Saturated ↔ ¬ device.FreesSlots handle := by
  have hpools : ∀ {α : Type} {pool : Option (PacketPool α)},
      (∀ found ∈ pool, found.queue.Accounted) → (∀ found ∈ pool, found.queue.Saturated) →
      ((∀ found ∈ pool.map (PacketPool.onQueue fun queue => (queue.flush handle).1),
        found.queue.Saturated) ↔ ¬ ∃ found ∈ pool, found.queue.FreesSlots handle) := by
    intro α pool haccounts hfull
    cases pool with
    | none =>
      apply iff_of_true
      · intro found hfound
        exact nomatch hfound
      · rintro ⟨found, hfound, -⟩
        exact nomatch hfound
    | some pool =>
      have hiff := DataPacketQueue.saturated_flush_iff (haccounts pool rfl) (hfull pool rfl) handle
      simp only [Option.map_some, Option.mem_def, Option.some.injEq, forall_eq', exists_eq_left']
      exact hiff
  rw [FreesSlots, not_or, not_or, ← hpools haccounted.le hsaturated.le,
    ← hpools haccounted.iso hsaturated.iso,
    ← DataPacketQueue.saturated_flush_iff haccounted.acl hsaturated.acl]
  constructor
  · intro hall
    exact ⟨hall.acl, hall.le, hall.iso⟩
  · rintro ⟨hacl, hle, hiso⟩
    exact ⟨hacl, hle, hiso⟩

theorem completed_saturated (handles counts : List UInt16) :
    (device.handleEvent port (.numberOfCompletedPackets handles counts)).Saturated := by
  rw [handleEvent]
  generalize (handles.zip counts).foldl
    (fun device entry => device.packetsCompleted entry.1 entry.2.toNat) device = completed
  obtain ⟨hacl, hle⟩ := flushAclQueue_saturated port completed
  have hiso := flushIsoQueue_saturated port (completed.flushAclQueue port).1
  obtain ⟨link, isoPool, hframe⟩ := flushIsoQueue_frame port (completed.flushAclQueue port).1
  simp only [hframe] at hiso ⊢
  exact ⟨hacl, hle, hiso⟩

theorem Saturated.handleEvent (haccounted : device.Accounted) (hsaturated : device.Saturated)
    {event : HostEvent}
    (hquiet : ∀ handle, event = .disconnectionComplete 0 handle → ¬ device.FreesSlots handle) :
    (device.handleEvent port event).Saturated := by
  apply hsaturated.handleEvent_of DataPacketQueue.saturated_new
  · intro handle hevent
    rw [← Saturated, disconnected_saturated_iff haccounted hsaturated]
    exact hquiet handle hevent
  · intro handles counts _
    exact completed_saturated handles counts
  · intro list _
    exact hsaturated.sendAll list

/-! ## 3. Polls -/

/-- A completion event follows while the controller is ready. -/
def FlushesLater (port : LinkPort L) : HostQueues L → List HostEvent → Prop
  | _, [] => False
  | device, event :: events =>
    (device.controllerReady ∧
      ∃ handles counts, event = .numberOfCompletedPackets handles counts) ∨
    FlushesLater port (device.pollEvent port event) events

/-- No successful disconnection of the poll frees slots beside waiting packets of other
connections, unless a completion event follows in the same poll. -/
def QuietPoll (port : LinkPort L) : HostQueues L → List HostEvent → Prop
  | _, [] => True
  | device, event :: events =>
    (device.controllerReady → ∀ handle, event = .disconnectionComplete 0 handle →
      device.FreesSlots handle → FlushesLater port (device.pollEvent port event) events) ∧
    QuietPoll port (device.pollEvent port event) events

def QuietCall (port : LinkPort L) (device : HostQueues L) : HostCall → Prop
  | .poll events => device.QuietPoll port events
  | _ => True

theorem Accounted.handleEvent (haccounted : device.Accounted) (event : HostEvent) :
    (device.handleEvent port event).Accounted :=
  AllQueues.handleEvent accounted_keptByQueues accounted_keptByFlushes haccounted
    fun _ _ _ _ => trivial

theorem Accounted.pollEvent (haccounted : device.Accounted) (event : HostEvent) :
    (device.pollEvent port event).Accounted := by
  by_cases hready : device.controllerReady
  · rw [pollEvent_ready hready]
    exact haccounted.handleEvent event
  · rcases pollEvent_not_ready port hready event with hsame | ⟨status, -, hsame⟩
    · rw [hsame]
      exact haccounted
    · rw [hsame]
      exact haccounted.handleEvent event

/-- **One event of a poll** leaves the device saturated, or a completion event follows. -/
theorem Saturated.pollEvent (haccounted : device.Accounted) (hsaturated : device.Saturated)
    {event : HostEvent} {events : List HostEvent}
    (hquiet : device.QuietPoll port (event :: events)) :
    (device.pollEvent port event).Saturated ∨
      FlushesLater port (device.pollEvent port event) events := by
  by_cases hready : device.controllerReady
  · by_cases hfrees : ∃ handle, event = .disconnectionComplete 0 handle ∧ device.FreesSlots handle
    · obtain ⟨handle, hevent, hslots⟩ := hfrees
      exact Or.inr (hquiet.1 hready handle hevent hslots)
    · left
      rw [pollEvent_ready hready]
      apply hsaturated.handleEvent haccounted
      intro handle hevent hslots
      exact hfrees ⟨handle, hevent, hslots⟩
  · left
    rcases pollEvent_not_ready port hready event with hsame | ⟨status, hevent, hsame⟩
    · rw [hsame]
      exact hsaturated
    · rw [hsame]
      apply hsaturated.handleEvent haccounted
      intro handle hother
      rw [hevent] at hother
      exact nomatch hother

/-- **A quiet poll** ends with every queue saturated. -/
theorem Saturated.poll {events : List HostEvent} : ∀ {device : HostQueues L}, device.Accounted →
    device.Saturated ∨ device.FlushesLater port events → device.QuietPoll port events →
      (device.poll port events).Accounted ∧ (device.poll port events).Saturated := by
  induction events with
  | nil =>
    intro device haccounted hstart _
    refine ⟨haccounted, ?_⟩
    rcases hstart with hsaturated | hlater
    · exact hsaturated
    · exact hlater.elim
  | cons event events ih =>
    intro device haccounted hstart hquiet
    apply ih (haccounted.pollEvent event) _ hquiet.2
    rcases hstart with hsaturated | ⟨hready, handles, counts, rfl⟩ | hlater
    · exact hsaturated.pollEvent haccounted hquiet
    · left
      rw [pollEvent_ready hready]
      exact completed_saturated handles counts
    · exact Or.inr hlater

/-- **A quiet call** keeps the accounts and the saturation. -/
theorem Saturated.apply (haccounted : device.Accounted) (hsaturated : device.Saturated)
    {call : HostCall} (hquiet : device.QuietCall port call) :
    (device.apply port call).Accounted ∧ (device.apply port call).Saturated := by
  cases call with
  | poll events => exact Saturated.poll haccounted (Or.inl hsaturated) hquiet
  | sendL2capOnHandle send =>
    exact ⟨AllQueues.sendL2capOnHandle accounted_keptByQueues haccounted trivial _ _,
      hsaturated.sendL2capOnHandle _ _ _⟩
  | sendIsoSdu isoHandle sdu =>
    exact ⟨AllQueues.sendIsoSdu accounted_keptByQueues haccounted (fun _ => trivial) sdu,
      hsaturated.sendIsoSdu isoHandle sdu⟩
  | configureControllerPacketPools classicAcl leAcl iso =>
    exact ⟨AllQueues.configured accounted_keptByFlushes.new haccounted _ _ _,
      AllQueues.configured DataPacketQueue.saturated_new hsaturated _ _ _⟩
  | setAclDataPacketLength length =>
    rw [HostQueues.apply, setAclDataPacketLength]
    split_ifs
    · exact ⟨haccounted, hsaturated⟩
    · exact ⟨⟨haccounted.acl, haccounted.le, haccounted.iso⟩,
        ⟨hsaturated.acl, hsaturated.le, hsaturated.iso⟩⟩
  | setAclMaxInFlight count =>
    exact ⟨AllQueues.setAclMaxInFlight accounted_keptByFlushes.new haccounted count,
      AllQueues.setAclMaxInFlight DataPacketQueue.saturated_new hsaturated count⟩
  | flush =>
    refine ⟨AllQueues.flush accounted_keptByFlushes haccounted, ?_, ?_, ?_⟩
    · exact DataPacketQueue.saturated_flushAll _
    · exact forall_map_onQueue fun found _ => DataPacketQueue.saturated_flushAll found.queue
    · exact forall_map_onQueue fun found _ => DataPacketQueue.saturated_flushAll found.queue
  | reset inUse =>
    -- whatever the flush left, the queues are new
    constructor
    · have hcleared := AllQueues.cleared (L := L) accounted_keptByFlushes.new
        (if inUse then device.flush else device)
      exact ⟨hcleared.acl, hcleared.le, hcleared.iso⟩
    · have hcleared := AllQueues.cleared (L := L) DataPacketQueue.saturated_new
        (if inUse then device.flush else device)
      exact ⟨hcleared.acl, hcleared.le, hcleared.iso⟩

theorem new_queues (P : (α : Type) → DataPacketQueue α → Prop)
    (hnew : ∀ {α : Type} (maxInFlight : Nat), P α { maxInFlight }) (link : L) :
    ({ link } : HostQueues L).AllQueues P := by
  refine ⟨hnew 64, ?_, ?_⟩
  · intro pool hpool
    exact nomatch hpool
  · intro pool hpool
    exact nomatch hpool

/-- **Quiet runs.**  The invariant of the states that quiet calls reach. -/
theorem saturated_of_reached {link : L} (hreached : Reached port (QuietCall port) link device) :
    device.Accounted ∧ device.Saturated := by
  induction hreached with
  | new =>
    exact ⟨new_queues _ accounted_keptByFlushes.new link,
      new_queues _ DataPacketQueue.saturated_new link⟩
  | call call _ hquiet ih => exact ih.2.apply ih.1 hquiet

/-! ## 4. The host does not stall -/

/-- Each queue has nothing waiting or its whole window in flight. -/
def NothingSendable (device : HostQueues L) : Prop :=
  device.AllQueues fun _ queue => queue.waiting = 0 ∨ queue.inFlight = queue.maxInFlight

theorem nothingSendable_iff (haccounted : device.Accounted) :
    device.NothingSendable ↔ device.Saturated := by
  have hqueue : ∀ {α : Type} {queue : DataPacketQueue α}, queue.Accounted →
      ((queue.waiting = 0 ∨ queue.inFlight = queue.maxInFlight) ↔ queue.Saturated) := by
    intro α queue hcounts
    have hbounded := hcounts.bounded
    rw [DataPacketQueue.Saturated, DataPacketQueue.waiting, List.length_eq_zero_iff]
    apply or_congr_right
    omega
  constructor
  · intro hall
    exact ⟨(hqueue haccounted.acl).mp hall.acl,
      fun pool hpool => (hqueue (haccounted.le pool hpool)).mp (hall.le pool hpool),
      fun pool hpool => (hqueue (haccounted.iso pool hpool)).mp (hall.iso pool hpool)⟩
  · intro hall
    exact ⟨(hqueue haccounted.acl).mpr hall.acl,
      fun pool hpool => (hqueue (haccounted.le pool hpool)).mpr (hall.le pool hpool),
      fun pool hpool => (hqueue (haccounted.iso pool hpool)).mpr (hall.iso pool hpool)⟩

/-- **The host never stalls in quiet runs.**  Each state reached by quiet calls has nothing
that it could send; a disconnection there leaves nothing sendable exactly when it frees no
slot beside waiting packets of other connections. -/
theorem nothingSendable_of_quiet (port : LinkPort L) (link : L)
    (hreached : Reached port (QuietCall port) link device) :
    device.NothingSendable ∧ ∀ handle, device.controllerReady →
      ((device.poll port [.disconnectionComplete 0 handle]).NothingSendable ↔
        ¬ device.FreesSlots handle) := by
  obtain ⟨haccounted, hsaturated⟩ := saturated_of_reached hreached
  refine ⟨(nothingSendable_iff haccounted).mpr hsaturated, ?_⟩
  intro handle hready
  have hpoll : device.poll port [.disconnectionComplete 0 handle] = device.disconnected handle := by
    change device.pollEvent port (.disconnectionComplete 0 handle) = _
    rw [pollEvent_ready hready, handleEvent, if_pos rfl]
  rw [hpoll, nothingSendable_iff
    (AllQueues.disconnected accounted_keptByFlushes haccounted handle)]
  exact disconnected_saturated_iff haccounted hsaturated handle

/-- Two LE connections share a window of one: the first has its packet in flight, that of
the second waits. -/
def sharedWindow : List HostCall :=
  [.setAclMaxInFlight 1, .poll [.leConnectionComplete 0 1, .leConnectionComplete 0 2],
    .sendL2capOnHandle ⟨1, 4, [0x0A]⟩, .sendL2capOnHandle ⟨2, 4, [0x0A]⟩]

/-- The run up to the second send is quiet. -/
theorem nothingSendable_sharedWindow :
    Reached acceptingPort (QuietCall acceptingPort) ()
      (run acceptingPort { link := () } sharedWindow) ∧
      (run acceptingPort { link := () } sharedWindow).NothingSendable := by
  have hwindow : Reached acceptingPort (QuietCall acceptingPort) ()
      (apply acceptingPort { link := () } (.setAclMaxInFlight 1)) := .call _ .new trivial
  have hconnected := Reached.call (.poll [.leConnectionComplete 0 1, .leConnectionComplete 0 2])
    hwindow ⟨fun _ _ hevent => (nomatch hevent), fun _ _ hevent => (nomatch hevent), trivial⟩
  have hfirst := Reached.call (.sendL2capOnHandle ⟨1, 4, [0x0A]⟩) hconnected trivial
  have hreached := Reached.call (.sendL2capOnHandle ⟨2, 4, [0x0A]⟩) hfirst trivial
  exact ⟨hreached, (nothingSendable_of_quiet acceptingPort () hreached).1⟩

/-- When the first connection ends, the packet of the second stays queued beside a free
slot. -/
theorem sharedWindow_stalls : ¬ ∀ calls : List HostCall,
    (run acceptingPort { link := () } calls).NothingSendable := by
  intro hnever
  have hacl := (hnever (sharedWindow ++ [.poll [.disconnectionComplete 0 1]])).acl
  revert hacl
  decide

end HostQueues

end Bumble.Host
