import Bumble.DeviceQueues

/-!
# What the calls of a device keep of its queues

A property that enqueueing, sending and completing keep of one queue is kept of
all queues by the flush loops, the sends and the events; the frame lemmas say what
the sends leave alone.  Runs are the states that calls meeting a condition reach.
-/

namespace Bumble.Host

open Bumble.Hci (AclDataPacket)

/-! ## 1. Properties of one queue -/

/-- A property of queues that sends on the given handles keep. -/
structure KeptByQueues (P : (α : Type) → DataPacketQueue α → Prop) (sends : UInt16 → Prop) :
    Prop where
  enqueue : ∀ {α : Type} {queue : DataPacketQueue α} (packet : α) {handle : UInt16},
    sends handle → P α queue → P α (queue.enqueue packet handle)
  pollReady : ∀ {α : Type} {queue : DataPacketQueue α}, P α queue → P α queue.pollReady.1
  completed : ∀ {α : Type} {queue : DataPacketQueue α} (count : Nat) (handle : UInt16),
    P α queue → P α (queue.onPacketsCompleted count handle).state

/-- A property that new queues have and that taking packets out keeps. -/
structure KeptByFlushes (P : (α : Type) → DataPacketQueue α → Prop) : Prop where
  new : ∀ {α : Type} (maxInFlight : Nat), P α { maxInFlight }
  flush : ∀ {α : Type} {queue : DataPacketQueue α} (handle : UInt16), P α queue →
    P α (queue.flush handle).1
  flushAll : ∀ {α : Type} {queue : DataPacketQueue α}, P α queue → P α queue.flushAll.1

namespace KeptByQueues

variable {P : (α : Type) → DataPacketQueue α → Prop} {sends : UInt16 → Prop} {L α : Type}

theorem flushLoop (hkept : KeptByQueues P sends) (send : L → α → L × Bool)
    (handleOf : α → UInt16) (fuel : Nat) :
    ∀ {link : L} {queue : DataPacketQueue α} {success : Bool},
      P α queue → P α (Host.flushLoop send handleOf fuel link queue success).2.1 := by
  induction fuel with
  | zero =>
    intro link queue success hqueue
    exact hqueue
  | succ fuel ih =>
    intro link queue success hqueue
    have hready := hkept.pollReady hqueue
    rw [Host.flushLoop]
    rcases hpoll : queue.pollReady with ⟨later, packet⟩
    rw [hpoll] at hready
    cases packet with
    | none => exact hready
    | some packet =>
      simp only
      split_ifs
      · exact ih hready
      · exact ih (hkept.completed 1 (handleOf packet) hready)

theorem flushQueue (hkept : KeptByQueues P sends) (send : L → α → L × Bool)
    (handleOf : α → UInt16) (link : L) {queue : DataPacketQueue α} (hqueue : P α queue) :
    P α (Host.flushQueue send handleOf link queue).2.1 :=
  hkept.flushLoop send handleOf _ hqueue

theorem enqueueAll (hkept : KeptByQueues P sends) {handle : UInt16} (hhandle : sends handle)
    (packets : List α) : ∀ {queue : DataPacketQueue α}, P α queue →
      P α (HostQueues.enqueueAll handle packets queue) := by
  induction packets with
  | nil =>
    intro queue hqueue
    exact hqueue
  | cons packet packets ih =>
    intro queue hqueue
    exact ih (hkept.enqueue packet hhandle hqueue)

end KeptByQueues

namespace HostQueues

variable {L : Type}

/-! ## 2. What the sends do -/

theorem separateLePool_some {device : HostQueues L} {handle : UInt16}
    {pool : PacketPool AclDataPacket} (hpool : device.separateLePool handle = some pool) :
    device.leAclPool = some pool := by
  rw [separateLePool] at hpool
  split_ifs at hpool
  exact hpool

theorem sendL2capOnHandle_cases (port : LinkPort L) (device : HostQueues L)
    (handle cid : UInt16) (payload : Bytes) :
    device.sendL2capOnHandle port handle cid payload = (device, false) ∨
      (∃ pool fragments, device.leAclPool = some pool ∧
        device.sendL2capOnHandle port handle cid payload = flushAclQueue port { device with
          leAclPool := some { pool with queue := enqueueAll handle fragments pool.queue } }) ∨
      ∃ fragments, device.sendL2capOnHandle port handle cid payload =
        flushAclQueue port { device with
          aclPacketQueue := enqueueAll handle fragments device.aclPacketQueue } := by
  unfold sendL2capOnHandle
  dsimp only
  split
  · next pool hpool =>
    split
    · exact Or.inl rfl
    · next fragments _ => exact Or.inr (Or.inl ⟨pool, fragments, separateLePool_some hpool, rfl⟩)
  · split
    · exact Or.inl rfl
    · next fragments _ => exact Or.inr (Or.inr ⟨fragments, rfl⟩)

theorem sendIsoSdu_cases (port : LinkPort L) (device : HostQueues L) (isoHandle : UInt16)
    (sdu : Bytes) :
    device.sendIsoSdu port isoHandle sdu = (device, false) ∨
      (device.isoPool = none ∧ ∃ link isoSequenceNumbers,
        (device.sendIsoSdu port isoHandle sdu).1 = { device with link, isoSequenceNumbers }) ∨
      (device.canSendIso isoHandle ∧ ∃ pool packets isoSequenceNumbers,
        device.isoPool = some pool ∧
        device.sendIsoSdu port isoHandle sdu = flushIsoQueue port { device with
          isoPool := some { pool with queue := enqueueAll isoHandle packets pool.queue }
          isoSequenceNumbers }) := by
  unfold sendIsoSdu
  by_cases hrefused : !device.canSendIso isoHandle || sdu.length > 0x0FFF
  · rw [if_pos hrefused]
    exact Or.inl rfl
  · rw [if_neg hrefused]
    have hcan : device.canSendIso isoHandle := by
      rw [Bool.or_eq_true, Bool.not_eq_true', not_or] at hrefused
      exact Bool.not_eq_false _ ▸ hrefused.1
    dsimp only
    split
    · exact Or.inl rfl
    · right
      split
      · next pool hpool =>
        exact Or.inr ⟨hcan, pool, _, _, hpool, rfl⟩
      · next hpool =>
        refine Or.inl ⟨hpool, ?_⟩
        split
        · exact ⟨_, _, rfl⟩
        · exact ⟨_, _, rfl⟩

/-! ## 3. Frames -/

theorem flushAclQueue_frame (port : LinkPort L) (device : HostQueues L) :
    ∃ link aclPacketQueue leAclPool,
      (device.flushAclQueue port).1 = { device with link, aclPacketQueue, leAclPool } := by
  rw [flushAclQueue]
  cases hpool : device.leAclPool with
  | none => exact ⟨_, _, none, rfl⟩
  | some pool => exact ⟨_, _, _, rfl⟩

theorem flushIsoQueue_frame (port : LinkPort L) (device : HostQueues L) :
    ∃ link isoPool, (device.flushIsoQueue port).1 = { device with link, isoPool } := by
  rw [flushIsoQueue]
  cases hpool : device.isoPool with
  | none => exact ⟨device.link, none, by simp only [← hpool]⟩
  | some pool => exact ⟨_, _, rfl⟩

theorem sendL2capOnHandle_frame (port : LinkPort L) (device : HostQueues L) (handle cid : UInt16)
    (payload : Bytes) :
    ∃ link aclPacketQueue leAclPool, (device.sendL2capOnHandle port handle cid payload).1 =
      { device with link, aclPacketQueue, leAclPool } := by
  rcases sendL2capOnHandle_cases port device handle cid payload with
    hsend | ⟨pool, fragments, -, hsend⟩ | ⟨fragments, hsend⟩
  · rw [hsend]
    exact ⟨device.link, device.aclPacketQueue, device.leAclPool, rfl⟩
  · rw [hsend]
    exact flushAclQueue_frame port _
  · rw [hsend]
    exact flushAclQueue_frame port _

theorem sendIsoSdu_frame (port : LinkPort L) (device : HostQueues L) (isoHandle : UInt16)
    (sdu : Bytes) :
    ∃ link isoSequenceNumbers isoPool, (device.sendIsoSdu port isoHandle sdu).1 =
      { device with link, isoSequenceNumbers, isoPool } := by
  rcases sendIsoSdu_cases port device isoHandle sdu with
    hsend | ⟨-, link, numbers, hsend⟩ | ⟨-, pool, packets, numbers, -, hsend⟩
  · rw [hsend]
    exact ⟨device.link, device.isoSequenceNumbers, device.isoPool, rfl⟩
  · rw [hsend]
    exact ⟨link, numbers, device.isoPool, rfl⟩
  · rw [hsend]
    obtain ⟨link, isoPool, hframe⟩ := flushIsoQueue_frame port { device with
      isoPool := some { pool with queue := enqueueAll isoHandle packets pool.queue }
      isoSequenceNumbers := numbers }
    exact ⟨link, numbers, isoPool, hframe⟩

theorem packetsCompleted_frame (device : HostQueues L) (handle : UInt16) (count : Nat) :
    ∃ aclPacketQueue leAclPool isoPool, device.packetsCompleted handle count =
      { device with aclPacketQueue, leAclPool, isoPool } := by
  rw [packetsCompleted]
  split_ifs
  · exact ⟨device.aclPacketQueue, device.leAclPool, _, rfl⟩
  · exact ⟨device.aclPacketQueue, _, device.isoPool, rfl⟩
  · exact ⟨_, device.leAclPool, device.isoPool, rfl⟩

theorem clearBisHandles_frame (handles : List UInt16) : ∀ device : HostQueues L,
    ∃ bisDirections isoSequenceNumbers, handles.foldl clearBisHandle device =
      { device with bisDirections, isoSequenceNumbers } := by
  induction handles with
  | nil =>
    intro device
    exact ⟨device.bisDirections, device.isoSequenceNumbers, rfl⟩
  | cons handle handles ih =>
    intro device
    obtain ⟨directions, numbers, hrest⟩ := ih (device.clearBisHandle handle)
    exact ⟨directions, numbers, hrest⟩

theorem addBisHandles_frame (direction : UInt8) (handles : List UInt16) :
    ∀ device : HostQueues L, ∃ bisDirections isoSequenceNumbers,
      device.addBisHandles direction handles =
        { device with bisDirections, isoSequenceNumbers } := by
  induction handles with
  | nil =>
    intro device
    exact ⟨device.bisDirections, device.isoSequenceNumbers, rfl⟩
  | cons handle handles ih =>
    intro device
    obtain ⟨directions, numbers, hrest⟩ := ih { device with
      bisDirections := device.bisDirections.insert handle direction
      isoSequenceNumbers := device.isoSequenceNumbers.insertIfNew handle 0 }
    exact ⟨directions, numbers, hrest⟩

/-! ## 4. All queues of a device -/

structure AllQueues (P : (α : Type) → DataPacketQueue α → Prop) (device : HostQueues L) :
    Prop where
  acl : P _ device.aclPacketQueue
  le : ∀ pool ∈ device.leAclPool, P _ pool.queue
  iso : ∀ pool ∈ device.isoPool, P _ pool.queue

section Kept

variable {P : (α : Type) → DataPacketQueue α → Prop} {sends : UInt16 → Prop} {port : LinkPort L}
  {device : HostQueues L}

theorem forall_some {α : Type} {P : α → Prop} {value : α} (hvalue : P value) :
    ∀ other ∈ some value, P other := by
  intro other hother
  rw [← Option.some.inj hother]
  exact hvalue

theorem forall_map_onQueue {α : Type} {pool : Option (PacketPool α)}
    {P : DataPacketQueue α → Prop} {f : DataPacketQueue α → DataPacketQueue α}
    (hf : ∀ found ∈ pool, P (f found.queue)) :
    ∀ other ∈ pool.map (PacketPool.onQueue f), P other.queue := by
  intro other hother
  obtain ⟨found, hfound, rfl⟩ := Option.map_eq_some_iff.mp hother
  exact hf found hfound

theorem AllQueues.flushAclQueue (hkept : KeptByQueues P sends) (hall : device.AllQueues P) :
    (device.flushAclQueue port).1.AllQueues P := by
  have hacl := hkept.flushQueue port.sendAclPacket AclDataPacket.connectionHandle device.link
    hall.acl
  rw [HostQueues.flushAclQueue]
  cases hpool : device.leAclPool with
  | none =>
    refine ⟨hacl, ?_, hall.iso⟩
    intro pool hmem
    exact nomatch hmem
  | some pool =>
    refine ⟨hacl, ?_, hall.iso⟩
    apply forall_some
    exact hkept.flushQueue port.sendAclPacket AclDataPacket.connectionHandle _
      (hall.le pool (Option.mem_def.mpr hpool))

theorem AllQueues.flushIsoQueue (hkept : KeptByQueues P sends) (hall : device.AllQueues P) :
    (device.flushIsoQueue port).1.AllQueues P := by
  rw [HostQueues.flushIsoQueue]
  cases hpool : device.isoPool with
  | none => exact hall
  | some pool =>
    refine ⟨hall.acl, hall.le, ?_⟩
    apply forall_some
    exact hkept.flushQueue port.sendIsoPacket IsoDataPacket.connectionHandle _
      (hall.iso pool (Option.mem_def.mpr hpool))

theorem AllQueues.sendL2capOnHandle (hkept : KeptByQueues P sends) (hall : device.AllQueues P)
    {handle : UInt16} (hhandle : sends handle) (cid : UInt16) (payload : Bytes) :
    (device.sendL2capOnHandle port handle cid payload).1.AllQueues P := by
  rcases sendL2capOnHandle_cases port device handle cid payload with
    hsend | ⟨pool, fragments, hpool, hsend⟩ | ⟨fragments, hsend⟩
  · rw [hsend]
    exact hall
  · rw [hsend]
    apply AllQueues.flushAclQueue hkept
    refine ⟨hall.acl, ?_, hall.iso⟩
    apply forall_some
    exact hkept.enqueueAll hhandle fragments (hall.le pool (Option.mem_def.mpr hpool))
  · rw [hsend]
    apply AllQueues.flushAclQueue hkept
    exact ⟨hkept.enqueueAll hhandle fragments hall.acl, hall.le, hall.iso⟩

theorem AllQueues.sendIsoSdu (hkept : KeptByQueues P sends) (hall : device.AllQueues P)
    {isoHandle : UInt16} (hhandle : device.canSendIso isoHandle → sends isoHandle) (sdu : Bytes) :
    (device.sendIsoSdu port isoHandle sdu).1.AllQueues P := by
  rcases sendIsoSdu_cases port device isoHandle sdu with
    hsend | ⟨-, link, numbers, hsend⟩ | ⟨hcan, pool, packets, numbers, hpool, hsend⟩
  · rw [hsend]
    exact hall
  · rw [hsend]
    exact ⟨hall.acl, hall.le, hall.iso⟩
  · rw [hsend]
    apply AllQueues.flushIsoQueue hkept
    refine ⟨hall.acl, hall.le, ?_⟩
    apply forall_some
    exact hkept.enqueueAll (hhandle hcan) packets (hall.iso pool (Option.mem_def.mpr hpool))

theorem AllQueues.packetsCompleted (hkept : KeptByQueues P sends) (hall : device.AllQueues P)
    (handle : UInt16) (count : Nat) : (device.packetsCompleted handle count).AllQueues P := by
  rw [HostQueues.packetsCompleted]
  split_ifs
  · refine ⟨hall.acl, hall.le, ?_⟩
    apply forall_map_onQueue
    intro pool hpool
    exact hkept.completed count handle (hall.iso pool hpool)
  · refine ⟨hall.acl, ?_, hall.iso⟩
    apply forall_map_onQueue
    intro pool hpool
    exact hkept.completed count handle (hall.le pool hpool)
  · exact ⟨hkept.completed count handle hall.acl, hall.le, hall.iso⟩

theorem AllQueues.completions (hkept : KeptByQueues P sends) (entries : List (UInt16 × UInt16)) :
    ∀ {device : HostQueues L}, device.AllQueues P →
      (entries.foldl (fun device entry => device.packetsCompleted entry.1 entry.2.toNat)
        device).AllQueues P := by
  induction entries with
  | nil =>
    intro device hall
    exact hall
  | cons entry entries ih =>
    intro device hall
    exact ih (hall.packetsCompleted hkept entry.1 entry.2.toNat)

theorem AllQueues.sendAll (hkept : KeptByQueues P sends) (list : List L2capSend) :
    ∀ {device : HostQueues L}, (∀ send ∈ list, sends send.handle) → device.AllQueues P →
      (device.sendAll port list).AllQueues P := by
  induction list with
  | nil =>
    intro device _ hall
    exact hall
  | cons send list ih =>
    intro device hsends hall
    apply ih
    · intro other hother
      exact hsends other (List.mem_cons_of_mem _ hother)
    · exact hall.sendL2capOnHandle hkept (hsends send List.mem_cons_self) send.cid send.payload

theorem usablePool_new (hnew : ∀ {α : Type} (maxInFlight : Nat), P α { maxInFlight }) {α : Type}
    (length count : Nat) :
    ∀ pool ∈ (usablePool length count : Option (PacketPool α)), P _ pool.queue := by
  rw [usablePool]
  split_ifs
  · apply forall_some
    exact hnew count
  · intro pool hpool
    exact nomatch hpool

theorem poolOf_new (hnew : ∀ {α : Type} (maxInFlight : Nat), P α { maxInFlight }) {α : Type}
    (info : Option ControllerBufferInfo) :
    ∀ pool ∈ (poolOf info : Option (PacketPool α)), P _ pool.queue := by
  intro pool hpool
  obtain ⟨buffer, -, hbuffer⟩ := Option.bind_eq_some_iff.mp hpool
  exact usablePool_new hnew _ _ pool hbuffer

theorem AllQueues.disconnected (hflushes : KeptByFlushes P) (hall : device.AllQueues P)
    (handle : UInt16) : (device.disconnected handle).AllQueues P := by
  refine ⟨hflushes.flush handle hall.acl, ?_, ?_⟩
  · apply forall_map_onQueue
    intro pool hpool
    exact hflushes.flush handle (hall.le pool hpool)
  · apply forall_map_onQueue
    intro pool hpool
    exact hflushes.flush handle (hall.iso pool hpool)

theorem AllQueues.flush (hflushes : KeptByFlushes P) (hall : device.AllQueues P) :
    device.flush.AllQueues P := by
  refine ⟨hflushes.flushAll hall.acl, ?_, ?_⟩
  · apply forall_map_onQueue
    intro pool hpool
    exact hflushes.flushAll (hall.le pool hpool)
  · apply forall_map_onQueue
    intro pool hpool
    exact hflushes.flushAll (hall.iso pool hpool)

theorem AllQueues.cleared (hnew : ∀ {α : Type} (maxInFlight : Nat), P α { maxInFlight })
    (device : HostQueues L) : device.clearHostInitializationState.AllQueues P := by
  refine ⟨hnew 64, ?_, ?_⟩
  · intro pool hpool
    exact nomatch hpool
  · intro pool hpool
    exact nomatch hpool

theorem AllQueues.configured (hnew : ∀ {α : Type} (maxInFlight : Nat), P α { maxInFlight })
    (hall : device.AllQueues P) (classicAcl leAcl iso : Option ControllerBufferInfo) :
    (device.configureControllerPacketPools classicAcl leAcl iso).1.AllQueues P := by
  rw [configureControllerPacketPools]
  split_ifs
  · refine ⟨?_, poolOf_new hnew leAcl, poolOf_new hnew iso⟩
    change P _ ((poolOf classicAcl).getD _).queue
    cases hpool : (poolOf classicAcl : Option (PacketPool AclDataPacket)) with
    | none => exact hnew 64
    | some pool => exact poolOf_new hnew classicAcl pool hpool
  · exact hall

theorem AllQueues.setAclMaxInFlight (hnew : ∀ {α : Type} (maxInFlight : Nat), P α { maxInFlight })
    (hall : device.AllQueues P) (count : Nat) : (device.setAclMaxInFlight count).1.AllQueues P := by
  unfold HostQueues.setAclMaxInFlight
  split_ifs
  · exact hall
  · rw [DataPacketQueue.new]
    split_ifs
    · exact hall
    · exact ⟨hnew count, hall.le, hall.iso⟩

/-- **What an event does to the queues.**  Disconnections, completions and the sends of
a handler are the only events that touch a queue; a buffer answer brings new ones. -/
theorem AllQueues.handleEvent_of (hnew : ∀ {α : Type} (maxInFlight : Nat), P α { maxInFlight })
    (hall : device.AllQueues P) {event : HostEvent}
    (hdisconnected : ∀ handle, event = .disconnectionComplete 0 handle →
      (device.disconnected handle).AllQueues P)
    (hcompleted : ∀ handles counts, event = .numberOfCompletedPackets handles counts →
      (device.handleEvent port (.numberOfCompletedPackets handles counts)).AllQueues P)
    (hsends : ∀ list, event = .other list → (device.sendAll port list).AllQueues P) :
    (device.handleEvent port event).AllQueues P := by
  cases event with
  | resetComplete status => exact ⟨hall.acl, hall.le, hall.iso⟩
  | leConnectionComplete status handle =>
    rw [HostQueues.handleEvent]
    split_ifs <;> exact ⟨hall.acl, hall.le, hall.iso⟩
  | connectionComplete status handle =>
    rw [HostQueues.handleEvent]
    split_ifs <;> exact ⟨hall.acl, hall.le, hall.iso⟩
  | synchronousConnectionComplete status handle =>
    rw [HostQueues.handleEvent]
    split_ifs <;> exact ⟨hall.acl, hall.le, hall.iso⟩
  | cisEstablished status handle =>
    rw [HostQueues.handleEvent]
    split_ifs <;> exact ⟨hall.acl, hall.le, hall.iso⟩
  | createBigComplete status bigHandle handles =>
    rw [HostQueues.handleEvent]
    split_ifs
    · obtain ⟨directions, numbers, hframe⟩ := addBisHandles_frame 0 handles device
      rw [hframe]
      exact ⟨hall.acl, hall.le, hall.iso⟩
    · exact ⟨hall.acl, hall.le, hall.iso⟩
  | terminateBigComplete bigHandle =>
    rw [HostQueues.handleEvent]
    obtain ⟨directions, numbers, hframe⟩ := clearBisHandles_frame
      (device.bigs[bigHandle]?.getD []) { device with bigs := device.bigs.erase bigHandle }
    rw [hframe]
    exact ⟨hall.acl, hall.le, hall.iso⟩
  | bigSyncEstablished status bigHandle handles =>
    rw [HostQueues.handleEvent]
    split_ifs
    · obtain ⟨directions, numbers, hframe⟩ := addBisHandles_frame 1 handles device
      rw [hframe]
      exact ⟨hall.acl, hall.le, hall.iso⟩
    · exact ⟨hall.acl, hall.le, hall.iso⟩
  | bigSyncLost bigHandle =>
    rw [HostQueues.handleEvent]
    obtain ⟨directions, numbers, hframe⟩ := clearBisHandles_frame
      (device.bigSyncs[bigHandle]?.getD [])
      { device with bigSyncs := device.bigSyncs.erase bigHandle }
    rw [hframe]
    exact ⟨hall.acl, hall.le, hall.iso⟩
  | disconnectionComplete status handle =>
    rw [HostQueues.handleEvent]
    split_ifs with hstatus
    · exact hdisconnected handle (by rw [hstatus])
    · exact hall
  | numberOfCompletedPackets handles counts => exact hcompleted handles counts rfl
  | readBufferSize status length count =>
    rw [HostQueues.handleEvent]
    split_ifs
    · exact ⟨hnew count.toNat, hall.le, hall.iso⟩
    · exact hall
  | leReadBufferSize status length count =>
    rw [HostQueues.handleEvent]
    split_ifs
    · exact ⟨hall.acl, usablePool_new hnew _ _, hall.iso⟩
    · exact hall
  | leReadBufferSizeV2 status length count isoLength isoCount =>
    rw [HostQueues.handleEvent]
    split_ifs
    · exact ⟨hall.acl, usablePool_new hnew _ _, usablePool_new hnew _ _⟩
    · exact hall
  | other list => exact hsends list rfl

theorem AllQueues.handleEvent (hkept : KeptByQueues P sends) (hflushes : KeptByFlushes P)
    (hall : device.AllQueues P) {event : HostEvent}
    (hsends : ∀ list, event = .other list → ∀ send ∈ list, sends send.handle) :
    (device.handleEvent port event).AllQueues P := by
  apply hall.handleEvent_of hflushes.new
  · intro handle _
    exact hall.disconnected hflushes handle
  · intro handles counts _
    rw [HostQueues.handleEvent]
    exact ((AllQueues.completions hkept _ hall).flushAclQueue hkept).flushIsoQueue hkept
  · intro list hlist
    exact hall.sendAll hkept list (hsends list hlist)

end Kept

/-! ## 5. Runs -/

/-- The states that calls meeting a condition reach from a new device. -/
inductive Reached (port : LinkPort L) (meets : HostQueues L → HostCall → Prop) (link : L) :
    HostQueues L → Prop where
  | new : Reached port meets link { link }
  | call {device : HostQueues L} (call : HostCall) :
    Reached port meets link device → meets device call →
      Reached port meets link (device.apply port call)

/-- A condition on each event of a `poll`, in the state in which it is handled. -/
def EventsMeet (port : LinkPort L) (condition : HostQueues L → HostEvent → Prop) :
    HostQueues L → List HostEvent → Prop
  | _, [] => True
  | device, event :: events =>
    condition device event ∧ EventsMeet port condition (device.pollEvent port event) events

theorem pollEvent_ready {port : LinkPort L} {device : HostQueues L}
    (hready : device.controllerReady) (event : HostEvent) :
    device.pollEvent port event = device.handleEvent port event := by
  unfold pollEvent
  rw [if_pos hready]

theorem pollEvent_not_ready (port : LinkPort L) {device : HostQueues L}
    (hready : ¬ device.controllerReady) (event : HostEvent) :
    device.pollEvent port event = device ∨ ∃ status, event = .resetComplete status ∧
      device.pollEvent port event = device.handleEvent port event := by
  unfold pollEvent
  rw [if_neg hready]
  cases event with
  | resetComplete status => exact Or.inr ⟨status, rfl, rfl⟩
  | _ => exact Or.inl rfl

/-- **Polls keep what their events keep.** -/
theorem poll_kept {port : LinkPort L} {P : HostQueues L → Prop}
    {condition : HostQueues L → HostEvent → Prop}
    (hevent : ∀ {device : HostQueues L} {event : HostEvent}, P device → condition device event →
      P (device.pollEvent port event))
    {events : List HostEvent} : ∀ {device : HostQueues L}, P device →
      device.EventsMeet port condition events → P (device.poll port events) := by
  induction events with
  | nil =>
    intro device hdevice _
    exact hdevice
  | cons event events ih =>
    intro device hdevice hmeet
    exact ih (hevent hdevice hmeet.1) hmeet.2

end HostQueues

end Bumble.Host
