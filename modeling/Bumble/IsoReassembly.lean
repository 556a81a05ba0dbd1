import Bumble.QueueRuns

/-!
# Isochronous SDUs in packets (`bumble-host/src/lib.rs`)

The first packet of an SDU has the information about it, which the others leave to more data.
The receiver collects the fragments, and a first packet starts again whatever it has so far.
-/

namespace Bumble.Host

/-! ## 1. The receiver -/

structure IsoSdu where
  connectionHandle : UInt16
  packetSequenceNumber : UInt16
  packetStatusFlag : UInt8
  data : Bytes
deriving DecidableEq, Repr

structure IsoSduAssembler where
  pending : Option IsoSdu
  expectedLength : Nat
deriving DecidableEq, Repr

namespace IsoSduAssembler

/-- A first packet, of flag `0b00`, or the only one, of flag `0b10`. -/
def pushFirst (assembler : IsoSduAssembler) (packet : IsoDataPacket) :
    IsoSduAssembler × Option IsoSdu :=
  match packet.packetSequenceNumber, packet.isoSduLength, packet.packetStatusFlag with
  | some sequence, some length, some status =>
    let sdu : IsoSdu := ⟨packet.connectionHandle, sequence, status, packet.isoSduFragment⟩
    if packet.pbFlag = 0b10 then
      ({ assembler with pending := none },
        if sdu.data.length = length.toNat then some sdu else none)
    else (⟨some sdu, length.toNat⟩, none)
  | _, _, _ => ({ assembler with pending := none }, none)

/-- One in between, of flag `0b01`, or the last, of flag `0b11`. -/
def pushLater (assembler : IsoSduAssembler) (packet : IsoDataPacket) :
    IsoSduAssembler × Option IsoSdu :=
  match assembler.pending with
  | none => (assembler, none)
  | some pending =>
    let pending := { pending with data := pending.data ++ packet.isoSduFragment }
    if pending.data.length > assembler.expectedLength then
      ({ assembler with pending := none }, none)
    else if packet.pbFlag = 0b11 then
      ({ assembler with pending := none },
        if pending.data.length = assembler.expectedLength then some pending else none)
    else ({ assembler with pending := some pending }, none)

def push (assembler : IsoSduAssembler) (packet : IsoDataPacket) :
    IsoSduAssembler × Option IsoSdu :=
  if packet.pbFlag = 0b00 ∨ packet.pbFlag = 0b10 then assembler.pushFirst packet
  else if packet.pbFlag = 0b01 ∨ packet.pbFlag = 0b11 then assembler.pushLater packet
  else (assembler, none)

/-- What is returned for packets one after the other. -/
def pushAll (assembler : IsoSduAssembler) : List IsoDataPacket → List (Option IsoSdu)
  | [] => []
  | packet :: packets =>
    (assembler.push packet).2 :: (assembler.push packet).1.pushAll packets

end IsoSduAssembler

/-! ## 2. The packets of an SDU -/

namespace HostQueues

variable {L : Type}

/-- The number that the next SDU on a handle gets. -/
def nextSequence (device : HostQueues L) (isoHandle : UInt16) : UInt16 :=
  device.isoSequenceNumbers[isoHandle]?.getD 0

def isoPacketLength (device : HostQueues L) : Nat :=
  (device.isoPool.map (·.dataPacketLength)).getD defaultIsoPacketLength

def isoPackets (device : HostQueues L) (isoHandle : UInt16) (sdu : Bytes) : List IsoDataPacket :=
  isoFragments isoHandle (device.nextSequence isoHandle) device.isoPacketLength sdu
    (sdu.length + 1) 0

theorem sendIsoSdu_eq (port : LinkPort L) {device : HostQueues L} {isoHandle : UInt16}
    (hcan : device.canSendIso isoHandle) {sdu : Bytes} (hsize : sdu.length ≤ 0x0FFF)
    (hlength : sduInfoLength < device.isoPacketLength) :
    device.sendIsoSdu port isoHandle sdu =
      match device.isoPool with
      | some pool =>
        flushIsoQueue port { device with
          isoPool := some { pool with
            queue := enqueueAll isoHandle (device.isoPackets isoHandle sdu) pool.queue }
          isoSequenceNumbers := device.isoSequenceNumbers.insert isoHandle
            (device.nextSequence isoHandle + 1) }
      | none =>
        let sent := sendDirectly port device.link (device.isoPackets isoHandle sdu)
        if sent.2 then
          ({ device with
            link := sent.1
            isoSequenceNumbers := device.isoSequenceNumbers.insert isoHandle
              (device.nextSequence isoHandle + 1) }, true)
        else
          ({ device with
            link := sent.1
            isoSequenceNumbers := device.isoSequenceNumbers.insert isoHandle
              (device.nextSequence isoHandle) }, false) := by
  have hrefused : ¬ (!device.canSendIso isoHandle || decide (sdu.length > 0x0FFF)) = true := by
    rw [hcan, Bool.not_true, Bool.false_or, decide_eq_true_eq]
    exact Nat.not_lt.mpr hsize
  rw [sendIsoSdu, if_neg hrefused]
  exact if_neg (Nat.not_le.mpr hlength)

end HostQueues

/-- The packet for the octets from one offset to another. -/
def isoPacket (isoHandle sequence : UInt16) (sdu : Bytes) (offset stop : Nat) : IsoDataPacket :=
  let first : Bool := offset = 0
  let last : Bool := stop = sdu.length
  let fragment := (sdu.drop offset).take (stop - offset)
  { connectionHandle := isoHandle
    pbFlag :=
      match first, last with
      | true, true => 0b10
      | true, false => 0b00
      | false, true => 0b11
      | false, false => 0b01
    tsFlag := 0
    dataTotalLength :=
      UInt16.ofNat (fragment.length + if first then HostQueues.sduInfoLength else 0)
    timeStamp := none
    packetSequenceNumber := if first then some sequence else none
    isoSduLength := if first then some (UInt16.ofNat sdu.length) else none
    packetStatusFlag := if first then some 0 else none
    isoSduFragment := fragment }

def isoStop (packetLength : Nat) (sdu : Bytes) (offset : Nat) : Nat :=
  let first : Bool := offset = 0
  min (offset + (packetLength - if first then HostQueues.sduInfoLength else 0)) sdu.length

theorem isoFragments_succ (isoHandle sequence : UInt16) (packetLength : Nat) (sdu : Bytes)
    (fuel offset : Nat) :
    HostQueues.isoFragments isoHandle sequence packetLength sdu (fuel + 1) offset =
      isoPacket isoHandle sequence sdu offset (isoStop packetLength sdu offset) ::
        if isoStop packetLength sdu offset = sdu.length then []
        else HostQueues.isoFragments isoHandle sequence packetLength sdu fuel
          (isoStop packetLength sdu offset) := by
  rw [HostQueues.isoFragments]
  refine congrArg (List.cons _) ?_
  simp only [isoStop, decide_eq_true_eq]

theorem dataTotalLength_le {isoHandle sequence : UInt16} {packetLength : Nat}
    (hlength : HostQueues.sduInfoLength < packetLength) (sdu : Bytes) (offset : Nat) :
    (isoPacket isoHandle sequence sdu offset
      (isoStop packetLength sdu offset)).dataTotalLength.toNat ≤ packetLength := by
  rw [isoPacket, isoStop]
  refine Nat.le_trans (Nat.mod_le _ _) ?_
  simp only [decide_eq_true_eq]
  refine Nat.le_trans (Nat.add_le_add_right (List.length_take_le _ _) _) ?_
  split <;> omega

theorem isoFragments_length_le {isoHandle sequence : UInt16} {packetLength : Nat}
    (hlength : HostQueues.sduInfoLength < packetLength) (sdu : Bytes) (fuel : Nat) :
    ∀ {offset : Nat}, ∀ packet ∈
      HostQueues.isoFragments isoHandle sequence packetLength sdu fuel offset,
      packet.dataTotalLength.toNat ≤ packetLength := by
  induction fuel with
  | zero =>
    intro offset packet hmem
    cases hmem
  | succ fuel ih =>
    intro offset packet hmem
    rw [isoFragments_succ] at hmem
    rcases List.mem_cons.mp hmem with rfl | hmem
    · exact dataTotalLength_le hlength sdu offset
    · split at hmem
      · cases hmem
      · exact ih packet hmem

/-! ## 3. Reassembly -/

theorem IsoSduAssembler.push_of_first (assembler : IsoSduAssembler) {packet : IsoDataPacket}
    (hflag : packet.pbFlag = 0b00 ∨ packet.pbFlag = 0b10) :
    assembler.push packet = assembler.pushFirst packet := if_pos hflag

theorem IsoSduAssembler.push_of_later (assembler : IsoSduAssembler) {packet : IsoDataPacket}
    (hflag : packet.pbFlag = 0b01 ∨ packet.pbFlag = 0b11) :
    assembler.push packet = assembler.pushLater packet := by
  have hother : ¬ (packet.pbFlag = 0b00 ∨ packet.pbFlag = 0b10) := by
    rcases hflag with hflag | hflag <;> rw [hflag] <;> decide
  exact (if_neg hother).trans (if_pos hflag)

theorem pbFlag_last (isoHandle sequence : UInt16) {sdu : Bytes} {offset : Nat}
    (hoffset : offset ≠ 0) :
    (isoPacket isoHandle sequence sdu offset sdu.length).pbFlag = 0b11 := by
  simp [isoPacket, hoffset]

theorem pbFlag_between (isoHandle sequence : UInt16) {sdu : Bytes} {offset stop : Nat}
    (hoffset : offset ≠ 0) (hlast : stop ≠ sdu.length) :
    (isoPacket isoHandle sequence sdu offset stop).pbFlag = 0b01 := by
  simp [isoPacket, hoffset, hlast]

theorem push_later {isoHandle sequence : UInt16} {sdu : Bytes} {offset stop : Nat}
    (hoffset : offset ≠ 0) (hle : offset ≤ stop) (hstop : stop ≤ sdu.length) :
    IsoSduAssembler.push ⟨some ⟨isoHandle, sequence, 0, sdu.take offset⟩, sdu.length⟩
        (isoPacket isoHandle sequence sdu offset stop) =
      if stop = sdu.length then (⟨none, sdu.length⟩, some ⟨isoHandle, sequence, 0, sdu⟩)
      else (⟨some ⟨isoHandle, sequence, 0, sdu.take stop⟩, sdu.length⟩, none) := by
  have hdata : sdu.take offset ++ (isoPacket isoHandle sequence sdu offset stop).isoSduFragment =
      sdu.take stop := by
    rw [isoPacket, ← List.take_add, Nat.add_sub_cancel' hle]
  have hlength : (sdu.take stop).length = stop := by
    rw [List.length_take, Nat.min_eq_left hstop]
  have hfits : ¬ (sdu.take stop).length > sdu.length := by
    rw [hlength]
    exact Nat.not_lt.mpr hstop
  by_cases hlast : stop = sdu.length
  · subst hlast
    have hflag := @pbFlag_last isoHandle sequence sdu offset hoffset
    rw [IsoSduAssembler.push_of_later _ (.inr hflag), IsoSduAssembler.pushLater]
    dsimp only
    rw [hdata, if_neg hfits, if_pos hflag, if_pos hlength, if_pos rfl, List.take_length]
  · have hflag := pbFlag_between isoHandle sequence hoffset hlast
    have hnot : ¬ (isoPacket isoHandle sequence sdu offset stop).pbFlag = 0b11 := by
      rw [hflag]
      decide
    rw [IsoSduAssembler.push_of_later _ (.inl hflag), IsoSduAssembler.pushLater]
    dsimp only
    rw [hdata, if_neg hfits, if_neg hnot, if_neg hlast]

theorem push_first {isoHandle sequence : UInt16} {sdu : Bytes} (hsize : sdu.length ≤ 0x0FFF)
    {stop : Nat} (hstop : stop ≤ sdu.length) (assembler : IsoSduAssembler) :
    assembler.push (isoPacket isoHandle sequence sdu 0 stop) =
      if stop = sdu.length then
        ({ assembler with pending := none }, some ⟨isoHandle, sequence, 0, sdu⟩)
      else (⟨some ⟨isoHandle, sequence, 0, sdu.take stop⟩, sdu.length⟩, none) := by
  have hcount : (UInt16.ofNat sdu.length).toNat = sdu.length :=
    UInt16.toNat_ofNat_of_lt' (show sdu.length < 65536 by omega)
  by_cases hlast : stop = sdu.length
  · subst hlast
    have hflag : (isoPacket isoHandle sequence sdu 0 sdu.length).pbFlag = 0b10 := by
      simp [isoPacket]
    rw [IsoSduAssembler.push_of_first _ (.inr hflag), IsoSduAssembler.pushFirst, if_pos rfl]
    simp [isoPacket, hcount]
  · have hflag : (isoPacket isoHandle sequence sdu 0 stop).pbFlag = 0b00 := by
      simp [isoPacket, hlast]
    rw [IsoSduAssembler.push_of_first _ (.inl hflag), IsoSduAssembler.pushFirst, if_neg hlast]
    simp [isoPacket, hcount, hlast]

theorem pushAll_later {isoHandle sequence : UInt16} {packetLength : Nat}
    (hpacket : 0 < packetLength)
    {sdu : Bytes} (fuel : Nat) : ∀ {offset : Nat}, 0 < offset → offset < sdu.length →
      sdu.length - offset < fuel → ∃ count,
      IsoSduAssembler.pushAll ⟨some ⟨isoHandle, sequence, 0, sdu.take offset⟩, sdu.length⟩
        (HostQueues.isoFragments isoHandle sequence packetLength sdu fuel offset) =
          List.replicate count none ++ [some ⟨isoHandle, sequence, 0, sdu⟩] := by
  induction fuel with
  | zero =>
    intro offset _ _ hfuel
    exact absurd hfuel (Nat.not_lt_zero _)
  | succ fuel ih =>
    intro offset hoffset hlt hfuel
    have hstop : isoStop packetLength sdu offset = min (offset + packetLength) sdu.length := by
      simp only [isoStop, Nat.ne_of_gt hoffset, decide_false, Bool.false_eq_true, if_false,
        Nat.sub_zero]
    rw [isoFragments_succ, IsoSduAssembler.pushAll,
      push_later (Nat.ne_of_gt hoffset) (by omega) (by omega)]
    split
    · exact ⟨0, rfl⟩
    · next hlast =>
      obtain ⟨count, hrest⟩ :=
        @ih (isoStop packetLength sdu offset) (by omega) (by omega) (by omega)
      refine ⟨count + 1, ?_⟩
      rw [List.replicate_succ, List.cons_append, ← hrest]

theorem pushAll_isoFragments (isoHandle sequence : UInt16) {packetLength : Nat}
    (hlength : HostQueues.sduInfoLength < packetLength) {sdu : Bytes} (hsize : sdu.length ≤ 0x0FFF)
    (assembler : IsoSduAssembler) : ∃ count,
      assembler.pushAll
        (HostQueues.isoFragments isoHandle sequence packetLength sdu (sdu.length + 1) 0) =
          List.replicate count none ++ [some ⟨isoHandle, sequence, 0, sdu⟩] := by
  have hstop : isoStop packetLength sdu 0 =
      min (packetLength - HostQueues.sduInfoLength) sdu.length := by
    simp only [isoStop, decide_true, if_true, Nat.zero_add]
  rw [isoFragments_succ, IsoSduAssembler.pushAll, push_first hsize (by omega)]
  split
  · exact ⟨0, rfl⟩
  · next hlast =>
    obtain ⟨count, hrest⟩ :=
      @pushAll_later isoHandle sequence packetLength (by omega) sdu sdu.length
      (isoStop packetLength sdu 0) (by omega) (by omega) (by omega)
    refine ⟨count + 1, ?_⟩
    rw [List.replicate_succ, List.cons_append, ← hrest]

/-! ## 4. Sequence numbers -/

namespace HostQueues

variable {L : Type}

def StreamKept (isoHandle : UInt16) (device : HostQueues L) (event : HostEvent) : Prop :=
  device.controllerReady →
    match event with
    | .disconnectionComplete status handle => status = 0 → handle ≠ isoHandle
    | .terminateBigComplete bigHandle => isoHandle ∉ device.bigs[bigHandle]?.getD []
    | .bigSyncLost bigHandle => isoHandle ∉ device.bigSyncs[bigHandle]?.getD []
    | _ => True

/-- The handle is of none of the connections that a flush ends. -/
def OutsideFlush (isoHandle : UInt16) (device : HostQueues L) : Prop :=
  isoHandle ∉ device.leConnections ∧ isoHandle ∉ device.classicConnections ∧
    isoHandle ∉ device.cisLinks ∧ isoHandle ∉ device.synchronousConnections

def CallKeepsStream (port : LinkPort L) (isoHandle : UInt16) (device : HostQueues L) :
    HostCall → Prop
  | .poll events => device.EventsMeet port (StreamKept isoHandle) events
  | .flush => device.OutsideFlush isoHandle
  | .reset inUse => inUse → device.OutsideFlush isoHandle
  | _ => True

def RunKeepsStream (port : LinkPort L) (isoHandle : UInt16) : HostQueues L → List HostCall → Prop
  | _, [] => True
  | device, call :: calls => device.CallKeepsStream port isoHandle call ∧
    RunKeepsStream port isoHandle (device.apply port call) calls

/-- An SDU of which all packets are produced: a link without a queue in front of it may refuse
    one of them. -/
def isoAccepted (port : LinkPort L) (device : HostQueues L) (isoHandle : UInt16) (sdu : Bytes) :
    Bool :=
  device.canSendIso isoHandle && sdu.length ≤ 0x0FFF && sduInfoLength < device.isoPacketLength &&
    (device.isoPool.isSome ||
      (sendDirectly port device.link (device.isoPackets isoHandle sdu)).2)

/-- The number of the SDU that a call sends on a handle. -/
def sequencesOfCall (port : LinkPort L) (isoHandle : UInt16) (device : HostQueues L) :
    HostCall → List UInt16
  | .sendIsoSdu handle sdu =>
    if handle = isoHandle ∧ device.isoAccepted port isoHandle sdu then
      [device.nextSequence isoHandle]
    else []
  | _ => []

/-- The numbers of the SDUs that a run sends on a handle. -/
def sequencesSent (port : LinkPort L) (isoHandle : UInt16) :
    HostQueues L → List HostCall → List UInt16
  | _, [] => []
  | device, call :: calls =>
    device.sequencesOfCall port isoHandle call ++
      sequencesSent port isoHandle (device.apply port call) calls

theorem getD_insertIfNew (numbers : Std.ExtTreeMap UInt16 UInt16) (key other : UInt16) :
    (numbers.insertIfNew key 0)[other]?.getD (0 : UInt16) = numbers[other]?.getD (0 : UInt16) := by
  rw [Std.ExtTreeMap.getElem?_insertIfNew]
  split
  · next hnew =>
    obtain ⟨heq, hnone⟩ := hnew
    rw [Std.LawfulEqOrd.compare_eq_iff_eq] at heq
    subst heq
    rw [Std.ExtTreeMap.getElem?_eq_none hnone]
    rfl
  · rfl

theorem getD_erase (numbers : Std.ExtTreeMap UInt16 UInt16) {key other : UInt16}
    (hne : key ≠ other) :
    (numbers.erase key)[other]?.getD (0 : UInt16) = numbers[other]?.getD (0 : UInt16) := by
  rw [OrderedMap.getElem?_erase, if_neg hne]

theorem nextSequence_addBisHandles (direction : UInt8) (handles : List UInt16)
    (isoHandle : UInt16) : ∀ device : HostQueues L,
      (device.addBisHandles direction handles).nextSequence isoHandle =
        device.nextSequence isoHandle := by
  induction handles with
  | nil =>
    intro device
    rfl
  | cons handle handles ih =>
    intro device
    exact (ih _).trans (getD_insertIfNew device.isoSequenceNumbers handle isoHandle)

theorem nextSequence_clearBisHandles {isoHandle : UInt16} (handles : List UInt16) :
    ∀ {device : HostQueues L}, isoHandle ∉ handles →
      (handles.foldl clearBisHandle device).nextSequence isoHandle =
        device.nextSequence isoHandle := by
  induction handles with
  | nil =>
    intro device _
    rfl
  | cons handle handles ih =>
    intro device hmem
    obtain ⟨hhandle, hrest⟩ := not_or.mp (mt List.mem_cons.mpr hmem)
    exact (ih hrest).trans (getD_erase device.isoSequenceNumbers (Ne.symm hhandle))

theorem nextSequence_flushAclQueue (port : LinkPort L) (device : HostQueues L)
    (isoHandle : UInt16) :
    (device.flushAclQueue port).1.nextSequence isoHandle = device.nextSequence isoHandle := by
  obtain ⟨_, _, _, hframe⟩ := flushAclQueue_frame port device
  rw [hframe]
  rfl

theorem nextSequence_flushIsoQueue (port : LinkPort L) (device : HostQueues L)
    (isoHandle : UInt16) :
    (device.flushIsoQueue port).1.nextSequence isoHandle = device.nextSequence isoHandle := by
  obtain ⟨_, _, hframe⟩ := flushIsoQueue_frame port device
  rw [hframe]
  rfl

theorem nextSequence_sendL2cap (port : LinkPort L) (device : HostQueues L) (handle cid : UInt16)
    (payload : Bytes) (isoHandle : UInt16) :
    (device.sendL2capOnHandle port handle cid payload).1.nextSequence isoHandle =
      device.nextSequence isoHandle := by
  obtain ⟨_, _, _, hframe⟩ := sendL2capOnHandle_frame port device handle cid payload
  rw [hframe]
  rfl

theorem nextSequence_sendAll (port : LinkPort L) (isoHandle : UInt16) (sends : List L2capSend) :
    ∀ device : HostQueues L,
      (device.sendAll port sends).nextSequence isoHandle = device.nextSequence isoHandle := by
  induction sends with
  | nil =>
    intro device
    rfl
  | cons send sends ih =>
    intro device
    exact (ih _).trans (nextSequence_sendL2cap port device send.handle send.cid
      send.payload isoHandle)

theorem nextSequence_completions (isoHandle : UInt16) (entries : List (UInt16 × UInt16)) :
    ∀ device : HostQueues L,
      (entries.foldl (fun device entry => device.packetsCompleted entry.1 entry.2.toNat)
        device).nextSequence isoHandle = device.nextSequence isoHandle := by
  induction entries with
  | nil =>
    intro device
    rfl
  | cons entry entries ih =>
    intro device
    refine (ih _).trans ?_
    obtain ⟨_, _, _, hframe⟩ := packetsCompleted_frame device entry.1 entry.2.toNat
    dsimp only
    rw [hframe]
    rfl

theorem nextSequence_handleEvent (port : LinkPort L) {device : HostQueues L} {isoHandle : UInt16}
    {event : HostEvent} (hready : device.controllerReady)
    (hkept : device.StreamKept isoHandle event) :
    (device.handleEvent port event).nextSequence isoHandle = device.nextSequence isoHandle := by
  have hkept := hkept hready
  cases event with
  | resetComplete status => rfl
  | leConnectionComplete status handle => rw [handleEvent]; split <;> rfl
  | connectionComplete status handle => rw [handleEvent]; split <;> rfl
  | synchronousConnectionComplete status handle => rw [handleEvent]; split <;> rfl
  | cisEstablished status handle =>
    rw [handleEvent]
    split
    · exact getD_insertIfNew device.isoSequenceNumbers handle isoHandle
    · rfl
  | createBigComplete status bigHandle handles =>
    rw [handleEvent]
    split
    · exact nextSequence_addBisHandles 0 handles isoHandle device
    · rfl
  | terminateBigComplete bigHandle => exact nextSequence_clearBisHandles _ hkept
  | bigSyncEstablished status bigHandle handles =>
    rw [handleEvent]
    split
    · exact nextSequence_addBisHandles 1 handles isoHandle device
    · rfl
  | bigSyncLost bigHandle => exact nextSequence_clearBisHandles _ hkept
  | disconnectionComplete status handle =>
    rw [handleEvent]
    split
    · next hstatus => exact getD_erase device.isoSequenceNumbers (hkept hstatus)
    · rfl
  | numberOfCompletedPackets handles counts =>
    rw [handleEvent, nextSequence_flushIsoQueue, nextSequence_flushAclQueue,
      nextSequence_completions]
  | readBufferSize status length count => rw [handleEvent]; split <;> rfl
  | leReadBufferSize status length count => rw [handleEvent]; split <;> rfl
  | leReadBufferSizeV2 status length count isoLength isoCount => rw [handleEvent]; split <;> rfl
  | other sends => exact nextSequence_sendAll port isoHandle sends device

theorem nextSequence_insert (device : HostQueues L) (handle isoHandle value : UInt16) :
    (device.isoSequenceNumbers.insert handle value)[isoHandle]?.getD (0 : UInt16) =
      if handle = isoHandle then value else device.nextSequence isoHandle := by
  rw [OrderedMap.getElem?_insert]
  split <;> rfl

/-- An accepted SDU moves the sequence number of its own stream by one. -/
theorem nextSequence_sendIsoSdu (port : LinkPort L) (device : HostQueues L)
    (handle isoHandle : UInt16) (sdu : Bytes) :
    (device.sendIsoSdu port handle sdu).1.nextSequence isoHandle =
      if handle = isoHandle ∧ device.isoAccepted port isoHandle sdu then
        device.nextSequence isoHandle + 1
      else device.nextSequence isoHandle := by
  by_cases hallowed : device.canSendIso handle = true ∧ sdu.length ≤ 0x0FFF ∧
      sduInfoLength < device.isoPacketLength
  · obtain ⟨hcan, hsize, hlength⟩ := hallowed
    have haccepted : device.isoAccepted port handle sdu = (device.isoPool.isSome ||
        (sendDirectly port device.link (device.isoPackets handle sdu)).2) := by
      rw [isoAccepted, hcan, decide_eq_true hsize, decide_eq_true hlength]
      rfl
    rw [sendIsoSdu_eq port hcan hsize hlength]
    cases hpool : device.isoPool with
    | some pool =>
      dsimp only
      rw [nextSequence_flushIsoQueue, nextSequence, nextSequence_insert]
      by_cases heq : handle = isoHandle
      · subst heq
        rw [haccepted, hpool, if_pos rfl, if_pos ⟨rfl, rfl⟩]
      · rw [if_neg heq, if_neg fun hboth => heq hboth.1]
    | none =>
      rw [hpool, Option.isSome_none, Bool.false_or] at haccepted
      dsimp only
      by_cases hsent : (sendDirectly port device.link (device.isoPackets handle sdu)).2
      · rw [if_pos hsent, nextSequence, nextSequence_insert]
        by_cases heq : handle = isoHandle
        · subst heq
          rw [if_pos rfl, if_pos ⟨rfl, haccepted.trans hsent⟩]
        · rw [if_neg heq, if_neg fun hboth => heq hboth.1]
      · rw [if_neg hsent, nextSequence, nextSequence_insert]
        by_cases heq : handle = isoHandle
        · subst heq
          rw [if_pos rfl, if_neg fun hboth => hsent (haccepted.symm.trans hboth.2)]
        · rw [if_neg heq, if_neg fun hboth => heq hboth.1]
  · have hrefused : device.sendIsoSdu port handle sdu = (device, false) := by
      rw [sendIsoSdu]
      split
      · rfl
      · next hallow =>
        simp only [Bool.or_eq_true, Bool.not_eq_true', decide_eq_true_eq, not_or] at hallow
        refine if_pos (Nat.le_of_not_lt ?_)
        intro hlength
        exact hallowed ⟨Bool.not_eq_false _ ▸ hallow.1, Nat.le_of_not_lt hallow.2, hlength⟩
    have hnot : ¬ (handle = isoHandle ∧ device.isoAccepted port isoHandle sdu = true) := by
      rintro ⟨rfl, haccepted⟩
      refine hallowed ?_
      simp only [isoAccepted, Bool.and_eq_true, decide_eq_true_eq] at haccepted
      exact ⟨haccepted.1.1.1, haccepted.1.1.2, haccepted.1.2⟩
    rw [hrefused, if_neg hnot]

theorem nextSequence_flush {device : HostQueues L} {isoHandle : UInt16}
    (houtside : device.OutsideFlush isoHandle) :
    device.flush.nextSequence isoHandle = device.nextSequence isoHandle := by
  obtain ⟨hle, hclassic, hcis, hsynchronous⟩ := houtside
  rw [nextSequence, flush]
  dsimp only
  rw [Std.ExtTreeMap.getElem?_filter']
  simp only [hle, hclassic, hcis, hsynchronous, decide_false, Bool.or_false, Bool.not_false]
  rw [nextSequence]
  cases device.isoSequenceNumbers[isoHandle]? <;> rfl

/-- A call that does not end the stream sends nothing on it and leaves its number, or sends an
    SDU with that number and goes on to the next. -/
theorem apply_sequence (port : LinkPort L) {device : HostQueues L} {isoHandle : UInt16}
    {call : HostCall} (hkept : device.CallKeepsStream port isoHandle call) :
    (device.sequencesOfCall port isoHandle call = [] ∧
        (device.apply port call).nextSequence isoHandle = device.nextSequence isoHandle) ∨
      (device.sequencesOfCall port isoHandle call = [device.nextSequence isoHandle] ∧
        (device.apply port call).nextSequence isoHandle = device.nextSequence isoHandle + 1) := by
  cases call with
  | poll events =>
    refine .inl ⟨rfl, ?_⟩
    refine @poll_kept L port
      (fun other => other.nextSequence isoHandle = device.nextSequence isoHandle)
      (StreamKept isoHandle) ?_ events device rfl hkept
    intro other event hother hcondition
    by_cases hready : other.controllerReady
    · rw [pollEvent_ready hready, nextSequence_handleEvent port hready hcondition, hother]
    · rcases pollEvent_not_ready port hready event with hsame | ⟨status, rfl, hsame⟩
      · rw [hsame, hother]
      · rw [hsame]
        exact hother
  | sendL2capOnHandle send =>
    exact .inl ⟨rfl, nextSequence_sendL2cap port device send.handle send.cid send.payload isoHandle⟩
  | sendIsoSdu handle sdu =>
    have hnext := nextSequence_sendIsoSdu port device handle isoHandle sdu
    by_cases hsent : handle = isoHandle ∧ device.isoAccepted port isoHandle sdu
    · rw [if_pos hsent] at hnext
      exact .inr ⟨if_pos hsent, hnext⟩
    · rw [if_neg hsent] at hnext
      exact .inl ⟨if_neg hsent, hnext⟩
  | configureControllerPacketPools classicAcl leAcl iso =>
    refine .inl ⟨rfl, ?_⟩
    rw [apply, configureControllerPacketPools]
    split <;> rfl
  | setAclDataPacketLength length =>
    refine .inl ⟨rfl, ?_⟩
    rw [apply, setAclDataPacketLength]
    split <;> rfl
  | setAclMaxInFlight count =>
    refine .inl ⟨rfl, ?_⟩
    rw [apply, setAclMaxInFlight]
    split
    · rfl
    · split <;> rfl
  | flush => exact .inl ⟨rfl, nextSequence_flush hkept⟩
  | reset inUse =>
    refine .inl ⟨rfl, ?_⟩
    cases inUse with
    | true => exact nextSequence_flush (hkept rfl)
    | false => rfl

/-- **Consecutive numbers.**  The SDUs that a run sends on a handle have consecutive numbers, as
    long as the stream of the handle does not end. -/
theorem sequencesSent_chain (port : LinkPort L) (isoHandle : UInt16) (calls : List HostCall) :
    ∀ {device : HostQueues L}, device.RunKeepsStream port isoHandle calls →
      (device.sequencesSent port isoHandle calls).IsChain (fun number next => next = number + 1) ∧
      ∀ first ∈ (device.sequencesSent port isoHandle calls).head?,
        first = device.nextSequence isoHandle := by
  induction calls with
  | nil =>
    intro device _
    exact ⟨.nil, fun first hfirst => nomatch hfirst⟩
  | cons call calls ih =>
    intro device hkept
    obtain ⟨hchain, hhead⟩ := ih hkept.2
    rw [sequencesSent]
    rcases apply_sequence port hkept.1 with ⟨hnone, hsame⟩ | ⟨hone, hnext⟩
    · rw [hnone, List.nil_append, ← hsame]
      exact ⟨hchain, hhead⟩
    · rw [hone, List.singleton_append]
      refine ⟨List.isChain_cons.mpr ⟨?_, hchain⟩, ?_⟩
      · intro next hmem
        rw [hhead next hmem, hnext]
      · rintro first ⟨⟩
        rfl

end HostQueues

/-! ## 5. SDUs -/

open HostQueues in
/-- **Fragmentation is undone by reassembly.**  The packets of an SDU go to the queue or to the
    link, none is longer than the packet length, and an assembler in any state returns the SDU
    for the last and nothing for the others; the SDUs of a run on a handle whose stream does not
    end have consecutive numbers. -/
theorem iso_sdus_reassembled {L : Type} (port : LinkPort L) {device : HostQueues L}
    {isoHandle : UInt16} (hcan : device.canSendIso isoHandle) {sdu : Bytes}
    (hsize : sdu.length ≤ 4095) (hlength : 4 < device.isoPacketLength)
    (assembler : IsoSduAssembler) {calls : List HostCall}
    (hkept : device.RunKeepsStream port isoHandle calls) :
    (match device.isoPool with
      | some pool => (device.sendIsoSdu port isoHandle sdu) = flushIsoQueue port { device with
          isoPool := some { pool with
            queue := enqueueAll isoHandle (device.isoPackets isoHandle sdu) pool.queue }
          isoSequenceNumbers := device.isoSequenceNumbers.insert isoHandle
            (device.nextSequence isoHandle + 1) }
      | none => ((device.sendIsoSdu port isoHandle sdu).1.link,
          (device.sendIsoSdu port isoHandle sdu).2) =
            sendDirectly port device.link (device.isoPackets isoHandle sdu)) ∧
    (∀ packet ∈ device.isoPackets isoHandle sdu,
      packet.dataTotalLength.toNat ≤ device.isoPacketLength) ∧
    (∃ count, assembler.pushAll (device.isoPackets isoHandle sdu) =
      List.replicate count none ++ [some ⟨isoHandle, device.nextSequence isoHandle, 0, sdu⟩]) ∧
    (device.sequencesSent port isoHandle calls).IsChain fun number next => next = number + 1 := by
  refine ⟨?_, isoFragments_length_le hlength sdu _,
    pushAll_isoFragments isoHandle _ hlength hsize assembler,
    (sequencesSent_chain port isoHandle calls hkept).1⟩
  rw [sendIsoSdu_eq port hcan hsize hlength]
  cases hpool : device.isoPool with
  | some pool => rfl
  | none =>
    dsimp only
    by_cases hsent : (sendDirectly port device.link (device.isoPackets isoHandle sdu)).2
    · rw [if_pos hsent, hsent.symm]
    · rw [if_neg hsent, ← Bool.eq_false_iff.mpr hsent]

open HostQueues in
/-- An SDU of ten octets in three packets for a queue of two, against an assembler that
    waits for the rest of another SDU, and then two more SDUs. -/
theorem split_sdu_reassembled :
    let device : HostQueues Unit :=
      { link := ()
        cisLinks := (∅ : Std.ExtTreeSet UInt16).insert 5
        isoPool := some ⟨6, { maxInFlight := 2 }⟩ }
    let sdu : Bytes := [1, 2, 3, 4, 5, 6, 7, 8, 9, 10]
    (device.isoPackets 5 sdu).length = 3 ∧
    device.sendIsoSdu acceptingPort 5 sdu = flushIsoQueue acceptingPort { device with
      isoPool := some ⟨6, enqueueAll 5 (device.isoPackets 5 sdu) { maxInFlight := 2 }⟩
      isoSequenceNumbers := device.isoSequenceNumbers.insert 5 1 } ∧
    (∀ packet ∈ device.isoPackets 5 sdu, packet.dataTotalLength.toNat ≤ 6) ∧
    (∃ count, IsoSduAssembler.pushAll ⟨some ⟨5, 9, 0, [1, 2]⟩, 3⟩ (device.isoPackets 5 sdu) =
      List.replicate count none ++ [some ⟨5, 0, 0, sdu⟩]) ∧
    (device.sequencesSent acceptingPort 5 [.sendIsoSdu 5 sdu, .sendIsoSdu 5 [7]]).IsChain
      fun number next => next = number + 1 := by
  intro device sdu
  have hcan : device.canSendIso 5 := by
    rw [canSendIso, Bool.or_eq_true, decide_eq_true_eq]
    exact .inl Std.ExtTreeSet.mem_insert_self
  have hnumber : device.nextSequence 5 = 0 := by
    rw [nextSequence, Std.ExtTreeMap.getElem?_empty]
    rfl
  have hsdu := @iso_sdus_reassembled Unit acceptingPort device 5 hcan sdu (by decide) (by decide)
    ⟨some ⟨5, 9, 0, [1, 2]⟩, 3⟩ [.sendIsoSdu 5 sdu, .sendIsoSdu 5 [7]] ⟨trivial, trivial, trivial⟩
  rw [hnumber] at hsdu
  exact ⟨by decide, hsdu⟩

end Bumble.Host
