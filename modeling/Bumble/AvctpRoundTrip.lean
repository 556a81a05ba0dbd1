import Bumble.AvctpMessage

/-!
# AVCTP fragmentation is undone by reassembly

The packets of a message that encodes give the message back, from any state of the
assembler, and leave it empty.
-/

namespace Bumble.Avctp

/-! ## 1. Headers -/

theorem headerOctet_fields (packetType : PacketType) (isCommand ipid : Bool) (label : UInt8)
    (hlabel : label.toNat < 16) :
    Message.headerOctet label packetType isCommand ipid >>> 4 = label ∧
    PacketType.fromBits (Message.headerOctet label packetType isCommand ipid >>> 2) =
      packetType ∧
    decide (Message.headerOctet label packetType isCommand ipid &&& 0x02 = 0) = isCommand ∧
    decide (Message.headerOctet label packetType isCommand ipid &&& 0x01 ≠ 0) = ipid := by
  refine forall_octet_lt (P := fun label =>
    Message.headerOctet label packetType isCommand ipid >>> 4 = label ∧
    PacketType.fromBits (Message.headerOctet label packetType isCommand ipid >>> 2) = packetType ∧
    decide (Message.headerOctet label packetType isCommand ipid &&& 0x02 = 0) = isCommand ∧
    decide (Message.headerOctet label packetType isCommand ipid &&& 0x01 ≠ 0) = ipid)
    ?_ label hlabel
  cases packetType <;> cases isCommand <;> cases ipid <;> decide

/-- The label and the flags of a message fit the header. -/
structure Message.FitsHeader (message : Message) : Prop where
  label : message.transactionLabel.toNat < 16
  flags : ¬(message.isCommand = true ∧ message.ipid = true)

def Message.octet (message : Message) (packetType : PacketType) : UInt8 :=
  headerOctet message.transactionLabel packetType message.isCommand message.ipid

theorem Message.header_eq_ok {message : Message} {packetType : PacketType} {octet : UInt8}
    (hheader : message.header packetType = .ok octet) :
    message.FitsHeader ∧ octet = message.octet packetType := by
  rw [header] at hheader
  split at hheader
  · cases hheader
  · next hfits =>
    cases hheader
    rw [not_or] at hfits
    refine ⟨⟨?_, hfits.2⟩, rfl⟩
    exact Nat.lt_succ_of_le (UInt8.le_iff_toNat_le.mp (UInt8.not_lt.mp hfits.1))

theorem u16ToBe_eq (value : UInt16) : ∃ high low, u16ToBe value = [high, low] ∧
    UInt16.ofNat (beToNat [high, low]) = value := by
  refine ⟨_, _, rfl, ?_⟩
  have hdecoded := beToNat_natToBe 2 value.toNat_lt
  change UInt16.ofNat (beToNat (natToBe 2 value.toNat)) = value
  rw [hdecoded]
  exact UInt16.ofNat_toNat

/-! ## 2. Packets -/

namespace MessageAssembler

variable {message : Message}

theorem push_octet (assembler : MessageAssembler) (hfits : message.FitsHeader)
    (packetType : PacketType) (body : Bytes) :
    assembler.push (message.octet packetType :: body) =
      assembler.pushPacket message.transactionLabel message.isCommand message.ipid packetType
        body := by
  obtain ⟨hlabel, hpacket, hcommand, hipid⟩ :=
    headerOctet_fields packetType message.isCommand message.ipid _ hfits.label
  rw [push, Message.octet, hlabel, hpacket, hcommand, hipid]
  exact if_neg hfits.flags

section Fields

variable (label : UInt8) (isCommand ipid : Bool) (pid : UInt16)

theorem pushPacket_single (assembler : MessageAssembler) (payload : Bytes) :
    assembler.pushPacket label isCommand ipid .single (u16ToBe pid ++ payload) =
      (⟨none⟩, some ⟨label, isCommand, ipid, pid, payload⟩) := by
  obtain ⟨high, low, hpid, hvalue⟩ := u16ToBe_eq pid
  rw [hpid, List.cons_append, List.cons_append, pushPacket, hvalue]
  rfl

theorem pushPacket_start (assembler : MessageAssembler) {count : UInt8} (hcount : ¬ count < 2)
    (payload : Bytes) :
    assembler.pushPacket label isCommand ipid .start (count :: (u16ToBe pid ++ payload)) =
      (⟨some ⟨label, isCommand, ipid, pid, count, 1, payload⟩⟩, none) := by
  obtain ⟨high, low, hpid, hvalue⟩ := u16ToBe_eq pid
  rw [hpid, List.cons_append, List.cons_append, pushPacket, hvalue]
  exact if_neg hcount

theorem pushPacket_continuation (pending : PendingMessage) (last : Bool) (fragment : Bytes) :
    pushPacket ⟨some pending⟩ label isCommand ipid (if last then .end else .continue)
        (u16ToBe pid ++ fragment) =
      pushContinuation pending label isCommand ipid pid last fragment := by
  obtain ⟨high, low, hpid, hvalue⟩ := u16ToBe_eq pid
  rw [hpid, List.cons_append, List.cons_append, ← hvalue]
  cases last <;> rfl

end Fields

theorem pushAll_cons {assembler next : MessageAssembler} {pdu : Bytes} {completed : Option Message}
    (hpush : assembler.push pdu = (next, completed)) (pdus : List Bytes) :
    assembler.pushAll (pdu :: pdus) =
      ((next.pushAll pdus).1, completed.toList ++ (next.pushAll pdus).2) := by
  rw [pushAll, hpush]

structure InProgress (pending : PendingMessage) (message : Message) : Prop where
  transactionLabel : pending.transactionLabel = message.transactionLabel
  isCommand : pending.isCommand = message.isCommand
  ipid : pending.ipid = message.ipid
  pid : pending.pid = message.pid

theorem pushContinuation_inProgress {pending : PendingMessage}
    (hprogress : InProgress pending message)
    (hroom : pending.receivedPackets.toNat < pending.expectedPackets.toNat) (last : Bool)
    (fragment : Bytes) :
    pushContinuation pending message.transactionLabel message.isCommand message.ipid message.pid
        last fragment =
      if last then
        if saturatingSucc pending.receivedPackets ≠ pending.expectedPackets then (⟨none⟩, none)
        else (⟨none⟩, some { message with payload := pending.payload ++ fragment })
      else (⟨some { pending with
        receivedPackets := saturatingSucc pending.receivedPackets
        payload := pending.payload ++ fragment }⟩, none) := by
  have hexpected := pending.expectedPackets.toNat_lt
  have hnext : ¬ saturatingSucc pending.receivedPackets > pending.expectedPackets := by
    rw [gt_iff_lt, UInt8.lt_iff_toNat_lt, saturatingSucc_toNat (by omega)]
    omega
  rw [pushContinuation, if_neg (by
    rw [hprogress.transactionLabel, hprogress.isCommand, hprogress.ipid, hprogress.pid]
    simp)]
  exact if_neg hnext

theorem pushAll_continuations (hfits : message.FitsHeader) (chunks : List Bytes)
    (hchunks : chunks ≠ []) :
    ∀ (pending : PendingMessage) (pdus : List Bytes), InProgress pending message →
    pending.receivedPackets.toNat + chunks.length = pending.expectedPackets.toNat →
    message.continuationPdus chunks = .ok pdus →
    pushAll ⟨some pending⟩ pdus =
      (⟨none⟩, [{ message with payload := pending.payload ++ chunks.flatten }]) := by
  induction chunks with
  | nil => exact absurd rfl hchunks
  | cons chunk later ih =>
    intro pending pdus hprogress hcount hpdus
    rw [List.length_cons] at hcount
    have hexpected := pending.expectedPackets.toNat_lt
    have hreceived : (saturatingSucc pending.receivedPackets).toNat =
        pending.receivedPackets.toNat + 1 := saturatingSucc_toNat (by omega)
    rw [Message.continuationPdus] at hpdus
    obtain ⟨octet, hoctet, hpdus⟩ := except_bind_eq_ok hpdus
    obtain ⟨-, rfl⟩ := Message.header_eq_ok hoctet
    obtain ⟨rest, hrest, hpdus⟩ := except_bind_eq_ok hpdus
    cases hpdus
    have hpush : push ⟨some pending⟩ (message.octet (if later = [] then .end else .continue)
        :: (u16ToBe message.pid ++ chunk)) = pushContinuation pending message.transactionLabel
          message.isCommand message.ipid message.pid (decide (later = [])) chunk := by
      rw [push_octet ⟨some pending⟩ hfits, ← pushPacket_continuation]
      simp only [decide_eq_true_eq]
    rw [pushContinuation_inProgress hprogress (by omega)] at hpush
    by_cases hlast : later = []
    · have hend : saturatingSucc pending.receivedPackets = pending.expectedPackets := by
        apply UInt8.toNat.inj
        rw [hreceived, ← hcount, hlast]
        rfl
      subst hlast
      cases hrest
      rw [if_pos (decide_eq_true rfl), if_neg (not_not_intro hend)] at hpush
      rw [pushAll_cons hpush, List.flatten_cons, List.flatten_nil, List.append_nil]
      rfl
    · rw [decide_eq_false hlast, if_neg Bool.false_ne_true] at hpush
      have hlater := ih hlast { pending with
        receivedPackets := saturatingSucc pending.receivedPackets
        payload := pending.payload ++ chunk } rest
        ⟨hprogress.transactionLabel, hprogress.isCommand, hprogress.ipid, hprogress.pid⟩
        (by dsimp only; omega) hrest
      rw [pushAll_cons hpush, hlater, List.flatten_cons, ← List.append_assoc]
      rfl

/-- **Round trip.**  The packets of a message give exactly the message, from any state. -/
theorem pushAll_encodePdus (assembler : MessageAssembler) {mtu : Nat} {pdus : List Bytes}
    (hencode : message.encodePdus mtu = .ok pdus) :
    assembler.pushAll pdus = (⟨none⟩, [message]) := by
  rw [Message.encodePdus] at hencode
  split at hencode
  · cases hencode
  · next hmtu =>
    split at hencode
    · obtain ⟨octet, hoctet, hencode⟩ := except_bind_eq_ok hencode
      obtain ⟨hfits, rfl⟩ := Message.header_eq_ok hoctet
      cases hencode
      rw [pushAll_cons ((push_octet assembler hfits _ _).trans (pushPacket_single _ _ _ _ _ _))]
      rfl
    · next hlong =>
      dsimp only at hencode
      split at hencode
      · next hpackets =>
        obtain ⟨octet, hoctet, hencode⟩ := except_bind_eq_ok hencode
        obtain ⟨hfits, rfl⟩ := Message.header_eq_ok hoctet
        obtain ⟨rest, hrest, hencode⟩ := except_bind_eq_ok hencode
        cases hencode
        have hcapacity : 0 < mtu - 3 := by omega
        have hlength := length_chunks hcapacity (message.payload.drop (mtu - 4))
        rw [List.length_drop] at hlength
        have hsome : 1 ≤ (message.payload.length - (mtu - 4) + (mtu - 3) - 1) / (mtu - 3) := by
          rw [Nat.le_div_iff_mul_le hcapacity]
          omega
        generalize (message.payload.length - (mtu - 4) + (mtu - 3) - 1) / (mtu - 3) = count at *
        have hcount : (UInt8.ofNat (1 + count)).toNat = 1 + count := by
          rw [UInt8.toNat_ofNat']
          exact Nat.mod_eq_of_lt hpackets
        have henough : ¬ UInt8.ofNat (1 + count) < 2 := by
          rw [UInt8.lt_iff_toNat_lt, hcount]
          change ¬ 1 + count < 2
          omega
        have hnonempty : chunks (mtu - 3) (message.payload.drop (mtu - 4)) ≠ [] := by
          apply List.ne_nil_of_length_pos
          omega
        have hlater := pushAll_continuations hfits _ hnonempty
          ⟨message.transactionLabel, message.isCommand, message.ipid, message.pid,
            UInt8.ofNat (1 + count), 1, message.payload.take (mtu - 4)⟩ rest ⟨rfl, rfl, rfl, rfl⟩
          (by rw [hcount, hlength]; rfl) hrest
        rw [pushAll_cons ((push_octet assembler hfits _ _).trans
          (pushPacket_start _ _ _ _ _ henough _)), hlater, flatten_chunks hcapacity,
          List.take_append_drop]
        rfl
      · cases hencode

end MessageAssembler

end Bumble.Avctp
