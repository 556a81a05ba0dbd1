import Bumble.RtpPacket
import Bumble.Outcome

/-!
# SBC frames in RTP packets (`bumble-a2dp/src/media.rs`)

A stream of SBC frames is cut at the frame lengths, and the frames are put into packets in
batches: a batch is sent when the next frame does not fit behind it or when it has fifteen
frames, and what is left is sent at the end.
-/

namespace Bumble.A2dp

inductive Error where
  | truncated (what : String)
  | invalid (what : String)
deriving DecidableEq, Repr

def sbcSyncWord : UInt8 := 0x9C
def sbcMaxFramesInRtpPayload : Nat := 15

structure SbcFrame where
  samplingFrequency : UInt32
  blockCount : UInt8
  channelMode : UInt8
  allocationMethod : UInt8
  subbandCount : UInt8
  bitpool : UInt8
  /-- The whole frame, with its header. -/
  payload : Bytes
deriving DecidableEq, Repr

namespace SbcFrame

def sampleCount (frame : SbcFrame) : UInt32 :=
  frame.subbandCount.toUInt32 * frame.blockCount.toUInt32

/-! ## 1. Parsing -/

def samplingFrequencies : List UInt32 := [16000, 32000, 44100, 48000]

/-- `div_ceil(8)`. -/
def octetsOfBits (bits : Nat) : Nat := (bits + 7) / 8

def subbands (flags : UInt8) : UInt8 := if flags &&& 1 ≠ 0 then 8 else 4

/-- The length of a frame, from the fields of its header. -/
def frameLength (blockCount channelMode subbandCount bitpool : UInt8) : Nat :=
  let channels := if channelMode = 0 then 1 else 2
  let scaleFactors := octetsOfBits (4 * subbandCount.toNat * channels)
  let audioBits :=
    if channelMode = 0 ∨ channelMode = 1 then blockCount.toNat * channels * bitpool.toNat
    else (if channelMode = 3 then 1 else 0) * subbandCount.toNat + blockCount.toNat * bitpool.toNat
  4 + scaleFactors + octetsOfBits audioBits

def parse (data : Bytes) : Except Error (SbcFrame × Nat) :=
  match data with
  | sync :: flags :: bitpool :: _ :: _ =>
    if sync ≠ sbcSyncWord then .error (.invalid "SBC sync word")
    else
      let blockCount : UInt8 := (4 : UInt8) * ((flags >>> 4 &&& (3 : UInt8)) + (1 : UInt8))
      let channelMode : UInt8 := flags >>> 2 &&& 3
      let subbandCount := subbands flags
      let length := frameLength blockCount channelMode subbandCount bitpool
      if length ≤ data.length then
        .ok ({ samplingFrequency := samplingFrequencies.getD (flags >>> 6).toNat 0
               blockCount := blockCount
               channelMode := channelMode
               allocationMethod := flags >>> 1 &&& 1
               subbandCount := subbandCount
               bitpool := bitpool
               payload := data.take length }, length)
      else .error (.truncated "SBC frame payload")
  | _ => .error (.truncated "SBC frame header")

/-- The frames of a stream; each takes four octets at least. -/
def parseLoop : Nat → Bytes → Except Error (List SbcFrame)
  | 0, _ => .ok []
  | rounds + 1, data =>
    if data.isEmpty then .ok []
    else do
      let (frame, length) ← parse data
      let frames ← parseLoop rounds (data.drop length)
      pure (frame :: frames)

def parseStream (data : Bytes) : Except Error (List SbcFrame) := parseLoop data.length data

end SbcFrame

/-! ## 2. Packets -/

/-- What `packetize_sbc` keeps from frame to frame. -/
structure Packetizer where
  packets : List Rtp.MediaPacket
  batch : List SbcFrame
  batchSize : Nat
  sequenceNumber : UInt16
  sampleCount : UInt32

namespace Packetizer

def new : Packetizer := ⟨[], [], 0, 0, 0⟩

def octets (batch : List SbcFrame) : Bytes := batch.flatMap SbcFrame.payload

def samples (batch : List SbcFrame) : Nat := (batch.map fun frame => frame.sampleCount.toNat).sum

def mediaPacket (sequenceNumber : UInt16) (timestamp : UInt32) (batch : List SbcFrame) :
    Rtp.MediaPacket :=
  .new 96 sequenceNumber timestamp 0 (UInt8.ofNat batch.length :: octets batch)

def flush (state : Packetizer) : Packetizer :=
  if state.batch.isEmpty then state
  else
    { packets := state.packets ++ [mediaPacket state.sequenceNumber state.sampleCount state.batch]
      batch := []
      batchSize := 0
      sequenceNumber := state.sequenceNumber + 1
      sampleCount := state.sampleCount + UInt32.ofNat (samples state.batch) }

def push (maxPayload : Nat) (state : Packetizer) (frame : SbcFrame) : Except Error Packetizer :=
  if frame.payload.length > maxPayload then
    .error (.invalid "SBC frame exceeds RTP payload MTU")
  else
    let state :=
      if ¬ state.batch.isEmpty ∧ (state.batchSize + frame.payload.length > maxPayload ∨
          state.batch.length = sbcMaxFramesInRtpPayload) then state.flush
      else state
    .ok { state with
      batch := state.batch ++ [frame]
      batchSize := state.batchSize + frame.payload.length }

end Packetizer

def packetizeSbc (frames : List SbcFrame) (mtu : Nat) : Except Error (List Rtp.MediaPacket) :=
  if mtu < 13 then .error (.invalid "MTU is too small for RTP/SBC")
  else do
    let state ← frames.foldlM (Packetizer.push (mtu - 13)) Packetizer.new
    pure state.flush.packets

/-! ## 3. The stream is that of its frames -/

namespace SbcFrame

theorem frameLength_pos (blockCount channelMode subbandCount bitpool : UInt8) :
    4 ≤ frameLength blockCount channelMode subbandCount bitpool := by
  rw [frameLength]
  omega

theorem parse_eq_ok {data : Bytes} {frame : SbcFrame} {length : Nat}
    (hparse : parse data = .ok (frame, length)) :
    frame.payload = data.take length ∧ 4 ≤ length ∧ length ≤ data.length := by
  unfold parse at hparse
  split at hparse
  · split at hparse
    · cases hparse
    · dsimp only at hparse
      split at hparse
      · next hlength =>
        cases hparse
        exact ⟨rfl, frameLength_pos _ _ _ _, hlength⟩
      · cases hparse
  · cases hparse

theorem octets_of_parseLoop (rounds : Nat) : ∀ {data : Bytes} {frames : List SbcFrame},
    data.length ≤ rounds → parseLoop rounds data = .ok frames →
      Packetizer.octets frames = data := by
  induction rounds with
  | zero =>
    intro data frames hrounds hparse
    cases hparse
    exact (List.eq_nil_of_length_eq_zero (Nat.le_zero.mp hrounds)).symm
  | succ rounds ih =>
    intro data frames hrounds hparse
    rw [parseLoop] at hparse
    split at hparse
    · next hempty =>
      cases hparse
      exact (List.isEmpty_iff.mp hempty).symm
    · obtain ⟨⟨frame, length⟩, hframe, hparse⟩ := except_bind_eq_ok hparse
      obtain ⟨later, hlater, hparse⟩ := except_bind_eq_ok hparse
      cases hparse
      obtain ⟨hpayload, hpos, hlength⟩ := parse_eq_ok hframe
      have hdrop : (data.drop length).length ≤ rounds := by
        rw [List.length_drop]
        omega
      have hrest := ih hdrop hlater
      rw [Packetizer.octets, List.flatMap_cons, hpayload]
      change data.take length ++ Packetizer.octets later = data
      rw [hrest, List.take_append_drop]

theorem octets_of_parseStream {data : Bytes} {frames : List SbcFrame}
    (hparse : parseStream data = .ok frames) : Packetizer.octets frames = data :=
  octets_of_parseLoop data.length (le_refl _) hparse

end SbcFrame

/-! ## 4. Batches -/

namespace Packetizer

structure Fits (maxPayload : Nat) (batch : List SbcFrame) : Prop where
  some : 1 ≤ batch.length
  count : batch.length ≤ sbcMaxFramesInRtpPayload
  size : (octets batch).length ≤ maxPayload

/-- The packets of the batches, from a sequence number and a number of samples on. -/
def packetsOf : Nat → Nat → List (List SbcFrame) → List Rtp.MediaPacket
  | _, _, [] => []
  | index, count, batch :: batches =>
    mediaPacket (UInt16.ofNat index) (UInt32.ofNat count) batch ::
      packetsOf (index + 1) (count + samples batch) batches

theorem octets_append (first later : List SbcFrame) :
    octets (first ++ later) = octets first ++ octets later := List.flatMap_append

theorem samples_append (first later : List SbcFrame) :
    samples (first ++ later) = samples first + samples later := by
  rw [samples, List.map_append, List.sum_append]
  rfl

theorem packetsOf_append (batches : List (List SbcFrame)) (batch : List SbcFrame) :
    ∀ index count, packetsOf index count (batches ++ [batch]) =
      packetsOf index count batches ++
        [mediaPacket (UInt16.ofNat (index + batches.length))
          (UInt32.ofNat (count + samples batches.flatten)) batch] := by
  induction batches with
  | nil =>
    intro index count
    rfl
  | cons first batches ih =>
    intro index count
    rw [List.cons_append, packetsOf, packetsOf, ih, List.flatten_cons, samples_append,
      List.length_cons, List.cons_append, Nat.add_assoc count, Nat.add_right_comm index,
      Nat.add_assoc index]

theorem packetsOf_get (batches : List (List SbcFrame)) : ∀ index count place,
    (packetsOf index count batches)[place]? = batches[place]?.map fun batch =>
      mediaPacket (UInt16.ofNat (index + place))
        (UInt32.ofNat (count + samples (batches.take place).flatten)) batch := by
  induction batches with
  | nil =>
    intro index count place
    rfl
  | cons first batches ih =>
    intro index count place
    cases place with
    | zero => rfl
    | succ place =>
      rw [packetsOf, List.getElem?_cons_succ, List.getElem?_cons_succ, ih, List.take_succ_cons,
        List.flatten_cons, samples_append, Nat.add_assoc count, Nat.add_assoc index,
        Nat.add_comm 1 place]

theorem length_packetsOf (batches : List (List SbcFrame)) : ∀ index count,
    (packetsOf index count batches).length = batches.length := by
  induction batches with
  | nil =>
    intro index count
    rfl
  | cons first batches ih =>
    intro index count
    rw [packetsOf, List.length_cons, ih, List.length_cons]

theorem octets_packetsOf (batches : List (List SbcFrame)) : ∀ index count,
    ((packetsOf index count batches).flatMap fun packet => packet.payload.drop 1) =
      octets batches.flatten := by
  induction batches with
  | nil =>
    intro index count
    rfl
  | cons first batches ih =>
    intro index count
    rw [packetsOf, List.flatMap_cons, ih, List.flatten_cons, octets_append]
    rfl

/-! ## 5. The loop -/

/-- The packets are those of batches that fit, and the open batch has the frames since. -/
structure Packed (maxPayload : Nat) (done : List SbcFrame) (state : Packetizer)
    (batches : List (List SbcFrame)) : Prop where
  frames : batches.flatten ++ state.batch = done
  packets : state.packets = packetsOf 0 0 batches
  sequenceNumber : state.sequenceNumber = UInt16.ofNat batches.length
  sampleCount : state.sampleCount = UInt32.ofNat (samples batches.flatten)
  batchSize : state.batchSize = (octets state.batch).length
  full : ∀ batch ∈ batches, Fits maxPayload batch
  opened : state.batch ≠ [] → Fits maxPayload state.batch

variable {maxPayload : Nat} {done : List SbcFrame} {state : Packetizer}
  {batches : List (List SbcFrame)}

theorem packed_new : Packed maxPayload [] new [] where
  frames := rfl
  packets := rfl
  sequenceNumber := rfl
  sampleCount := rfl
  batchSize := rfl
  full := by
    intro batch hbatch
    cases hbatch
  opened := fun hopened => absurd rfl hopened

theorem packed_flush (hpacked : Packed maxPayload done state batches) :
    ∃ closed, Packed maxPayload done state.flush closed ∧ state.flush.batch = [] := by
  rw [flush]
  split
  · next hempty => exact ⟨batches, hpacked, List.isEmpty_iff.mp hempty⟩
  · next hopened =>
    have hfits := hpacked.opened fun hempty => hopened (List.isEmpty_iff.mpr hempty)
    refine ⟨batches ++ [state.batch], ?_, rfl⟩
    constructor
    · rw [List.flatten_append, List.flatten_singleton, List.append_nil]
      exact hpacked.frames
    · rw [packetsOf_append, hpacked.packets, hpacked.sequenceNumber, hpacked.sampleCount,
        Nat.zero_add, Nat.zero_add]
    · rw [hpacked.sequenceNumber, List.length_append, List.length_singleton, UInt16.ofNat_add]
      rfl
    · rw [hpacked.sampleCount, List.flatten_append, List.flatten_singleton, samples_append,
        UInt32.ofNat_add]
    · rfl
    · intro batch hbatch
      rcases List.mem_append.mp hbatch with hbatch | hbatch
      · exact hpacked.full batch hbatch
      · rw [List.mem_singleton.mp hbatch]
        exact hfits
    · exact fun hopened => absurd rfl hopened

theorem packed_join (hpacked : Packed maxPayload done state batches) {frame : SbcFrame}
    (hroom : (octets state.batch).length + frame.payload.length ≤ maxPayload)
    (hcount : state.batch.length < sbcMaxFramesInRtpPayload) :
    Packed maxPayload (done ++ [frame]) { state with
      batch := state.batch ++ [frame]
      batchSize := state.batchSize + frame.payload.length } batches where
  frames := by rw [← List.append_assoc, hpacked.frames]
  packets := hpacked.packets
  sequenceNumber := hpacked.sequenceNumber
  sampleCount := hpacked.sampleCount
  batchSize := by
    rw [octets_append, List.length_append, ← hpacked.batchSize]
    change _ = _ + (frame.payload ++ []).length
    rw [List.append_nil]
  full := hpacked.full
  opened := by
    intro _
    constructor
    · rw [List.length_append, List.length_singleton]
      exact Nat.le_add_left 1 _
    · rw [List.length_append, List.length_singleton]
      exact hcount
    · rw [octets_append, List.length_append]
      change _ + (frame.payload ++ []).length ≤ _
      rw [List.append_nil]
      exact hroom

theorem packed_empty (hpacked : Packed maxPayload done state batches) (hempty : state.batch = [])
    {frame : SbcFrame} (hframe : frame.payload.length ≤ maxPayload) :
    Packed maxPayload (done ++ [frame]) { state with
      batch := state.batch ++ [frame]
      batchSize := state.batchSize + frame.payload.length } batches := by
  apply packed_join hpacked
  · rw [hempty]
    change 0 + _ ≤ _
    omega
  · rw [hempty]
    decide

theorem packed_push {frame : SbcFrame} {after : Packetizer}
    (hpacked : Packed maxPayload done state batches)
    (hpush : push maxPayload state frame = .ok after) :
    ∃ later, Packed maxPayload (done ++ [frame]) after later := by
  rw [push] at hpush
  split at hpush
  · cases hpush
  · next hframe =>
    cases hpush
    split
    · obtain ⟨closed, hclosed, hempty⟩ := packed_flush hpacked
      exact ⟨closed, packed_empty hclosed hempty (Nat.le_of_not_lt hframe)⟩
    · next hopen =>
      by_cases hempty : state.batch = []
      · exact ⟨batches, packed_empty hpacked hempty (Nat.le_of_not_lt hframe)⟩
      · have hroom := not_or.mp (not_and.mp hopen (hempty ∘ List.isEmpty_iff.mp))
        have hcount := (hpacked.opened hempty).count
        rw [hpacked.batchSize] at hroom
        exact ⟨batches, packed_join hpacked (Nat.le_of_not_lt hroom.1)
          (Nat.lt_of_le_of_ne hcount hroom.2)⟩

theorem packed_run (frames : List SbcFrame) : ∀ {done : List SbcFrame} {state after : Packetizer}
    {batches : List (List SbcFrame)}, Packed maxPayload done state batches →
    frames.foldlM (push maxPayload) state = .ok after →
    ∃ later, Packed maxPayload (done ++ frames) after later := by
  induction frames with
  | nil =>
    intro done state after batches hpacked hrun
    cases hrun
    rw [List.append_nil]
    exact ⟨batches, hpacked⟩
  | cons frame frames ih =>
    intro done state after batches hpacked hrun
    rw [List.foldlM_cons] at hrun
    obtain ⟨middle, hpush, hrun⟩ := except_bind_eq_ok hrun
    obtain ⟨later, hlater⟩ := packed_push hpacked hpush
    obtain ⟨last, hlast⟩ := ih hlater hrun
    rw [List.append_assoc] at hlast
    exact ⟨last, hlast⟩

theorem mediaPacket_fits {mtu : Nat} {batch : List SbcFrame} (hmtu : 13 ≤ mtu)
    (hfits : Fits (mtu - 13) batch) (sequenceNumber : UInt16) (timestamp : UInt32) :
    ∃ bytes, (mediaPacket sequenceNumber timestamp batch).toBytes = .ok bytes ∧
      bytes.length ≤ mtu := by
  obtain ⟨bytes, hbytes, hlength⟩ :=
    Rtp.MediaPacket.toBytes_new (show (96 : UInt8) ≤ 0x7F by decide)
    sequenceNumber timestamp 0 (UInt8.ofNat batch.length :: octets batch)
  have hsize := hfits.size
  refine ⟨bytes, hbytes, ?_⟩
  rw [hlength, List.length_cons]
  omega

end Packetizer

open Packetizer in
/-- **Packetization loses nothing.**  The payloads of the packets are the stream, with the number
    of the frames of each batch in front; the packets fit the MTU, are numbered one by one and
    carry the number of the samples before them. -/
theorem sbc_packetized (data : Bytes) (frames : List SbcFrame) (mtu : Nat)
    (packets : List Rtp.MediaPacket) (hframes : SbcFrame.parseStream data = .ok frames)
    (hpackets : packetizeSbc frames mtu = .ok packets) :
    (packets.flatMap fun packet => packet.payload.drop 1) = data ∧
    SbcFrame.parseStream (packets.flatMap fun packet => packet.payload.drop 1) = .ok frames ∧
    ∃ batches : List (List SbcFrame), batches.flatten = frames ∧
      batches.length = packets.length ∧
      ∀ index packet batch, packets[index]? = some packet → batches[index]? = some batch →
        (1 ≤ batch.length ∧ batch.length ≤ 15) ∧
        packet.payload = UInt8.ofNat batch.length :: batch.flatMap SbcFrame.payload ∧
        packet.sequenceNumber = UInt16.ofNat index ∧
        packet.timestamp = UInt32.ofNat (samples (batches.take index).flatten) ∧
        ∃ bytes, packet.toBytes = .ok bytes ∧ bytes.length ≤ mtu := by
  rw [packetizeSbc] at hpackets
  split at hpackets
  · cases hpackets
  · next hmtu =>
    obtain ⟨state, hrun, hpackets⟩ := except_bind_eq_ok hpackets
    cases hpackets
    obtain ⟨batches, hpacked⟩ := packed_run frames packed_new hrun
    obtain ⟨closed, hclosed, hempty⟩ := packed_flush hpacked
    have hall : closed.flatten = frames := by
      have hdone := hclosed.frames
      rwa [hempty, List.append_nil, List.nil_append] at hdone
    have hdata : (state.flush.packets.flatMap fun packet => packet.payload.drop 1) = data := by
      rw [hclosed.packets, octets_packetsOf, hall, SbcFrame.octets_of_parseStream hframes]
    refine ⟨hdata, by rw [hdata]; exact hframes, closed, hall, ?_, ?_⟩
    · rw [hclosed.packets, length_packetsOf]
    · intro index packet batch hpacket hbatch
      have hfits := hclosed.full batch (List.mem_of_getElem? hbatch)
      rw [hclosed.packets, packetsOf_get, hbatch, Nat.zero_add, Nat.zero_add] at hpacket
      cases hpacket
      exact ⟨⟨hfits.some, hfits.count⟩, rfl, rfl, rfl,
        mediaPacket_fits (Nat.le_of_not_lt hmtu) hfits _ _⟩

/-- Two silent frames travel in one packet. -/
theorem two_frames_packetized : ∃ frames packets,
    SbcFrame.parseStream [0x9C, 0, 0, 0, 0, 0, 0x9C, 0, 0, 0, 0, 0] = .ok frames ∧
      packetizeSbc frames 25 = .ok packets ∧
      (packets.flatMap fun packet => packet.payload.drop 1) =
        [0x9C, 0, 0, 0, 0, 0, 0x9C, 0, 0, 0, 0, 0] :=
  ⟨_, _, rfl, rfl, (sbc_packetized [0x9C, 0, 0, 0, 0, 0, 0x9C, 0, 0, 0, 0, 0] _ 25 _ rfl rfl).1⟩

end Bumble.A2dp
