import Bumble.PacketFraming

/-!
# Chunks of an H4 stream

Whether the packets returned depend on how the octets arrived.  Octet by octet
every decodable packet comes out; in one piece an error takes the packets in front
of it along.  The two agree exactly on the streams without an error and on those
without a packet.
-/

namespace Bumble.Transport

open FrameReader

variable {ε P : Type}

/-! ## 1. Packets of a stream -/

/-- The packets a decoder gets out of the frames it accepts. -/
def decodedPackets (decode : Bytes → Except ε P) (frames : List Bytes) : List P :=
  frames.filterMap fun frame => (decode frame).toOption

/-- A stream in which every complete packet decodes and the framing is never lost. -/
structure PacketFramer.Clean (framer : PacketFramer) (decode : Bytes → Except ε P)
    (stream : Bytes) : Prop where
  decodes : ∀ frame ∈ framer.reader.frames stream, (decode frame).isOk
  framed : ∀ error, framer.reader.look (framer.reader.remainder stream) ≠ .refused error

def PacketFramer.Barren (framer : PacketFramer) (decode : Bytes → Except ε P)
    (stream : Bytes) : Prop :=
  ∀ frame ∈ framer.reader.frames stream, ¬ (decode frame).isOk

theorem PacketFramer.clean_withBuffer {framer : PacketFramer} {decode : Bytes → Except ε P}
    {stream : Bytes} (buffer : Bytes) :
    (framer.withBuffer buffer).Clean decode stream ↔ framer.Clean decode stream := by
  constructor
  · intro hclean
    exact ⟨hclean.decodes, hclean.framed⟩
  · intro hclean
    exact ⟨hclean.decodes, hclean.framed⟩

theorem exists_of_isOk {result : Except ε P} (hok : result.isOk) : ∃ value, result = .ok value := by
  cases result with
  | ok value => exact ⟨value, rfl⟩
  | error error => exact nomatch hok

theorem exists_of_not_isOk {result : Except ε P} (hbad : ¬ result.isOk) :
    ∃ error, result = .error error := by
  cases result with
  | ok value => exact absurd rfl hbad
  | error error => exact ⟨error, rfl⟩

@[simp] theorem decodedPackets_nil (decode : Bytes → Except ε P) :
    decodedPackets decode [] = [] := rfl

theorem decodedPackets_cons_ok {decode : Bytes → Except ε P} {frame : Bytes} {packet : P}
    (hdecode : decode frame = .ok packet) (frames : List Bytes) :
    decodedPackets decode (frame :: frames) = packet :: decodedPackets decode frames := by
  rw [decodedPackets, List.filterMap_cons, hdecode]
  rfl

theorem decodedPackets_cons_error {decode : Bytes → Except ε P} {frame : Bytes} {error : ε}
    (hdecode : decode frame = .error error) (frames : List Bytes) :
    decodedPackets decode (frame :: frames) = decodedPackets decode frames := by
  rw [decodedPackets, List.filterMap_cons, hdecode]
  rfl

theorem decodedPackets_append (decode : Bytes → Except ε P) (first later : List Bytes) :
    decodedPackets decode (first ++ later) =
      decodedPackets decode first ++ decodedPackets decode later :=
  List.filterMap_append

theorem decodedPackets_eq_nil_iff (decode : Bytes → Except ε P) (frames : List Bytes) :
    decodedPackets decode frames = [] ↔ ∀ frame ∈ frames, ¬ (decode frame).isOk := by
  rw [decodedPackets, List.filterMap_eq_nil_iff]
  apply forall₂_congr
  intro frame _
  cases decode frame with
  | ok packet =>
    constructor
    · intro hnone
      exact nomatch hnone
    · intro hbad
      exact absurd rfl hbad
  | error error =>
    constructor
    · intro _ hok
      exact nomatch hok
    · intro _
      rfl

/-! ## 2. One call -/

namespace PacketFramer

variable {decode : Bytes → Except ε P}

/-- **A clean buffer is drained.**  The loop returns its packets and keeps the rest. -/
theorem drain_clean (fuel : Nat) : ∀ {framer : PacketFramer} {packets : List P},
    framer.buffer.length < fuel → framer.Clean decode framer.buffer →
      drain decode fuel framer packets =
        .ok (framer.withBuffer (framer.reader.remainder framer.buffer))
          (packets ++ decodedPackets decode (framer.reader.frames framer.buffer)) := by
  induction fuel with
  | zero =>
    intro framer packets hfuel _
    exact absurd hfuel (Nat.not_lt_zero _)
  | succ fuel ih =>
    intro framer packets hfuel hclean
    rw [drain_step]
    cases hlook : framer.reader.look framer.buffer with
    | incomplete =>
      have hstop := ne_packet_of_incomplete hlook
      rw [frames_stop hstop, remainder_stop hstop, decodedPackets_nil, List.append_nil]
      rfl
    | refused error =>
      have hframed := hclean.framed error
      rw [remainder_stop (ne_packet_of_refused hlook)] at hframed
      exact absurd hlook hframed
    | packet size =>
      have hframes := frames_packet hlook
      have hremainder := remainder_packet hlook
      have hsize := framer.reader.size hlook
      have hfirst := hclean.decodes (framer.buffer.take size)
        (by rw [hframes]; exact List.mem_cons_self)
      obtain ⟨packet, hpacket⟩ := exists_of_isOk hfirst
      have hlater : (framer.withBuffer (framer.buffer.drop size)).Clean decode
          (framer.buffer.drop size) := by
        constructor
        · intro frame hframe
          apply hclean.decodes
          rw [hframes]
          exact List.mem_cons_of_mem _ hframe
        · intro error hrefused
          apply hclean.framed error
          rw [hremainder]
          exact hrefused
      simp only [hpacket]
      rw [ih (by rw [withBuffer_buffer, List.length_drop]; omega) hlater, hframes, hremainder,
        decodedPackets_cons_ok hpacket, List.append_assoc]
      rfl

/-- **An error takes everything along.**  A buffer that is not clean makes the loop fail,
whatever packets it had completed. -/
theorem drain_unclean (fuel : Nat) : ∀ {framer : PacketFramer} {packets : List P},
    framer.buffer.length < fuel → ¬ framer.Clean decode framer.buffer →
      ∃ error, (drain decode fuel framer packets).result = .error error := by
  induction fuel with
  | zero =>
    intro framer packets hfuel _
    exact absurd hfuel (Nat.not_lt_zero _)
  | succ fuel ih =>
    intro framer packets hfuel hunclean
    rw [drain_step]
    cases hlook : framer.reader.look framer.buffer with
    | incomplete =>
      have hstop := ne_packet_of_incomplete hlook
      exfalso
      apply hunclean
      constructor
      · intro frame hframe
        rw [frames_stop hstop] at hframe
        exact absurd hframe List.not_mem_nil
      · intro error hrefused
        rw [remainder_stop hstop, hlook] at hrefused
        exact nomatch hrefused
    | refused error => exact ⟨error.toTransport, rfl⟩
    | packet size =>
      have hsize := framer.reader.size hlook
      cases hdecode : decode (framer.buffer.take size) with
      | error error =>
        refine ⟨.hci error, ?_⟩
        simp only [hdecode]
        rfl
      | ok packet =>
        simp only [hdecode]
        apply ih
        · rw [withBuffer_buffer, List.length_drop]
          omega
        · intro hlater
          apply hunclean
          constructor
          · intro frame hframe
            rw [frames_packet hlook] at hframe
            rcases List.mem_cons.mp hframe with rfl | hmem
            · rw [hdecode]
              rfl
            · exact hlater.decodes frame hmem
          · intro error hrefused
            apply hlater.framed error
            rw [remainder_packet hlook] at hrefused
            exact hrefused

theorem feed_clean {framer : PacketFramer} {data : Bytes}
    (hclean : framer.Clean decode (framer.buffer ++ data)) :
    framer.feed decode data =
      .ok (framer.withBuffer (framer.reader.remainder (framer.buffer ++ data)))
        (decodedPackets decode (framer.reader.frames (framer.buffer ++ data))) := by
  rw [feed, drain_clean _ (by rw [withBuffer_buffer, List.length_append]; omega)
    ((clean_withBuffer _).mpr hclean)]
  rfl

theorem feed_unclean {framer : PacketFramer} {data : Bytes}
    (hunclean : ¬ framer.Clean decode (framer.buffer ++ data)) :
    ∃ error, (framer.feed decode data).result = .error error := by
  rw [feed]
  apply drain_unclean
  · rw [withBuffer_buffer, List.length_append]
    omega
  · rw [clean_withBuffer]
    exact hunclean

end PacketFramer

/-! ## 3. Chunk after chunk -/

theorem feedChunks_cons_ok {decode : Bytes → Except ε P} {framer later : PacketFramer}
    {chunk : Bytes} {packets : List P} (hfed : framer.feed decode chunk = ⟨later, .ok packets⟩)
    (chunks : List Bytes) :
    feedChunks decode framer (chunk :: chunks) = packets ++ feedChunks decode later chunks := by
  rw [feedChunks]
  simp only [hfed]

theorem feedChunks_cons_error {decode : Bytes → Except ε P} {framer later : PacketFramer}
    {chunk : Bytes} {error : TransportError ε}
    (hfed : framer.feed decode chunk = ⟨later, .error error⟩) (chunks : List Bytes) :
    feedChunks decode framer (chunk :: chunks) =
      if error.losesFraming then [] else feedChunks decode later chunks := by
  rw [feedChunks]
  simp only [hfed]

namespace PacketFramer

variable {decode : Bytes → Except ε P}

/-- **Clean streams.**  Any cut of a clean stream gives all its packets. -/
theorem feedChunks_clean : ∀ {chunks : List Bytes} {framer : PacketFramer},
    framer.reader.look framer.buffer = .incomplete →
    framer.Clean decode (framer.buffer ++ chunks.flatten) →
      feedChunks decode framer chunks =
        decodedPackets decode (framer.reader.frames (framer.buffer ++ chunks.flatten)) := by
  intro chunks
  induction chunks with
  | nil =>
    intro framer hwaiting _
    rw [List.flatten_nil, List.append_nil, frames_stop (ne_packet_of_incomplete hwaiting)]
    rfl
  | cons chunk chunks ih =>
    intro framer hwaiting hclean
    rw [List.flatten_cons, ← List.append_assoc] at hclean ⊢
    have hframes := frames_append framer.reader chunks.flatten (framer.buffer ++ chunk)
    have hremainder :=
      remainder_append framer.reader chunks.flatten (framer.buffer ++ chunk)
    have hnow : framer.Clean decode (framer.buffer ++ chunk) := by
      constructor
      · intro frame hframe
        apply hclean.decodes
        rw [hframes]
        exact List.mem_append_left _ hframe
      · intro error hrefused
        exact hclean.framed error (refused_append hrefused chunks.flatten).2
    have hlater : (framer.withBuffer (framer.reader.remainder (framer.buffer ++ chunk))).Clean
        decode (framer.reader.remainder (framer.buffer ++ chunk) ++ chunks.flatten) := by
      constructor
      · intro frame hframe
        apply hclean.decodes
        rw [hframes]
        exact List.mem_append_right _ hframe
      · intro error hrefused
        apply hclean.framed error
        rw [hremainder]
        exact hrefused
    have hrest : framer.reader.look (framer.reader.remainder (framer.buffer ++ chunk)) =
        .incomplete := by
      cases hlook : framer.reader.look (framer.reader.remainder (framer.buffer ++ chunk)) with
      | incomplete => rfl
      | refused error => exact absurd hlook (hnow.framed error)
      | packet size => exact absurd hlook (look_remainder _ size)
    rw [feedChunks_cons_ok (feed_clean hnow), ih hrest hlater, hframes, decodedPackets_append]
    rfl

/-- **Barren streams.**  No cut of a stream without a decodable packet gives one. -/
theorem feedChunks_barren : ∀ {chunks : List Bytes} {framer : PacketFramer},
    framer.Barren decode (framer.buffer ++ chunks.flatten) →
      feedChunks decode framer chunks = [] := by
  intro chunks
  induction chunks with
  | nil =>
    intro framer _
    rfl
  | cons chunk chunks ih =>
    intro framer hbarren
    rw [List.flatten_cons, ← List.append_assoc] at hbarren
    have hfeed := drain_step decode (framer.buffer.length + chunk.length)
      (framer.withBuffer (framer.buffer ++ chunk)) []
    simp only [withBuffer_buffer, reader_withBuffer, withBuffer_withBuffer] at hfeed
    cases hlook : framer.reader.look (framer.buffer ++ chunk) with
    | incomplete =>
      simp only [hlook] at hfeed
      rw [feedChunks_cons_ok hfeed, List.nil_append]
      exact ih hbarren
    | refused error =>
      simp only [hlook] at hfeed
      rw [feedChunks_cons_error hfeed, if_pos error.losesFraming]
    | packet size =>
      have hframes := frames_packet (packet_more hlook chunks.flatten)
      rw [take_append_of_packet hlook, drop_append_of_packet hlook] at hframes
      have hfirst := hbarren ((framer.buffer ++ chunk).take size)
        (by rw [hframes]; exact List.mem_cons_self)
      obtain ⟨error, herror⟩ := exists_of_not_isOk hfirst
      simp only [hlook, herror] at hfeed
      rw [feedChunks_cons_error hfeed, if_neg (by intro hloses; exact nomatch hloses)]
      apply ih
      intro frame hframe
      apply hbarren
      rw [hframes]
      exact List.mem_cons_of_mem _ hframe

/-- **Octet by octet** every decodable packet is returned, whatever surrounds it. -/
theorem feedChunks_octets (decode : Bytes → Except ε P) :
    ∀ (octets : Bytes) (framer : PacketFramer),
    framer.reader.look framer.buffer = .incomplete →
      feedChunks decode framer (octets.map fun octet => [octet]) =
        decodedPackets decode (framer.reader.frames (framer.buffer ++ octets)) := by
  intro octets
  induction octets with
  | nil =>
    intro framer hwaiting
    rw [List.append_nil, frames_stop (ne_packet_of_incomplete hwaiting)]
    rfl
  | cons octet octets ih =>
    intro framer hwaiting
    have hstream : framer.buffer ++ octet :: octets = framer.buffer ++ [octet] ++ octets := by
      rw [List.append_assoc, List.singleton_append]
    have hfeed := drain_step decode (framer.buffer.length + 1)
      (framer.withBuffer (framer.buffer ++ [octet])) []
    simp only [withBuffer_buffer, reader_withBuffer, withBuffer_withBuffer] at hfeed
    rw [List.map_cons, hstream]
    cases hlook : framer.reader.look (framer.buffer ++ [octet]) with
    | incomplete =>
      simp only [hlook] at hfeed
      rw [feedChunks_cons_ok hfeed, List.nil_append]
      exact ih (framer.withBuffer (framer.buffer ++ [octet])) hlook
    | refused error =>
      simp only [hlook] at hfeed
      rw [feedChunks_cons_error hfeed, if_pos error.losesFraming,
        frames_stop (ne_packet_of_refused (framer.reader.refused_more octets hlook))]
      rfl
    | packet size =>
      have hall := size_of_last hwaiting hlook
      have htake : (framer.buffer ++ [octet]).take size = framer.buffer ++ [octet] := by
        rw [hall, List.take_length]
      have hdrop : (framer.buffer ++ [octet]).drop size = [] := by
        rw [hall, List.drop_length]
      have hlater := ih (framer.withBuffer []) framer.reader.nil
      rw [frames_packet (packet_more hlook octets), take_append_of_packet hlook,
        drop_append_of_packet hlook, htake, hdrop]
      simp only [hlook, htake, hdrop] at hfeed
      cases hdecode : decode (framer.buffer ++ [octet]) with
      | error error =>
        simp only [hdecode] at hfeed
        rw [feedChunks_cons_error hfeed, if_neg (by intro hloses; exact nomatch hloses), hlater,
          decodedPackets_cons_error hdecode]
        rfl
      | ok packet =>
        have hempty := drain_step decode (framer.buffer.length) (framer.withBuffer [])
          ([] ++ [packet])
        simp only [withBuffer_buffer, reader_withBuffer, framer.reader.nil] at hempty
        simp only [hdecode] at hfeed
        rw [hempty] at hfeed
        rw [feedChunks_cons_ok hfeed, hlater, decodedPackets_cons_ok hdecode]
        rfl

theorem feedChunks_unclean {framer : PacketFramer} {stream : Bytes}
    (hunclean : ¬ framer.Clean decode (framer.buffer ++ stream)) :
    feedChunks decode framer [stream] = [] := by
  obtain ⟨error, herror⟩ := feed_unclean hunclean
  rw [feedChunks]
  simp only [herror, feedChunks, ite_self]

end PacketFramer

/-! ## 4. The blocking transport -/

/-- A transport over a byte stream: what its reads will return, the framer and the
packets completed but not yet delivered. -/
structure H4Transport (P : Type) where
  reads : List (Except String Bytes)
  framer : PacketFramer
  pending : List P

namespace H4Transport

def endOfStream (reads : List (Except String Bytes)) (framer : PacketFramer) :
    Outcome (H4Transport P) (TransportError ε) (Option P) :=
  if framer.buffer.isEmpty then .ok ⟨reads, framer, []⟩ none
  else .fail ⟨reads, framer, []⟩ (.truncatedPacket framer.buffer.length)

/-- The loop of `read_packet`, one read of the stream a turn. -/
def readLoop (decode : Bytes → Except ε P) (framer : PacketFramer) :
    List (Except String Bytes) → Outcome (H4Transport P) (TransportError ε) (Option P)
  | [] => endOfStream [] framer
  | .error message :: reads => .fail ⟨reads, framer, []⟩ (.io message)
  | .ok bytes :: reads =>
    if bytes.length = 0 then endOfStream reads framer
    else
      let fed := framer.feed decode bytes
      match fed.result with
      | .error error => .fail ⟨reads, fed.state, []⟩ error
      | .ok [] => readLoop decode fed.state reads
      | .ok (packet :: packets) => .ok ⟨reads, fed.state, packets⟩ (some packet)

def readPacket (decode : Bytes → Except ε P) (transport : H4Transport P) :
    Outcome (H4Transport P) (TransportError ε) (Option P) :=
  match transport.pending with
  | packet :: pending => .ok { transport with pending } (some packet)
  | [] => readLoop decode transport.framer transport.reads

def readsOn : TransportError ε → Bool
  | .truncatedPacket _ => false
  | error => !error.losesFraming

/-- The packets of the first calls, up to the end of the stream or of its framing. -/
def readPackets (decode : Bytes → Except ε P) : Nat → H4Transport P → List P
  | 0, _ => []
  | calls + 1, transport =>
    let read := transport.readPacket decode
    match read.result with
    | .ok (some packet) => packet :: readPackets decode calls read.state
    | .ok none => []
    | .error error => if readsOn error then readPackets decode calls read.state else []

def octetReads (reads : List (Except String Bytes)) : List Bytes :=
  reads.filterMap Except.toOption

variable {decode : Bytes → Except ε P}

theorem readPackets_pending (calls : Nat) : ∀ (pending : List P) (transport : H4Transport P),
    readPackets decode (calls + pending.length) { transport with pending } =
      pending ++ readPackets decode calls { transport with pending := [] } := by
  intro pending
  induction pending with
  | nil =>
    intro transport
    rfl
  | cons packet pending ih =>
    intro transport
    rw [List.length_cons, ← Nat.add_assoc, readPackets]
    simp only [readPacket, Outcome.ok_result, Outcome.ok_state, List.cons_append]
    rw [ih transport]

theorem readsOn_of_feed {framer : PacketFramer} {data : Bytes} {error : TransportError ε}
    (hfed : (framer.feed decode data).result = .error error) :
    readsOn error = !error.losesFraming := by
  have hdrain : ∀ (fuel : Nat) {framer : PacketFramer} {packets : List P},
      (PacketFramer.drain decode fuel framer packets).result = .error error →
        readsOn error = !error.losesFraming := by
    intro fuel
    induction fuel with
    | zero =>
      intro framer packets hresult
      exact nomatch hresult
    | succ fuel ih =>
      intro framer packets hresult
      rw [PacketFramer.drain_step] at hresult
      cases hlook : framer.reader.look framer.buffer with
      | incomplete =>
        simp only [hlook] at hresult
        exact nomatch hresult
      | refused refusal =>
        simp only [hlook, Outcome.fail_result] at hresult
        injection hresult with hsame
        rw [← hsame]
        cases refusal with
        | invalidPacketType packetType => rfl
        | packetTooLarge size => rfl
      | packet size =>
        simp only [hlook] at hresult
        cases hdecode : decode (framer.buffer.take size) with
        | error rejection =>
          simp only [hdecode, Outcome.fail_result] at hresult
          injection hresult with hsame
          rw [← hsame]
          rfl
        | ok packet =>
          simp only [hdecode] at hresult
          exact ih hresult
  apply hdrain
  exact hfed

/-- **The transport delivers what the framer returns.**  Enough calls of `read_packet`
give the pending packets and then those of the reads fed one by one. -/
theorem readPackets_eq_feedChunks (decode : Bytes → Except ε P) :
    ∀ {reads : List (Except String Bytes)},
    (∀ bytes ∈ octetReads reads, bytes ≠ []) → ∀ (framer : PacketFramer) (pending : List P),
      ∃ calls, readPackets decode calls ⟨reads, framer, pending⟩ =
        pending ++ feedChunks decode framer (octetReads reads) := by
  intro reads
  induction reads with
  | nil =>
    intro _ framer pending
    exact ⟨0 + pending.length, readPackets_pending 0 pending ⟨[], framer, []⟩⟩
  | cons read reads ih =>
    intro hnonempty framer pending
    -- it is enough to follow the reads, since pending packets come first
    suffices hread : ∃ calls, readPackets decode calls ⟨read :: reads, framer, []⟩ =
        feedChunks decode framer (octetReads (read :: reads)) by
      obtain ⟨calls, hcalls⟩ := hread
      refine ⟨calls + pending.length, ?_⟩
      rw [← hcalls]
      exact readPackets_pending calls pending ⟨read :: reads, framer, []⟩
    cases read with
    | error message =>
      obtain ⟨calls, hcalls⟩ := ih hnonempty framer []
      refine ⟨calls + 1, ?_⟩
      rw [readPackets]
      exact hcalls
    | ok bytes =>
      have hlater : ∀ bytes ∈ octetReads reads, bytes ≠ [] := fun other hother =>
        hnonempty other (List.mem_cons_of_mem _ hother)
      have hlength : bytes.length ≠ 0 := by
        intro hzero
        exact hnonempty bytes List.mem_cons_self (List.eq_nil_of_length_eq_zero hzero)
      have hchunks : octetReads (Except.ok bytes :: reads) = bytes :: octetReads reads := rfl
      rw [hchunks]
      have hloop : readPacket decode ⟨Except.ok bytes :: reads, framer, []⟩ =
          readLoop decode framer (Except.ok bytes :: reads) := rfl
      rw [readLoop, if_neg hlength] at hloop
      cases hfed : framer.feed decode bytes with
      | mk later result =>
        simp only [hfed] at hloop
        cases result with
        | error error =>
          have hon := readsOn_of_feed (congrArg Outcome.result hfed)
          rw [feedChunks_cons_error hfed]
          obtain ⟨calls, hcalls⟩ := ih hlater later []
          refine ⟨calls + 1, ?_⟩
          rw [readPackets]
          simp only [hloop, Outcome.fail_result, Outcome.fail_state, hon, hcalls]
          cases error.losesFraming with
          | true => rfl
          | false => rfl
        | ok packets =>
          rw [feedChunks_cons_ok hfed]
          cases packets with
          | nil =>
            obtain ⟨calls, hcalls⟩ := ih hlater later []
            refine ⟨calls, ?_⟩
            rw [← hcalls]
            cases calls with
            | zero => rfl
            | succ calls =>
              rw [readPackets, readPackets, hloop]
              rfl
          | cons packet packets =>
            obtain ⟨calls, hcalls⟩ := ih hlater later packets
            refine ⟨calls + 1, ?_⟩
            rw [readPackets]
            simp only [hloop, Outcome.ok_result, Outcome.ok_state, hcalls, List.cons_append]

end H4Transport

/-! ## 5. Which streams are safe -/

/-- What an owner of a framer does to its layouts before the stream starts. -/
inductive LayoutCall where
  | register (packetType : UInt8) (layout : PacketLayout)
  | unregister (packetType : UInt8)
  deriving DecidableEq, Repr

def LayoutCall.apply (framer : PacketFramer) : LayoutCall → PacketFramer
  | .register packetType layout =>
    (framer.registerLayout packetType layout : Outcome _ (TransportError Unit) Unit).state
  | .unregister packetType => (framer.unregisterLayout packetType).1

def PacketFramer.configured (calls : List LayoutCall) : PacketFramer :=
  calls.foldl LayoutCall.apply .new

theorem LayoutCall.apply_buffer (framer : PacketFramer) (call : LayoutCall) :
    (call.apply framer).buffer = framer.buffer := by
  cases call with
  | register packetType layout =>
    rw [apply, PacketFramer.registerLayout]
    split_ifs
    · rfl
    · rfl
    · rfl
  | unregister packetType => rfl

theorem PacketFramer.configured_buffer (calls : List LayoutCall) :
    (configured calls).buffer = [] := by
  have hkeeps : ∀ {framer : PacketFramer}, framer.buffer = [] →
      (calls.foldl LayoutCall.apply framer).buffer = [] := by
    induction calls with
    | nil =>
      intro framer hempty
      exact hempty
    | cons call calls ih =>
      intro framer hempty
      exact ih ((call.apply_buffer framer).trans hempty)
  exact hkeeps rfl

/-- Framing that neither depends on the chunks nor loses a packet: every cut of the
stream gives the same packets, these are the decodable ones, and a transport whose
reads carry the stream delivers them. -/
structure LosesNoPacket (decode : Bytes → Except ε P) (framer : PacketFramer) (stream : Bytes) :
    Prop where
  same : ∀ first second : List Bytes, first.flatten = stream → second.flatten = stream →
    feedChunks decode framer first = feedChunks decode framer second
  returned : ∀ chunks : List Bytes, chunks.flatten = stream →
    feedChunks decode framer chunks = decodedPackets decode (framer.reader.frames stream)
  delivered : ∀ reads : List (Except String Bytes),
    (∀ bytes ∈ H4Transport.octetReads reads, bytes ≠ [] ∧ bytes.length ≤ 4096) →
    (H4Transport.octetReads reads).flatten = stream →
      ∃ calls, H4Transport.readPackets decode calls ⟨reads, framer, []⟩ =
        decodedPackets decode (framer.reader.frames stream)

/-- **Where chunks do not matter.**  The framing loses no packet exactly on the streams
whose packets all decode with the framing intact, and on those none of whose packets
decodes. -/
theorem losesNoPacket_iff (decode : Bytes → Except ε P) (calls : List LayoutCall)
    (stream : Bytes) :
    LosesNoPacket decode (.configured calls) stream ↔
      (PacketFramer.configured calls).Clean decode stream ∨
        (PacketFramer.configured calls).Barren decode stream := by
  generalize hframer : PacketFramer.configured calls = framer
  have hempty : framer.buffer = [] := by
    rw [← hframer]
    exact PacketFramer.configured_buffer calls
  have hwaiting : framer.reader.look framer.buffer = .incomplete := by
    rw [hempty]
    exact framer.reader.nil
  constructor
  · intro hloses
    by_cases hclean : framer.Clean decode stream
    · exact Or.inl hclean
    · right
      have hwhole : feedChunks decode framer [stream] = [] := by
        apply PacketFramer.feedChunks_unclean
        rw [hempty]
        exact hclean
      have hoctets := PacketFramer.feedChunks_octets decode stream framer hwaiting
      rw [hempty, List.nil_append] at hoctets
      have hsame := hloses.same [stream] (stream.map fun octet => [octet])
        (by rw [List.flatten_cons, List.flatten_nil, List.append_nil])
        (by rw [← List.flatMap_def]; exact List.flatMap_singleton' stream)
      rw [hwhole, hoctets] at hsame
      exact (decodedPackets_eq_nil_iff decode _).mp hsame.symm
  · intro hcondition
    have hreturned : ∀ chunks : List Bytes, chunks.flatten = stream →
        feedChunks decode framer chunks = decodedPackets decode (framer.reader.frames stream) := by
      intro chunks hchunks
      rcases hcondition with hclean | hbarren
      · have hstream : framer.buffer ++ chunks.flatten = stream := by
          rw [hempty, List.nil_append, hchunks]
        rw [← hstream] at hclean ⊢
        exact PacketFramer.feedChunks_clean hwaiting hclean
      · rw [(decodedPackets_eq_nil_iff decode _).mpr hbarren]
        apply PacketFramer.feedChunks_barren
        rw [hempty, List.nil_append, hchunks]
        exact hbarren
    constructor
    · intro first second hfirst hsecond
      rw [hreturned first hfirst, hreturned second hsecond]
    · exact hreturned
    · intro reads hreads hstream
      obtain ⟨calls, hcalls⟩ := H4Transport.readPackets_eq_feedChunks decode
        (fun bytes hbytes => (hreads bytes hbytes).1) framer []
      refine ⟨calls, ?_⟩
      rw [hcalls, List.nil_append, hreturned _ hstream]

/-- A vendor packet with one octet of body, then an octet that names no packet type. -/
def vendorThenInvalid : Bytes := [0x20, 0x01, 0xAA, 0x99]

/-- The decoder on vendor packets, which it hands on unread. -/
def vendorDecode (packet : Bytes) : Except String Bytes :=
  match packet with
  | [] => .error "empty packet"
  | _ => .ok packet

/-- In one piece the vendor packet is lost, octet by octet it is returned. -/
theorem vendorThenInvalid_loses :
    ¬ LosesNoPacket vendorDecode (.configured [.register 0x20 ⟨1, 0⟩]) vendorThenInvalid := by
  intro hloses
  have hsame := hloses.same [vendorThenInvalid] [[0x20, 0x01, 0xAA], [0x99]] rfl rfl
  revert hsame
  decide

end Bumble.Transport
