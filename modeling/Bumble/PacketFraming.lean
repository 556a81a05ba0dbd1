import Bumble.ByteOrder
import Bumble.FramedStream
import Bumble.Outcome

/-!
# H4 packet framing

The framer of the transports cuts a byte stream into packets: the leading octet
names a layout, standard or registered, the layout locates the length field, and
the packet decoder gets every complete packet.  The decoder of the host
controller interface is a parameter; the framer, the blocking transport over it
and the way callers go on after an error are translated here.
-/

namespace Bumble.Transport

/-! ## 1. Layouts -/

inductive TransportError (ε : Type) where
  | io (message : String)
  | hci (error : ε)
  | invalidPacketType (packetType : UInt8)
  | invalidLayout
  | packetTooLarge (size : Nat)
  | truncatedPacket (size : Nat)
  deriving DecidableEq, Repr

/-- The location and the width of the length field, behind the packet type. -/
structure PacketLayout where
  lengthSize : UInt8
  lengthOffset : UInt8
  deriving DecidableEq, Repr

namespace PacketLayout

variable {ε : Type}

def headerSize (layout : PacketLayout) : Except (TransportError ε) Nat :=
  if layout.lengthSize = 1 ∨ layout.lengthSize = 2 then
    .ok (1 + layout.lengthOffset.toNat + layout.lengthSize.toNat)
  else .error .invalidLayout

/-- The length field of a packet whose header is there. -/
def bodyLength (layout : PacketLayout) (packetPrefix : Bytes) : Except (TransportError ε) Nat :=
  let offset := 1 + layout.lengthOffset.toNat
  if layout.lengthSize = 1 then .ok (packetPrefix.getD offset 0).toNat
  else if layout.lengthSize = 2 then
    .ok (u16FromLe (packetPrefix.getD offset 0) (packetPrefix.getD (offset + 1) 0)).toNat
  else .error .invalidLayout

end PacketLayout

def hciCommandPacket : UInt8 := 1
def hciAclDataPacket : UInt8 := 2
def hciSynchronousDataPacket : UInt8 := 3
def hciEventPacket : UInt8 := 4
def hciIsoDataPacket : UInt8 := 5

def maxHciPacketSize : Nat := 1 + 4 + 65535

def standardLayout (packetType : UInt8) : Option PacketLayout :=
  if packetType = hciCommandPacket then some ⟨1, 2⟩
  else if packetType = hciAclDataPacket then some ⟨2, 2⟩
  else if packetType = hciSynchronousDataPacket then some ⟨1, 2⟩
  else if packetType = hciEventPacket then some ⟨1, 1⟩
  else if packetType = hciIsoDataPacket then some ⟨2, 2⟩
  else none

theorem standardLayout_valid {packetType : UInt8} {layout : PacketLayout}
    (hstandard : standardLayout packetType = some layout) :
    layout.lengthSize = 1 ∨ layout.lengthSize = 2 := by
  unfold standardLayout at hstandard
  split_ifs at hstandard
  all_goals
    rw [← Option.some.inj hstandard]
    decide

/-! ## 2. The framer -/

/-- What is buffered and the layouts registered for vendor packets.  Registration
accepts only layouts with a known header, so every stored one has it. -/
structure PacketFramer where
  buffer : Bytes
  extendedLayouts : Std.ExtTreeMap UInt8 PacketLayout
  valid : ∀ {packetType : UInt8} {layout : PacketLayout},
    extendedLayouts[packetType]? = some layout → layout.lengthSize = 1 ∨ layout.lengthSize = 2

namespace PacketFramer

variable {ε P : Type}

def new : PacketFramer :=
  ⟨[], ∅, by
    intro packetType layout hlayout
    rw [Std.ExtTreeMap.getElem?_empty] at hlayout
    exact nomatch hlayout⟩

def registerLayout (framer : PacketFramer) (packetType : UInt8) (layout : PacketLayout) :
    Outcome PacketFramer (TransportError ε) Unit :=
  if hsize : layout.lengthSize = 1 ∨ layout.lengthSize = 2 then
    if (standardLayout packetType).isSome then .fail framer .invalidLayout
    else
      .ok ⟨framer.buffer, framer.extendedLayouts.insert packetType layout, by
        intro otherType other hother
        rw [Std.ExtTreeMap.getElem?_insert] at hother
        split_ifs at hother
        · rw [← Option.some.inj hother]
          exact hsize
        · exact framer.valid hother⟩ ()
  else .fail framer .invalidLayout

def unregisterLayout (framer : PacketFramer) (packetType : UInt8) :
    PacketFramer × Option PacketLayout :=
  (⟨framer.buffer, framer.extendedLayouts.erase packetType, by
      intro otherType other hother
      rw [Std.ExtTreeMap.getElem?_erase] at hother
      split_ifs at hother
      exact framer.valid hother⟩,
    framer.extendedLayouts[packetType]?)

def withBuffer (framer : PacketFramer) (buffer : Bytes) : PacketFramer :=
  { framer with buffer }

@[simp] theorem withBuffer_buffer (framer : PacketFramer) (buffer : Bytes) :
    (framer.withBuffer buffer).buffer = buffer := rfl

@[simp] theorem withBuffer_withBuffer (framer : PacketFramer) (buffer later : Bytes) :
    (framer.withBuffer buffer).withBuffer later = framer.withBuffer later := rfl

@[simp] theorem withBuffer_extendedLayouts (framer : PacketFramer) (buffer : Bytes) :
    (framer.withBuffer buffer).extendedLayouts = framer.extendedLayouts := rfl

def layoutOf (framer : PacketFramer) (packetType : UInt8) : Option PacketLayout :=
  (standardLayout packetType).or framer.extendedLayouts[packetType]?

/-- The loop of `feed`: one packet a turn, each taken from the buffer before it is
decoded.  An error leaves with the packets of the earlier turns. -/
def drain (decode : Bytes → Except ε P) : Nat → PacketFramer → List P →
    Outcome PacketFramer (TransportError ε) (List P)
  | 0, framer, packets => .ok framer packets
  | fuel + 1, framer, packets =>
    match framer.buffer.head? with
    | none => .ok framer packets
    | some packetType =>
      match framer.layoutOf packetType with
      | none => .fail (framer.withBuffer []) (.invalidPacketType packetType)
      | some layout =>
        match layout.headerSize with
        | .error error => .fail framer error
        | .ok headerSize =>
          if framer.buffer.length < headerSize then .ok framer packets
          else
            match layout.bodyLength framer.buffer with
            | .error error => .fail framer error
            | .ok bodyLength =>
              let packetSize := headerSize + bodyLength
              if packetSize > maxHciPacketSize then
                .fail (framer.withBuffer []) (.packetTooLarge packetSize)
              else if framer.buffer.length < packetSize then .ok framer packets
              else
                let drained := framer.withBuffer (framer.buffer.drop packetSize)
                match decode (framer.buffer.take packetSize) with
                | .error error => .fail drained (.hci error)
                | .ok packet => drain decode fuel drained (packets ++ [packet])

/-- Feed any number of octets and return all newly completed packets. -/
def feed (decode : Bytes → Except ε P) (framer : PacketFramer) (data : Bytes) :
    Outcome PacketFramer (TransportError ε) (List P) :=
  drain decode (framer.buffer.length + data.length + 1)
    (framer.withBuffer (framer.buffer ++ data)) []

end PacketFramer

/-- The errors after which a caller stops: the framing itself is lost. -/
def TransportError.losesFraming {ε : Type} : TransportError ε → Bool
  | .invalidPacketType _ => true
  | .packetTooLarge _ => true
  | _ => false

/-- Feed chunk after chunk, past the errors that leave the framing intact. -/
def feedChunks {ε P : Type} (decode : Bytes → Except ε P) : PacketFramer → List Bytes → List P
  | _, [] => []
  | framer, chunk :: chunks =>
    let fed := framer.feed decode chunk
    match fed.result with
    | .ok packets => packets ++ feedChunks decode fed.state chunks
    | .error error =>
      if error.losesFraming then [] else feedChunks decode fed.state chunks

/-! ## 3. What the framer sees -/

inductive FramingError where
  | invalidPacketType (packetType : UInt8)
  | packetTooLarge (size : Nat)
  deriving DecidableEq, Repr

def FramingError.toTransport {ε : Type} : FramingError → TransportError ε
  | .invalidPacketType packetType => .invalidPacketType packetType
  | .packetTooLarge size => .packetTooLarge size

theorem FramingError.losesFraming {ε : Type} (error : FramingError) :
    (error.toTransport : TransportError ε).losesFraming = true := by
  cases error with
  | invalidPacketType packetType => rfl
  | packetTooLarge size => rfl

namespace PacketLayout

/-- The size of a packet whose length field is one or two octets wide. -/
def packetSize (layout : PacketLayout) (packetPrefix : Bytes) : Nat :=
  let offset := 1 + layout.lengthOffset.toNat
  offset + layout.lengthSize.toNat +
    if layout.lengthSize = 1 then (packetPrefix.getD offset 0).toNat
    else (u16FromLe (packetPrefix.getD offset 0) (packetPrefix.getD (offset + 1) 0)).toNat

def header (layout : PacketLayout) : Nat := 1 + layout.lengthOffset.toNat + layout.lengthSize.toNat

theorem header_le_packetSize (layout : PacketLayout) (packetPrefix : Bytes) :
    layout.header ≤ layout.packetSize packetPrefix := Nat.le_add_right _ _

theorem headerSize_valid {ε : Type} {layout : PacketLayout}
    (hvalid : layout.lengthSize = 1 ∨ layout.lengthSize = 2) :
    (layout.headerSize : Except (TransportError ε) Nat) = .ok layout.header := by
  rw [headerSize, if_pos hvalid, header]

theorem bodyLength_valid {ε : Type} {layout : PacketLayout}
    (hvalid : layout.lengthSize = 1 ∨ layout.lengthSize = 2) (packetPrefix : Bytes) :
    ∃ length, (layout.bodyLength packetPrefix : Except (TransportError ε) Nat) = .ok length ∧
      layout.header + length = layout.packetSize packetPrefix := by
  rcases hvalid with hone | htwo
  · refine ⟨(packetPrefix.getD (1 + layout.lengthOffset.toNat) 0).toNat, ?_, ?_⟩
    · rw [bodyLength, if_pos hone]
    · rw [packetSize, if_pos hone, header]
  · have hone : layout.lengthSize ≠ 1 := by
      rw [htwo]
      decide
    let offset := 1 + layout.lengthOffset.toNat
    refine ⟨(u16FromLe (packetPrefix.getD offset 0) (packetPrefix.getD (offset + 1) 0)).toNat,
      ?_, ?_⟩
    · rw [bodyLength, if_neg hone, if_pos htwo]
    · rw [packetSize, if_neg hone, header]

theorem packetSize_append {layout : PacketLayout}
    (hvalid : layout.lengthSize = 1 ∨ layout.lengthSize = 2) {seen : Bytes}
    (hheader : layout.header ≤ seen.length) (more : Bytes) :
    layout.packetSize (seen ++ more) = layout.packetSize seen := by
  have hinside : ∀ index : Nat, index < seen.length →
      (seen ++ more).getD index 0 = seen.getD index 0 := by
    intro index hindex
    rw [List.getD_append _ _ _ _ hindex]
  rcases hvalid with hone | htwo
  · have hfield : 1 + layout.lengthOffset.toNat < seen.length := by
      rw [header, hone] at hheader
      exact hheader
    simp only [packetSize, if_pos hone, hinside _ hfield]
  · have hsize : layout.lengthSize.toNat = 2 := by rw [htwo]; rfl
    rw [header, hsize] at hheader
    simp only [packetSize, hinside (1 + layout.lengthOffset.toNat) (by omega),
      hinside (1 + layout.lengthOffset.toNat + 1) (by omega)]

end PacketLayout

namespace PacketFramer

variable {ε P : Type}

/-- What one turn of the loop decides from the buffer. -/
def lookAhead (framer : PacketFramer) (seen : Bytes) : Look FramingError :=
  match seen.head? with
  | none => .incomplete
  | some packetType =>
    match framer.layoutOf packetType with
    | none => .refused (.invalidPacketType packetType)
    | some layout =>
      if seen.length < layout.header then .incomplete
      else if layout.packetSize seen > maxHciPacketSize then
        .refused (.packetTooLarge (layout.packetSize seen))
      else if seen.length < layout.packetSize seen then .incomplete
      else .packet (layout.packetSize seen)

theorem layoutOf_valid (framer : PacketFramer) {packetType : UInt8} {layout : PacketLayout}
    (hlayout : framer.layoutOf packetType = some layout) :
    layout.lengthSize = 1 ∨ layout.lengthSize = 2 := by
  rw [layoutOf, Option.or_eq_some_iff] at hlayout
  rcases hlayout with hstandard | ⟨_, hextended⟩
  · exact standardLayout_valid hstandard
  · exact framer.valid hextended

theorem lookAhead_of_layout {framer : PacketFramer} {packetType : UInt8} {later : Bytes}
    {layout : PacketLayout} (hlayout : framer.layoutOf packetType = some layout) :
    framer.lookAhead (packetType :: later) =
      if (packetType :: later).length < layout.header then .incomplete
      else if layout.packetSize (packetType :: later) > maxHciPacketSize then
        .refused (.packetTooLarge (layout.packetSize (packetType :: later)))
      else if (packetType :: later).length < layout.packetSize (packetType :: later) then
        .incomplete
      else .packet (layout.packetSize (packetType :: later)) := by
  rw [lookAhead]
  simp only [List.head?_cons, hlayout]

theorem lookAhead_of_none {framer : PacketFramer} {packetType : UInt8} {later : Bytes}
    (hlayout : framer.layoutOf packetType = none) :
    framer.lookAhead (packetType :: later) = .refused (.invalidPacketType packetType) := by
  rw [lookAhead]
  simp only [List.head?_cons, hlayout]

theorem lookAhead_packet {framer : PacketFramer} {seen : Bytes} {size : Nat}
    (hlook : framer.lookAhead seen = .packet size) :
    ∃ packetType later layout, seen = packetType :: later ∧
      framer.layoutOf packetType = some layout ∧ layout.header ≤ seen.length ∧
      layout.packetSize seen = size ∧ size ≤ maxHciPacketSize ∧ size ≤ seen.length := by
  cases seen with
  | nil => exact nomatch hlook
  | cons packetType later =>
    cases hlayout : framer.layoutOf packetType with
    | none =>
      rw [lookAhead_of_none hlayout] at hlook
      exact nomatch hlook
    | some layout =>
      rw [lookAhead_of_layout hlayout] at hlook
      split_ifs at hlook with hheader hlarge hshort
      injection hlook with hsize
      rw [hsize] at hlarge hshort
      exact ⟨packetType, later, layout, rfl, hlayout, not_lt.mp hheader, hsize,
        not_lt.mp hlarge, not_lt.mp hshort⟩

theorem lookAhead_refused {framer : PacketFramer} {seen : Bytes} {error : FramingError}
    (hlook : framer.lookAhead seen = .refused error) :
    ∃ packetType later, seen = packetType :: later ∧
      ((framer.layoutOf packetType = none ∧ error = .invalidPacketType packetType) ∨
        ∃ layout, framer.layoutOf packetType = some layout ∧ layout.header ≤ seen.length ∧
          layout.packetSize seen > maxHciPacketSize ∧
          error = .packetTooLarge (layout.packetSize seen)) := by
  cases seen with
  | nil => exact nomatch hlook
  | cons packetType later =>
    refine ⟨packetType, later, rfl, ?_⟩
    cases hlayout : framer.layoutOf packetType with
    | none =>
      rw [lookAhead_of_none hlayout] at hlook
      injection hlook with herror
      exact Or.inl ⟨rfl, herror.symm⟩
    | some layout =>
      rw [lookAhead_of_layout hlayout] at hlook
      split_ifs at hlook with hheader hlarge hshort
      injection hlook with herror
      exact Or.inr ⟨layout, rfl, not_lt.mp hheader, hlarge, herror.symm⟩

theorem lookAhead_refused_more (framer : PacketFramer) {seen : Bytes} {error : FramingError}
    (more : Bytes) (hlook : framer.lookAhead seen = .refused error) :
    framer.lookAhead (seen ++ more) = .refused error := by
  obtain ⟨packetType, later, rfl, hcause⟩ := lookAhead_refused hlook
  rcases hcause with ⟨hlayout, rfl⟩ | ⟨layout, hlayout, hheader, hlarge, rfl⟩
  · rw [List.cons_append, lookAhead_of_none hlayout]
  · have hsame := PacketLayout.packetSize_append (framer.layoutOf_valid hlayout) hheader more
    rw [← hsame] at hlarge ⊢
    rw [List.cons_append] at hlarge ⊢
    rw [lookAhead_of_layout hlayout, if_neg, if_pos hlarge]
    rw [← List.cons_append, List.length_append]
    omega

/-- Later bytes do not change a packet that is already complete. -/
theorem lookAhead_packet_iff (framer : PacketFramer) {seen : Bytes} {size : Nat} (more : Bytes)
    (hsize : size ≤ seen.length) :
    framer.lookAhead (seen ++ more) = .packet size ↔ framer.lookAhead seen = .packet size := by
  cases seen with
  | nil =>
    -- no packet is empty, so neither side holds of the empty buffer
    constructor
    · intro hlook
      obtain ⟨packetType, later, layout, hseen, hlayout, hheader, hlength, -, -⟩ :=
        lookAhead_packet hlook
      have hatLeast := layout.header_le_packetSize ([] ++ more)
      rw [hlength, PacketLayout.header] at hatLeast
      rw [List.length_nil] at hsize
      omega
    · intro hlook
      exact nomatch hlook
  | cons packetType later =>
    cases hlayout : framer.layoutOf packetType with
    | none => rw [List.cons_append, lookAhead_of_none hlayout, lookAhead_of_none hlayout]
    | some layout =>
      have hvalid := framer.layoutOf_valid hlayout
      constructor
      · intro hlook
        obtain ⟨otherType, other, otherLayout, hseen, hother, hheader, hlength, hlarge, -⟩ :=
          lookAhead_packet hlook
        rw [List.cons_append] at hseen
        rw [← (List.cons.inj hseen).1, hlayout] at hother
        rw [← Option.some.inj hother] at hheader hlength
        have hatLeast := layout.header_le_packetSize (packetType :: later ++ more)
        rw [hlength] at hatLeast
        rw [PacketLayout.packetSize_append hvalid (hatLeast.trans hsize) more] at hlength
        rw [lookAhead_of_layout hlayout, hlength, if_neg (not_lt.mpr (hatLeast.trans hsize)),
          if_neg (not_lt.mpr hlarge), if_neg (not_lt.mpr hsize)]
      · intro hlook
        obtain ⟨otherType, other, otherLayout, hseen, hother, hheader, hlength, hlarge, hwhole⟩ :=
          lookAhead_packet hlook
        rw [← (List.cons.inj hseen).1, hlayout] at hother
        rw [← Option.some.inj hother] at hheader hlength
        have hsame := PacketLayout.packetSize_append hvalid hheader more
        have hlonger : (packetType :: later).length ≤ (packetType :: later ++ more).length := by
          rw [List.length_append]
          omega
        rw [hlength] at hsame
        rw [List.cons_append] at hsame hlonger ⊢
        rw [lookAhead_of_layout hlayout, hsame, if_neg (not_lt.mpr (hheader.trans hlonger)),
          if_neg (not_lt.mpr hlarge), if_neg (not_lt.mpr (hwhole.trans hlonger))]

/-- The framer's look-ahead as a reader of frames. -/
def reader (framer : PacketFramer) : FrameReader UInt8 FramingError where
  look := framer.lookAhead
  nil := rfl
  size := by
    intro seen size hlook
    obtain ⟨packetType, later, layout, -, -, -, hlength, -, hwhole⟩ := lookAhead_packet hlook
    have hatLeast := layout.header_le_packetSize seen
    rw [hlength, PacketLayout.header] at hatLeast
    exact ⟨by omega, hwhole⟩
  refused_more := framer.lookAhead_refused_more
  packet_iff := framer.lookAhead_packet_iff

@[simp] theorem reader_withBuffer (framer : PacketFramer) (buffer : Bytes) :
    (framer.withBuffer buffer).reader = framer.reader := rfl

/-- **One turn of the loop.**  The loop does what the look-ahead at its buffer says. -/
theorem drain_step (decode : Bytes → Except ε P) (fuel : Nat) (framer : PacketFramer)
    (packets : List P) :
    drain decode (fuel + 1) framer packets =
      match framer.reader.look framer.buffer with
      | .incomplete => .ok framer packets
      | .refused error => .fail (framer.withBuffer []) error.toTransport
      | .packet size =>
        match decode (framer.buffer.take size) with
        | .error error => .fail (framer.withBuffer (framer.buffer.drop size)) (.hci error)
        | .ok packet =>
          drain decode fuel (framer.withBuffer (framer.buffer.drop size))
            (packets ++ [packet]) := by
  change _ = match framer.lookAhead framer.buffer with
    | .incomplete => _
    | .refused error => _
    | .packet size => _
  cases hbuffer : framer.buffer with
  | nil => simp only [drain, lookAhead, hbuffer, List.head?_nil]
  | cons packetType later =>
    cases hlayout : framer.layoutOf packetType with
    | none =>
      rw [lookAhead_of_none hlayout]
      simp only [drain, hbuffer, List.head?_cons, hlayout, FramingError.toTransport]
    | some layout =>
      have hvalid := framer.layoutOf_valid hlayout
      obtain ⟨length, hlength, htotal⟩ :=
        PacketLayout.bodyLength_valid (ε := ε) hvalid (packetType :: later)
      rw [lookAhead_of_layout hlayout]
      simp only [drain, hbuffer, List.head?_cons, hlayout, PacketLayout.headerSize_valid hvalid,
        hlength, htotal]
      split_ifs with hheader hlarge hshort
      · rfl
      · rfl
      · rfl
      · rfl

end PacketFramer

end Bumble.Transport
