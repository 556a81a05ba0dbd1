import Bumble.AclFragments
import Bumble.OctetReader

/-!
# HCI data packets on the wire (`bumble-hci/src/packet.rs`)

The three formats pack the connection handle and their flags into 16-bit words; an
isochronous packet has two blocks that its flags make present or absent.  Reading
is characterised once for each format: the octets behind the type octet are those
of the packet's words, as far as the words have no bits that no field keeps.
-/

namespace Bumble.Hci

def hciAclDataPacket : UInt8 := 0x02
def hciSynchronousDataPacket : UInt8 := 0x03
def hciIsoDataPacket : UInt8 := 0x05

/-! ## 1. The reader -/

structure Reader where
  data : Bytes
  pos : Nat

namespace Reader

def new (data : Bytes) (pos : Nat) : Reader := ⟨data, pos⟩

def need (r : Reader) (n : Nat) : Except Error Unit :=
  if r.pos + n > r.data.length then
    .error (.invalidPacket
      s!"unexpected end of data: need {n} at offset {r.pos}, have {r.data.length}")
  else .ok ()

/-- The next `n` octets, and the reader behind them. -/
def take (r : Reader) (n : Nat) : Except Error (Bytes × Reader) := do
  r.need n
  pure ((r.data.drop r.pos).take n, { r with pos := r.pos + n })

/-- The next `n` octets as the value they are read as. -/
def decoded {α : Type} (r : Reader) (n : Nat) (decode : Bytes → α) : Except Error (α × Reader) := do
  let (octets, r) ← r.take n
  pure (decode octets, r)

def u8 (r : Reader) : Except Error (UInt8 × Reader) := r.decoded 1 fun octets => octets.getD 0 0

def u16Le (r : Reader) : Except Error (UInt16 × Reader) :=
  r.decoded 2 fun octets => u16FromLe (octets.getD 0 0) (octets.getD 1 0)

def u32Le (r : Reader) : Except Error (UInt32 × Reader) :=
  r.decoded 4 fun octets => UInt32.ofNat (beToNat octets.reverse)

def rest (r : Reader) : Bytes := r.data.drop r.pos

theorem take_eq_ok_iff {r next : Reader} {n : Nat} {octets : Bytes} (hn : 0 < n) :
    r.take n = .ok (octets, next) ↔
      r.rest = octets ++ next.rest ∧ octets.length = n ∧ next = { r with pos := r.pos + n } := by
  have hlength : r.rest.length = r.data.length - r.pos := List.length_drop
  have hdrop : r.data.drop (r.pos + n) = r.rest.drop n := by
    rw [rest, List.drop_drop]
  constructor
  · intro htake
    obtain ⟨⟨⟩, hneed, htake⟩ := except_bind_eq_ok htake
    have hroom : ¬ r.pos + n > r.data.length := by
      intro hshort
      rw [need, if_pos hshort] at hneed
      cases hneed
    cases htake
    refine ⟨?_, ?_, rfl⟩
    · change r.rest = r.rest.take n ++ r.data.drop (r.pos + n)
      rw [hdrop, List.take_append_drop]
    · change (r.rest.take n).length = n
      rw [List.length_take, hlength]
      omega
  · rintro ⟨hrest, hoctets, rfl⟩
    have hfirst : r.rest.take n = octets := by
      rw [hrest, ← hoctets, List.take_left]
    have hroom : ¬ r.pos + n > r.data.length := by
      have hall := congrArg List.length hfirst
      rw [List.length_take, hlength, hoctets] at hall
      omega
    have hneed : r.need n = .ok () := if_neg hroom
    rw [take, hneed]
    change Except.ok (r.rest.take n, _) = _
    rw [hfirst]

theorem decoded_eq_ok_iff {α : Type} {r next : Reader} {n : Nat} {value : α}
    {decode : Bytes → α} (encode : α → Bytes) (hn : 0 < n)
    (hlength : ∀ value, (encode value).length = n)
    (hdecode : ∀ value, decode (encode value) = value)
    (hencode : ∀ octets : Bytes, octets.length = n → encode (decode octets) = octets) :
    r.decoded n decode = .ok (value, next) ↔
      r.rest = encode value ++ next.rest ∧ next = { r with pos := r.pos + n } := by
  constructor
  · intro hread
    obtain ⟨⟨octets, next'⟩, htake, hread⟩ := except_bind_eq_ok hread
    cases hread
    obtain ⟨hrest, hoctets, hnext⟩ := (take_eq_ok_iff hn).mp htake
    rw [hencode octets hoctets]
    exact ⟨hrest, hnext⟩
  · rintro ⟨hrest, hnext⟩
    have htake := (take_eq_ok_iff hn).mpr ⟨hrest, hlength value, hnext⟩
    rw [decoded, htake]
    change Except.ok (decode (encode value), next) = _
    rw [hdecode]

theorem u8_eq_ok_iff {r next : Reader} {value : UInt8} :
    r.u8 = .ok (value, next) ↔ r.rest = [value] ++ next.rest ∧
    next = { r with pos := r.pos + 1 } := by
  apply decoded_eq_ok_iff (fun octet => [octet]) (by decide) (fun _ => rfl) (fun _ => rfl)
  intro octets hoctets
  obtain ⟨octet, rfl⟩ := List.length_eq_one_iff.mp hoctets
  rfl

theorem u16Le_eq_ok_iff {r next : Reader} {value : UInt16} :
    r.u16Le = .ok (value, next) ↔
      r.rest = u16ToLe value ++ next.rest ∧ next = { r with pos := r.pos + 2 } := by
  apply decoded_eq_ok_iff u16ToLe (by decide) (fun _ => rfl) u16FromLe_toLe
  intro octets hoctets
  obtain ⟨low, high, rfl⟩ := List.length_eq_two.mp hoctets
  exact u16ToLe_fromLe low high

theorem u32Le_eq_ok_iff {r next : Reader} {value : UInt32} :
    r.u32Le = .ok (value, next) ↔
      r.rest = u32ToLe value ++ next.rest ∧ next = { r with pos := r.pos + 4 } := by
  apply decoded_eq_ok_iff u32ToLe (by decide) (fun _ => rfl)
  · intro value
    rw [OctetReader.u32ToLe_eq, List.reverse_reverse, u32ToBe, beToNat_natToBe 4 value.toNat_lt,
      UInt32.ofNat_toNat]
  · intro octets hoctets
    exact OctetReader.u32ToLe_beToNat hoctets

theorem rest_advance {r : Reader} {octets later : Bytes} (hrest : r.rest = octets ++ later) :
    ({ r with pos := r.pos + octets.length } : Reader).rest = later := by
  rw [rest, ← List.drop_drop]
  change r.rest.drop octets.length = later
  rw [hrest, List.drop_left]

theorem exists_u8 {r : Reader} {value : UInt8} {later : Bytes} (hrest : r.rest = [value] ++ later) :
    ∃ next, r.u8 = .ok (value, next) ∧ next.rest = later := by
  have hnext := rest_advance hrest
  refine ⟨_, u8_eq_ok_iff.mpr ⟨?_, rfl⟩, hnext⟩
  exact hrest.trans (congrArg ([value] ++ ·) hnext.symm)

theorem exists_u16Le {r : Reader} {value : UInt16} {later : Bytes}
    (hrest : r.rest = u16ToLe value ++ later) :
    ∃ next, r.u16Le = .ok (value, next) ∧ next.rest = later := by
  have hnext := rest_advance hrest
  refine ⟨_, u16Le_eq_ok_iff.mpr ⟨?_, rfl⟩, hnext⟩
  exact hrest.trans (congrArg (u16ToLe value ++ ·) hnext.symm)

theorem exists_u32Le {r : Reader} {value : UInt32} {later : Bytes}
    (hrest : r.rest = u32ToLe value ++ later) :
    ∃ next, r.u32Le = .ok (value, next) ∧ next.rest = later := by
  have hnext := rest_advance hrest
  refine ⟨_, u32Le_eq_ok_iff.mpr ⟨?_, rfl⟩, hnext⟩
  exact hrest.trans (congrArg (u32ToLe value ++ ·) hnext.symm)

end Reader

/-! ## 2. Fields of a word -/

/-- The number that `width` bits of a word make, from bit `shift` on. -/
def wordField (word : UInt16) (shift width : Nat) : Nat := word.toNat / 2 ^ shift % 2 ^ width

theorem toNat_and_mask12 (word : UInt16) : (word &&& 0x0FFF).toNat = wordField word 0 12 := by
  rw [UInt16.toNat_and, wordField, Nat.pow_zero, Nat.div_one]
  exact Nat.and_two_pow_sub_one_eq_mod word.toNat 12

theorem toNat_amount {shift : Nat} (hshift : shift < 16) :
    (UInt16.ofNat shift).toNat % 16 = shift := by
  rw [UInt16.toNat_ofNat_of_lt' (Nat.lt_trans hshift (by decide)), Nat.mod_eq_of_lt hshift]

theorem toNat_field (word : UInt16) {shift width : Nat} (hshift : shift < 16) (hwidth : width ≤ 8) :
    ((word >>> UInt16.ofNat shift) &&& UInt16.ofNat (2 ^ width - 1)).toUInt8.toNat =
      wordField word shift width := by
  have hpow : 2 ^ width ≤ 2 ^ 8 := Nat.pow_le_pow_right (by decide) hwidth
  have hmask : (UInt16.ofNat (2 ^ width - 1)).toNat = 2 ^ width - 1 := by
    apply UInt16.toNat_ofNat_of_lt'
    change 2 ^ width - 1 < 65536
    omega
  have hlt : wordField word shift width < 2 ^ 8 :=
    Nat.lt_of_lt_of_le (Nat.mod_lt _ (Nat.two_pow_pos width)) hpow
  rw [UInt16.toNat_toUInt8, UInt16.toNat_and, hmask, UInt16.toNat_shiftRight, toNat_amount hshift,
    Nat.shiftRight_eq_div_pow, Nat.and_two_pow_sub_one_eq_mod]
  exact Nat.mod_eq_of_lt hlt

theorem toNat_shifted (flag : UInt8) {shift : Nat} (hshift : shift < 16) :
    (flag.toUInt16 <<< UInt16.ofNat shift).toNat = flag.toNat * 2 ^ shift % 2 ^ 16 := by
  rw [UInt16.toNat_shiftLeft, toNat_amount hshift, UInt8.toNat_toUInt16, Nat.shiftLeft_eq]

theorem or_fields {handle first second : Nat} (hhandle : handle < 4096) (hfirst : first < 4)
    (hsecond : second < 4) :
    first * 2 ^ 12 ||| second * 2 ^ 14 ||| handle = handle + 4096 * first + 16384 * second := by
  have hflags : ∀ first second : Fin 4, first.val * 2 ^ 12 ||| second.val * 2 ^ 14 =
      2 ^ 12 * (first.val + 4 * second.val) := by decide
  have hboth := hflags ⟨first, hfirst⟩ ⟨second, hsecond⟩
  simp only at hboth
  rw [hboth, ← Nat.two_pow_add_eq_or_of_lt (show handle < 2 ^ 12 from hhandle)]
  omega

theorem toNat_packed {handle : UInt16} {first second : UInt8} (hhandle : handle.toNat < 4096)
    (hfirst : first.toNat < 4) (hsecond : second.toNat < 4) :
    (first.toUInt16 <<< 12 ||| second.toUInt16 <<< 14 ||| handle).toNat =
      handle.toNat + 4096 * first.toNat + 16384 * second.toNat := by
  have hlow := @toNat_shifted first 12 (by decide)
  have hhigh := @toNat_shifted second 14 (by decide)
  rw [Nat.mod_eq_of_lt (by omega)] at hlow hhigh
  rw [UInt16.toNat_or, UInt16.toNat_or, ← or_fields hhandle hfirst hsecond, ← hlow, ← hhigh]
  rfl

theorem wordField_lt (word : UInt16) (shift width : Nat) : wordField word shift width < 2 ^ width :=
  Nat.mod_lt _ (Nat.two_pow_pos width)

theorem packed_fields (word : UInt16) :
    ((word >>> 12) &&& 0b11).toUInt8.toUInt16 <<< 12 |||
      ((word >>> 14) &&& 0b11).toUInt8.toUInt16 <<< 14 ||| (word &&& 0x0FFF) = word := by
  have hhandle := toNat_and_mask12 word
  have hlow : ((word >>> 12) &&& 0b11).toUInt8.toNat = wordField word 12 2 :=
    @toNat_field word 12 2 (by decide) (by decide)
  have hhigh : ((word >>> 14) &&& 0b11).toUInt8.toNat = wordField word 14 2 :=
    @toNat_field word 14 2 (by decide) (by decide)
  have hword := word.toNat_lt
  apply UInt16.toNat.inj
  rw [toNat_packed, hhandle, hlow, hhigh]
  · simp only [wordField]
    omega
  · rw [hhandle]
    exact wordField_lt word 0 12
  · rw [hlow]
    exact wordField_lt word 12 2
  · rw [hhigh]
    exact wordField_lt word 14 2

theorem fields_packed {word handle : UInt16} {first second : Nat} (hhandle : handle.toNat < 4096)
    (hfirst : first < 4) (hsecond : second < 4)
    (hword : word.toNat = handle.toNat + 4096 * first + 16384 * second) :
    word &&& 0x0FFF = handle ∧ wordField word 12 2 = first ∧ wordField word 14 2 = second := by
  refine ⟨?_, ?_, ?_⟩
  · apply UInt16.toNat.inj
    rw [toNat_and_mask12, wordField, hword]
    omega
  · rw [wordField, hword]
    omega
  · rw [wordField, hword]
    omega

theorem flag_eq_iff {word : UInt16} {flag : UInt8} {shift width : Nat} (hshift : shift < 16)
    (hwidth : width ≤ 8) :
    ((word >>> UInt16.ofNat shift) &&& UInt16.ofNat (2 ^ width - 1)).toUInt8 = flag ↔
      wordField word shift width = flag.toNat := by
  rw [← UInt8.toNat_inj, toNat_field word hshift hwidth]

/-! ## 3. The formats -/

def wordAt (packet : Bytes) (offset : Nat) : UInt16 :=
  u16FromLe (packet.getD offset 0) (packet.getD (offset + 1) 0)

namespace AclDataPacket

def fromBytes (packet : Bytes) : Except Error AclDataPacket := do
  let (h, r) ← (Reader.new packet 1).u16Le
  let (dataTotalLength, r) ← r.u16Le
  let data := r.rest
  if data.length ≠ dataTotalLength.toNat then
    throw (.invalidPacket s!"invalid packet length {data.length} != {dataTotalLength.toNat}")
  pure {
    connectionHandle := h &&& 0x0FFF
    pbFlag := ((h >>> 12) &&& 0b11).toUInt8
    bcFlag := ((h >>> 14) &&& 0b11).toUInt8
    dataTotalLength := dataTotalLength
    data := data }

/-- The word that `to_bytes` begins with. -/
def word (packet : AclDataPacket) : UInt16 :=
  packet.pbFlag.toUInt16 <<< 12 ||| packet.bcFlag.toUInt16 <<< 14 ||| packet.connectionHandle

def toBytes (packet : AclDataPacket) : Bytes :=
  hciAclDataPacket :: (u16ToLe packet.word ++ (u16ToLe packet.dataTotalLength ++ packet.data))

/-- The fields are within their widths on the wire. -/
structure InRange (packet : AclDataPacket) : Prop where
  handle : packet.connectionHandle.toNat < 4096
  pbFlag : packet.pbFlag.toNat < 4
  bcFlag : packet.bcFlag.toNat < 4
  length : packet.data.length = packet.dataTotalLength.toNat

end AclDataPacket

structure SynchronousDataPacket where
  connectionHandle : UInt16
  packetStatus : UInt8
  dataTotalLength : UInt8
  data : Bytes
deriving DecidableEq, Repr

namespace SynchronousDataPacket

def fromBytes (packet : Bytes) : Except Error SynchronousDataPacket := do
  let (h, r) ← (Reader.new packet 1).u16Le
  let (dataTotalLength, r) ← r.u8
  let data := r.rest
  if data.length ≠ dataTotalLength.toNat then
    throw (.invalidPacket s!"invalid packet length {data.length} != {dataTotalLength.toNat}")
  pure {
    connectionHandle := h &&& 0x0FFF
    packetStatus := ((h >>> 12) &&& 0b11).toUInt8
    dataTotalLength := dataTotalLength
    data := data }

/-- The word that `to_bytes` begins with. -/
def word (packet : SynchronousDataPacket) : UInt16 :=
  packet.packetStatus.toUInt16 <<< 12 ||| packet.connectionHandle

def toBytes (packet : SynchronousDataPacket) : Bytes :=
  hciSynchronousDataPacket :: (u16ToLe packet.word ++ ([packet.dataTotalLength] ++ packet.data))

def ReservedZero (packet : Bytes) : Prop := wordField (wordAt packet 1) 14 2 = 0

/-- The fields are within their widths on the wire. -/
structure InRange (packet : SynchronousDataPacket) : Prop where
  handle : packet.connectionHandle.toNat < 4096
  packetStatus : packet.packetStatus.toNat < 4
  length : packet.data.length = packet.dataTotalLength.toNat

end SynchronousDataPacket

structure IsoDataPacket where
  connectionHandle : UInt16
  pbFlag : UInt8
  tsFlag : UInt8
  dataTotalLength : UInt16
  timeStamp : Option UInt32
  packetSequenceNumber : Option UInt16
  isoSduLength : Option UInt16
  packetStatusFlag : Option UInt8
  isoSduFragment : Bytes
deriving DecidableEq, Repr

namespace Reader

def timeStamp (r : Reader) (tsFlag : UInt8) : Except Error (Option UInt32 × Reader) :=
  if tsFlag ≠ 0 then do
    let (value, r) ← r.u32Le
    pure (some value, r)
  else pure (none, r)

/-- The sequence number and the word of length and status, if they are there. -/
def sduInfo (r : Reader) (shouldIncludeSduInfo : Bool) :
    Except Error ((Option UInt16 × Option UInt16 × Option UInt8) × Reader) :=
  if shouldIncludeSduInfo then do
    let (psn, r) ← r.u16Le
    let (info, r) ← r.u16Le
    pure ((some psn, some (info &&& 0x0FFF), some ((info >>> 15) &&& 1).toUInt8), r)
  else pure ((none, none, none), r)

end Reader

namespace IsoDataPacket

def fromBytes (packet : Bytes) : Except Error IsoDataPacket := do
  let (pduInfo, r) ← (Reader.new packet 1).u16Le
  let (dataTotalLength, r) ← r.u16Le
  let connectionHandle := pduInfo &&& 0x0FFF
  let pbFlag := ((pduInfo >>> 12) &&& 0b11).toUInt8
  let tsFlag := ((pduInfo >>> 14) &&& 0b01).toUInt8
  let shouldIncludeSduInfo := pbFlag &&& 0b01 == 0
  let (timeStamp, r) ← r.timeStamp tsFlag
  let ((packetSequenceNumber, isoSduLength, packetStatusFlag), r) ← r.sduInfo shouldIncludeSduInfo
  let isoSduFragment := r.rest
  let metadataLength := (tsFlag != 0).toNat * 4 + shouldIncludeSduInfo.toNat * 4
  if dataTotalLength.toNat ≠ metadataLength + isoSduFragment.length then
    throw (.invalidPacket
      s!"invalid ISO packet length {metadataLength + isoSduFragment.length} != {dataTotalLength.toNat}")
  pure {
    connectionHandle, pbFlag, tsFlag, dataTotalLength, timeStamp, packetSequenceNumber,
    isoSduLength, packetStatusFlag, isoSduFragment }

/-- The word that `to_bytes` begins with. -/
def word (packet : IsoDataPacket) : UInt16 :=
  packet.tsFlag.toUInt16 <<< 14 ||| packet.pbFlag.toUInt16 <<< 12 ||| packet.connectionHandle

/-- The octets of the SDU info, of which all fields have to be there. -/
def sduInfo (packet : IsoDataPacket) : Bytes :=
  match packet.packetSequenceNumber, packet.isoSduLength, packet.packetStatusFlag with
  | some psn, some sduLen, some status =>
    u16ToLe psn ++ u16ToLe (sduLen ||| status.toUInt16 <<< 15)
  | _, _, _ => []

def toBytes (packet : IsoDataPacket) : Bytes :=
  hciIsoDataPacket :: (u16ToLe packet.word ++ (u16ToLe packet.dataTotalLength ++
    (packet.timeStamp.elim [] u32ToLe ++ (packet.sduInfo ++ packet.isoSduFragment))))

/-- The SDU info is there for a first or complete fragment. -/
def HasSduInfo (packet : Bytes) : Prop := wordField (wordAt packet 1) 12 1 = 0

/-- The word of length and status, behind the header, the time stamp and the sequence number. -/
def sduWord (packet : Bytes) : UInt16 :=
  wordAt packet (if wordField (wordAt packet 1) 14 1 = 0 then 7 else 11)

/-- The bit above the flags, the two above the length of the data and the two above the length
    of the SDU are zero. -/
structure ReservedZero (packet : Bytes) : Prop where
  pduInfo : wordField (wordAt packet 1) 15 1 = 0
  dataTotalLength : wordField (wordAt packet 3) 14 2 = 0
  sduInfo : HasSduInfo packet → wordField (sduWord packet) 12 2 = 0

/-- The fields are within their widths on the wire, and those that the flags announce are there. -/
structure InRange (packet : IsoDataPacket) : Prop where
  handle : packet.connectionHandle.toNat < 4096
  pbFlag : packet.pbFlag.toNat < 4
  tsFlag : packet.tsFlag.toNat < 2
  timeStamp : packet.timeStamp.isSome = (packet.tsFlag != 0)
  packetSequenceNumber : packet.packetSequenceNumber.isSome = (packet.pbFlag &&& 0b01 == 0)
  isoSduLength : packet.isoSduLength.isSome = (packet.pbFlag &&& 0b01 == 0)
  packetStatusFlag : packet.packetStatusFlag.isSome = (packet.pbFlag &&& 0b01 == 0)
  sduLength : ∀ length ∈ packet.isoSduLength, length.toNat < 4096
  status : ∀ status ∈ packet.packetStatusFlag, status.toNat < 4
  length : packet.dataTotalLength.toNat = (packet.tsFlag != 0).toNat * 4 +
    (packet.pbFlag &&& 0b01 == 0).toNat * 4 + packet.isoSduFragment.length

end IsoDataPacket

/-! ## 4. Asynchronous and synchronous packets -/

theorem cons_eq_packet_iff {packet body : Bytes} {type : UInt8} :
    type :: body = packet ↔ packet.head? = some type ∧ (packet ≠ [] → body = packet.drop 1) := by
  cases packet with
  | nil => simp
  | cons first later =>
    rw [List.head?_cons, Option.some.injEq, List.cons.injEq]
    constructor
    · rintro ⟨rfl, rfl⟩
      exact ⟨rfl, fun _ => rfl⟩
    · rintro ⟨rfl, hbody⟩
      exact ⟨rfl, hbody (List.cons_ne_nil _ _)⟩

theorem u16ToLe_append_inj {first second : UInt16} {later later' : Bytes} :
    u16ToLe first ++ later = u16ToLe second ++ later' ↔ first = second ∧ later = later' := by
  constructor
  · intro happend
    obtain ⟨hwords, hlater⟩ := List.append_inj happend rfl
    have hvalue := congrArg (fun octets => u16FromLe (octets.getD 0 0) (octets.getD 1 0)) hwords
    refine ⟨?_, hlater⟩
    rw [← u16FromLe_toLe first, ← u16FromLe_toLe second]
    exact hvalue
  · rintro ⟨rfl, rfl⟩
    rfl

theorem drop_of_drop {packet octets later : Bytes} {offset : Nat}
    (hdrop : packet.drop offset = octets ++ later) :
    packet.drop (offset + octets.length) = later := by
  rw [← List.drop_drop, hdrop, List.drop_left]

theorem getD_eq_drop (packet : Bytes) (offset : Nat) :
    packet.getD offset 0 = (packet.drop offset).getD 0 0 := by
  rw [List.getD_eq_getElem?_getD, List.getD_eq_getElem?_getD, List.getElem?_drop, Nat.add_zero]

theorem wordAt_of_drop {packet later : Bytes} {offset : Nat} {word : UInt16}
    (hdrop : packet.drop offset = u16ToLe word ++ later) : wordAt packet offset = word := by
  rw [wordAt, getD_eq_drop packet offset, getD_eq_drop packet (offset + 1), ← List.drop_drop, hdrop]
  exact u16FromLe_toLe word

namespace AclDataPacket

theorem packed_inRange {packet : AclDataPacket} (hrange : packet.InRange) :
    packet.word &&& 0x0FFF = packet.connectionHandle ∧
      wordField packet.word 12 2 = packet.pbFlag.toNat ∧
      wordField packet.word 14 2 = packet.bcFlag.toNat :=
  fields_packed hrange.handle hrange.pbFlag hrange.bcFlag
    (toNat_packed hrange.handle hrange.pbFlag hrange.bcFlag)

/-- **Reading an ACL packet.**  It is read as `p` exactly when `p` is in range and the octets
    behind the type are those that `p` is written as. -/
theorem fromBytes_eq_ok_iff {packet : Bytes} {p : AclDataPacket} :
    fromBytes packet = .ok p ↔
      packet.drop 1 = u16ToLe p.word ++ (u16ToLe p.dataTotalLength ++ p.data) ∧ p.InRange := by
  constructor
  · intro hread
    obtain ⟨⟨h, r⟩, hfirst, hread⟩ := except_bind_eq_ok hread
    obtain ⟨⟨length, r'⟩, hsecond, hread⟩ := except_bind_eq_ok hread
    obtain ⟨hrest, -⟩ := Reader.u16Le_eq_ok_iff.mp hfirst
    obtain ⟨hrest', -⟩ := Reader.u16Le_eq_ok_iff.mp hsecond
    dsimp only at hread
    split at hread
    next => cases hread
    next hlength =>
      cases hread
      refine ⟨?_, ?_⟩
      · change packet.drop 1 = u16ToLe (_ ||| _ ||| _) ++ _
        rw [packed_fields, ← hrest']
        exact hrest
      · exact {
          handle := by
            rw [toNat_and_mask12]
            exact wordField_lt h 0 12
          pbFlag := by
            refine lt_of_eq_of_lt (@toNat_field h 12 2 (by decide) (by decide)) ?_
            exact wordField_lt h 12 2
          bcFlag := by
            refine lt_of_eq_of_lt (@toNat_field h 14 2 (by decide) (by decide)) ?_
            exact wordField_lt h 14 2
          length := not_not.mp hlength }
  · rintro ⟨hbody, hrange⟩
    obtain ⟨r, hfirst, hrest⟩ := @Reader.exists_u16Le (Reader.new packet 1) _ _ hbody
    obtain ⟨r', hsecond, hrest'⟩ := Reader.exists_u16Le hrest
    obtain ⟨hhandle, hpb, hbc⟩ := packed_inRange hrange
    have hpb' : ((p.word >>> 12) &&& 0b11).toUInt8 = p.pbFlag :=
      (@flag_eq_iff p.word p.pbFlag 12 2 (by decide) (by decide)).mpr hpb
    have hbc' : ((p.word >>> 14) &&& 0b11).toUInt8 = p.bcFlag :=
      (@flag_eq_iff p.word p.bcFlag 14 2 (by decide) (by decide)).mpr hbc
    rw [fromBytes, hfirst]
    dsimp only [bind, Except.bind]
    rw [hsecond]
    dsimp only
    rw [hrest', if_neg (not_not_intro hrange.length), hhandle, hpb', hbc']
    rfl

end AclDataPacket

namespace SynchronousDataPacket

theorem toNat_word {packet : SynchronousDataPacket} (hrange : packet.InRange) :
    packet.word.toNat = packet.connectionHandle.toNat + 4096 * packet.packetStatus.toNat := by
  have hpacked := @toNat_packed packet.connectionHandle packet.packetStatus 0 hrange.handle
    hrange.packetStatus (by decide)
  have hzero : packet.packetStatus.toUInt16 <<< 12 ||| (0 : UInt8).toUInt16 <<< 14 =
      packet.packetStatus.toUInt16 <<< 12 := UInt16.or_zero
  rw [hzero] at hpacked
  exact hpacked

theorem fromBytes_eq_ok_iff {packet : Bytes} {p : SynchronousDataPacket} :
    fromBytes packet = .ok p ↔ p.InRange ∧
      ∃ h : UInt16, packet.drop 1 = u16ToLe h ++ ([p.dataTotalLength] ++ p.data) ∧
        h &&& 0x0FFF = p.connectionHandle ∧ wordField h 12 2 = p.packetStatus.toNat := by
  constructor
  · intro hread
    obtain ⟨⟨h, r⟩, hfirst, hread⟩ := except_bind_eq_ok hread
    obtain ⟨⟨length, r'⟩, hsecond, hread⟩ := except_bind_eq_ok hread
    obtain ⟨hrest, -⟩ := Reader.u16Le_eq_ok_iff.mp hfirst
    obtain ⟨hrest', -⟩ := Reader.u8_eq_ok_iff.mp hsecond
    dsimp only at hread
    split at hread
    next => cases hread
    next hlength =>
      cases hread
      have hstatus := @toNat_field h 12 2 (by decide) (by decide)
      refine ⟨{ handle := ?_, packetStatus := ?_, length := not_not.mp hlength }, h, ?_, rfl,
        hstatus.symm⟩
      · rw [toNat_and_mask12]
        exact wordField_lt h 0 12
      · exact lt_of_eq_of_lt hstatus (wordField_lt h 12 2)
      · rw [← hrest']
        exact hrest
  · rintro ⟨hrange, h, hbody, hhandle, hstatus⟩
    obtain ⟨r, hfirst, hrest⟩ := @Reader.exists_u16Le (Reader.new packet 1) _ _ hbody
    obtain ⟨r', hsecond, hrest'⟩ := Reader.exists_u8 hrest
    have hstatus' : ((h >>> 12) &&& 0b11).toUInt8 = p.packetStatus :=
      (@flag_eq_iff h p.packetStatus 12 2 (by decide) (by decide)).mpr hstatus
    rw [fromBytes, hfirst]
    dsimp only [bind, Except.bind]
    rw [hsecond]
    dsimp only
    rw [hrest', if_neg (not_not_intro hrange.length), hhandle, hstatus']
    rfl

theorem word_eq_iff {p : SynchronousDataPacket} (hrange : p.InRange) {h : UInt16}
    (hhandle : h &&& 0x0FFF = p.connectionHandle)
    (hstatus : wordField h 12 2 = p.packetStatus.toNat) :
    p.word = h ↔ wordField h 14 2 = 0 := by
  have hlow := toNat_and_mask12 h
  have hword := h.toNat_lt
  rw [hhandle] at hlow
  rw [← UInt16.toNat_inj, toNat_word hrange, ← hstatus, hlow]
  simp only [wordField]
  omega

end SynchronousDataPacket

/-! ## 5. Isochronous packets -/

namespace Reader

theorem timeStamp_eq_ok {r next : Reader} {tsFlag : UInt8} {value : Option UInt32}
    (hread : r.timeStamp tsFlag = .ok (value, next)) :
    value.isSome = (tsFlag != 0) ∧ r.rest = value.elim [] u32ToLe ++ next.rest := by
  rw [timeStamp] at hread
  split at hread
  next hflag =>
    obtain ⟨⟨stamp, r'⟩, hstamp, hread⟩ := except_bind_eq_ok hread
    cases hread
    exact ⟨(bne_iff_ne.mpr hflag).symm, (u32Le_eq_ok_iff.mp hstamp).1⟩
  next hflag =>
    cases hread
    rw [not_not] at hflag
    exact ⟨by rw [hflag]; rfl, rfl⟩

theorem exists_timeStamp {r : Reader} {tsFlag : UInt8} {value : Option UInt32} {later : Bytes}
    (hflag : value.isSome = (tsFlag != 0)) (hrest : r.rest = value.elim [] u32ToLe ++ later) :
    ∃ next, r.timeStamp tsFlag = .ok (value, next) ∧ next.rest = later := by
  rw [timeStamp]
  cases value with
  | none =>
    have hzero : tsFlag = 0 := not_not.mp fun hne => by simp [bne_iff_ne.mpr hne] at hflag
    rw [if_neg (not_not_intro hzero)]
    exact ⟨r, rfl, hrest⟩
  | some stamp =>
    have hset : tsFlag ≠ 0 := bne_iff_ne.mp hflag.symm
    obtain ⟨next, hstamp, hnext⟩ := exists_u32Le hrest
    rw [if_pos hset, hstamp]
    exact ⟨next, rfl, hnext⟩

/-- The octets of a sequence number and a word of length and status. -/
def sduOctets (sdu : UInt16 × UInt16) : Bytes := u16ToLe sdu.1 ++ u16ToLe sdu.2

def sduFields (sdu : Option (UInt16 × UInt16)) : Option UInt16 × Option UInt16 × Option UInt8 :=
  match sdu with
  | some (psn, info) => (some psn, some (info &&& 0x0FFF), some ((info >>> 15) &&& 1).toUInt8)
  | none => (none, none, none)

theorem sduInfo_eq_ok {r next : Reader} {present : Bool}
    {fields : Option UInt16 × Option UInt16 × Option UInt8}
    (hread : r.sduInfo present = .ok (fields, next)) :
    ∃ sdu, fields = sduFields sdu ∧ sdu.isSome = present ∧
      r.rest = sdu.elim [] sduOctets ++ next.rest := by
  rw [sduInfo] at hread
  split at hread
  next hpresent =>
    obtain ⟨⟨psn, r'⟩, hpsn, hread⟩ := except_bind_eq_ok hread
    obtain ⟨⟨info, r''⟩, hinfo, hread⟩ := except_bind_eq_ok hread
    cases hread
    refine ⟨some (psn, info), rfl, hpresent.symm, ?_⟩
    rw [(u16Le_eq_ok_iff.mp hpsn).1, (u16Le_eq_ok_iff.mp hinfo).1]
    rfl
  next hpresent =>
    cases hread
    exact ⟨none, rfl, (Bool.not_eq_true _ ▸ hpresent).symm, rfl⟩

theorem exists_sduInfo {r : Reader} {present : Bool} {sdu : Option (UInt16 × UInt16)}
    {later : Bytes} (hpresent : sdu.isSome = present)
    (hrest : r.rest = sdu.elim [] sduOctets ++ later) :
    ∃ next, r.sduInfo present = .ok (sduFields sdu, next) ∧ next.rest = later := by
  subst hpresent
  cases sdu with
  | none => exact ⟨r, rfl, hrest⟩
  | some sdu =>
    change r.rest = u16ToLe sdu.1 ++ u16ToLe sdu.2 ++ later at hrest
    rw [List.append_assoc] at hrest
    obtain ⟨r', hpsn, hrest'⟩ := exists_u16Le hrest
    obtain ⟨next, hinfo, hnext⟩ := exists_u16Le hrest'
    refine ⟨next, ?_, hnext⟩
    rw [Option.isSome_some, sduInfo, if_pos rfl, hpsn]
    dsimp only [bind, Except.bind]
    rw [hinfo]
    rfl

end Reader

namespace IsoDataPacket

/-- The packet `p` stands in octets that have the given header word and SDU info. -/
structure ReadFrom (packet : Bytes) (p : IsoDataPacket) (pduInfo : UInt16)
    (sdu : Option (UInt16 × UInt16)) : Prop where
  body : packet.drop 1 = u16ToLe pduInfo ++ (u16ToLe p.dataTotalLength ++
    (p.timeStamp.elim [] u32ToLe ++ (sdu.elim [] Reader.sduOctets ++ p.isoSduFragment)))
  handle : pduInfo &&& 0x0FFF = p.connectionHandle
  pbFlag : wordField pduInfo 12 2 = p.pbFlag.toNat
  tsFlag : wordField pduInfo 14 1 = p.tsFlag.toNat
  timeStamp : p.timeStamp.isSome = (p.tsFlag != 0)
  sduInfo : sdu.isSome = (p.pbFlag &&& 0b01 == 0)
  fields : (p.packetSequenceNumber, p.isoSduLength, p.packetStatusFlag) = Reader.sduFields sdu
  length : p.dataTotalLength.toNat = (p.tsFlag != 0).toNat * 4 +
    (p.pbFlag &&& 0b01 == 0).toNat * 4 + p.isoSduFragment.length

/-- **Reading an isochronous packet.** -/
theorem fromBytes_eq_ok_iff {packet : Bytes} {p : IsoDataPacket} :
    fromBytes packet = .ok p ↔ ∃ pduInfo sdu, ReadFrom packet p pduInfo sdu := by
  constructor
  · intro hread
    obtain ⟨⟨pduInfo, r⟩, hfirst, hread⟩ := except_bind_eq_ok hread
    obtain ⟨⟨length, r1⟩, hsecond, hread⟩ := except_bind_eq_ok hread
    obtain ⟨⟨timeStamp, r2⟩, hstamp, hread⟩ := except_bind_eq_ok hread
    obtain ⟨⟨⟨psn, sduLen, status⟩, r3⟩, hsdu, hread⟩ := except_bind_eq_ok hread
    obtain ⟨hrest, -⟩ := Reader.u16Le_eq_ok_iff.mp hfirst
    obtain ⟨hrest1, -⟩ := Reader.u16Le_eq_ok_iff.mp hsecond
    obtain ⟨hsome, hrest2⟩ := Reader.timeStamp_eq_ok hstamp
    obtain ⟨sdu, hfields, hpresent, hrest3⟩ := Reader.sduInfo_eq_ok hsdu
    dsimp only at hread
    split at hread
    next => cases hread
    next hlength =>
      cases hread
      refine ⟨pduInfo, sdu, {
        body := ?_
        handle := rfl
        pbFlag := ?_
        tsFlag := ?_
        timeStamp := hsome
        sduInfo := hpresent
        fields := hfields
        length := not_not.mp hlength }⟩
      · change (Reader.new packet 1).rest = _
        rw [hrest, hrest1, hrest2, hrest3]
      · exact (@toNat_field pduInfo 12 2 (by decide) (by decide)).symm
      · exact (@toNat_field pduInfo 14 1 (by decide) (by decide)).symm
  · rintro ⟨pduInfo, sdu, hfrom⟩
    obtain ⟨r, hfirst, hrest⟩ := @Reader.exists_u16Le (Reader.new packet 1) _ _ hfrom.body
    obtain ⟨r1, hsecond, hrest1⟩ := Reader.exists_u16Le hrest
    obtain ⟨r2, hstamp, hrest2⟩ := Reader.exists_timeStamp hfrom.timeStamp hrest1
    obtain ⟨r3, hsdu, hrest3⟩ := Reader.exists_sduInfo hfrom.sduInfo hrest2
    have hpb : ((pduInfo >>> 12) &&& 0b11).toUInt8 = p.pbFlag :=
      (@flag_eq_iff pduInfo p.pbFlag 12 2 (by decide) (by decide)).mpr hfrom.pbFlag
    have hts : ((pduInfo >>> 14) &&& 0b01).toUInt8 = p.tsFlag :=
      (@flag_eq_iff pduInfo p.tsFlag 14 1 (by decide) (by decide)).mpr hfrom.tsFlag
    rw [← hfrom.fields] at hsdu
    rw [fromBytes, hfirst]
    dsimp only [bind, Except.bind]
    rw [hsecond]
    dsimp only
    rw [hpb, hts, hstamp]
    dsimp only
    rw [hsdu]
    dsimp only
    rw [hrest3, if_neg (not_not_intro hfrom.length), hfrom.handle]
    rfl

theorem toNat_word {packet : IsoDataPacket} (hhandle : packet.connectionHandle.toNat < 4096)
    (hpb : packet.pbFlag.toNat < 4) (hts : packet.tsFlag.toNat < 2) :
    packet.word.toNat =
      packet.connectionHandle.toNat + 4096 * packet.pbFlag.toNat + 16384 * packet.tsFlag.toNat := by
  rw [word, UInt16.or_comm (packet.tsFlag.toUInt16 <<< 14)]
  exact toNat_packed hhandle hpb (Nat.lt_trans hts (by decide))

theorem word_eq_iff {packet : Bytes} {p : IsoDataPacket} {pduInfo : UInt16}
    {sdu : Option (UInt16 × UInt16)} (hfrom : ReadFrom packet p pduInfo sdu) :
    p.word = pduInfo ↔ wordField pduInfo 15 1 = 0 := by
  have hlow := toNat_and_mask12 pduInfo
  have hword := pduInfo.toNat_lt
  rw [hfrom.handle] at hlow
  have hhandle : p.connectionHandle.toNat < 4096 := hlow ▸ wordField_lt pduInfo 0 12
  have hpb : p.pbFlag.toNat < 4 := hfrom.pbFlag ▸ wordField_lt pduInfo 12 2
  have hts : p.tsFlag.toNat < 2 := hfrom.tsFlag ▸ wordField_lt pduInfo 14 1
  rw [← UInt16.toNat_inj, toNat_word hhandle hpb hts, ← hfrom.pbFlag, ← hfrom.tsFlag, hlow]
  simp only [wordField]
  omega

theorem toNat_sduWord (sduLen : UInt16) (status : UInt8) (hlength : sduLen.toNat < 4096) :
    (sduLen ||| status.toUInt16 <<< 15).toNat = sduLen.toNat + 32768 * (status.toNat % 2) := by
  have hshifted := @toNat_shifted status 15 (by decide)
  have hbit : status.toNat * 2 ^ 15 % 2 ^ 16 = 2 ^ 15 * (status.toNat % 2) := by omega
  rw [hbit] at hshifted
  rw [UInt16.toNat_or, Nat.or_comm]
  change (status.toUInt16 <<< UInt16.ofNat 15).toNat ||| sduLen.toNat = _
  rw [hshifted, ← Nat.two_pow_add_eq_or_of_lt (Nat.lt_trans hlength (by decide))]
  omega

theorem written_sduWord_eq_iff (info : UInt16) :
    (info &&& (0x0FFF : UInt16)) ||| ((info >>> 15) &&& 1).toUInt8.toUInt16 <<< 15 = info ↔
      wordField info 12 3 = 0 := by
  have hlow := toNat_and_mask12 info
  have hlength : (info &&& 0x0FFF).toNat < 4096 := hlow ▸ wordField_lt info 0 12
  have hstatus : ((info >>> 15) &&& 1).toUInt8.toNat = wordField info 15 1 :=
    @toNat_field info 15 1 (by decide) (by decide)
  have hinfo := info.toNat_lt
  rw [← UInt16.toNat_inj, toNat_sduWord _ _ hlength, hlow, hstatus]
  simp only [wordField]
  omega

theorem hasSduInfo_iff {packet : Bytes} {p : IsoDataPacket} {pduInfo : UInt16}
    {sdu : Option (UInt16 × UInt16)} (hfrom : ReadFrom packet p pduInfo sdu) :
    HasSduInfo packet ↔ sdu.isSome = true := by
  have hpb := hfrom.pbFlag
  have hbit : (p.pbFlag &&& 0b01).toNat = p.pbFlag.toNat % 2 := by
    rw [UInt8.toNat_and]
    exact Nat.and_two_pow_sub_one_eq_mod p.pbFlag.toNat 1
  rw [hfrom.sduInfo, beq_iff_eq, ← UInt8.toNat_inj, hbit, ← hpb, HasSduInfo,
    wordAt_of_drop hfrom.body]
  change _ ↔ _ = 0
  simp only [wordField]
  omega

theorem sduWord_of_readFrom {packet : Bytes} {p : IsoDataPacket} {pduInfo psn info : UInt16}
    (hfrom : ReadFrom packet p pduInfo (some (psn, info))) : sduWord packet = info := by
  have hbody := hfrom.body
  have hstamp := drop_of_drop (drop_of_drop hbody)
  rw [sduWord, wordAt_of_drop hbody, hfrom.tsFlag]
  have hsome := hfrom.timeStamp
  cases htime : p.timeStamp with
  | none =>
    rw [htime] at hsome hstamp
    have hzero : p.tsFlag = 0 := not_not.mp fun hne => by simp [bne_iff_ne.mpr hne] at hsome
    rw [hzero, if_pos UInt8.toNat_zero]
    change packet.drop 5 = u16ToLe psn ++ u16ToLe info ++ _ at hstamp
    rw [List.append_assoc] at hstamp
    exact wordAt_of_drop (drop_of_drop hstamp)
  | some stamp =>
    rw [htime] at hsome hstamp
    have hset : ¬ p.tsFlag.toNat = 0 := by
      intro hzero
      exact bne_iff_ne.mp hsome.symm (UInt8.toNat.inj hzero)
    rw [if_neg hset]
    have hsdu := drop_of_drop hstamp
    change packet.drop 9 = u16ToLe psn ++ u16ToLe info ++ _ at hsdu
    rw [List.append_assoc] at hsdu
    exact wordAt_of_drop (drop_of_drop hsdu)

theorem sduInfo_eq_iff {packet : Bytes} {p : IsoDataPacket} {pduInfo : UInt16}
    {sdu : Option (UInt16 × UInt16)} (hfrom : ReadFrom packet p pduInfo sdu) :
    p.sduInfo ++ p.isoSduFragment = sdu.elim [] Reader.sduOctets ++ p.isoSduFragment ↔
      (HasSduInfo packet → wordField (sduWord packet) 12 3 = 0) := by
  have hfields := hfrom.fields
  rw [hasSduInfo_iff hfrom, List.append_left_inj]
  cases sdu with
  | none =>
    simp only [Reader.sduFields, Prod.mk.injEq] at hfields
    rw [sduInfo, hfields.1]
    simp
  | some sdu =>
    obtain ⟨psn, info⟩ := sdu
    simp only [Reader.sduFields, Prod.mk.injEq] at hfields
    obtain ⟨hpsn, hlength, hstatus⟩ := hfields
    rw [sduWord_of_readFrom hfrom, sduInfo, hpsn, hlength, hstatus, ← written_sduWord_eq_iff]
    change u16ToLe psn ++ u16ToLe _ = u16ToLe psn ++ u16ToLe info ↔ (true = true → _)
    have hwords : ∀ word : UInt16,
        u16ToLe psn ++ u16ToLe word = u16ToLe psn ++ u16ToLe info ↔ word = info := by
      intro word
      have hone := @u16ToLe_append_inj word info [] []
      rw [List.append_nil, List.append_nil] at hone
      rw [List.append_right_inj, hone, and_iff_left rfl]
    rw [hwords]
    exact ⟨fun hinfo _ => hinfo, fun hinfo => hinfo rfl⟩

/-- **Writing what was read.**  An isochronous packet without reserved bits is written as it was
    read exactly when its type is right and the lower bit of its status is clear. -/
theorem toBytes_eq_iff {packet : Bytes} {p : IsoDataPacket} (hread : fromBytes packet = .ok p)
    (hreserved : ReservedZero packet) :
    p.toBytes = packet ↔ packet.head? = some hciIsoDataPacket ∧
      (HasSduInfo packet → wordField (sduWord packet) 14 1 = 0) := by
  obtain ⟨pduInfo, sdu, hfrom⟩ := fromBytes_eq_ok_iff.mp hread
  have hne : packet ≠ [] := by
    rintro rfl
    cases hfrom.body
  have hword : p.word = pduInfo := by
    rw [word_eq_iff hfrom, ← wordAt_of_drop hfrom.body]
    exact hreserved.pduInfo
  have hsplit : ∀ word : UInt16, wordField word 12 2 = 0 →
      (wordField word 12 3 = 0 ↔ wordField word 14 1 = 0) := by
    intro word
    simp only [wordField]
    omega
  rw [toBytes, cons_eq_packet_iff, hfrom.body, hword]
  apply and_congr Iff.rfl
  rw [List.append_right_inj, List.append_right_inj, List.append_right_inj, sduInfo_eq_iff hfrom]
  constructor
  · intro hall hinfo
    exact (hsplit _ (hreserved.sduInfo hinfo)).mp (hall hne hinfo)
  · intro hall _ hinfo
    exact (hsplit _ (hreserved.sduInfo hinfo)).mpr (hall hinfo)

/-- The words that a packet in range is written with. -/
def writtenSdu (p : IsoDataPacket) : Option (UInt16 × UInt16) :=
  match p.packetSequenceNumber, p.isoSduLength, p.packetStatusFlag with
  | some psn, some sduLen, some status => some (psn, sduLen ||| status.toUInt16 <<< 15)
  | _, _, _ => none

/-- What is read back of a packet in range: all but the upper bit of the status. -/
def readBack (p : IsoDataPacket) : IsoDataPacket :=
  { p with packetStatusFlag := p.packetStatusFlag.map (· % 2) }

theorem InRange.sdu_cases {p : IsoDataPacket} (hrange : p.InRange) :
    ((p.pbFlag &&& 0b01 == 0) = false ∧ p.packetSequenceNumber = none ∧ p.isoSduLength = none ∧
      p.packetStatusFlag = none) ∨
    ((p.pbFlag &&& 0b01 == 0) = true ∧ ∃ psn sduLen status, p.packetSequenceNumber = some psn ∧
      p.isoSduLength = some sduLen ∧ p.packetStatusFlag = some status) := by
  have hpsn := hrange.packetSequenceNumber
  have hlength := hrange.isoSduLength
  have hstatus := hrange.packetStatusFlag
  cases hfirst : (p.pbFlag &&& 0b01 == 0) with
  | false =>
    rw [hfirst] at hpsn hlength hstatus
    refine .inl ⟨rfl, ?_, ?_, ?_⟩ <;>
      rwa [← Option.isSome_eq_false_iff.trans Option.isNone_iff_eq_none]
  | true =>
    rw [hfirst] at hpsn hlength hstatus
    obtain ⟨psn, hpsn⟩ := Option.isSome_iff_exists.mp hpsn
    obtain ⟨sduLen, hlength⟩ := Option.isSome_iff_exists.mp hlength
    obtain ⟨status, hstatus⟩ := Option.isSome_iff_exists.mp hstatus
    exact .inr ⟨rfl, psn, sduLen, status, hpsn, hlength, hstatus⟩

theorem sduWord_fields {sduLen : UInt16} (status : UInt8) (hlength : sduLen.toNat < 4096) :
    (sduLen ||| status.toUInt16 <<< 15) &&& 0x0FFF = sduLen ∧
      (((sduLen ||| status.toUInt16 <<< 15) >>> 15) &&& 1).toUInt8 = status % 2 := by
  have hword := toNat_sduWord sduLen status hlength
  constructor
  · apply UInt16.toNat.inj
    rw [toNat_and_mask12, wordField, hword]
    omega
  · refine (@flag_eq_iff _ (status % 2) 15 1 (by decide) (by decide)).mpr ?_
    rw [wordField, hword, UInt8.toNat_mod]
    change _ = status.toNat % 2
    omega

theorem readFrom_toBytes {p : IsoDataPacket} (hrange : p.InRange) :
    ReadFrom p.toBytes p.readBack p.word p.writtenSdu := by
  have hnat := toNat_word hrange.handle hrange.pbFlag hrange.tsFlag
  obtain ⟨hhandle, hpb, hts⟩ := fields_packed hrange.handle hrange.pbFlag
    (Nat.lt_trans hrange.tsFlag (by decide)) hnat
  have hts' : wordField p.word 14 1 = p.tsFlag.toNat := by
    have hbit : p.tsFlag.toNat < 2 := hrange.tsFlag
    rw [← hts] at hbit ⊢
    simp only [wordField] at hbit ⊢
    omega
  refine {
    body := ?_
    handle := hhandle
    pbFlag := hpb
    tsFlag := hts'
    timeStamp := hrange.timeStamp
    sduInfo := ?_
    fields := ?_
    length := hrange.length }
  · have hsdu : p.sduInfo = p.writtenSdu.elim [] Reader.sduOctets := by
      rw [sduInfo, writtenSdu]
      split <;> rfl
    change u16ToLe p.word ++ _ = _
    rw [hsdu]
    rfl
  · change _ = (p.pbFlag &&& 0b01 == 0)
    rcases hrange.sdu_cases with
      ⟨hfirst, hpsn, -⟩ | ⟨hfirst, psn, sduLen, status, hpsn, hlength, hstatus⟩
    · rw [hfirst, writtenSdu, hpsn]
      rfl
    · rw [hfirst, writtenSdu, hpsn, hlength, hstatus]
      rfl
  · change (p.packetSequenceNumber, p.isoSduLength, p.packetStatusFlag.map (· % 2)) = _
    rcases hrange.sdu_cases with
      ⟨-, hpsn, hlength, hstatus⟩ | ⟨-, psn, sduLen, status, hpsn, hlength, hstatus⟩
    · rw [writtenSdu, hpsn, hlength, hstatus]
      rfl
    · obtain ⟨hlength', hstatus'⟩ := sduWord_fields status (hrange.sduLength sduLen hlength)
      rw [writtenSdu, hpsn, hlength, hstatus]
      change _ = (some psn, some (_ &&& 0x0FFF), some _)
      rw [hlength', hstatus']
      rfl

/-- **Reading what was written.**  The status survives when it is a bit. -/
theorem fromBytes_toBytes_iff {p : IsoDataPacket} (hrange : p.InRange) :
    fromBytes p.toBytes = .ok p ↔ ∀ status ∈ p.packetStatusFlag, status.toNat < 2 := by
  have hread : fromBytes p.toBytes = .ok p.readBack :=
    fromBytes_eq_ok_iff.mpr ⟨p.word, p.writtenSdu, readFrom_toBytes hrange⟩
  have hbit : ∀ status : UInt8, status % 2 = status ↔ status.toNat < 2 := by
    intro status
    rw [← UInt8.toNat_inj, UInt8.toNat_mod]
    change status.toNat % 2 = status.toNat ↔ status.toNat < 2
    omega
  rw [hread, Except.ok.injEq]
  constructor
  · intro hback status hstatus
    have hflag := congrArg IsoDataPacket.packetStatusFlag hback
    change p.packetStatusFlag.map (· % 2) = p.packetStatusFlag at hflag
    rw [hstatus, Option.map_some, Option.some.injEq] at hflag
    exact (hbit status).mp hflag
  · intro hall
    have hflag : p.packetStatusFlag.map (· % 2) = p.packetStatusFlag := by
      cases hstatus : p.packetStatusFlag with
      | none => rfl
      | some status =>
        rw [Option.map_some, (hbit status).mpr (hall status hstatus)]
    rw [readBack, hflag]

end IsoDataPacket

/-! ## 6. All data packets -/

/-- **Data packets keep their defined bits but one.**  A packet that was read is written as it
    was when its type octet is the format's own and, for an isochronous packet with SDU info, the
    lower bit of the status is clear; a packet in range is read back, an isochronous one when its
    status is a single bit. -/
theorem data_packets_kept_iff (packet : Bytes) :
    (∀ p, AclDataPacket.fromBytes packet = .ok p →
      (p.toBytes = packet ↔ packet.head? = some hciAclDataPacket)) ∧
    (∀ p, SynchronousDataPacket.fromBytes packet = .ok p →
      SynchronousDataPacket.ReservedZero packet →
      (p.toBytes = packet ↔ packet.head? = some hciSynchronousDataPacket)) ∧
    (∀ p, IsoDataPacket.fromBytes packet = .ok p → IsoDataPacket.ReservedZero packet →
      (p.toBytes = packet ↔ packet.head? = some hciIsoDataPacket ∧
        (IsoDataPacket.HasSduInfo packet → wordField (IsoDataPacket.sduWord packet) 14 1 = 0))) ∧
    (∀ p : AclDataPacket, p.InRange → AclDataPacket.fromBytes p.toBytes = .ok p) ∧
    (∀ p : SynchronousDataPacket, p.InRange → SynchronousDataPacket.fromBytes p.toBytes = .ok p) ∧
    ∀ p : IsoDataPacket, p.InRange → (IsoDataPacket.fromBytes p.toBytes = .ok p ↔
      ∀ status ∈ p.packetStatusFlag, status.toNat < 2) := by
  refine ⟨?_, ?_, ?_, ?_, ?_, ?_⟩
  · intro p hread
    obtain ⟨hbody, -⟩ := AclDataPacket.fromBytes_eq_ok_iff.mp hread
    rw [AclDataPacket.toBytes, cons_eq_packet_iff, and_iff_left fun _ => hbody.symm]
  · intro p hread hreserved
    obtain ⟨hrange, h, hbody, hhandle, hstatus⟩ :=
      SynchronousDataPacket.fromBytes_eq_ok_iff.mp hread
    rw [SynchronousDataPacket.ReservedZero, wordAt_of_drop hbody,
      ← SynchronousDataPacket.word_eq_iff hrange hhandle hstatus] at hreserved
    rw [SynchronousDataPacket.toBytes, cons_eq_packet_iff, hreserved,
      and_iff_left fun _ => hbody.symm]
  · intro p hread hreserved
    exact IsoDataPacket.toBytes_eq_iff hread hreserved
  · intro p hrange
    exact AclDataPacket.fromBytes_eq_ok_iff.mpr ⟨rfl, hrange⟩
  · intro p hrange
    have hword := SynchronousDataPacket.toNat_word hrange
    obtain ⟨hhandle, hstatus, -⟩ := @fields_packed p.word p.connectionHandle
      p.packetStatus.toNat 0 hrange.handle hrange.packetStatus (by decide) hword
    exact SynchronousDataPacket.fromBytes_eq_ok_iff.mpr ⟨hrange, p.word, rfl, hhandle, hstatus⟩
  · intro p hrange
    exact IsoDataPacket.fromBytes_toBytes_iff hrange

/-- A complete SDU of no octets, with the status "possibly invalid". -/
def possiblyInvalid : Bytes := [0x05, 0x00, 0x20, 0x04, 0x00, 0x00, 0x00, 0x00, 0x40]

/-- The status is read as valid, and the packet is written without it. -/
theorem possibly_invalid_lost :
    IsoDataPacket.ReservedZero possiblyInvalid ∧
      ∃ p, IsoDataPacket.fromBytes possiblyInvalid = .ok p ∧ p.packetStatusFlag = some 0 ∧
        p.toBytes ≠ possiblyInvalid := by
  refine ⟨⟨by decide, by decide, fun _ => by decide⟩,
    ⟨0, 2, 0, 4, none, some 0, some 0, some 0, []⟩,
    by decide, rfl, by decide⟩

end Bumble.Hci
