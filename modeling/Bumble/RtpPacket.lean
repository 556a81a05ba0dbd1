import Bumble.OctetReader

/-!
# RTP packets (`bumble-rtp/src/lib.rs`)
-/

namespace Bumble.Rtp

inductive Error where
  | truncated (what : String)
  | invalid (what : String)
  | tooManyCsrc
  | extensionNotWordAligned
deriving DecidableEq, Repr

structure HeaderExtension where
  profile : UInt16
  data : Bytes
deriving DecidableEq, Repr

structure MediaPacket where
  version : UInt8
  marker : Bool
  payloadType : UInt8
  sequenceNumber : UInt16
  timestamp : UInt32
  ssrc : UInt32
  csrcList : List UInt32
  extension : Option HeaderExtension
  payload : Bytes
  /-- The number of padding octets at the end, their count included. -/
  paddingLen : UInt8
deriving DecidableEq, Repr

namespace MediaPacket

def new (payloadType : UInt8) (sequenceNumber : UInt16) (timestamp ssrc : UInt32)
    (payload : Bytes) : MediaPacket where
  version := 2
  marker := false
  payloadType := payloadType
  sequenceNumber := sequenceNumber
  timestamp := timestamp
  ssrc := ssrc
  csrcList := []
  extension := none
  payload := payload
  paddingLen := 0

def boolOctet (flag : Bool) : UInt8 := if flag then 1 else 0

def extensionBytes (extension : Option HeaderExtension) : Bytes :=
  match extension with
  | some extension =>
    u16ToBe extension.profile ++
      (u16ToBe (UInt16.ofNat (extension.data.length / 4)) ++ extension.data)
  | none => []

/-- The padding: zeros, and last the number of octets. -/
def paddingBytes (paddingLen : UInt8) : Bytes :=
  if paddingLen ≠ 0 then List.replicate (paddingLen.toNat - 1) 0 ++ [paddingLen] else []

def toBytes (packet : MediaPacket) : Except Error Bytes :=
  if packet.csrcList.length > 15 then .error .tooManyCsrc
  else if packet.payloadType > 0x7F ∨ packet.version > 3 then .error (.invalid "RTP bit field")
  else if packet.extension.any fun extension => extension.data.length % 4 ≠ 0 then
    .error .extensionNotWordAligned
  else
    .ok ((packet.version <<< 6 ||| boolOctet (packet.paddingLen != 0) <<< 5 |||
          boolOctet packet.extension.isSome <<< 4 ||| UInt8.ofNat packet.csrcList.length) ::
        (boolOctet packet.marker <<< 7 ||| packet.payloadType) ::
        (u16ToBe packet.sequenceNumber ++ u32ToBe packet.timestamp ++ u32ToBe packet.ssrc ++
          packet.csrcList.flatMap u32ToBe ++ extensionBytes packet.extension ++
          packet.payload ++ paddingBytes packet.paddingLen))

/-- `u32::from_be_bytes` of four octets at a time. -/
def wordsBe : Nat → Bytes → List UInt32
  | 0, _ => []
  | count + 1, bytes =>
    UInt32.ofNat (beToNat (bytes.take 4)) :: wordsBe count (bytes.drop 4)

def parseCsrc (data : Bytes) (csrcCount : Nat) : Except Error (List UInt32 × Nat) :=
  let csrcEnd := 12 + csrcCount * 4
  if data.length < csrcEnd then .error (.truncated "RTP CSRC list")
  else .ok (wordsBe csrcCount (data.drop 12), csrcEnd)

/-- The header extension, if there is one, and where the payload starts. -/
def parseExtension (data : Bytes) (hasExtension : Bool) (start : Nat) :
    Except Error (Option HeaderExtension × Nat) :=
  if hasExtension then
    if data.length < start + 4 then .error (.truncated "RTP extension header")
    else
      let profile := UInt16.ofNat (beToNat ((data.drop start).take 2))
      let words := beToNat ((data.drop (start + 2)).take 2)
      let dataEnd := start + 4 + words * 4
      if data.length < dataEnd then .error (.truncated "RTP extension data")
      else .ok (some ⟨profile, (data.drop (start + 4)).take (words * 4)⟩, dataEnd)
  else .ok (none, start)

/-- The number of padding octets, which is the last octet. -/
def parsePadding (data : Bytes) (hasPadding : Bool) (payloadStart : Nat) : Except Error UInt8 :=
  if hasPadding then
    match data.getLast? with
    | some paddingLen =>
      if paddingLen = 0 ∨ paddingLen.toNat > data.length - payloadStart then
        .error (.invalid "RTP padding length")
      else .ok paddingLen
    | none => .error (.truncated "RTP padding")
  else .ok 0

def fromBytes (data : Bytes) : Except Error MediaPacket :=
  match data with
  | first :: second :: s0 :: s1 :: t0 :: t1 :: t2 :: t3 :: r0 :: r1 :: r2 :: r3 :: _ => do
    let (csrcList, csrcEnd) ← parseCsrc data (first &&& 0x0F).toNat
    let (extension, payloadStart) ← parseExtension data (first &&& 0x10 != 0) csrcEnd
    let paddingLen ← parsePadding data (first &&& 0x20 != 0) payloadStart
    let payloadEnd := data.length - paddingLen.toNat
    pure
      { version := first >>> 6
        marker := second &&& 0x80 != 0
        payloadType := second &&& 0x7F
        sequenceNumber := UInt16.ofNat (beToNat [s0, s1])
        timestamp := UInt32.ofNat (beToNat [t0, t1, t2, t3])
        ssrc := UInt32.ofNat (beToNat [r0, r1, r2, r3])
        csrcList := csrcList
        extension := extension
        payload := (data.take payloadEnd).drop payloadStart
        paddingLen := paddingLen }
  | _ => .error (.truncated "RTP fixed header")

theorem toBytes_new {payloadType : UInt8} (htype : payloadType ≤ 0x7F) (sequenceNumber : UInt16)
    (timestamp ssrc : UInt32) (payload : Bytes) :
    ∃ bytes, (new payloadType sequenceNumber timestamp ssrc payload).toBytes = .ok bytes ∧
      bytes.length = 12 + payload.length := by
  have hallowed : ¬ (payloadType > 0x7F ∨ (2 : UInt8) > 3) :=
    not_or.mpr ⟨UInt8.not_lt.mpr htype, by decide⟩
  have hcount : ¬ (0 : Nat) > 15 := by decide
  refine ⟨_, (if_neg hcount).trans ((if_neg hallowed).trans (if_neg Bool.false_ne_true)), ?_⟩
  simp only [new, extensionBytes, paddingBytes, List.length_cons, List.length_append, u16ToBe,
    u32ToBe, length_natToBe, List.flatMap_nil, List.length_nil, ne_eq, not_true_eq_false, if_false]
  omega

end MediaPacket

end Bumble.Rtp
