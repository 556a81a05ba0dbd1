import Bumble.ByteOrder

/-!
# RFCOMM frames and control messages (`bumble-rfcomm/src/lib.rs`)

The frames a multiplexer exchanges with its peer, their octets and check
sequence, and the two control messages that travel inside frames on DLCI 0:
parameter negotiation and modem status.
-/

namespace Bumble.Rfcomm

/-! ## 1. Errors and constants -/

inductive Error where
  | invalidPacket (message : String)
  | invalidArgument (message : String)
deriving DecidableEq, Repr

def truncated (what : String) : Error :=
  .invalidPacket s!"truncated: expected more bytes for {what}"

/-- An octet as the format `0x{:02X}` writes it. -/
def hexOctet (value : UInt8) : String :=
  let digits := (Nat.toDigits 16 value.toNat).map Char.toUpper
  "0x" ++ String.ofList (List.replicate (2 - digits.length) '0' ++ digits)

def rfcommDefaultMaxCredits : UInt8 := 32
def rfcommDefaultRxQueueSize : Nat := 32

/-! ## 2. Frames -/

inductive FrameType where
  | sabm
  | ua
  | dm
  | disc
  | uih
  | ui
deriving DecidableEq, Repr

namespace FrameType

/-- The control-field code, with the P/F bit cleared. -/
def value : FrameType → UInt8
  | sabm => 0x2F
  | ua => 0x63
  | dm => 0x0F
  | disc => 0x43
  | uih => 0xEF
  | ui => 0x03

def fromCode (code : UInt8) : Except Error FrameType :=
  if code = 0x2F then .ok .sabm
  else if code = 0x63 then .ok .ua
  else if code = 0x0F then .ok .dm
  else if code = 0x43 then .ok .disc
  else if code = 0xEF then .ok .uih
  else if code = 0x03 then .ok .ui
  else .error (.invalidPacket s!"unknown RFCOMM frame type {hexOctet code}")

end FrameType

structure RfcommFrame where
  frameType : FrameType
  /-- Command/response bit. -/
  cR : Bool
  dlci : UInt8
  /-- Poll/final bit; on a UIH frame it says that the first octet is a grant. -/
  pF : Bool
  information : Bytes
  withCredits : Bool
deriving DecidableEq, Repr

namespace RfcommFrame

def controlFrame (frameType : FrameType) (cR : Bool) (dlci : UInt8) : RfcommFrame :=
  ⟨frameType, cR, dlci, true, [], false⟩

def sabm (cR : Bool) (dlci : UInt8) : RfcommFrame := controlFrame .sabm cR dlci
def ua (cR : Bool) (dlci : UInt8) : RfcommFrame := controlFrame .ua cR dlci
def dm (cR : Bool) (dlci : UInt8) : RfcommFrame := controlFrame .dm cR dlci
def disc (cR : Bool) (dlci : UInt8) : RfcommFrame := controlFrame .disc cR dlci

def uih (cR : Bool) (dlci : UInt8) (information : Bytes) (pF : Bool) : RfcommFrame :=
  ⟨.uih, cR, dlci, pF, information, pF⟩

end RfcommFrame

/-! ## 3. Octets -/

def crcTable : List UInt8 := [
  0x00, 0x91, 0xE3, 0x72, 0x07, 0x96, 0xE4, 0x75,
  0x0E, 0x9F, 0xED, 0x7C, 0x09, 0x98, 0xEA, 0x7B,
  0x1C, 0x8D, 0xFF, 0x6E, 0x1B, 0x8A, 0xF8, 0x69,
  0x12, 0x83, 0xF1, 0x60, 0x15, 0x84, 0xF6, 0x67,
  0x38, 0xA9, 0xDB, 0x4A, 0x3F, 0xAE, 0xDC, 0x4D,
  0x36, 0xA7, 0xD5, 0x44, 0x31, 0xA0, 0xD2, 0x43,
  0x24, 0xB5, 0xC7, 0x56, 0x23, 0xB2, 0xC0, 0x51,
  0x2A, 0xBB, 0xC9, 0x58, 0x2D, 0xBC, 0xCE, 0x5F,
  0x70, 0xE1, 0x93, 0x02, 0x77, 0xE6, 0x94, 0x05,
  0x7E, 0xEF, 0x9D, 0x0C, 0x79, 0xE8, 0x9A, 0x0B,
  0x6C, 0xFD, 0x8F, 0x1E, 0x6B, 0xFA, 0x88, 0x19,
  0x62, 0xF3, 0x81, 0x10, 0x65, 0xF4, 0x86, 0x17,
  0x48, 0xD9, 0xAB, 0x3A, 0x4F, 0xDE, 0xAC, 0x3D,
  0x46, 0xD7, 0xA5, 0x34, 0x41, 0xD0, 0xA2, 0x33,
  0x54, 0xC5, 0xB7, 0x26, 0x53, 0xC2, 0xB0, 0x21,
  0x5A, 0xCB, 0xB9, 0x28, 0x5D, 0xCC, 0xBE, 0x2F,
  0xE0, 0x71, 0x03, 0x92, 0xE7, 0x76, 0x04, 0x95,
  0xEE, 0x7F, 0x0D, 0x9C, 0xE9, 0x78, 0x0A, 0x9B,
  0xFC, 0x6D, 0x1F, 0x8E, 0xFB, 0x6A, 0x18, 0x89,
  0xF2, 0x63, 0x11, 0x80, 0xF5, 0x64, 0x16, 0x87,
  0xD8, 0x49, 0x3B, 0xAA, 0xDF, 0x4E, 0x3C, 0xAD,
  0xD6, 0x47, 0x35, 0xA4, 0xD1, 0x40, 0x32, 0xA3,
  0xC4, 0x55, 0x27, 0xB6, 0xC3, 0x52, 0x20, 0xB1,
  0xCA, 0x5B, 0x29, 0xB8, 0xCD, 0x5C, 0x2E, 0xBF,
  0x90, 0x01, 0x73, 0xE2, 0x97, 0x06, 0x74, 0xE5,
  0x9E, 0x0F, 0x7D, 0xEC, 0x99, 0x08, 0x7A, 0xEB,
  0x8C, 0x1D, 0x6F, 0xFE, 0x8B, 0x1A, 0x68, 0xF9,
  0x82, 0x13, 0x61, 0xF0, 0x85, 0x14, 0x66, 0xF7,
  0xA8, 0x39, 0x4B, 0xDA, 0xAF, 0x3E, 0x4C, 0xDD,
  0xA6, 0x37, 0x45, 0xD4, 0xA1, 0x30, 0x42, 0xD3,
  0xB4, 0x25, 0x57, 0xC6, 0xB3, 0x22, 0x50, 0xC1,
  0xBA, 0x2B, 0x59, 0xC8, 0xBD, 0x2C, 0x5E, 0xCF]

/-- The check sequence over a buffer; the table has an entry for every octet. -/
def computeFcs (buffer : Bytes) : UInt8 :=
  0xFF - buffer.foldl (fun result byte => crcTable.getD (result ^^^ byte).toNat 0) 0xFF

namespace RfcommFrame

def address (frame : RfcommFrame) : UInt8 :=
  (frame.dlci <<< 2) ||| (frame.cR.toUInt8 <<< 1) ||| 1

def control (frame : RfcommFrame) : UInt8 := frame.frameType.value ||| (frame.pF.toUInt8 <<< 4)

def lengthField (frame : RfcommFrame) : Except Error Bytes :=
  -- the credit octet is not part of the length
  if frame.withCredits ∧ frame.information.length = 0 then
    .error (.invalidArgument
      "credit-bearing frame needs an information octet for the credit count")
  else
    let length := frame.information.length - frame.withCredits.toNat
    if length > 0x7F then
      .ok [UInt8.ofNat ((length &&& 0x7F) <<< 1), UInt8.ofNat ((length >>> 7) &&& 0xFF)]
    else .ok [UInt8.ofNat ((length <<< 1) ||| 1)]

/-- Over the address and the control octet, and the length except for UIH. -/
def fcs (frame : RfcommFrame) : Except Error UInt8 :=
  if frame.frameType = .uih then .ok (computeFcs [frame.address, frame.control])
  else do
    let length ← frame.lengthField
    return computeFcs ([frame.address, frame.control] ++ length)

def toBytes (frame : RfcommFrame) : Except Error Bytes := do
  let length ← frame.lengthField
  let fcs ← frame.fcs
  return [frame.address, frame.control] ++ length ++ frame.information ++ [fcs]

/-- The information lies between the length indicator and the last octet; the
    value of the length is not looked at. -/
def fromBytes : Bytes → Except Error RfcommFrame
  | address :: control :: length :: octet :: rest => do
    let frameType ← FrameType.fromCode (control &&& 0xEF)
    let information ←
      if length &&& 1 ≠ 0 then pure (octet :: rest).dropLast
      else if rest.isEmpty then .error (truncated "rfcomm frame 2-byte length")
      else pure rest.dropLast
    let fcs := rest.getLastD octet
    let frame : RfcommFrame := {
      frameType
      cR := (address >>> 1) &&& 1 ≠ 0
      dlci := (address >>> 2) &&& 0x3F
      pF := (control >>> 4) &&& 1 ≠ 0
      information
      withCredits := false }
    let expected ← frame.fcs
    if expected ≠ fcs then
      .error (.invalidPacket
        s!"fcs mismatch: got {hexOctet fcs}, expected {hexOctet expected}")
    else return frame
  | _ => .error (truncated "rfcomm frame")

end RfcommFrame

/-! ## 4. The control channel -/

inductive MccType where
  | pn
  | msc
deriving DecidableEq, Repr

def MccType.value : MccType → UInt8
  | pn => 0x20
  | msc => 0x38

def makeMcc (mccType : MccType) (cR : Bool) (data : Bytes) : Bytes :=
  [(mccType.value <<< 2) ||| (cR.toUInt8 <<< 1) ||| 1,
    ((UInt8.ofNat data.length &&& 0x7F) <<< 1) ||| 1] ++ data

def parseMcc : Bytes → Except Error (UInt8 × Bool × Bytes)
  | header :: _ :: value => .ok (header >>> 2, (header >>> 1) &&& 1 ≠ 0, value)
  | _ => .error (truncated "mcc header")

structure RfcommMccPn where
  dlci : UInt8
  cl : UInt8
  priority : UInt8
  ackTimer : UInt8
  maxFrameSize : UInt16
  maxRetransmissions : UInt8
  /-- Only the low three bits travel. -/
  initialCredits : UInt8
deriving DecidableEq, Repr

namespace RfcommMccPn

def toBytes (pn : RfcommMccPn) : Bytes :=
  [pn.dlci, pn.cl, pn.priority, pn.ackTimer] ++ u16ToLe pn.maxFrameSize ++
    [pn.maxRetransmissions, pn.initialCredits &&& 0x07]

def fromBytes : Bytes → Except Error RfcommMccPn
  | dlci :: cl :: priority :: ackTimer :: low :: high :: maxRetransmissions :: credits :: _ =>
    .ok ⟨dlci, cl, priority, ackTimer, u16FromLe low high, maxRetransmissions, credits &&& 0x07⟩
  | _ => .error (truncated "mcc pn")

end RfcommMccPn

structure RfcommMccMsc where
  dlci : UInt8
  fc : Bool
  rtc : Bool
  rtr : Bool
  ic : Bool
  dv : Bool
deriving DecidableEq, Repr

namespace RfcommMccMsc

def toBytes (msc : RfcommMccMsc) : Bytes :=
  [(msc.dlci <<< 2) ||| 3,
    (1 : UInt8) ||| (msc.fc.toUInt8 <<< 1) ||| (msc.rtc.toUInt8 <<< 2) |||
    (msc.rtr.toUInt8 <<< 3) |||
      (msc.ic.toUInt8 <<< 6) ||| (msc.dv.toUInt8 <<< 7)]

def fromBytes : Bytes → Except Error RfcommMccMsc
  | address :: signals :: _ =>
    .ok ⟨address >>> 2, (signals >>> 1) &&& 1 ≠ 0, (signals >>> 2) &&& 1 ≠ 0,
      (signals >>> 3) &&& 1 ≠ 0, (signals >>> 6) &&& 1 ≠ 0, (signals >>> 7) &&& 1 ≠ 0⟩
  | _ => .error (truncated "mcc msc")

end RfcommMccMsc

/-! ## 5. What arrives of a message -/

theorem parseMcc_makeMcc (mccType : MccType) (cR : Bool) (data : Bytes) :
    parseMcc (makeMcc mccType cR data) = .ok (mccType.value, cR, data) := by
  cases mccType <;> cases cR <;> rfl

theorem RfcommMccPn.fromBytes_toBytes (pn : RfcommMccPn) :
    fromBytes pn.toBytes = .ok { pn with initialCredits := pn.initialCredits &&& 0x07 } := by
  simp [toBytes, fromBytes, u16ToLe, u16FromLe_toLe, UInt8.and_assoc]

end Bumble.Rfcomm
