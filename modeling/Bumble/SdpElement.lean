import Bumble.AttPdu
import Bumble.OctetReader
import Bumble.Outcome

/-!
# SDP data elements (`bumble-sdp/src/lib.rs`)

A data element is a header octet with a type and a size index, length octets for the sizes
that need them, and a value, which for sequences and alternatives is a row of elements.
The parser works with offsets into one string of octets.
-/

namespace Bumble.Sdp

inductive Error where
  | invalidPacket (text : String)
  | invalidArgument (text : String)
deriving DecidableEq, Repr

def truncated (what : String) : Error :=
  .invalidPacket s!"truncated: expected more bytes for {what}"

/-- How deep containers may be nested when they are parsed. -/
def maxNesting : Nat := 32

namespace TypeCode

@[match_pattern] def nil : UInt8 := 0
@[match_pattern] def unsignedInteger : UInt8 := 1
@[match_pattern] def signedInteger : UInt8 := 2
@[match_pattern] def uuid : UInt8 := 3
@[match_pattern] def textString : UInt8 := 4
@[match_pattern] def boolean : UInt8 := 5
@[match_pattern] def sequence : UInt8 := 6
@[match_pattern] def alternative : UInt8 := 7
@[match_pattern] def url : UInt8 := 8

end TypeCode

/-- The integers have 128 bits, the signed ones in two's complement. -/
inductive DataElement where
  | nil
  | unsignedInteger (value : BitVec 128) (size : UInt8)
  | signedInteger (value : BitVec 128) (size : UInt8)
  | uuid (id : Uuid)
  | textString (bytes : Bytes)
  | boolean (value : Bool)
  | sequence (elements : List DataElement)
  | alternative (elements : List DataElement)
  | url (text : String)
deriving Repr

namespace DataElement

def unsignedInteger16 (value : UInt16) : DataElement :=
  unsignedInteger (BitVec.ofNat 128 value.toNat) 2

def unsignedInteger32 (value : UInt32) : DataElement :=
  unsignedInteger (BitVec.ofNat 128 value.toNat) 4

def typeCode : DataElement → UInt8
  | nil => TypeCode.nil
  | unsignedInteger _ _ => TypeCode.unsignedInteger
  | signedInteger _ _ => TypeCode.signedInteger
  | uuid _ => TypeCode.uuid
  | textString _ => TypeCode.textString
  | boolean _ => TypeCode.boolean
  | sequence _ => TypeCode.sequence
  | alternative _ => TypeCode.alternative
  | url _ => TypeCode.url

/-! ## 1. The encoder -/

def fixedSizeIndex (size : Nat) : Except Error UInt8 :=
  if size = 0 ∨ size = 1 then .ok 0
  else if size = 2 then .ok 1
  else if size = 4 then .ok 2
  else if size = 8 then .ok 3
  else if size = 16 then .ok 4
  else .error (.invalidArgument s!"invalid data size {size}")

def variableSizeHeader (size : Nat) : Except Error (UInt8 × Bytes) :=
  if size ≤ 0xFF then .ok (5, [UInt8.ofNat size])
  else if size ≤ 0xFFFF then .ok (6, natToBe 2 size)
  else if size ≤ 0xFFFFFFFF then .ok (7, natToBe 4 size)
  else .error (.invalidArgument s!"invalid data size {size}")

def integerSizes : List UInt8 := [1, 2, 4, 8, 16]

def unsignedToBytes (value : BitVec 128) (size : UInt8) : Except Error Bytes :=
  if size ∉ integerSizes then .error (.invalidArgument s!"invalid value_size {size}")
  else
    let all := natToBe 16 value.toNat
    let start := 16 - size.toNat
    if (all.take start).any fun octet => octet != 0 then
      .error (.invalidArgument s!"value {value.toNat} does not fit in {size} bytes")
    else .ok (all.drop start)

def signedToBytes (value : BitVec 128) (size : UInt8) : Except Error Bytes :=
  if size ∉ integerSizes then .error (.invalidArgument s!"invalid value_size {size}")
  else
    let bits := size.toNat * 8
    if bits < 128 ∧ (value.toInt < -2 ^ (bits - 1) ∨ value.toInt > 2 ^ (bits - 1) - 1) then
      .error (.invalidArgument s!"value {value.toInt} does not fit in {size} bytes")
    else .ok ((natToBe 16 value.toNat).drop (16 - size.toNat))

/-- The size index and the length octets of an element with a value of the given size. -/
def sizeHeader (element : DataElement) (size : Nat) : Except Error (UInt8 × Bytes) :=
  match element with
  | nil | boolean _ => .ok (0, [])
  | unsignedInteger _ _ | signedInteger _ _ | uuid _ => do
    pure (← fixedSizeIndex size, [])
  | textString _ | sequence _ | alternative _ | url _ => variableSizeHeader size

def framed (element : DataElement) (data : Bytes) : Except Error Bytes := do
  let (sizeIndex, sizeBytes) ← element.sizeHeader data.length
  pure ((element.typeCode <<< 3 ||| sizeIndex) :: (sizeBytes ++ data))

mutual

def valueBytes : DataElement → Except Error Bytes
  | nil => .ok []
  | unsignedInteger value size => unsignedToBytes value size
  | signedInteger value size => signedToBytes value size
  | uuid id => .ok (id.toBytes false).reverse
  | textString bytes => .ok bytes
  | boolean value => .ok [if value then 1 else 0]
  | sequence elements => elementsBytes elements
  | alternative elements => elementsBytes elements
  | url text => .ok (stringBytes text)

/-- The children one after the other, each as `to_bytes` writes it. -/
def elementsBytes : List DataElement → Except Error Bytes
  | [] => .ok []
  | element :: elements => do
    let data ← valueBytes element
    let bytes ← framed element data
    pure (bytes ++ (← elementsBytes elements))

end

def toBytes (element : DataElement) : Except Error Bytes := do
  let data ← element.valueBytes
  framed element data

/-! ## 2. The parser -/

def beToU128 (bytes : Bytes) : BitVec 128 :=
  bytes.foldl (fun acc octet => acc <<< 8 ||| octet.toBitVec.setWidth 128) 0

def beToI128 (bytes : Bytes) : BitVec 128 :=
  match bytes with
  | [] => 0
  | first :: _ =>
    bytes.foldl (fun acc octet => acc <<< 8 ||| octet.toBitVec.setWidth 128)
      (if first &&& 0x80 ≠ 0 then BitVec.allOnes 128 else 0)

def readBe (data : Bytes) (pos count : Nat) (text : String) : Except Error Nat :=
  let octets := (data.drop pos).take count
  if octets.length = count then .ok (beToNat octets) else .error (.invalidPacket text)

/-- Where the value starts and how long it is, from the size index and the octets behind the
    header octet. -/
def parseSize (data : Bytes) (elementType : UInt8) (sizeIndex : UInt8) (pos : Nat) :
    Except Error (Nat × Nat) :=
  match sizeIndex.toNat with
  | 0 => .ok (pos, if elementType = TypeCode.nil then 0 else 1)
  | 1 => .ok (pos, 2)
  | 2 => .ok (pos, 4)
  | 3 => .ok (pos, 8)
  | 4 => .ok (pos, 16)
  | 5 => do
    pure (pos + 1, ← readBe data pos 1 "truncated 1-byte size")
  | 6 => do
    pure (pos + 2, ← readBe data pos 2 "truncated 2-byte size")
  | _ => do
    pure (pos + 4, ← readBe data pos 4 "truncated 4-byte size")

/-- The type of the element at an offset, where its value starts and how long it is. -/
def parseHeader (data : Bytes) (offset : Nat) : Except Error (UInt8 × Nat × Nat) :=
  match data[offset]? with
  | none => .error (.invalidPacket s!"offset {offset} exceeds len {data.length}")
  | some header => do
    let (valueStart, valueSize) ← parseSize data (header >>> 3) (header &&& 7) (offset + 1)
    if valueStart + valueSize ≤ data.length then pure (header >>> 3, valueStart, valueSize)
    else
      .error (.invalidPacket
        s!"element value ({valueSize} bytes at {valueStart}) runs past end")

/-- The loop over the children of a container, for a number of rounds. -/
def parseElements (parse : Nat → Except Error (Nat × DataElement)) (valueEnd : Nat) :
    Nat → Nat → Except Error (Nat × List DataElement)
  | 0, inner => .ok (inner, [])
  | rounds + 1, inner =>
    if inner < valueEnd then do
      let (next, child) ← parse inner
      let (last, children) ← parseElements parse valueEnd rounds next
      pure (last, child :: children)
    else .ok (inner, [])

/-- The children of a container; each takes an octet at least. -/
def parseContainer (parse : Nat → Except Error (Nat × DataElement)) (valueStart valueEnd : Nat) :
    Except Error (List DataElement) := do
  let (inner, elements) ← parseElements parse valueEnd (valueEnd - valueStart) valueStart
  if inner ≠ valueEnd then .error (.invalidPacket "container elements overran their length")
  else pure elements

/-- The octets of a character after its first one: how many have been read when all are there,
    or how many before the one that does not belong, or `none` at the end of the string. -/
def utf8Rest : Nat → UInt8 × UInt8 → Nat → Bytes → Except (Option Nat) Nat
  | 0, _, count, _ => .ok count
  | _ + 1, _, _, [] => .error none
  | missing + 1, (low, high), count, octet :: later =>
    if low ≤ octet ∧ octet ≤ high then utf8Rest missing (0x80, 0xBF) (count + 1) later
    else .error (some count)

def utf8Char (lead : UInt8) (later : Bytes) : Except (Option Nat) Nat :=
  if lead < 0x80 then .ok 1
  else if 0xC2 ≤ lead ∧ lead ≤ 0xDF then utf8Rest 1 (0x80, 0xBF) 1 later
  else if lead = 0xE0 then utf8Rest 2 (0xA0, 0xBF) 1 later
  else if lead = 0xED then utf8Rest 2 (0x80, 0x9F) 1 later
  else if 0xE1 ≤ lead ∧ lead ≤ 0xEF then utf8Rest 2 (0x80, 0xBF) 1 later
  else if lead = 0xF0 then utf8Rest 3 (0x90, 0xBF) 1 later
  else if 0xF1 ≤ lead ∧ lead ≤ 0xF3 then utf8Rest 3 (0x80, 0xBF) 1 later
  else if lead = 0xF4 then utf8Rest 3 (0x80, 0x8F) 1 later
  else .error (some 1)

/-- The text of a `Utf8Error`, for octets that are not a string. -/
def utf8Error : Nat → Nat → Bytes → String
  | rounds + 1, index, lead :: later =>
    match utf8Char lead later with
    | .ok count => utf8Error rounds (index + count) (later.drop (count - 1))
    | .error (some count) => s!"invalid utf-8 sequence of {count} bytes from index {index}"
    | .error none => s!"incomplete utf-8 byte sequence from index {index}"
  | _, _, _ => ""

/-- The element of a type with the given value; the children of a container come from a parser
    of their own. -/
def elementOf (elementType : UInt8) (value : Bytes) (children : Except Error (List DataElement)) :
    Except Error DataElement :=
  match elementType with
  | TypeCode.nil => pure nil
  | TypeCode.unsignedInteger =>
    pure (unsignedInteger (beToU128 value) (UInt8.ofNat value.length))
  | TypeCode.signedInteger => pure (signedInteger (beToI128 value) (UInt8.ofNat value.length))
  | TypeCode.uuid =>
    match Uuid.fromBytes value.reverse with
    | .ok parsed => pure (uuid parsed)
    | .error error => .error (.invalidPacket s!"bad UUID: {error}")
  | TypeCode.textString => pure (textString value)
  | TypeCode.boolean => pure (boolean (value.head? = some 1))
  | TypeCode.sequence => do
    pure (sequence (← children))
  | TypeCode.alternative => do
    pure (alternative (← children))
  | TypeCode.url =>
    match stringFromUtf8 value with
    | some text => pure (url text)
    | none => .error (.invalidPacket s!"bad URL utf-8: {utf8Error value.length 0 value}")
  | other => .error (.invalidPacket s!"unsupported data element type {other}")

/-- `Parser::parse_at`, with the depth that is left for containers. -/
def parseAt (data : Bytes) : Nat → Nat → Except Error (Nat × DataElement)
  | nesting, offset => do
    let (elementType, valueStart, valueSize) ← parseHeader data offset
    let valueEnd := valueStart + valueSize
    let element ← elementOf elementType ((data.drop valueStart).take valueSize)
      (match nesting with
      | 0 => .error (.invalidPacket s!"nesting exceeds max depth ({maxNesting})")
      | nesting + 1 => parseContainer (parseAt data nesting) valueStart valueEnd)
    pure (valueEnd, element)

def parseFromBytes (data : Bytes) (offset : Nat) : Except Error (Nat × DataElement) :=
  parseAt data maxNesting offset

def fromBytes (data : Bytes) : Except Error DataElement := do
  pure (← parseFromBytes data 0).2

end DataElement

end Bumble.Sdp
