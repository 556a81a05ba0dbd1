import Bumble.BitOctets
import Bumble.CheckedRun

/-!
# AAC in LATM (`bumble-codecs/src/lib.rs`)

An audio mux element is a row of bits: the configuration of the stream, the size of the
payload and the payload.  The reader is at a bit position of a string of octets.  Lengths
and positions are natural numbers; the length of other data is checked for an overflow of
`usize`, and the checks that only a string of 2^61 octets could fail are left out.
-/

namespace Bumble.Codecs

inductive Error where
  | invalidArgument (what : String)
  | invalidPacket (what : String)
  | unsupported (what : String)
  | valueTooLarge
deriving DecidableEq, Repr

/-! ## 1. The bit reader -/

abbrev BitReader := ReaderT Bytes (StateT Nat (Except Error))

namespace BitReader

/-- The bits from a position on, behind those that have been read. -/
def readLoop (data : Bytes) : Nat → Nat → UInt32 → UInt32
  | 0, _, value => value
  | bits + 1, position, value =>
    readLoop data bits (position + 1) (value <<< 1 ||| if bitAt data position then 1 else 0)

def read (bits : Nat) : BitReader UInt32 := fun data position =>
  if bits > 32 then .error (.invalidArgument "maximum read size is 32")
  else if bits > data.length * 8 - position then
    .error (.invalidArgument "trying to read past the data")
  else .ok (readLoop data bits position 0, position + bits)

/-- `read(bits)? as u8`. -/
def readU8 (bits : Nat) : BitReader UInt8 := do
  let value ← read bits
  pure (UInt8.ofNat value.toNat)

def readOctets : Nat → BitReader Bytes
  | 0 => pure []
  | count + 1 => do
    let octet ← readU8 8
    let later ← readOctets count
    pure (octet :: later)

def readBytes (count : Nat) : BitReader Bytes := fun data position =>
  if count * 8 > data.length * 8 - position then .error (.invalidArgument "not enough data")
  else if position % 8 = 0 then
    .ok ((data.drop (position / 8)).take count, position + count * 8)
  else readOctets count data position

def skipLoop : Nat → Nat → BitReader Unit
  | 0, _ => pure ()
  | rounds + 1, bits =>
    if bits ≠ 0 then do
      let _ ← read (min bits 32)
      skipLoop rounds (bits - min bits 32)
    else pure ()

def skip (bits : Nat) : BitReader Unit := skipLoop bits bits

def fail {α : Type} (error : Error) : BitReader α := fun _ _ => .error error

/-- Bits that are there on a condition and are not looked at. -/
def readIf (condition : Bool) (bits : Nat) : BitReader Unit :=
  if condition then do
    let _ ← read bits
    pure ()
  else pure ()

def rejectIf (condition : Bool) (error : Error) : BitReader Unit :=
  if condition then fail error else pure ()

/-- To the end of an octet, which is seven bits away at most. -/
def alignLoop : Nat → BitReader Unit
  | 0 => pure ()
  | rounds + 1 => do
    let position ← get
    if position % 8 ≠ 0 then do
      let _ ← read 1
      alignLoop rounds
    else pure ()

def align : BitReader Unit := alignLoop 7

end BitReader

/-! ## 2. The bit writer -/

structure BitWriter where
  bytes : Bytes
  bitCount : Nat

namespace BitWriter

def new : BitWriter := ⟨[], 0⟩

def writeBit (writer : BitWriter) (bit : Bool) : BitWriter :=
  let bytes := if writer.bitCount % 8 = 0 then writer.bytes ++ [0] else writer.bytes
  ⟨orBit bytes (bytes.length - 1) (writer.bitCount % 8) bit, writer.bitCount + 1⟩

def writeLoop (value : UInt32) : Nat → BitWriter → BitWriter
  | 0, writer => writer
  | shift + 1, writer => writeLoop value shift (writer.writeBit (value.toNat.testBit shift))

end BitWriter

abbrev WriteBits := StateT BitWriter (Except Error)

namespace WriteBits

def write (value : UInt32) (bitCount : Nat) : WriteBits Unit := fun writer =>
  if bitCount > 32 then .error (.invalidArgument "maximum write size is 32")
  else if bitCount < 32 ∧ value.toNat ≥ 2 ^ bitCount then
    .error (.invalidArgument "value does not fit bit count")
  else .ok ((), BitWriter.writeLoop value bitCount writer)

def writeBytes : Bytes → WriteBits Unit
  | [] => pure ()
  | octet :: later => do
    write octet.toUInt32 8
    writeBytes later

def fail (error : Error) : WriteBits Unit := fun _ => .error error

end WriteBits

open BitReader WriteBits

/-! ## 3. The configuration of a decoder -/

structure GaSpecificConfig where
  audioObjectType : UInt8
deriving DecidableEq, Repr

namespace GaSpecificConfig

def extensionFromBits (audioObjectType : UInt8) : BitReader Unit := do
  readIf (audioObjectType = 22) 5
  let _ ← read 11
  let resilience : Bool := audioObjectType ∈ ([17, 19, 20, 23] : List UInt8)
  readIf resilience 1
  readIf resilience 1
  readIf resilience 1
  let extensionFlag3 ← read 1
  rejectIf (extensionFlag3 ≠ 0) (.unsupported "extensionFlag3")

def fromBits (channelConfiguration audioObjectType : UInt8) : BitReader GaSpecificConfig := do
  let _ ← read 1
  let dependsOnCoreCoder ← read 1
  readIf (dependsOnCoreCoder ≠ 0) 14
  let extensionFlag ← read 1
  rejectIf (channelConfiguration = 0) (.unsupported "program_config_element")
  readIf (audioObjectType = 6 ∨ audioObjectType = 20) 3
  if extensionFlag ≠ 0 then extensionFromBits audioObjectType else pure ()
  pure ⟨audioObjectType⟩

def toBits (config : GaSpecificConfig) : WriteBits Unit := do
  if config.audioObjectType ≠ 1 ∧ config.audioObjectType ≠ 2 then
    WriteBits.fail (.unsupported "GA audio object type")
  else do
    write 0 1
    write 0 1
    write 0 1

end GaSpecificConfig

structure AudioSpecificConfig where
  audioObjectType : UInt8
  samplingFrequencyIndex : UInt8
  samplingFrequency : UInt32
  channelConfiguration : UInt8
  gaSpecificConfig : GaSpecificConfig
  sbrPresentFlag : Bool
  psPresentFlag : Bool
  extensionAudioObjectType : UInt8
  extensionSamplingFrequencyIndex : UInt8
  extensionSamplingFrequency : UInt32
  extensionChannelConfiguration : UInt8
deriving DecidableEq, Repr

namespace AudioSpecificConfig

def samplingFrequencies : List UInt32 :=
  [96000, 88200, 64000, 48000, 44100, 32000, 24000, 22050, 16000, 12000, 11025, 8000, 7350]

def forSimpleAac (audioObjectType : UInt8) (samplingFrequency : UInt32)
    (channelConfiguration : UInt8) : Except Error AudioSpecificConfig :=
  match samplingFrequencies.idxOf? samplingFrequency with
  | some index =>
    .ok
      { audioObjectType := audioObjectType
        samplingFrequencyIndex := UInt8.ofNat index
        samplingFrequency := samplingFrequency
        channelConfiguration := channelConfiguration
        gaSpecificConfig := ⟨audioObjectType⟩
        sbrPresentFlag := false
        psPresentFlag := false
        extensionAudioObjectType := 0
        extensionSamplingFrequencyIndex := 0
        extensionSamplingFrequency := 0
        extensionChannelConfiguration := 0 }
  | none => .error (.invalidArgument "invalid sampling frequency")

def readAudioObjectType : BitReader UInt8 := do
  let value ← readU8 5
  if value = 31 then do
    let extension ← readU8 6
    pure (32 + extension)
  else pure value

def readSamplingFrequency (index : UInt8) : BitReader UInt32 :=
  if index = 0x0F then read 24
  else
    match samplingFrequencies[index.toNat]? with
    | some frequency => pure frequency
    | none => BitReader.fail (.invalidPacket "sampling frequency index")

/-- What an object type of a bandwidth extension says about the stream under it. -/
structure ExtensionConfig where
  audioObjectType : UInt8
  sbrPresentFlag : Bool
  psPresentFlag : Bool
  extensionAudioObjectType : UInt8
  extensionSamplingFrequencyIndex : UInt8
  extensionSamplingFrequency : UInt32
  extensionChannelConfiguration : UInt8

def readExtensionChannels (audioObjectType : UInt8) : BitReader UInt8 :=
  if audioObjectType = 22 then readU8 4 else pure 0

def readExtension (audioObjectType : UInt8) : BitReader ExtensionConfig :=
  if audioObjectType = 5 ∨ audioObjectType = 29 then do
    let index ← readU8 4
    let frequency ← readSamplingFrequency index
    let inner ← readAudioObjectType
    let channels ← readExtensionChannels inner
    pure ⟨inner, true, audioObjectType = 29, 5, index, frequency, channels⟩
  else pure ⟨audioObjectType, false, false, 0, 0, 0, 0⟩

def supportedObjectTypes : List UInt8 := [1, 2, 3, 4, 6, 7, 17, 19, 20, 21, 22, 23]

def fromBits : BitReader AudioSpecificConfig := do
  let objectType ← readAudioObjectType
  let index ← readU8 4
  let frequency ← readSamplingFrequency index
  let channels ← readU8 4
  let extension ← readExtension objectType
  rejectIf (extension.audioObjectType ∉ supportedObjectTypes) (.unsupported "audio object type")
  let gaSpecificConfig ← GaSpecificConfig.fromBits channels extension.audioObjectType
  pure
    { audioObjectType := extension.audioObjectType
      samplingFrequencyIndex := index
      samplingFrequency := frequency
      channelConfiguration := channels
      gaSpecificConfig := gaSpecificConfig
      sbrPresentFlag := extension.sbrPresentFlag
      psPresentFlag := extension.psPresentFlag
      extensionAudioObjectType := extension.extensionAudioObjectType
      extensionSamplingFrequencyIndex := extension.extensionSamplingFrequencyIndex
      extensionSamplingFrequency := extension.extensionSamplingFrequency
      extensionChannelConfiguration := extension.extensionChannelConfiguration }

def toBits (config : AudioSpecificConfig) : WriteBits Unit := do
  if config.samplingFrequencyIndex ≥ 15 then
    WriteBits.fail (.unsupported "sampling frequency index")
  else if config.audioObjectType ≠ 1 ∧ config.audioObjectType ≠ 2 then
    WriteBits.fail (.unsupported "audio object type")
  else do
    write config.audioObjectType.toUInt32 5
    write config.samplingFrequencyIndex.toUInt32 4
    write config.channelConfiguration.toUInt32 4
    config.gaSpecificConfig.toBits

end AudioSpecificConfig

/-! ## 4. The configuration of a stream -/

structure StreamMuxConfig where
  otherDataPresent : Bool
  otherDataLenBits : Nat
  audioSpecificConfig : AudioSpecificConfig
deriving DecidableEq, Repr

namespace StreamMuxConfig

def latmValueLoop : Nat → Nat → BitReader Nat
  | 0, value => pure value
  | rounds + 1, value => do
    let octet ← read 8
    latmValueLoop rounds (value * 256 + octet.toNat)

/-- A value of one to four octets, after their number. -/
def readLatmValue : BitReader Nat := do
  let bytesForValue ← read 2
  latmValueLoop (bytesForValue.toNat + 1) 0

/-- The decoder configuration of the newer version stands behind its length. -/
def measuredConfig : BitReader AudioSpecificConfig := do
  let length ← readLatmValue
  let marker ← get
  let config ← AudioSpecificConfig.fromBits
  let position ← get
  rejectIf (length < position - marker) (.invalidPacket "audio specific config length")
  skip (length - (position - marker))
  pure config

/-- The number of bits of other data, in octets that each say whether another one follows; a
    round takes nine bits. -/
def otherDataLoop : Nat → Nat → BitReader Nat
  | 0, _ => BitReader.fail (.invalidArgument "trying to read past the data")
  | rounds + 1, length => do
    rejectIf (length * 256 > Run.usizeMax) .valueTooLarge
    let more ← read 1
    let octet ← read 8
    rejectIf (length * 256 + octet.toNat > Run.usizeMax) .valueTooLarge
    if more ≠ 0 then otherDataLoop rounds (length * 256 + octet.toNat)
    else pure (length * 256 + octet.toNat)

def readOtherDataLength (version : UInt32) : BitReader Nat :=
  if version = 1 then readLatmValue
  else fun data position => otherDataLoop (data.length * 8) 0 data position

def readFrameLengthType : BitReader Unit := do
  let frameLengthType ← read 3
  if frameLengthType = 0 then readIf true 8
  else if frameLengthType = 1 then readIf true 9
  else BitReader.fail (.unsupported "frame length type")

/-- The second part of the version, and the buffer fullness that comes with it. -/
def readVersionA (version : UInt32) : BitReader Unit :=
  if version = 1 then do
    let versionA ← read 1
    rejectIf (versionA ≠ 0) (.unsupported "audioMuxVersionA")
    let _ ← readLatmValue
    pure ()
  else pure ()

def fromBits : BitReader StreamMuxConfig := do
  let version ← read 1
  readVersionA version
  let _ ← read 1
  let _ ← read 6
  let numProgram ← read 4
  rejectIf (numProgram ≠ 0) (.unsupported "num_program")
  let numLayer ← read 3
  rejectIf (numLayer ≠ 0) (.unsupported "num_layer")
  let config ← if version = 0 then AudioSpecificConfig.fromBits else measuredConfig
  readFrameLengthType
  let otherDataPresent ← read 1
  let otherDataLenBits ←
    if otherDataPresent ≠ 0 then readOtherDataLength version else pure 0
  let crcCheckPresent ← read 1
  readIf (crcCheckPresent ≠ 0) 8
  pure ⟨otherDataPresent ≠ 0, otherDataLenBits, config⟩

def toBits (config : StreamMuxConfig) : WriteBits Unit := do
  write 0 1
  write 1 1
  write 0 6
  write 0 4
  write 0 3
  config.audioSpecificConfig.toBits
  write 0 3
  write 0 8
  write 0 1
  write 0 1

end StreamMuxConfig

/-! ## 5. The element -/

structure AudioMuxElement where
  streamMuxConfig : StreamMuxConfig
  payload : Bytes
deriving DecidableEq, Repr

namespace AudioMuxElement

/-- The size of the payload: octets that are added up, up to the first that is not 255. -/
def slotLengthLoop : Nat → Nat → BitReader Nat
  | 0, _ => BitReader.fail (.invalidArgument "trying to read past the data")
  | rounds + 1, length => do
    let value ← read 8
    if value ≠ 255 then pure (length + value.toNat)
    else slotLengthLoop rounds (length + value.toNat)

def readSlotLength : BitReader Nat := fun data position =>
  slotLengthLoop (data.length + 1) 0 data position

def fromBits : BitReader AudioMuxElement := do
  let useSameStreamMux ← read 1
  rejectIf (useSameStreamMux ≠ 0) (.unsupported "useSameStreamMux")
  let streamMuxConfig ← StreamMuxConfig.fromBits
  let length ← readSlotLength
  let payload ← readBytes length
  if streamMuxConfig.otherDataPresent then skip streamMuxConfig.otherDataLenBits else pure ()
  align
  pure ⟨streamMuxConfig, payload⟩

/-- The size is written in as many octets of 255 as go into it, and the rest; a rest of 255
    is closed with a zero. -/
def writeSlotLength (length : Nat) : WriteBits Unit :=
  if length > 255 then do
    write 255 8
    writeSlotLength (length - 255)
  else do
    write (UInt32.ofNat length) 8
    if length = 255 then write 0 8 else pure ()
termination_by length

def toBits (element : AudioMuxElement) : WriteBits Unit := do
  write 0 1
  element.streamMuxConfig.toBits
  writeSlotLength element.payload.length
  writeBytes element.payload

end AudioMuxElement

structure AacAudioRtpPacket where
  audioMuxElement : AudioMuxElement
deriving DecidableEq, Repr

namespace AacAudioRtpPacket

def fromBytes (data : Bytes) : Except Error AacAudioRtpPacket := do
  let (element, _) ← AudioMuxElement.fromBits data 0
  pure ⟨element⟩

def forSimpleAac (samplingFrequency : UInt32) (channelConfiguration : UInt8) (payload : Bytes) :
    Except Error AacAudioRtpPacket := do
  let config ← AudioSpecificConfig.forSimpleAac 2 samplingFrequency channelConfiguration
  pure ⟨⟨⟨false, 0, config⟩, payload⟩⟩

def toBytes (packet : AacAudioRtpPacket) : Except Error Bytes := do
  let (_, writer) ← packet.audioMuxElement.toBits BitWriter.new
  pure writer.bytes

def toAdts (packet : AacAudioRtpPacket) : Except Error Bytes :=
  let config := packet.audioMuxElement.streamMuxConfig.audioSpecificConfig
  let frameSize := packet.audioMuxElement.payload.length + 7
  if frameSize > 0x1FFF then .error .valueTooLarge
  else
    let channel := config.channelConfiguration
    .ok (([0xFF, 0xF1,
      (0x40 : UInt8) ||| config.samplingFrequencyIndex <<< 2 ||| channel >>> 2,
      (channel &&& 3) <<< 6 ||| UInt8.ofNat (frameSize / 2048),
      UInt8.ofNat (frameSize / 8 % 256),
      UInt8.ofNat (frameSize * 32 % 256) ||| (0x1F : UInt8),
      0xFC] : Bytes) ++ packet.audioMuxElement.payload)

end AacAudioRtpPacket

end Bumble.Codecs
