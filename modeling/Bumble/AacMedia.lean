import Bumble.BitOctets
import Bumble.SbcMedia

/-!
# AAC frames (`bumble-a2dp/src/media.rs`)

The parser of ADTS frames, and a writer of simple LATM elements that has a bit writer of its
own.
-/

namespace Bumble.A2dp

/-- The frequencies by their indices; the last three are reserved. -/
def adtsAacSamplingFrequencies : List UInt32 :=
  [96000, 88200, 64000, 48000, 44100, 32000, 24000, 22050, 16000, 12000, 11025, 8000, 7350, 0, 0, 0]

inductive AacProfile where
  | main
  | lowComplexity
  | scalableSampleRate
  | longTermPrediction
deriving DecidableEq, Repr

def AacProfile.fromBits (value : UInt8) : AacProfile :=
  match (value &&& 3).toNat with
  | 0 => main
  | 1 => lowComplexity
  | 2 => scalableSampleRate
  | _ => longTermPrediction

structure AacFrame where
  profile : AacProfile
  samplingFrequency : UInt32
  channelConfiguration : UInt8
  /-- The access unit, without the header. -/
  payload : Bytes
deriving DecidableEq, Repr

namespace AacFrame

def frameLength (first second third : UInt8) : Nat :=
  (first &&& 3).toNat * 2048 ||| second.toNat * 8 ||| (third >>> 5).toNat

def parse (data : Bytes) : Except Error (AacFrame × Nat) :=
  match data with
  | sync :: layer :: flags :: first :: second :: third :: _ :: _ =>
    if sync ≠ 0xFF ∨ layer >>> 4 ≠ 0x0F then .error (.invalid "ADTS sync word")
    else if layer >>> 1 &&& 3 ≠ 0 then .error (.invalid "ADTS layer")
    else
      let samplingFrequency :=
        adtsAacSamplingFrequencies.getD (flags >>> 2 &&& 0x0F).toNat 0
      if samplingFrequency = 0 then .error (.invalid "ADTS sampling frequency")
      else
        let length := frameLength first second third
        if length < 7 then .error (.invalid "ADTS frame length")
        else if length > data.length then .error (.truncated "ADTS frame payload")
        else
          .ok ({ profile := AacProfile.fromBits (flags >>> 6)
                 samplingFrequency := samplingFrequency
                 channelConfiguration := (flags &&& 1) <<< 2 ||| first >>> 6
                 payload := (data.take length).drop 7 }, length)
  | _ => .error (.truncated "ADTS header")

end AacFrame

/-! ## 1. The bit writer -/

structure BitWriter where
  bytes : Bytes
  bitLen : Nat

namespace BitWriter

def new : BitWriter := ⟨[], 0⟩

def writeBit (writer : BitWriter) (bit : Bool) : BitWriter :=
  let bytes := if writer.bitLen % 8 = 0 then writer.bytes ++ [0] else writer.bytes
  ⟨orBit bytes (writer.bitLen / 8) (writer.bitLen % 8) bit, writer.bitLen + 1⟩

def write (writer : BitWriter) (value : UInt32) : Nat → BitWriter
  | 0 => writer
  | shift + 1 => (writer.writeBit (value.toNat.testBit shift)).write value shift

def writeBytes (writer : BitWriter) (data : Bytes) : BitWriter :=
  data.foldl (fun writer octet => writer.write octet.toUInt32 8) writer

def writeLength (writer : BitWriter) (remaining : Nat) : BitWriter :=
  if remaining > 255 then (writer.write 255 8).writeLength (remaining - 255)
  else
    let writer := writer.write (UInt32.ofNat remaining) 8
    if remaining = 255 then writer.write 0 8 else writer
termination_by remaining

end BitWriter

/-! ## 2. The element -/

/-- The audio mux element of a frame; its object type is always that of AAC-LC. -/
def simpleAacLatm (frame : AacFrame) : Except Error Bytes :=
  match adtsAacSamplingFrequencies.idxOf? frame.samplingFrequency with
  | some frequencyIndex =>
    let audioObjectType : UInt32 := 2
    let writer := BitWriter.new
    let writer := writer.write 0 1
    let writer := writer.write 0 1
    let writer := writer.write 1 1
    let writer := writer.write 0 6
    let writer := writer.write 0 4
    let writer := writer.write 0 3
    let writer := writer.write audioObjectType 5
    let writer := writer.write (UInt32.ofNat frequencyIndex) 4
    let writer := writer.write frame.channelConfiguration.toUInt32 4
    let writer := writer.write 0 1
    let writer := writer.write 0 1
    let writer := writer.write 0 1
    let writer := writer.write 0 3
    let writer := writer.write 0 8
    let writer := writer.write 0 1
    let writer := writer.write 0 1
    let writer := writer.writeLength frame.payload.length
    .ok (writer.writeBytes frame.payload).bytes
  | none => .error (.invalid "AAC sampling frequency")

end Bumble.A2dp
