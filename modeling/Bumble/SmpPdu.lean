import Bumble.ByteOrder
import Bumble.SmpToolbox

/-!
# SMP protocol data units (`bumble-smp/src/lib.rs`)

The signalling and key distribution PDUs of the Security Manager Protocol and
their codec.  A pairing keeps the octets of its Pairing Request and Response,
because they enter the confirm and check values, and reads the request back
from them.
-/

namespace Bumble.Smp

inductive Error where
  | invalidPacket (message : String)
deriving DecidableEq, Repr

/-! ## 1. Pairing features -/

structure PairingFeatures where
  ioCapability : UInt8
  oobDataFlag : UInt8
  authReq : UInt8
  maximumEncryptionKeySize : UInt8
  initiatorKeyDistribution : UInt8
  responderKeyDistribution : UInt8
deriving DecidableEq, Repr

namespace PairingFeatures

def toPayload (features : PairingFeatures) : Bytes :=
  [features.ioCapability, features.oobDataFlag, features.authReq,
    features.maximumEncryptionKeySize, features.initiatorKeyDistribution,
    features.responderKeyDistribution]

def fromPayload : Bytes → Except Error PairingFeatures
  | p0 :: p1 :: p2 :: p3 :: p4 :: p5 :: _ => .ok ⟨p0, p1, p2, p3, p4, p5⟩
  | _ => .error (.invalidPacket "truncated pairing features")

@[simp] theorem fromPayload_toPayload (features : PairingFeatures) :
    fromPayload features.toPayload = .ok features := rfl

end PairingFeatures

/-! ## 2. The PDUs -/

inductive SmpPdu where
  | pairingRequest (features : PairingFeatures)
  | pairingResponse (features : PairingFeatures)
  | pairingConfirm (confirmValue : Octets 16)
  | pairingRandom (randomValue : Octets 16)
  | pairingFailed (reason : UInt8)
  | pairingPublicKey (publicKeyX publicKeyY : Octets 32)
  | pairingDhKeyCheck (dhkeyCheck : Octets 16)
  | keypressNotification (notificationType : UInt8)
  | encryptionInformation (longTermKey : Octets 16)
  | masterIdentification (ediv : UInt16) (rand : Octets 8)
  | identityInformation (identityResolvingKey : Octets 16)
  | identityAddressInformation (addrType : UInt8) (bdAddr : Octets 6)
  | signingInformation (signatureKey : Octets 16)
  | securityRequest (authReq : UInt8)
  | generic (code : UInt8) (payload : Bytes)
deriving DecidableEq, Repr

namespace SmpPdu

def code : SmpPdu → UInt8
  | pairingRequest _ => 0x01
  | pairingResponse _ => 0x02
  | pairingConfirm _ => 0x03
  | pairingRandom _ => 0x04
  | pairingFailed _ => 0x05
  | encryptionInformation _ => 0x06
  | masterIdentification _ _ => 0x07
  | identityInformation _ => 0x08
  | identityAddressInformation _ _ => 0x09
  | signingInformation _ => 0x0A
  | securityRequest _ => 0x0B
  | pairingPublicKey _ _ => 0x0C
  | pairingDhKeyCheck _ => 0x0D
  | keypressNotification _ => 0x0E
  | generic code _ => code

def payload : SmpPdu → Bytes
  | pairingRequest features => features.toPayload
  | pairingResponse features => features.toPayload
  | pairingConfirm confirmValue => confirmValue.toList
  | pairingRandom randomValue => randomValue.toList
  | pairingFailed reason => [reason]
  | pairingPublicKey publicKeyX publicKeyY => publicKeyX.toList ++ publicKeyY.toList
  | pairingDhKeyCheck dhkeyCheck => dhkeyCheck.toList
  | keypressNotification notificationType => [notificationType]
  | encryptionInformation longTermKey => longTermKey.toList
  | masterIdentification ediv rand => u16ToLe ediv ++ rand.toList
  | identityInformation identityResolvingKey => identityResolvingKey.toList
  | identityAddressInformation addrType bdAddr => addrType :: bdAddr.toList
  | signingInformation signatureKey => signatureKey.toList
  | securityRequest authReq => [authReq]
  | generic _ payload => payload

def toBytes (pdu : SmpPdu) : Bytes := pdu.code :: pdu.payload

/-! ## 3. Decoding -/

def array16 (p : Bytes) : Except Error (Octets 16) :=
  match toArray16 p with
  | some value => .ok value
  | none => .error (.invalidPacket "expected 16-byte value")

/-- Exactly `n` octets from the front of `p`. -/
def take (n : Nat) (p : Bytes) (what : String) : Except Error (Octets n) :=
  if hsize : (p.take n).length = n then .ok ⟨(p.take n).toArray, by simpa using hsize⟩
  else .error (.invalidPacket ("truncated " ++ what))

def firstOctet (p : Bytes) (what : String) : Except Error UInt8 :=
  match p.head? with
  | some octet => .ok octet
  | none => .error (.invalidPacket ("truncated " ++ what))

def fromBytes : Bytes → Except Error SmpPdu
  | [] => .error (.invalidPacket "empty SMP PDU")
  | code :: payload =>
    if code = 0x01 then (PairingFeatures.fromPayload payload).map pairingRequest
    else if code = 0x02 then (PairingFeatures.fromPayload payload).map pairingResponse
    else if code = 0x03 then (array16 payload).map pairingConfirm
    else if code = 0x04 then (array16 payload).map pairingRandom
    else if code = 0x05 then (firstOctet payload "Pairing Failed").map pairingFailed
    else if code = 0x0C then do
      let x ← take 32 payload "Pairing Public Key X"
      let y ← take 32 (payload.drop 32) "Pairing Public Key Y"
      pure (pairingPublicKey x y)
    else if code = 0x0D then (array16 payload).map pairingDhKeyCheck
    else if code = 0x0E then
      (firstOctet payload "Keypress Notification").map keypressNotification
    else if code = 0x06 then (array16 payload).map encryptionInformation
    else if code = 0x07 then do
      let ediv ← take 2 payload "Master Identification EDIV"
      let rand ← take 8 (payload.drop 2) "Master Identification Rand"
      pure (masterIdentification (u16FromLe (ediv.get 0) (ediv.get 1)) rand)
    else if code = 0x08 then (array16 payload).map identityInformation
    else if code = 0x09 then do
      let addrType ← firstOctet payload "Identity Address Information"
      let bdAddr ← take 6 (payload.drop 1) "Identity Address Information address"
      pure (identityAddressInformation addrType bdAddr)
    else if code = 0x0A then (array16 payload).map signingInformation
    else if code = 0x0B then (firstOctet payload "Security Request").map securityRequest
    else .ok (generic code payload)

@[simp] theorem fromBytes_pairingRequest (features : PairingFeatures) :
    fromBytes (pairingRequest features).toBytes = .ok (pairingRequest features) := rfl

/-- The PDUs that carry key material, which belong to the encrypted phase. -/
def isKeyDistributionPdu : SmpPdu → Bool
  | encryptionInformation _ => true
  | masterIdentification _ _ => true
  | identityInformation _ => true
  | identityAddressInformation _ _ => true
  | signingInformation _ => true
  | _ => false

end SmpPdu

end Bumble.Smp
