import Bumble.Aes128
import Bumble.FifoNet
import Bumble.SmpPairing

/-!
# The set-up of the tests (`bumble-crypto/tests/ecc.rs`, `bumble-smp/tests/sc_session.rs`)

AES-128 and two P-256 key pairs, those of the private scalars `0x01..=0x20` and
`0x21..=0x40`, with the points and shared secrets the tests record, and the
addresses, random values and out-of-band contexts of the session tests.
-/

namespace Bumble.Smp

/-! ## 1. Key pairs -/

inductive TestKey where
  | a
  | b
deriving DecidableEq, Repr

namespace TestKey

/-- Thirty-two octets, the most significant one first. -/
def bigEndian32 (number : Nat) : Octets 32 :=
  Vector.ofFn fun i => UInt8.ofNat (Aes128.octet number (31 - i))

def publicX : TestKey → Octets 32
  | a => bigEndian32 0x515C3D6EB9E396B904D3FECA7F54FDCD0CC1E997BF375DCA515AD0A6C3B4035F
  | b => bigEndian32 0x1F140146BFB1B251F84F4DDBE0D4CDCFD77AFD984A9520E35794021F8312BB9E

def publicY : TestKey → Octets 32
  | a => bigEndian32 0x4536BE3A50F318FBF9A5475902A221502BEF0D57E08C53B2CC0A56F17D9F9354
  | b => bigEndian32 0xEC995A08B1FA7704DF3DCC0B50A9665263FB7711F95F9F8A449C5096E47C892B

/-- The other point with the same `x`. -/
def mirrorY : TestKey → Octets 32
  | a => bigEndian32 0xBAC941C4AF0CE705065AB8A6FD5DDEAFD410F2A91F73AC4D33F5A90E82606CAB
  | b => bigEndian32 0x1366A5F64E0588FC20C233F4AF5699AD9C0488EF06A06075BB63AF691B8376D4

def secret : TestKey → TestKey → Octets 32
  | a, a => bigEndian32 0xB4F1FCCE40735F836AF8D6312D248D1A8348405669A195FAC5350406BA76BCCE
  | b, b => bigEndian32 0x0AC09CCC408581B62622BF7252C308368040FF6EB2AE01B7702304E14D58CA08
  | _, _ => bigEndian32 0x4FE243908F378AA1C2A69538822E6ED908C3225D8692575507C649901245150A

/-- Key agreement with one of the recorded points.  A point of the curve and its
    mirror image have the same `x`, so both lead to the same secret. -/
def dh (key : TestKey) (x y : Octets 32) : Option (Octets 32) :=
  if x = a.publicX ∧ (y = a.publicY ∨ y = a.mirrorY) then some (key.secret a)
  else if x = b.publicX ∧ (y = b.publicY ∨ y = b.mirrorY) then some (key.secret b)
  else none

theorem publicX_ne : b.publicX ≠ a.publicX := by decide

theorem dh_public (key peer : TestKey) :
    key.dh peer.publicX peer.publicY = some (key.secret peer) := by
  cases peer with
  | a => simp [dh]
  | b => simp [dh, publicX_ne]

end TestKey

def testPrimitives : Primitives TestKey where
  aesEncryptBlock := Aes128.encryptBlock
  publicX := TestKey.publicX
  publicY := TestKey.publicY
  dh := TestKey.dh

theorem testPrimitives_commutes : testPrimitives.Commutes := by
  intro key peer
  refine ⟨key.secret peer, TestKey.dh_public key peer, ?_⟩
  have hsecret : key.secret peer = peer.secret key := by cases key <;> cases peer <;> rfl
  rw [hsecret]
  exact TestKey.dh_public peer key

/-! ## 2. Configurations -/

def testInitiatorAddress : Address := ⟨#v[0xAA, 0x1D, 0x1A, 0x17, 0xF2, 0xC4], 0x01⟩

def testResponderAddress : Address := ⟨#v[0xBB, 0x1D, 0x1A, 0x17, 0xF2, 0xC4], 0x01⟩

def testInitiatorNonce : Octets 16 := Vector.replicate 16 0xA0

def testResponderNonce : Octets 16 := Vector.replicate 16 0xB0

/-- Values of `random_128` that differ from one another for a while. -/
def testRandom128 (drawn : Nat) : Octets 16 := Vector.replicate 16 (UInt8.ofNat drawn)

def testInitiatorContext : OobContext TestKey := ⟨.a, Vector.replicate 16 0x31⟩

def testResponderContext : OobContext TestKey := ⟨.b, Vector.replicate 16 0x42⟩

/-- A device without input and output, and the out-of-band data it works with. -/
def testConfig (secureConnections : Bool) (oob : Option (OobConfig TestKey)) :
    PairingConfig TestKey where
  secureConnections := secureConnections
  ct2 := false
  mitm := true
  bonding := true
  capabilities :=
    { ioCapability := .noInputNoOutput
      localInitiatorKeyDistribution := .all
      localResponderKeyDistribution := .default
      maximumEncryptionKeySize := 16 }
  oob := oob

/-- The context of a device with the data of its peer, where it has any. -/
def testOob (context : OobContext TestKey) (peerData : Option OobSharedData) : OobConfig TestKey :=
  ⟨some context, peerData, none⟩

def testDelegate : PairingDelegate where
  accept _ := true
  confirm _ _ := true
  compareNumbers _ _ _ := true
  getNumber _ := some 123456
  generatePasskey _ := 123456

theorem testDelegate_accepts : testDelegate.Accepts :=
  ⟨fun _ => rfl, fun _ _ => rfl, fun _ _ _ => rfl⟩

def relay {ι : Type} : Side → List (Side × Move ι)
  | .left => [(.left, .poll), (.right, .deliver)]
  | .right => [(.right, .poll), (.left, .deliver)]

end Bumble.Smp
