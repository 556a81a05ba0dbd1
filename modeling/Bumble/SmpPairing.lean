import Bumble.SmpPdu

/-!
# Pairing policy (`bumble-smp/src/pairing.rs`, `sc` of `bumble-smp/src/lib.rs`)

Capabilities, flags and the choice of the pairing method, the out-of-band data,
the delegate that stands for the user, and the derivation of the Secure
Connections keys.
-/

namespace Bumble.Smp

/-! ## 1. Roles, addresses and failures -/

inductive PairingRole where
  | initiator
  | responder
deriving DecidableEq, Repr

structure Address where
  addressBytes : Octets 6
  addressType : UInt8
deriving DecidableEq, Repr

namespace Address

def isPublic (address : Address) : Bool := address.addressType = 0x00 || address.addressType = 0x02

def isRandom (address : Address) : Bool := !address.isPublic

/-- The octet of the address type that enters the key derivation. -/
def randomFlag (address : Address) : UInt8 := if address.isRandom then 1 else 0

end Address

inductive PairingFailureReason where
  | passkeyEntryFailed
  | oobNotAvailable
  | authenticationRequirements
  | confirmValueFailed
  | pairingNotSupported
  | encryptionKeySize
  | commandNotSupported
  | unspecifiedReason
  | repeatedAttempts
  | invalidParameters
  | dhKeyCheckFailed
  | numericComparisonFailed
  | crossTransportKeyDerivationNotAllowed
deriving DecidableEq, Repr

def PairingFailureReason.value : PairingFailureReason → UInt8
  | passkeyEntryFailed => 0x01
  | oobNotAvailable => 0x02
  | authenticationRequirements => 0x03
  | confirmValueFailed => 0x04
  | pairingNotSupported => 0x05
  | encryptionKeySize => 0x06
  | commandNotSupported => 0x07
  | unspecifiedReason => 0x08
  | repeatedAttempts => 0x09
  | invalidParameters => 0x0A
  | dhKeyCheckFailed => 0x0B
  | numericComparisonFailed => 0x0C
  | crossTransportKeyDerivationNotAllowed => 0x0E

/-- The reason of a received failure; a code outside the table is dropped. -/
def pairingFailureFromU8 (reason : UInt8) : Option PairingFailureReason :=
  [.passkeyEntryFailed, .oobNotAvailable, .authenticationRequirements, .confirmValueFailed,
    .pairingNotSupported, .encryptionKeySize, .commandNotSupported, .unspecifiedReason,
    .repeatedAttempts, .invalidParameters, .dhKeyCheckFailed, .numericComparisonFailed,
    .crossTransportKeyDerivationNotAllowed].find? fun known => known.value = reason

/-- How a call on a session ends other than normally: with an error it returns, or
    with a failed `expect`. -/
inductive Fault where
  | error (error : Error)
  | panic (message : String)
deriving DecidableEq, Repr

/-! ## 2. Capabilities and flags -/

inductive IoCapability where
  | displayOnly
  | displayYesNo
  | keyboardOnly
  | noInputNoOutput
  | keyboardDisplay
deriving DecidableEq, Repr

namespace IoCapability

def value : IoCapability → UInt8
  | displayOnly => 0x00
  | displayYesNo => 0x01
  | keyboardOnly => 0x02
  | noInputNoOutput => 0x03
  | keyboardDisplay => 0x04

def tryFrom (value : UInt8) : Except Error IoCapability :=
  if value = 0 then .ok displayOnly
  else if value = 1 then .ok displayYesNo
  else if value = 2 then .ok keyboardOnly
  else if value = 3 then .ok noInputNoOutput
  else if value = 4 then .ok keyboardDisplay
  else .error (.invalidPacket "invalid SMP I/O capability")

@[simp] theorem tryFrom_value (capability : IoCapability) :
    tryFrom capability.value = .ok capability := by
  cases capability <;> rfl

end IoCapability

/-- A set of key kinds; the field is public, so any octet can occur. -/
structure KeyDistribution where
  flags : UInt8
deriving DecidableEq, Repr

namespace KeyDistribution

def encryptionKey : KeyDistribution := ⟨0b0001⟩
def identityKey : KeyDistribution := ⟨0b0010⟩
def signingKey : KeyDistribution := ⟨0b0100⟩
def linkKey : KeyDistribution := ⟨0b1000⟩
def all : KeyDistribution := ⟨0b1111⟩
def default : KeyDistribution := ⟨encryptionKey.flags ||| identityKey.flags⟩

def contains (keys other : KeyDistribution) : Bool := keys.flags &&& other.flags = other.flags

def intersection (keys other : KeyDistribution) : KeyDistribution :=
  ⟨keys.flags &&& other.flags &&& all.flags⟩

theorem intersection_echo (keys other : KeyDistribution) :
    keys.intersection ⟨(other.intersection ⟨keys.flags⟩).flags⟩ =
      other.intersection ⟨keys.flags⟩ := by
  simp only [intersection, mk.injEq]
  rw [← UInt8.and_assoc keys.flags, ← UInt8.and_assoc keys.flags, UInt8.and_comm keys.flags,
    UInt8.and_assoc other.flags keys.flags keys.flags, UInt8.and_self, UInt8.and_assoc _ all.flags,
    UInt8.and_self]

end KeyDistribution

structure AuthReq where
  flags : UInt8
deriving DecidableEq, Repr

namespace AuthReq

def bonding : AuthReq := ⟨0b00000001⟩
def mitm : AuthReq := ⟨0b00000100⟩
def secureConnections : AuthReq := ⟨0b00001000⟩
def keypress : AuthReq := ⟨0b00010000⟩
def ct2 : AuthReq := ⟨0b00100000⟩

def fromBooleans (withBonding withSecureConnections withMitm withKeypress withCt2 : Bool) :
    AuthReq :=
  ⟨[(withBonding, bonding), (withSecureConnections, secureConnections), (withMitm, mitm),
    (withKeypress, keypress), (withCt2, ct2)].foldl
    (fun value (enabled, flag) => if enabled then value ||| flag.flags else value) 0⟩

def contains (authReq flag : AuthReq) : Bool := authReq.flags &&& flag.flags != 0

theorem contains_fromBooleans (b sc m k c : Bool) :
    (fromBooleans b sc m k c).contains bonding = b ∧
      (fromBooleans b sc m k c).contains secureConnections = sc ∧
      (fromBooleans b sc m k c).contains mitm = m ∧
      (fromBooleans b sc m k c).contains keypress = k ∧
      (fromBooleans b sc m k c).contains ct2 = c := by
  revert b sc m k c
  decide

end AuthReq

def validFeatures (features : PairingFeatures) : Bool :=
  (IoCapability.tryFrom features.ioCapability).isOk &&
    features.oobDataFlag ≤ 1 &&
    features.maximumEncryptionKeySize ≤ 16 &&
    features.initiatorKeyDistribution &&& ~~~KeyDistribution.all.flags = 0 &&
    features.responderKeyDistribution &&& ~~~KeyDistribution.all.flags = 0

theorem validFeatures_io {features : PairingFeatures} (hvalid : validFeatures features = true) :
    ∃ capability, IoCapability.tryFrom features.ioCapability = .ok capability := by
  simp only [validFeatures, Bool.and_eq_true] at hvalid
  have hio := hvalid.1.1.1.1
  cases hcapability : IoCapability.tryFrom features.ioCapability with
  | ok capability => exact ⟨capability, rfl⟩
  | error error => rw [hcapability] at hio; cases hio

/-! ## 3. The pairing method -/

inductive PairingMethod where
  | justWorks
  | numericComparison
  | passkey
  | oob
  | ctkdOverClassic
deriving DecidableEq, Repr

structure PairingMethodSelection where
  method : PairingMethod
  initiatorDisplays : Bool
  responderDisplays : Bool
deriving DecidableEq, Repr

namespace PairingMethodSelection

def simple (method : PairingMethod) : PairingMethodSelection := ⟨method, false, false⟩

def passkey (initiatorDisplays responderDisplays : Bool) : PairingMethodSelection :=
  ⟨.passkey, initiatorDisplays, responderDisplays⟩

/-- Whether the device of the given role shows the passkey. -/
def displays (selection : PairingMethodSelection) : PairingRole → Bool
  | .initiator => selection.initiatorDisplays
  | .responder => selection.responderDisplays

end PairingMethodSelection

open PairingMethodSelection in
def selectPairingMethod (secureConnections localMitm : Bool) (peerAuthReq : AuthReq)
    (initiator responder : IoCapability) : PairingMethodSelection :=
  if !localMitm && !peerAuthReq.contains .mitm then simple .justWorks
  else
    match initiator, responder with
    | .displayOnly, .keyboardOnly => passkey true false
    | .displayOnly, .keyboardDisplay => passkey true false
    | .displayYesNo, .keyboardOnly => passkey true false
    | .displayYesNo, .keyboardDisplay =>
      if !secureConnections then passkey true false else simple .numericComparison
    | .keyboardOnly, .displayOnly => passkey false true
    | .keyboardOnly, .displayYesNo => passkey false true
    | .keyboardOnly, .keyboardDisplay => passkey false true
    | .keyboardOnly, .keyboardOnly => passkey false false
    | .keyboardDisplay, .displayOnly => passkey false true
    | .keyboardDisplay, .displayYesNo =>
      if !secureConnections then passkey false true else simple .numericComparison
    | .keyboardDisplay, .keyboardOnly => passkey true false
    | .keyboardDisplay, .keyboardDisplay =>
      if !secureConnections then passkey true false else simple .numericComparison
    | .displayYesNo, .displayYesNo =>
      if secureConnections then simple .numericComparison else simple .justWorks
    | _, _ => simple .justWorks

def selectPairingMethodWithOob (secureConnections localHasOob peerHasOob localMitm : Bool)
    (peerAuthReq : AuthReq) (initiator responder : IoCapability) : PairingMethodSelection :=
  if (localHasOob && peerHasOob) || (secureConnections && (localHasOob || peerHasOob)) then
    .simple .oob
  else selectPairingMethod secureConnections localMitm peerAuthReq initiator responder

/-- The selection reads the two MITM flags through their disjunction, so both ends
    select the same method when each puts its own flag in its features. -/
theorem selectPairingMethod_mitm_comm {sc mitm mitm' : Bool} {authReq authReq' : AuthReq}
    (hflag : authReq.contains .mitm = mitm) (hflag' : authReq'.contains .mitm = mitm')
    (initiator responder : IoCapability) :
    selectPairingMethod sc mitm authReq' initiator responder =
      selectPairingMethod sc mitm' authReq initiator responder := by
  simp only [selectPairingMethod, hflag, hflag', Bool.and_comm]

/-! ## 4. Out-of-band data and configurations -/

structure OobContext (κ : Type) where
  eccKey : κ
  r : Octets 16

/-- What one device hands to the other out of band. -/
structure OobSharedData where
  c : Bytes
  r : Bytes
deriving DecidableEq, Repr

structure OobLegacyContext where
  tk : Bytes
deriving DecidableEq, Repr

def OobContext.share {κ : Type} (prim : Primitives κ) (context : OobContext κ) : OobSharedData :=
  let pkx := (prim.publicX context.eccKey).reverse
  ⟨(f4 prim pkx pkx context.r 0).toList, context.r.toList⟩

structure OobConfig (κ : Type) where
  ourContext : Option (OobContext κ)
  peerData : Option OobSharedData
  legacyContext : Option OobLegacyContext

structure PairingCapabilities where
  ioCapability : IoCapability
  localInitiatorKeyDistribution : KeyDistribution
  localResponderKeyDistribution : KeyDistribution
  maximumEncryptionKeySize : UInt8
deriving DecidableEq, Repr

def PairingCapabilities.validate (capabilities : PairingCapabilities) : Except Error Unit :=
  if 7 ≤ capabilities.maximumEncryptionKeySize ∧ capabilities.maximumEncryptionKeySize ≤ 16 then
    .ok ()
  else .error (.invalidPacket "maximum encryption key size must be between 7 and 16")

structure PairingConfig (κ : Type) where
  secureConnections : Bool
  ct2 : Bool
  mitm : Bool
  bonding : Bool
  capabilities : PairingCapabilities
  oob : Option (OobConfig κ)

namespace PairingConfig

variable {κ : Type}

def ourContext (config : PairingConfig κ) : Option (OobContext κ) :=
  config.oob.bind (·.ourContext)

def peerData (config : PairingConfig κ) : Option OobSharedData := config.oob.bind (·.peerData)

def legacyContext (config : PairingConfig κ) : Option OobLegacyContext :=
  config.oob.bind (·.legacyContext)

end PairingConfig

/-! ## 5. The delegate

A delegate is any object with a state of its own.  What it answers can depend on
everything it has been asked before, and on nothing else that the session does,
so it is a function of the calls made so far. -/

inductive DelegateCall where
  | accept (answer : Bool)
  | confirm (auto answer : Bool)
  | compareNumbers (number : UInt32) (digits : UInt8) (answer : Bool)
  | getNumber (answer : Option UInt32)
  | displayNumber (number : UInt32) (digits : UInt8)
  | generatePasskey (answer : UInt32)
deriving DecidableEq, Repr

structure PairingDelegate where
  accept : List DelegateCall → Bool
  confirm : List DelegateCall → Bool → Bool
  compareNumbers : List DelegateCall → UInt32 → UInt8 → Bool
  getNumber : List DelegateCall → Option UInt32
  generatePasskey : List DelegateCall → UInt32

/-- The passkey of a device that shows one or asks for one, and the calls made
    for it. -/
def PairingDelegate.passkey (delegate : PairingDelegate) (calls : List DelegateCall)
    (displays : Bool) : Option UInt32 × List DelegateCall :=
  if displays then
    let passkey := delegate.generatePasskey calls
    (some passkey, [.generatePasskey passkey, .displayNumber passkey 6])
  else
    let passkey := delegate.getNumber calls
    (passkey, [.getNumber passkey])

structure PairingDelegate.Accepts (delegate : PairingDelegate) : Prop where
  accept : ∀ calls, delegate.accept calls = true
  confirm : ∀ calls auto, delegate.confirm calls auto = true
  compareNumbers : ∀ calls number digits, delegate.compareNumbers calls number digits = true

/-! ## 6. Secure Connections keys (`sc` of `lib.rs`) -/

structure ScKeys where
  macKey : Octets 16
  ltk : Octets 16
  ea : Octets 16
  eb : Octets 16
  numericCheck : UInt32
deriving DecidableEq, Repr

/-- The three octets after the code of a Pairing Request or Response. -/
def ioCap (pairingPdu : Bytes) : Option (Octets 3) :=
  match pairingPdu with
  | _ :: a :: b :: c :: _ => some #v[a, b, c]
  | _ => none

section Keys

variable {κ : Type} (prim : Primitives κ)

def confirmValueWithZ (ownX peerX : Octets 32) (ownNonce : Octets 16) (z : UInt8) : Octets 16 :=
  f4 prim ownX peerX ownNonce z

def confirmValue (ownX peerX : Octets 32) (ownNonce : Octets 16) : Octets 16 :=
  confirmValueWithZ prim ownX peerX ownNonce 0

def keysWithR (dhKey : Octets 32) (na nb : Octets 16) (ia : Octets 6) (iat : UInt8)
    (ra : Octets 6) (rat : UInt8) (ioCapA ioCapB : Octets 3) (pka pkb : Octets 32)
    (rA rB : Octets 16) : ScKeys :=
  let a : Octets 7 := ia.push iat
  let b : Octets 7 := ra.push rat
  let (macKey, ltk) := f5 prim dhKey na nb a b
  { macKey, ltk
    ea := f6 prim macKey na nb rB ioCapA a b
    eb := f6 prim macKey nb na rA ioCapB b a
    numericCheck := g2 prim pka pkb na nb % 1000000 }

end Keys

/-- The first `size` octets of a key, the rest cleared. -/
def truncateKey (key : Octets 16) (size : UInt8) : Octets 16 :=
  Vector.ofFn fun i => if i.val < size.toNat then key.get i else 0

end Bumble.Smp
