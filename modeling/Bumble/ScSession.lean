import Bumble.Outcome
import Bumble.SmpDistribution

/-!
# Secure Connections pairing (`bumble-smp/src/sc_session.rs`)

One device's half of a pairing: feature exchange, public keys, the confirm and
random values of the selected method, the check of the DH key, and the key
distribution once the link is encrypted.  The delegate's answers and the values
of `random_128` come from outside; the session keeps the calls it has made to
the delegate and the number of values it has drawn.
-/

namespace Bumble.Smp

/-! ## 1. The session -/

inductive ScPairingState where
  | idle
  | waitPairingResponse
  | waitPublicKey
  | waitPairingConfirm
  | waitPairingRandom
  | waitDhKeyCheck
  | waitEncryption
  | keyDistribution
  | complete
  | failed
deriving DecidableEq, Repr

structure ScPairingOutcome where
  macKey : Octets 16
  ltk : Octets 16
  numericCheck : UInt32
  method : PairingMethod
  authenticated : Bool
  bonding : Bool
  ct2 : Bool
  maximumEncryptionKeySize : UInt8
  initiatorKeyDistribution : KeyDistribution
  responderKeyDistribution : KeyDistribution
deriving DecidableEq, Repr

structure ScPairingSession (κ : Type) where
  role : PairingRole
  config : PairingConfig κ
  delegate : PairingDelegate
  /-- The calls made to the delegate. -/
  calls : List DelegateCall
  initiatorAddress : Address
  responderAddress : Address
  eccKey : κ
  localNonce : Octets 16
  /-- The values of `random_128`, in the order they are drawn. -/
  random128 : Nat → Octets 16
  drawn : Nat
  state : ScPairingState
  outbound : List SmpPdu
  preq : Option Bytes
  pres : Option Bytes
  method : Option PairingMethod
  passkey : Option UInt32
  passkeyStep : Nat
  peerPublicX : Option (Octets 32)
  peerPublicY : Option (Octets 32)
  dhKey : Option (Octets 32)
  peerConfirm : Option (Octets 16)
  peerNonce : Option (Octets 16)
  keys : Option ScKeys
  userConfirmed : Bool
  outcome : Option ScPairingOutcome
  failure : Option PairingFailureReason
  bonding : Bool
  ct2 : Bool
  maximumEncryptionKeySize : UInt8
  initiatorKeyDistribution : KeyDistribution
  responderKeyDistribution : KeyDistribution
  localKeys : LocalKeyMaterial
  distribution : Option KeyDistributionSession

namespace ScPairingSession

variable {κ : Type}

abbrev Call (κ α : Type) := Outcome (ScPairingSession κ) Fault α

def new (role : PairingRole) (config : PairingConfig κ) (delegate : PairingDelegate)
    (initiatorAddress responderAddress : Address) (eccKey : κ) (localNonce : Octets 16)
    (random128 : Nat → Octets 16) : Except Error (ScPairingSession κ) :=
  match config.capabilities.validate with
  | .error error => .error error
  | .ok () =>
    if !config.secureConnections then
      .error (.invalidPacket "SC session requires Secure Connections policy")
    else
      let identityAddress := match role with
        | .initiator => initiatorAddress
        | .responder => responderAddress
      .ok
        { role, config, delegate
          calls := []
          initiatorAddress, responderAddress
          -- a local OOB context brings its own key pair, and its random value is the nonce
          eccKey := (config.ourContext.map (·.eccKey)).getD eccKey
          localNonce := (config.ourContext.map (·.r)).getD localNonce
          random128
          drawn := 4
          state := .idle
          outbound := []
          preq := none
          pres := none
          method := none
          passkey := none
          passkeyStep := 0
          peerPublicX := none
          peerPublicY := none
          dhKey := none
          peerConfirm := none
          peerNonce := none
          keys := none
          userConfirmed := false
          outcome := none
          failure := none
          bonding := config.bonding
          ct2 := config.ct2
          maximumEncryptionKeySize := config.capabilities.maximumEncryptionKeySize
          initiatorKeyDistribution := config.capabilities.localInitiatorKeyDistribution
          responderKeyDistribution := config.capabilities.localResponderKeyDistribution
          localKeys := LocalKeyMaterial.generate random128 0 identityAddress
          distribution := none }

/-! ## 2. Small steps -/

def push (s : ScPairingSession κ) (pdu : SmpPdu) : ScPairingSession κ :=
  { s with outbound := s.outbound ++ [pdu] }

def fail (s : ScPairingSession κ) (reason : PairingFailureReason) : ScPairingSession κ :=
  let s := if s.state ≠ .failed then s.push (.pairingFailed reason.value) else s
  { s with failure := some reason, state := .failed }

def localFeatures (s : ScPairingSession κ) : PairingFeatures where
  ioCapability := s.config.capabilities.ioCapability.value
  -- in Secure Connections the flag says that we possess the peer's data
  oobDataFlag := if s.config.peerData.isSome then 1 else 0
  authReq := (AuthReq.fromBooleans s.config.bonding true s.config.mitm false s.config.ct2).flags
  maximumEncryptionKeySize := s.config.capabilities.maximumEncryptionKeySize
  initiatorKeyDistribution := s.config.capabilities.localInitiatorKeyDistribution.flags
  responderKeyDistribution := s.config.capabilities.localResponderKeyDistribution.flags

def requestFeatures (s : ScPairingSession κ) : Except Fault PairingFeatures :=
  match s.preq with
  | none => .error (.error (.invalidPacket "missing Pairing Request"))
  | some preq =>
    match SmpPdu.fromBytes preq with
    | .error error => .error (.error error)
    | .ok (.pairingRequest features) => .ok features
    | .ok _ => .error (.panic "preq is a Pairing Request")

section Primitive

variable (prim : Primitives κ)

def publicXLe (s : ScPairingSession κ) : Octets 32 := (prim.publicX s.eccKey).reverse

def publicYLe (s : ScPairingSession κ) : Octets 32 := (prim.publicY s.eccKey).reverse

def publicKeyPdu (s : ScPairingSession κ) : SmpPdu :=
  .pairingPublicKey (s.publicXLe prim) (s.publicYLe prim)

end Primitive

/-- The octet of a round of passkey entry: one bit of the passkey, under `0x80`. -/
def passkeyBit (passkey : UInt32) (step : Nat) : UInt8 :=
  0x80 ||| ((passkey >>> UInt32.ofNat step) &&& 1).toUInt8

def passkeyZ (s : ScPairingSession κ) : Option UInt8 :=
  s.passkey.map fun passkey => passkeyBit passkey s.passkeyStep

def passkeyR (passkey : UInt32) : Octets 16 :=
  Vector.ofFn fun i => (u32ToLe passkey).getD i 0

/-! ## 3. Negotiation -/

def applyNegotiated (s : ScPairingSession κ) (peer : PairingFeatures) : Call κ Unit :=
  let size := min s.maximumEncryptionKeySize peer.maximumEncryptionKeySize
  let s := { s with maximumEncryptionKeySize := size }
  if size < 7 then
    .fail (s.fail .encryptionKeySize) (.error (.invalidPacket "encryption key size too small"))
  else
    .ok
      { s with
        bonding := s.bonding && AuthReq.contains ⟨peer.authReq⟩ .bonding
        ct2 := s.ct2 && AuthReq.contains ⟨peer.authReq⟩ .ct2
        initiatorKeyDistribution :=
          s.initiatorKeyDistribution.intersection ⟨peer.initiatorKeyDistribution⟩
        responderKeyDistribution :=
          s.responderKeyDistribution.intersection ⟨peer.responderKeyDistribution⟩ } ()

def negotiateResponse (s : ScPairingSession κ) (peer : PairingFeatures) :
    Call κ PairingFeatures :=
  if !validFeatures peer then
    .fail (s.fail .invalidParameters) (.error (.invalidPacket "invalid SC pairing features"))
  else if !AuthReq.contains ⟨peer.authReq⟩ .secureConnections then
    .fail (s.fail .authenticationRequirements)
      (.error (.invalidPacket "peer does not support SC"))
  else
    (s.applyNegotiated peer).andThen fun s () =>
      .ok s
        { s.localFeatures with
          maximumEncryptionKeySize := s.maximumEncryptionKeySize
          initiatorKeyDistribution := s.initiatorKeyDistribution.flags
          responderKeyDistribution := s.responderKeyDistribution.flags }

/-- The method both sets of features select, as this side computes it. -/
def selection (s : ScPairingSession κ) (request response : PairingFeatures)
    (initiator responder : IoCapability) : PairingMethodSelection :=
  selectPairingMethodWithOob true (request.oobDataFlag != 0) (response.oobDataFlag != 0)
    s.config.mitm ⟨if s.role = .initiator then response.authReq else request.authReq⟩
    initiator responder

def selectMethod (s : ScPairingSession κ) (request response : PairingFeatures) : Call κ Bool :=
  match IoCapability.tryFrom request.ioCapability,
      IoCapability.tryFrom response.ioCapability with
  | .error error, _ => .fail s (.error error)
  | .ok _, .error error => .fail s (.error error)
  | .ok initiator, .ok responder =>
    let selection := s.selection request response initiator responder
    match selection.method with
    | .passkey =>
      let asked := s.delegate.passkey s.calls (selection.displays s.role)
      let s := { s with calls := s.calls ++ asked.2 }
      match asked.1.filter (· < 1000000) with
      | none => .ok (s.fail .passkeyEntryFailed) false
      | some passkey => .ok { s with passkey := some passkey, method := some .passkey } true
    | .oob =>
      if s.config.ourContext.isNone then .ok (s.fail .oobNotAvailable) false
      else .ok { s with method := some .oob } true
    | .justWorks => .ok { s with method := some .justWorks } true
    | .numericComparison => .ok { s with method := some .numericComparison } true
    | .ctkdOverClassic => .ok (s.fail .authenticationRequirements) false

/-! ## 4. Calls -/

def start (s : ScPairingSession κ) : Call κ Unit :=
  if s.role ≠ .initiator ∨ s.state ≠ .idle then
    .fail s (.error (.invalidPacket "only an idle initiator can start SC pairing"))
  else
    let request := SmpPdu.pairingRequest s.localFeatures
    .ok { s.push request with preq := some request.toBytes, state := .waitPairingResponse } ()

def respond (s : ScPairingSession κ) (features : PairingFeatures) : Call κ Unit :=
  let negotiated := s.negotiateResponse features
  match negotiated.result with
  -- the failure has been queued, and the error is dropped
  | .error _ => .ok negotiated.state ()
  | .ok response =>
    let pdu := SmpPdu.pairingResponse response
    let s := { negotiated.state with pres := some pdu.toBytes }
    (s.selectMethod features response).andThen fun s selected =>
      if !selected then .ok s ()
      else .ok { s.push pdu with state := .waitPublicKey } ()

def onPairingRequest (s : ScPairingSession κ) (features : PairingFeatures) : Call κ Unit :=
  let accepted := s.delegate.accept s.calls
  let s := { s with calls := s.calls ++ [DelegateCall.accept accepted] }
  if !accepted then .ok (s.fail .pairingNotSupported) ()
  else { s with preq := some (SmpPdu.pairingRequest features).toBytes }.respond features

section Primitive

variable (prim : Primitives κ)

def onPairingResponse (s : ScPairingSession κ) (features : PairingFeatures) : Call κ Unit :=
  if !validFeatures features then .ok (s.fail .invalidParameters) ()
  else if !AuthReq.contains ⟨features.authReq⟩ .secureConnections then
    .ok (s.fail .authenticationRequirements) ()
  else
    match s.requestFeatures with
    | .error fault => .fail s fault
    | .ok request =>
      (s.applyNegotiated features).andThen fun s () =>
        let s := { s with pres := some (SmpPdu.pairingResponse features).toBytes }
        (s.selectMethod request features).andThen fun s selected =>
          if !selected then .ok s ()
          else .ok { s.push (s.publicKeyPdu prim) with state := .waitPublicKey } ()

def queuePasskeyConfirm (s : ScPairingSession κ) : Call κ Unit :=
  match s.peerPublicX with
  | none => .fail s (.error (.invalidPacket "missing peer public key"))
  | some peerX =>
    match s.passkeyZ with
    | none => .fail s (.panic "passkey selected")
    | some z =>
      .ok (s.push (.pairingConfirm
        (confirmValueWithZ prim (s.publicXLe prim) peerX s.localNonce z))) ()

/-- What is wrong with the peer's out-of-band data, given its public key. -/
def oobFailure (s : ScPairingSession κ) (x : Octets 32) : Option PairingFailureReason :=
  if s.method = some .oob then
    match s.config.peerData with
    | none => none
    | some peerData =>
      match toArray16 peerData.r with
      | none => some .oobNotAvailable
      | some peerR =>
        if peerData.c ≠ (confirmValueWithZ prim x x peerR 0).toList then some .confirmValueFailed
        else none
  else none

/-- Keep the peer's public key and the shared secret, little-endian. -/
def receiveKey (s : ScPairingSession κ) (x y dhKey : Octets 32) : ScPairingSession κ :=
  { s with peerPublicX := some x, peerPublicY := some y, dhKey := some dhKey }

def exchangeKeys (s : ScPairingSession κ) (x : Octets 32) : Call κ Unit :=
  match s.role, s.method with
  | _, none => .fail s (.panic "method selected")
  | _, some .ctkdOverClassic => .fail s (.panic "unsupported methods are rejected")
  | .initiator, some .passkey =>
    (s.queuePasskeyConfirm prim).andThen fun s () => .ok { s with state := .waitPairingConfirm } ()
  | .initiator, some _ => .ok { s with state := .waitPairingConfirm } ()
  | .responder, some .passkey =>
    .ok { s.push (s.publicKeyPdu prim) with state := .waitPairingConfirm } ()
  | .responder, some _ =>
    let confirm := confirmValue prim (s.publicXLe prim) x s.localNonce
    .ok { (s.push (s.publicKeyPdu prim)).push (.pairingConfirm confirm) with
      state := .waitPairingRandom } ()

def onPublicKey (s : ScPairingSession κ) (x y : Octets 32) : Call κ Unit :=
  if x = s.publicXLe prim ∧ y = s.publicYLe prim then .ok (s.fail .invalidParameters) ()
  else
    match prim.dh s.eccKey x.reverse y.reverse with
    | none => .ok (s.fail .invalidParameters) ()
    | some dhKey =>
      let s := s.receiveKey x y dhKey.reverse
      match s.oobFailure prim x with
      | some reason => .ok (s.fail reason) ()
      | none => s.exchangeKeys prim x

def onPairingConfirm (s : ScPairingSession κ) (confirmValue : Octets 16) : Call κ Unit :=
  let s := { s with peerConfirm := some confirmValue }
  if s.method = some .passkey ∧ s.role = .responder then
    (s.queuePasskeyConfirm prim).andThen fun s () => .ok { s with state := .waitPairingRandom } ()
  else .ok { s.push (.pairingRandom s.localNonce) with state := .waitPairingRandom } ()

def dhkeyRValues (s : ScPairingSession κ) : Except Fault (Octets 16 × Octets 16) :=
  match s.method with
  | none => .error (.panic "method selected")
  | some .justWorks => .ok (zeroBlock, zeroBlock)
  | some .numericComparison => .ok (zeroBlock, zeroBlock)
  | some .passkey =>
    match s.passkey with
    | none => .error (.panic "passkey selected")
    | some passkey => .ok (passkeyR passkey, passkeyR passkey)
  | some .oob =>
    match s.config.ourContext with
    | none => .error (.error (.invalidPacket "missing local OOB context"))
    | some context =>
      -- without the peer's data its random value is zero
      match s.config.peerData.elim (some zeroBlock) (fun data => toArray16 data.r) with
      | none => .error (.error (.invalidPacket "peer OOB R must be 16 bytes"))
      | some peerR =>
        match s.role with
        | .initiator => .ok (context.r, peerR)
        | .responder => .ok (peerR, context.r)
  | some .ctkdOverClassic => .error (.error (.invalidPacket "unsupported pairing method"))

/-- The value of a role's own side and of the peer, initiator first. -/
def byRole {α : Type} (role : PairingRole) (own peer : α) : α × α :=
  match role with
  | .initiator => (own, peer)
  | .responder => (peer, own)

def deriveKeys (s : ScPairingSession κ) : Call κ Unit :=
  match s.peerNonce, s.peerPublicX with
  | none, _ => .fail s (.panic "peer nonce received")
  | some _, none => .fail s (.panic "peer key received")
  | some peerNonce, some peerX =>
    let (na, nb) := byRole s.role s.localNonce peerNonce
    let (pka, pkb) := byRole s.role (s.publicXLe prim) peerX
    match s.preq, s.pres with
    | none, _ => .fail s (.error (.invalidPacket "missing Pairing Request"))
    | some _, none => .fail s (.error (.invalidPacket "missing Pairing Response"))
    | some preq, some pres =>
      match s.dhkeyRValues with
      | .error fault => .fail s fault
      | .ok (rA, rB) =>
        match s.dhKey, ioCap preq, ioCap pres with
        | none, _, _ => .fail s (.panic "DH key derived")
        | some _, none, _ => .fail s (.panic "pairing request shape")
        | some _, some _, none => .fail s (.panic "pairing response shape")
        | some dhKey, some ioCapA, some ioCapB =>
          .ok
            { s with
              keys := some (keysWithR prim dhKey na nb
                s.initiatorAddress.addressBytes s.initiatorAddress.randomFlag
                s.responderAddress.addressBytes s.responderAddress.randomFlag
                ioCapA ioCapB pka pkb rA rB) } ()

/-- What the user answers where the method asks, and the calls made for it. -/
def userAnswer (s : ScPairingSession κ) (keys : ScKeys) :
    PairingMethod → Bool × List DelegateCall
  | .justWorks =>
    let answer := s.delegate.confirm s.calls true
    (answer, [.confirm true answer])
  | .numericComparison =>
    let answer := s.delegate.compareNumbers s.calls keys.numericCheck 6
    (answer, [.compareNumbers keys.numericCheck 6 answer])
  | .oob => (true, [])
  | .passkey => (true, [])
  | .ctkdOverClassic => (false, [])

def confirmUser (s : ScPairingSession κ) : Call κ Bool :=
  match s.keys, s.method with
  | none, _ => .fail s (.panic "keys derived")
  | some _, none => .fail s (.panic "method selected")
  | some keys, some method =>
    let answer := s.userAnswer keys method
    let s := { s with calls := s.calls ++ answer.2 }
    if !answer.1 then .ok (s.fail .confirmValueFailed) false
    else .ok { s with userConfirmed := true } true

/-- Wait for the peer's check value; the initiator sends its own first. -/
def awaitCheck (s : ScPairingSession κ) : Call κ Unit :=
  match s.role with
  | .initiator =>
    match s.keys with
    | none => .fail s (.panic "keys derived")
    | some keys => .ok { s.push (.pairingDhKeyCheck keys.ea) with state := .waitDhKeyCheck } ()
  | .responder => .ok { s with state := .waitDhKeyCheck } ()

/-- Keep the peer's random value; a responder answers with its own. -/
def exchangeNonces (s : ScPairingSession κ) (randomValue : Octets 16) : ScPairingSession κ :=
  let s := { s with peerNonce := some randomValue }
  match s.role with
  | .initiator => s
  | .responder => s.push (.pairingRandom s.localNonce)

def freshNonce (s : ScPairingSession κ) : ScPairingSession κ :=
  { s with localNonce := s.random128 s.drawn, drawn := s.drawn + 1, peerConfirm := none }

def nextRound (s : ScPairingSession κ) : Call κ Unit :=
  match s.role with
  | .initiator =>
    (s.freshNonce.queuePasskeyConfirm prim).andThen fun s () =>
      .ok { s with state := .waitPairingConfirm } ()
  | .responder => .ok { s.freshNonce with state := .waitPairingConfirm } ()

def endPasskey (s : ScPairingSession κ) : Call κ Unit :=
  (s.deriveKeys prim).andThen fun s () => { s with userConfirmed := true }.awaitCheck

def onPasskeyRandom (s : ScPairingSession κ) (randomValue : Octets 16) : Call κ Unit :=
  match s.peerPublicX, s.passkeyZ with
  | none, _ => .fail s (.panic "peer key received")
  | some _, none => .fail s (.panic "passkey selected")
  | some peerX, some z =>
    if s.peerConfirm ≠ some (confirmValueWithZ prim peerX (s.publicXLe prim) randomValue z) then
      .ok (s.fail .confirmValueFailed) ()
    else
      let s := s.exchangeNonces randomValue
      let s := { s with passkeyStep := s.passkeyStep + 1 }
      if s.passkeyStep < 20 then s.nextRound prim else s.endPasskey prim

def conclude (s : ScPairingSession κ) : Call κ Unit :=
  (s.deriveKeys prim).andThen fun s () =>
    s.confirmUser.andThen fun s accepted => if !accepted then .ok s () else s.awaitCheck

def onPairingRandom (s : ScPairingSession κ) (randomValue : Octets 16) : Call κ Unit :=
  if s.method = some .passkey then s.onPasskeyRandom prim randomValue
  else
    match s.role with
    | .initiator =>
      match s.peerPublicX with
      | none => .fail { s with peerNonce := some randomValue } (.panic "peer key received")
      | some peerX =>
        if s.peerConfirm ≠ some (confirmValue prim peerX (s.publicXLe prim) randomValue) then
          .ok ({ s with peerNonce := some randomValue }.fail .confirmValueFailed) ()
        else (s.exchangeNonces randomValue).conclude prim
    | .responder => (s.exchangeNonces randomValue).conclude prim

/-- Keep the outcome and wait for the link to be encrypted.  The key size is at
    most 16, so clearing the rest of the key is within its bounds. -/
def finish (s : ScPairingSession κ) : Call κ Unit :=
  match s.keys, s.method with
  | none, _ => .fail s (.panic "keys derived")
  | some _, none => .fail s (.panic "method selected")
  | some keys, some method =>
    .ok
      { s with
        outcome := some
          { macKey := keys.macKey
            ltk := truncateKey keys.ltk s.maximumEncryptionKeySize
            numericCheck := keys.numericCheck
            method
            authenticated := method ≠ .justWorks
            bonding := s.bonding
            ct2 := s.ct2
            maximumEncryptionKeySize := s.maximumEncryptionKeySize
            initiatorKeyDistribution := s.initiatorKeyDistribution
            responderKeyDistribution := s.responderKeyDistribution }
        state := .waitEncryption } ()

def expectedCheck (role : PairingRole) (keys : ScKeys) : Octets 16 :=
  match role with
  | .initiator => keys.eb
  | .responder => keys.ea

def onDhkeyCheck (s : ScPairingSession κ) (received : Octets 16) : Call κ Unit :=
  match s.keys with
  | none => .fail s (.panic "keys derived")
  | some keys =>
    if received ≠ expectedCheck s.role keys then .ok (s.fail .dhKeyCheckFailed) ()
    else if s.role = .responder then (s.push (.pairingDhKeyCheck keys.eb)).finish
    else s.finish

/-! ## 5. Key distribution -/

/-- Take over what the key distribution queued and how far it is. -/
def syncDistribution (s : ScPairingSession κ) (distribution : KeyDistributionSession) :
    ScPairingSession κ :=
  let s := { s with
    outbound := s.outbound ++ distribution.outbound
    distribution := some { distribution with outbound := [] } }
  match distribution.state with
  | .complete => { s with state := .complete }
  | .failed => { s with failure := distribution.failure, state := .failed }
  | .waitEncryption => { s with state := .keyDistribution }
  | .distributing => { s with state := .keyDistribution }

def peerAddress (s : ScPairingSession κ) : Address :=
  match s.role with
  | .initiator => s.responderAddress
  | .responder => s.initiatorAddress

def markEncrypted (s : ScPairingSession κ) : Call κ Unit :=
  match s.outcome with
  | none => .fail s (.error (.invalidPacket "SC pairing is not waiting for encryption"))
  | some outcome =>
    if s.state ≠ .waitEncryption then
      .fail s (.error (.invalidPacket "SC pairing is not waiting for encryption"))
    else
      let distribution := KeyDistributionSession.new
        { role := s.role
          secureConnections := true
          ct2 := outcome.ct2
          authenticated := outcome.authenticated
          maximumEncryptionKeySize := outcome.maximumEncryptionKeySize
          pairingLtk := outcome.ltk
          initiatorKeys := outcome.initiatorKeyDistribution
          responderKeys := outcome.responderKeyDistribution
          localKeys := s.localKeys
          peerAddress := s.peerAddress }
      .ok (s.syncDistribution distribution.markEncrypted) ()

def setLocalKeyMaterial (s : ScPairingSession κ) (keys : LocalKeyMaterial) : Call κ Unit :=
  if s.state ≠ .idle then
    .fail s (.error (.invalidPacket "local keys can only be changed before pairing"))
  else .ok { s with localKeys := keys } ()

/-! ## 6. Received PDUs -/

/-- The handler of a PDU before the link is encrypted. -/
def handle (s : ScPairingSession κ) (pdu : SmpPdu) : Call κ Unit :=
  match s.role, s.state, pdu with
  | .responder, .idle, .pairingRequest features => s.onPairingRequest features
  | .initiator, .waitPairingResponse, .pairingResponse features =>
    s.onPairingResponse prim features
  | _, .waitPublicKey, .pairingPublicKey x y => s.onPublicKey prim x y
  | _, .waitPairingConfirm, .pairingConfirm confirmValue => s.onPairingConfirm prim confirmValue
  | _, .waitPairingRandom, .pairingRandom randomValue => s.onPairingRandom prim randomValue
  | _, .waitDhKeyCheck, .pairingDhKeyCheck dhkeyCheck => s.onDhkeyCheck dhkeyCheck
  | _, _, _ => .ok (s.fail .invalidParameters) ()

def process (s : ScPairingSession κ) (pdu : SmpPdu) : Call κ Unit :=
  if s.state = .failed then .ok s ()
  else
    match pdu with
    | .pairingFailed reason =>
      .ok { s with failure := pairingFailureFromU8 reason, state := .failed } ()
    | pdu =>
      if s.state = .keyDistribution then
        match s.distribution with
        | none => .fail s (.panic "distribution session exists")
        | some distribution => .ok (s.syncDistribution (distribution.process pdu)) ()
      else if pdu.isKeyDistributionPdu then .ok (s.fail .unspecifiedReason) ()
      else s.handle prim pdu

def pollOutbound (s : ScPairingSession κ) : Option (SmpPdu × ScPairingSession κ) :=
  match s.outbound with
  | [] => none
  | pdu :: outbound => some (pdu, { s with outbound })

end Primitive

end ScPairingSession

end Bumble.Smp
