import Bumble.Outcome
import Bumble.SmpDistribution

/-!
# LE Legacy pairing (`bumble-smp/src/session.rs`)

One device's half of a legacy pairing: feature exchange, the temporary key of the
selected method, one confirm and one random value in each direction, and the key
distribution once the link is encrypted with the short term key.
-/

namespace Bumble.Smp

/-! ## 1. The session -/

inductive PairingState where
  | idle
  | waitPairingResponse
  | waitPairingConfirm
  | waitPairingRandom
  | waitEncryption
  | keyDistribution
  | complete
  | failed
deriving DecidableEq, Repr

structure LegacyPairingOutcome where
  stk : Octets 16
  method : PairingMethod
  authenticated : Bool
  bonding : Bool
  ct2 : Bool
  maximumEncryptionKeySize : UInt8
  initiatorKeyDistribution : KeyDistribution
  responderKeyDistribution : KeyDistribution
deriving DecidableEq, Repr

structure LegacyPairingSession (κ : Type) where
  role : PairingRole
  config : PairingConfig κ
  delegate : PairingDelegate
  /-- The calls made to the delegate. -/
  calls : List DelegateCall
  initiatorAddress : Address
  responderAddress : Address
  state : PairingState
  outbound : List SmpPdu
  preq : Option Bytes
  pres : Option Bytes
  peerFeatures : Option PairingFeatures
  selection : Option PairingMethodSelection
  tk : Octets 16
  localRandom : Octets 16
  peerConfirm : Option (Octets 16)
  peerRandom : Option (Octets 16)
  outcome : Option LegacyPairingOutcome
  failure : Option PairingFailureReason
  bonding : Bool
  ct2 : Bool
  maximumEncryptionKeySize : UInt8
  initiatorKeyDistribution : KeyDistribution
  responderKeyDistribution : KeyDistribution
  localKeys : LocalKeyMaterial
  distribution : Option KeyDistributionSession

namespace LegacyPairingSession

variable {κ : Type}

abbrev Call (κ α : Type) := Outcome (LegacyPairingSession κ) Fault α

def new (role : PairingRole) (config : PairingConfig κ) (delegate : PairingDelegate)
    (initiatorAddress responderAddress : Address) (localRandom : Octets 16)
    (random128 : Nat → Octets 16) : Except Error (LegacyPairingSession κ) :=
  match config.capabilities.validate with
  | .error error => .error error
  | .ok () =>
    let identityAddress := match role with
      | .initiator => initiatorAddress
      | .responder => responderAddress
    .ok
      { role, config, delegate
        calls := []
        initiatorAddress, responderAddress
        state := .idle
        outbound := []
        preq := none
        pres := none
        peerFeatures := none
        selection := none
        tk := zeroBlock
        localRandom
        peerConfirm := none
        peerRandom := none
        outcome := none
        failure := none
        bonding := config.bonding
        ct2 := config.ct2
        maximumEncryptionKeySize := config.capabilities.maximumEncryptionKeySize
        initiatorKeyDistribution := config.capabilities.localInitiatorKeyDistribution
        responderKeyDistribution := config.capabilities.localResponderKeyDistribution
        localKeys := LocalKeyMaterial.generate random128 0 identityAddress
        distribution := none }

/-! ## 2. Small steps -/

def push (s : LegacyPairingSession κ) (pdu : SmpPdu) : LegacyPairingSession κ :=
  { s with outbound := s.outbound ++ [pdu] }

def fail (s : LegacyPairingSession κ) (reason : PairingFailureReason) : LegacyPairingSession κ :=
  let s := if s.state ≠ .failed then s.push (.pairingFailed reason.value) else s
  { s with failure := some reason, state := .failed }

def localHasOob (s : LegacyPairingSession κ) : Bool := s.config.legacyContext.isSome

def localFeatures (s : LegacyPairingSession κ) : PairingFeatures where
  ioCapability := s.config.capabilities.ioCapability.value
  oobDataFlag := if s.localHasOob then 1 else 0
  authReq := (AuthReq.fromBooleans s.config.bonding false s.config.mitm false s.config.ct2).flags
  maximumEncryptionKeySize := s.config.capabilities.maximumEncryptionKeySize
  initiatorKeyDistribution := s.config.capabilities.localInitiatorKeyDistribution.flags
  responderKeyDistribution := s.config.capabilities.localResponderKeyDistribution.flags

section Primitive

variable (prim : Primitives κ)

def confirmFor (s : LegacyPairingSession κ) (random : Octets 16) : Except Fault (Octets 16) :=
  match s.preq, s.pres with
  | none, _ => .error (.error (.invalidPacket "missing Pairing Request"))
  | some _, none => .error (.error (.invalidPacket "missing Pairing Response"))
  | some preq, some pres =>
    match c1 prim s.tk random preq pres s.initiatorAddress.randomFlag
        s.responderAddress.randomFlag s.initiatorAddress.addressBytes
        s.responderAddress.addressBytes with
    | none => .error (.panic "xor of different lengths")
    | some confirm => .ok confirm

def localConfirm (s : LegacyPairingSession κ) : Except Fault (Octets 16) :=
  s.confirmFor prim s.localRandom

end Primitive

/-! ## 3. Negotiation -/

/-- Settle the terms with the peer's features; the responder intersects the sets
    from the other side, which comes to the same. -/
def negotiatedResponseFeatures (s : LegacyPairingSession κ) (peer : PairingFeatures) :
    Call κ PairingFeatures :=
  if !validFeatures peer then
    .fail (s.fail .invalidParameters) (.error (.invalidPacket "invalid pairing request features"))
  else
    let local_ := s.localFeatures
    let s := { s with
      maximumEncryptionKeySize :=
        min local_.maximumEncryptionKeySize peer.maximumEncryptionKeySize }
    if s.maximumEncryptionKeySize < 7 then
      .fail (s.fail .encryptionKeySize) (.error (.invalidPacket "encryption key size too small"))
    else
      let s := { s with
        bonding := s.bonding && AuthReq.contains ⟨peer.authReq⟩ .bonding
        ct2 := s.ct2 && AuthReq.contains ⟨peer.authReq⟩ .ct2
        initiatorKeyDistribution :=
          KeyDistribution.intersection ⟨peer.initiatorKeyDistribution⟩ s.initiatorKeyDistribution
        responderKeyDistribution :=
          KeyDistribution.intersection ⟨peer.responderKeyDistribution⟩
            s.responderKeyDistribution }
      .ok s
        { ioCapability := local_.ioCapability
          oobDataFlag := local_.oobDataFlag
          authReq := local_.authReq
          maximumEncryptionKeySize := s.maximumEncryptionKeySize
          initiatorKeyDistribution := s.initiatorKeyDistribution.flags
          responderKeyDistribution := s.responderKeyDistribution.flags }

/-- The method both sets of features select, as this side computes it. -/
def selects (s : LegacyPairingSession κ) (request response : PairingFeatures)
    (initiator responder : IoCapability) : PairingMethodSelection :=
  selectPairingMethodWithOob false s.localHasOob
    (s.peerFeatures.elim (request.oobDataFlag != 0) fun features => features.oobDataFlag != 0)
    s.config.mitm ⟨if s.role = .initiator then response.authReq else request.authReq⟩
    initiator responder

/-- The temporary key with its first four octets replaced by a passkey. -/
def withPasskey (tk : Octets 16) (passkey : UInt32) : Octets 16 :=
  Vector.ofFn fun i => if i.val < 4 then (u32ToLe passkey).getD i 0 else tk.get i

def prepareKey (s : LegacyPairingSession κ) (selection : PairingMethodSelection) : Call κ Bool :=
  match selection.method with
  | .justWorks =>
    let answer := s.delegate.confirm s.calls true
    let s := { s with calls := s.calls ++ [DelegateCall.confirm true answer] }
    if !answer then .ok (s.fail .confirmValueFailed) false
    else .ok { s with tk := zeroBlock } true
  | .passkey =>
    let asked := s.delegate.passkey s.calls (selection.displays s.role)
    let s := { s with calls := s.calls ++ asked.2 }
    match asked.1.filter (· < 1000000) with
    | none => .ok (s.fail .passkeyEntryFailed) false
    | some passkey => .ok { s with tk := withPasskey s.tk passkey } true
  | .oob =>
    match s.config.legacyContext.bind (fun legacy => toArray16 legacy.tk) with
    | none => .ok (s.fail .oobNotAvailable) false
    | some tk => .ok { s with tk } true
  | _ => .ok (s.fail .authenticationRequirements) false

def prepareMethod (s : LegacyPairingSession κ) (request response : PairingFeatures) :
    Call κ Bool :=
  match IoCapability.tryFrom request.ioCapability,
      IoCapability.tryFrom response.ioCapability with
  | .error error, _ => .fail s (.error error)
  | .ok _, .error error => .fail s (.error error)
  | .ok initiator, .ok responder =>
    let selection := s.selects request response initiator responder
    { s with selection := some selection }.prepareKey selection

/-! ## 4. Calls -/

def start (s : LegacyPairingSession κ) : Call κ Unit :=
  if s.role ≠ .initiator ∨ s.state ≠ .idle then
    .fail s (.error (.invalidPacket "only an idle initiator can start pairing"))
  else
    let request := SmpPdu.pairingRequest s.localFeatures
    .ok { s.push request with preq := some request.toBytes, state := .waitPairingResponse } ()

def respond (s : LegacyPairingSession κ) (features : PairingFeatures) : Call κ Unit :=
  let negotiated := s.negotiatedResponseFeatures features
  match negotiated.result with
  -- the failure has been queued, and the error is dropped
  | .error _ => .ok negotiated.state ()
  | .ok response =>
    let pdu := SmpPdu.pairingResponse response
    let s := { negotiated.state with peerFeatures := some features, pres := some pdu.toBytes }
    (s.prepareMethod features response).andThen fun s prepared =>
      if !prepared then .ok s ()
      else .ok { s.push pdu with state := .waitPairingConfirm } ()

def onPairingRequest (s : LegacyPairingSession κ) (features : PairingFeatures) : Call κ Unit :=
  let accepted := s.delegate.accept s.calls
  let s := { s with calls := s.calls ++ [DelegateCall.accept accepted] }
  if !accepted then .ok (s.fail .pairingNotSupported) ()
  else { s with preq := some (SmpPdu.pairingRequest features).toBytes }.respond features

/-- The request this side has sent; without one the pairing fails. -/
def requestFeatures (s : LegacyPairingSession κ) : Except Fault (Option PairingFeatures) :=
  match s.preq with
  | none => .ok none
  | some preq =>
    match SmpPdu.fromBytes preq with
    | .error error => .error (.error error)
    | .ok (.pairingRequest features) => .ok (some features)
    | .ok _ => .error (.panic "preq is always a Pairing Request")

/-- The terms with the response's features taken into account. -/
def settled (s : LegacyPairingSession κ) (features : PairingFeatures) : LegacyPairingSession κ :=
  { s with
    bonding := s.bonding && AuthReq.contains ⟨features.authReq⟩ .bonding
    ct2 := s.ct2 && AuthReq.contains ⟨features.authReq⟩ .ct2
    initiatorKeyDistribution :=
      s.initiatorKeyDistribution.intersection ⟨features.initiatorKeyDistribution⟩
    responderKeyDistribution :=
      s.responderKeyDistribution.intersection ⟨features.responderKeyDistribution⟩
    peerFeatures := some features
    pres := some (SmpPdu.pairingResponse features).toBytes }

section Primitive

variable (prim : Primitives κ)

def queueConfirm (s : LegacyPairingSession κ) : Call κ Unit :=
  match s.localConfirm prim with
  | .error fault => .fail s fault
  | .ok confirm => .ok (s.push (.pairingConfirm confirm)) ()

def onPairingResponse (s : LegacyPairingSession κ) (features : PairingFeatures) : Call κ Unit :=
  match s.requestFeatures with
  | .error fault => .fail s fault
  | .ok none => .ok (s.fail .invalidParameters) ()
  | .ok (some request) =>
    if !validFeatures features then .ok (s.fail .invalidParameters) ()
    else
      let size := min s.maximumEncryptionKeySize features.maximumEncryptionKeySize
      let s := { s with maximumEncryptionKeySize := size }
      if size < 7 then .ok (s.fail .encryptionKeySize) ()
      else
        ((s.settled features).prepareMethod request features).andThen fun s prepared =>
          if !prepared then .ok s ()
          else (s.queueConfirm prim).andThen fun s () =>
            .ok { s with state := .waitPairingConfirm } ()

def onPairingConfirm (s : LegacyPairingSession κ) (confirmValue : Octets 16) : Call κ Unit :=
  let s := { s with peerConfirm := some confirmValue }
  match s.role with
  | .initiator =>
    .ok { s.push (.pairingRandom s.localRandom) with state := .waitPairingRandom } ()
  | .responder =>
    (s.queueConfirm prim).andThen fun s () => .ok { s with state := .waitPairingRandom } ()

/-- The random of the responder and of the initiator. -/
def randoms (s : LegacyPairingSession κ) (randomValue : Octets 16) : Octets 16 × Octets 16 :=
  match s.role with
  | .initiator => (randomValue, s.localRandom)
  | .responder => (s.localRandom, randomValue)

/-- Keep the peer's random; a responder answers with its own. -/
def exchangeRandoms (s : LegacyPairingSession κ) (randomValue : Octets 16) :
    LegacyPairingSession κ :=
  let s := { s with peerRandom := some randomValue }
  match s.role with
  | .initiator => s
  | .responder => s.push (.pairingRandom s.localRandom)

/-- Keep the outcome and wait for the link to be encrypted.  The key size is at
    most 16, so clearing the rest of the key is within its bounds. -/
def finish (s : LegacyPairingSession κ) (randomValue : Octets 16) : Call κ Unit :=
  let (srand, mrand) := s.randoms randomValue
  let stk := truncateKey (s1 prim s.tk srand mrand) s.maximumEncryptionKeySize
  match s.selection with
  | none => .fail s (.panic "method selected")
  | some selection =>
    .ok
      { s with
        outcome := some
          { stk
            method := selection.method
            authenticated := selection.method ≠ .justWorks
            bonding := s.bonding
            ct2 := s.ct2
            maximumEncryptionKeySize := s.maximumEncryptionKeySize
            initiatorKeyDistribution := s.initiatorKeyDistribution
            responderKeyDistribution := s.responderKeyDistribution }
        state := .waitEncryption } ()

def onPairingRandom (s : LegacyPairingSession κ) (randomValue : Octets 16) : Call κ Unit :=
  match s.confirmFor prim randomValue with
  | .error fault => .fail s fault
  | .ok expected =>
    if s.peerConfirm ≠ some expected then .ok (s.fail .confirmValueFailed) ()
    else (s.exchangeRandoms randomValue).finish prim randomValue

/-! ## 5. Key distribution -/

/-- Take over what the key distribution queued and how far it is. -/
def syncDistribution (s : LegacyPairingSession κ) (distribution : KeyDistributionSession) :
    LegacyPairingSession κ :=
  let s := { s with
    outbound := s.outbound ++ distribution.outbound
    distribution := some { distribution with outbound := [] } }
  match distribution.state with
  | .complete => { s with state := .complete }
  | .failed => { s with failure := distribution.failure, state := .failed }
  | .waitEncryption => { s with state := .keyDistribution }
  | .distributing => { s with state := .keyDistribution }

def peerAddress (s : LegacyPairingSession κ) : Address :=
  match s.role with
  | .initiator => s.responderAddress
  | .responder => s.initiatorAddress

def markEncrypted (s : LegacyPairingSession κ) : Call κ Unit :=
  match s.outcome with
  | none => .fail s (.error (.invalidPacket "pairing is not waiting for encryption"))
  | some outcome =>
    if s.state ≠ .waitEncryption then
      .fail s (.error (.invalidPacket "pairing is not waiting for encryption"))
    else
      let distribution := KeyDistributionSession.new
        { role := s.role
          secureConnections := false
          ct2 := outcome.ct2
          authenticated := outcome.authenticated
          maximumEncryptionKeySize := outcome.maximumEncryptionKeySize
          pairingLtk := outcome.stk
          initiatorKeys := outcome.initiatorKeyDistribution
          responderKeys := outcome.responderKeyDistribution
          localKeys := s.localKeys
          peerAddress := s.peerAddress }
      .ok (s.syncDistribution distribution.markEncrypted) ()

def setLocalKeyMaterial (s : LegacyPairingSession κ) (keys : LocalKeyMaterial) : Call κ Unit :=
  if s.state ≠ .idle then
    .fail s (.error (.invalidPacket "local keys can only be changed before pairing"))
  else .ok { s with localKeys := keys } ()

/-! ## 6. Received PDUs -/

/-- The handler of a PDU before the link is encrypted. -/
def handle (s : LegacyPairingSession κ) (pdu : SmpPdu) : Call κ Unit :=
  match s.role, s.state, pdu with
  | .responder, .idle, .pairingRequest features => s.onPairingRequest features
  | .initiator, .waitPairingResponse, .pairingResponse features =>
    s.onPairingResponse prim features
  | _, .waitPairingConfirm, .pairingConfirm confirmValue => s.onPairingConfirm prim confirmValue
  | _, .waitPairingRandom, .pairingRandom randomValue => s.onPairingRandom prim randomValue
  | _, _, _ => .ok (s.fail .invalidParameters) ()

def process (s : LegacyPairingSession κ) (pdu : SmpPdu) : Call κ Unit :=
  if s.state = .failed then .ok s ()
  else
    match pdu with
    | .pairingFailed reason =>
      .ok { s with failure := pairingFailureFromU8 reason, state := .failed } ()
    | pdu =>
      if s.state = .keyDistribution then
        match s.distribution with
        | none => .fail s (.panic "distribution session exists")
        | some distribution => .ok (s.syncDistribution (distribution.process pdu)) ()
      else if pdu.isKeyDistributionPdu then .ok (s.fail .unspecifiedReason) ()
      else s.handle prim pdu

def pollOutbound (s : LegacyPairingSession κ) : Option (SmpPdu × LegacyPairingSession κ) :=
  match s.outbound with
  | [] => none
  | pdu :: outbound => some (pdu, { s with outbound })

end Primitive

end LegacyPairingSession

end Bumble.Smp
