import Bumble.ScSteps

/-!
# The transcript of a Secure Connections pairing

Before it has an outcome, a session that has not failed is at one of six stages,
and at each of them everything it has received and queued, and everything it has
checked, is determined by an `Exchange`: the features, the peer's public key and
the rounds of confirm and random values so far.  `Stage` relates a session to its
exchange; each handler has a lemma that says when it goes on to the next stage
and one that says it fails otherwise.
-/

namespace Bumble.Smp.ScPairingSession

variable {κ : Type} {s s' s0 : ScPairingSession κ} (prim : Primitives κ)

/-! ## 1. Fresh sessions -/

/-- A session as `new` returns it. -/
structure Fresh (s : ScPairingSession κ) : Prop where
  state : s.state = .idle
  calls : s.calls = []
  outbound : s.outbound = []
  passkeyStep : s.passkeyStep = 0
  outcome : s.outcome = none
  distribution : s.distribution = none
  bonding : s.bonding = s.config.bonding
  ct2 : s.ct2 = s.config.ct2
  size : s.maximumEncryptionKeySize = s.config.capabilities.maximumEncryptionKeySize
  initiatorKeys : s.initiatorKeyDistribution = s.config.capabilities.localInitiatorKeyDistribution
  responderKeys : s.responderKeyDistribution = s.config.capabilities.localResponderKeyDistribution
  valid : s.config.capabilities.validate = .ok ()
  context : ∀ context, s.config.ourContext = some context →
    s.eccKey = context.eccKey ∧ s.localNonce = context.r

theorem new_fresh {role : PairingRole} {config : PairingConfig κ} {delegate : PairingDelegate}
    {initiatorAddress responderAddress : Address} {eccKey : κ} {localNonce : Octets 16}
    {random128 : Nat → Octets 16}
    (hnew : new role config delegate initiatorAddress responderAddress eccKey localNonce random128 =
      .ok s) : Fresh s := by
  unfold new at hnew
  split at hnew
  · cases hnew
  · next hvalid =>
    split at hnew
    · cases hnew
    · cases hnew
      refine ⟨rfl, rfl, rfl, rfl, rfl, rfl, rfl, rfl, rfl, rfl, rfl, hvalid, ?_⟩
      intro context hcontext
      simp [hcontext]

structure Keeps (s0 s : ScPairingSession κ) : Prop where
  role : s.role = s0.role
  config : s.config = s0.config
  delegate : s.delegate = s0.delegate
  initiatorAddress : s.initiatorAddress = s0.initiatorAddress
  responderAddress : s.responderAddress = s0.responderAddress
  eccKey : s.eccKey = s0.eccKey
  random128 : s.random128 = s0.random128

namespace Keeps

theorem follows (hkeeps : Keeps s0 s) (hfollows : Follows s s') : Keeps s0 s' :=
  ⟨hfollows.role.trans hkeeps.role, hfollows.config.trans hkeeps.config,
    hfollows.delegate.trans hkeeps.delegate,
    hfollows.initiatorAddress.trans hkeeps.initiatorAddress,
    hfollows.responderAddress.trans hkeeps.responderAddress,
    hfollows.eccKey.trans hkeeps.eccKey, hfollows.random128.trans hkeeps.random128⟩

theorem localFeatures (hkeeps : Keeps s0 s) : s.localFeatures = s0.localFeatures := by
  simp only [ScPairingSession.localFeatures, hkeeps.config]

theorem publicXLe (hkeeps : Keeps s0 s) : s.publicXLe prim = s0.publicXLe prim := by
  simp only [ScPairingSession.publicXLe, hkeeps.eccKey]

theorem publicYLe (hkeeps : Keeps s0 s) : s.publicYLe prim = s0.publicYLe prim := by
  simp only [ScPairingSession.publicYLe, hkeeps.eccKey]

theorem publicKeyPdu (hkeeps : Keeps s0 s) : s.publicKeyPdu prim = s0.publicKeyPdu prim := by
  simp only [ScPairingSession.publicKeyPdu, hkeeps.publicXLe, hkeeps.publicYLe]

theorem selection (hkeeps : Keeps s0 s) (request response : PairingFeatures)
    (initiator responder : IoCapability) :
    s.selection request response initiator responder =
      s0.selection request response initiator responder := by
  simp only [ScPairingSession.selection, hkeeps.config, hkeeps.role]

end Keeps

/-! ## 2. What is negotiated -/

def agreedSize (s0 : ScPairingSession κ) (peer : PairingFeatures) : UInt8 :=
  min s0.config.capabilities.maximumEncryptionKeySize peer.maximumEncryptionKeySize

def agreedInitiatorKeys (s0 : ScPairingSession κ) (peer : PairingFeatures) : KeyDistribution :=
  s0.config.capabilities.localInitiatorKeyDistribution.intersection
    ⟨peer.initiatorKeyDistribution⟩

def agreedResponderKeys (s0 : ScPairingSession κ) (peer : PairingFeatures) : KeyDistribution :=
  s0.config.capabilities.localResponderKeyDistribution.intersection
    ⟨peer.responderKeyDistribution⟩

def answer (s0 : ScPairingSession κ) (request : PairingFeatures) : PairingFeatures :=
  { s0.localFeatures with
    maximumEncryptionKeySize := s0.agreedSize request
    initiatorKeyDistribution := (s0.agreedInitiatorKeys request).flags
    responderKeyDistribution := (s0.agreedResponderKeys request).flags }

/-- The session with its terms settled against the peer's features. -/
def settle (s0 s : ScPairingSession κ) (peer : PairingFeatures) : ScPairingSession κ :=
  { s with
    maximumEncryptionKeySize := s0.agreedSize peer
    bonding := s0.config.bonding && AuthReq.contains ⟨peer.authReq⟩ .bonding
    ct2 := s0.config.ct2 && AuthReq.contains ⟨peer.authReq⟩ .ct2
    initiatorKeyDistribution := s0.agreedInitiatorKeys peer
    responderKeyDistribution := s0.agreedResponderKeys peer }

/-- The features a peer may offer to this session. -/
structure Acceptable (s0 : ScPairingSession κ) (peer : PairingFeatures) : Prop where
  valid : validFeatures peer = true
  secure : AuthReq.contains ⟨peer.authReq⟩ .secureConnections = true
  size : 7 ≤ s0.agreedSize peer

/-- The method, the passkey and the calls made to choose them, unless the session
    has to give up. -/
def choose (s0 : ScPairingSession κ) (calls : List DelegateCall)
    (selection : PairingMethodSelection) :
    Option (PairingMethod × UInt32 × List DelegateCall) :=
  match selection.method with
  | .passkey =>
    let asked := s0.delegate.passkey calls (selection.displays s0.role)
    (asked.1.filter (· < 1000000)).map fun passkey => (.passkey, passkey, asked.2)
  | .oob => if s0.config.ourContext.isNone then none else some (.oob, 0, [])
  | .justWorks => some (.justWorks, 0, [])
  | .numericComparison => some (.numericComparison, 0, [])
  | .ctkdOverClassic => none

theorem Keeps.choose (hkeeps : Keeps s0 s) (calls : List DelegateCall)
    (selection : PairingMethodSelection) :
    s.choose calls selection = s0.choose calls selection := by
  simp only [ScPairingSession.choose, hkeeps.role, hkeeps.delegate, hkeeps.config]

def adopt (s : ScPairingSession κ) (method : PairingMethod) (passkey : UInt32)
    (asked : List DelegateCall) : ScPairingSession κ :=
  { s with
    calls := s.calls ++ asked
    method := some method
    passkey := if method = .passkey then some passkey else s.passkey }

/-- The method is adopted when one is chosen; the pairing fails otherwise. -/
theorem selectMethod_choose {request response : PairingFeatures}
    {initiator responder : IoCapability}
    (hrequest : IoCapability.tryFrom request.ioCapability = .ok initiator)
    (hresponse : IoCapability.tryFrom response.ioCapability = .ok responder) :
    match s.choose s.calls (s.selection request response initiator responder) with
    | some (method, passkey, asked) =>
      s.selectMethod request response = .ok (s.adopt method passkey asked) true
    | none => (s.selectMethod request response).result = .ok false ∧
      (s.selectMethod request response).state.state = .failed := by
  simp only [selectMethod, hrequest, hresponse, choose]
  generalize s.selection request response initiator responder = selection
  cases hmethod : selection.method with
  | passkey =>
    dsimp only
    cases (s.delegate.passkey s.calls (selection.displays s.role)).1.filter
        (fun passkey => decide (passkey < 1000000)) with
    | none => simp
    | some key => simp [adopt]
  | oob => by_cases hcontext : s.config.ourContext.isNone <;> simp [hcontext, adopt]
  | justWorks => simp [adopt]
  | numericComparison => simp [adopt]
  | ctkdOverClassic => simp

/-- The session still has the terms of its configuration. -/
structure Unsettled (s0 s : ScPairingSession κ) : Prop where
  keeps : Keeps s0 s
  bonding : s.bonding = s0.config.bonding
  ct2 : s.ct2 = s0.config.ct2
  size : s.maximumEncryptionKeySize = s0.config.capabilities.maximumEncryptionKeySize
  initiatorKeys : s.initiatorKeyDistribution = s0.config.capabilities.localInitiatorKeyDistribution
  responderKeys : s.responderKeyDistribution = s0.config.capabilities.localResponderKeyDistribution

theorem applyNegotiated_settles (hs : Unsettled s0 s) {peer : PairingFeatures}
    (hsize : 7 ≤ s0.agreedSize peer) : s.applyNegotiated peer = .ok (settle s0 s peer) () := by
  have hmin : ¬ min s0.config.capabilities.maximumEncryptionKeySize
      peer.maximumEncryptionKeySize < 7 := UInt8.not_lt.mpr hsize
  simp only [applyNegotiated, hs.size, hs.bonding, hs.ct2, hs.initiatorKeys, hs.responderKeys,
    if_neg hmin]
  rfl

theorem applyNegotiated_fails (hs : Unsettled s0 s) {peer : PairingFeatures}
    (hsize : ¬ 7 ≤ s0.agreedSize peer) :
    (s.applyNegotiated peer).state.state = .failed ∧
      ∃ fault, (s.applyNegotiated peer).result = .error fault := by
  have hmin : min s0.config.capabilities.maximumEncryptionKeySize
      peer.maximumEncryptionKeySize < 7 := UInt8.not_le.mp hsize
  simp [applyNegotiated, hs.size, hmin]

theorem negotiateResponse_accepts (hs : Unsettled s0 s) {peer : PairingFeatures}
    (hpeer : s0.Acceptable peer) :
    s.negotiateResponse peer = .ok (settle s0 s peer) (s0.answer peer) := by
  simp only [negotiateResponse, hpeer.valid, hpeer.secure, Bool.not_true, Bool.false_eq_true,
    if_false, applyNegotiated_settles hs hpeer.size, Outcome.ok_andThen]
  simp only [answer, ← hs.keeps.localFeatures]
  rfl

theorem negotiateResponse_rejects (hs : Unsettled s0 s) {peer : PairingFeatures}
    (hpeer : ¬ s0.Acceptable peer) :
    (s.negotiateResponse peer).state.state = .failed ∧
      ∃ fault, (s.negotiateResponse peer).result = .error fault := by
  unfold negotiateResponse
  split
  · simp
  · next hvalid =>
    split
    · simp
    · next hsecure =>
      have hsize : ¬ 7 ≤ s0.agreedSize peer := by
        intro hsize
        exact hpeer ⟨by simpa using hvalid, by simpa using hsecure, hsize⟩
      obtain ⟨hfailed, fault, hfault⟩ := applyNegotiated_fails hs hsize
      simp [Outcome.andThen, hfailed, hfault]

/-! ## 3. Exchanges -/

/-- One round of confirm and random values.  A responder outside passkey entry
    receives no confirm value, and an initiator there sends none. -/
structure Round where
  peerConfirm : Octets 16
  peerNonce : Octets 16
  ownConfirm : Octets 16
  ownNonce : Octets 16

structure Exchange where
  request : PairingFeatures
  response : PairingFeatures
  method : PairingMethod
  passkey : UInt32
  x : Octets 32
  y : Octets 32
  dhKey : Octets 32
  rounds : List Round

/-- Whether a side checks a commitment of its peer in each round. -/
def checks (role : PairingRole) (method : PairingMethod) : Bool :=
  role = .initiator || method = .passkey

/-- Whether a side commits to its random value in each round. -/
def commits (role : PairingRole) (method : PairingMethod) : Bool :=
  role = .responder || method = .passkey

def roundCount (method : PairingMethod) : Nat := if method = .passkey then 20 else 1

namespace Exchange

variable (ex : Exchange)

def peer : PairingRole → PairingFeatures
  | .initiator => ex.response
  | .responder => ex.request

def peerFeaturesPdu : PairingRole → SmpPdu
  | .initiator => .pairingResponse ex.response
  | .responder => .pairingRequest ex.request

def ownFeaturesPdu : PairingRole → SmpPdu
  | .initiator => .pairingRequest ex.request
  | .responder => .pairingResponse ex.response

/-- The octet under which the values of a round are committed to. -/
def z (round : Nat) : UInt8 := if ex.method = .passkey then passkeyBit ex.passkey round else 0

/-- The confirm values each side of a round should have sent. -/
def peerCommitment (ownX : Octets 32) (round : Nat) (nonce : Octets 16) : Octets 16 :=
  confirmValueWithZ prim ex.x ownX nonce (ex.z round)

def ownCommitment (ownX : Octets 32) (round : Nat) (nonce : Octets 16) : Octets 16 :=
  confirmValueWithZ prim ownX ex.x nonce (ex.z round)

def receivedRounds (role : PairingRole) : List SmpPdu :=
  ex.rounds.flatMap fun round =>
    (if checks role ex.method then [.pairingConfirm round.peerConfirm] else []) ++
      [.pairingRandom round.peerNonce]

def sentRounds (role : PairingRole) : List SmpPdu :=
  ex.rounds.flatMap fun round =>
    (if commits role ex.method then [.pairingConfirm round.ownConfirm] else []) ++
      [.pairingRandom round.ownNonce]

/-- What has been received when all rounds so far are done. -/
def received (role : PairingRole) : List SmpPdu :=
  [ex.peerFeaturesPdu role, .pairingPublicKey ex.x ex.y] ++ ex.receivedRounds role

/-- What has been queued when all rounds so far are done. -/
def sent (s0 : ScPairingSession κ) : List SmpPdu :=
  [ex.ownFeaturesPdu s0.role, s0.publicKeyPdu prim] ++ ex.sentRounds s0.role

def rValues (s0 : ScPairingSession κ) : Octets 16 × Octets 16 :=
  match ex.method with
  | .passkey => (passkeyR ex.passkey, passkeyR ex.passkey)
  | .oob =>
    byRole s0.role ((s0.config.ourContext.map (·.r)).getD zeroBlock)
      ((s0.config.peerData.bind fun data => toArray16 data.r).getD zeroBlock)
  | _ => (zeroBlock, zeroBlock)

/-- The octets of a set of features that enter the DHKey checks. -/
def ioCapOf (features : PairingFeatures) : Octets 3 :=
  #v[features.ioCapability, features.oobDataFlag, features.authReq]

/-- The keys that follow from an exchange and the last two random values. -/
def keys (s0 : ScPairingSession κ) (ownNonce peerNonce : Octets 16) : ScKeys :=
  keysWithR prim ex.dhKey (byRole s0.role ownNonce peerNonce).1
    (byRole s0.role ownNonce peerNonce).2
    s0.initiatorAddress.addressBytes s0.initiatorAddress.randomFlag
    s0.responderAddress.addressBytes s0.responderAddress.randomFlag
    (ioCapOf ex.request) (ioCapOf ex.response)
    (byRole s0.role (s0.publicXLe prim) ex.x).1 (byRole s0.role (s0.publicXLe prim) ex.x).2
    (ex.rValues s0).1 (ex.rValues s0).2

/-! ### What a side has checked -/

/-- The calls a session has made before it chooses the method. -/
def firstCalls : PairingRole → List DelegateCall
  | .initiator => []
  | .responder => [.accept true]

/-- The features are settled and the method follows from them. -/
structure Settled (s0 : ScPairingSession κ) (calls : List DelegateCall) : Prop where
  own : ex.ownFeaturesPdu s0.role = match s0.role with
    | .initiator => .pairingRequest s0.localFeatures
    | .responder => .pairingResponse (s0.answer ex.request)
  acceptable : s0.Acceptable (ex.peer s0.role)
  chosen : ∃ initiator responder asked,
    IoCapability.tryFrom ex.request.ioCapability = .ok initiator ∧
    IoCapability.tryFrom ex.response.ioCapability = .ok responder ∧
    s0.choose (firstCalls s0.role) (s0.selection ex.request ex.response initiator responder) =
      some (ex.method, ex.passkey, asked) ∧
    firstCalls s0.role ++ asked <+: calls

/-- The peer's public key is a point of the curve other than our own, and it is the
    one the out-of-band data commits to. -/
structure KeyAccepted (s0 : ScPairingSession κ) : Prop where
  notOwn : ¬ (ex.x = s0.publicXLe prim ∧ ex.y = s0.publicYLe prim)
  onCurve : prim.dh s0.eccKey ex.x.reverse ex.y.reverse = some ex.dhKey.reverse
  outOfBand : ex.method = .oob → ∀ data, s0.config.peerData = some data →
    ∃ r, toArray16 data.r = some r ∧ data.c = (confirmValueWithZ prim ex.x ex.x r 0).toList

/-- Every commitment of the rounds so far opens to the random value that followed. -/
def RoundsChecked (s0 : ScPairingSession κ) : Prop :=
  ∀ index round, ex.rounds[index]? = some round →
    (checks s0.role ex.method = true →
      round.peerConfirm = ex.peerCommitment prim (s0.publicXLe prim) index round.peerNonce) ∧
    (commits s0.role ex.method = true →
      round.ownConfirm = ex.ownCommitment prim (s0.publicXLe prim) index round.ownNonce)

def Consented (calls : List DelegateCall) (number : UInt32) : Prop :=
  match ex.method with
  | .justWorks => DelegateCall.confirm true true ∈ calls
  | .numericComparison => DelegateCall.compareNumbers number 6 true ∈ calls
  | _ => True

end Exchange

/-! ## 4. Stages -/

/-- The session's terms are those settled against the peer's features. -/
structure Terms (s0 s : ScPairingSession κ) (peer : PairingFeatures) : Prop where
  size : s.maximumEncryptionKeySize = s0.agreedSize peer
  bonding : s.bonding = (s0.config.bonding && AuthReq.contains ⟨peer.authReq⟩ .bonding)
  ct2 : s.ct2 = (s0.config.ct2 && AuthReq.contains ⟨peer.authReq⟩ .ct2)
  initiatorKeys : s.initiatorKeyDistribution = s0.agreedInitiatorKeys peer
  responderKeys : s.responderKeyDistribution = s0.agreedResponderKeys peer

/-- The session holds the settled terms of an exchange. -/
structure Holds (s0 s : ScPairingSession κ) (ex : Exchange) : Prop where
  keeps : Keeps s0 s
  settled : ex.Settled s0 s.calls
  outcome : s.outcome = none
  distribution : s.distribution = none
  preq : s.preq = some (SmpPdu.pairingRequest ex.request).toBytes
  pres : s.pres = some (SmpPdu.pairingResponse ex.response).toBytes
  method : s.method = some ex.method
  passkey : ex.method = .passkey → s.passkey = some ex.passkey
  terms : Terms s0 s (ex.peer s0.role)

/-- The session holds the peer's public key and is in the round after those of the
    exchange. -/
structure InRound (s0 s : ScPairingSession κ) (ex : Exchange) : Prop where
  holds : Holds s0 s ex
  accepted : ex.KeyAccepted prim s0
  checked : ex.RoundsChecked prim s0
  peerPublicX : s.peerPublicX = some ex.x
  dhKey : s.dhKey = some ex.dhKey
  step : s.passkeyStep = ex.rounds.length
  more : ex.rounds.length < roundCount ex.method

/-- The value this side commits to in the current round. -/
def currentConfirm (s0 s : ScPairingSession κ) (ex : Exchange) : SmpPdu :=
  .pairingConfirm (ex.ownCommitment prim (s0.publicXLe prim) ex.rounds.length s.localNonce)

/-- A session without an outcome, what it has received and what it has queued. -/
inductive Stage (s0 : ScPairingSession κ) :
    ScPairingSession κ → List SmpPdu → List SmpPdu → Prop where
  | idle {s : ScPairingSession κ}
      (hs : s = { s0 with localKeys := s.localKeys, outbound := s.outbound }) :
      Stage s0 s [] []
  | requested {s : ScPairingSession κ} (hrole : s0.role = .initiator)
      (hs : s =
        { s0 with
          localKeys := s.localKeys
          outbound := s.outbound
          preq := some (SmpPdu.pairingRequest s0.localFeatures).toBytes
          state := .waitPairingResponse }) :
      Stage s0 s [] [.pairingRequest s0.localFeatures]
  | negotiated {s : ScPairingSession κ} (ex : Exchange) (hstate : s.state = .waitPublicKey)
      (hholds : Holds s0 s ex) (hrounds : ex.rounds = []) (hstep : s.passkeyStep = 0) :
      Stage s0 s [ex.peerFeaturesPdu s0.role]
        ([ex.ownFeaturesPdu s0.role] ++
          if s0.role = .initiator then [s0.publicKeyPdu prim] else [])
  | confirming {s : ScPairingSession κ} (ex : Exchange) (hstate : s.state = .waitPairingConfirm)
      (hround : InRound prim s0 s ex) (hchecks : checks s0.role ex.method = true) :
      Stage s0 s (ex.received s0.role)
        (ex.sent prim s0 ++
          if s0.role = .initiator ∧ ex.method = .passkey then [currentConfirm prim s0 s ex] else [])
  | committed {s : ScPairingSession κ} (ex : Exchange) (confirm : Octets 16)
      (hstate : s.state = .waitPairingRandom) (hround : InRound prim s0 s ex)
      (hconfirm : checks s0.role ex.method = true → s.peerConfirm = some confirm) :
      Stage s0 s
        (ex.received s0.role ++
          if checks s0.role ex.method then [.pairingConfirm confirm] else [])
        (ex.sent prim s0 ++
          (if commits s0.role ex.method then [currentConfirm prim s0 s ex] else []) ++
          if s0.role = .initiator then [.pairingRandom s.localNonce] else [])
  | derived {s : ScPairingSession κ} (ex : Exchange) (last : Round)
      (hstate : s.state = .waitDhKeyCheck) (hholds : Holds s0 s ex)
      (haccepted : ex.KeyAccepted prim s0) (hchecked : ex.RoundsChecked prim s0)
      (hcount : ex.rounds.length = roundCount ex.method) (hlast : ex.rounds.getLast? = some last)
      (hkeys : s.keys = some (ex.keys prim s0 last.ownNonce last.peerNonce))
      (hconsented : ex.Consented s.calls
        (ex.keys prim s0 last.ownNonce last.peerNonce).numericCheck) :
      Stage s0 s (ex.received s0.role)
        (ex.sent prim s0 ++
          if s0.role = .initiator then
            [.pairingDhKeyCheck (ex.keys prim s0 last.ownNonce last.peerNonce).ea] else [])

variable {prim} in
theorem Stage.cast {received received' queued queued' : List SmpPdu}
    (hstage : Stage prim s0 s received queued) (hreceived : received = received')
    (hqueued : queued = queued') : Stage prim s0 s received' queued' :=
  hreceived ▸ hqueued ▸ hstage

/-! ## 5. The feature exchange -/

/-- A received PDU took the session to the next stage. -/
def Advances (s0 s : ScPairingSession κ) (received queued : List SmpPdu) (pdu : SmpPdu)
    (s' : ScPairingSession κ) : Prop :=
  ∃ pdus, s'.outbound = s.outbound ++ pdus ∧ Stage prim s0 s' (received ++ [pdu]) (queued ++ pdus)

theorem Fresh.unsettled (hfresh : Fresh s0) (hkeeps : Keeps s0 s)
    (hbonding : s.bonding = s0.bonding)
    (hct2 : s.ct2 = s0.ct2) (hsize : s.maximumEncryptionKeySize = s0.maximumEncryptionKeySize)
    (hinitiator : s.initiatorKeyDistribution = s0.initiatorKeyDistribution)
    (hresponder : s.responderKeyDistribution = s0.responderKeyDistribution) : Unsettled s0 s :=
  ⟨hkeeps, hbonding.trans hfresh.bonding, hct2.trans hfresh.ct2, hsize.trans hfresh.size,
    hinitiator.trans hfresh.initiatorKeys, hresponder.trans hfresh.responderKeys⟩

/-- What an exchange knows before the public keys. -/
def Exchange.ofFeatures (request response : PairingFeatures) (method : PairingMethod)
    (passkey : UInt32) : Exchange where
  request := request
  response := response
  method := method
  passkey := passkey
  x := Vector.replicate 32 0
  y := Vector.replicate 32 0
  dhKey := Vector.replicate 32 0
  rounds := []

theorem start_advances (hfresh : Fresh s0) (hrole : s0.role = .initiator)
    (hs : s = { s0 with localKeys := s.localKeys, outbound := s.outbound }) :
    s.start.result = .ok () ∧
      s.start.state.outbound = s.outbound ++ [.pairingRequest s0.localFeatures] ∧
      Stage prim s0 s.start.state [] [.pairingRequest s0.localFeatures] := by
  have hidle : ¬ (s.role ≠ .initiator ∨ s.state ≠ .idle) := by
    rw [hs]
    simp [hrole, hfresh.state]
  have hfeatures : s.localFeatures = s0.localFeatures := by rw [hs]; rfl
  simp only [start, if_neg hidle, hfeatures]
  refine ⟨rfl, rfl, .requested hrole ?_⟩
  rw [hs]
  rfl

theorem holds_adopt (hs : Unsettled s0 s) (ex : Exchange) {asked : List DelegateCall}
    (houtcome : s.outcome = none) (hdistribution : s.distribution = none)
    (hpreq : s.preq = some (SmpPdu.pairingRequest ex.request).toBytes)
    (hpres : s.pres = some (SmpPdu.pairingResponse ex.response).toBytes)
    (hsettled : ex.Settled s0 (s.calls ++ asked)) :
    Holds s0 ((settle s0 s (ex.peer s0.role)).adopt ex.method ex.passkey asked) ex where
  keeps := ⟨hs.keeps.role, hs.keeps.config, hs.keeps.delegate, hs.keeps.initiatorAddress,
    hs.keeps.responderAddress, hs.keeps.eccKey, hs.keeps.random128⟩
  settled := hsettled
  outcome := houtcome
  distribution := hdistribution
  preq := hpreq
  pres := hpres
  method := rfl
  passkey := by
    intro hmethod
    simp [adopt, hmethod]
  terms := ⟨rfl, rfl, rfl, rfl, rfl⟩

theorem Holds.congr {ex ex' : Exchange} (hholds : Holds s0 s ex) (hfollows : Follows s s')
    (hrequest : ex'.request = ex.request) (hresponse : ex'.response = ex.response)
    (hmethod : ex'.method = ex.method) (hpasskey : ex'.passkey = ex.passkey)
    (hpreq : s'.preq = s.preq) (hpres : s'.pres = s.pres) (hselected : s'.method = s.method)
    (hentered : s'.passkey = s.passkey)
    (hsize : s'.maximumEncryptionKeySize = s.maximumEncryptionKeySize)
    (hbonding : s'.bonding = s.bonding) (hct2 : s'.ct2 = s.ct2)
    (hinitiator : s'.initiatorKeyDistribution = s.initiatorKeyDistribution)
    (hresponder : s'.responderKeyDistribution = s.responderKeyDistribution) : Holds s0 s' ex' := by
  have hpeer : ex'.peer s0.role = ex.peer s0.role := by
    cases s0.role <;> simp [Exchange.peer, hrequest, hresponse]
  have hown : ex'.ownFeaturesPdu s0.role = ex.ownFeaturesPdu s0.role := by
    cases s0.role <;> simp [Exchange.ownFeaturesPdu, hrequest, hresponse]
  obtain ⟨initiator, responder, asked, hio, hio', hchoose, hcalls⟩ := hholds.settled.chosen
  refine ⟨hholds.keeps.follows hfollows, ⟨?_, ?_, initiator, responder, asked, ?_, ?_, ?_, ?_⟩,
    hfollows.outcome.trans hholds.outcome, hfollows.distribution.trans hholds.distribution, ?_, ?_,
    ?_, ?_, ?_⟩
  · rw [hown, hrequest]; exact hholds.settled.own
  · rw [hpeer]; exact hholds.settled.acceptable
  · rw [hrequest]; exact hio
  · rw [hresponse]; exact hio'
  · rw [hrequest, hresponse, hmethod, hpasskey]; exact hchoose
  · exact hcalls.trans hfollows.calls
  · rw [hpreq, hrequest]; exact hholds.preq
  · rw [hpres, hresponse]; exact hholds.pres
  · rw [hselected, hmethod]; exact hholds.method
  · rw [hentered, hmethod, hpasskey]; exact hholds.passkey
  · rw [hpeer]
    exact ⟨hsize.trans hholds.terms.size, hbonding.trans hholds.terms.bonding,
      hct2.trans hholds.terms.ct2, hinitiator.trans hholds.terms.initiatorKeys,
      hresponder.trans hholds.terms.responderKeys⟩

theorem Holds.queue {ex : Exchange} (hholds : Holds s0 s ex) (state : ScPairingState)
    (pdu : SmpPdu) (hpdu : pdu.isKeyDistributionPdu = false) :
    Holds s0 { s.push pdu with state := state } ex :=
  hholds.congr ((Follows.push hpdu).trans (.still rfl rfl rfl rfl rfl rfl rfl rfl rfl rfl rfl rfl))
    rfl rfl rfl rfl rfl rfl rfl rfl rfl rfl rfl rfl rfl

/-- An acceptable request with a method to choose takes the responder on. -/
theorem respond_accepts (hs : Unsettled s0 s) (hrole : s0.role = .responder)
    {features : PairingFeatures}
    (hpreq : s.preq = some (SmpPdu.pairingRequest features).toBytes)
    (hcalls : s.calls = [.accept true])
    (houtcome : s.outcome = none) (hdistribution : s.distribution = none)
    (hstep : s.passkeyStep = 0) (hpeer : s0.Acceptable features)
    {initiator responder : IoCapability}
    (hrequest : IoCapability.tryFrom features.ioCapability = .ok initiator)
    (hresponse : IoCapability.tryFrom (s0.answer features).ioCapability = .ok responder)
    {method : PairingMethod} {passkey : UInt32} {asked : List DelegateCall}
    (hchoose : s0.choose [.accept true]
      (s0.selection features (s0.answer features) initiator responder) =
      some (method, passkey, asked)) :
    Advances prim s0 s [] [] (.pairingRequest features) (s.respond features).state := by
  let t := { s with pres := some (SmpPdu.pairingResponse (s0.answer features)).toBytes }
  let ex := Exchange.ofFeatures features (s0.answer features) method passkey
  have hkeeps : Keeps s0 (settle s0 t features) :=
    ⟨hs.keeps.role, hs.keeps.config, hs.keeps.delegate, hs.keeps.initiatorAddress,
      hs.keeps.responderAddress, hs.keeps.eccKey, hs.keeps.random128⟩
  have hselect : (settle s0 t features).selectMethod features (s0.answer features) =
      .ok ((settle s0 t features).adopt method passkey asked) true := by
    have hadopts := selectMethod_choose (s := settle s0 t features) hrequest hresponse
    rwa [hkeeps.choose, hkeeps.selection, show (settle s0 t features).calls = s.calls from rfl,
      hcalls, hchoose] at hadopts
  have hresult : (s.respond features).state =
      { ((settle s0 t features).adopt method passkey asked).push
          (.pairingResponse (s0.answer features)) with state := .waitPublicKey } := by
    have hchosen : { settle s0 s features with
        pres := some (SmpPdu.pairingResponse (s0.answer features)).toBytes } =
        settle s0 t features := rfl
    simp only [respond, negotiateResponse_accepts hs hpeer, Outcome.ok_state, Outcome.ok_result,
      hchosen, hselect, Outcome.ok_andThen]
    rfl
  have hsettled : ex.Settled s0 (t.calls ++ asked) := by
    refine ⟨by simp [Exchange.ownFeaturesPdu, hrole, ex, Exchange.ofFeatures], ?_,
      initiator, responder, asked, hrequest, hresponse, ?_, ?_⟩
    · rw [hrole]; exact hpeer
    · rw [hrole]; exact hchoose
    · rw [hrole]
      have hfirst : t.calls = [.accept true] := hcalls
      rw [hfirst]
      exact List.prefix_rfl
  have hunsettled : Unsettled s0 t :=
    ⟨hs.keeps.follows (.still rfl rfl rfl rfl rfl rfl rfl rfl rfl rfl rfl rfl), hs.bonding,
      hs.ct2, hs.size, hs.initiatorKeys, hs.responderKeys⟩
  have hholds := holds_adopt hunsettled ex houtcome hdistribution hpreq rfl hsettled
  have hpeerFeatures : ex.peer s0.role = features := by rw [hrole]; rfl
  rw [hpeerFeatures] at hholds
  rw [hresult]
  refine ⟨[.pairingResponse (s0.answer features)], rfl, ?_⟩
  refine (Stage.negotiated ex rfl (hholds.queue .waitPublicKey _ rfl) rfl hstep).cast ?_ ?_
  · rw [hrole]; rfl
  · rw [hrole]; rfl

theorem respond_rejects (hs : Unsettled s0 s) {features : PairingFeatures}
    (hpeer : ¬ s0.Acceptable features) : (s.respond features).state.state = .failed := by
  obtain ⟨hfailed, fault, hfault⟩ := negotiateResponse_rejects hs hpeer
  simp only [respond, hfault]
  exact hfailed

theorem respond_gives_up (hs : Unsettled s0 s) {features : PairingFeatures}
    (hpeer : s0.Acceptable features) {initiator responder : IoCapability}
    (hrequest : IoCapability.tryFrom features.ioCapability = .ok initiator)
    (hresponse : IoCapability.tryFrom (s0.answer features).ioCapability = .ok responder)
    (hchoose : s0.choose s.calls
      (s0.selection features (s0.answer features) initiator responder) = none) :
    (s.respond features).state.state = .failed := by
  let t := { s with pres := some (SmpPdu.pairingResponse (s0.answer features)).toBytes }
  have hkeeps : Keeps s0 (settle s0 t features) :=
    hs.keeps.follows (.still rfl rfl rfl rfl rfl rfl rfl rfl rfl rfl rfl rfl)
  have hrefuses := selectMethod_choose (s := settle s0 t features) hrequest hresponse
  rw [hkeeps.choose, hkeeps.selection, show (settle s0 t features).calls = s.calls from rfl,
    hchoose] at hrefuses
  obtain ⟨hresult, hfailed⟩ := hrefuses
  have hchosen : { settle s0 s features with
      pres := some (SmpPdu.pairingResponse (s0.answer features)).toBytes } =
      settle s0 t features := rfl
  simp only [respond, negotiateResponse_accepts hs hpeer, Outcome.ok_state, Outcome.ok_result,
    hchosen, Outcome.andThen, hresult, Bool.not_false, if_true]
  exact hfailed

/-- The session is idle, whatever key material it has been given. -/
def Idle (s0 s : ScPairingSession κ) : Prop :=
  s = { s0 with localKeys := s.localKeys, outbound := s.outbound }

theorem Idle.keeps (hidle : Idle s0 s) : Keeps s0 s := by
  rw [hidle]
  exact ⟨rfl, rfl, rfl, rfl, rfl, rfl, rfl⟩

theorem Idle.unsettled (hfresh : Fresh s0) (hidle : Idle s0 s) (calls : List DelegateCall)
    (preq : Option Bytes) : Unsettled s0 { s with calls := calls, preq := preq } := by
  rw [hidle]
  exact hfresh.unsettled ⟨rfl, rfl, rfl, rfl, rfl, rfl, rfl⟩ rfl rfl rfl rfl rfl

theorem answer_io (features : PairingFeatures) :
    IoCapability.tryFrom (s0.answer features).ioCapability =
      .ok s0.config.capabilities.ioCapability :=
  IoCapability.tryFrom_value _

theorem onPairingRequest_eq (hfresh : Fresh s0) (hidle : Idle s0 s) {features : PairingFeatures}
    (haccept : s0.delegate.accept [] = true) :
    s.onPairingRequest features =
      { s with
        calls := [.accept true]
        preq := some (SmpPdu.pairingRequest features).toBytes }.respond features := by
  have hcalls : s.calls = [] := by rw [hidle]; exact hfresh.calls
  have hanswer : s.delegate.accept s.calls = true := by
    rw [hcalls, hidle.keeps.delegate, haccept]
  simp only [onPairingRequest, hanswer, Bool.not_true, Bool.false_eq_true, if_false]
  rw [hcalls, List.nil_append]

theorem onPairingRequest_accepts (hfresh : Fresh s0) (hrole : s0.role = .responder)
    (hidle : Idle s0 s) {features : PairingFeatures} (haccept : s0.delegate.accept [] = true)
    (hpeer : s0.Acceptable features) {initiator responder : IoCapability}
    (hrequest : IoCapability.tryFrom features.ioCapability = .ok initiator)
    (hresponse : IoCapability.tryFrom (s0.answer features).ioCapability = .ok responder)
    {method : PairingMethod} {passkey : UInt32} {asked : List DelegateCall}
    (hchoose : s0.choose [.accept true]
      (s0.selection features (s0.answer features) initiator responder) =
      some (method, passkey, asked)) :
    Advances prim s0 s [] [] (.pairingRequest features) (s.onPairingRequest features).state := by
  have houtcome : s.outcome = none := by rw [hidle]; exact hfresh.outcome
  have hdistribution : s.distribution = none := by rw [hidle]; exact hfresh.distribution
  have hstep : s.passkeyStep = 0 := by rw [hidle]; exact hfresh.passkeyStep
  rw [onPairingRequest_eq hfresh hidle haccept]
  exact respond_accepts prim (hidle.unsettled hfresh _ _) hrole rfl rfl houtcome hdistribution
    hstep hpeer hrequest hresponse hchoose

theorem onPairingRequest_cases (hfresh : Fresh s0) (hrole : s0.role = .responder)
    (hidle : Idle s0 s) (features : PairingFeatures) :
    Advances prim s0 s [] [] (.pairingRequest features) (s.onPairingRequest features).state ∨
      (s.onPairingRequest features).state.state = .failed := by
  by_cases haccept : s0.delegate.accept [] = true
  · by_cases hpeer : s0.Acceptable features
    · obtain ⟨initiator, hrequest⟩ := validFeatures_io hpeer.valid
      cases hchoose : s0.choose [.accept true] (s0.selection features (s0.answer features)
          initiator s0.config.capabilities.ioCapability) with
      | some choice =>
        exact .inl (onPairingRequest_accepts prim hfresh hrole hidle haccept hpeer hrequest
          (answer_io features) hchoose)
      | none =>
        right
        rw [onPairingRequest_eq hfresh hidle haccept]
        exact respond_gives_up (hidle.unsettled hfresh _ _) hpeer hrequest (answer_io features)
          hchoose
    · right
      rw [onPairingRequest_eq hfresh hidle haccept]
      exact respond_rejects (hidle.unsettled hfresh _ _) hpeer
  · right
    have hcalls : s.calls = [] := by rw [hidle]; exact hfresh.calls
    have hanswer : s.delegate.accept s.calls = false := by
      rw [hcalls, hidle.keeps.delegate]
      simpa using haccept
    simp [onPairingRequest, hanswer]

def Requested (s0 s : ScPairingSession κ) : Prop :=
  s =
    { s0 with
      localKeys := s.localKeys
      outbound := s.outbound
      preq := some (SmpPdu.pairingRequest s0.localFeatures).toBytes
      state := .waitPairingResponse }

theorem Requested.unsettled (hfresh : Fresh s0) (hs : Requested s0 s) (pres : Option Bytes) :
    Unsettled s0 { s with pres := pres } := by
  rw [hs]
  exact hfresh.unsettled ⟨rfl, rfl, rfl, rfl, rfl, rfl, rfl⟩ rfl rfl rfl rfl rfl

theorem localFeatures_io :
    IoCapability.tryFrom s0.localFeatures.ioCapability = .ok s0.config.capabilities.ioCapability :=
  IoCapability.tryFrom_value _

theorem onPairingResponse_eq (hfresh : Fresh s0) (hs : Requested s0 s) {features : PairingFeatures}
    (hpeer : s0.Acceptable features) :
    s.onPairingResponse prim features =
      ((settle s0 { s with pres := some (SmpPdu.pairingResponse features).toBytes }
        features).selectMethod s0.localFeatures features).andThen fun s selected =>
          if !selected then .ok s ()
          else .ok { s.push (s.publicKeyPdu prim) with state := .waitPublicKey } () := by
  have hrequest : s.requestFeatures = .ok s0.localFeatures := by
    rw [hs]
    simp [requestFeatures]
  simp only [onPairingResponse, hpeer.valid, hpeer.secure, Bool.not_true, Bool.false_eq_true,
    if_false, hrequest]
  have hunsettled : Unsettled s0 s := hs.unsettled hfresh s.pres
  rw [applyNegotiated_settles hunsettled hpeer.size, Outcome.ok_andThen]
  rfl

/-- An acceptable response with a method to choose takes the initiator on. -/
theorem onPairingResponse_accepts (hfresh : Fresh s0) (hrole : s0.role = .initiator)
    (hs : Requested s0 s) {features : PairingFeatures} (hpeer : s0.Acceptable features)
    {responder : IoCapability}
    (hresponse : IoCapability.tryFrom features.ioCapability = .ok responder)
    {method : PairingMethod} {passkey : UInt32} {asked : List DelegateCall}
    (hchoose : s0.choose [] (s0.selection s0.localFeatures features
      s0.config.capabilities.ioCapability responder) = some (method, passkey, asked)) :
    Advances prim s0 s [] [.pairingRequest s0.localFeatures] (.pairingResponse features)
      (s.onPairingResponse prim features).state := by
  let t := { s with pres := some (SmpPdu.pairingResponse features).toBytes }
  let ex := Exchange.ofFeatures s0.localFeatures features method passkey
  have hunsettled : Unsettled s0 t := hs.unsettled hfresh _
  have hkeeps : Keeps s0 (settle s0 t features) :=
    hunsettled.keeps.follows (.still rfl rfl rfl rfl rfl rfl rfl rfl rfl rfl rfl rfl)
  have hcalls : t.calls = [] := by
    change s.calls = []
    rw [hs]
    exact hfresh.calls
  have hselect : (settle s0 t features).selectMethod s0.localFeatures features =
      .ok ((settle s0 t features).adopt method passkey asked) true := by
    have hadopts := selectMethod_choose (s := settle s0 t features)
      (@localFeatures_io _ s0) hresponse
    rwa [hkeeps.choose, hkeeps.selection, show (settle s0 t features).calls = t.calls from rfl,
      hcalls, hchoose] at hadopts
  have hresult : (s.onPairingResponse prim features).state =
      { ((settle s0 t features).adopt method passkey asked).push
          (((settle s0 t features).adopt method passkey asked).publicKeyPdu prim) with
        state := .waitPublicKey } := by
    rw [onPairingResponse_eq prim hfresh hs hpeer, hselect, Outcome.ok_andThen]
    rfl
  have hsettled : ex.Settled s0 (t.calls ++ asked) := by
    refine ⟨by simp [Exchange.ownFeaturesPdu, hrole, ex, Exchange.ofFeatures], ?_,
      s0.config.capabilities.ioCapability, responder, asked, localFeatures_io, hresponse, ?_, ?_⟩
    · rw [hrole]; exact hpeer
    · rw [hrole]; exact hchoose
    · rw [hrole, hcalls]
      exact List.prefix_rfl
  have houtcome : t.outcome = none := by
    change s.outcome = none
    rw [hs]
    exact hfresh.outcome
  have hdistribution : t.distribution = none := by
    change s.distribution = none
    rw [hs]
    exact hfresh.distribution
  have hpreq : t.preq = some (SmpPdu.pairingRequest s0.localFeatures).toBytes := by
    change s.preq = _
    rw [hs]
  have hholds := holds_adopt hunsettled ex houtcome hdistribution hpreq rfl hsettled
  have hpeerFeatures : ex.peer s0.role = features := by rw [hrole]; rfl
  rw [hpeerFeatures] at hholds
  have hpublicKey : ((settle s0 t features).adopt method passkey asked).publicKeyPdu prim =
      s0.publicKeyPdu prim := Keeps.publicKeyPdu prim hholds.keeps
  have hstep : s.passkeyStep = 0 := by rw [hs]; exact hfresh.passkeyStep
  rw [hresult, hpublicKey]
  refine ⟨[s0.publicKeyPdu prim], rfl, ?_⟩
  refine (Stage.negotiated ex rfl (hholds.queue .waitPublicKey _ rfl) rfl hstep).cast ?_ ?_
  · rw [hrole]; rfl
  · simp [hrole, Exchange.ownFeaturesPdu, ex, Exchange.ofFeatures]

/-- A response takes the initiator on or fails it. -/
theorem onPairingResponse_cases (hfresh : Fresh s0) (hrole : s0.role = .initiator)
    (hs : Requested s0 s) (features : PairingFeatures) :
    Advances prim s0 s [] [.pairingRequest s0.localFeatures] (.pairingResponse features)
        (s.onPairingResponse prim features).state ∨
      (s.onPairingResponse prim features).state.state = .failed := by
  by_cases hpeer : s0.Acceptable features
  · obtain ⟨responder, hresponse⟩ := validFeatures_io hpeer.valid
    cases hchoose : s0.choose [] (s0.selection s0.localFeatures features
        s0.config.capabilities.ioCapability responder) with
    | some choice =>
      exact .inl (onPairingResponse_accepts prim hfresh hrole hs hpeer hresponse hchoose)
    | none =>
      right
      let t := settle s0 { s with pres := some (SmpPdu.pairingResponse features).toBytes } features
      have hkeeps : Keeps s0 t := (hs.unsettled hfresh s.pres).keeps.follows
        (.still rfl rfl rfl rfl rfl rfl rfl rfl rfl rfl rfl rfl)
      have hcalls : t.calls = [] := by
        change s.calls = []
        rw [hs]
        exact hfresh.calls
      have hrefuses := selectMethod_choose (s := t) (@localFeatures_io _ s0) hresponse
      rw [hkeeps.choose, hkeeps.selection, hcalls, hchoose] at hrefuses
      obtain ⟨hresult, hfailed⟩ := hrefuses
      rw [onPairingResponse_eq prim hfresh hs hpeer]
      simp only [Outcome.andThen]
      rw [hresult]
      exact hfailed
  · right
    unfold onPairingResponse
    split
    · simp
    · next hvalid =>
      split
      · simp
      · next hsecure =>
        have hsize : ¬ 7 ≤ s0.agreedSize features := by
          intro hsize
          exact hpeer ⟨by simpa using hvalid, by simpa using hsecure, hsize⟩
        obtain ⟨hfailed, fault, hfault⟩ := applyNegotiated_fails (hs.unsettled hfresh s.pres) hsize
        have hrequest : s.requestFeatures = .ok s0.localFeatures := by
          rw [hs]
          simp [requestFeatures]
        simp only [hrequest]
        change (Outcome.andThen (s.applyNegotiated features) _).state.state = _
        simp only [Outcome.andThen]
        rw [show (s.applyNegotiated features).result = .error fault from hfault]
        exact hfailed

end Bumble.Smp.ScPairingSession
