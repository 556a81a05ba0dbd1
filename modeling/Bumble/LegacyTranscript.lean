import Bumble.LegacySession
import Bumble.PartyLog

/-!
# The transcript of a legacy pairing

Before it has an outcome, a session that has not failed is at one of four stages.
At each of them what it has received and queued is determined by an `Exchange`:
the features, the selected method and the temporary key.  An outcome appears only
when the peer's random value opens its confirm value, and from then on that stays
on record.
-/

namespace Bumble.Smp.LegacyPairingSession

variable {κ : Type} {s s' s0 : LegacyPairingSession κ} (prim : Primitives κ)

/-! ## 1. Fresh sessions -/

/-- A session as `new` returns it. -/
structure Fresh (s : LegacyPairingSession κ) : Prop where
  state : s.state = .idle
  outbound : s.outbound = []
  tk : s.tk = zeroBlock
  outcome : s.outcome = none
  distribution : s.distribution = none
  bonding : s.bonding = s.config.bonding
  ct2 : s.ct2 = s.config.ct2
  size : s.maximumEncryptionKeySize = s.config.capabilities.maximumEncryptionKeySize
  initiatorKeys : s.initiatorKeyDistribution = s.config.capabilities.localInitiatorKeyDistribution
  responderKeys : s.responderKeyDistribution = s.config.capabilities.localResponderKeyDistribution

theorem new_fresh {role : PairingRole} {config : PairingConfig κ} {delegate : PairingDelegate}
    {initiatorAddress responderAddress : Address} {localRandom : Octets 16}
    {random128 : Nat → Octets 16}
    (hnew : new role config delegate initiatorAddress responderAddress localRandom random128 =
      .ok s) : Fresh s := by
  unfold new at hnew
  split at hnew
  · cases hnew
  · cases hnew
    exact ⟨rfl, rfl, rfl, rfl, rfl, rfl, rfl, rfl, rfl, rfl⟩

theorem new_setup {role : PairingRole} {config : PairingConfig κ} {delegate : PairingDelegate}
    {initiatorAddress responderAddress : Address} {localRandom : Octets 16}
    {random128 : Nat → Octets 16}
    (hnew : new role config delegate initiatorAddress responderAddress localRandom random128 =
      .ok s) : s.role = role ∧ s.localRandom = localRandom := by
  unfold new at hnew
  split at hnew
  · cases hnew
  · cases hnew
    exact ⟨rfl, rfl⟩

structure Keeps (s0 s : LegacyPairingSession κ) : Prop where
  role : s.role = s0.role
  config : s.config = s0.config
  initiatorAddress : s.initiatorAddress = s0.initiatorAddress
  responderAddress : s.responderAddress = s0.responderAddress
  localRandom : s.localRandom = s0.localRandom

/-- The session gives up before there is an outcome. -/
structure Aborts (s s' : LegacyPairingSession κ) : Prop where
  state : s'.state = .failed
  outcome : s'.outcome = s.outcome
  distribution : s'.distribution = s.distribution

theorem fail_aborts (reason : PairingFailureReason) : Aborts s (s.fail reason) := by
  unfold fail
  split <;> exact ⟨rfl, rfl, rfl⟩

theorem Aborts.after {t : LegacyPairingSession κ} (haborts : Aborts t s')
    (houtcome : t.outcome = s.outcome) (hdistribution : t.distribution = s.distribution) :
    Aborts s s' :=
  ⟨haborts.state, haborts.outcome.trans houtcome, haborts.distribution.trans hdistribution⟩

/-! ## 2. What is negotiated -/

def agreedSize (s0 : LegacyPairingSession κ) (peer : PairingFeatures) : UInt8 :=
  min s0.config.capabilities.maximumEncryptionKeySize peer.maximumEncryptionKeySize

def agreedInitiatorKeys (s0 : LegacyPairingSession κ) (peer : PairingFeatures) :
    KeyDistribution :=
  s0.config.capabilities.localInitiatorKeyDistribution.intersection
    ⟨peer.initiatorKeyDistribution⟩

def agreedResponderKeys (s0 : LegacyPairingSession κ) (peer : PairingFeatures) :
    KeyDistribution :=
  s0.config.capabilities.localResponderKeyDistribution.intersection
    ⟨peer.responderKeyDistribution⟩

def answer (s0 : LegacyPairingSession κ) (request : PairingFeatures) : PairingFeatures :=
  { s0.localFeatures with
    maximumEncryptionKeySize := s0.agreedSize request
    initiatorKeyDistribution := (s0.agreedInitiatorKeys request).flags
    responderKeyDistribution := (s0.agreedResponderKeys request).flags }

/-- The method this side selects with a peer's features. -/
def selectsWith (s0 : LegacyPairingSession κ) (peer : PairingFeatures)
    (initiator responder : IoCapability) : PairingMethodSelection :=
  selectPairingMethodWithOob false s0.localHasOob (peer.oobDataFlag != 0) s0.config.mitm
    ⟨peer.authReq⟩ initiator responder

/-- The session's terms are those settled against the peer's features. -/
structure Terms (s0 s : LegacyPairingSession κ) (peer : PairingFeatures) : Prop where
  size : s.maximumEncryptionKeySize = s0.agreedSize peer
  bonding : s.bonding = (s0.config.bonding && AuthReq.contains ⟨peer.authReq⟩ .bonding)
  ct2 : s.ct2 = (s0.config.ct2 && AuthReq.contains ⟨peer.authReq⟩ .ct2)
  initiatorKeys : s.initiatorKeyDistribution = s0.agreedInitiatorKeys peer
  responderKeys : s.responderKeyDistribution = s0.agreedResponderKeys peer

/-! ## 3. Exchanges -/

structure Exchange where
  request : PairingFeatures
  response : PairingFeatures
  selection : PairingMethodSelection
  tk : Octets 16

namespace Exchange

variable (ex : Exchange)

def peer : PairingRole → PairingFeatures
  | .initiator => ex.response
  | .responder => ex.request

def peerFeaturesPdu : PairingRole → SmpPdu
  | .initiator => .pairingResponse ex.response
  | .responder => .pairingRequest ex.request

def ownFeaturesPdu : PairingRole → SmpPdu
  | .initiator => .pairingRequest ex.request
  | .responder => .pairingResponse ex.response

/-- The confirm value of a random value in this exchange. -/
def commitment (s0 : LegacyPairingSession κ) (random : Octets 16) : Octets 16 :=
  e prim ex.tk (xorBlock
    (e prim ex.tk (xorBlock random
      (Vector.ofFn fun i => ([s0.initiatorAddress.randomFlag, s0.responderAddress.randomFlag] ++
        (SmpPdu.pairingRequest ex.request).toBytes ++
        (SmpPdu.pairingResponse ex.response).toBytes).getD i 0)))
    (s0.responderAddress.addressBytes ++ s0.initiatorAddress.addressBytes ++
      Vector.replicate 4 (0 : UInt8)))

/-- The features are settled and the method follows from them. -/
structure Settled (s0 : LegacyPairingSession κ) : Prop where
  own : ex.ownFeaturesPdu s0.role = match s0.role with
    | .initiator => .pairingRequest s0.localFeatures
    | .responder => .pairingResponse (s0.answer ex.request)
  chosen : ∃ initiator responder,
    IoCapability.tryFrom ex.request.ioCapability = .ok initiator ∧
    IoCapability.tryFrom ex.response.ioCapability = .ok responder ∧
    ex.selection = s0.selectsWith (ex.peer s0.role) initiator responder
  justWorks : ex.selection.method = .justWorks → ex.tk = zeroBlock

end Exchange

/-- The session holds the settled terms of an exchange. -/
structure Holds (s0 s : LegacyPairingSession κ) (ex : Exchange) : Prop where
  keeps : Keeps s0 s
  settled : ex.Settled s0
  outcome : s.outcome = none
  distribution : s.distribution = none
  preq : s.preq = some (SmpPdu.pairingRequest ex.request).toBytes
  pres : s.pres = some (SmpPdu.pairingResponse ex.response).toBytes
  selection : s.selection = some ex.selection
  tk : s.tk = ex.tk
  terms : Terms s0 s (ex.peer s0.role)

variable {prim} in
theorem Holds.confirmFor {ex : Exchange} (hholds : Holds s0 s ex) (random : Octets 16) :
    s.confirmFor prim random = .ok (ex.commitment prim s0 random) := by
  have hblock : ∀ iat rat : UInt8, toArray16 ([iat, rat] ++
      (SmpPdu.pairingRequest ex.request).toBytes ++
      (SmpPdu.pairingResponse ex.response).toBytes) =
      some (Vector.ofFn fun i => ([iat, rat] ++ (SmpPdu.pairingRequest ex.request).toBytes ++
        (SmpPdu.pairingResponse ex.response).toBytes).getD i 0) := by
    intro iat rat
    exact toArray16_of_length rfl
  simp only [LegacyPairingSession.confirmFor, hholds.preq, hholds.pres, c1, hblock, hholds.tk,
    hholds.keeps.initiatorAddress, hholds.keeps.responderAddress, Option.map_some]
  rfl

/-! ## 4. Stages -/

/-- A session without an outcome, what it has received and what it has queued. -/
inductive Stage (s0 : LegacyPairingSession κ) :
    LegacyPairingSession κ → List SmpPdu → List SmpPdu → Prop where
  | idle {s : LegacyPairingSession κ}
      (hs : s = { s0 with localKeys := s.localKeys, outbound := s.outbound }) :
      Stage s0 s [] []
  | requested {s : LegacyPairingSession κ} (hrole : s0.role = .initiator)
      (hs : s =
        { s0 with
          localKeys := s.localKeys
          outbound := s.outbound
          preq := some (SmpPdu.pairingRequest s0.localFeatures).toBytes
          state := .waitPairingResponse }) :
      Stage s0 s [] [.pairingRequest s0.localFeatures]
  | prepared {s : LegacyPairingSession κ} (ex : Exchange) (hstate : s.state = .waitPairingConfirm)
      (hholds : Holds s0 s ex) :
      Stage s0 s [ex.peerFeaturesPdu s0.role]
        (ex.ownFeaturesPdu s0.role :: if s0.role = .initiator then
          [.pairingConfirm (ex.commitment prim s0 s0.localRandom)] else [])
  | committed {s : LegacyPairingSession κ} (ex : Exchange) (confirm : Octets 16)
      (hstate : s.state = .waitPairingRandom) (hholds : Holds s0 s ex)
      (hconfirm : s.peerConfirm = some confirm) :
      Stage s0 s [ex.peerFeaturesPdu s0.role, .pairingConfirm confirm]
        (ex.ownFeaturesPdu s0.role :: .pairingConfirm (ex.commitment prim s0 s0.localRandom) ::
          if s0.role = .initiator then [.pairingRandom s0.localRandom] else [])

variable {prim} in
theorem Stage.cast {received received' queued queued' : List SmpPdu}
    (hstage : Stage prim s0 s received queued) (hreceived : received = received')
    (hqueued : queued = queued') : Stage prim s0 s received' queued' :=
  hreceived ▸ hqueued ▸ hstage

/-- The outcome that follows from an exchange and the peer's random value. -/
def Exchange.outcome (ex : Exchange) (s0 : LegacyPairingSession κ) (random : Octets 16) :
    LegacyPairingOutcome where
  stk := truncateKey (s1 prim ex.tk (s0.randoms random).1 (s0.randoms random).2)
    (s0.agreedSize (ex.peer s0.role))
  method := ex.selection.method
  authenticated := ex.selection.method ≠ .justWorks
  bonding := s0.config.bonding && AuthReq.contains ⟨(ex.peer s0.role).authReq⟩ .bonding
  ct2 := s0.config.ct2 && AuthReq.contains ⟨(ex.peer s0.role).authReq⟩ .ct2
  maximumEncryptionKeySize := s0.agreedSize (ex.peer s0.role)
  initiatorKeyDistribution := s0.agreedInitiatorKeys (ex.peer s0.role)
  responderKeyDistribution := s0.agreedResponderKeys (ex.peer s0.role)

/-- What a session with an outcome has exchanged: the random value it received
    opened the confirm value before it. -/
structure Verified (s0 : LegacyPairingSession κ) (ex : Exchange) (random : Octets 16)
    (received queued : List SmpPdu) : Prop where
  settled : ex.Settled s0
  received : [ex.peerFeaturesPdu s0.role, .pairingConfirm (ex.commitment prim s0 random),
    .pairingRandom random] <+: received
  queued : [ex.ownFeaturesPdu s0.role, .pairingConfirm (ex.commitment prim s0 s0.localRandom),
    .pairingRandom s0.localRandom] <+: queued

/-- The session computes the confirm values of the exchange with its temporary key. -/
def Confirms (s0 s : LegacyPairingSession κ) (ex : Exchange) : Prop :=
  s.tk = ex.tk ∧ ∀ random, s.confirmFor prim random = .ok (ex.commitment prim s0 random)

/-- What a received PDU does to a session at a stage. -/
inductive Reacts (s0 s : LegacyPairingSession κ) (received queued : List SmpPdu) (pdu : SmpPdu)
    (s' : LegacyPairingSession κ) : Prop where
  | advances (pdus : List SmpPdu) (hqueue : s'.outbound = s.outbound ++ pdus)
      (hstage : Stage prim s0 s' (received ++ [pdu]) (queued ++ pdus))
  | aborts (haborts : Aborts s s')
  | concludes (ex : Exchange) (random : Octets 16) (pdus : List SmpPdu)
      (hqueue : s'.outbound = s.outbound ++ pdus) (hstate : s'.state = .waitEncryption)
      (hdistribution : s'.distribution = none) (hconfirms : Confirms prim s0 s' ex)
      (houtcome : s'.outcome = some (ex.outcome prim s0 random))
      (hverified : Verified prim s0 ex random (received ++ [pdu]) (queued ++ pdus))

theorem fail_reacts {received queued : List SmpPdu} (pdu : SmpPdu) (reason : PairingFailureReason) :
    Reacts prim s0 s received queued pdu (s.fail reason) :=
  .aborts (fail_aborts reason)

/-! ## 5. The feature exchange -/

theorem prepareKey_cases (selection : PairingMethodSelection) :
    (∃ t, s.prepareKey selection = .ok t false ∧ Aborts s t) ∨
      ∃ tk calls, s.prepareKey selection = .ok { s with tk := tk, calls := calls } true ∧
        (selection.method = .justWorks → tk = zeroBlock) := by
  unfold prepareKey
  cases hmethod : selection.method with
  | justWorks =>
    dsimp only
    split
    · exact .inl ⟨_, rfl, (fail_aborts _).after rfl rfl⟩
    · exact .inr ⟨zeroBlock, _, rfl, fun _ => rfl⟩
  | passkey =>
    dsimp only
    split
    · exact .inl ⟨_, rfl, (fail_aborts _).after rfl rfl⟩
    · exact .inr ⟨_, _, rfl, by simp⟩
  | oob =>
    dsimp only
    split
    · exact .inl ⟨_, rfl, fail_aborts _⟩
    · exact .inr ⟨_, s.calls, rfl, by simp⟩
  | numericComparison => exact .inl ⟨_, rfl, fail_aborts _⟩
  | ctkdOverClassic => exact .inl ⟨_, rfl, fail_aborts _⟩

def prepared (s : LegacyPairingSession κ) (ex : Exchange) (calls : List DelegateCall) :
    LegacyPairingSession κ :=
  { s with selection := some ex.selection, tk := ex.tk, calls := calls }

/-- The terms are settled, the method is not selected yet. -/
structure Settles (s0 s : LegacyPairingSession κ) (request response : PairingFeatures) : Prop where
  keeps : Keeps s0 s
  outcome : s.outcome = none
  distribution : s.distribution = none
  preq : s.preq = some (SmpPdu.pairingRequest request).toBytes
  pres : s.pres = some (SmpPdu.pairingResponse response).toBytes
  peerFeatures : s.peerFeatures =
    some (match s0.role with | .initiator => response | .responder => request)
  terms : Terms s0 s (match s0.role with | .initiator => response | .responder => request)

/-- The features of both sides settle a method, or the session aborts. -/
theorem prepareMethod_cases {request response : PairingFeatures}
    (hs : Settles s0 s request response) {initiator responder : IoCapability}
    (hrequest : IoCapability.tryFrom request.ioCapability = .ok initiator)
    (hresponse : IoCapability.tryFrom response.ioCapability = .ok responder)
    (hown : (match s0.role with
      | .initiator => request = s0.localFeatures
      | .responder => response = s0.answer request)) :
    (∃ t, s.prepareMethod request response = .ok t false ∧ Aborts s t) ∨
      ∃ ex calls, ex.request = request ∧ ex.response = response ∧
        s.prepareMethod request response = .ok (s.prepared ex calls) true ∧
        Holds s0 (s.prepared ex calls) ex := by
  have hselects : s.selects request response initiator responder =
      s0.selectsWith (match s0.role with | .initiator => response | .responder => request)
        initiator responder := by
    unfold selects selectsWith
    rw [hs.keeps.config, hs.keeps.role, hs.peerFeatures]
    unfold localHasOob
    rw [hs.keeps.config]
    cases s0.role <;> rfl
  have hmethod : s.prepareMethod request response =
      { s with selection := some (s.selects request response initiator responder) }.prepareKey
        (s.selects request response initiator responder) := by
    unfold prepareMethod
    rw [hrequest, hresponse]
  rw [hmethod]
  generalize hselection : s.selects request response initiator responder = selection
  rw [hselection] at hselects
  rcases prepareKey_cases (s := { s with selection := some selection }) selection with
    ⟨t, hresult, haborts⟩ | ⟨tk, calls, hresult, hzero⟩
  · exact .inl ⟨t, hresult, haborts.after rfl rfl⟩
  · right
    let ex : Exchange := ⟨request, response, selection, tk⟩
    have hpeer : ex.peer s0.role =
        match s0.role with | .initiator => response | .responder => request := by
      cases s0.role <;> rfl
    refine ⟨ex, calls, rfl, rfl, hresult, ?_⟩
    refine ⟨⟨hs.keeps.role, hs.keeps.config, hs.keeps.initiatorAddress, hs.keeps.responderAddress,
      hs.keeps.localRandom⟩, ⟨?_, ⟨initiator, responder, hrequest, hresponse, ?_⟩, hzero⟩,
      hs.outcome, hs.distribution, hs.preq, hs.pres, rfl, rfl, ?_⟩
    · cases hrole : s0.role with
      | initiator => rw [hrole] at hown; exact congrArg SmpPdu.pairingRequest hown
      | responder => rw [hrole] at hown; exact congrArg SmpPdu.pairingResponse hown
    · rw [hpeer]
      exact hselects
    · rw [hpeer]
      exact ⟨hs.terms.size, hs.terms.bonding, hs.terms.ct2, hs.terms.initiatorKeys,
        hs.terms.responderKeys⟩

theorem intersection_comm (keys other : KeyDistribution) :
    keys.intersection other = other.intersection keys := by
  simp only [KeyDistribution.intersection, UInt8.and_comm keys.flags]

theorem negotiatedResponseFeatures_cases (hfresh : Fresh s0)
    (hs : s = { s0 with
      localKeys := s.localKeys, outbound := s.outbound, calls := s.calls, preq := s.preq })
    (features : PairingFeatures) :
    (∃ t error, s.negotiatedResponseFeatures features = .fail t error ∧ Aborts s t) ∨
      (validFeatures features = true ∧ ∃ t,
        s.negotiatedResponseFeatures features = .ok t (s0.answer features) ∧
        t.preq = s.preq ∧ t.outbound = s.outbound ∧ Keeps s0 t ∧ t.outcome = none ∧
        t.distribution = none ∧ Terms s0 t features) := by
  have hlocal : s.localFeatures = s0.localFeatures := by rw [hs]; rfl
  have hbonding : s.bonding = s0.config.bonding := by rw [hs]; exact hfresh.bonding
  have hct2 : s.ct2 = s0.config.ct2 := by rw [hs]; exact hfresh.ct2
  have hinitiator : KeyDistribution.intersection ⟨features.initiatorKeyDistribution⟩
      s.initiatorKeyDistribution = s0.agreedInitiatorKeys features := by
    have hown : s.initiatorKeyDistribution =
        s0.config.capabilities.localInitiatorKeyDistribution := by
      rw [hs]
      exact hfresh.initiatorKeys
    rw [intersection_comm, hown]
    rfl
  have hresponder : KeyDistribution.intersection ⟨features.responderKeyDistribution⟩
      s.responderKeyDistribution = s0.agreedResponderKeys features := by
    have hown : s.responderKeyDistribution =
        s0.config.capabilities.localResponderKeyDistribution := by
      rw [hs]
      exact hfresh.responderKeys
    rw [intersection_comm, hown]
    rfl
  have hsize : min s.localFeatures.maximumEncryptionKeySize features.maximumEncryptionKeySize =
      s0.agreedSize features := by
    rw [hlocal]
    rfl
  unfold negotiatedResponseFeatures
  split
  · exact .inl ⟨_, _, rfl, fail_aborts _⟩
  · next hvalid =>
    dsimp only
    split
    · exact .inl ⟨_, _, rfl, (fail_aborts _).after rfl rfl⟩
    · right
      let t : LegacyPairingSession κ := { s with
        maximumEncryptionKeySize := s0.agreedSize features
        bonding := s0.config.bonding && AuthReq.contains ⟨features.authReq⟩ .bonding
        ct2 := s0.config.ct2 && AuthReq.contains ⟨features.authReq⟩ .ct2
        initiatorKeyDistribution := s0.agreedInitiatorKeys features
        responderKeyDistribution := s0.agreedResponderKeys features }
      refine ⟨by simpa using hvalid, t, ?_, rfl, rfl, ?_, ?_, ?_, ⟨rfl, rfl, rfl, rfl, rfl⟩⟩
      · rw [hsize, hinitiator, hresponder, hbonding, hct2, hlocal]
        rfl
      · have hkeeps : Keeps s0 s := by
          rw [hs]
          exact ⟨rfl, rfl, rfl, rfl, rfl⟩
        exact ⟨hkeeps.role, hkeeps.config, hkeeps.initiatorAddress, hkeeps.responderAddress,
          hkeeps.localRandom⟩
      · change s.outcome = none
        rw [hs]
        exact hfresh.outcome
      · change s.distribution = none
        rw [hs]
        exact hfresh.distribution

/-- The session is idle, whatever key material it has been given. -/
def Idle (s0 s : LegacyPairingSession κ) : Prop :=
  s = { s0 with localKeys := s.localKeys, outbound := s.outbound }

theorem answer_io (features : PairingFeatures) :
    IoCapability.tryFrom (s0.answer features).ioCapability =
      .ok s0.config.capabilities.ioCapability :=
  IoCapability.tryFrom_value _

theorem Holds.queue {ex : Exchange} (hholds : Holds s0 s ex) (state : PairingState)
    (outbound : List SmpPdu) (peerConfirm : Option (Octets 16)) :
    Holds s0 { s with state := state, outbound := outbound, peerConfirm := peerConfirm } ex :=
  ⟨⟨hholds.keeps.role, hholds.keeps.config, hholds.keeps.initiatorAddress,
    hholds.keeps.responderAddress, hholds.keeps.localRandom⟩, hholds.settled, hholds.outcome,
    hholds.distribution, hholds.preq, hholds.pres, hholds.selection, hholds.tk,
    ⟨hholds.terms.size, hholds.terms.bonding, hholds.terms.ct2, hholds.terms.initiatorKeys,
      hholds.terms.responderKeys⟩⟩

/-- A pairing request takes an idle responder to its next stage or aborts it. -/
theorem onPairingRequest_reacts (hfresh : Fresh s0) (hrole : s0.role = .responder)
    (hidle : Idle s0 s) (features : PairingFeatures) :
    Reacts prim s0 s [] [] (.pairingRequest features) (s.onPairingRequest features).state := by
  unfold onPairingRequest
  dsimp only
  split
  · exact .aborts ((fail_aborts _).after rfl rfl)
  · unfold respond
    dsimp only
    generalize hcalls : s.calls ++ [DelegateCall.accept (s.delegate.accept s.calls)] = calls
    let t : LegacyPairingSession κ :=
      { s with calls := calls, preq := some (SmpPdu.pairingRequest features).toBytes }
    have ht : t = { s0 with
        localKeys := t.localKeys, outbound := t.outbound, calls := t.calls, preq := t.preq } := by
      change { s with calls := calls, preq := _ } = _
      rw [hidle]
    have houtcome : t.outcome = s.outcome := rfl
    have hdistribution : t.distribution = s.distribution := rfl
    rcases negotiatedResponseFeatures_cases hfresh ht features with
      ⟨u, error, hresult, haborts⟩ | ⟨hvalid, u, hresult, hpreq, hqueue, hkeeps, hnone, hnone',
        hterms⟩
    · have hnegotiated : ({ s with
          calls := calls
          preq := some (SmpPdu.pairingRequest features).toBytes } :
          LegacyPairingSession κ).negotiatedResponseFeatures features = .fail u error := hresult
      rw [hnegotiated]
      exact .aborts (haborts.after houtcome hdistribution)
    · have hnegotiated : ({ s with
          calls := calls
          preq := some (SmpPdu.pairingRequest features).toBytes } :
          LegacyPairingSession κ).negotiatedResponseFeatures features =
            .ok u (s0.answer features) := hresult
      rw [hnegotiated]
      obtain ⟨initiator, hrequest⟩ := validFeatures_io hvalid
      have hsettles : Settles s0
          { u with
            peerFeatures := some features
            pres := some (SmpPdu.pairingResponse (s0.answer features)).toBytes }
          features (s0.answer features) := by
        refine ⟨⟨hkeeps.role, hkeeps.config, hkeeps.initiatorAddress, hkeeps.responderAddress,
          hkeeps.localRandom⟩, hnone, hnone', hpreq, rfl, ?_, ?_⟩
        · rw [hrole]
        · rw [hrole]
          exact ⟨hterms.size, hterms.bonding, hterms.ct2, hterms.initiatorKeys,
            hterms.responderKeys⟩
      rcases prepareMethod_cases hsettles hrequest (answer_io features) (by rw [hrole]) with
        ⟨v, hresult, haborts⟩ | ⟨ex, calls', hreq, hres, hresult, hholds⟩
      · simp only [Outcome.ok_result, Outcome.ok_state, hresult, Outcome.ok_andThen,
          Bool.not_false, if_true]
        refine .aborts (haborts.after ?_ ?_)
        · exact hnone.trans (by rw [hidle]; exact hfresh.outcome.symm)
        · exact hnone'.trans (by rw [hidle]; exact hfresh.distribution.symm)
      · simp only [Outcome.ok_result, Outcome.ok_state, hresult, Outcome.ok_andThen,
          Bool.not_true, Bool.false_eq_true, if_false]
        refine .advances [.pairingResponse (s0.answer features)] ?_ ?_
        · exact congrArg (· ++ _) hqueue
        · refine (Stage.prepared ex rfl (hholds.queue _ _ _)).cast ?_ ?_
          · rw [hrole]
            exact congrArg (fun features => [SmpPdu.pairingRequest features]) hreq
          · rw [hrole]
            exact congrArg (fun features => [SmpPdu.pairingResponse features]) hres

def Requested (s0 s : LegacyPairingSession κ) : Prop :=
  s =
    { s0 with
      localKeys := s.localKeys
      outbound := s.outbound
      preq := some (SmpPdu.pairingRequest s0.localFeatures).toBytes
      state := .waitPairingResponse }

theorem localFeatures_io :
    IoCapability.tryFrom s0.localFeatures.ioCapability = .ok s0.config.capabilities.ioCapability :=
  IoCapability.tryFrom_value _

theorem queueConfirm_eq {ex : Exchange} (hholds : Holds s0 s ex) :
    s.queueConfirm prim =
      .ok (s.push (.pairingConfirm (ex.commitment prim s0 s0.localRandom))) () := by
  unfold queueConfirm localConfirm
  rw [hholds.confirmFor, hholds.keeps.localRandom]

/-- A pairing response takes the initiator to its next stage or aborts it. -/
theorem onPairingResponse_reacts (hfresh : Fresh s0) (hrole : s0.role = .initiator)
    (hs : Requested s0 s) (features : PairingFeatures) :
    Reacts prim s0 s [] [.pairingRequest s0.localFeatures] (.pairingResponse features)
      (s.onPairingResponse prim features).state := by
  have hrequest : s.requestFeatures = .ok (some s0.localFeatures) := by
    rw [hs]
    simp [requestFeatures]
  unfold onPairingResponse
  rw [hrequest]
  dsimp only
  split
  · exact fail_reacts prim _ _
  · next hvalid =>
    split
    · exact .aborts ((fail_aborts _).after rfl rfl)
    · obtain ⟨responder, hresponse⟩ := validFeatures_io (by simpa using hvalid)
      let t : LegacyPairingSession κ :=
        { s with
          maximumEncryptionKeySize :=
            min s.maximumEncryptionKeySize features.maximumEncryptionKeySize }
      have hsettles : Settles s0 (t.settled features) s0.localFeatures features := by
        change Settles s0 (settled { s with maximumEncryptionKeySize := _ } features) _ _
        rw [hs]
        refine ⟨⟨rfl, rfl, rfl, rfl, rfl⟩, hfresh.outcome, hfresh.distribution, rfl, rfl, ?_, ?_⟩
        · rw [hrole]
          rfl
        · rw [hrole]
          refine ⟨?_, ?_, ?_, ?_, ?_⟩
          · exact congrArg (min · _) hfresh.size
          · exact congrArg (· && _) hfresh.bonding
          · exact congrArg (· && _) hfresh.ct2
          · exact congrArg (KeyDistribution.intersection · _) hfresh.initiatorKeys
          · exact congrArg (KeyDistribution.intersection · _) hfresh.responderKeys
      have hnone : s.outcome = none := by rw [hs]; exact hfresh.outcome
      have hnone' : s.distribution = none := by rw [hs]; exact hfresh.distribution
      rcases prepareMethod_cases hsettles localFeatures_io hresponse (by rw [hrole]) with
        ⟨v, hresult, haborts⟩ | ⟨ex, calls, hreq, hres, hresult, hholds⟩
      · rw [hresult, Outcome.ok_andThen]
        exact .aborts (haborts.after (hsettles.outcome.trans hnone.symm)
          (hsettles.distribution.trans hnone'.symm))
      · rw [hresult, Outcome.ok_andThen]
        simp only [Bool.not_true, Bool.false_eq_true, if_false, queueConfirm_eq prim hholds,
          Outcome.ok_andThen]
        refine .advances [.pairingConfirm (ex.commitment prim s0 s0.localRandom)] rfl ?_
        refine (Stage.prepared ex rfl (hholds.queue _ _ _)).cast ?_ ?_
        · rw [hrole]
          exact congrArg (fun features => [SmpPdu.pairingResponse features]) hres
        · rw [hrole, if_pos rfl]
          exact congrArg (fun features => [SmpPdu.pairingRequest features, _]) hreq

/-! ## 6. Confirm and random values -/

/-- What the session queues when it gets the peer's confirm value. -/
def confirmReply (s0 : LegacyPairingSession κ) (ex : Exchange) : SmpPdu :=
  match s0.role with
  | .initiator => .pairingRandom s0.localRandom
  | .responder => .pairingConfirm (ex.commitment prim s0 s0.localRandom)

theorem onPairingConfirm_eq {ex : Exchange} (hholds : Holds s0 s ex) (confirm : Octets 16) :
    (s.onPairingConfirm prim confirm).state =
      { s with
        peerConfirm := some confirm
        outbound := s.outbound ++ [confirmReply prim s0 ex]
        state := .waitPairingRandom } := by
  unfold onPairingConfirm confirmReply
  dsimp only
  split
  · next hside =>
    rw [← hholds.keeps.role, hside, ← hholds.keeps.localRandom]
    simp [push]
  · next hside =>
    have hconfirmed : Holds s0 { s with peerConfirm := some confirm } ex :=
      hholds.queue s.state s.outbound (some confirm)
    rw [queueConfirm_eq prim hconfirmed, ← hholds.keeps.role, hside]
    simp [push]

theorem onPairingConfirm_reacts {ex : Exchange} (hholds : Holds s0 s ex) (confirm : Octets 16) :
    Reacts prim s0 s [ex.peerFeaturesPdu s0.role]
      (ex.ownFeaturesPdu s0.role :: if s0.role = .initiator then
        [.pairingConfirm (ex.commitment prim s0 s0.localRandom)] else [])
      (.pairingConfirm confirm) (s.onPairingConfirm prim confirm).state := by
  rw [onPairingConfirm_eq prim hholds]
  refine .advances [confirmReply prim s0 ex] rfl ?_
  refine (Stage.committed ex confirm rfl (hholds.queue _ _ _) rfl).cast rfl ?_
  cases hrole : s0.role <;> simp [confirmReply, hrole]

/-- What the session queues when the peer's random value is right. -/
def ownReply (s0 : LegacyPairingSession κ) : List SmpPdu :=
  if s0.role = .responder then [.pairingRandom s0.localRandom] else []

theorem finish_eq {ex : Exchange} (hholds : Holds s0 s ex) (random : Octets 16) :
    s.finish prim random =
      .ok { s with outcome := some (ex.outcome prim s0 random), state := .waitEncryption } () := by
  have hrandoms : s.randoms random = s0.randoms random := by
    unfold randoms
    rw [hholds.keeps.role, hholds.keeps.localRandom]
  unfold finish
  rw [hrandoms, hholds.selection]
  simp only [hholds.tk, hholds.terms.size, hholds.terms.bonding, hholds.terms.ct2,
    hholds.terms.initiatorKeys, hholds.terms.responderKeys]
  rfl

theorem exchangeRandoms_eq {ex : Exchange} (hholds : Holds s0 s ex) (random : Octets 16) :
    s.exchangeRandoms random =
      { s with peerRandom := some random, outbound := s.outbound ++ s0.ownReply } := by
  unfold exchangeRandoms ownReply
  dsimp only
  rw [← hholds.keeps.role, ← hholds.keeps.localRandom]
  split
  · next hside => simp [hside]
  · next hside => simp [push, hside]

theorem Holds.exchangeRandoms {ex : Exchange} (hholds : Holds s0 s ex) (random : Octets 16) :
    Holds s0 (s.exchangeRandoms random) ex := by
  rw [exchangeRandoms_eq hholds]
  exact ⟨⟨hholds.keeps.role, hholds.keeps.config, hholds.keeps.initiatorAddress,
    hholds.keeps.responderAddress, hholds.keeps.localRandom⟩, hholds.settled, hholds.outcome,
    hholds.distribution, hholds.preq, hholds.pres, hholds.selection, hholds.tk,
    ⟨hholds.terms.size, hholds.terms.bonding, hholds.terms.ct2, hholds.terms.initiatorKeys,
      hholds.terms.responderKeys⟩⟩

theorem onPairingRandom_reacts {ex : Exchange} {confirm : Octets 16} (hholds : Holds s0 s ex)
    (hconfirm : s.peerConfirm = some confirm) (random : Octets 16) :
    Reacts prim s0 s [ex.peerFeaturesPdu s0.role, .pairingConfirm confirm]
      (ex.ownFeaturesPdu s0.role :: .pairingConfirm (ex.commitment prim s0 s0.localRandom) ::
        if s0.role = .initiator then [.pairingRandom s0.localRandom] else [])
      (.pairingRandom random) (s.onPairingRandom prim random).state := by
  unfold onPairingRandom
  rw [hholds.confirmFor]
  dsimp only
  by_cases hopens : s.peerConfirm = some (ex.commitment prim s0 random)
  · have hopen : confirm = ex.commitment prim s0 random :=
      Option.some.inj (hconfirm.symm.trans hopens)
    rw [if_neg (not_not.mpr hopens), finish_eq prim (hholds.exchangeRandoms random),
      exchangeRandoms_eq hholds, hopen]
    refine .concludes ex random s0.ownReply rfl rfl hholds.distribution
      ⟨hholds.tk, hholds.confirmFor⟩ rfl ⟨hholds.settled, List.prefix_rfl, ?_⟩
    cases hrole : s0.role <;> simp [ownReply, hrole]
  · rw [if_pos hopens]
    exact fail_reacts prim _ _

/-! ## 7. One event -/

theorem process_handle (hfailed : s.state ≠ .failed) (hkeys : s.state ≠ .keyDistribution)
    (pdu : SmpPdu) :
    Aborts s (s.process prim pdu).state ∨ s.process prim pdu = s.handle prim pdu := by
  unfold process
  rw [if_neg hfailed]
  split
  · exact .inl ⟨rfl, rfl, rfl⟩
  · rw [if_neg hkeys]
    split
    · exact .inl (fail_aborts _)
    · exact .inr rfl

theorem Stage.state_mem {received queued : List SmpPdu} (hfresh : Fresh s0)
    (hstage : Stage prim s0 s received queued) :
    s.state ≠ .failed ∧ s.state ≠ .keyDistribution ∧ s.state ≠ .waitEncryption ∧
      s.outcome = none ∧ s.distribution = none := by
  cases hstage with
  | idle hs =>
    rw [hs]
    simp [hfresh.state, hfresh.outcome, hfresh.distribution]
  | requested hrole hs =>
    rw [hs]
    simp [hfresh.outcome, hfresh.distribution]
  | prepared ex hstate hholds => simp [hstate, hholds.outcome, hholds.distribution]
  | committed ex confirm hstate hholds hconfirm =>
    simp [hstate, hholds.outcome, hholds.distribution]

/-- **One PDU.**  A session at a stage goes to the next one, fails, or keeps its
    outcome. -/
theorem handle_reacts (hfresh : Fresh s0) {received queued : List SmpPdu}
    (hstage : Stage prim s0 s received queued) (pdu : SmpPdu) :
    Reacts prim s0 s received queued pdu (s.handle prim pdu).state := by
  unfold handle
  cases hstage with
  | idle hs =>
    have hstate : s.state = .idle := by rw [hs]; exact hfresh.state
    have hrole : s.role = s0.role := by rw [hs]
    rw [hstate, hrole]
    cases hside : s0.role with
    | initiator => cases pdu <;> exact fail_reacts prim _ _
    | responder =>
      cases pdu with
      | pairingRequest features => exact onPairingRequest_reacts prim hfresh hside hs features
      | _ => exact fail_reacts prim _ _
  | requested hside hs =>
    have hstate : s.state = .waitPairingResponse := by rw [hs]
    have hrole : s.role = .initiator := by rw [hs]; exact hside
    rw [hstate, hrole]
    cases pdu with
    | pairingResponse features => exact onPairingResponse_reacts prim hfresh hside hs features
    | _ => exact fail_reacts prim _ _
  | prepared ex hstate hholds =>
    rw [hstate]
    cases pdu with
    | pairingConfirm confirm =>
      have hreacts := onPairingConfirm_reacts prim hholds confirm
      cases s.role <;> exact hreacts
    | _ => cases s.role <;> exact fail_reacts prim _ _
  | committed ex confirm hstate hholds hconfirm =>
    rw [hstate]
    cases pdu with
    | pairingRandom random =>
      have hreacts := onPairingRandom_reacts prim hholds hconfirm random
      cases s.role <;> exact hreacts
    | _ => cases s.role <;> exact fail_reacts prim _ _

theorem start_advances (hfresh : Fresh s0) (hrole : s0.role = .initiator) (hs : Idle s0 s) :
    s.start.state.outbound = s.outbound ++ [.pairingRequest s0.localFeatures] ∧
      Stage prim s0 s.start.state [] [.pairingRequest s0.localFeatures] := by
  have hidle : ¬ (s.role ≠ .initiator ∨ s.state ≠ .idle) := by
    rw [hs]
    simp [hrole, hfresh.state]
  have hfeatures : s.localFeatures = s0.localFeatures := by rw [hs]; rfl
  unfold start
  rw [if_neg hidle]
  dsimp only
  rw [hfeatures]
  refine ⟨rfl, .requested hrole ?_⟩
  rw [hs]
  rfl

/-! ## 8. After the outcome -/

/-- The states a session can be in once it has an outcome. -/
def Concluded : PairingState → Prop
  | .waitEncryption => True
  | .keyDistribution => True
  | .complete => True
  | .failed => True
  | _ => False

/-- A step that changes nothing of what was verified. -/
structure Retains (s s' : LegacyPairingSession κ) : Prop where
  outcome : s'.outcome = s.outcome
  tk : s'.tk = s.tk
  confirmFor : ∀ (prim : Primitives κ) (random : Octets 16),
    s'.confirmFor prim random = s.confirmFor prim random
  concluded : Concluded s'.state
  outbound : s.outbound <+: s'.outbound

theorem fail_retains (reason : PairingFailureReason) : Retains s (s.fail reason) := by
  unfold fail
  split
  · exact ⟨rfl, rfl, fun _ _ => rfl, trivial, List.prefix_append _ _⟩
  · exact ⟨rfl, rfl, fun _ _ => rfl, trivial, List.prefix_rfl⟩

theorem syncDistribution_retains (distribution : KeyDistributionSession) :
    Retains s (s.syncDistribution distribution) := by
  unfold syncDistribution
  cases distribution.state <;>
    exact ⟨rfl, rfl, fun _ _ => rfl, trivial, List.prefix_append _ _⟩

theorem handle_of_concluded (hconcluded : Concluded s.state) (pdu : SmpPdu) :
    s.handle prim pdu = .ok (s.fail .invalidParameters) () := by
  unfold handle
  cases hstate : s.state <;> rw [hstate] at hconcluded <;>
    first
    | exact hconcluded.elim
    | (cases s.role <;> rfl)

theorem process_retains (hconcluded : Concluded s.state) (pdu : SmpPdu) :
    Retains s (s.process prim pdu).state := by
  have hself : Retains s s := ⟨rfl, rfl, fun _ _ => rfl, hconcluded, List.prefix_rfl⟩
  unfold process
  split
  · exact hself
  · split
    · exact ⟨rfl, rfl, fun _ _ => rfl, trivial, List.prefix_rfl⟩
    · split
      · split
        · exact hself
        · exact syncDistribution_retains _
      · split
        · exact fail_retains _
        · rw [handle_of_concluded prim hconcluded]
          exact fail_retains _

theorem markEncrypted_retains (hconcluded : Concluded s.state) :
    Retains s s.markEncrypted.state := by
  have hself : Retains s s := ⟨rfl, rfl, fun _ _ => rfl, hconcluded, List.prefix_rfl⟩
  unfold markEncrypted
  split
  · exact hself
  · split
    · exact hself
    · exact syncDistribution_retains _

theorem Concluded.not_idle (hconcluded : Concluded s.state) : s.state ≠ .idle := by
  intro hidle
  rw [hidle] at hconcluded
  exact hconcluded

end Bumble.Smp.LegacyPairingSession
