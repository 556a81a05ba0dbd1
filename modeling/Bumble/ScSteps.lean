import Bumble.ScSession

/-!
# What one call of a Secure Connections session can change

Until the DHKey check every handler keeps the session's setup, only appends to
the queue and to the calls made to the delegate, and touches neither the outcome
nor the key distribution: `Follows` says so, and `Follows.andThen` carries it
through a chain of calls.  Nothing that is queued on the way carries a key.
-/

namespace Bumble.Smp.ScPairingSession

variable {κ : Type} {s s' s'' : ScPairingSession κ} (prim : Primitives κ)

/-! ## 1. The relation -/

/-- `s'` is `s` after some steps of the pairing before an outcome. -/
structure Follows (s s' : ScPairingSession κ) : Prop where
  role : s'.role = s.role
  config : s'.config = s.config
  delegate : s'.delegate = s.delegate
  initiatorAddress : s'.initiatorAddress = s.initiatorAddress
  responderAddress : s'.responderAddress = s.responderAddress
  eccKey : s'.eccKey = s.eccKey
  random128 : s'.random128 = s.random128
  localKeys : s'.localKeys = s.localKeys
  outcome : s'.outcome = s.outcome
  distribution : s'.distribution = s.distribution
  outbound : ∃ pdus, s'.outbound = s.outbound ++ pdus ∧
    ∀ pdu ∈ pdus, pdu.isKeyDistributionPdu = false
  calls : s.calls <+: s'.calls

namespace Follows

@[refl] theorem refl (s : ScPairingSession κ) : Follows s s :=
  ⟨rfl, rfl, rfl, rfl, rfl, rfl, rfl, rfl, rfl, rfl, ⟨[], by simp, by simp⟩, List.prefix_rfl⟩

theorem trans (hfirst : Follows s s') (hsecond : Follows s' s'') : Follows s s'' := by
  obtain ⟨first, hqueue, hfirstKeys⟩ := hfirst.outbound
  obtain ⟨second, hqueue', hsecondKeys⟩ := hsecond.outbound
  refine ⟨hsecond.role.trans hfirst.role, hsecond.config.trans hfirst.config,
    hsecond.delegate.trans hfirst.delegate,
    hsecond.initiatorAddress.trans hfirst.initiatorAddress,
    hsecond.responderAddress.trans hfirst.responderAddress,
    hsecond.eccKey.trans hfirst.eccKey, hsecond.random128.trans hfirst.random128,
    hsecond.localKeys.trans hfirst.localKeys, hsecond.outcome.trans hfirst.outcome,
    hsecond.distribution.trans hfirst.distribution, ⟨first ++ second, ?_, ?_⟩,
    hfirst.calls.trans hsecond.calls⟩
  · rw [hqueue', hqueue, List.append_assoc]
  · intro pdu hpdu
    rcases List.mem_append.mp hpdu with hpdu | hpdu
    · exact hfirstKeys pdu hpdu
    · exact hsecondKeys pdu hpdu

theorem after (hsecond : Follows s' s'') (hfirst : Follows s s') : Follows s s'' :=
  hfirst.trans hsecond

theorem still (hrole : s'.role = s.role) (hconfig : s'.config = s.config)
    (hdelegate : s'.delegate = s.delegate) (hinitiator : s'.initiatorAddress = s.initiatorAddress)
    (hresponder : s'.responderAddress = s.responderAddress) (hkey : s'.eccKey = s.eccKey)
    (hrandom : s'.random128 = s.random128) (hkeys : s'.localKeys = s.localKeys)
    (houtcome : s'.outcome = s.outcome) (hdistribution : s'.distribution = s.distribution)
    (houtbound : s'.outbound = s.outbound) (hcalls : s'.calls = s.calls) : Follows s s' :=
  ⟨hrole, hconfig, hdelegate, hinitiator, hresponder, hkey, hrandom, hkeys, houtcome,
    hdistribution, ⟨[], by simp [houtbound], by simp⟩, by rw [hcalls]⟩

theorem push {pdu : SmpPdu} (hpdu : pdu.isKeyDistributionPdu = false) : Follows s (s.push pdu) :=
  ⟨rfl, rfl, rfl, rfl, rfl, rfl, rfl, rfl, rfl, rfl, ⟨[pdu], rfl, by simpa using hpdu⟩,
    List.prefix_rfl⟩

theorem ask (asked : List DelegateCall) : Follows s { s with calls := s.calls ++ asked } :=
  ⟨rfl, rfl, rfl, rfl, rfl, rfl, rfl, rfl, rfl, rfl, ⟨[], by simp, by simp⟩,
    List.prefix_append _ _⟩

theorem fail (reason : PairingFailureReason) : Follows s (s.fail reason) := by
  unfold ScPairingSession.fail
  split
  · exact (push rfl).trans (still rfl rfl rfl rfl rfl rfl rfl rfl rfl rfl rfl rfl)
  · exact still rfl rfl rfl rfl rfl rfl rfl rfl rfl rfl rfl rfl

theorem andThen {α β : Type} {call : Call κ α} {next : ScPairingSession κ → α → Call κ β}
    (hcall : Follows s call.state)
    (hnext : ∀ value, Follows call.state (next call.state value).state) :
    Follows s (call.andThen next).state := by
  unfold Outcome.andThen
  split
  · exact hcall.trans (hnext _)
  · exact hcall

end Follows

@[simp] theorem fail_state (reason : PairingFailureReason) : (s.fail reason).state = .failed := by
  simp [fail]

theorem push_random_follows (randomValue : Octets 16) :
    Follows s (s.push (.pairingRandom randomValue)) := .push rfl

/-! ## 2. The handlers -/

theorem applyNegotiated_follows (peer : PairingFeatures) :
    Follows s (s.applyNegotiated peer).state := by
  unfold applyNegotiated
  dsimp only
  split
  · exact (Follows.fail _).after (.still rfl rfl rfl rfl rfl rfl rfl rfl rfl rfl rfl rfl)
  · exact .still rfl rfl rfl rfl rfl rfl rfl rfl rfl rfl rfl rfl

theorem negotiateResponse_follows (peer : PairingFeatures) :
    Follows s (s.negotiateResponse peer).state := by
  unfold negotiateResponse
  split
  · exact .fail _
  · split
    · exact .fail _
    · exact (applyNegotiated_follows peer).andThen fun _ => .refl _

theorem selectMethod_follows (request response : PairingFeatures) :
    Follows s (s.selectMethod request response).state := by
  unfold selectMethod
  split
  · exact .refl s
  · exact .refl s
  · dsimp only
    split
    · split
      · exact (Follows.ask _).trans (.fail _)
      · exact (Follows.ask _).trans (.still rfl rfl rfl rfl rfl rfl rfl rfl rfl rfl rfl rfl)
    · split
      · exact .fail _
      · exact .still rfl rfl rfl rfl rfl rfl rfl rfl rfl rfl rfl rfl
    · exact .still rfl rfl rfl rfl rfl rfl rfl rfl rfl rfl rfl rfl
    · exact .still rfl rfl rfl rfl rfl rfl rfl rfl rfl rfl rfl rfl
    · exact .fail _

theorem respond_follows (features : PairingFeatures) : Follows s (s.respond features).state := by
  unfold respond
  dsimp only
  split
  · exact negotiateResponse_follows features
  · apply (negotiateResponse_follows features).trans
    refine Follows.after ((selectMethod_follows _ _).andThen ?_)
      (.still rfl rfl rfl rfl rfl rfl rfl rfl rfl rfl rfl rfl)
    intro selected
    split
    · exact .refl _
    · exact (Follows.push rfl).trans (.still rfl rfl rfl rfl rfl rfl rfl rfl rfl rfl rfl rfl)

theorem onPairingRequest_follows (features : PairingFeatures) :
    Follows s (s.onPairingRequest features).state := by
  unfold onPairingRequest
  dsimp only
  split
  · exact (Follows.ask _).trans (.fail _)
  · have hasked : Follows s
        { s with
          calls := s.calls ++ [DelegateCall.accept (s.delegate.accept s.calls)]
          preq := some (SmpPdu.pairingRequest features).toBytes } :=
      (Follows.ask _).trans (.still rfl rfl rfl rfl rfl rfl rfl rfl rfl rfl rfl rfl)
    exact (respond_follows features).after hasked

theorem onPairingResponse_follows (features : PairingFeatures) :
    Follows s (s.onPairingResponse prim features).state := by
  unfold onPairingResponse
  split
  · exact .fail _
  · split
    · exact .fail _
    · split
      · exact .refl s
      · apply (applyNegotiated_follows features).andThen
        intro _
        refine Follows.after ((selectMethod_follows _ _).andThen ?_)
          (.still rfl rfl rfl rfl rfl rfl rfl rfl rfl rfl rfl rfl)
        intro selected
        split
        · exact .refl _
        · exact (Follows.push rfl).trans
            (.still rfl rfl rfl rfl rfl rfl rfl rfl rfl rfl rfl rfl)

theorem queuePasskeyConfirm_follows : Follows s (s.queuePasskeyConfirm prim).state := by
  unfold queuePasskeyConfirm
  split
  · exact .refl s
  · split
    · exact .refl s
    · exact .push rfl

theorem exchangeKeys_follows (x : Octets 32) : Follows s (s.exchangeKeys prim x).state := by
  have hstill : ∀ t t' : ScPairingSession κ, t' = { t with state := t'.state } → Follows t t' := by
    intro t t' ht
    rw [ht]
    exact .still rfl rfl rfl rfl rfl rfl rfl rfl rfl rfl rfl rfl
  unfold exchangeKeys
  split
  · exact .refl _
  · exact .refl _
  · exact (queuePasskeyConfirm_follows prim).andThen fun _ => hstill _ _ rfl
  · exact hstill _ _ rfl
  · exact (Follows.push rfl).trans (hstill _ _ rfl)
  · exact ((Follows.push rfl).trans (.push rfl)).trans (hstill _ _ rfl)

theorem receiveKey_follows (x y dhKey : Octets 32) : Follows s (s.receiveKey x y dhKey) :=
  .still rfl rfl rfl rfl rfl rfl rfl rfl rfl rfl rfl rfl

theorem onPublicKey_follows (x y : Octets 32) : Follows s (s.onPublicKey prim x y).state := by
  unfold onPublicKey
  split
  · exact .fail _
  · split
    · exact .fail _
    · next dhKey _ =>
      apply (receiveKey_follows x y dhKey.reverse).trans
      dsimp only
      split
      · exact .fail _
      · exact exchangeKeys_follows prim x

theorem onPairingConfirm_follows (confirmValue : Octets 16) :
    Follows s (s.onPairingConfirm prim confirmValue).state := by
  unfold onPairingConfirm
  have hconfirm : Follows s { s with peerConfirm := some confirmValue } :=
    .still rfl rfl rfl rfl rfl rfl rfl rfl rfl rfl rfl rfl
  apply hconfirm.trans
  dsimp only
  split
  · exact (queuePasskeyConfirm_follows prim).andThen fun _ =>
      .still rfl rfl rfl rfl rfl rfl rfl rfl rfl rfl rfl rfl
  · exact (Follows.push rfl).trans (.still rfl rfl rfl rfl rfl rfl rfl rfl rfl rfl rfl rfl)

theorem deriveKeys_follows : Follows s (s.deriveKeys prim).state := by
  unfold deriveKeys
  split
  · exact .refl s
  · exact .refl s
  · dsimp only
    split
    · exact .refl s
    · exact .refl s
    · split
      · exact .refl s
      · split
        · exact .refl s
        · exact .refl s
        · exact .refl s
        · exact .still rfl rfl rfl rfl rfl rfl rfl rfl rfl rfl rfl rfl

theorem confirmUser_follows : Follows s s.confirmUser.state := by
  unfold confirmUser
  split
  · exact .refl s
  · exact .refl s
  · dsimp only
    split
    · exact (Follows.ask _).trans (.fail _)
    · exact (Follows.ask _).trans (.still rfl rfl rfl rfl rfl rfl rfl rfl rfl rfl rfl rfl)

theorem awaitCheck_follows : Follows s s.awaitCheck.state := by
  unfold awaitCheck
  split
  · split
    · exact .refl s
    · exact (Follows.push rfl).trans (.still rfl rfl rfl rfl rfl rfl rfl rfl rfl rfl rfl rfl)
  · exact .still rfl rfl rfl rfl rfl rfl rfl rfl rfl rfl rfl rfl

theorem exchangeNonces_follows (randomValue : Octets 16) :
    Follows s (s.exchangeNonces randomValue) := by
  unfold exchangeNonces
  dsimp only
  split
  · exact .still rfl rfl rfl rfl rfl rfl rfl rfl rfl rfl rfl rfl
  · exact (push_random_follows s.localNonce).after
      (.still rfl rfl rfl rfl rfl rfl rfl rfl rfl rfl rfl rfl)

theorem nextRound_follows : Follows s (s.nextRound prim).state := by
  have hfresh : Follows s s.freshNonce :=
    .still rfl rfl rfl rfl rfl rfl rfl rfl rfl rfl rfl rfl
  apply hfresh.trans
  unfold nextRound
  split
  · apply (queuePasskeyConfirm_follows prim).andThen
    intro _
    exact .still rfl rfl rfl rfl rfl rfl rfl rfl rfl rfl rfl rfl
  · exact .still rfl rfl rfl rfl rfl rfl rfl rfl rfl rfl rfl rfl

theorem endPasskey_follows : Follows s (s.endPasskey prim).state := by
  apply (deriveKeys_follows prim).andThen
  intro _
  exact awaitCheck_follows.after (.still rfl rfl rfl rfl rfl rfl rfl rfl rfl rfl rfl rfl)

theorem onPasskeyRandom_follows (randomValue : Octets 16) :
    Follows s (s.onPasskeyRandom prim randomValue).state := by
  unfold onPasskeyRandom
  split
  · exact .refl s
  · exact .refl s
  · split
    · exact .fail _
    · apply (exchangeNonces_follows randomValue).trans
      dsimp only
      split
      · exact (nextRound_follows prim).after
          (.still rfl rfl rfl rfl rfl rfl rfl rfl rfl rfl rfl rfl)
      · exact (endPasskey_follows prim).after
          (.still rfl rfl rfl rfl rfl rfl rfl rfl rfl rfl rfl rfl)

theorem conclude_follows : Follows s (s.conclude prim).state := by
  apply (deriveKeys_follows prim).andThen
  intro _
  apply confirmUser_follows.andThen
  intro accepted
  split
  · exact .refl _
  · exact awaitCheck_follows

theorem onPairingRandom_follows (randomValue : Octets 16) :
    Follows s (s.onPairingRandom prim randomValue).state := by
  unfold onPairingRandom
  split
  · exact onPasskeyRandom_follows prim randomValue
  · split
    · split
      · exact .still rfl rfl rfl rfl rfl rfl rfl rfl rfl rfl rfl rfl
      · split
        · exact (Follows.fail _).after (.still rfl rfl rfl rfl rfl rfl rfl rfl rfl rfl rfl rfl)
        · exact (exchangeNonces_follows randomValue).trans (conclude_follows prim)
    · exact (exchangeNonces_follows randomValue).trans (conclude_follows prim)

end Bumble.Smp.ScPairingSession
