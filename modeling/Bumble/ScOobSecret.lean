import Bumble.ScAuthentication

/-!
# The random value of an out-of-band context

A session with an out-of-band context starts with the context's random value as
its nonce, and the first Pairing Random it sends carries its nonce.  So the value
that should stay out of band goes over the air in every run that comes to the
exchange of random values, and in no other.
-/

namespace Bumble.Smp.ScPairingSession

variable {κ : Type} {s s' s0 : ScPairingSession κ} (prim : Primitives κ)

/-! ## 1. Revealed values -/

/-- The values that the Pairing Random PDUs of a list carry. -/
def randomsIn (pdus : List SmpPdu) : List (Octets 16) :=
  pdus.filterMap fun
    | .pairingRandom value => some value
    | _ => none

@[simp] theorem randomsIn_append (pdus pdus' : List SmpPdu) :
    randomsIn (pdus ++ pdus') = randomsIn pdus ++ randomsIn pdus' := List.filterMap_append

theorem mem_randomsIn {pdus : List SmpPdu} {value : Octets 16} :
    value ∈ randomsIn pdus ↔ SmpPdu.pairingRandom value ∈ pdus := by
  constructor
  · intro hvalue
    obtain ⟨pdu, hmem, hpdu⟩ := List.mem_filterMap.mp hvalue
    split at hpdu
    · cases hpdu
      exact hmem
    · cases hpdu
  · intro hmem
    exact List.mem_filterMap.mpr ⟨_, hmem, rfl⟩

/-- The session answers a PDU with its nonce: to the confirm value of its peer, or as
    a responder to a random value, which in passkey entry has to open the peer's
    commitment. -/
def Reveals (s : ScPairingSession κ) : SmpPdu → Prop
  | .pairingConfirm _ =>
    s.state = .waitPairingConfirm ∧ ¬ (s.method = some .passkey ∧ s.role = .responder)
  | .pairingRandom value =>
    s.state = .waitPairingRandom ∧ s.role = .responder ∧
      (s.method = some .passkey → ∃ x z, s.peerPublicX = some x ∧ s.passkeyZ = some z ∧
        s.peerConfirm = some (confirmValueWithZ prim x (s.publicXLe prim) value z))
  | _ => False

/-- The nonce of a session and the values in its queue. -/
def nonceView (s : ScPairingSession κ) : Octets 16 × List (Octets 16) :=
  (s.localNonce, randomsIn s.outbound)

/-! ## 2. Steps that reveal nothing -/

section Quiet

variable {α β : Type} {prim}

theorem andThen_view {call : Call κ α} {next : ScPairingSession κ → α → Call κ β}
    {view : Octets 16 × List (Octets 16)} (hcall : call.state.nonceView = view)
    (hnext : ∀ value, (next call.state value).state.nonceView = call.state.nonceView) :
    (call.andThen next).state.nonceView = view := by
  unfold Outcome.andThen
  split
  · exact (hnext _).trans hcall
  · exact hcall

theorem push_view {pdu : SmpPdu} (hpdu : randomsIn [pdu] = []) :
    (s.push pdu).nonceView = s.nonceView := by
  simp only [nonceView, push, randomsIn_append, hpdu, List.append_nil]

theorem queue_view {pdu : SmpPdu} (hpdu : randomsIn [pdu] = []) {state : ScPairingState} :
    ({ s.push pdu with state := state } : ScPairingSession κ).nonceView = s.nonceView := by
  have hpush : (s.push pdu).nonceView = s.nonceView := push_view hpdu
  exact hpush

theorem fail_view (reason : PairingFailureReason) :
    (s.fail reason).nonceView = s.nonceView := by
  have hpush : (s.push (.pairingFailed reason.value)).nonceView = s.nonceView := push_view rfl
  unfold fail
  split
  · exact hpush
  · rfl

theorem applyNegotiated_view (peer : PairingFeatures) :
    (s.applyNegotiated peer).state.nonceView = s.nonceView := by
  unfold applyNegotiated
  dsimp only
  split
  · exact fail_view _
  · rfl

theorem negotiateResponse_view (peer : PairingFeatures) :
    (s.negotiateResponse peer).state.nonceView = s.nonceView := by
  unfold negotiateResponse
  split
  · exact fail_view _
  · split
    · exact fail_view _
    · apply andThen_view (applyNegotiated_view peer)
      intro _
      rfl

theorem selectMethod_view (request response : PairingFeatures) :
    (s.selectMethod request response).state.nonceView = s.nonceView := by
  unfold selectMethod
  split
  · rfl
  · rfl
  · dsimp only
    split
    · split
      · exact fail_view _
      · rfl
    · split
      · exact fail_view _
      · rfl
    · rfl
    · rfl
    · exact fail_view _

theorem respond_view (features : PairingFeatures) :
    (s.respond features).state.nonceView = s.nonceView := by
  unfold respond
  dsimp only
  split
  · exact negotiateResponse_view features
  · refine Eq.trans ?_ (negotiateResponse_view features)
    apply andThen_view
    · exact selectMethod_view _ _
    · intro selected
      split
      · rfl
      · exact queue_view rfl

theorem onPairingRequest_view (features : PairingFeatures) :
    (s.onPairingRequest features).state.nonceView = s.nonceView := by
  unfold onPairingRequest
  dsimp only
  split
  · exact fail_view _
  · exact respond_view features

theorem onPairingResponse_view (features : PairingFeatures) :
    (s.onPairingResponse prim features).state.nonceView = s.nonceView := by
  unfold onPairingResponse
  split
  · exact fail_view _
  · split
    · exact fail_view _
    · split
      · rfl
      · apply andThen_view (applyNegotiated_view features)
        intro _
        apply andThen_view
        · exact selectMethod_view _ _
        · intro selected
          split
          · rfl
          · exact queue_view rfl

theorem queuePasskeyConfirm_view :
    (s.queuePasskeyConfirm prim).state.nonceView = s.nonceView := by
  unfold queuePasskeyConfirm
  split
  · rfl
  · split
    · rfl
    · exact push_view rfl

theorem exchangeKeys_view (x : Octets 32) :
    (s.exchangeKeys prim x).state.nonceView = s.nonceView := by
  unfold exchangeKeys
  split
  · rfl
  · rfl
  · apply andThen_view queuePasskeyConfirm_view
    intro _
    rfl
  · rfl
  · exact queue_view rfl
  · have hkey : (s.push (s.publicKeyPdu prim)).nonceView = s.nonceView := push_view rfl
    exact (queue_view rfl).trans hkey

theorem onPublicKey_view (x y : Octets 32) :
    (s.onPublicKey prim x y).state.nonceView = s.nonceView := by
  unfold onPublicKey
  split
  · exact fail_view _
  · split
    · exact fail_view _
    · dsimp only
      split
      · exact fail_view _
      · exact exchangeKeys_view x

theorem deriveKeys_view : (s.deriveKeys prim).state.nonceView = s.nonceView := by
  unfold deriveKeys
  split
  · rfl
  · rfl
  · dsimp only
    split
    · rfl
    · rfl
    · split
      · rfl
      · split <;> rfl

theorem confirmUser_view : s.confirmUser.state.nonceView = s.nonceView := by
  unfold confirmUser
  split
  · rfl
  · rfl
  · dsimp only
    split
    · exact fail_view _
    · rfl

theorem awaitCheck_view : s.awaitCheck.state.nonceView = s.nonceView := by
  unfold awaitCheck
  split
  · split
    · rfl
    · exact queue_view rfl
  · rfl

theorem endPasskey_view : (s.endPasskey prim).state.nonceView = s.nonceView := by
  apply andThen_view deriveKeys_view
  intro _
  exact awaitCheck_view

theorem conclude_view : (s.conclude prim).state.nonceView = s.nonceView := by
  apply andThen_view deriveKeys_view
  intro _
  apply andThen_view confirmUser_view
  intro accepted
  split
  · rfl
  · exact awaitCheck_view

theorem finish_view : s.finish.state.nonceView = s.nonceView := by
  unfold finish
  split <;> rfl

theorem onDhkeyCheck_view (received : Octets 16) :
    (s.onDhkeyCheck received).state.nonceView = s.nonceView := by
  unfold onDhkeyCheck
  split
  · rfl
  · split
    · exact fail_view _
    · split
      · next keys _ _ _ =>
        have hcheck : (s.push (.pairingDhKeyCheck keys.eb)).nonceView = s.nonceView := push_view rfl
        exact finish_view.trans hcheck
      · exact finish_view

theorem start_view : s.start.state.nonceView = s.nonceView := by
  have hpush : (s.push (.pairingRequest s.localFeatures)).nonceView = s.nonceView := push_view rfl
  unfold start
  split
  · rfl
  · exact hpush

theorem localDistribution_randoms (config : KeyDistributionConfig) :
    randomsIn config.localDistribution = [] := by
  unfold KeyDistributionConfig.localDistribution
  split <;> split <;> split <;> rfl

theorem distributeLocalKeys_randoms (session : KeyDistributionSession) :
    randomsIn session.distributeLocalKeys.outbound = randomsIn session.outbound := by
  unfold KeyDistributionSession.distributeLocalKeys
  split
  · rfl
  · simp only [randomsIn_append, localDistribution_randoms, List.append_nil]

theorem peerDistributionComplete_randoms (session : KeyDistributionSession) :
    randomsIn session.peerDistributionComplete.outbound = randomsIn session.outbound := by
  unfold KeyDistributionSession.peerDistributionComplete
  dsimp only
  split
  · exact distributeLocalKeys_randoms session
  · rfl

theorem distribution_fail_randoms (session : KeyDistributionSession)
    (reason : PairingFailureReason) :
    randomsIn (session.fail reason).outbound = randomsIn session.outbound := by
  simp only [KeyDistributionSession.fail, randomsIn_append]
  exact List.append_nil _

theorem distribution_markEncrypted_randoms (session : KeyDistributionSession) :
    randomsIn session.markEncrypted.outbound = randomsIn session.outbound := by
  unfold KeyDistributionSession.markEncrypted
  split
  · rfl
  · dsimp only
    split
    · split
      · exact (peerDistributionComplete_randoms _).trans (distributeLocalKeys_randoms _)
      · exact distributeLocalKeys_randoms _
    · split
      · exact peerDistributionComplete_randoms _
      · rfl

theorem record_outbound (session : KeyDistributionSession) (pdu : SmpPdu) :
    (session.record pdu).outbound = session.outbound := by
  cases pdu <;> rfl

theorem distribution_process_randoms (session : KeyDistributionSession) (pdu : SmpPdu) :
    randomsIn (session.process pdu).outbound = randomsIn session.outbound := by
  unfold KeyDistributionSession.process
  split
  · rfl
  · split
    · exact distribution_fail_randoms _ _
    · split
      · rfl
      · split
        · exact distribution_fail_randoms _ _
        · split
          · dsimp only
            rw [← record_outbound session]
            split
            · exact peerDistributionComplete_randoms _
            · rfl
          · exact distribution_fail_randoms _ _

theorem syncDistribution_view {distribution : KeyDistributionSession}
    (hdistribution : randomsIn distribution.outbound = []) :
    (s.syncDistribution distribution).nonceView = s.nonceView := by
  have hview : ∀ state failure, ({ s with
      outbound := s.outbound ++ distribution.outbound
      distribution := some { distribution with outbound := [] }
      state := state
      failure := failure } : ScPairingSession κ).nonceView = s.nonceView := by
    intro state failure
    simp only [nonceView, randomsIn_append, hdistribution, List.append_nil]
  unfold syncDistribution
  dsimp only
  split
  · exact hview _ _
  · exact hview _ _
  · exact hview _ _
  · exact hview _ _

theorem markEncrypted_view : s.markEncrypted.state.nonceView = s.nonceView := by
  unfold markEncrypted
  split
  · rfl
  · split
    · rfl
    · exact syncDistribution_view (distribution_markEncrypted_randoms _)

theorem setLocalKeyMaterial_view (keys : LocalKeyMaterial) :
    (s.setLocalKeyMaterial keys).state.nonceView = s.nonceView := by
  unfold setLocalKeyMaterial
  split <;> rfl

end Quiet

/-! ## 3. Steps that reveal the nonce -/

/-- What a PDU does to the nonce and to the revealed values. -/
def NonceStep (s : ScPairingSession κ) (pdu : SmpPdu) (s' : ScPairingSession κ) : Prop :=
  Reveals prim s pdu ∧ randomsIn s'.outbound = randomsIn s.outbound ++ [s.localNonce] ∨
    ¬ Reveals prim s pdu ∧ randomsIn s'.outbound = randomsIn s.outbound ∧
      (s'.localNonce = s.localNonce ∨ s.role = .initiator ∧ s.state = .waitPairingRandom)

section Steps

variable {prim} {pdu : SmpPdu}

theorem NonceStep.quiet (hreveals : ¬ Reveals prim s pdu) (hview : s'.nonceView = s.nonceView) :
    NonceStep prim s pdu s' :=
  .inr ⟨hreveals, congrArg Prod.snd hview, .inl (congrArg Prod.fst hview)⟩

theorem onPairingConfirm_nonce (hstate : s.state = .waitPairingConfirm) (value : Octets 16) :
    NonceStep prim s (.pairingConfirm value) (s.onPairingConfirm prim value).state := by
  unfold onPairingConfirm
  dsimp only
  split
  · next hpasskey =>
    apply NonceStep.quiet
    · rintro ⟨-, hnot⟩
      exact hnot hpasskey
    · apply andThen_view
      · exact queuePasskeyConfirm_view
      · intro _
        rfl
  · next hpasskey =>
    left
    exact ⟨⟨hstate, hpasskey⟩, randomsIn_append _ _⟩

theorem nextRound_randoms :
    randomsIn (s.nextRound prim).state.outbound = randomsIn s.outbound := by
  unfold nextRound
  split
  · have hview : ((s.freshNonce.queuePasskeyConfirm prim).andThen fun s () =>
        .ok { s with state := .waitPairingConfirm } ()).state.nonceView =
          s.freshNonce.nonceView := by
      apply andThen_view queuePasskeyConfirm_view
      intro _
      rfl
    exact congrArg Prod.snd hview
  · rfl

theorem exchangeNonces_randoms (value : Octets 16) :
    randomsIn (s.exchangeNonces value).outbound =
      randomsIn s.outbound ++ if s.role = .responder then [s.localNonce] else [] := by
  unfold exchangeNonces
  dsimp only
  cases hrole : s.role with
  | initiator => simp
  | responder =>
    simp only [push, randomsIn_append, if_true]
    rfl

/-- The answer to a random value of a passkey round is the own nonce or none at all. -/
theorem onPasskeyRandom_nonce (hstate : s.state = .waitPairingRandom)
    (hmethod : s.method = some .passkey) (value : Octets 16) :
    NonceStep prim s (.pairingRandom value) (s.onPasskeyRandom prim value).state := by
  unfold onPasskeyRandom
  split
  · next hx =>
    apply NonceStep.quiet
    · rintro ⟨-, -, hopens⟩
      obtain ⟨x, z, hx', -⟩ := hopens hmethod
      exact absurd (hx.symm.trans hx') (by simp)
    · rfl
  · next hz =>
    apply NonceStep.quiet
    · rintro ⟨-, -, hopens⟩
      obtain ⟨x, z, -, hz', -⟩ := hopens hmethod
      exact absurd (hz.symm.trans hz') (by simp)
    · rfl
  · next x z hx hz =>
    split
    · next hconfirm =>
      apply NonceStep.quiet
      · rintro ⟨-, -, hopens⟩
        obtain ⟨x', z', hx', hz', hcommitment⟩ := hopens hmethod
        cases hx.symm.trans hx'
        cases hz.symm.trans hz'
        exact hconfirm hcommitment
      · exact fail_view _
    · next hconfirm =>
      have hrandoms : randomsIn (if (s.exchangeNonces value).passkeyStep + 1 < 20 then
          { s.exchangeNonces value with
            passkeyStep := (s.exchangeNonces value).passkeyStep + 1 }.nextRound prim
          else { s.exchangeNonces value with
            passkeyStep := (s.exchangeNonces value).passkeyStep + 1 }.endPasskey
              prim).state.outbound =
          randomsIn (s.exchangeNonces value).outbound := by
        split
        · exact nextRound_randoms
        · exact congrArg Prod.snd endPasskey_view
      rw [exchangeNonces_randoms] at hrandoms
      cases hrole : s.role with
      | initiator =>
        right
        refine ⟨fun hreveals => ?_, ?_, .inr ⟨hrole, hstate⟩⟩
        · have hresponder := hreveals.2.1
          rw [hrole] at hresponder
          cases hresponder
        · rw [hrole] at hrandoms
          simpa using hrandoms
      | responder =>
        left
        refine ⟨⟨hstate, hrole, fun _ => ⟨x, z, hx, hz, not_not.mp hconfirm⟩⟩, ?_⟩
        rw [hrole] at hrandoms
        exact hrandoms

theorem onPairingRandom_nonce (hstate : s.state = .waitPairingRandom) (value : Octets 16) :
    NonceStep prim s (.pairingRandom value) (s.onPairingRandom prim value).state := by
  unfold onPairingRandom
  split
  · next hmethod => exact onPasskeyRandom_nonce hstate hmethod value
  · next hmethod =>
    have hconclude : randomsIn ((s.exchangeNonces value).conclude prim).state.outbound =
        randomsIn (s.exchangeNonces value).outbound := congrArg Prod.snd conclude_view
    rw [exchangeNonces_randoms] at hconclude
    cases hrole : s.role with
    | initiator =>
      have hreveals : ¬ Reveals prim s (.pairingRandom value) := by
        rintro ⟨-, hresponder, -⟩
        rw [hrole] at hresponder
        cases hresponder
      dsimp only
      split
      · exact .quiet hreveals rfl
      · split
        · exact .quiet hreveals (fail_view _)
        · right
          refine ⟨hreveals, ?_, .inr ⟨hrole, hstate⟩⟩
          rw [hrole] at hconclude
          simpa using hconclude
    | responder =>
      left
      refine ⟨⟨hstate, hrole, fun hpasskey => absurd hpasskey hmethod⟩, ?_⟩
      rw [hrole] at hconclude
      exact hconclude

theorem handle_view
    (hconfirm : ∀ value, pdu = .pairingConfirm value → s.state ≠ .waitPairingConfirm)
    (hrandom : ∀ value, pdu = .pairingRandom value → s.state ≠ .waitPairingRandom) :
    (s.handle prim pdu).state.nonceView = s.nonceView := by
  unfold handle
  split
  · exact onPairingRequest_view _
  · exact onPairingResponse_view _
  · exact onPublicKey_view _ _
  · next hstate => exact absurd hstate (hconfirm _ rfl)
  · next hstate => exact absurd hstate (hrandom _ rfl)
  · exact onDhkeyCheck_view _
  · exact fail_view _

theorem handle_nonce (pdu : SmpPdu) : NonceStep prim s pdu (s.handle prim pdu).state := by
  by_cases hconfirm : ∃ value, pdu = .pairingConfirm value ∧ s.state = .waitPairingConfirm
  · obtain ⟨value, rfl, hstate⟩ := hconfirm
    have hhandle : s.handle prim (.pairingConfirm value) = s.onPairingConfirm prim value := by
      unfold handle
      rw [hstate]
      cases s.role <;> rfl
    rw [hhandle]
    exact onPairingConfirm_nonce hstate value
  · by_cases hrandom : ∃ value, pdu = .pairingRandom value ∧ s.state = .waitPairingRandom
    · obtain ⟨value, rfl, hstate⟩ := hrandom
      have hhandle : s.handle prim (.pairingRandom value) = s.onPairingRandom prim value := by
        unfold handle
        rw [hstate]
        cases s.role <;> rfl
      rw [hhandle]
      exact onPairingRandom_nonce hstate value
    · apply NonceStep.quiet
      · intro hreveals
        cases pdu with
        | pairingConfirm value => exact hconfirm ⟨value, rfl, hreveals.1⟩
        | pairingRandom value => exact hrandom ⟨value, rfl, hreveals.1⟩
        | _ => exact hreveals
      · apply handle_view
        · intro value hpdu hstate
          exact hconfirm ⟨value, hpdu, hstate⟩
        · intro value hpdu hstate
          exact hrandom ⟨value, hpdu, hstate⟩

/-- A session in which the key distribution, where it has begun, has nothing queued. -/
def Drained (s : ScPairingSession κ) : Prop :=
  ∀ distribution, s.distribution = some distribution → distribution.outbound = []

/-- **One PDU.** -/
theorem process_nonce (hdrained : Drained s) (pdu : SmpPdu) :
    NonceStep prim s pdu (s.process prim pdu).state := by
  have hnever : ∀ {pdu : SmpPdu}, s.state ≠ .waitPairingConfirm → s.state ≠ .waitPairingRandom →
      ¬ Reveals prim s pdu := by
    intro pdu hconfirm hrandom hreveals
    cases pdu with
    | pairingConfirm value => exact hconfirm hreveals.1
    | pairingRandom value => exact hrandom hreveals.1
    | _ => exact hreveals
  unfold process
  split
  · next hfailed =>
    apply NonceStep.quiet
    · apply hnever <;> rw [hfailed] <;> simp
    · rfl
  · split
    · exact .quiet (fun hreveals => hreveals) rfl
    · split
      · next hkeys =>
        have hreveals : ¬ Reveals prim s pdu := by apply hnever <;> rw [hkeys] <;> simp
        split
        · exact .quiet hreveals rfl
        · next distribution hdistribution =>
          apply NonceStep.quiet hreveals
          apply syncDistribution_view
          rw [distribution_process_randoms, hdrained distribution hdistribution]
          rfl
      · split
        · next hkind =>
          apply NonceStep.quiet
          · intro hreveals
            cases pdu <;> first | exact hreveals | cases hkind
          · exact fail_view _
        · exact handle_nonce pdu

end Steps

/-! ## 4. Runs -/

section Runs

variable {prim}

theorem syncDistribution_drained (distribution : KeyDistributionSession) :
    Drained (s.syncDistribution distribution) := by
  intro kept hkept
  unfold syncDistribution at hkept
  dsimp only at hkept
  split at hkept <;> cases hkept <;> rfl

theorem Drained.silent (hdrained : Drained s) (hdistribution : s'.distribution = s.distribution) :
    Drained s' := by
  intro distribution hkept
  exact hdrained distribution (hdistribution.symm.trans hkept)

theorem process_drained (hdrained : Drained s) (pdu : SmpPdu) :
    Drained (s.process prim pdu).state := by
  unfold process
  split
  · exact hdrained
  · split
    · exact hdrained
    · split
      · split
        · exact hdrained
        · exact syncDistribution_drained _
      · split
        · exact hdrained.silent (Follows.fail _).distribution
        · exact hdrained.silent (handle_silent prim _).distribution

theorem drained_apply {log : Log (ScPairingSession κ) SmpPdu} (hdrained : Drained log.state)
    (event : Event ScInput SmpPdu) :
    Drained ((scParty prim).logged.apply log event).state := by
  cases event with
  | call input =>
    cases input with
    | start => exact hdrained.silent start_silent.distribution
    | setLocalKeyMaterial keys =>
        exact hdrained.silent (setLocalKeyMaterial_silent keys).distribution
    | markEncrypted =>
      change Drained log.state.markEncrypted.state
      unfold markEncrypted
      split
      · exact hdrained
      · split
        · exact hdrained
        · exact syncDistribution_drained _
  | poll =>
    cases hqueue : log.state.outbound with
    | nil =>
      rw [Party.logged_poll_none _ (pollOutbound_nil hqueue)]
      exact hdrained
    | cons pdu outbound =>
      rw [Party.logged_poll_some _ (pollOutbound_cons hqueue)]
      exact hdrained
  | receive pdu => exact process_drained hdrained pdu

theorem Tracked.revealed {log : Log (ScPairingSession κ) SmpPdu} (hlog : Tracked prim s0 log)
    (hfresh : Fresh s0) (hrole : log.state.role = .initiator)
    (hstate : log.state.state = .waitPairingRandom) :
    randomsIn (log.sent ++ log.state.outbound) ≠ [] := by
  rcases hlog with ⟨-, hfailed | hstage⟩ | ⟨ex, last, -, hconcluded, -⟩
  · rw [hstate] at hfailed
    cases hfailed
  · revert hstage
    generalize log.received = received
    generalize log.sent ++ log.state.outbound = queued
    intro hstage
    cases hstage with
    | idle hs => rw [hs, hfresh.state] at hstate; cases hstate
    | requested hside hs => rw [hs] at hstate; cases hstate
    | negotiated ex hs _ _ _ => rw [hs] at hstate; cases hstate
    | confirming ex hs _ _ => rw [hs] at hstate; cases hstate
    | derived ex last hs _ _ _ _ _ _ _ => rw [hs] at hstate; cases hstate
    | committed ex confirm _ hround _ =>
      have hside : s0.role = .initiator := hround.holds.keeps.role.symm.trans hrole
      rw [if_pos hside]
      intro hnone
      have hmem : log.state.localNonce ∈ randomsIn (ex.sent prim s0 ++
          (if commits s0.role ex.method then [currentConfirm prim s0 log.state ex] else []) ++
          [.pairingRandom log.state.localNonce]) := by
        rw [mem_randomsIn]
        simp
      rw [hnone] at hmem
      cases hmem
  · rw [hstate] at hconcluded
    exact hconcluded.elim

/-- **One event**: it reveals the nonce, or it leaves the revealed values as they are. -/
theorem event_nonce {log : Log (ScPairingSession κ) SmpPdu} (hdrained : Drained log.state)
    (event : Event ScInput SmpPdu) {log' : Log (ScPairingSession κ) SmpPdu}
    (hlog' : log' = (scParty prim).logged.apply log event) :
    (∃ pdu, event = .receive pdu ∧ Reveals prim log.state pdu ∧
      randomsIn (log'.sent ++ log'.state.outbound) =
        randomsIn (log.sent ++ log.state.outbound) ++ [log.state.localNonce]) ∨
    (∀ pdu, event = .receive pdu → ¬ Reveals prim log.state pdu) ∧
      randomsIn (log'.sent ++ log'.state.outbound) = randomsIn (log.sent ++ log.state.outbound) ∧
      (log'.state.localNonce = log.state.localNonce ∨
        log.state.role = .initiator ∧ log.state.state = .waitPairingRandom) := by
  have hcall : ∀ {s' : ScPairingSession κ}, s'.nonceView = log.state.nonceView →
      randomsIn (log.sent ++ s'.outbound) = randomsIn (log.sent ++ log.state.outbound) ∧
        (s'.localNonce = log.state.localNonce ∨
          log.state.role = .initiator ∧ log.state.state = .waitPairingRandom) := by
    intro s' hview
    refine ⟨?_, .inl (congrArg Prod.fst hview)⟩
    rw [randomsIn_append, randomsIn_append]
    exact congrArg (randomsIn log.sent ++ ·) (congrArg Prod.snd hview)
  subst hlog'
  cases event with
  | call input =>
    right
    refine ⟨(fun pdu hpdu => by cases hpdu), ?_⟩
    cases input with
    | start => exact hcall start_view
    | markEncrypted => exact hcall markEncrypted_view
    | setLocalKeyMaterial keys => exact hcall (setLocalKeyMaterial_view keys)
  | poll =>
    right
    refine ⟨(fun pdu hpdu => by cases hpdu), ?_⟩
    cases hqueue : log.state.outbound with
    | nil =>
      rw [Party.logged_poll_none _ (pollOutbound_nil hqueue), hqueue]
      exact ⟨rfl, .inl rfl⟩
    | cons pdu outbound =>
      rw [Party.logged_poll_some _ (pollOutbound_cons hqueue)]
      refine ⟨?_, .inl rfl⟩
      simp only [List.append_assoc, List.cons_append, List.nil_append]
  | receive pdu =>
    rcases process_nonce hdrained pdu with ⟨hreveals, hrandoms⟩ | ⟨hreveals, hrandoms, hnonce⟩
    · left
      refine ⟨pdu, rfl, hreveals, ?_⟩
      rw [randomsIn_append, randomsIn_append, List.append_assoc]
      exact congrArg (randomsIn log.sent ++ ·) hrandoms
    · right
      refine ⟨?_, ?_, hnonce⟩
      · intro other hother
        cases hother
        exact hreveals
      · rw [randomsIn_append, randomsIn_append]
        exact congrArg (randomsIn log.sent ++ ·) hrandoms

/-- Some PDU of a run made the session reveal its nonce. -/
def Revealed (prim : Primitives κ) (s0 : ScPairingSession κ)
    (events : List (Event ScInput SmpPdu)) : Prop :=
  ∃ before pdu after, events = before ++ .receive pdu :: after ∧
    Reveals prim ((scParty prim).run s0 before) pdu

theorem Revealed.concat {events : List (Event ScInput SmpPdu)} (hrevealed : Revealed prim s0 events)
    (event : Event ScInput SmpPdu) : Revealed prim s0 (events ++ [event]) := by
  obtain ⟨before, pdu, after, rfl, hreveals⟩ := hrevealed
  exact ⟨before, pdu, after ++ [event], by simp, hreveals⟩

theorem revealed_concat {events : List (Event ScInput SmpPdu)} {event : Event ScInput SmpPdu}
    (hrevealed : Revealed prim s0 (events ++ [event])) :
    Revealed prim s0 events ∨
      ∃ pdu, event = .receive pdu ∧ Reveals prim ((scParty prim).run s0 events) pdu := by
  obtain ⟨before, pdu, after, hsplit, hreveals⟩ := hrevealed
  rcases List.eq_nil_or_concat after with rfl | ⟨after, last, rfl⟩
  · obtain ⟨rfl, hlast⟩ := List.append_inj' hsplit rfl
    cases hlast
    exact .inr ⟨pdu, rfl, hreveals⟩
  · left
    refine ⟨before, pdu, after, ?_, hreveals⟩
    have hsplit' : events ++ [event] = (before ++ .receive pdu :: after) ++ [last] := by
      rw [hsplit]
      simp
    exact (List.append_inj' hsplit' rfl).1

/-- **A whole run** of a session whose first nonce is `r`: either no PDU has made it
    reveal its nonce, and nothing is revealed, or `r` is, before any other value. -/
theorem run_nonce (hfresh : Fresh s0) (events : List (Event ScInput SmpPdu))
    {log : Log (ScPairingSession κ) SmpPdu}
    (hlog : log = (scParty prim).logged.run (.start SmpPdu s0) events) :
    ¬ Revealed prim s0 events ∧ randomsIn (log.sent ++ log.state.outbound) = [] ∧
        log.state.localNonce = s0.localNonce ∨
      Revealed prim s0 events ∧
        ∃ rest, randomsIn (log.sent ++ log.state.outbound) = s0.localNonce :: rest := by
  subst hlog
  induction events using List.reverseRecOn with
  | nil =>
    left
    refine ⟨?_, ?_, rfl⟩
    · rintro ⟨before, pdu, after, hsplit, -⟩
      simp at hsplit
    · simp only [Party.run, List.foldl_nil, Log.start, hfresh.outbound, List.append_nil]
      rfl
  | append_singleton events event ih =>
    have hdrained : Drained ((scParty prim).logged.run (.start SmpPdu s0) events).state := by
      have hkeeps : ∀ log event, Drained (Log.state log) →
          Drained ((scParty prim).logged.apply log event).state :=
        fun log event hdrained => drained_apply hdrained event
      refine (scParty prim).logged.run_keeps hkeeps ?_ events
      intro distribution hdistribution
      exact absurd (hfresh.distribution.symm.trans hdistribution) (by simp)
    have htracked := tracked_run prim hfresh events
    have hstate := (scParty prim).logged_run_state (.start SmpPdu s0) events
    rw [Party.run_concat]
    revert ih hdrained htracked hstate
    generalize (scParty prim).logged.run (.start SmpPdu s0) events = log
    intro ih hdrained htracked hstate
    have hstate : log.state = (scParty prim).run s0 events := hstate
    rcases event_nonce hdrained event rfl with ⟨pdu, rfl, hreveals, hrandoms⟩ |
      ⟨hquiet, hrandoms, hnonce⟩
    · right
      rw [hrandoms]
      rcases ih with ⟨-, hempty, hlocal⟩ | ⟨hrevealed, rest, hrest⟩
      · refine ⟨⟨events, pdu, [], rfl, ?_⟩, [], ?_⟩
        · rw [← hstate]
          exact hreveals
        · rw [hempty, hlocal, List.nil_append]
      · exact ⟨hrevealed.concat _, rest ++ [log.state.localNonce], by rw [hrest, List.cons_append]⟩
    · rw [hrandoms]
      rcases ih with ⟨hnone, hempty, hlocal⟩ | ⟨hrevealed, hfirst⟩
      · left
        refine ⟨?_, hempty, ?_⟩
        · intro hrevealed
          rcases revealed_concat hrevealed with hrevealed | ⟨pdu, hpdu, hreveals⟩
          · exact hnone hrevealed
          · rw [← hstate] at hreveals
            exact hquiet pdu hpdu hreveals
        · rcases hnonce with hsame | ⟨hrole, hwaits⟩
          · exact hsame.trans hlocal
          · exact absurd hempty (htracked.revealed hfresh hrole hwaits)
      · right
        exact ⟨hrevealed.concat _, hfirst⟩

/-- **The out-of-band value stays secret** exactly in the runs in which no PDU makes
    the session answer with its nonce. -/
theorem oob_random_secret_iff {role : PairingRole} {config : PairingConfig κ}
    {delegate : PairingDelegate} {initiatorAddress responderAddress : Address} {eccKey : κ}
    {localNonce : Octets 16} {random128 : Nat → Octets 16} {context : OobContext κ}
    (hnew : new role config delegate initiatorAddress responderAddress eccKey localNonce random128 =
      .ok s0) (hcontext : s0.config.ourContext = some context)
    (events : List (Event ScInput SmpPdu)) {log : Log (ScPairingSession κ) SmpPdu}
    (hlog : log = (scParty prim).logged.run (.start SmpPdu s0) events) :
    (∀ pdu ∈ log.sent ++ log.state.outbound, pdu ≠ .pairingRandom context.r) ↔
      ∀ before pdu after, events = before ++ .receive pdu :: after →
        ¬ Reveals prim ((scParty prim).run s0 before) pdu := by
  have hfresh := new_fresh hnew
  have hnonce : s0.localNonce = context.r := (hfresh.context context hcontext).2
  rcases run_nonce hfresh events hlog with ⟨hnone, hempty, -⟩ | ⟨hrevealed, rest, hfirst⟩
  · constructor
    · intro _ before pdu after hsplit hreveals
      exact hnone ⟨before, pdu, after, hsplit, hreveals⟩
    · rintro - pdu hpdu rfl
      rw [← mem_randomsIn, hempty] at hpdu
      cases hpdu
  · constructor
    · intro hsecret
      have hmem : s0.localNonce ∈ randomsIn (log.sent ++ log.state.outbound) := by
        rw [hfirst]
        exact List.mem_cons_self
      rw [hnonce, mem_randomsIn] at hmem
      exact absurd rfl (hsecret _ hmem)
    · intro hquiet
      obtain ⟨before, pdu, after, hsplit, hreveals⟩ := hrevealed
      exact absurd hreveals (hquiet before pdu after hsplit)

end Runs

/-! ### The sessions of the tests -/

/-- The request of an initiator that has out-of-band data, its public key and its
    random value. -/
def requestHeard : SmpPdu := .pairingRequest ⟨0x03, 0x01, 0x0D, 16, 0x0F, 0x03⟩

def keyHeard : SmpPdu := .pairingPublicKey TestKey.a.publicX.reverse TestKey.a.publicY.reverse

def oobResponder : Except Error (ScPairingSession TestKey) :=
  new .responder (testConfig true (some (testOob testResponderContext none))) testDelegate
    testInitiatorAddress testResponderAddress .b testResponderNonce testRandom128

/-- Up to the public keys the value is secret. -/
theorem oob_random_secret_up_to_keys :
    ∃ s0 log, oobResponder = .ok s0 ∧
      log = (scParty testPrimitives).logged.run (.start SmpPdu s0)
        [.receive requestHeard, .receive keyHeard] ∧
      ∀ pdu ∈ log.sent ++ log.state.outbound, pdu ≠ .pairingRandom testResponderContext.r := by
  have hnew : oobResponder = .ok _ := rfl
  refine ⟨_, _, hnew, rfl, (oob_random_secret_iff hnew rfl _ rfl).mpr ?_⟩
  intro before pdu after hsplit
  have hmem : Event.receive pdu ∈
      ([.receive requestHeard, .receive keyHeard] : List (Event ScInput SmpPdu)) := by
    rw [hsplit]
    simp
  have hpdu : pdu = requestHeard ∨ pdu = keyHeard := by simpa using hmem
  rcases hpdu with rfl | rfl
  · exact fun hreveals => hreveals
  · exact fun hreveals => hreveals

/-- The random value of the peer is answered with that of the context. -/
theorem oob_random_revealed :
    ∃ s0 log, oobResponder = .ok s0 ∧
      log = (scParty testPrimitives).logged.run (.start SmpPdu s0)
        [.receive requestHeard, .receive keyHeard, .receive (.pairingRandom testInitiatorNonce)] ∧
      .pairingRandom testResponderContext.r ∈ log.sent ++ log.state.outbound :=
  ⟨_, _, rfl, rfl, by decide +kernel⟩

end Bumble.Smp.ScPairingSession
