import Bumble.PartyLog
import Bumble.ScRounds
import Bumble.SmpTestSetup

/-!
# What a session has verified when it has an outcome

The session as a party of its own: an adversary chooses the PDUs it receives and
the order of all calls.  Before there is an outcome every run leads to one of the
stages of the transcript or to failure; an outcome appears only when the DHKey
check closes the last stage, and from then on what was verified stays on record.
-/

namespace Bumble.Smp.ScPairingSession

variable {κ : Type} {s s' s0 : ScPairingSession κ} (prim : Primitives κ) {ex : Exchange}

/-! ## 1. The session as a party -/

inductive ScInput where
  | start
  | markEncrypted
  | setLocalKeyMaterial (keys : LocalKeyMaterial)

def scParty : Party (ScPairingSession κ) ScInput SmpPdu where
  call s input :=
    match input with
    | .start => s.start.state
    | .markEncrypted => s.markEncrypted.state
    | .setLocalKeyMaterial keys => (s.setLocalKeyMaterial keys).state
  poll s := s.pollOutbound
  receive s pdu := (s.process prim pdu).state

theorem pollOutbound_nil (hqueue : s.outbound = []) : s.pollOutbound = none := by
  simp [pollOutbound, hqueue]

theorem pollOutbound_cons {pdu : SmpPdu} {outbound : List SmpPdu}
    (hqueue : s.outbound = pdu :: outbound) :
    s.pollOutbound = some (pdu, { s with outbound := outbound }) := by
  simp [pollOutbound, hqueue]

/-! ## 2. Before the outcome -/

theorem process_handle (hfailed : s.state ≠ .failed) (hkeys : s.state ≠ .keyDistribution)
    (pdu : SmpPdu) :
    ((s.process prim pdu).state.state = .failed ∧ Follows s (s.process prim pdu).state) ∨
      s.process prim pdu = s.handle prim pdu := by
  unfold process
  rw [if_neg hfailed]
  split
  · exact .inl ⟨rfl, .still rfl rfl rfl rfl rfl rfl rfl rfl rfl rfl rfl rfl⟩
  · rw [if_neg hkeys]
    split
    · exact .inl ⟨fail_state _, .fail _⟩
    · exact .inr rfl

theorem Stage.state_mem {received queued : List SmpPdu} (hfresh : Fresh s0)
    (hstage : Stage prim s0 s received queued) :
    s.state ≠ .failed ∧ s.state ≠ .keyDistribution ∧ s.outcome = none ∧ s.distribution = none := by
  cases hstage with
  | idle hs =>
    rw [hs]
    simp [hfresh.state, hfresh.outcome, hfresh.distribution]
  | requested hrole hs =>
    rw [hs]
    simp [hfresh.outcome, hfresh.distribution]
  | negotiated ex hstate hholds hrounds hstep =>
    simp [hstate, hholds.outcome, hholds.distribution]
  | confirming ex hstate hround hchecks =>
    simp [hstate, hround.holds.outcome, hround.holds.distribution]
  | committed ex confirm hstate hround hconfirm =>
    simp [hstate, hround.holds.outcome, hround.holds.distribution]
  | derived ex last hstate hholds haccepted hchecked hcount hlast hkeys hconsented =>
    simp [hstate, hholds.outcome, hholds.distribution]

/-- Everything that must have passed before a session has its outcome. -/
structure Verified (s0 : ScPairingSession κ) (ex : Exchange) (last : Round)
    (calls : List DelegateCall) (received queued : List SmpPdu) : Prop where
  settled : ex.Settled s0 calls
  accepted : ex.KeyAccepted prim s0
  checked : ex.RoundsChecked prim s0
  count : ex.rounds.length = roundCount ex.method
  closes : ex.rounds.getLast? = some last
  consented : ex.Consented calls (ex.keys prim s0 last.ownNonce last.peerNonce).numericCheck
  received : ex.received s0.role ++ [.pairingDhKeyCheck
    (expectedCheck s0.role (ex.keys prim s0 last.ownNonce last.peerNonce))] <+: received
  queued : ex.sent prim s0 ++ [.pairingDhKeyCheck
    (ownCheck s0.role (ex.keys prim s0 last.ownNonce last.peerNonce))] <+: queued

theorem Exchange.Consented.mono {calls calls' : List DelegateCall} {number : UInt32}
    (hconsented : ex.Consented calls number) (hcalls : calls <+: calls') :
    ex.Consented calls' number := by
  unfold Exchange.Consented at hconsented ⊢
  split
  · next hmethod => rw [hmethod] at hconsented; exact hcalls.subset hconsented
  · next hmethod => rw [hmethod] at hconsented; exact hcalls.subset hconsented
  · trivial

theorem Exchange.Settled.mono {calls calls' : List DelegateCall} (hsettled : ex.Settled s0 calls)
    (hcalls : calls <+: calls') : ex.Settled s0 calls' := by
  obtain ⟨initiator, responder, asked, hrequest, hresponse, hchoose, hasked⟩ := hsettled.chosen
  exact ⟨hsettled.own, hsettled.acceptable, initiator, responder, asked, hrequest, hresponse,
    hchoose, hasked.trans hcalls⟩

variable {prim} in
theorem Verified.mono {last : Round} {calls calls' : List DelegateCall}
    {received received' queued queued' : List SmpPdu}
    (hverified : Verified prim s0 ex last calls received queued) (hcalls : calls <+: calls')
    (hreceived : received <+: received') (hqueued : queued <+: queued') :
    Verified prim s0 ex last calls' received' queued' :=
  ⟨hverified.settled.mono hcalls, hverified.accepted, hverified.checked, hverified.count,
    hverified.closes, hverified.consented.mono hcalls, hverified.received.trans hreceived,
    hverified.queued.trans hqueued⟩

/-- What a received PDU does to a session at a stage. -/
inductive Reacts (s0 s : ScPairingSession κ) (received queued : List SmpPdu) (pdu : SmpPdu)
    (s' : ScPairingSession κ) : Prop where
  | advances (hadvances : Advances prim s0 s received queued pdu s')
  | fails (hfailed : s'.state = .failed) (hfollows : Follows s s')
  | concludes (ex : Exchange) (last : Round) (pdus : List SmpPdu)
      (hqueue : s'.outbound = s.outbound ++ pdus) (hstate : s'.state = .waitEncryption)
      (hdistribution : s'.distribution = none)
      (houtcome : s'.outcome =
        some (ex.outcome s0 (ex.keys prim s0 last.ownNonce last.peerNonce)))
      (hverified : Verified prim s0 ex last s'.calls (received ++ [pdu]) (queued ++ pdus))

theorem fail_reacts {received queued : List SmpPdu} (pdu : SmpPdu) (reason : PairingFailureReason) :
    Reacts prim s0 s received queued pdu (s.fail reason) :=
  .fails (fail_state _) (.fail _)

/-- **One PDU.**  A session at a stage goes to the next one, fails, or has verified
    everything and keeps its outcome. -/
theorem handle_reacts (hfresh : Fresh s0) {received queued : List SmpPdu}
    (hstage : Stage prim s0 s received queued) (pdu : SmpPdu) :
    Reacts prim s0 s received queued pdu (s.handle prim pdu).state := by
  unfold handle
  cases hstage with
  | idle hs =>
    have hstate : s.state = .idle := by rw [hs]; exact hfresh.state
    have hrole : s.role = s0.role := by rw [hs]
    rw [hstate, hrole]
    cases hside : s0.role with
    | initiator => cases pdu <;> exact fail_reacts prim _ _
    | responder =>
      cases pdu with
      | pairingRequest features =>
        rcases onPairingRequest_cases prim hfresh hside hs features with hadvances | hfailed
        · exact .advances hadvances
        · exact .fails hfailed (onPairingRequest_follows features)
      | _ => exact fail_reacts prim _ _
  | requested hside hs =>
    have hstate : s.state = .waitPairingResponse := by rw [hs]
    have hrole : s.role = .initiator := by rw [hs]; exact hside
    rw [hstate, hrole]
    cases pdu with
    | pairingResponse features =>
      rcases onPairingResponse_cases prim hfresh hside hs features with hadvances | hfailed
      · exact .advances hadvances
      · exact .fails hfailed (onPairingResponse_follows prim features)
    | _ => exact fail_reacts prim _ _
  | negotiated ex hstate hholds hrounds hstep =>
    rw [hstate]
    cases pdu with
    | pairingPublicKey x y =>
      have hreacts : Reacts prim s0 s [ex.peerFeaturesPdu s0.role]
          ([ex.ownFeaturesPdu s0.role] ++
            if s0.role = .initiator then [s0.publicKeyPdu prim] else [])
          (.pairingPublicKey x y) (s.onPublicKey prim x y).state := by
        rcases onPublicKey_cases prim hholds hrounds hstep x y with hadvances | hfailed
        · exact .advances hadvances
        · exact .fails hfailed (onPublicKey_follows prim x y)
      cases s.role <;> exact hreacts
    | _ => cases s.role <;> exact fail_reacts prim _ _
  | confirming ex hstate hround hchecks =>
    rw [hstate]
    cases pdu with
    | pairingConfirm confirm =>
      have hadvances := onPairingConfirm_accepts prim hround hchecks confirm
      cases s.role <;> exact .advances hadvances
    | _ => cases s.role <;> exact fail_reacts prim _ _
  | committed ex confirm hstate hround hconfirm =>
    rw [hstate]
    cases pdu with
    | pairingRandom randomValue =>
      have hreacts := onPairingRandom_cases prim hround hconfirm randomValue
      have hfollows := onPairingRandom_follows (s := s) prim randomValue
      rcases hreacts with hadvances | hfailed
      · cases s.role <;> exact .advances hadvances
      · cases s.role <;> exact .fails hfailed hfollows
    | _ => cases s.role <;> exact fail_reacts prim _ _
  | derived ex last hstate hholds haccepted hchecked hcount hlast hkeys hconsented =>
    rw [hstate]
    cases pdu with
    | pairingDhKeyCheck check =>
      have hreacts : Reacts prim s0 s (ex.received s0.role)
          (ex.sent prim s0 ++
            if s0.role = .initiator then
              [.pairingDhKeyCheck (ex.keys prim s0 last.ownNonce last.peerNonce).ea] else [])
          (.pairingDhKeyCheck check) (s.onDhkeyCheck check).state := by
        by_cases hcheck : check =
            expectedCheck s0.role (ex.keys prim s0 last.ownNonce last.peerNonce)
        · subst hcheck
          rw [onDhkeyCheck_accepts hholds hkeys]
          refine .concludes ex last _ rfl rfl hholds.distribution rfl
            ⟨hholds.settled, haccepted, hchecked, hcount, hlast, hconsented, List.prefix_rfl, ?_⟩
          cases s0.role <;> simp [ownCheck]
        · rw [onDhkeyCheck_rejects hholds hkeys hcheck]
          exact fail_reacts prim _ _
      cases s.role <;> exact hreacts
    | _ => cases s.role <;> exact fail_reacts prim _ _

theorem Stage.setOutbound {received queued : List SmpPdu} (hstage : Stage prim s0 s received queued)
    (outbound : List SmpPdu) : Stage prim s0 { s with outbound := outbound } received queued := by
  have hholds : ∀ ex, Holds s0 s ex → Holds s0 { s with outbound := outbound } ex := by
    intro ex h
    exact ⟨⟨h.keeps.role, h.keeps.config, h.keeps.delegate, h.keeps.initiatorAddress,
      h.keeps.responderAddress, h.keeps.eccKey, h.keeps.random128⟩, h.settled, h.outcome,
      h.distribution, h.preq, h.pres, h.method, h.passkey,
      ⟨h.terms.size, h.terms.bonding, h.terms.ct2, h.terms.initiatorKeys, h.terms.responderKeys⟩⟩
  have hround : ∀ ex, InRound prim s0 s ex →
      InRound prim s0 { s with outbound := outbound } ex := by
    intro ex h
    exact ⟨hholds ex h.holds, h.accepted, h.checked, h.peerPublicX, h.dhKey, h.step, h.more⟩
  cases hstage with
  | idle hs =>
    refine .idle ?_
    rw [hs]
  | requested hrole hs =>
    refine .requested hrole ?_
    rw [hs]
  | negotiated ex hstate h hrounds hstep => exact .negotiated ex hstate (hholds ex h) hrounds hstep
  | confirming ex hstate h hchecks => exact .confirming ex hstate (hround ex h) hchecks
  | committed ex confirm hstate h hconfirm =>
    exact .committed ex confirm hstate (hround ex h) hconfirm
  | derived ex last hstate h haccepted hchecked hcount hlast hkeys hconsented =>
    exact .derived ex last hstate (hholds ex h) haccepted hchecked hcount hlast hkeys hconsented

/-! ## 3. After the outcome -/

/-- The states a session can be in once it has an outcome. -/
def Concluded : ScPairingState → Prop
  | .waitEncryption => True
  | .keyDistribution => True
  | .complete => True
  | .failed => True
  | _ => False

/-- A step that changes nothing of what was verified. -/
structure Retains (s s' : ScPairingSession κ) : Prop where
  outcome : s'.outcome = s.outcome
  calls : s'.calls = s.calls
  concluded : Concluded s'.state
  outbound : s.outbound <+: s'.outbound

theorem fail_retains (reason : PairingFailureReason) : Retains s (s.fail reason) := by
  obtain ⟨pdus, hpdus, -⟩ := (Follows.fail (s := s) reason).outbound
  refine ⟨(Follows.fail reason).outcome, ?_, ?_, ?_⟩
  · unfold fail
    split <;> rfl
  · rw [fail_state]
    trivial
  · rw [hpdus]
    exact List.prefix_append _ _

theorem syncDistribution_retains (distribution : KeyDistributionSession) :
    Retains s (s.syncDistribution distribution) := by
  unfold syncDistribution
  cases distribution.state <;>
    exact ⟨rfl, rfl, trivial, List.prefix_append _ _⟩

theorem handle_of_concluded (hconcluded : Concluded s.state) (pdu : SmpPdu) :
    s.handle prim pdu = .ok (s.fail .invalidParameters) () := by
  unfold handle
  cases hstate : s.state <;> rw [hstate] at hconcluded <;>
    first
    | exact hconcluded.elim
    | (cases s.role <;> rfl)

theorem process_retains (hconcluded : Concluded s.state) (pdu : SmpPdu) :
    Retains s (s.process prim pdu).state := by
  have hself : Retains s s := ⟨rfl, rfl, hconcluded, List.prefix_rfl⟩
  unfold process
  split
  · exact hself
  · next hfailed =>
    split
    · exact ⟨rfl, rfl, trivial, List.prefix_rfl⟩
    · split
      · split
        · exact hself
        · exact syncDistribution_retains _
      · next hkeys =>
        split
        · exact fail_retains _
        · rw [handle_of_concluded prim hconcluded]
          exact fail_retains _

theorem markEncrypted_retains (hconcluded : Concluded s.state) :
    Retains s s.markEncrypted.state := by
  have hself : Retains s s := ⟨rfl, rfl, hconcluded, List.prefix_rfl⟩
  unfold markEncrypted
  split
  · exact hself
  · split
    · exact hself
    · exact syncDistribution_retains _

/-! ## 4. Whole runs -/

/-- A session, what it has received and what it has queued so far, polled or not. -/
def Tracked (s0 : ScPairingSession κ) (log : Log (ScPairingSession κ) SmpPdu) : Prop :=
  (log.state.outcome = none ∧ (log.state.state = .failed ∨
    Stage prim s0 log.state log.received (log.sent ++ log.state.outbound))) ∨
  ∃ ex last, log.state.outcome =
      some (ex.outcome s0 (ex.keys prim s0 last.ownNonce last.peerNonce)) ∧
    Concluded log.state.state ∧
    Verified prim s0 ex last log.state.calls log.received (log.sent ++ log.state.outbound)

theorem start_of_not_idle (hidle : s.state ≠ .idle) : s.start.state = s := by
  unfold start
  rw [if_pos (.inr hidle)]
  rfl

theorem start_of_responder (hrole : s.role ≠ .initiator) : s.start.state = s := by
  unfold start
  rw [if_pos (.inl hrole)]
  rfl

theorem setLocalKeyMaterial_of_not_idle (hidle : s.state ≠ .idle) (keys : LocalKeyMaterial) :
    (s.setLocalKeyMaterial keys).state = s := by
  unfold setLocalKeyMaterial
  rw [if_pos hidle]
  rfl

theorem markEncrypted_of_none (houtcome : s.outcome = none) : s.markEncrypted.state = s := by
  unfold markEncrypted
  rw [houtcome]
  rfl

theorem Concluded.not_idle (hconcluded : Concluded s.state) : s.state ≠ .idle := by
  intro hidle
  rw [hidle] at hconcluded
  exact hconcluded

theorem Stage.idle_cases {received queued : List SmpPdu} (hstage : Stage prim s0 s received queued)
    (hidle : s.state = .idle) :
    s = { s0 with localKeys := s.localKeys, outbound := s.outbound } ∧ received = [] ∧
      queued = [] := by
  cases hstage with
  | idle hs => exact ⟨hs, rfl, rfl⟩
  | requested hside hs => rw [hs] at hidle; cases hidle
  | negotiated ex hstate _ _ _ => rw [hstate] at hidle; cases hidle
  | confirming ex hstate _ _ => rw [hstate] at hidle; cases hidle
  | committed ex confirm hstate _ _ => rw [hstate] at hidle; cases hidle
  | derived ex last hstate _ _ _ _ _ _ _ => rw [hstate] at hidle; cases hidle

section Events

variable {prim} {log : Log (ScPairingSession κ) SmpPdu}

theorem Tracked.call_start (hfresh : Fresh s0) (hlog : Tracked prim s0 log) :
    Tracked prim s0 { log with state := log.state.start.state } := by
  rcases hlog with ⟨houtcome, hfailed | hstage⟩ | ⟨ex, last, houtcome, hconcluded, hverified⟩
  · have hstart : log.state.start.state = log.state :=
      start_of_not_idle (by rw [hfailed]; simp)
    rw [hstart]
    exact .inl ⟨houtcome, .inl hfailed⟩
  · by_cases hidle : log.state.state = .idle
    · by_cases hrole : log.state.role = .initiator
      · obtain ⟨hs, hreceived, hqueued⟩ := hstage.idle_cases prim hidle
        have hside : s0.role = .initiator := by
          rw [hs] at hrole
          exact hrole
        obtain ⟨-, houtbound, hnext⟩ := start_advances prim hfresh hside hs
        refine .inl ⟨(hnext.state_mem prim hfresh).2.2.1, .inr ?_⟩
        refine hnext.cast hreceived.symm ?_
        change _ = log.sent ++ log.state.start.state.outbound
        rw [houtbound, ← List.append_assoc, hqueued]
        rfl
      · rw [start_of_responder hrole]
        exact .inl ⟨houtcome, .inr hstage⟩
    · rw [start_of_not_idle hidle]
      exact .inl ⟨houtcome, .inr hstage⟩
  · rw [start_of_not_idle hconcluded.not_idle]
    exact .inr ⟨ex, last, houtcome, hconcluded, hverified⟩

theorem Tracked.call_setLocalKeyMaterial (hlog : Tracked prim s0 log) (keys : LocalKeyMaterial) :
    Tracked prim s0 { log with state := (log.state.setLocalKeyMaterial keys).state } := by
  by_cases hidle : log.state.state = .idle
  · have hresult : (log.state.setLocalKeyMaterial keys).state =
        { log.state with localKeys := keys } := by
      unfold setLocalKeyMaterial
      rw [if_neg (not_not.mpr hidle)]
      rfl
    rw [hresult]
    rcases hlog with ⟨houtcome, hfailed | hstage⟩ | ⟨ex, last, houtcome, hconcluded, hverified⟩
    · rw [hidle] at hfailed
      cases hfailed
    · obtain ⟨hs, hreceived, hqueued⟩ := hstage.idle_cases prim hidle
      refine .inl ⟨houtcome, .inr ?_⟩
      refine (Stage.idle ?_).cast hreceived.symm hqueued.symm
      rw [hs]
    · exact (hconcluded.not_idle hidle).elim
  · rw [setLocalKeyMaterial_of_not_idle hidle]
    exact hlog

theorem Tracked.retains {received : List SmpPdu} {ex : Exchange} {last : Round}
    (houtcome : log.state.outcome =
      some (ex.outcome s0 (ex.keys prim s0 last.ownNonce last.peerNonce)))
    (hverified : Verified prim s0 ex last log.state.calls log.received
      (log.sent ++ log.state.outbound)) (hretains : Retains log.state s')
    (hreceived : log.received <+: received) :
    Tracked prim s0 { log with state := s', received := received } := by
  refine .inr ⟨ex, last, hretains.outcome.trans houtcome, hretains.concluded, ?_⟩
  refine hverified.mono ?_ hreceived ?_
  · rw [hretains.calls]
  · exact (List.prefix_append_right_inj _).mpr hretains.outbound

theorem Tracked.call_markEncrypted (hlog : Tracked prim s0 log) :
    Tracked prim s0 { log with state := log.state.markEncrypted.state } := by
  rcases hlog with hnone | ⟨ex, last, houtcome, hconcluded, hverified⟩
  · rw [markEncrypted_of_none hnone.1]
    exact .inl hnone
  · exact Tracked.retains houtcome hverified (markEncrypted_retains hconcluded) List.prefix_rfl

theorem Tracked.receive (hfresh : Fresh s0) (hlog : Tracked prim s0 log) (pdu : SmpPdu) :
    Tracked prim s0
      { log with
        state := (log.state.process prim pdu).state, received := log.received ++ [pdu] } := by
  rcases hlog with ⟨houtcome, hfailed | hstage⟩ | ⟨ex, last, houtcome, hconcluded, hverified⟩
  · have hprocess : (log.state.process prim pdu).state = log.state := by
      unfold process
      rw [if_pos hfailed]
      rfl
    rw [hprocess]
    exact .inl ⟨houtcome, .inl hfailed⟩
  · obtain ⟨hfailed, hkeys, -, -⟩ := hstage.state_mem prim hfresh
    have hreacts : Reacts prim s0 log.state log.received (log.sent ++ log.state.outbound) pdu
        (log.state.process prim pdu).state := by
      rcases process_handle prim hfailed hkeys pdu with ⟨hstate, hfollows⟩ | hhandle
      · exact .fails hstate hfollows
      · rw [hhandle]
        exact handle_reacts prim hfresh hstage pdu
    cases hreacts with
    | advances hadvances =>
      obtain ⟨pdus, hqueue, hnext⟩ := hadvances
      refine .inl ⟨(hnext.state_mem prim hfresh).2.2.1, .inr (hnext.cast rfl ?_)⟩
      dsimp only
      rw [hqueue, List.append_assoc]
    | fails hstate hfollows => exact .inl ⟨hfollows.outcome.trans houtcome, .inl hstate⟩
    | concludes ex last pdus hqueue hstate hdistribution hresult hverified =>
      refine .inr ⟨ex, last, hresult, ?_, ?_⟩
      · dsimp only
        rw [hstate]
        trivial
      · dsimp only
        rw [hqueue, ← List.append_assoc]
        exact hverified
  · exact Tracked.retains houtcome hverified (process_retains prim hconcluded pdu)
      (List.prefix_append _ _)

theorem Tracked.poll (hlog : Tracked prim s0 log) {pdu : SmpPdu} {outbound : List SmpPdu}
    (hqueue : log.state.outbound = pdu :: outbound) :
    Tracked prim s0
      { log with state := { log.state with outbound := outbound }, sent := log.sent ++ [pdu] } := by
  have hsame : log.sent ++ [pdu] ++ outbound = log.sent ++ log.state.outbound := by
    rw [hqueue, List.append_assoc]
    rfl
  rcases hlog with ⟨houtcome, hfailed | hstage⟩ | ⟨ex, last, houtcome, hconcluded, hverified⟩
  · exact .inl ⟨houtcome, .inl hfailed⟩
  · exact .inl ⟨houtcome, .inr ((hstage.setOutbound prim outbound).cast rfl hsame.symm)⟩
  · refine .inr ⟨ex, last, houtcome, hconcluded, ?_⟩
    dsimp only
    rw [hsame]
    exact hverified

/-- **Every event** keeps the session on the track of its transcript. -/
theorem tracked_apply (hfresh : Fresh s0) (hlog : Tracked prim s0 log)
    (event : Event ScInput SmpPdu) : Tracked prim s0 ((scParty prim).logged.apply log event) := by
  cases event with
  | call input =>
    cases input with
    | start => exact hlog.call_start hfresh
    | markEncrypted => exact hlog.call_markEncrypted
    | setLocalKeyMaterial keys => exact hlog.call_setLocalKeyMaterial keys
  | poll =>
    cases hqueue : log.state.outbound with
    | nil =>
      rw [Party.logged_poll_none _ (pollOutbound_nil hqueue)]
      exact hlog
    | cons pdu outbound =>
      rw [Party.logged_poll_some _ (pollOutbound_cons hqueue)]
      exact hlog.poll hqueue
  | receive pdu => exact hlog.receive hfresh pdu

end Events

theorem tracked_start (hfresh : Fresh s0) : Tracked prim s0 (.start SmpPdu s0) := by
  refine .inl ⟨hfresh.outcome, .inr ?_⟩
  refine (Stage.idle rfl).cast rfl ?_
  exact hfresh.outbound.symm

theorem tracked_run (hfresh : Fresh s0) (events : List (Event ScInput SmpPdu)) :
    Tracked prim s0 ((scParty prim).logged.run (.start SmpPdu s0) events) := by
  have hstep : ∀ log event, Tracked prim s0 log →
      Tracked prim s0 ((scParty prim).logged.apply log event) :=
    fun _ event hlog => tracked_apply hfresh hlog event
  exact Party.run_keeps _ hstep (tracked_start prim hfresh) events

/-! ## 5. Keys and encryption -/

/-- Nothing of what a session has queued carries a key, and it has no keys to send. -/
structure Unkeyed (log : Log (ScPairingSession κ) SmpPdu) : Prop where
  distribution : log.state.distribution = none
  queued : ∀ pdu ∈ log.sent ++ log.state.outbound, pdu.isKeyDistributionPdu = false

structure Silent (s s' : ScPairingSession κ) : Prop where
  distribution : s'.distribution = s.distribution
  outbound : ∃ pdus, s'.outbound = s.outbound ++ pdus ∧
    ∀ pdu ∈ pdus, pdu.isKeyDistributionPdu = false

theorem Follows.silent (hfollows : Follows s s') : Silent s s' :=
  ⟨hfollows.distribution, hfollows.outbound⟩

theorem finish_silent : Silent s s.finish.state := by
  unfold finish
  split <;> exact ⟨rfl, [], by simp, by simp⟩

theorem onDhkeyCheck_silent (received : Octets 16) : Silent s (s.onDhkeyCheck received).state := by
  unfold onDhkeyCheck
  split
  · exact (Follows.refl s).silent
  · next keys _ =>
    split
    · exact (Follows.fail _).silent
    · split
      · obtain ⟨hdistribution, pdus, hpdus, hkeys⟩ :=
          finish_silent (s := s.push (.pairingDhKeyCheck keys.eb))
        refine ⟨hdistribution, .pairingDhKeyCheck keys.eb :: pdus, ?_, ?_⟩
        · rw [hpdus]
          simp [push]
        · intro pdu hpdu
          rcases List.mem_cons.mp hpdu with rfl | hpdu
          · rfl
          · exact hkeys pdu hpdu
      · exact finish_silent

theorem handle_silent (pdu : SmpPdu) : Silent s (s.handle prim pdu).state := by
  unfold handle
  split
  · exact (onPairingRequest_follows _).silent
  · exact (onPairingResponse_follows prim _).silent
  · exact (onPublicKey_follows prim _ _).silent
  · exact (onPairingConfirm_follows prim _).silent
  · exact (onPairingRandom_follows prim _).silent
  · exact onDhkeyCheck_silent _
  · exact (Follows.fail _).silent

theorem process_silent (hdistribution : s.distribution = none) (pdu : SmpPdu) :
    Silent s (s.process prim pdu).state := by
  have hself : Silent s s := (Follows.refl s).silent
  unfold process
  split
  · exact hself
  · split
    · exact ⟨rfl, [], by simp, by simp⟩
    · split
      · rw [hdistribution]
        exact hself
      · split
        · exact (Follows.fail _).silent
        · exact handle_silent prim _

theorem start_silent : Silent s s.start.state := by
  unfold start
  split
  · exact (Follows.refl s).silent
  · exact ⟨rfl, _, rfl, by simp [SmpPdu.isKeyDistributionPdu]⟩

theorem setLocalKeyMaterial_silent (keys : LocalKeyMaterial) :
    Silent s (s.setLocalKeyMaterial keys).state := by
  unfold setLocalKeyMaterial
  split
  · exact (Follows.refl s).silent
  · exact ⟨rfl, [], by simp, by simp⟩

theorem markEncrypted_of_not_waiting (hstate : s.state ≠ .waitEncryption) :
    s.markEncrypted.state = s := by
  unfold markEncrypted
  split
  · rfl
  · rw [if_pos hstate]
    rfl

section Unkeyed

variable {log : Log (ScPairingSession κ) SmpPdu}

theorem Unkeyed.silent (hlog : Unkeyed log) (hsilent : Silent log.state s')
    (received : List SmpPdu) : Unkeyed { log with state := s', received := received } := by
  obtain ⟨hdistribution, pdus, hpdus, hkeys⟩ := hsilent
  refine ⟨hdistribution.trans hlog.distribution, ?_⟩
  intro pdu hpdu
  dsimp only at hpdu
  rw [hpdus, ← List.append_assoc] at hpdu
  rcases List.mem_append.mp hpdu with hpdu | hpdu
  · exact hlog.queued pdu hpdu
  · exact hkeys pdu hpdu

theorem unkeyed_apply (hlog : Unkeyed log) (event : Event ScInput SmpPdu) :
    Unkeyed ((scParty prim).logged.apply log event) ∨
      event = .call .markEncrypted ∧ log.state.state = .waitEncryption := by
  cases event with
  | call input =>
    cases input with
    | start => exact .inl (hlog.silent start_silent log.received)
    | setLocalKeyMaterial keys =>
      exact .inl (hlog.silent (setLocalKeyMaterial_silent keys) log.received)
    | markEncrypted =>
      by_cases hstate : log.state.state = .waitEncryption
      · exact .inr ⟨rfl, hstate⟩
      · left
        have hsame : log.state.markEncrypted.state = log.state :=
          markEncrypted_of_not_waiting hstate
        change Unkeyed { log with state := log.state.markEncrypted.state }
        rw [hsame]
        exact hlog
  | poll =>
    left
    cases hqueue : log.state.outbound with
    | nil =>
      rw [Party.logged_poll_none _ (pollOutbound_nil hqueue)]
      exact hlog
    | cons pdu outbound =>
      rw [Party.logged_poll_some _ (pollOutbound_cons hqueue)]
      refine ⟨hlog.distribution, ?_⟩
      have hqueued := hlog.queued
      rw [hqueue] at hqueued
      simpa using hqueued
  | receive pdu =>
    exact .inl (hlog.silent (process_silent prim hlog.distribution pdu) _)

/-- **Keys wait for encryption.**  A run in which `mark_encrypted` never met a
    session that waited for it has queued no key. -/
theorem unkeyed_run (hfresh : Fresh s0) (events : List (Event ScInput SmpPdu)) :
    Unkeyed ((scParty prim).logged.run (.start SmpPdu s0) events) ∨
      ∃ before after, events = before ++ .call .markEncrypted :: after ∧
        ((scParty prim).run s0 before).state = .waitEncryption := by
  induction events using List.reverseRecOn with
  | nil =>
    left
    refine ⟨hfresh.distribution, ?_⟩
    simp [Party.run, Log.start, hfresh.outbound]
  | append_singleton events event ih =>
    rcases ih with hlog | ⟨before, after, rfl, hstate⟩
    · rw [Party.run_concat]
      rcases unkeyed_apply prim hlog event with hnext | ⟨rfl, hstate⟩
      · exact .inl hnext
      · right
        refine ⟨events, [], rfl, ?_⟩
        rw [Party.logged_run_state] at hstate
        exact hstate
    · right
      exact ⟨before, after ++ [event], by simp, hstate⟩

end Unkeyed

/-! ## 6. Authentication -/

theorem Exchange.Settled.entered {calls : List DelegateCall} (hsettled : ex.Settled s0 calls)
    (hmethod : ex.method = .passkey) :
    ex.passkey < 1000000 ∧
      (DelegateCall.displayNumber ex.passkey 6 ∈ calls ∨
        DelegateCall.getNumber (some ex.passkey) ∈ calls) := by
  obtain ⟨initiator, responder, asked, -, -, hchoose, hcalls⟩ := hsettled.chosen
  have hasked : asked ⊆ calls := fun call hcall =>
    hcalls.subset (List.mem_append_right _ hcall)
  generalize s0.selection ex.request ex.response initiator responder = selection at hchoose
  unfold choose at hchoose
  split at hchoose
  · obtain ⟨passkey, hpasskey, hresult⟩ := Option.map_eq_some_iff.mp hchoose
    obtain ⟨hentered, hsmall⟩ := Option.filter_eq_some_iff.mp hpasskey
    simp only [Prod.mk.injEq] at hresult
    obtain ⟨-, hsame, rfl⟩ := hresult
    subst hsame
    refine ⟨by simpa using hsmall, ?_⟩
    unfold PairingDelegate.passkey at hentered hasked
    cases hdisplays : selection.displays s0.role with
    | true =>
      simp only [hdisplays, if_true, Option.some.injEq] at hentered hasked
      left
      apply hasked
      simp [hentered]
    | false =>
      simp only [hdisplays, Bool.false_eq_true, if_false] at hentered hasked
      right
      apply hasked
      simp [hentered]
  · split at hchoose
    · cases hchoose
    · simp [hmethod] at hchoose
  · simp [hmethod] at hchoose
  · simp [hmethod] at hchoose
  · cases hchoose

theorem Exchange.Settled.asked_first {calls : List DelegateCall} (hsettled : ex.Settled s0 calls)
    (hrole : s0.role = .responder) : DelegateCall.accept true ∈ calls := by
  obtain ⟨initiator, responder, asked, -, -, -, hcalls⟩ := hsettled.chosen
  apply hcalls.subset
  simp [hrole, firstCalls]

/-- What a session that has its outcome has been given and has checked: the
    exchange it took part in, with `last` the round that closed it. -/
structure Authenticated (s0 : ScPairingSession κ) (ex : Exchange) (last : Round)
    (calls : List DelegateCall) (received : List SmpPdu) : Prop where
  /-- The features, a public key, the rounds and the DHKey check arrived in this
      order, and the DHKey check is the value of this side's own keys. -/
  arrived : ex.received s0.role ++ [.pairingDhKeyCheck
    (expectedCheck s0.role (ex.keys prim s0 last.ownNonce last.peerNonce))] <+: received
  /-- The public key is valid. -/
  publicKey : ex.KeyAccepted prim s0
  /-- All rounds of the method took place. -/
  rounds : ex.rounds.length = roundCount ex.method
  closes : ex.rounds.getLast? = some last
  /-- Each commitment that arrived opens to the random value of its round. -/
  commitments : ∀ index round, ex.rounds[index]? = some round → checks s0.role ex.method = true →
    round.peerConfirm = ex.peerCommitment prim (s0.publicXLe prim) index round.peerNonce
  /-- The passkey is the session's own. -/
  passkey : ex.method = .passkey → ex.passkey < 1000000 ∧
    (DelegateCall.displayNumber ex.passkey 6 ∈ calls ∨
      DelegateCall.getNumber (some ex.passkey) ∈ calls)
  /-- The user accepted the request and the numbers, where there was something to accept. -/
  accepted : s0.role = .responder → DelegateCall.accept true ∈ calls
  consented : ex.Consented calls (ex.keys prim s0 last.ownNonce last.peerNonce).numericCheck

variable {prim} in
theorem Verified.authenticated {last : Round} {calls : List DelegateCall}
    {received queued : List SmpPdu}
    (hverified : Verified prim s0 ex last calls received queued) :
    Authenticated prim s0 ex last calls received where
  arrived := hverified.received
  publicKey := hverified.accepted
  rounds := hverified.count
  closes := hverified.closes
  commitments := by
    intro index round hround hchecks
    exact (hverified.checked index round hround).1 hchecks
  passkey := hverified.settled.entered
  accepted := hverified.settled.asked_first
  consented := hverified.consented

theorem Tracked.waiting {log : Log (ScPairingSession κ) SmpPdu} (hlog : Tracked prim s0 log)
    (hfresh : Fresh s0) (hstate : log.state.state = .waitEncryption) :
    log.state.outcome.isSome = true := by
  rcases hlog with ⟨-, hfailed | hstage⟩ | ⟨ex, last, houtcome, -, -⟩
  · rw [hstate] at hfailed
    cases hfailed
  · revert hstate hstage
    generalize log.received = received
    generalize log.sent ++ log.state.outbound = queued
    intro hstate hstage
    cases hstage with
    | idle hs => rw [hs, hfresh.state] at hstate; cases hstate
    | requested hside hs => rw [hs] at hstate; cases hstate
    | negotiated ex hs _ _ _ => rw [hs] at hstate; cases hstate
    | confirming ex hs _ _ => rw [hs] at hstate; cases hstate
    | committed ex confirm hs _ _ => rw [hs] at hstate; cases hstate
    | derived ex last hs _ _ _ _ _ _ _ => rw [hs] at hstate; cases hstate
  · rw [houtcome]
    rfl

/-- **Authentication.**  Whatever arrives and whatever is called, in either role: a
    session waits for encryption only with an outcome; an outcome is that of an
    exchange the session has authenticated in this run; and a key is queued only
    after `mark_encrypted` was called on the waiting session. -/
theorem outcome_authenticated {role : PairingRole} {config : PairingConfig κ}
    {delegate : PairingDelegate} {initiatorAddress responderAddress : Address} {eccKey : κ}
    {localNonce : Octets 16} {random128 : Nat → Octets 16} {s0 : ScPairingSession κ}
    (hnew : new role config delegate initiatorAddress responderAddress eccKey localNonce random128 =
      .ok s0) (events : List (Event ScInput SmpPdu)) {log : Log (ScPairingSession κ) SmpPdu}
    (hlog : log = (scParty prim).logged.run (.start SmpPdu s0) events) :
    (log.state.state = .waitEncryption → log.state.outcome.isSome = true) ∧
    (∀ outcome, log.state.outcome = some outcome → ∃ ex last,
      outcome = ex.outcome s0 (ex.keys prim s0 last.ownNonce last.peerNonce) ∧
      Authenticated prim s0 ex last log.state.calls log.received) ∧
    (∀ pdu ∈ log.sent ++ log.state.outbound, pdu.isKeyDistributionPdu = true →
      ∃ before after, events = before ++ .call .markEncrypted :: after ∧
        ((scParty prim).run s0 before).state = .waitEncryption) := by
  subst hlog
  have hfresh : Fresh s0 := new_fresh hnew
  have htracked := tracked_run prim hfresh events
  refine ⟨htracked.waiting prim hfresh, ?_, ?_⟩
  · intro outcome houtcome
    rcases htracked with ⟨hnone, -⟩ | ⟨ex, last, hsome, -, hverified⟩
    · rw [hnone] at houtcome
      cases houtcome
    · rw [hsome] at houtcome
      cases houtcome
      exact ⟨ex, last, rfl, hverified.authenticated⟩
  · intro pdu hpdu hkey
    rcases unkeyed_run prim hfresh events with hunkeyed | hwaited
    · rw [hunkeyed.queued pdu hpdu] at hkey
      cases hkey
    · exact hwaited

/-- What a responder hears from the initiator of the tests in a pairing without
    input and output. -/
def heardByResponder : List SmpPdu :=
  [.pairingRequest ⟨0x03, 0x00, 0x0D, 16, 0x0F, 0x03⟩,
    .pairingPublicKey TestKey.a.publicX.reverse TestKey.a.publicY.reverse,
    .pairingRandom testInitiatorNonce,
    .pairingDhKeyCheck #v[0xD5, 0xB4, 0xEF, 0x9D, 0x8B, 0x26, 0x00, 0xF2, 0xC2, 0x87, 0x3F, 0x6F,
      0xDC, 0xE5, 0xB2, 0x25]]

theorem outcome_authenticated_just_works :
    ∃ s0 log outcome ex last,
      new .responder (testConfig true none) testDelegate testInitiatorAddress testResponderAddress
        .b testResponderNonce testRandom128 = .ok s0 ∧
      log = (scParty testPrimitives).logged.run (.start SmpPdu s0)
        (heardByResponder.map Event.receive) ∧
      log.state.outcome = some outcome ∧
      outcome = ex.outcome s0 (ex.keys testPrimitives s0 last.ownNonce last.peerNonce) ∧
      Authenticated testPrimitives s0 ex last log.state.calls log.received := by
  have hends : ∃ s0, new .responder (testConfig true none) testDelegate testInitiatorAddress
      testResponderAddress .b testResponderNonce testRandom128 = .ok s0 ∧
      ((scParty testPrimitives).logged.run (.start SmpPdu s0)
        (heardByResponder.map Event.receive)).state.outcome.isSome = true :=
    ⟨_, rfl, by decide +kernel⟩
  obtain ⟨s0, hnew, hsome⟩ := hends
  obtain ⟨outcome, houtcome⟩ := Option.isSome_iff_exists.mp hsome
  obtain ⟨ex, last, hshape, hauthenticated⟩ :=
    (outcome_authenticated testPrimitives hnew _ rfl).2.1 outcome houtcome
  exact ⟨s0, _, outcome, ex, last, hnew, rfl, houtcome, hshape, hauthenticated⟩

end Bumble.Smp.ScPairingSession
