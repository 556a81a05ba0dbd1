import Bumble.LegacyRuns
import Bumble.ScHonestRun

/-!
# Agreement of two pairing sessions

Two sessions of opposite roles, joined by links that lose nothing, agree on every
field of their outcomes once both have one.  For Secure Connections that rests on
the key agreement being commutative.  For legacy pairing the short term key is
derived from the temporary keys, which each side has checked only through the
confirm values, so its agreement rests on the confirm function not confusing the
two temporary keys of the run.
-/

namespace Bumble.Smp

/-! ## 1. Legacy transcripts -/

namespace LegacyPairingSession

variable {κ : Type} {s0 t0 : LegacyPairingSession κ} {prim : Primitives κ} {ex ex' : Exchange}
  {random random' : Octets 16}

theorem agreedSize_answer :
    s0.agreedSize (t0.answer s0.localFeatures) = t0.agreedSize s0.localFeatures := by
  simp only [agreedSize, answer, localFeatures]
  apply UInt8.toNat_inj.mp
  rw [UInt8.toNat_min, UInt8.toNat_min]
  omega

theorem localFeatures_contains (s : LegacyPairingSession κ) :
    AuthReq.contains ⟨s.localFeatures.authReq⟩ .bonding = s.config.bonding ∧
      AuthReq.contains ⟨s.localFeatures.authReq⟩ .mitm = s.config.mitm ∧
      AuthReq.contains ⟨s.localFeatures.authReq⟩ .ct2 = s.config.ct2 := by
  obtain ⟨hbonding, -, hmitm, -, hct2⟩ := AuthReq.contains_fromBooleans s.config.bonding false
    s.config.mitm false s.config.ct2
  exact ⟨hbonding, hmitm, hct2⟩

theorem localFeatures_oob (s : LegacyPairingSession κ) :
    (s.localFeatures.oobDataFlag != 0) = s.localHasOob := by
  unfold localFeatures
  cases s.localHasOob <;> rfl

theorem selectsWith_answer (initiator responder : IoCapability) :
    s0.selectsWith (t0.answer s0.localFeatures) initiator responder =
      t0.selectsWith s0.localFeatures initiator responder := by
  have hflag : (t0.answer s0.localFeatures).oobDataFlag = t0.localFeatures.oobDataFlag := rfl
  have hauthReq : (t0.answer s0.localFeatures).authReq = t0.localFeatures.authReq := rfl
  simp only [selectsWith, selectPairingMethodWithOob, hflag, hauthReq, localFeatures_oob,
    Bool.false_and, Bool.or_false, Bool.and_comm t0.localHasOob]
  split
  · rfl
  · exact selectPairingMethod_mitm_comm (localFeatures_contains s0).2.1
      (localFeatures_contains t0).2.1 initiator responder

/-- The two sides of an exchange, and what connects them. -/
structure Joined (prim : Primitives κ) (s0 t0 : LegacyPairingSession κ) (ex ex' : Exchange)
    (random random' : Octets 16) : Prop where
  request : ex.request = s0.localFeatures
  response : ex.response = t0.answer s0.localFeatures
  request' : ex'.request = s0.localFeatures
  response' : ex'.response = t0.answer s0.localFeatures
  selection : ex.selection = ex'.selection
  random : random = t0.localRandom
  random' : random' = s0.localRandom
  confirm : ex.commitment prim s0 t0.localRandom = ex'.commitment prim t0 t0.localRandom
  confirm' : ex'.commitment prim t0 s0.localRandom = ex.commitment prim s0 s0.localRandom

theorem three_eq {a b c a' b' c' : SmpPdu} {whole : List SmpPdu} (hfirst : [a, b, c] <+: whole)
    (hsecond : [a', b', c'] <+: whole) : a = a' ∧ b = b' ∧ c = c' := by
  obtain ⟨tail, rfl⟩ := hfirst
  obtain ⟨tail', htail⟩ := hsecond
  simp only [List.cons_append, List.nil_append, List.cons.injEq] at htail
  exact ⟨htail.1.symm, htail.2.1.symm, htail.2.2.1.symm⟩

/-- **The exchanges join.**  Each side has received what the other has sent. -/
theorem Verified.join (hinitiator : s0.role = .initiator) (hresponder : t0.role = .responder)
    {received received' queued queued' : List SmpPdu}
    (hfirst : Verified prim s0 ex random received queued)
    (hsecond : Verified prim t0 ex' random' received' queued')
    (hto : received' <+: queued) (hfrom : received <+: queued') :
    Joined prim s0 t0 ex ex' random random' := by
  obtain ⟨hfeatures, hconfirm, hrandom⟩ :=
    three_eq (hfirst.received.trans hfrom) hsecond.queued
  obtain ⟨hfeatures', hconfirm', hrandom'⟩ :=
    three_eq (hsecond.received.trans hto) hfirst.queued
  have hown := hfirst.settled.own
  have hown' := hsecond.settled.own
  simp only [hinitiator, hresponder, Exchange.peerFeaturesPdu, Exchange.ownFeaturesPdu,
    SmpPdu.pairingResponse.injEq, SmpPdu.pairingRequest.injEq, SmpPdu.pairingConfirm.injEq,
    SmpPdu.pairingRandom.injEq]
    at hfeatures hfeatures' hown hown' hconfirm hconfirm' hrandom hrandom'
  have hrequest' : ex'.request = s0.localFeatures := hfeatures'.trans hown
  have hresponse' : ex'.response = t0.answer s0.localFeatures := by rw [hown', hrequest']
  have hresponse : ex.response = t0.answer s0.localFeatures := hfeatures.trans hresponse'
  have hselection : ex.selection = ex'.selection := by
    obtain ⟨initiator, responder, hio, hio', hchosen⟩ := hfirst.settled.chosen
    obtain ⟨initiator', responder', hio₂, hio₂', hchosen'⟩ := hsecond.settled.chosen
    rw [hown] at hio
    rw [hresponse] at hio'
    rw [hrequest'] at hio₂
    rw [hresponse'] at hio₂'
    cases hio.symm.trans hio₂
    cases hio'.symm.trans hio₂'
    have hpeer : ex.peer s0.role = t0.answer s0.localFeatures := by
      rw [hinitiator]; exact hresponse
    have hpeer' : ex'.peer t0.role = s0.localFeatures := by
      rw [hresponder]; exact hrequest'
    rw [hchosen, hchosen', hpeer, hpeer', selectsWith_answer]
  subst hrandom hrandom'
  exact ⟨hown, hresponse, hrequest', hresponse', hselection, rfl, rfl, hconfirm, hconfirm'⟩

theorem Joined.terms (hjoined : Joined prim s0 t0 ex ex' random random')
    (hinitiator : s0.role = .initiator) (hresponder : t0.role = .responder) :
    { ex.outcome prim s0 random with stk := (ex'.outcome prim t0 random').stk } =
      ex'.outcome prim t0 random' := by
  obtain ⟨hbonding, -, hct2⟩ := localFeatures_contains s0
  obtain ⟨hbonding', -, hct2'⟩ := localFeatures_contains t0
  have hpeer : ex.peer s0.role = t0.answer s0.localFeatures := by
    rw [hinitiator]; exact hjoined.response
  have hpeer' : ex'.peer t0.role = s0.localFeatures := by
    rw [hresponder]; exact hjoined.request'
  have hauthReq : (t0.answer s0.localFeatures).authReq = t0.localFeatures.authReq := rfl
  have hkeys : s0.agreedInitiatorKeys (t0.answer s0.localFeatures) =
      t0.agreedInitiatorKeys s0.localFeatures := KeyDistribution.intersection_echo _ _
  have hkeys' : s0.agreedResponderKeys (t0.answer s0.localFeatures) =
      t0.agreedResponderKeys s0.localFeatures := KeyDistribution.intersection_echo _ _
  simp only [Exchange.outcome, hpeer, hpeer', agreedSize_answer, hkeys, hkeys',
    hjoined.selection, hauthReq, hbonding, hbonding', hct2, hct2', Bool.and_comm]

theorem Joined.stk (hjoined : Joined prim s0 t0 ex ex' random random')
    (hinitiator : s0.role = .initiator) (hresponder : t0.role = .responder) (htk : ex.tk = ex'.tk) :
    (ex.outcome prim s0 random).stk = (ex'.outcome prim t0 random').stk := by
  have hpeer : ex.peer .initiator = t0.answer s0.localFeatures := hjoined.response
  have hpeer' : ex'.peer .responder = s0.localFeatures := hjoined.request'
  simp only [Exchange.outcome, hinitiator, hresponder, hpeer, hpeer', agreedSize_answer, randoms,
    hjoined.random, hjoined.random', htk]

/-- The confirm values of the two randoms tell the temporary keys of two sessions
    apart. -/
def ConfirmsBind (prim : Primitives κ) (mrand srand : Octets 16)
    (s t : LegacyPairingSession κ) : Prop :=
  s.confirmFor prim mrand = t.confirmFor prim mrand →
    s.confirmFor prim srand = t.confirmFor prim srand → s.tk = t.tk

end LegacyPairingSession

/-! ## 2. Agreement -/

section Agreement

variable {κ : Type} (prim : Primitives κ)

theorem ScPairingSession.tracked_sides {s0 t0 : ScPairingSession κ} (hfresh : s0.Fresh)
    (hfresh' : t0.Fresh) {net : Net (ScPairingSession κ) SmpPdu}
    (hreach : Net.Reachable (scParty prim) Net.Lossless ⟨s0, t0, [], [], 0⟩ net) :
    ∃ logs : Net (Log (ScPairingSession κ) SmpPdu) SmpPdu, logs.forget = net ∧
      Tracked prim s0 logs.left ∧ Tracked prim t0 logs.right ∧
      logs.right.received <+: logs.left.sent ++ logs.left.state.outbound ∧
      logs.left.received <+: logs.right.sent ++ logs.right.state.outbound := by
  have hforgotten : Net.Reachable (scParty prim) Net.Lossless
      (Net.forget ⟨.start SmpPdu s0, .start SmpPdu t0, [], [], 0⟩) net := hreach
  obtain ⟨logs, hlogs, hsame⟩ := Net.reachable_logged hforgotten
  have hstep : ∀ log event, Tracked prim s0 log →
      Tracked prim s0 ((scParty prim).logged.apply log event) :=
    fun _ event hlog => tracked_apply hfresh hlog event
  have hstep' : ∀ log event, Tracked prim t0 log →
      Tracked prim t0 ((scParty prim).logged.apply log event) :=
    fun _ event hlog => tracked_apply hfresh' hlog event
  obtain ⟨htracked, htracked'⟩ := Net.sides_keep hstep hstep' (tracked_start prim hfresh)
    (tracked_start prim hfresh') hlogs
  obtain ⟨hto, hfrom⟩ := Net.logs_cross hlogs logs.left.state.outbound logs.right.state.outbound
  exact ⟨logs, hsame, htracked, htracked', hto, hfrom⟩

theorem ScPairingSession.waiting_outcome {s0 t0 : ScPairingSession κ} (hfresh : s0.Fresh)
    (hfresh' : t0.Fresh) {net : Net (ScPairingSession κ) SmpPdu}
    (hreach : Net.Reachable (scParty prim) Net.Lossless ⟨s0, t0, [], [], 0⟩ net)
    (hleft : net.left.state = .waitEncryption) (hright : net.right.state = .waitEncryption) :
    (∃ outcome, net.left.outcome = some outcome) ∧
      ∃ outcome, net.right.outcome = some outcome := by
  obtain ⟨logs, rfl, htracked, htracked', -, -⟩ := tracked_sides prim hfresh hfresh' hreach
  exact ⟨Option.isSome_iff_exists.mp (htracked.waiting prim hfresh hleft),
    Option.isSome_iff_exists.mp (htracked'.waiting prim hfresh' hright)⟩

theorem ScPairingSession.outcome_eq (hcommutes : prim.Commutes)
    {s0 t0 : ScPairingSession κ} (hfresh : s0.Fresh) (hfresh' : t0.Fresh)
    (hinitiator : s0.role = .initiator) (hresponder : t0.role = .responder)
    (haddress : s0.initiatorAddress = t0.initiatorAddress)
    (haddress' : s0.responderAddress = t0.responderAddress)
    {net : Net (ScPairingSession κ) SmpPdu}
    (hreach : Net.Reachable (scParty prim) Net.Lossless ⟨s0, t0, [], [], 0⟩ net)
    {outcome outcome' : ScPairingOutcome} (hleft : net.left.outcome = some outcome)
    (hright : net.right.outcome = some outcome') : outcome = outcome' := by
  obtain ⟨logs, rfl, htracked, htracked', hto, hfrom⟩ :=
    tracked_sides prim hfresh hfresh' hreach
  rcases htracked with ⟨hnone, -⟩ | ⟨ex, last, hsome, -, hverified⟩
  · exact absurd (hnone.symm.trans hleft) (by simp)
  rcases htracked' with ⟨hnone, -⟩ | ⟨ex', last', hsome', -, hverified'⟩
  · exact absurd (hnone.symm.trans hright) (by simp)
  have hjoined := hverified.join hinitiator hresponder hverified' hto hfrom
  have hdhKey := hjoined.dhKey hcommutes hverified.accepted hverified'.accepted
  have hsame := hjoined.outcome hinitiator hresponder haddress haddress' hdhKey
  rw [Option.some.inj (hleft.symm.trans hsome), Option.some.inj (hright.symm.trans hsome')]
  exact hsame

/-- Legacy sessions on a lossless net agree, on the short term key as far as the
    confirm values bind the temporary keys. -/
theorem LegacyPairingSession.outcome_eq {s0 t0 : LegacyPairingSession κ} (hfresh : s0.Fresh)
    (hfresh' : t0.Fresh) (hinitiator : s0.role = .initiator) (hresponder : t0.role = .responder)
    {net : Net (LegacyPairingSession κ) SmpPdu}
    (hreach : Net.Reachable (legacyParty prim) Net.Lossless ⟨s0, t0, [], [], 0⟩ net)
    {outcome outcome' : LegacyPairingOutcome} (hleft : net.left.outcome = some outcome)
    (hright : net.right.outcome = some outcome') :
    { outcome with stk := outcome'.stk } = outcome' ∧
      (ConfirmsBind prim s0.localRandom t0.localRandom net.left net.right →
        outcome.stk = outcome'.stk) := by
  have hforgotten : Net.Reachable (legacyParty prim) Net.Lossless
      (Net.forget ⟨.start SmpPdu s0, .start SmpPdu t0, [], [], 0⟩) net := hreach
  obtain ⟨logs, hlogs, rfl⟩ := Net.reachable_logged hforgotten
  have hstep : ∀ log event, Tracked prim s0 log →
      Tracked prim s0 ((legacyParty prim).logged.apply log event) :=
    fun _ event hlog => tracked_apply hfresh hlog event
  have hstep' : ∀ log event, Tracked prim t0 log →
      Tracked prim t0 ((legacyParty prim).logged.apply log event) :=
    fun _ event hlog => tracked_apply hfresh' hlog event
  obtain ⟨htracked, htracked'⟩ := Net.sides_keep hstep hstep' (tracked_start prim hfresh)
    (tracked_start prim hfresh') hlogs
  obtain ⟨hto, hfrom⟩ := Net.logs_cross hlogs logs.left.state.outbound logs.right.state.outbound
  rcases htracked with ⟨hnone, -⟩ | ⟨ex, random, hsome, -, hconfirms, hverified⟩
  · exact absurd (hnone.symm.trans hleft) (by simp)
  rcases htracked' with ⟨hnone, -⟩ | ⟨ex', random', hsome', -, hconfirms', hverified'⟩
  · exact absurd (hnone.symm.trans hright) (by simp)
  have hjoined := hverified.join hinitiator hresponder hverified' hto hfrom
  rw [Option.some.inj (hleft.symm.trans hsome), Option.some.inj (hright.symm.trans hsome')]
  refine ⟨hjoined.terms hinitiator hresponder, fun hbinds => ?_⟩
  apply hjoined.stk hinitiator hresponder
  have htk : logs.left.state.tk = logs.right.state.tk := by
    apply hbinds
    · change logs.left.state.confirmFor prim _ = logs.right.state.confirmFor prim _
      rw [hconfirms.2, hconfirms'.2, hjoined.confirm']
    · change logs.left.state.confirmFor prim _ = logs.right.state.confirmFor prim _
      rw [hconfirms.2, hconfirms'.2, hjoined.confirm]
  exact hconfirms.1.symm.trans (htk.trans hconfirms'.1)

/-- **Both protocols agree.**  Whatever the configurations and the delegates, two
    Secure Connections sessions that both have an outcome have the same one.  Two
    legacy sessions have the same one too, the short term key as far as the confirm
    values of the run bind the temporary keys. -/
theorem pairing_outcomes_agree (hcommutes : prim.Commutes)
    (initiatorAddress responderAddress : Address) :
    (∀ (config config' : PairingConfig κ) (delegate delegate' : PairingDelegate)
      (eccKey eccKey' : κ) (localNonce localNonce' : Octets 16)
      (random128 random128' : Nat → Octets 16) (s0 t0 : ScPairingSession κ),
      ScPairingSession.new .initiator config delegate initiatorAddress responderAddress eccKey
        localNonce random128 = .ok s0 →
      ScPairingSession.new .responder config' delegate' initiatorAddress responderAddress eccKey'
        localNonce' random128' = .ok t0 →
      ∀ net, Net.Reachable (ScPairingSession.scParty prim) Net.Lossless ⟨s0, t0, [], [], 0⟩ net →
        ∀ outcome outcome', net.left.outcome = some outcome → net.right.outcome = some outcome' →
          outcome = outcome') ∧
    (∀ (config config' : PairingConfig κ) (delegate delegate' : PairingDelegate)
      (localRandom localRandom' : Octets 16) (random128 random128' : Nat → Octets 16)
      (s0 t0 : LegacyPairingSession κ),
      LegacyPairingSession.new .initiator config delegate initiatorAddress responderAddress
        localRandom random128 = .ok s0 →
      LegacyPairingSession.new .responder config' delegate' initiatorAddress responderAddress
        localRandom' random128' = .ok t0 →
      ∀ net, Net.Reachable (LegacyPairingSession.legacyParty prim) Net.Lossless
          ⟨s0, t0, [], [], 0⟩ net →
        ∀ outcome outcome', net.left.outcome = some outcome → net.right.outcome = some outcome' →
          { outcome with stk := outcome'.stk } = outcome' ∧
          (LegacyPairingSession.ConfirmsBind prim localRandom localRandom' net.left net.right →
            outcome = outcome')) := by
  constructor
  · intro config config' delegate delegate' eccKey eccKey' localNonce localNonce' random128
      random128' s0 t0 hnew hnew' net hreach outcome outcome' hleft hright
    have hfacing := ScPairingSession.new_facing hcommutes hnew hnew'
    exact ScPairingSession.outcome_eq prim hcommutes hfacing.fresh hfacing.fresh' hfacing.initiator
      hfacing.responder hfacing.address hfacing.address' hreach hleft hright
  · intro config config' delegate delegate' localRandom localRandom' random128 random128' s0 t0
      hnew hnew' net hreach outcome outcome' hleft hright
    obtain ⟨hrole, hrandom⟩ := LegacyPairingSession.new_setup hnew
    obtain ⟨hrole', hrandom'⟩ := LegacyPairingSession.new_setup hnew'
    obtain ⟨hterms, hstk⟩ := LegacyPairingSession.outcome_eq prim
      (LegacyPairingSession.new_fresh hnew) (LegacyPairingSession.new_fresh hnew') hrole hrole'
      hreach hleft hright
    refine ⟨hterms, fun hbinds => ?_⟩
    rw [hrandom, hrandom'] at hstk
    rw [← hterms, ← hstk hbinds]

end Agreement

/-! ### The sessions of the tests -/

/-- A legacy pairing, PDU by PDU. -/
def LegacyPairingSession.relayed : List (Side × Move LegacyInput) :=
  (.left, .call .start) ::
    [Side.left, .right, .left, .right, .left, .right].flatMap relay

/-- A device that can show a passkey and be told one. -/
def passkeyConfig : PairingConfig TestKey :=
  { testConfig false none with
    capabilities := { (testConfig false none).capabilities with ioCapability := .keyboardDisplay } }

def LegacyPairingSession.passkeySession (role : PairingRole) (localRandom : Octets 16) :
    Except Error (LegacyPairingSession TestKey) :=
  new role passkeyConfig testDelegate testInitiatorAddress testResponderAddress localRandom
    testRandom128

theorem LegacyPairingSession.test_outcomes :
    ∃ s0 t0 net outcome outcome', passkeySession .initiator testInitiatorNonce = .ok s0 ∧
      passkeySession .responder testResponderNonce = .ok t0 ∧
      Net.Reachable (legacyParty testPrimitives) Net.Lossless ⟨s0, t0, [], [], 0⟩ net ∧
      net.left.outcome = some outcome ∧ net.right.outcome = some outcome' ∧
      net.left.tk = net.right.tk ∧ outcome.method = .passkey := by
  have hends : ∃ s0 t0, passkeySession .initiator testInitiatorNonce = .ok s0 ∧
      passkeySession .responder testResponderNonce = .ok t0 ∧
      ((Net.run (legacyParty testPrimitives) ⟨s0, t0, [], [], 0⟩ relayed).left.outcome.map
        (·.method)) = some .passkey ∧
      (Net.run (legacyParty testPrimitives) ⟨s0, t0, [], [], 0⟩ relayed).right.outcome.isSome ∧
      (Net.run (legacyParty testPrimitives) ⟨s0, t0, [], [], 0⟩ relayed).left.tk =
        (Net.run (legacyParty testPrimitives) ⟨s0, t0, [], [], 0⟩ relayed).right.tk :=
    ⟨_, _, rfl, rfl, by decide +kernel⟩
  obtain ⟨s0, t0, hnew, hnew', hleft, hright, htk⟩ := hends
  obtain ⟨outcome, houtcome, hmethod⟩ := Option.map_eq_some_iff.mp hleft
  obtain ⟨outcome', houtcome'⟩ := Option.isSome_iff_exists.mp hright
  refine ⟨s0, t0, _, outcome, outcome', hnew, hnew', ⟨relayed, ?_, rfl⟩, houtcome, houtcome', htk,
    hmethod⟩
  simp [relayed, relay, Net.Admissible, Net.AllowedStep, Net.Lossless]

/-- Two Secure Connections sessions with out-of-band data of each other, and two legacy sessions
    with a passkey. -/
theorem pairing_outcomes_agree_test :
    (∃ s0 t0 net outcome outcome', ScPairingSession.testInitiator (testOob testInitiatorContext
        (some (testResponderContext.share testPrimitives))) = .ok s0 ∧
      ScPairingSession.testResponder (testOob testResponderContext
        (some (testInitiatorContext.share testPrimitives))) = .ok t0 ∧
      Net.Reachable (ScPairingSession.scParty testPrimitives) Net.Lossless
        ⟨s0, t0, [], [], 0⟩ net ∧
      net.left.outcome = some outcome ∧ net.right.outcome = some outcome' ∧ outcome = outcome') ∧
    (∃ s0 t0 net outcome outcome',
      LegacyPairingSession.passkeySession .initiator testInitiatorNonce = .ok s0 ∧
      LegacyPairingSession.passkeySession .responder testResponderNonce = .ok t0 ∧
      Net.Reachable (LegacyPairingSession.legacyParty testPrimitives) Net.Lossless
        ⟨s0, t0, [], [], 0⟩ net ∧
      net.left.outcome = some outcome ∧ net.right.outcome = some outcome' ∧
      outcome.method = .passkey ∧ outcome = outcome') := by
  obtain ⟨hsecure, hlegacy⟩ := pairing_outcomes_agree testPrimitives testPrimitives_commutes
    testInitiatorAddress testResponderAddress
  constructor
  · obtain ⟨s0, t0, hnew, hnew', hhonest, hfits⟩ := ScPairingSession.two_sided_fits
    have hfacing := ScPairingSession.new_facing testPrimitives_commutes hnew hnew'
    obtain ⟨net, hreach, hleft, hright⟩ := (hfacing.succeeds hhonest hfits).run
    have hlossless := hreach.mono
      (fun net _ henabled => ScPairingSession.enabled_lossless henabled net)
    obtain ⟨⟨outcome, houtcome⟩, outcome', houtcome'⟩ := ScPairingSession.waiting_outcome
      testPrimitives hfacing.fresh hfacing.fresh' hlossless hleft hright
    exact ⟨s0, t0, net, outcome, outcome', hnew, hnew', hlossless, houtcome, houtcome',
      hsecure _ _ _ _ _ _ _ _ _ _ s0 t0 hnew hnew' net hlossless outcome outcome' houtcome
        houtcome'⟩
  · obtain ⟨s0, t0, net, outcome, outcome', hnew, hnew', hreach, houtcome, houtcome', htk,
        hmethod⟩ := LegacyPairingSession.test_outcomes
    exact ⟨s0, t0, net, outcome, outcome', hnew, hnew', hreach, houtcome, houtcome', hmethod,
      (hlegacy _ _ _ _ _ _ _ _ s0 t0 hnew hnew' net hreach outcome outcome' houtcome houtcome').2
        fun _ _ => htk⟩

end Bumble.Smp
