import Bumble.ScAuthentication

/-!
# Two sessions of opposite roles agree

What one side of a lossless net has received is a prefix of what the other side
has sent.  Two sessions that both have an outcome have both verified an exchange,
so the two exchanges can be compared PDU by PDU: they have the same features, the
public keys crossed over, and the random values of the last round crossed over.
Everything in the outcomes follows from these.
-/

namespace Bumble.Smp.ScPairingSession

variable {κ : Type} {s0 t0 : ScPairingSession κ} {prim : Primitives κ} {ex ex' : Exchange}
  {last last' : Round}

/-! ## 1. The terms are symmetric -/

theorem agreedSize_answer :
    s0.agreedSize (t0.answer s0.localFeatures) = t0.agreedSize s0.localFeatures := by
  simp only [agreedSize, answer, localFeatures]
  apply UInt8.toNat_inj.mp
  rw [UInt8.toNat_min, UInt8.toNat_min]
  omega

theorem agreedInitiatorKeys_answer :
    s0.agreedInitiatorKeys (t0.answer s0.localFeatures) =
      t0.agreedInitiatorKeys s0.localFeatures :=
  KeyDistribution.intersection_echo _ _

theorem agreedResponderKeys_answer :
    s0.agreedResponderKeys (t0.answer s0.localFeatures) =
      t0.agreedResponderKeys s0.localFeatures :=
  KeyDistribution.intersection_echo _ _

theorem localFeatures_contains (s : ScPairingSession κ) :
    AuthReq.contains ⟨s.localFeatures.authReq⟩ .bonding = s.config.bonding ∧
      AuthReq.contains ⟨s.localFeatures.authReq⟩ .mitm = s.config.mitm ∧
      AuthReq.contains ⟨s.localFeatures.authReq⟩ .ct2 = s.config.ct2 := by
  obtain ⟨hbonding, -, hmitm, -, hct2⟩ := AuthReq.contains_fromBooleans s.config.bonding true
    s.config.mitm false s.config.ct2
  exact ⟨hbonding, hmitm, hct2⟩

theorem selection_answer (hinitiator : s0.role = .initiator) (hresponder : t0.role = .responder)
    (initiator responder : IoCapability) :
    s0.selection s0.localFeatures (t0.answer s0.localFeatures) initiator responder =
      t0.selection s0.localFeatures (t0.answer s0.localFeatures) initiator responder := by
  simp only [selection, hinitiator, hresponder, if_true, reduceCtorEq, if_false,
    selectPairingMethodWithOob]
  split
  · rfl
  · exact selectPairingMethod_mitm_comm (localFeatures_contains s0).2.1
      (localFeatures_contains t0).2.1 initiator responder

theorem choose_method {calls : List DelegateCall} {selection : PairingMethodSelection}
    {method : PairingMethod} {passkey : UInt32} {asked : List DelegateCall}
    (hchoose : s0.choose calls selection = some (method, passkey, asked)) :
    method = selection.method := by
  unfold choose at hchoose
  cases hmethod : selection.method with
  | passkey =>
    simp only [hmethod] at hchoose
    obtain ⟨passkey, -, hresult⟩ := Option.map_eq_some_iff.mp hchoose
    cases hresult
    rfl
  | oob =>
    simp only [hmethod] at hchoose
    split at hchoose
    · cases hchoose
    · cases hchoose; rfl
  | justWorks => simp only [hmethod] at hchoose; cases hchoose; rfl
  | numericComparison => simp only [hmethod] at hchoose; cases hchoose; rfl
  | ctkdOverClassic => simp only [hmethod] at hchoose; cases hchoose

/-! ## 2. Comparing transcripts -/

theorem received_closes (hlast : ex.rounds.getLast? = some last) (role : PairingRole) :
    ∃ first, ex.received role = first ++ [.pairingRandom last.peerNonce] := by
  obtain ⟨rounds, hrounds⟩ := List.getLast?_eq_some_iff.mp hlast
  refine ⟨[ex.peerFeaturesPdu role, .pairingPublicKey ex.x ex.y] ++
    (({ ex with rounds := rounds } : Exchange).receivedRounds role ++
      if checks role ex.method then [.pairingConfirm last.peerConfirm] else []), ?_⟩
  simp only [Exchange.received, Exchange.receivedRounds, hrounds, List.flatMap_append,
    List.flatMap_cons, List.flatMap_nil, List.append_nil, List.append_assoc]

theorem sent_closes (prim : Primitives κ) (s0 : ScPairingSession κ)
    (hlast : ex.rounds.getLast? = some last) :
    ∃ first, ex.sent prim s0 = first ++ [.pairingRandom last.ownNonce] := by
  obtain ⟨rounds, hrounds⟩ := List.getLast?_eq_some_iff.mp hlast
  refine ⟨[ex.ownFeaturesPdu s0.role, s0.publicKeyPdu prim] ++
    (({ ex with rounds := rounds } : Exchange).sentRounds s0.role ++
      if commits s0.role ex.method then [.pairingConfirm last.ownConfirm] else []), ?_⟩
  simp only [Exchange.sent, Exchange.sentRounds, hrounds, List.flatMap_append,
    List.flatMap_cons, List.flatMap_nil, List.append_nil, List.append_assoc]

theorem received_length (role : PairingRole) :
    (ex.received role).length =
      2 + ex.rounds.length * if checks role ex.method then 2 else 1 := by
  simp only [Exchange.received, Exchange.receivedRounds, List.length_append, List.length_cons,
    List.length_nil, List.length_flatMap]
  have hround : ∀ round : Round, (if checks role ex.method then
      [SmpPdu.pairingConfirm round.peerConfirm] else []).length + (0 + 1) =
        if checks role ex.method then 2 else 1 := by
    intro round
    split <;> rfl
  simp only [hround, List.map_const', List.sum_replicate, smul_eq_mul]

theorem sent_length (s0 : ScPairingSession κ) :
    (ex.sent prim s0).length =
      2 + ex.rounds.length * if commits s0.role ex.method then 2 else 1 := by
  simp only [Exchange.sent, Exchange.sentRounds, List.length_append, List.length_cons,
    List.length_nil, List.length_flatMap]
  have hround : ∀ round : Round, (if commits s0.role ex.method then
      [SmpPdu.pairingConfirm round.ownConfirm] else []).length + (0 + 1) =
        if commits s0.role ex.method then 2 else 1 := by
    intro round
    split <;> rfl
  simp only [hround, List.map_const', List.sum_replicate, smul_eq_mul]

/-- The two sides of an exchange, and what connects them. -/
structure Joined (prim : Primitives κ) (s0 t0 : ScPairingSession κ) (ex ex' : Exchange)
    (last last' : Round) : Prop where
  request : ex.request = s0.localFeatures
  response : ex.response = t0.answer s0.localFeatures
  request' : ex'.request = s0.localFeatures
  response' : ex'.response = t0.answer s0.localFeatures
  method : ex.method = ex'.method
  key : ex.x = t0.publicXLe prim ∧ ex.y = t0.publicYLe prim
  key' : ex'.x = s0.publicXLe prim ∧ ex'.y = s0.publicYLe prim
  nonce : last.peerNonce = last'.ownNonce
  nonce' : last'.peerNonce = last.ownNonce

theorem heads_eq {α : Type} {a b a' b' : α} {rest rest' whole : List α}
    (hfirst : a :: b :: rest <+: whole) (hsecond : a' :: b' :: rest' <+: whole) :
    a = a' ∧ b = b' := by
  obtain ⟨tail, rfl⟩ := hfirst
  obtain ⟨tail', htail⟩ := hsecond
  simp only [List.cons_append, List.cons.injEq] at htail
  exact ⟨htail.1.symm, htail.2.1.symm⟩

theorem eq_of_prefixes {α : Type} {l l' whole : List α} (hfirst : l <+: whole)
    (hsecond : l' <+: whole) (hlength : l.length = l'.length) : l = l' :=
  (List.prefix_of_prefix_length_le hfirst hsecond hlength.le).eq_of_length hlength

/-- **The exchanges join.**  Each side has received what the other has sent, all
    rounds included. -/
theorem Exchange.join (hinitiator : s0.role = .initiator) (hresponder : t0.role = .responder)
    {calls calls' : List DelegateCall} {whole whole' : List SmpPdu}
    (hsettled : ex.Settled s0 calls) (hsettled' : ex'.Settled t0 calls')
    (hcount : ex.rounds.length = roundCount ex.method)
    (hcount' : ex'.rounds.length = roundCount ex'.method)
    (hlast : ex.rounds.getLast? = some last) (hlast' : ex'.rounds.getLast? = some last')
    (hreceived : ex.received s0.role <+: whole') (hsent : ex'.sent prim t0 <+: whole')
    (hreceived' : ex'.received t0.role <+: whole) (hsent' : ex.sent prim s0 <+: whole) :
    Joined prim s0 t0 ex ex' last last' := by
  have hheads := heads_eq (by simpa [Exchange.received] using hreceived)
    (by simpa [Exchange.sent] using hsent)
  have hheads' := heads_eq (by simpa [Exchange.received] using hreceived')
    (by simpa [Exchange.sent] using hsent')
  have hown := hsettled.own
  have hown' := hsettled'.own
  simp only [hinitiator, hresponder, Exchange.peerFeaturesPdu, Exchange.ownFeaturesPdu,
    SmpPdu.pairingResponse.injEq, SmpPdu.pairingRequest.injEq, publicKeyPdu,
    SmpPdu.pairingPublicKey.injEq] at hheads hheads' hown hown'
  have hrequest' : ex'.request = s0.localFeatures := hheads'.1.trans hown
  have hresponse' : ex'.response = t0.answer s0.localFeatures := by rw [hown', hrequest']
  have hresponse : ex.response = t0.answer s0.localFeatures := hheads.1.trans hresponse'
  have hmethod : ex.method = ex'.method := by
    obtain ⟨initiator, responder, asked, hio, hio', hchoose, -⟩ := hsettled.chosen
    obtain ⟨initiator', responder', asked', hio₂, hio₂', hchoose', -⟩ := hsettled'.chosen
    rw [hown] at hio hchoose
    rw [hresponse] at hio' hchoose
    rw [hrequest'] at hio₂ hchoose'
    rw [hresponse'] at hio₂' hchoose'
    cases hio.symm.trans hio₂
    cases hio'.symm.trans hio₂'
    rw [choose_method hchoose, choose_method hchoose', selection_answer hinitiator hresponder]
  have hrounds : ex.rounds.length = ex'.rounds.length := by
    rw [hcount, hcount', hmethod]
  obtain ⟨before, hbefore⟩ := received_closes hlast s0.role
  obtain ⟨before', hbefore'⟩ := sent_closes prim t0 hlast'
  obtain ⟨after, hafter⟩ := received_closes hlast' t0.role
  obtain ⟨after', hafter'⟩ := sent_closes prim s0 hlast
  have hnonce : ex.received s0.role = ex'.sent prim t0 := by
    refine eq_of_prefixes hreceived hsent ?_
    rw [received_length, sent_length, hrounds, hmethod, hinitiator, hresponder]
    rfl
  have hnonce' : ex'.received t0.role = ex.sent prim s0 := by
    refine eq_of_prefixes hreceived' hsent' ?_
    rw [received_length, sent_length, hrounds, hmethod, hinitiator, hresponder]
    rfl
  rw [hbefore, hbefore'] at hnonce
  rw [hafter, hafter'] at hnonce'
  have hvalue := (List.append_inj' hnonce rfl).2
  have hvalue' := (List.append_inj' hnonce' rfl).2
  simp only [List.cons.injEq, SmpPdu.pairingRandom.injEq, and_true] at hvalue hvalue'
  exact ⟨hown, hresponse, hrequest', hresponse', hmethod, hheads.2, hheads'.2, hvalue, hvalue'⟩

theorem Verified.join (hinitiator : s0.role = .initiator) (hresponder : t0.role = .responder)
    {calls calls' : List DelegateCall} {received received' queued queued' : List SmpPdu}
    (hfirst : Verified prim s0 ex last calls received queued)
    (hsecond : Verified prim t0 ex' last' calls' received' queued')
    (hto : received' <+: queued) (hfrom : received <+: queued') :
    Joined prim s0 t0 ex ex' last last' :=
  Exchange.join hinitiator hresponder hfirst.settled hsecond.settled hfirst.count hsecond.count
    hfirst.closes hsecond.closes (((List.prefix_append _ _).trans hfirst.received).trans hfrom)
    ((List.prefix_append _ _).trans hsecond.queued)
    (((List.prefix_append _ _).trans hsecond.received).trans hto)
    ((List.prefix_append _ _).trans hfirst.queued)

/-! ## 3. The outcomes -/

theorem Joined.dhKey (hjoined : Joined prim s0 t0 ex ex' last last') (hcommutes : prim.Commutes)
    (haccepted : ex.KeyAccepted prim s0) (haccepted' : ex'.KeyAccepted prim t0) :
    ex.dhKey = ex'.dhKey := by
  obtain ⟨secret, hsecret, hsecret'⟩ := hcommutes s0.eccKey t0.eccKey
  have hkey := haccepted.onCurve
  have hkey' := haccepted'.onCurve
  rw [hjoined.key.1, hjoined.key.2] at hkey
  rw [hjoined.key'.1, hjoined.key'.2] at hkey'
  simp only [publicXLe, publicYLe, Vector.reverse_reverse] at hkey hkey'
  rw [hsecret] at hkey
  rw [hsecret'] at hkey'
  exact Vector.reverse_inj.mp (Option.some.inj (hkey.symm.trans hkey'))

theorem Joined.keys (hjoined : Joined prim s0 t0 ex ex' last last')
    (hinitiator : s0.role = .initiator) (hresponder : t0.role = .responder)
    (haddress : s0.initiatorAddress = t0.initiatorAddress)
    (haddress' : s0.responderAddress = t0.responderAddress) (hdhKey : ex.dhKey = ex'.dhKey) :
    (ex.keys prim s0 last.ownNonce last.peerNonce).macKey =
        (ex'.keys prim t0 last'.ownNonce last'.peerNonce).macKey ∧
      (ex.keys prim s0 last.ownNonce last.peerNonce).ltk =
        (ex'.keys prim t0 last'.ownNonce last'.peerNonce).ltk ∧
      (ex.keys prim s0 last.ownNonce last.peerNonce).numericCheck =
        (ex'.keys prim t0 last'.ownNonce last'.peerNonce).numericCheck := by
  simp only [Exchange.keys, keysWithR, byRole, hinitiator, hresponder, hdhKey, haddress,
    haddress', hjoined.nonce, hjoined.nonce', hjoined.key.1, hjoined.key'.1, and_self]

theorem Joined.outcome (hjoined : Joined prim s0 t0 ex ex' last last')
    (hinitiator : s0.role = .initiator) (hresponder : t0.role = .responder)
    (haddress : s0.initiatorAddress = t0.initiatorAddress)
    (haddress' : s0.responderAddress = t0.responderAddress) (hdhKey : ex.dhKey = ex'.dhKey) :
    ex.outcome s0 (ex.keys prim s0 last.ownNonce last.peerNonce) =
      ex'.outcome t0 (ex'.keys prim t0 last'.ownNonce last'.peerNonce) := by
  obtain ⟨hmac, hltk, hnumber⟩ :=
    hjoined.keys hinitiator hresponder haddress haddress' hdhKey
  obtain ⟨hbonding, -, hct2⟩ := localFeatures_contains s0
  obtain ⟨hbonding', -, hct2'⟩ := localFeatures_contains t0
  have hpeer : ex.peer s0.role = t0.answer s0.localFeatures := by
    rw [hinitiator]; exact hjoined.response
  have hpeer' : ex'.peer t0.role = s0.localFeatures := by
    rw [hresponder]; exact hjoined.request'
  have hauthReq : (t0.answer s0.localFeatures).authReq = t0.localFeatures.authReq := rfl
  simp only [Exchange.outcome, hpeer, hpeer', hmac, hltk, hnumber, agreedSize_answer,
    agreedInitiatorKeys_answer, agreedResponderKeys_answer, hjoined.method, hauthReq, hbonding,
    hbonding', hct2, hct2', Bool.and_comm]

end Bumble.Smp.ScPairingSession
