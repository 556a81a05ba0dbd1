import Bumble.ScTranscript

/-!
# From the public keys to the outcome

The handlers of the public key, of the confirm and random values and of the
DHKey check, stage by stage: each goes on exactly when what it received passes
its check, and fails otherwise.
-/

namespace Bumble.Smp.ScPairingSession

variable {κ : Type} {s s' s0 : ScPairingSession κ} (prim : Primitives κ) {ex : Exchange}

/-! ## 1. The public key -/

def Exchange.withKey (ex : Exchange) (x y dhKey : Octets 32) : Exchange :=
  { ex with x := x, y := y, dhKey := dhKey }

theorem Exchange.Settled.method_ne {calls : List DelegateCall} (hsettled : ex.Settled s0 calls) :
    ex.method ≠ .ctkdOverClassic := by
  obtain ⟨initiator, responder, asked, -, -, hchoose, -⟩ := hsettled.chosen
  intro hmethod
  unfold choose at hchoose
  split at hchoose
  · simp [hmethod] at hchoose
  · split at hchoose
    · cases hchoose
    · simp [hmethod] at hchoose
  · simp [hmethod] at hchoose
  · simp [hmethod] at hchoose
  · cases hchoose

theorem Exchange.Settled.ourContext {calls : List DelegateCall} (hsettled : ex.Settled s0 calls)
    (hmethod : ex.method = .oob) : ∃ context, s0.config.ourContext = some context := by
  obtain ⟨initiator, responder, asked, -, -, hchoose, -⟩ := hsettled.chosen
  unfold choose at hchoose
  split at hchoose
  · simp [hmethod] at hchoose
  · split at hchoose
    · cases hchoose
    · next hcontext =>
      cases hcontext' : s0.config.ourContext with
      | none => simp [hcontext'] at hcontext
      | some context => exact ⟨context, rfl⟩
  · simp [hmethod] at hchoose
  · simp [hmethod] at hchoose
  · cases hchoose

theorem oobFailure_eq_none_iff (x : Octets 32) :
    s.oobFailure prim x = none ↔ (s.method = some .oob → ∀ data, s.config.peerData = some data →
      ∃ r, toArray16 data.r = some r ∧ data.c = (confirmValueWithZ prim x x r 0).toList) := by
  unfold oobFailure
  by_cases hmethod : s.method = some .oob
  · rw [if_pos hmethod]
    cases hdata : s.config.peerData with
    | none => simp [hmethod]
    | some data =>
      cases hr : toArray16 data.r with
      | none => simp [hmethod, hr]
      | some r => simp [hmethod, hr]
  · simp [hmethod]

theorem queuePasskeyConfirm_eq (hholds : Holds s0 s ex) (hmethod : ex.method = .passkey)
    (hkey : s.peerPublicX = some ex.x) :
    s.queuePasskeyConfirm prim = .ok (s.push (.pairingConfirm
      (ex.ownCommitment prim (s0.publicXLe prim) s.passkeyStep s.localNonce))) () := by
  simp only [queuePasskeyConfirm, hkey, passkeyZ, hholds.passkey hmethod, Option.map_some,
    hholds.keeps.publicXLe, Exchange.ownCommitment, Exchange.z, if_pos hmethod]

theorem receiveKey_inRound (hholds : Holds s0 s ex) (hrounds : ex.rounds = [])
    (hstep : s.passkeyStep = 0) {x y dhKey : Octets 32}
    (haccepted : (ex.withKey x y dhKey).KeyAccepted prim s0) :
    InRound prim s0 (s.receiveKey x y dhKey) (ex.withKey x y dhKey) where
  holds := hholds.congr (receiveKey_follows x y dhKey)
    rfl rfl rfl rfl rfl rfl rfl rfl rfl rfl rfl rfl rfl
  accepted := haccepted
  checked := by
    intro index round hround
    simp [Exchange.withKey, hrounds] at hround
  peerPublicX := rfl
  dhKey := rfl
  step := by simp [receiveKey, Exchange.withKey, hrounds, hstep]
  more := by
    simp only [Exchange.withKey, hrounds, List.length_nil, roundCount]
    split <;> decide

theorem InRound.queue (hround : InRound prim s0 s ex) (state : ScPairingState) (pdu : SmpPdu)
    (hpdu : pdu.isKeyDistributionPdu = false) :
    InRound prim s0 { s.push pdu with state := state } ex :=
  ⟨hround.holds.queue state pdu hpdu, hround.accepted, hround.checked, hround.peerPublicX,
    hround.dhKey, hround.step, hround.more⟩

theorem InRound.goTo (hround : InRound prim s0 s ex) (state : ScPairingState) :
    InRound prim s0 { s with state := state } ex :=
  ⟨hround.holds.congr (.still rfl rfl rfl rfl rfl rfl rfl rfl rfl rfl rfl rfl)
    rfl rfl rfl rfl rfl rfl rfl rfl rfl rfl rfl rfl rfl, hround.accepted, hround.checked,
    hround.peerPublicX, hround.dhKey, hround.step, hround.more⟩

theorem onPublicKey_eq (hholds : Holds s0 s ex) {x y dhKey : Octets 32}
    (haccepted : (ex.withKey x y dhKey).KeyAccepted prim s0) :
    s.onPublicKey prim x y = (s.receiveKey x y dhKey).exchangeKeys prim x := by
  have hown : ¬ (x = s.publicXLe prim ∧ y = s.publicYLe prim) := by
    rw [hholds.keeps.publicXLe, hholds.keeps.publicYLe]
    exact haccepted.notOwn
  have hdh : prim.dh s.eccKey x.reverse y.reverse = some dhKey.reverse := by
    rw [hholds.keeps.eccKey]
    exact haccepted.onCurve
  have hdata : (s.receiveKey x y dhKey).oobFailure prim x = none := by
    rw [oobFailure_eq_none_iff]
    intro hmethod data hdata
    have hoob : ex.method = .oob := Option.some.inj (hholds.method.symm.trans hmethod)
    have hconfig : s0.config.peerData = some data := by
      rw [← hholds.keeps.config]
      exact hdata
    exact haccepted.outOfBand hoob data hconfig
  simp only [onPublicKey, if_neg hown, hdh, Vector.reverse_reverse, hdata]

theorem withKey_sent (s0 : ScPairingSession κ) (hrounds : ex.rounds = []) (x y dhKey : Octets 32) :
    (ex.withKey x y dhKey).sent prim s0 = [ex.ownFeaturesPdu s0.role, s0.publicKeyPdu prim] := by
  cases hrole : s0.role <;>
    simp [Exchange.sent, Exchange.sentRounds, Exchange.ownFeaturesPdu, Exchange.withKey, hrounds,
      hrole]

theorem withKey_received (hrounds : ex.rounds = []) (role : PairingRole) (x y dhKey : Octets 32) :
    (ex.withKey x y dhKey).received role =
      [ex.peerFeaturesPdu role] ++ [.pairingPublicKey x y] := by
  cases role <;>
    simp [Exchange.received, Exchange.receivedRounds, Exchange.peerFeaturesPdu, Exchange.withKey,
      hrounds]

/-- An accepted public key takes the session to its next stage. -/
theorem onPublicKey_accepts (hholds : Holds s0 s ex) (hrounds : ex.rounds = [])
    (hstep : s.passkeyStep = 0) {x y dhKey : Octets 32}
    (haccepted : (ex.withKey x y dhKey).KeyAccepted prim s0) :
    Advances prim s0 s [ex.peerFeaturesPdu s0.role]
      ([ex.ownFeaturesPdu s0.role] ++ if s0.role = .initiator then [s0.publicKeyPdu prim] else [])
      (.pairingPublicKey x y) (s.onPublicKey prim x y).state := by
  have hround := receiveKey_inRound prim hholds hrounds hstep haccepted
  have hsent := withKey_sent prim s0 hrounds x y dhKey
  have hreceived := withKey_received hrounds s0.role x y dhKey
  have hne := hround.holds.settled.method_ne
  have hkeyPdu := hround.holds.keeps.publicKeyPdu prim
  rw [onPublicKey_eq prim hholds haccepted]
  revert hround hsent hreceived hne hkeyPdu
  generalize hex : ex.withKey x y dhKey = ex'
  have hx : ex'.x = x := by rw [← hex]; rfl
  generalize ht : s.receiveKey x y dhKey = t
  have houtbound : t.outbound = s.outbound := by rw [← ht]; rfl
  intro hround hsent hreceived hne hkeyPdu
  cases hrole : s0.role with
  | initiator =>
    rw [hrole] at hsent hreceived
    by_cases hpasskey : ex'.method = .passkey
    · have hresult : (t.exchangeKeys prim x).state =
          { t.push (currentConfirm prim s0 t ex') with state := .waitPairingConfirm } := by
        simp only [exchangeKeys, hround.holds.keeps.role, hrole, hround.holds.method, hpasskey,
          queuePasskeyConfirm_eq prim hround.holds hpasskey hround.peerPublicX, Outcome.ok_andThen,
          hround.step, currentConfirm]
        rfl
      rw [hresult]
      refine ⟨[currentConfirm prim s0 t ex'], by rw [← houtbound]; rfl, ?_⟩
      refine (Stage.confirming ex' rfl (hround.queue prim .waitPairingConfirm _ rfl)
        (by simp [checks, hrole])).cast ?_ ?_
      · rw [hrole]; exact hreceived
      · rw [hsent, if_pos ⟨hrole, hpasskey⟩]; rfl
    · have hresult : (t.exchangeKeys prim x).state = { t with state := .waitPairingConfirm } := by
        cases hmethod : ex'.method <;>
          simp_all [exchangeKeys, hround.holds.keeps.role, hround.holds.method]
      rw [hresult]
      refine ⟨[], by simp [houtbound], ?_⟩
      refine (Stage.confirming ex' rfl (hround.goTo prim .waitPairingConfirm)
        (by simp [checks, hrole])).cast ?_ ?_
      · rw [hrole]; exact hreceived
      · rw [hsent, if_neg (fun h => hpasskey h.2)]; rfl
  | responder =>
    rw [hrole] at hsent hreceived
    by_cases hpasskey : ex'.method = .passkey
    · have hresult : (t.exchangeKeys prim x).state =
          { t.push (s0.publicKeyPdu prim) with state := .waitPairingConfirm } := by
        simp only [exchangeKeys, hround.holds.keeps.role, hrole, hround.holds.method, hpasskey,
          hkeyPdu]
        rfl
      rw [hresult]
      refine ⟨[s0.publicKeyPdu prim], by rw [← houtbound]; rfl, ?_⟩
      refine (Stage.confirming ex' rfl (hround.queue prim .waitPairingConfirm _ rfl)
        (by simp [checks, hpasskey])).cast ?_ ?_
      · rw [hrole]; exact hreceived
      · rw [hsent, if_neg (by simp [hrole])]; rfl
    · have hconfirm : currentConfirm prim s0 t ex' =
          .pairingConfirm (confirmValue prim (t.publicXLe prim) x t.localNonce) := by
        simp [currentConfirm, Exchange.ownCommitment, Exchange.z, hpasskey, confirmValue, hx,
          hround.holds.keeps.publicXLe]
      have hresult : (t.exchangeKeys prim x).state =
          { (t.push (s0.publicKeyPdu prim)).push (currentConfirm prim s0 t ex') with
            state := .waitPairingRandom } := by
        rw [hconfirm]
        cases hmethod : ex'.method <;>
          simp_all [exchangeKeys, hround.holds.keeps.role, hround.holds.method]
      rw [hresult]
      refine ⟨[s0.publicKeyPdu prim, currentConfirm prim s0 t ex'], ?_, ?_⟩
      · rw [← houtbound]
        simp [push]
      · have hqueued := (hround.queue prim t.state (s0.publicKeyPdu prim) rfl).queue prim
          .waitPairingRandom (currentConfirm prim s0 t ex') rfl
        refine (Stage.committed ex' zeroBlock rfl hqueued
          (by simp [checks, hrole, hpasskey])).cast ?_ ?_
        · rw [hrole, hreceived]
          simp [checks, hpasskey]
        · rw [hsent, hrole]
          simp [commits]
          rfl

theorem onPublicKey_cases (hholds : Holds s0 s ex) (hrounds : ex.rounds = [])
    (hstep : s.passkeyStep = 0) (x y : Octets 32) :
    Advances prim s0 s [ex.peerFeaturesPdu s0.role]
        ([ex.ownFeaturesPdu s0.role] ++
          if s0.role = .initiator then [s0.publicKeyPdu prim] else [])
        (.pairingPublicKey x y) (s.onPublicKey prim x y).state ∨
      (s.onPublicKey prim x y).state.state = .failed := by
  by_cases hown : x = s.publicXLe prim ∧ y = s.publicYLe prim
  · right
    simp [onPublicKey, hown]
  · cases hdh : prim.dh s.eccKey x.reverse y.reverse with
    | none =>
      right
      simp [onPublicKey, hown, hdh]
    | some dhKey =>
      cases hdata : (s.receiveKey x y dhKey.reverse).oobFailure prim x with
      | some reason =>
        right
        simp [onPublicKey, hown, hdh, hdata]
      | none =>
        left
        have haccepted : (ex.withKey x y dhKey.reverse).KeyAccepted prim s0 := by
          refine ⟨?_, ?_, ?_⟩
          · rw [← hholds.keeps.publicXLe, ← hholds.keeps.publicYLe]
            exact hown
          · rw [← hholds.keeps.eccKey]
            simpa [Exchange.withKey] using hdh
          · intro hmethod data hpeer
            rw [← hholds.keeps.config] at hpeer
            exact (oobFailure_eq_none_iff prim x).mp hdata
              (hholds.method.trans (congrArg some hmethod)) data hpeer
        exact onPublicKey_accepts prim hholds hrounds hstep haccepted

/-! ## 2. The confirm value -/

/-- A confirm value that is awaited leads to the next stage. -/
theorem onPairingConfirm_accepts (hround : InRound prim s0 s ex)
    (hchecks : checks s0.role ex.method = true) (confirmValue : Octets 16) :
    Advances prim s0 s (ex.received s0.role)
      (ex.sent prim s0 ++
        if s0.role = .initiator ∧ ex.method = .passkey then [currentConfirm prim s0 s ex] else [])
      (.pairingConfirm confirmValue) (s.onPairingConfirm prim confirmValue).state := by
  let t := { s with peerConfirm := some confirmValue }
  have hkept : InRound prim s0 t ex :=
    ⟨hround.holds.congr (.still rfl rfl rfl rfl rfl rfl rfl rfl rfl rfl rfl rfl)
      rfl rfl rfl rfl rfl rfl rfl rfl rfl rfl rfl rfl rfl, hround.accepted, hround.checked,
      hround.peerPublicX, hround.dhKey, hround.step, hround.more⟩
  cases hrole : s0.role with
  | initiator =>
    have hresult : (s.onPairingConfirm prim confirmValue).state =
        { t.push (.pairingRandom t.localNonce) with state := .waitPairingRandom } := by
      have hturn : ¬ (s.method = some .passkey ∧ s.role = .responder) := by
        simp [hround.holds.keeps.role, hrole]
      unfold onPairingConfirm
      dsimp only
      rw [if_neg hturn]
      rfl
    rw [hresult]
    refine ⟨[.pairingRandom t.localNonce], rfl, ?_⟩
    refine (Stage.committed ex confirmValue rfl (hkept.queue prim .waitPairingRandom _ rfl)
      (fun _ => rfl)).cast ?_ ?_
    · rw [if_pos hchecks, hrole]
    · simp only [commits, hrole, reduceCtorEq, decide_false, Bool.false_or, decide_eq_true_eq,
        true_and, if_true]
      rfl
  | responder =>
    have hpasskey : ex.method = .passkey := by simpa [checks, hrole] using hchecks
    have hresult : (s.onPairingConfirm prim confirmValue).state =
        { t.push (currentConfirm prim s0 t ex) with state := .waitPairingRandom } := by
      have hqueue := queuePasskeyConfirm_eq prim hkept.holds hpasskey hkept.peerPublicX
      rw [hkept.step] at hqueue
      have hturn : s.method = some .passkey ∧ s.role = .responder :=
        ⟨hround.holds.method.trans (congrArg some hpasskey), hround.holds.keeps.role.trans hrole⟩
      unfold onPairingConfirm
      dsimp only
      rw [if_pos hturn, hqueue]
      rfl
    rw [hresult]
    refine ⟨[currentConfirm prim s0 t ex], rfl, ?_⟩
    refine (Stage.committed ex confirmValue rfl (hkept.queue prim .waitPairingRandom _ rfl)
      (fun _ => rfl)).cast ?_ ?_
    · rw [if_pos hchecks, hrole]
    · simp only [commits, hrole, decide_true, Bool.true_or, if_true, reduceCtorEq, false_and,
        if_false, List.append_nil]
      rfl

/-! ## 3. The keys -/

theorem dhkeyRValues_eq (hholds : Holds s0 s ex) (haccepted : ex.KeyAccepted prim s0) :
    s.dhkeyRValues = .ok (ex.rValues s0) := by
  have hne := hholds.settled.method_ne
  unfold dhkeyRValues Exchange.rValues
  rw [hholds.method, hholds.keeps.config, hholds.keeps.role]
  cases hmethod : ex.method with
  | justWorks => rfl
  | numericComparison => rfl
  | passkey => simp [hholds.passkey hmethod]
  | oob =>
    obtain ⟨context, hcontext⟩ := hholds.settled.ourContext hmethod
    cases hdata : s0.config.peerData with
    | none => cases s0.role <;> simp [hcontext, byRole]
    | some data =>
      obtain ⟨r, hr, -⟩ := haccepted.outOfBand hmethod data hdata
      cases s0.role <;> simp [hcontext, hr, byRole]
  | ctkdOverClassic => exact absurd hmethod hne

theorem deriveKeys_eq (hholds : Holds s0 s ex) (haccepted : ex.KeyAccepted prim s0)
    (hkey : s.peerPublicX = some ex.x) (hdh : s.dhKey = some ex.dhKey) {peerNonce : Octets 16}
    (hnonce : s.peerNonce = some peerNonce) :
    s.deriveKeys prim =
      .ok { s with keys := some (ex.keys prim s0 s.localNonce peerNonce) } () := by
  have hrequest : ioCap (SmpPdu.pairingRequest ex.request).toBytes =
      some (Exchange.ioCapOf ex.request) := rfl
  have hresponse : ioCap (SmpPdu.pairingResponse ex.response).toBytes =
      some (Exchange.ioCapOf ex.response) := rfl
  unfold deriveKeys
  rw [hnonce, hkey, hholds.preq, hholds.pres, dhkeyRValues_eq prim hholds haccepted, hdh]
  simp only [hrequest, hresponse, hholds.keeps.publicXLe, hholds.keeps.initiatorAddress,
    hholds.keeps.responderAddress]
  rw [hholds.keeps.role]
  rfl

theorem confirmUser_accepts {keys : ScKeys} {method : PairingMethod} (hkeys : s.keys = some keys)
    (hmethod : s.method = some method) (hanswer : (s.userAnswer keys method).1 = true) :
    s.confirmUser =
      .ok { s with
        calls := s.calls ++ (s.userAnswer keys method).2
        userConfirmed := true } true := by
  unfold confirmUser
  rw [hkeys, hmethod]
  dsimp only
  rw [hanswer]
  rfl

theorem confirmUser_rejects {keys : ScKeys} {method : PairingMethod} (hkeys : s.keys = some keys)
    (hmethod : s.method = some method) (hanswer : (s.userAnswer keys method).1 = false) :
    s.confirmUser.result = .ok false ∧ s.confirmUser.state.state = .failed := by
  unfold confirmUser
  rw [hkeys, hmethod]
  dsimp only
  rw [hanswer]
  simp

theorem userAnswer_consented {keys : ScKeys}
    (hanswer : (s.userAnswer keys ex.method).1 = true) :
    ex.Consented (s.calls ++ (s.userAnswer keys ex.method).2) keys.numericCheck := by
  unfold Exchange.Consented
  cases hcase : ex.method with
  | justWorks =>
    rw [hcase] at hanswer
    simp only [userAnswer] at hanswer ⊢
    simp [hanswer]
  | numericComparison =>
    rw [hcase] at hanswer
    simp only [userAnswer] at hanswer ⊢
    simp [hanswer]
  | passkey => trivial
  | oob => trivial
  | ctkdOverClassic => trivial

/-! ## 4. The random value -/

def Exchange.withRound (ex : Exchange) (round : Round) : Exchange :=
  { ex with rounds := ex.rounds ++ [round] }

/-- The round that ends with a random value of the peer. -/
def closedRound (s0 s : ScPairingSession κ) (ex : Exchange) (confirm randomValue : Octets 16) :
    Round where
  peerConfirm := confirm
  peerNonce := randomValue
  ownConfirm := ex.ownCommitment prim (s0.publicXLe prim) ex.rounds.length s.localNonce
  ownNonce := s.localNonce

/-- The peer's commitment of the current round opens to a random value. -/
def Opens (s0 : ScPairingSession κ) (ex : Exchange) (confirm randomValue : Octets 16) : Prop :=
  checks s0.role ex.method = true →
    confirm = ex.peerCommitment prim (s0.publicXLe prim) ex.rounds.length randomValue

theorem withRound_checked (hchecked : ex.RoundsChecked prim s0) {confirm randomValue : Octets 16}
    (hopens : Opens prim s0 ex confirm randomValue) :
    (ex.withRound (closedRound prim s0 s ex confirm randomValue)).RoundsChecked prim s0 := by
  intro index round hround
  by_cases hindex : index < ex.rounds.length
  · rw [Exchange.withRound, List.getElem?_append_left hindex] at hround
    exact hchecked index round hround
  · have hlast : index = ex.rounds.length := by
      have := (List.getElem?_eq_some_iff.mp hround).1
      simp only [Exchange.withRound, List.length_append, List.length_singleton] at this
      omega
    subst hlast
    simp only [Exchange.withRound, List.getElem?_concat_length, Option.some.injEq] at hround
    subst hround
    exact ⟨hopens, fun _ => rfl⟩

theorem withRound_received (role : PairingRole) (round : Round) :
    (ex.withRound round).received role = ex.received role ++
      (if checks role ex.method then [.pairingConfirm round.peerConfirm] else []) ++
      [.pairingRandom round.peerNonce] := by
  have hpeer : (ex.withRound round).peerFeaturesPdu role = ex.peerFeaturesPdu role := by
    cases role <;> rfl
  unfold Exchange.received
  rw [hpeer]
  simp only [Exchange.receivedRounds, Exchange.withRound, List.flatMap_append,
    List.flatMap_singleton, List.append_assoc]
  rfl

theorem withRound_sent (s0 : ScPairingSession κ) (round : Round) :
    (ex.withRound round).sent prim s0 = ex.sent prim s0 ++
      (if commits s0.role ex.method then [.pairingConfirm round.ownConfirm] else []) ++
      [.pairingRandom round.ownNonce] := by
  have hown : (ex.withRound round).ownFeaturesPdu s0.role = ex.ownFeaturesPdu s0.role := by
    cases s0.role <;> rfl
  unfold Exchange.sent
  rw [hown]
  simp only [Exchange.sentRounds, Exchange.withRound, List.flatMap_append,
    List.flatMap_singleton, List.append_assoc]
  rfl

theorem awaitCheck_derived (hholds : Holds s0 s ex) (haccepted : ex.KeyAccepted prim s0)
    (hchecked : ex.RoundsChecked prim s0) (hcount : ex.rounds.length = roundCount ex.method)
    {last : Round} (hlast : ex.rounds.getLast? = some last)
    (hkeys : s.keys = some (ex.keys prim s0 last.ownNonce last.peerNonce))
    (hconsented : ex.Consented s.calls
      (ex.keys prim s0 last.ownNonce last.peerNonce).numericCheck) :
    ∃ pdus, s.awaitCheck.state.outbound = s.outbound ++ pdus ∧
      Stage prim s0 s.awaitCheck.state (ex.received s0.role) (ex.sent prim s0 ++ pdus) := by
  cases hrole : s0.role with
  | initiator =>
    have hresult : s.awaitCheck.state =
        { s.push (.pairingDhKeyCheck (ex.keys prim s0 last.ownNonce last.peerNonce).ea) with
          state := .waitDhKeyCheck } := by
      simp only [awaitCheck, hholds.keeps.role, hrole, hkeys, Outcome.ok_state]
    rw [hresult]
    refine ⟨_, rfl, ?_⟩
    refine (Stage.derived ex last rfl (hholds.queue _ _ rfl) haccepted hchecked hcount hlast hkeys
      hconsented).cast ?_ ?_
    · rw [hrole]
    · rw [if_pos hrole]
  | responder =>
    have hresult : s.awaitCheck.state = { s with state := .waitDhKeyCheck } := by
      simp only [awaitCheck, hholds.keeps.role, hrole, Outcome.ok_state]
    have hkept : Holds s0 { s with state := .waitDhKeyCheck } ex :=
      hholds.congr (.still rfl rfl rfl rfl rfl rfl rfl rfl rfl rfl rfl rfl)
        rfl rfl rfl rfl rfl rfl rfl rfl rfl rfl rfl rfl rfl
    rw [hresult]
    refine ⟨[], by simp, ?_⟩
    refine (Stage.derived ex last rfl hkept haccepted hchecked hcount hlast hkeys
      hconsented).cast ?_ ?_
    · rw [hrole]
    · rw [if_neg (by simp [hrole])]

def ownReply (s0 s : ScPairingSession κ) : List SmpPdu :=
  if s0.role = .responder then [.pairingRandom s.localNonce] else []

theorem exchangeNonces_eq (hrole : s.role = s0.role) (randomValue : Octets 16) :
    s.exchangeNonces randomValue =
      { s with peerNonce := some randomValue, outbound := s.outbound ++ ownReply s0 s } := by
  unfold exchangeNonces ownReply
  dsimp only
  cases hcase : s0.role with
  | initiator =>
    rw [hcase] at hrole
    rw [hrole]
    simp
  | responder =>
    rw [hcase] at hrole
    rw [hrole]
    simp [push]

theorem Holds.exchangeNonces (hholds : Holds s0 s ex) (randomValue : Octets 16) :
    Holds s0 (s.exchangeNonces randomValue) ex := by
  have hfollows := exchangeNonces_follows (s := s) randomValue
  rw [exchangeNonces_eq hholds.keeps.role] at hfollows ⊢
  exact hholds.congr hfollows rfl rfl rfl rfl rfl rfl rfl rfl rfl rfl rfl rfl rfl

theorem exchangeNonces_deriveKeys (hround : InRound prim s0 s ex) (randomValue : Octets 16)
    (step : Nat) :
    { s.exchangeNonces randomValue with passkeyStep := step }.deriveKeys prim =
      .ok { s.exchangeNonces randomValue with
        passkeyStep := step
        keys := some (ex.keys prim s0 s.localNonce randomValue) } () := by
  have hholds : Holds s0 { s.exchangeNonces randomValue with passkeyStep := step } ex :=
    (hround.holds.exchangeNonces randomValue).congr
      (.still rfl rfl rfl rfl rfl rfl rfl rfl rfl rfl rfl rfl)
      rfl rfl rfl rfl rfl rfl rfl rfl rfl rfl rfl rfl rfl
  rw [exchangeNonces_eq hround.holds.keeps.role] at hholds ⊢
  exact deriveKeys_eq prim hholds hround.accepted hround.peerPublicX hround.dhKey rfl

theorem closedRound_sent (s0 s : ScPairingSession κ) (ex : Exchange)
    (confirm randomValue : Octets 16) :
    (ex.withRound (closedRound prim s0 s ex confirm randomValue)).sent prim s0 =
      ex.sent prim s0 ++ (if commits s0.role ex.method then
        [currentConfirm prim s0 s ex] else []) ++
        (if s0.role = .initiator then [.pairingRandom s.localNonce] else []) ++
        ownReply s0 s := by
  rw [withRound_sent]
  cases hrole : s0.role <;> simp [closedRound, currentConfirm, ownReply, hrole]

theorem closedRound_last (s0 s : ScPairingSession κ) (ex : Exchange)
    (confirm randomValue : Octets 16) :
    (ex.withRound (closedRound prim s0 s ex confirm randomValue)).rounds.getLast? =
      some (closedRound prim s0 s ex confirm randomValue) := by
  simp [Exchange.withRound]

theorem Exchange.KeyAccepted.withRound (haccepted : ex.KeyAccepted prim s0) (round : Round) :
    (ex.withRound round).KeyAccepted prim s0 :=
  ⟨haccepted.notOwn, haccepted.onCurve, haccepted.outOfBand⟩

theorem conclude_eq (hround : InRound prim s0 s ex) (randomValue : Octets 16) :
    (s.exchangeNonces randomValue).conclude prim =
      { s.exchangeNonces randomValue with
        keys := some (ex.keys prim s0 s.localNonce randomValue) }.confirmUser.andThen
          fun s accepted => if !accepted then .ok s () else s.awaitCheck := by
  have hderive := exchangeNonces_deriveKeys prim hround randomValue
    (s.exchangeNonces randomValue).passkeyStep
  unfold conclude
  rw [show (s.exchangeNonces randomValue).deriveKeys prim = _ from hderive]
  rfl

theorem userAnswer_congr (hdelegate : s'.delegate = s.delegate) (hcalls : s'.calls = s.calls)
    (keys : ScKeys) (method : PairingMethod) :
    s'.userAnswer keys method = s.userAnswer keys method := by
  cases method <;> simp [userAnswer, hdelegate, hcalls]

theorem exchangeNonces_calls (randomValue : Octets 16) :
    (s.exchangeNonces randomValue).calls = s.calls := by
  rw [exchangeNonces_eq rfl]

/-- The session closes the round of its exchange with two values of the peer. -/
def RoundCloses (s0 s : ScPairingSession κ) (ex : Exchange) (confirm randomValue : Octets 16)
    (s' : ScPairingSession κ) : Prop :=
  Advances prim s0 s
    (ex.received s0.role ++ if checks s0.role ex.method then [.pairingConfirm confirm] else [])
    (ex.sent prim s0 ++
      (if commits s0.role ex.method then [currentConfirm prim s0 s ex] else []) ++
      if s0.role = .initiator then [.pairingRandom s.localNonce] else [])
    (.pairingRandom randomValue) s'

/-- The last round closes where the session with the keys of the two nonces waits for the
    check. -/
theorem roundCloses_of_awaitCheck (hround : InRound prim s0 s ex) {confirm randomValue : Octets 16}
    (hopens : Opens prim s0 ex confirm randomValue) {t : ScPairingSession κ}
    (hholds : Holds s0 t (ex.withRound (closedRound prim s0 s ex confirm randomValue)))
    (hlast : ex.rounds.length + 1 = roundCount ex.method)
    (hkeys : t.keys = some (ex.keys prim s0 s.localNonce randomValue))
    (hagreed : ex.Consented t.calls (ex.keys prim s0 s.localNonce randomValue).numericCheck)
    (houtbound : t.outbound = s.outbound ++ ownReply s0 s) :
    RoundCloses prim s0 s ex confirm randomValue t.awaitCheck.state := by
  unfold RoundCloses Advances
  have hcount : (ex.withRound (closedRound prim s0 s ex confirm randomValue)).rounds.length =
      roundCount ex.method := by simpa [Exchange.withRound] using hlast
  obtain ⟨pdus, hqueue, hstage⟩ := awaitCheck_derived prim hholds
    (hround.accepted.withRound prim _) (withRound_checked prim hround.checked hopens) hcount
    (closedRound_last prim s0 s ex confirm randomValue) hkeys hagreed
  refine ⟨ownReply s0 s ++ pdus, ?_, hstage.cast ?_ ?_⟩
  · rw [hqueue, houtbound, List.append_assoc]
  · rw [withRound_received]
    rfl
  · rw [closedRound_sent, List.append_assoc]

/-- A round without a passkey closes when its confirm opens and the user agrees. -/
theorem conclude_accepts (hround : InRound prim s0 s ex) (hmethod : ex.method ≠ .passkey)
    {confirm randomValue : Octets 16} (hopens : Opens prim s0 ex confirm randomValue)
    (hanswer : (s.userAnswer (ex.keys prim s0 s.localNonce randomValue) ex.method).1 = true) :
    RoundCloses prim s0 s ex confirm randomValue
      ((s.exchangeNonces randomValue).conclude prim).state := by
  let ex' := ex.withRound (closedRound prim s0 s ex confirm randomValue)
  let keys := ex.keys prim s0 s.localNonce randomValue
  let t := { s.exchangeNonces randomValue with keys := some keys }
  have hkept := hround.holds.exchangeNonces randomValue
  have hsame : t.userAnswer keys ex.method = s.userAnswer keys ex.method :=
    userAnswer_congr (exchangeNonces_follows randomValue).delegate (exchangeNonces_calls _) _ _
  have hconfirm := confirmUser_accepts (s := t) rfl hkept.method (hsame ▸ hanswer)
  let t' : ScPairingSession κ :=
    { t with calls := t.calls ++ (t.userAnswer keys ex.method).2, userConfirmed := true }
  have hresult : (s.exchangeNonces randomValue).conclude prim = t'.awaitCheck := by
    rw [conclude_eq prim hround]
    change Outcome.andThen t.confirmUser _ = _
    rw [hconfirm]
    rfl
  have hasked : Follows (s.exchangeNonces randomValue) t' :=
    ⟨rfl, rfl, rfl, rfl, rfl, rfl, rfl, rfl, rfl, rfl, ⟨[], by simp [t', t], by simp⟩,
      List.prefix_append _ _⟩
  have hholds : Holds s0 t' ex' :=
    hkept.congr hasked rfl rfl rfl rfl rfl rfl rfl rfl rfl rfl rfl rfl rfl
  have hlast : ex.rounds.length + 1 = roundCount ex.method := by
    have hmore := hround.more
    simp only [roundCount, hmethod, if_false] at hmore ⊢
    omega
  rw [hresult]
  refine roundCloses_of_awaitCheck prim hround hopens hholds hlast rfl
    (userAnswer_consented (hsame ▸ hanswer)) ?_
  change (s.exchangeNonces randomValue).outbound = _
  rw [exchangeNonces_eq hround.holds.keeps.role]

theorem conclude_rejects (hround : InRound prim s0 s ex) {randomValue : Octets 16}
    (hanswer : (s.userAnswer (ex.keys prim s0 s.localNonce randomValue) ex.method).1 = false) :
    ((s.exchangeNonces randomValue).conclude prim).state.state = .failed := by
  let keys := ex.keys prim s0 s.localNonce randomValue
  let t := { s.exchangeNonces randomValue with keys := some keys }
  have hkept := hround.holds.exchangeNonces randomValue
  have hsame : t.userAnswer keys ex.method = s.userAnswer keys ex.method :=
    userAnswer_congr (exchangeNonces_follows randomValue).delegate (exchangeNonces_calls _) _ _
  obtain ⟨hresult, hfailed⟩ := confirmUser_rejects (s := t) rfl hkept.method (hsame ▸ hanswer)
  rw [conclude_eq prim hround]
  change (Outcome.andThen t.confirmUser _).state.state = _
  simp only [Outcome.andThen, hresult]
  exact hfailed

/-! ### Passkey entry -/

/-- The session with one more round of passkey entry done. -/
def countRound (s : ScPairingSession κ) (randomValue : Octets 16) : ScPairingSession κ :=
  { s.exchangeNonces randomValue with
    passkeyStep := (s.exchangeNonces randomValue).passkeyStep + 1 }

theorem onPasskeyRandom_eq (hround : InRound prim s0 s ex) (hmethod : ex.method = .passkey)
    {confirm : Octets 16} (hconfirm : s.peerConfirm = some confirm) (randomValue : Octets 16) :
    s.onPasskeyRandom prim randomValue =
      if confirm ≠ ex.peerCommitment prim (s0.publicXLe prim) ex.rounds.length randomValue then
        .ok (s.fail .confirmValueFailed) ()
      else if (s.countRound randomValue).passkeyStep < 20 then
        (s.countRound randomValue).nextRound prim
      else (s.countRound randomValue).endPasskey prim := by
  have hz : s.passkeyZ = some (ex.z ex.rounds.length) := by
    simp only [passkeyZ, hround.holds.passkey hmethod, Option.map_some, hround.step, Exchange.z,
      if_pos hmethod]
  unfold onPasskeyRandom
  rw [hround.peerPublicX, hz]
  dsimp only
  rw [hconfirm, hround.holds.keeps.publicXLe]
  simp only [ne_eq, Option.some.injEq, Exchange.peerCommitment]
  rfl

theorem countRound_step (hround : InRound prim s0 s ex) (randomValue : Octets 16) :
    (s.countRound randomValue).passkeyStep = ex.rounds.length + 1 := by
  unfold countRound
  rw [exchangeNonces_eq hround.holds.keeps.role]
  exact congrArg (· + 1) hround.step

theorem Holds.countRound (hholds : Holds s0 s ex) (randomValue : Octets 16) :
    Holds s0 (s.countRound randomValue) ex :=
  (hholds.exchangeNonces randomValue).congr
    (.still rfl rfl rfl rfl rfl rfl rfl rfl rfl rfl rfl rfl)
    rfl rfl rfl rfl rfl rfl rfl rfl rfl rfl rfl rfl rfl

theorem countRound_outbound (hround : InRound prim s0 s ex) (randomValue : Octets 16) :
    (s.countRound randomValue).outbound = s.outbound ++ ownReply s0 s := by
  unfold countRound
  rw [exchangeNonces_eq hround.holds.keeps.role]

/-- A passkey round whose confirm opens is closed and the next one starts. -/
theorem nextRound_advances (hround : InRound prim s0 s ex) (hmethod : ex.method = .passkey)
    {confirm randomValue : Octets 16} (hopens : Opens prim s0 ex confirm randomValue)
    (hmore : ex.rounds.length + 1 < 20) :
    RoundCloses prim s0 s ex confirm randomValue
      ((s.countRound randomValue).nextRound prim).state := by
  unfold RoundCloses Advances
  let ex' := ex.withRound (closedRound prim s0 s ex confirm randomValue)
  let t := s.countRound randomValue
  let t' := t.freshNonce
  have hkeyX : t'.peerPublicX = some ex'.x := by
    change (s.exchangeNonces randomValue).peerPublicX = _
    rw [exchangeNonces_eq hround.holds.keeps.role]
    exact hround.peerPublicX
  have hdh : t'.dhKey = some ex'.dhKey := by
    change (s.exchangeNonces randomValue).dhKey = _
    rw [exchangeNonces_eq hround.holds.keeps.role]
    exact hround.dhKey
  have hround' : InRound prim s0 t' ex' := by
    refine ⟨?_, hround.accepted.withRound prim _, withRound_checked prim hround.checked hopens,
      hkeyX, hdh, ?_, ?_⟩
    · exact (hround.holds.countRound randomValue).congr
        (.still rfl rfl rfl rfl rfl rfl rfl rfl rfl rfl rfl rfl)
        rfl rfl rfl rfl rfl rfl rfl rfl rfl rfl rfl rfl rfl
    · rw [show t'.passkeyStep = _ from countRound_step prim hround randomValue]
      simp [ex', Exchange.withRound]
    · simp only [ex', Exchange.withRound, List.length_append, List.length_singleton, roundCount,
        hmethod, if_true]
      exact hmore
  have hreceived : ex'.received s0.role = ex.received s0.role ++
      (if checks s0.role ex.method then [.pairingConfirm confirm] else []) ++
      [.pairingRandom randomValue] := withRound_received s0.role _
  have hsent := closedRound_sent prim s0 s ex confirm randomValue
  have houtbound : t'.outbound = s.outbound ++ ownReply s0 s :=
    countRound_outbound prim hround randomValue
  cases hrole : s0.role with
  | initiator =>
    have hresult : (t.nextRound prim).state =
        { t'.push (currentConfirm prim s0 t' ex') with state := .waitPairingConfirm } := by
      have hqueue := queuePasskeyConfirm_eq prim hround'.holds hmethod hround'.peerPublicX
      rw [hround'.step] at hqueue
      unfold nextRound
      rw [show t.role = .initiator from hround'.holds.keeps.role.trans hrole]
      change (Outcome.andThen (t'.queuePasskeyConfirm prim) _).state = _
      rw [hqueue]
      rfl
    rw [hresult]
    refine ⟨ownReply s0 s ++ [currentConfirm prim s0 t' ex'], ?_, ?_⟩
    · rw [← List.append_assoc, ← houtbound]
      rfl
    · refine (Stage.confirming ex' rfl (hround'.queue prim .waitPairingConfirm _ rfl)
        (by simp [checks, hrole])).cast ?_ ?_
      · rw [hreceived, hrole]
      · rw [if_pos ⟨hrole, hmethod⟩, hsent, hrole]
        simp only [List.append_assoc]
        rfl
  | responder =>
    have hresult : (t.nextRound prim).state = { t' with state := .waitPairingConfirm } := by
      unfold nextRound
      rw [show t.role = .responder from hround'.holds.keeps.role.trans hrole]
      rfl
    rw [hresult]
    refine ⟨ownReply s0 s, houtbound, ?_⟩
    refine (Stage.confirming ex' rfl (hround'.goTo prim .waitPairingConfirm) ?_).cast ?_ ?_
    · simp [checks, ex', Exchange.withRound, hmethod]
    · rw [hreceived, hrole]
    · rw [if_neg (by simp [hrole]), hsent, hrole, List.append_nil]

theorem endPasskey_advances (hround : InRound prim s0 s ex) (hmethod : ex.method = .passkey)
    {confirm randomValue : Octets 16} (hopens : Opens prim s0 ex confirm randomValue)
    (hlast : ex.rounds.length + 1 = 20) :
    RoundCloses prim s0 s ex confirm randomValue
      ((s.countRound randomValue).endPasskey prim).state := by
  let ex' := ex.withRound (closedRound prim s0 s ex confirm randomValue)
  let t' : ScPairingSession κ :=
    { s.countRound randomValue with
      keys := some (ex.keys prim s0 s.localNonce randomValue), userConfirmed := true }
  have hresult : (s.countRound randomValue).endPasskey prim = t'.awaitCheck := by
    unfold endPasskey
    rw [show (s.countRound randomValue).deriveKeys prim = _ from
      exchangeNonces_deriveKeys prim hround randomValue _]
    rfl
  have hholds : Holds s0 t' ex' :=
    (hround.holds.countRound randomValue).congr
      (.still rfl rfl rfl rfl rfl rfl rfl rfl rfl rfl rfl rfl)
      rfl rfl rfl rfl rfl rfl rfl rfl rfl rfl rfl rfl rfl
  have hagreed : ex.Consented t'.calls
      (ex.keys prim s0 s.localNonce randomValue).numericCheck := by
    simp [Exchange.Consented, hmethod]
  rw [hresult]
  exact roundCloses_of_awaitCheck prim hround hopens hholds (by simp [roundCount, hmethod, hlast])
    rfl hagreed (countRound_outbound prim hround randomValue)

/-! ### Either way -/

/-- Without a passkey the values of the peer end the exchange of nonces. -/
theorem onPairingRandom_conclude (hround : InRound prim s0 s ex) (hmethod : ex.method ≠ .passkey)
    {confirm randomValue : Octets 16}
    (hconfirm : checks s0.role ex.method = true → s.peerConfirm = some confirm)
    (hopens : Opens prim s0 ex confirm randomValue) :
    s.onPairingRandom prim randomValue = (s.exchangeNonces randomValue).conclude prim := by
  have hselected : ¬ s.method = some .passkey := by
    rw [hround.holds.method]
    simpa using hmethod
  unfold onPairingRandom
  rw [if_neg hselected, hround.holds.keeps.role]
  cases hrole : s0.role with
  | initiator =>
    have hchecks : checks s0.role ex.method = true := by simp [checks, hrole]
    have hvalue : s.peerConfirm =
        some (confirmValue prim ex.x (s.publicXLe prim) randomValue) := by
      rw [hconfirm hchecks, hopens hchecks, hround.holds.keeps.publicXLe]
      simp [Exchange.peerCommitment, Exchange.z, hmethod, confirmValue]
    rw [hround.peerPublicX]
    dsimp only
    rw [if_neg (not_not.mpr hvalue)]
  | responder => rfl

theorem onPairingRandom_accepts (hround : InRound prim s0 s ex) {confirm randomValue : Octets 16}
    (hconfirm : checks s0.role ex.method = true → s.peerConfirm = some confirm)
    (hopens : Opens prim s0 ex confirm randomValue)
    (hanswer : (s.userAnswer (ex.keys prim s0 s.localNonce randomValue) ex.method).1 = true) :
    RoundCloses prim s0 s ex confirm randomValue (s.onPairingRandom prim randomValue).state := by
  by_cases hmethod : ex.method = .passkey
  · have hchecks : checks s0.role ex.method = true := by simp [checks, hmethod]
    unfold onPairingRandom
    rw [if_pos (hround.holds.method.trans (congrArg some hmethod)),
      onPasskeyRandom_eq prim hround hmethod (hconfirm hchecks),
      if_neg (not_not.mpr (hopens hchecks)), countRound_step prim hround]
    by_cases hmore : ex.rounds.length + 1 < 20
    · rw [if_pos hmore]
      exact nextRound_advances prim hround hmethod hopens hmore
    · rw [if_neg hmore]
      have hlast : ex.rounds.length + 1 = 20 := by
        have := hround.more
        simp only [roundCount, hmethod, if_true] at this
        omega
      exact endPasskey_advances prim hround hmethod hopens hlast
  · rw [onPairingRandom_conclude prim hround hmethod hconfirm hopens]
    exact conclude_accepts prim hround hmethod hopens hanswer

theorem onPairingRandom_cases (hround : InRound prim s0 s ex) {confirm : Octets 16}
    (hconfirm : checks s0.role ex.method = true → s.peerConfirm = some confirm)
    (randomValue : Octets 16) :
    RoundCloses prim s0 s ex confirm randomValue (s.onPairingRandom prim randomValue).state ∨
      (s.onPairingRandom prim randomValue).state.state = .failed := by
  by_cases hopens : Opens prim s0 ex confirm randomValue
  · cases hanswer : (s.userAnswer (ex.keys prim s0 s.localNonce randomValue) ex.method).1 with
    | true => exact .inl (onPairingRandom_accepts prim hround hconfirm hopens hanswer)
    | false =>
      right
      have hmethod : ex.method ≠ .passkey := by
        intro hmethod
        rw [hmethod] at hanswer
        cases hanswer
      rw [onPairingRandom_conclude prim hround hmethod hconfirm hopens]
      exact conclude_rejects prim hround hanswer
  · right
    obtain ⟨hchecks, hwrong⟩ := Classical.not_imp.mp hopens
    unfold onPairingRandom
    by_cases hmethod : ex.method = .passkey
    · rw [if_pos (hround.holds.method.trans (congrArg some hmethod)),
        onPasskeyRandom_eq prim hround hmethod (hconfirm hchecks), if_pos hwrong]
      simp
    · have hrole : s0.role = .initiator := by simpa [checks, hmethod] using hchecks
      have hselected : ¬ s.method = some .passkey := by
        rw [hround.holds.method]
        simpa using hmethod
      have hvalue : s.peerConfirm ≠
          some (confirmValue prim ex.x (s.publicXLe prim) randomValue) := by
        rw [hconfirm hchecks, hround.holds.keeps.publicXLe]
        intro hsame
        apply hwrong
        simpa [Exchange.peerCommitment, Exchange.z, hmethod, confirmValue] using hsame
      rw [if_neg hselected, hround.holds.keeps.role, hrole, hround.peerPublicX]
      dsimp only
      rw [if_pos hvalue]
      simp

/-! ## 5. The DHKey check -/

def ownCheck (role : PairingRole) (keys : ScKeys) : Octets 16 :=
  match role with
  | .initiator => keys.ea
  | .responder => keys.eb

def Exchange.outcome (ex : Exchange) (s0 : ScPairingSession κ) (keys : ScKeys) :
    ScPairingOutcome where
  macKey := keys.macKey
  ltk := truncateKey keys.ltk (s0.agreedSize (ex.peer s0.role))
  numericCheck := keys.numericCheck
  method := ex.method
  authenticated := ex.method ≠ .justWorks
  bonding := s0.config.bonding && AuthReq.contains ⟨(ex.peer s0.role).authReq⟩ .bonding
  ct2 := s0.config.ct2 && AuthReq.contains ⟨(ex.peer s0.role).authReq⟩ .ct2
  maximumEncryptionKeySize := s0.agreedSize (ex.peer s0.role)
  initiatorKeyDistribution := s0.agreedInitiatorKeys (ex.peer s0.role)
  responderKeyDistribution := s0.agreedResponderKeys (ex.peer s0.role)

theorem finish_eq {keys : ScKeys} (hholds : Holds s0 s ex) (hkeys : s.keys = some keys) :
    s.finish = .ok { s with
      outcome := some (ex.outcome s0 keys)
      state := .waitEncryption } () := by
  unfold finish
  rw [hkeys, hholds.method]
  simp only [hholds.terms.size, hholds.terms.bonding, hholds.terms.ct2,
    hholds.terms.initiatorKeys, hholds.terms.responderKeys]
  rfl

theorem onDhkeyCheck_accepts {keys : ScKeys} (hholds : Holds s0 s ex) (hkeys : s.keys = some keys) :
    (s.onDhkeyCheck (expectedCheck s0.role keys)).state =
      { s with
        outbound := s.outbound ++
          if s0.role = .responder then [.pairingDhKeyCheck keys.eb] else []
        outcome := some (ex.outcome s0 keys)
        state := .waitEncryption } := by
  have hexpected : ¬ expectedCheck s0.role keys ≠ expectedCheck s.role keys := by
    rw [hholds.keeps.role]
    simp
  have hcheck : s.onDhkeyCheck (expectedCheck s0.role keys) =
      if s.role = .responder then (s.push (.pairingDhKeyCheck keys.eb)).finish else s.finish := by
    unfold onDhkeyCheck
    rw [hkeys]
    dsimp only
    rw [if_neg hexpected]
  rw [hcheck]
  cases hrole : s0.role with
  | initiator =>
    have hturn : ¬ s.role = .responder := by simp [hholds.keeps.role, hrole]
    rw [if_neg hturn, finish_eq hholds hkeys]
    simp
  | responder =>
    have hfinish : (s.push (.pairingDhKeyCheck keys.eb)).finish = _ :=
      finish_eq (hholds.queue s.state (.pairingDhKeyCheck keys.eb) rfl) hkeys
    rw [if_pos (hholds.keeps.role.trans hrole), hfinish]
    rfl

theorem onDhkeyCheck_rejects {keys : ScKeys} (hholds : Holds s0 s ex) (hkeys : s.keys = some keys)
    {check : Octets 16} (hcheck : check ≠ expectedCheck s0.role keys) :
    (s.onDhkeyCheck check).state = s.fail .dhKeyCheckFailed := by
  unfold onDhkeyCheck
  rw [hkeys]
  dsimp only
  rw [if_pos (hholds.keeps.role.symm ▸ hcheck)]
  rfl

end Bumble.Smp.ScPairingSession
