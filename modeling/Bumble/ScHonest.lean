import Bumble.ScAgreement

/-!
# Honest pairings

Two sessions of opposite roles, joined by links that lose nothing, with users who
accept and enter the displayed passkey.  As long as neither side has failed, each
is at a stage of its transcript or done, and what one side has said fixes the next
PDU the other side hears.  So every PDU is taken up, unless the configurations do
not fit: foreign flags in the initiator's key distribution, one key pair on both
sides, or out-of-band data on one side only.
-/

namespace Bumble.Smp.ScPairingSession

variable {κ : Type} {s t s0 t0 : ScPairingSession κ} (prim : Primitives κ) {ex ex' : Exchange}

/-! ## 1. The rounds as they are spoken -/

/-- The rounds of one direction: each a commitment, where there is one, and the
    value it opens to. -/
def beats (commits : Bool) (pairs : List (Octets 16 × Octets 16)) : List SmpPdu :=
  pairs.flatMap fun pair =>
    (if commits then [.pairingConfirm pair.1] else []) ++ [.pairingRandom pair.2]

theorem beats_cons (b : Bool) (pair : Octets 16 × Octets 16)
    (pairs : List (Octets 16 × Octets 16)) :
    beats b (pair :: pairs) =
      (if b then [.pairingConfirm pair.1] else []) ++ .pairingRandom pair.2 :: beats b pairs := by
  simp [beats]

theorem beats_concat (b : Bool) (pairs : List (Octets 16 × Octets 16))
    (pair : Octets 16 × Octets 16) :
    beats b (pairs ++ [pair]) = beats b pairs ++
      ((if b then [.pairingConfirm pair.1] else []) ++ [.pairingRandom pair.2]) := by
  simp [beats]

theorem beats_length (b : Bool) (pairs : List (Octets 16 × Octets 16)) :
    (beats b pairs).length = pairs.length * if b then 2 else 1 := by
  induction pairs with
  | nil => simp [beats]
  | cons pair pairs ih =>
    rw [beats_cons]
    cases b <;> simp [ih, Nat.add_mul]

inductive Tail (b : Bool) (count : Nat) (pairs : List (Octets 16 × Octets 16)) :
    List SmpPdu → Prop where
  | none : Tail b count pairs []
  | confirm (value : Octets 16) (hcommits : b = true) (hmore : pairs.length < count) :
      Tail b count pairs [.pairingConfirm value]
  | check (value : Octets 16) (hcount : pairs.length = count) :
      Tail b count pairs [.pairingDhKeyCheck value]

section Lockstep

variable {b : Bool} {count : Nat} {heard said : List (Octets 16 × Octets 16)}
  {tail rest : List SmpPdu} {pdu : SmpPdu}

theorem Tail.length_le (htail : Tail b count said tail) : tail.length ≤ 1 := by
  cases htail <;> simp

theorem heard_said (hbegins : beats b heard ++ rest <+: beats b said ++ tail)
    (hlength : heard.length ≤ said.length) :
    rest <+: beats b (said.drop heard.length) ++ tail := by
  induction heard generalizing said with
  | nil => exact hbegins
  | cons pair heard ih =>
    cases said with
    | nil => cases hlength
    | cons pair' said =>
      apply ih
      · rw [beats_cons, beats_cons] at hbegins
        cases b with
        | true =>
          simp only [if_true, List.cons_append, List.nil_append, List.cons_prefix_cons]
            at hbegins
          exact hbegins.2.2
        | false =>
          simp only [Bool.false_eq_true, if_false, List.nil_append, List.cons_append,
            List.cons_prefix_cons] at hbegins
          exact hbegins.2
      · exact Nat.le_of_succ_le_succ hlength

theorem heard_length (hbegins : beats b heard ++ rest <+: beats b said ++ tail)
    (hrest : rest ≠ []) (htail : tail.length ≤ 1) : heard.length ≤ said.length := by
  have hlength := hbegins.length_le
  simp only [List.length_append, beats_length] at hlength
  have hsome : 0 < rest.length := List.length_pos_iff.mpr hrest
  cases b with
  | true => simp only [if_true] at hlength; omega
  | false => simp only [Bool.false_eq_true, if_false] at hlength; omega

theorem next_confirm (hbegins : beats true heard ++ [pdu] <+: beats true said ++ tail)
    (htail : Tail true count said tail) (hmore : heard.length < count) :
    ∃ value, pdu = .pairingConfirm value := by
  have hlength := heard_length hbegins (by simp) htail.length_le
  have hrest := heard_said hbegins hlength
  cases hdrop : said.drop heard.length with
  | cons pair pairs =>
    rw [hdrop, beats_cons] at hrest
    simp only [if_true, List.cons_append, List.nil_append, List.cons_prefix_cons] at hrest
    exact ⟨pair.1, hrest.1⟩
  | nil =>
    rw [hdrop] at hrest
    have hall : said.length ≤ heard.length := List.drop_eq_nil_iff.mp hdrop
    cases htail with
    | none => simp [beats] at hrest
    | confirm value _ _ =>
      simp only [beats, List.flatMap_nil, List.nil_append, List.cons_prefix_cons] at hrest
      exact ⟨value, hrest.1⟩
    | check value hcount => omega

theorem next_random {value : Octets 16}
    (hbegins : beats b heard ++ ((if b then [.pairingConfirm value] else []) ++ [pdu]) <+:
      beats b said ++ tail) (htail : Tail b count said tail) (hmore : heard.length < count) :
    ∃ pair, said[heard.length]? = some pair ∧ pdu = .pairingRandom pair.2 ∧
      (b = true → value = pair.1) := by
  have hlength := heard_length hbegins (by simp) htail.length_le
  have hrest := heard_said hbegins hlength
  cases hdrop : said.drop heard.length with
  | cons pair pairs =>
    have hpair : said[heard.length]? = some pair := by
      rw [← List.head?_drop, hdrop]
      rfl
    rw [hdrop, beats_cons] at hrest
    cases b with
    | true =>
      simp only [if_true, List.cons_append, List.nil_append, List.cons_prefix_cons,
        SmpPdu.pairingConfirm.injEq] at hrest
      exact ⟨pair, hpair, hrest.2.1, fun _ => hrest.1⟩
    | false =>
      simp only [Bool.false_eq_true, if_false, List.nil_append, List.cons_append,
        List.cons_prefix_cons] at hrest
      exact ⟨pair, hpair, hrest.1, by simp⟩
  | nil =>
    rw [hdrop] at hrest
    have hall : said.length ≤ heard.length := List.drop_eq_nil_iff.mp hdrop
    cases htail with
    | none => cases b <;> simp [beats] at hrest
    | confirm other hcommits _ =>
      subst hcommits
      simp [beats] at hrest
    | check other hcount => omega

theorem next_check (hbegins : beats b heard ++ [pdu] <+: beats b said ++ tail)
    (htail : Tail b count said tail) (hheard : heard.length = count)
    (hsaid : said.length ≤ count) : ∃ value, pdu = .pairingDhKeyCheck value ∧ tail = [pdu] := by
  have hlength := heard_length hbegins (by simp) htail.length_le
  have hrest := heard_said hbegins hlength
  have hdrop : said.drop heard.length = [] := List.drop_eq_nil_iff.mpr (by omega)
  rw [hdrop] at hrest
  cases htail with
  | none => simp [beats] at hrest
  | confirm value _ hmore => omega
  | check value _ =>
    simp only [beats, List.flatMap_nil, List.nil_append, List.cons_prefix_cons] at hrest
    exact ⟨value, hrest.1, by rw [hrest.1]⟩

end Lockstep

/-! ## 2. Sides that have not failed -/

/-- The session has verified everything and waits for encryption. -/
def Done (s0 s : ScPairingSession κ) (received queued : List SmpPdu) : Prop :=
  s.state = .waitEncryption ∧ ∃ (ex : Exchange) (last : Round),
    ex.Settled s0 s.calls ∧ ex.KeyAccepted prim s0 ∧
    ex.RoundsChecked prim s0 ∧ ex.rounds.length = roundCount ex.method ∧
    ex.rounds.getLast? = some last ∧
    received = ex.received s0.role ++ [.pairingDhKeyCheck
      (expectedCheck s0.role (ex.keys prim s0 last.ownNonce last.peerNonce))] ∧
    queued = ex.sent prim s0 ++ [.pairingDhKeyCheck
      (ownCheck s0.role (ex.keys prim s0 last.ownNonce last.peerNonce))]

/-- A side that is at a stage of its transcript or done. -/
def Sound (s0 s : ScPairingSession κ) (received queued : List SmpPdu) : Prop :=
  Stage prim s0 s received queued ∨ Done prim s0 s received queued

/-- The commitments and values of the rounds, as they are sent. -/
def Exchange.ownPairs (ex : Exchange) : List (Octets 16 × Octets 16) :=
  ex.rounds.map fun round => (round.ownConfirm, round.ownNonce)

/-- The commitments and values of the rounds, as they are received. -/
def Exchange.peerPairs (ex : Exchange) : List (Octets 16 × Octets 16) :=
  ex.rounds.map fun round => (round.peerConfirm, round.peerNonce)

theorem sent_beats (s0 : ScPairingSession κ) (ex : Exchange) :
    ex.sent prim s0 = ex.ownFeaturesPdu s0.role :: s0.publicKeyPdu prim ::
      beats (commits s0.role ex.method) ex.ownPairs := by
  simp [Exchange.sent, Exchange.sentRounds, beats, Exchange.ownPairs, List.flatMap_map]

theorem received_beats (role : PairingRole) (ex : Exchange) :
    ex.received role = ex.peerFeaturesPdu role :: .pairingPublicKey ex.x ex.y ::
      beats (checks role ex.method) ex.peerPairs := by
  simp [Exchange.received, Exchange.receivedRounds, beats, Exchange.peerPairs, List.flatMap_map]

/-- What a side that knows the peer's key has said so far. -/
structure Speaks (t0 : ScPairingSession κ) (ex : Exchange) (received queued : List SmpPdu) :
    Prop where
  heard : [ex.peerFeaturesPdu t0.role, .pairingPublicKey ex.x ex.y] <+: received
  said : ∃ pairs tail, queued = ex.ownFeaturesPdu t0.role :: t0.publicKeyPdu prim ::
      (beats (commits t0.role ex.method) pairs ++ tail) ∧
    (∀ index pair, pairs[index]? = some pair → commits t0.role ex.method = true →
      pair.1 = ex.ownCommitment prim (t0.publicXLe prim) index pair.2) ∧
    pairs.length ≤ roundCount ex.method ∧
    Tail (commits t0.role ex.method) (roundCount ex.method) pairs tail
  checked : ∀ value, .pairingDhKeyCheck value ∈ queued → ∃ last,
    ex.KeyAccepted prim t0 ∧ ex.rounds.length = roundCount ex.method ∧
    ex.rounds.getLast? = some last ∧ ex.received t0.role <+: received ∧
    ex.sent prim t0 <+: queued ∧
    value = ownCheck t0.role (ex.keys prim t0 last.ownNonce last.peerNonce)

inductive View (t0 : ScPairingSession κ) (calls : List DelegateCall)
    (received queued : List SmpPdu) :
    Prop where
  | silent (hreceived : received = []) (hqueued : queued = [])
  | asks (hrole : t0.role = .initiator) (hreceived : received = [])
      (hqueued : queued = [.pairingRequest t0.localFeatures])
  | negotiates (ex : Exchange) (hsettled : ex.Settled t0 calls)
      (hreceived : received = [ex.peerFeaturesPdu t0.role])
      (hqueued : queued = ex.ownFeaturesPdu t0.role ::
        if t0.role = .initiator then [t0.publicKeyPdu prim] else [])
  | speaks (ex : Exchange) (hsettled : ex.Settled t0 calls)
      (hspeaks : Speaks prim t0 ex received queued)

theorem ownPairs_checked (hchecked : ex.RoundsChecked prim t0) {index : Nat}
    {pair : Octets 16 × Octets 16} (hpair : ex.ownPairs[index]? = some pair)
    (hcommits : commits t0.role ex.method = true) :
    pair.1 = ex.ownCommitment prim (t0.publicXLe prim) index pair.2 := by
  simp only [Exchange.ownPairs, List.getElem?_map, Option.map_eq_some_iff] at hpair
  obtain ⟨round, hround, rfl⟩ := hpair
  exact (hchecked index round hround).2 hcommits

theorem not_check_beats (b : Bool) (pairs : List (Octets 16 × Octets 16)) (value : Octets 16) :
    SmpPdu.pairingDhKeyCheck value ∉ beats b pairs := by
  intro hmem
  obtain ⟨pair, -, hpair⟩ := List.mem_flatMap.mp hmem
  cases b <;> simp at hpair

theorem not_check_sent (t0 : ScPairingSession κ) (ex : Exchange) (value : Octets 16) :
    SmpPdu.pairingDhKeyCheck value ∉ ex.sent prim t0 := by
  rw [sent_beats]
  intro hmem
  have hown : SmpPdu.pairingDhKeyCheck value ≠ ex.ownFeaturesPdu t0.role := by
    cases t0.role <;> simp [Exchange.ownFeaturesPdu]
  rcases List.mem_cons.mp hmem with hmem | hmem
  · exact hown hmem
  · rcases List.mem_cons.mp hmem with hmem | hmem
    · simp [publicKeyPdu] at hmem
    · exact not_check_beats _ _ _ hmem

theorem received_heard (role : PairingRole) (ex : Exchange) (rest : List SmpPdu) :
    [ex.peerFeaturesPdu role, .pairingPublicKey ex.x ex.y] <+: ex.received role ++ rest := by
  rw [received_beats]
  exact ⟨_, rfl⟩

theorem speaks_inRound (hround : InRound prim t0 t ex) (rest : List SmpPdu)
    (pairs : List (Octets 16 × Octets 16)) {tail : List SmpPdu}
    (hpairs : ∀ index pair, pairs[index]? = some pair → commits t0.role ex.method = true →
      pair.1 = ex.ownCommitment prim (t0.publicXLe prim) index pair.2)
    (hlength : pairs.length ≤ roundCount ex.method)
    (htail : Tail (commits t0.role ex.method) (roundCount ex.method) pairs tail)
    (hcheck : ∀ value, SmpPdu.pairingDhKeyCheck value ∉ tail) :
    View prim t0 t.calls (ex.received t0.role ++ rest)
      (ex.ownFeaturesPdu t0.role :: t0.publicKeyPdu prim ::
        (beats (commits t0.role ex.method) pairs ++ tail)) := by
  refine .speaks ex hround.holds.settled ⟨received_heard _ _ _, ⟨pairs, tail, rfl, hpairs,
    hlength, htail⟩, ?_⟩
  intro value hmem
  exfalso
  rcases List.mem_cons.mp hmem with hmem | hmem
  · cases hrole : t0.role <;> simp [Exchange.ownFeaturesPdu, hrole] at hmem
  · rcases List.mem_cons.mp hmem with hmem | hmem
    · simp [publicKeyPdu] at hmem
    · rcases List.mem_append.mp hmem with hmem | hmem
      · exact not_check_beats _ _ _ hmem
      · exact hcheck value hmem

/-- **What a sound side has said.** -/
theorem Sound.view {received queued : List SmpPdu} (hsound : Sound prim t0 t received queued) :
    View prim t0 t.calls received queued := by
  rcases hsound with hstage | ⟨-, ex, last, hsettled, haccepted, hchecked, hcount, hlast,
    hreceived, hqueued⟩
  · cases hstage with
    | idle hs => exact .silent rfl rfl
    | requested hrole hs => exact .asks hrole rfl rfl
    | negotiated ex hstate hholds hrounds hstep =>
      exact .negotiates ex hholds.settled rfl rfl
    | confirming ex hstate hround hchecks =>
      have hlength : ex.ownPairs.length < roundCount ex.method := by
        simpa [Exchange.ownPairs] using hround.more
      have hpairs : ∀ index pair, ex.ownPairs[index]? = some pair →
          commits t0.role ex.method = true →
          pair.1 = ex.ownCommitment prim (t0.publicXLe prim) index pair.2 :=
        fun _ _ => ownPairs_checked prim hround.checked
      rw [sent_beats]
      by_cases hturn : t0.role = .initiator ∧ ex.method = .passkey
      · rw [if_pos hturn]
        have hcommits : commits t0.role ex.method = true := by simp [commits, hturn.2]
        have hview := speaks_inRound prim hround [] ex.ownPairs hpairs hlength.le
          (.confirm (ex.ownCommitment prim (t0.publicXLe prim) ex.rounds.length t.localNonce)
            hcommits hlength) (by simp)
        rw [List.append_nil] at hview
        exact hview
      · rw [if_neg hturn]
        have hview := speaks_inRound prim hround [] ex.ownPairs hpairs hlength.le .none (by simp)
        rw [List.append_nil] at hview
        exact hview
    | committed ex confirm hstate hround hconfirm =>
      have hlength : ex.ownPairs.length < roundCount ex.method := by
        simpa [Exchange.ownPairs] using hround.more
      have hpairs : ∀ index pair, ex.ownPairs[index]? = some pair →
          commits t0.role ex.method = true →
          pair.1 = ex.ownCommitment prim (t0.publicXLe prim) index pair.2 :=
        fun _ _ => ownPairs_checked prim hround.checked
      rw [sent_beats]
      by_cases hrole : t0.role = .initiator
      · rw [if_pos hrole]
        -- the current round is complete on this side
        let pair : Octets 16 × Octets 16 :=
          (ex.ownCommitment prim (t0.publicXLe prim) ex.rounds.length t.localNonce, t.localNonce)
        have hview := speaks_inRound prim hround
          (if checks t0.role ex.method then [.pairingConfirm confirm] else [])
          (ex.ownPairs ++ [pair]) ?_ ?_ .none (by simp)
        · rw [beats_concat] at hview
          simp only [List.cons_append, List.append_assoc, List.append_nil] at hview ⊢
          exact hview
        · intro index other hother hcommits
          by_cases hindex : index < ex.ownPairs.length
          · rw [List.getElem?_append_left hindex] at hother
            exact hpairs index other hother hcommits
          · have hbound := (List.getElem?_eq_some_iff.mp hother).1
            have hlast : index = ex.ownPairs.length := by
              simp only [List.length_append, List.length_singleton] at hbound
              omega
            subst hlast
            rw [List.getElem?_concat_length] at hother
            cases hother
            simp [Exchange.ownPairs, pair]
        · simpa using hlength
      · rw [if_neg hrole]
        have hresponder : t0.role = .responder := by
          cases hcase : t0.role with
          | initiator => exact absurd hcase hrole
          | responder => rfl
        have hcommits : commits t0.role ex.method = true := by simp [commits, hresponder]
        have hview := speaks_inRound prim hround
          (if checks t0.role ex.method then [.pairingConfirm confirm] else []) ex.ownPairs hpairs
          hlength.le (.confirm
            (ex.ownCommitment prim (t0.publicXLe prim) ex.rounds.length t.localNonce)
            hcommits hlength) (by simp)
        rw [if_pos hcommits, List.append_nil]
        exact hview
    | derived ex last hstate hholds haccepted hchecked hcount hlast hkeys hconsented =>
      have hlength : ex.ownPairs.length = roundCount ex.method := by
        simpa [Exchange.ownPairs] using hcount
      refine .speaks ex hholds.settled ⟨?_, ⟨ex.ownPairs, if t0.role = .initiator then
        [.pairingDhKeyCheck (ex.keys prim t0 last.ownNonce last.peerNonce).ea] else [], ?_,
        fun _ _ => ownPairs_checked prim hchecked, hlength.le, ?_⟩, ?_⟩
      · simpa using received_heard t0.role ex []
      · rw [sent_beats]
        rfl
      · split
        · exact .check _ hlength
        · exact .none
      · intro value hmem
        refine ⟨last, haccepted, hcount, hlast, List.prefix_rfl, List.prefix_append _ _, ?_⟩
        rcases List.mem_append.mp hmem with hmem | hmem
        · exact absurd hmem (not_check_sent prim t0 ex value)
        · split at hmem
          · next hrole => simpa [ownCheck, hrole] using hmem
          · cases hmem
  · have hlength : ex.ownPairs.length = roundCount ex.method := by
      simpa [Exchange.ownPairs] using hcount
    rw [hreceived, hqueued]
    refine .speaks ex hsettled ⟨received_heard _ _ _, ⟨ex.ownPairs, [.pairingDhKeyCheck
      (ownCheck t0.role (ex.keys prim t0 last.ownNonce last.peerNonce))], ?_, fun _ _ =>
      ownPairs_checked prim hchecked, hlength.le, .check _ hlength⟩, ?_⟩
    · rw [sent_beats]
      rfl
    · intro value hmem
      refine ⟨last, haccepted, hcount, hlast, List.prefix_append _ _, List.prefix_append _ _, ?_⟩
      rcases List.mem_append.mp hmem with hmem | hmem
      · exact absurd hmem (not_check_sent prim t0 ex value)
      · simpa using hmem

/-! ## 3. Peers -/

/-- Two sides that fit: what the one says, the other can take up. -/
structure Peers (s0 t0 : ScPairingSession κ) : Prop where
  fresh : Fresh s0
  opposite : s0.role ≠ t0.role
  notOwn : ¬ (t0.publicXLe prim = s0.publicXLe prim ∧ t0.publicYLe prim = s0.publicYLe prim)
  onCurve : ∃ dhKey : Octets 32, prim.dh s0.eccKey (t0.publicXLe prim).reverse
    (t0.publicYLe prim).reverse = some dhKey.reverse
  outOfBand : ∀ data, s0.config.peerData = some data → ∃ r, toArray16 data.r = some r ∧
    data.c = (confirmValueWithZ prim (t0.publicXLe prim) (t0.publicXLe prim) r 0).toList
  agrees : ∀ calls auto, s0.delegate.confirm calls auto = true
  compares : ∀ calls number digits, s0.delegate.compareNumbers calls number digits = true
  /-- A responder can answer the peer's request. -/
  request : s0.role = .responder → s0.delegate.accept [] = true ∧ s0.Acceptable t0.localFeatures ∧
    ∃ choice, s0.choose [.accept true] (s0.selection t0.localFeatures (s0.answer t0.localFeatures)
      t0.config.capabilities.ioCapability s0.config.capabilities.ioCapability) = some choice
  /-- An initiator can take up the peer's response. -/
  response : s0.role = .initiator → s0.Acceptable (t0.answer s0.localFeatures) ∧
    ∃ choice, s0.choose [] (s0.selection s0.localFeatures (t0.answer s0.localFeatures)
      s0.config.capabilities.ioCapability t0.config.capabilities.ioCapability) = some choice
  /-- The same features lead both sides to the same method and passkey. -/
  same : ∀ ex ex' calls calls', Exchange.Settled ex s0 calls → Exchange.Settled ex' t0 calls' →
    ex.request = ex'.request → ex.response = ex'.response →
    ex.method = ex'.method ∧ (ex.method = .passkey → ex.passkey = ex'.passkey)
  /-- The DHKey check that is expected is the one that is sent. -/
  check : ∀ ex ex' last last' calls calls' whole whole', Exchange.Settled ex s0 calls →
    Exchange.Settled ex' t0 calls' → ex.KeyAccepted prim s0 → ex'.KeyAccepted prim t0 →
    ex.rounds.length = roundCount ex.method → ex'.rounds.length = roundCount ex'.method →
    ex.rounds.getLast? = some last → ex'.rounds.getLast? = some last' →
    ex.received s0.role <+: whole' → ex'.sent prim t0 <+: whole' →
    ex'.received t0.role <+: whole → ex.sent prim s0 <+: whole →
    ownCheck t0.role (ex'.keys prim t0 last'.ownNonce last'.peerNonce) =
      expectedCheck s0.role (ex.keys prim s0 last.ownNonce last.peerNonce)

/-- What a side does with the next PDU: it goes on and stays sound. -/
def Takes (s0 s : ScPairingSession κ) (received queued : List SmpPdu) (pdu : SmpPdu) : Prop :=
  ∃ pdus, (s.process prim pdu).state.outbound = s.outbound ++ pdus ∧
    Sound prim s0 (s.process prim pdu).state (received ++ [pdu]) (queued ++ pdus)

section Hearing

variable {prim} {received queued received' queued' : List SmpPdu} {calls' : List DelegateCall}
  {pdu : SmpPdu}

theorem commits_of_opposite (hopposite : s0.role ≠ t0.role) (method : PairingMethod) :
    commits t0.role method = checks s0.role method := by
  cases hs : s0.role <;> cases ht : t0.role <;> simp_all [commits, checks]

theorem process_eq_handle (hfailed : s.state ≠ .failed) (hkeys : s.state ≠ .keyDistribution)
    (hreason : ∀ reason, pdu ≠ .pairingFailed reason) (hkey : pdu.isKeyDistributionPdu = false) :
    s.process prim pdu = s.handle prim pdu := by
  unfold process
  rw [if_neg hfailed]
  split
  · next reason => exact absurd rfl (hreason reason)
  · rw [if_neg hkeys, if_neg (by simp [hkey])]

theorem hears_key (hpeers : Peers prim s0 t0) (hstate : s.state = .waitPublicKey)
    (hholds : Holds s0 s ex) (hrounds : ex.rounds = []) (hstep : s.passkeyStep = 0) :
    Takes prim s0 s [ex.peerFeaturesPdu s0.role]
      ([ex.ownFeaturesPdu s0.role] ++ if s0.role = .initiator then [s0.publicKeyPdu prim] else [])
      (t0.publicKeyPdu prim) := by
  obtain ⟨dhKey, hdh⟩ := hpeers.onCurve
  have haccepted : (ex.withKey (t0.publicXLe prim) (t0.publicYLe prim) dhKey).KeyAccepted prim s0 :=
    ⟨hpeers.notOwn, hdh, fun _ => hpeers.outOfBand⟩
  obtain ⟨pdus, hqueue, hstage⟩ := onPublicKey_accepts prim hholds hrounds hstep haccepted
  have hprocess : s.process prim (t0.publicKeyPdu prim) =
      s.onPublicKey prim (t0.publicXLe prim) (t0.publicYLe prim) := by
    rw [process_eq_handle (by simp [hstate]) (by simp [hstate])
      (by simp [publicKeyPdu]) rfl]
    unfold handle publicKeyPdu
    rw [hstate]
    cases s.role <;> rfl
  refine ⟨pdus, ?_, .inl ?_⟩
  · rw [hprocess]; exact hqueue
  · rw [hprocess]; exact hstage

theorem hears_confirm (hstate : s.state = .waitPairingConfirm) (hround : InRound prim s0 s ex)
    (hchecks : checks s0.role ex.method = true) (value : Octets 16) :
    Takes prim s0 s (ex.received s0.role)
      (ex.sent prim s0 ++
        if s0.role = .initiator ∧ ex.method = .passkey then [currentConfirm prim s0 s ex] else [])
      (.pairingConfirm value) := by
  obtain ⟨pdus, hqueue, hstage⟩ := onPairingConfirm_accepts prim hround hchecks value
  have hprocess : s.process prim (.pairingConfirm value) = s.onPairingConfirm prim value := by
    rw [process_eq_handle (by simp [hstate]) (by simp [hstate]) (by simp) rfl]
    unfold handle
    rw [hstate]
    cases s.role <;> rfl
  refine ⟨pdus, ?_, .inl ?_⟩
  · rw [hprocess]; exact hqueue
  · rw [hprocess]; exact hstage

theorem Peers.answers (hpeers : Peers prim s0 t0) (hholds : Holds s0 s ex) (keys : ScKeys) :
    (s.userAnswer keys ex.method).1 = true := by
  have hne := hholds.settled.method_ne
  unfold userAnswer
  rw [hholds.keeps.delegate]
  cases hmethod : ex.method with
  | justWorks => exact hpeers.agrees _ _
  | numericComparison => exact hpeers.compares _ _ _
  | oob => rfl
  | passkey => rfl
  | ctkdOverClassic => exact absurd hmethod hne

theorem hears_random (hpeers : Peers prim s0 t0) (hstate : s.state = .waitPairingRandom)
    (hround : InRound prim s0 s ex) {confirm : Octets 16}
    (hconfirm : checks s0.role ex.method = true → s.peerConfirm = some confirm)
    {value : Octets 16} (hopens : Opens prim s0 ex confirm value) :
    Takes prim s0 s
      (ex.received s0.role ++ if checks s0.role ex.method then [.pairingConfirm confirm] else [])
      (ex.sent prim s0 ++
        (if commits s0.role ex.method then [currentConfirm prim s0 s ex] else []) ++
        if s0.role = .initiator then [.pairingRandom s.localNonce] else [])
      (.pairingRandom value) := by
  obtain ⟨pdus, hqueue, hstage⟩ := onPairingRandom_accepts prim hround hconfirm hopens
    (hpeers.answers hround.holds _)
  have hprocess : s.process prim (.pairingRandom value) = s.onPairingRandom prim value := by
    rw [process_eq_handle (by simp [hstate]) (by simp [hstate]) (by simp) rfl]
    unfold handle
    rw [hstate]
    cases s.role <;> rfl
  refine ⟨pdus, ?_, .inl ?_⟩
  · rw [hprocess]; exact hqueue
  · rw [hprocess]; exact hstage

theorem hears_check (hstate : s.state = .waitDhKeyCheck) (hholds : Holds s0 s ex) {last : Round}
    (haccepted : ex.KeyAccepted prim s0) (hchecked : ex.RoundsChecked prim s0)
    (hcount : ex.rounds.length = roundCount ex.method) (hlast : ex.rounds.getLast? = some last)
    (hkeys : s.keys = some (ex.keys prim s0 last.ownNonce last.peerNonce)) :
    Takes prim s0 s (ex.received s0.role)
      (ex.sent prim s0 ++ if s0.role = .initiator then
        [.pairingDhKeyCheck (ex.keys prim s0 last.ownNonce last.peerNonce).ea] else [])
      (.pairingDhKeyCheck
        (expectedCheck s0.role (ex.keys prim s0 last.ownNonce last.peerNonce))) := by
  generalize hvalue : ex.keys prim s0 last.ownNonce last.peerNonce = keys at hkeys
  have hprocess : s.process prim (.pairingDhKeyCheck (expectedCheck s0.role keys)) =
      s.onDhkeyCheck (expectedCheck s0.role keys) := by
    rw [process_eq_handle (by simp [hstate]) (by simp [hstate]) (by simp) rfl]
    unfold handle
    rw [hstate]
    cases s.role <;> rfl
  have hresult := onDhkeyCheck_accepts hholds hkeys
  refine ⟨if s0.role = .responder then [.pairingDhKeyCheck keys.eb] else [], ?_, .inr ?_⟩
  · rw [hprocess, hresult]
  · rw [hprocess, hresult]
    refine ⟨rfl, ex, last, hholds.settled, haccepted, hchecked, hcount, hlast, ?_, ?_⟩
    · rw [hvalue]
    · rw [hvalue]
      cases s0.role <;> simp [ownCheck]

theorem hears_request (hpeers : Peers prim s0 t0) (hrole : s0.role = .responder)
    (hidle : Idle s0 s) : Takes prim s0 s [] [] (.pairingRequest t0.localFeatures) := by
  obtain ⟨haccept, hacceptable, ⟨method, passkey, asked⟩, hchoose⟩ := hpeers.request hrole
  obtain ⟨pdus, hqueue, hstage⟩ := onPairingRequest_accepts prim hpeers.fresh hrole hidle haccept
    hacceptable (IoCapability.tryFrom_value _) (answer_io _) hchoose
  have hstate : s.state = .idle := by rw [hidle]; exact hpeers.fresh.state
  have hside : s.role = .responder := by rw [hidle]; exact hrole
  have hprocess : s.process prim (.pairingRequest t0.localFeatures) =
      s.onPairingRequest t0.localFeatures := by
    rw [process_eq_handle (by simp [hstate]) (by simp [hstate]) (by simp) rfl]
    unfold handle
    rw [hstate, hside]
  refine ⟨pdus, ?_, .inl ?_⟩
  · rw [hprocess]; exact hqueue
  · rw [hprocess]; exact hstage

theorem hears_response (hpeers : Peers prim s0 t0) (hrole : s0.role = .initiator)
    (hs : Requested s0 s) :
    Takes prim s0 s [] [.pairingRequest s0.localFeatures]
      (.pairingResponse (t0.answer s0.localFeatures)) := by
  obtain ⟨hacceptable, ⟨method, passkey, asked⟩, hchoose⟩ := hpeers.response hrole
  obtain ⟨pdus, hqueue, hstage⟩ := onPairingResponse_accepts prim hpeers.fresh hrole hs
    hacceptable (answer_io _) hchoose
  have hstate : s.state = .waitPairingResponse := by rw [hs]
  have hside : s.role = .initiator := by rw [hs]; exact hrole
  have hprocess : s.process prim (.pairingResponse (t0.answer s0.localFeatures)) =
      s.onPairingResponse prim (t0.answer s0.localFeatures) := by
    rw [process_eq_handle (by simp [hstate]) (by simp [hstate]) (by simp) rfl]
    unfold handle
    rw [hstate, hside]
  refine ⟨pdus, ?_, .inl ?_⟩
  · rw [hprocess]; exact hqueue
  · rw [hprocess]; exact hstage

/-- What two sides that know each other's key have in common. -/
structure Crossed (prim : Primitives κ) (s0 t0 : ScPairingSession κ)
    (ex ex' : Exchange) : Prop where
  request : ex.request = ex'.request
  response : ex.response = ex'.response
  key : ex.x = t0.publicXLe prim
  key' : ex'.x = s0.publicXLe prim
  method : ex.method = ex'.method
  passkey : ex.method = .passkey → ex.passkey = ex'.passkey

theorem Speaks.crossed (hpeers : Peers prim s0 t0) (hspeaks : Speaks prim t0 ex' received' queued')
    {calls : List DelegateCall} (hsettled : ex.Settled s0 calls) (hsettled' : ex'.Settled t0 calls')
    {rest rest' : List SmpPdu} (hheard : ex.received s0.role ++ rest <+: queued')
    (hcross : received' <+: ex.sent prim s0 ++ rest') : Crossed prim s0 t0 ex ex' := by
  obtain ⟨pairs, tail, hqueued, -, -, -⟩ := hspeaks.said
  rw [hqueued, received_beats] at hheard
  have hheard' := hspeaks.heard.trans hcross
  rw [sent_beats] at hheard'
  simp only [List.cons_append, List.cons_prefix_cons] at hheard hheard'
  obtain ⟨hfeatures, hkey, -⟩ := hheard
  obtain ⟨hfeatures', hkey', -⟩ := hheard'
  have hboth : ex.request = ex'.request ∧ ex.response = ex'.response := by
    have hopposite := hpeers.opposite
    cases hs : s0.role <;> cases ht : t0.role <;>
      simp_all [Exchange.peerFeaturesPdu, Exchange.ownFeaturesPdu]
  obtain ⟨hmethod, hpasskey⟩ := hpeers.same ex ex' _ _ hsettled hsettled' hboth.1 hboth.2
  simp only [publicKeyPdu, SmpPdu.pairingPublicKey.injEq] at hkey hkey'
  exact ⟨hboth.1, hboth.2, hkey.1, hkey'.1, hmethod, hpasskey⟩

theorem Crossed.z (hcrossed : Crossed prim s0 t0 ex ex') (round : Nat) :
    ex.z round = ex'.z round := by
  unfold Exchange.z
  rw [← hcrossed.method]
  split
  · next hmethod => rw [hcrossed.passkey hmethod]
  · rfl

/-- A peer that still has something for a side that knows its key has its own key. -/
theorem View.speaks_of_received {ex : Exchange} {role : PairingRole}
    (hview : View prim t0 calls' received' queued') (hnext : received ++ [pdu] <+: queued')
    (hheard : ex.received role <+: received) :
    ∃ ex', Exchange.Settled ex' t0 calls' ∧ Speaks prim t0 ex' received' queued' := by
  have hlength : 2 < queued'.length := by
    have hleast := hheard.length_le
    have hmost := hnext.length_le
    rw [received_beats] at hleast
    simp only [List.length_append, List.length_cons, List.length_nil] at hleast hmost
    omega
  cases hview with
  | silent _ hqueued => simp [hqueued] at hlength
  | asks _ _ hqueued => simp [hqueued] at hlength
  | negotiates ex _ _ hqueued =>
    rw [hqueued] at hlength
    split at hlength <;> simp at hlength
  | speaks ex hsettled hspeaks => exact ⟨ex, hsettled, hspeaks⟩

/-- **The next PDU is taken up.** -/
theorem hears (hpeers : Peers prim s0 t0) (hstage : Stage prim s0 s received queued)
    (hview : View prim t0 calls' received' queued') (hnext : received ++ [pdu] <+: queued')
    (hcross : received' <+: queued) : Takes prim s0 s received queued pdu := by
  cases hstage with
  | idle hs =>
    have hnothing : received' = [] := List.prefix_nil.mp hcross
    cases hview with
    | silent _ hqueued => simp [hqueued] at hnext
    | asks hrole _ hqueued =>
      have hside : s0.role = .responder := by
        have hopposite := hpeers.opposite
        rw [hrole] at hopposite
        cases hcase : s0.role with
        | initiator => exact absurd hcase hopposite
        | responder => rfl
      rw [hqueued] at hnext
      simp only [List.nil_append, List.cons_prefix_cons] at hnext
      rw [hnext.1]
      exact hears_request hpeers hside hs
    | negotiates ex _ hreceived _ => simp [hnothing] at hreceived
    | speaks ex _ hspeaks => simp [hnothing] at hspeaks; exact absurd hspeaks.heard (by simp)
  | requested hrole hs =>
    have hside : t0.role = .responder := by
      have hopposite := hpeers.opposite
      rw [hrole] at hopposite
      cases hcase : t0.role with
      | initiator => exact absurd hcase.symm hopposite
      | responder => rfl
    cases hview with
    | silent _ hqueued => simp [hqueued] at hnext
    | asks hother _ _ => rw [hside] at hother; cases hother
    | negotiates ex' hsettled hreceived hqueued =>
      rw [hreceived] at hcross
      have hown := hsettled.own
      simp only [hside, Exchange.peerFeaturesPdu, Exchange.ownFeaturesPdu, List.cons_prefix_cons,
        SmpPdu.pairingRequest.injEq, SmpPdu.pairingResponse.injEq] at hcross hown
      rw [hqueued] at hnext
      simp only [List.nil_append, List.cons_prefix_cons, hside, Exchange.ownFeaturesPdu] at hnext
      rw [hnext.1, hown, hcross.1]
      exact hears_response hpeers hrole hs
    | speaks ex' _ hspeaks =>
      have hlength := (hspeaks.heard.trans hcross).length_le
      simp at hlength
  | negotiated ex hstate hholds hrounds hstep =>
    have hkey : pdu = t0.publicKeyPdu prim := by
      cases hview with
      | silent _ hqueued => simp [hqueued] at hnext
      | asks _ _ hqueued =>
        have hlength := hnext.length_le
        simp [hqueued] at hlength
      | negotiates ex' _ _ hqueued =>
        rw [hqueued] at hnext
        split at hnext
        · simp only [List.cons_append, List.nil_append, List.cons_prefix_cons] at hnext
          exact hnext.2.1
        · have hlength := hnext.length_le
          simp at hlength
      | speaks ex' _ hspeaks =>
        obtain ⟨pairs, tail, hqueued, -, -, -⟩ := hspeaks.said
        rw [hqueued] at hnext
        simp only [List.cons_append, List.nil_append, List.cons_prefix_cons] at hnext
        exact hnext.2.1
    rw [hkey]
    exact hears_key hpeers hstate hholds hrounds hstep
  | confirming ex hstate hround hchecks =>
    obtain ⟨ex', hsettled', hspeaks⟩ :=
      hview.speaks_of_received hnext List.prefix_rfl
    have hcrossed := hspeaks.crossed hpeers hround.holds.settled hsettled' hnext hcross
    obtain ⟨pairs, tail, hqueued, -, -, htail⟩ := hspeaks.said
    have hcommits : commits t0.role ex'.method = true := by
      rw [commits_of_opposite hpeers.opposite, ← hcrossed.method]
      exact hchecks
    rw [hqueued, received_beats] at hnext
    simp only [List.cons_append, List.cons_prefix_cons] at hnext
    obtain ⟨-, -, hnext⟩ := hnext
    rw [hchecks, hcommits] at hnext
    rw [hcommits, ← hcrossed.method] at htail
    obtain ⟨value, rfl⟩ := next_confirm hnext htail (by
      simpa [Exchange.peerPairs] using hround.more)
    exact hears_confirm hstate hround hchecks value
  | committed ex confirm hstate hround hconfirm =>
    obtain ⟨ex', hsettled', hspeaks⟩ :=
      hview.speaks_of_received hnext (List.prefix_append ..)
    have hcrossed : Crossed prim s0 t0 ex ex' := by
      rw [List.append_assoc] at hnext hcross
      exact hspeaks.crossed hpeers hround.holds.settled hsettled' hnext hcross
    obtain ⟨pairs, tail, hqueued, hpairs, -, htail⟩ := hspeaks.said
    have hcommits : commits t0.role ex'.method = checks s0.role ex.method := by
      rw [commits_of_opposite hpeers.opposite, hcrossed.method]
    rw [hqueued, received_beats] at hnext
    simp only [List.cons_append, List.cons_prefix_cons, List.append_assoc] at hnext
    obtain ⟨-, -, hnext⟩ := hnext
    rw [hcommits] at hnext
    rw [hcommits, ← hcrossed.method] at htail
    obtain ⟨pair, hpair, rfl, hvalue⟩ := next_random hnext htail (by
      simpa [Exchange.peerPairs] using hround.more)
    refine hears_random hpeers hstate hround hconfirm ?_
    intro hchecks
    have hcommitment := hpairs _ pair hpair (hcommits.trans hchecks)
    rw [hvalue hchecks, hcommitment]
    simp only [Exchange.ownCommitment, Exchange.peerCommitment, hcrossed.key, hcrossed.key',
      hcrossed.z, Exchange.peerPairs, List.length_map]
  | derived ex last hstate hholds haccepted hchecked hcount hlast hkeys hconsented =>
    obtain ⟨ex', hsettled', hspeaks⟩ :=
      hview.speaks_of_received hnext List.prefix_rfl
    have hcrossed := hspeaks.crossed hpeers hholds.settled hsettled' hnext hcross
    obtain ⟨pairs, tail, hqueued, hpairs, hlength, htail⟩ := hspeaks.said
    have hcommits : commits t0.role ex'.method = checks s0.role ex.method := by
      rw [commits_of_opposite hpeers.opposite, hcrossed.method]
    have hwhole := hnext
    rw [hqueued, received_beats] at hnext
    simp only [List.cons_append, List.cons_prefix_cons] at hnext
    obtain ⟨-, -, hnext⟩ := hnext
    rw [hcommits] at hnext
    rw [hcommits, ← hcrossed.method] at htail
    rw [← hcrossed.method] at hlength
    obtain ⟨value, rfl, rfl⟩ := next_check hnext htail (by
      simpa [Exchange.peerPairs] using hcount) hlength
    obtain ⟨last', haccepted', hcount', hlast', hreceived', hsent', rfl⟩ :=
      hspeaks.checked value (by rw [hqueued]; simp)
    have hvalue := hpeers.check ex ex' last last' _ _ _ _ hholds.settled hsettled' haccepted
      haccepted' hcount hcount' hlast hlast' ((List.prefix_append _ _).trans hwhole) hsent'
      (hreceived'.trans hcross) (List.prefix_append _ _)
    rw [hvalue]
    exact hears_check hstate hholds haccepted hchecked hcount hlast hkeys

end Hearing

end Bumble.Smp.ScPairingSession
