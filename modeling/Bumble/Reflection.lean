import Bumble.KeyPhases

/-!
# Reflected values

A peer that knows no secret can send back what it was sent.  A Secure Connections
session compares both coordinates of a received public key with its own, so it turns
away its own key but not the mirror image of it, which has the same `x`.  A legacy
session makes no comparison: its own confirm value opens to its own random value.
-/

namespace Bumble.Smp

/-! ## 1. Public keys -/

namespace ScPairingSession

variable {κ : Type} {s s' s0 : ScPairingSession κ} (prim : Primitives κ)

/-- The peer's out-of-band data, where the method relies on them, commit to a key. -/
def OobCommitsTo (s : ScPairingSession κ) (x : Octets 32) : Prop :=
  s.method = some .oob → ∀ data, s.config.peerData = some data →
    ∃ r, toArray16 data.r = some r ∧ data.c = (confirmValueWithZ prim x x r 0).toList

/-- A key that differs from the session's own in `y` and is accepted by the key
    agreement, at the time a key is waited for. -/
structure Mirrored (s : ScPairingSession κ) (x y : Octets 32) : Prop where
  awaited : s.state = .waitPublicKey
  differs : y ≠ s.publicYLe prim
  agreed : (prim.dh s.eccKey x.reverse y.reverse).isSome
  committed : OobCommitsTo prim s x

section Keys

variable {prim}

theorem oobFailure_none {x : Octets 32} : s.oobFailure prim x = none ↔ OobCommitsTo prim s x := by
  unfold oobFailure OobCommitsTo
  split
  · next hmethod =>
    cases hdata : s.config.peerData with
    | none => simp
    | some data =>
      cases hr : toArray16 data.r with
      | none => simp [hmethod, hr]
      | some r => simp [hmethod, hr]
  · next hmethod => simp [hmethod]

theorem queuePasskeyConfirm_state : (s.queuePasskeyConfirm prim).state.state = s.state := by
  unfold queuePasskeyConfirm
  split
  · rfl
  · split <;> rfl

theorem exchangeKeys_state_ne_failed (hstate : s.state ≠ .failed) (x : Octets 32) :
    (s.exchangeKeys prim x).state.state ≠ .failed := by
  unfold exchangeKeys
  split
  · exact hstate
  · exact hstate
  · unfold Outcome.andThen
    split
    · simp
    · rw [Outcome.fail_state, queuePasskeyConfirm_state]
      exact hstate
  · simp
  · simp
  · simp

theorem onPublicKey_failed_iff (hstate : s.state = .waitPublicKey) {x : Octets 32}
    (hx : x = s.publicXLe prim) (y : Octets 32) :
    (s.onPublicKey prim x y).state.state = .failed ↔ ¬ Mirrored prim s x y := by
  unfold onPublicKey
  split
  · next hown =>
    simp only [Outcome.ok_state, fail_state, true_iff]
    exact fun hmirrored => hmirrored.differs hown.2
  · next hown =>
    have hdiffers : y ≠ s.publicYLe prim := fun hy => hown ⟨hx, hy⟩
    split
    · next hdh =>
      simp only [Outcome.ok_state, fail_state, true_iff]
      intro hmirrored
      have hagreed := hmirrored.agreed
      rw [hdh] at hagreed
      cases hagreed
    · next dhKey hdh =>
      have hkept : (s.receiveKey x y dhKey.reverse).oobFailure prim x = s.oobFailure prim x := rfl
      dsimp only
      rw [hkept]
      split
      · next reason hfailure =>
        simp only [Outcome.ok_state, fail_state, true_iff]
        intro hmirrored
        rw [oobFailure_none.mpr hmirrored.committed] at hfailure
        cases hfailure
      · next hcommitted =>
        have hmirrored : Mirrored prim s x y :=
          ⟨hstate, hdiffers, by rw [hdh]; rfl, oobFailure_none.mp hcommitted⟩
        have hgoes : ((s.receiveKey x y dhKey.reverse).exchangeKeys prim x).state.state ≠
            .failed := by
          apply exchangeKeys_state_ne_failed
          rw [show (s.receiveKey x y dhKey.reverse).state = s.state from rfl, hstate]
          simp
        simp only [hgoes, hmirrored, not_true_eq_false]

theorem handle_publicKey_of_not_awaited (hstate : s.state ≠ .waitPublicKey) (x y : Octets 32) :
    (s.handle prim (.pairingPublicKey x y)).state.state = .failed := by
  have hhandle : s.handle prim (.pairingPublicKey x y) = .ok (s.fail .invalidParameters) () := by
    unfold handle
    cases hs : s.state <;> first | exact absurd hs hstate | (cases s.role <;> rfl)
  rw [hhandle]
  exact fail_state _

/-- **One public key** with the session's own `x`. -/
theorem process_publicKey_failed_iff
    (hconsistent : s.state = .failed ∨ s.keyView.Consistent) {x : Octets 32}
    (hx : x = s.publicXLe prim) (y : Octets 32) :
    (s.process prim (.pairingPublicKey x y)).state.state = .failed ↔ ¬ Mirrored prim s x y := by
  by_cases hawaited : s.state = .waitPublicKey
  · have hprocess : s.process prim (.pairingPublicKey x y) = s.onPublicKey prim x y := by
      unfold process handle
      rw [hawaited]
      cases s.role <;> rfl
    rw [hprocess]
    exact onPublicKey_failed_iff hawaited hx y
  · have hfails : (s.process prim (.pairingPublicKey x y)).state.state = .failed := by
      by_cases hfailed : s.state = .failed
      · unfold process
        rw [if_pos hfailed]
        exact hfailed
      · unfold process
        rw [if_neg hfailed]
        dsimp only
        split
        · next hkeys =>
          have hview := hconsistent.resolve_left hfailed
          unfold KeyView.Consistent keyView at hview
          rw [hkeys] at hview
          obtain ⟨distribution, hdistribution, hdistributing⟩ := hview
          dsimp only at hdistribution
          rw [hdistribution]
          have hprocess : distribution.process (.pairingPublicKey x y) =
              distribution.fail .unspecifiedReason := by
            unfold KeyDistributionSession.process
            rw [hdistributing]
            rfl
          dsimp only
          rw [hprocess]
          rfl
        · exact handle_publicKey_of_not_awaited hawaited x y
    simp only [hfails, true_iff]
    exact fun hmirrored => hawaited hmirrored.awaited

end Keys

/-- From a public key with the session's own `x` on, the session has failed. -/
def ReflectedKeysFail (s0 : ScPairingSession κ) (events : List (Event ScInput SmpPdu)) : Prop :=
  ∀ before x y middle after,
    events = before ++ .receive (.pairingPublicKey x y) :: (middle ++ after) →
    x = ((scParty prim).run s0 before).publicXLe prim →
    ((scParty prim).run s0 (before ++ .receive (.pairingPublicKey x y) :: middle)).state = .failed

theorem reflectedKeysFail_iff (hfresh : Fresh s0) (events : List (Event ScInput SmpPdu)) :
    ReflectedKeysFail prim s0 events ↔
      ∀ before x y after, events = before ++ .receive (.pairingPublicKey x y) :: after →
        x = ((scParty prim).run s0 before).publicXLe prim →
        ¬ Mirrored prim ((scParty prim).run s0 before) x y := by
  have hstaged := staged prim hfresh
  have hkey : ∀ before x y, x = ((scParty prim).run s0 before).publicXLe prim →
      (((scParty prim).run s0 (before ++ [.receive (.pairingPublicKey x y)])).state = .failed ↔
        ¬ Mirrored prim ((scParty prim).run s0 before) x y) := by
    intro before x y hx
    have hconsistent := (hstaged.failed_or_consistent before).imp_left keyPhase_failed.mp
    rw [Party.run_concat]
    exact process_publicKey_failed_iff hconsistent hx y
  constructor
  · intro hfail before x y after hsplit hx
    exact (hkey before x y hx).mp (hfail before x y [] after hsplit hx)
  · intro hmirrored before x y middle after hsplit hx
    have hfailed := (hkey before x y hx).mpr (hmirrored before x y _ hsplit hx)
    have hstays := hstaged.stays_failed (keyPhase_failed.mpr hfailed) middle
    rw [List.append_assoc] at hstays
    exact keyPhase_failed.mp hstays

end ScPairingSession

/-! ## 2. Confirm and random values -/

namespace LegacyPairingSession

variable {κ : Type} {s s' s0 : LegacyPairingSession κ} (prim : Primitives κ)

/-- The confirm value that arrived is the session's own, or the random value is. -/
def Echoed (s : LegacyPairingSession κ) : Prop :=
  (∃ confirm, s.localConfirm prim = .ok confirm ∧ s.peerConfirm = some confirm) ∨
    s.peerRandom = some s.localRandom

/-- A random value opens the session's own confirm value, which has arrived as the
    peer's. -/
structure OpensOwn (s : LegacyPairingSession κ) (random : Octets 16) : Prop where
  awaited : s.state = .waitPairingRandom
  opens : ∃ confirm, s.localConfirm prim = .ok confirm ∧ s.peerConfirm = some confirm ∧
    s.confirmFor prim random = .ok confirm

section States

variable {prim}

theorem fail_state (reason : PairingFailureReason) : (s.fail reason).state = .failed :=
  (fail_aborts reason).state

theorem fail_not_waiting (reason : PairingFailureReason) :
    (s.fail reason).state ≠ .waitEncryption := by
  rw [fail_state]
  simp

theorem andThen_not_waiting {α β : Type} {call : Call κ α}
    {next : LegacyPairingSession κ → α → Call κ β} (hcall : call.state.state ≠ .waitEncryption)
    (hnext : ∀ value, (next call.state value).state.state ≠ .waitEncryption) :
    (call.andThen next).state.state ≠ .waitEncryption := by
  unfold Outcome.andThen
  split
  · exact hnext _
  · exact hcall

theorem prepareKey_not_waiting (hstate : s.state ≠ .waitEncryption)
    (selection : PairingMethodSelection) :
    (s.prepareKey selection).state.state ≠ .waitEncryption := by
  unfold prepareKey
  dsimp only
  split
  · split
    · exact fail_not_waiting _
    · exact hstate
  · split
    · exact fail_not_waiting _
    · exact hstate
  · split
    · exact fail_not_waiting _
    · exact hstate
  · exact fail_not_waiting _

theorem prepareMethod_not_waiting (hstate : s.state ≠ .waitEncryption)
    (request response : PairingFeatures) :
    (s.prepareMethod request response).state.state ≠ .waitEncryption := by
  unfold prepareMethod
  split
  · exact hstate
  · exact hstate
  · apply prepareKey_not_waiting
    exact hstate

theorem negotiatedResponseFeatures_not_waiting (hstate : s.state ≠ .waitEncryption)
    (peer : PairingFeatures) :
    (s.negotiatedResponseFeatures peer).state.state ≠ .waitEncryption := by
  unfold negotiatedResponseFeatures
  split
  · exact fail_not_waiting _
  · dsimp only
    split
    · exact fail_not_waiting _
    · exact hstate

theorem queueConfirm_not_waiting (hstate : s.state ≠ .waitEncryption) :
    (s.queueConfirm prim).state.state ≠ .waitEncryption := by
  unfold queueConfirm
  split <;> exact hstate

theorem respond_not_waiting (hstate : s.state ≠ .waitEncryption) (features : PairingFeatures) :
    (s.respond features).state.state ≠ .waitEncryption := by
  have hnegotiated := negotiatedResponseFeatures_not_waiting hstate features
  unfold respond
  dsimp only
  split
  · exact hnegotiated
  · apply andThen_not_waiting
    · apply prepareMethod_not_waiting
      exact hnegotiated
    · intro prepared
      split
      · apply prepareMethod_not_waiting
        exact hnegotiated
      · simp

theorem onPairingRequest_not_waiting (hstate : s.state ≠ .waitEncryption)
    (features : PairingFeatures) : (s.onPairingRequest features).state.state ≠ .waitEncryption := by
  unfold onPairingRequest
  dsimp only
  split
  · exact fail_not_waiting _
  · apply respond_not_waiting
    exact hstate

theorem onPairingResponse_not_waiting (hstate : s.state ≠ .waitEncryption)
    (features : PairingFeatures) :
    (s.onPairingResponse prim features).state.state ≠ .waitEncryption := by
  unfold onPairingResponse
  split
  · exact hstate
  · exact fail_not_waiting _
  · split
    · exact fail_not_waiting _
    · dsimp only
      split
      · exact fail_not_waiting _
      · apply andThen_not_waiting
        · apply prepareMethod_not_waiting
          exact hstate
        · intro prepared
          split
          · apply prepareMethod_not_waiting
            exact hstate
          · apply andThen_not_waiting
            · apply queueConfirm_not_waiting
              apply prepareMethod_not_waiting
              exact hstate
            · intro _
              simp

theorem onPairingConfirm_not_waiting (hstate : s.state ≠ .waitEncryption)
    (confirmValue : Octets 16) :
    (s.onPairingConfirm prim confirmValue).state.state ≠ .waitEncryption := by
  unfold onPairingConfirm
  dsimp only
  split
  · simp
  · apply andThen_not_waiting
    · apply queueConfirm_not_waiting
      exact hstate
    · intro _
      simp

/-- What the comparison of reflected values reads of a session. -/
def confirmView (prim : Primitives κ) (s : LegacyPairingSession κ) :
    Except Fault (Octets 16) × Option (Octets 16) × Octets 16 :=
  (s.localConfirm prim, s.peerConfirm, s.localRandom)

theorem exchangeRandoms_confirmView (random : Octets 16) :
    (s.exchangeRandoms random).confirmView prim = s.confirmView prim ∧
      (s.exchangeRandoms random).peerRandom = some random := by
  unfold exchangeRandoms
  dsimp only
  split <;> exact ⟨rfl, rfl⟩

theorem onPairingRandom_accepts (hstate : s.state = .waitPairingRandom) {random : Octets 16}
    (hwaits : (s.onPairingRandom prim random).state.state = .waitEncryption) :
    (∃ confirm, s.confirmFor prim random = .ok confirm ∧ s.peerConfirm = some confirm) ∧
      (s.onPairingRandom prim random).state.confirmView prim = s.confirmView prim ∧
      (s.onPairingRandom prim random).state.peerRandom = some random := by
  unfold onPairingRandom at hwaits ⊢
  split
  · next hfault =>
    rw [hfault] at hwaits
    rw [Outcome.fail_state, hstate] at hwaits
    cases hwaits
  · next confirm hconfirm =>
    rw [hconfirm] at hwaits
    dsimp only at hwaits
    split
    · next hdiffers =>
      rw [if_pos hdiffers, Outcome.ok_state, fail_state] at hwaits
      cases hwaits
    · next hsame =>
      refine ⟨⟨confirm, hconfirm, not_not.mp hsame⟩, ?_⟩
      have hexchanged : (s.exchangeRandoms random).confirmView prim = s.confirmView prim ∧
          (s.exchangeRandoms random).peerRandom = some random := exchangeRandoms_confirmView random
      unfold finish
      dsimp only
      split <;> exact hexchanged

theorem onPairingRandom_opens {selection : PairingMethodSelection}
    (hselection : s.selection = some selection) {random : Octets 16}
    (hopens : OpensOwn prim s random) :
    (s.onPairingRandom prim random).state.state = .waitEncryption ∧
      Echoed prim (s.onPairingRandom prim random).state := by
  obtain ⟨confirm, hlocal, hpeer, hrandom⟩ := hopens.opens
  have hwaits : (s.onPairingRandom prim random).state.state = .waitEncryption := by
    have hkept : (s.exchangeRandoms random).selection = some selection := by
      unfold exchangeRandoms
      dsimp only
      split <;> exact hselection
    unfold onPairingRandom
    rw [hrandom]
    dsimp only
    rw [if_neg (not_not.mpr hpeer)]
    unfold finish
    dsimp only
    rw [hkept]
    rfl
  obtain ⟨-, hview, -⟩ := onPairingRandom_accepts hopens.awaited hwaits
  refine ⟨hwaits, .inl ⟨confirm, ?_, ?_⟩⟩
  · exact (congrArg Prod.fst hview).trans hlocal
  · exact (congrArg (fun view => view.2.1) hview).trans hpeer

theorem handle_not_waiting (hstate : s.state ≠ .waitEncryption) {pdu : SmpPdu}
    (hpdu : ∀ random, pdu = .pairingRandom random → s.state ≠ .waitPairingRandom) :
    (s.handle prim pdu).state.state ≠ .waitEncryption := by
  unfold handle
  split
  · exact onPairingRequest_not_waiting hstate _
  · exact onPairingResponse_not_waiting hstate _
  · exact onPairingConfirm_not_waiting hstate _
  · next hawaited => exact absurd hawaited (hpdu _ rfl)
  · exact fail_not_waiting _

theorem syncDistribution_not_waiting (distribution : KeyDistributionSession) :
    (s.syncDistribution distribution).state ≠ .waitEncryption := by
  unfold syncDistribution
  dsimp only
  split <;> simp

theorem markEncrypted_not_waiting (hstate : s.state ≠ .waitEncryption) :
    s.markEncrypted.state.state ≠ .waitEncryption := by
  unfold markEncrypted
  split
  · exact hstate
  · rw [if_pos hstate]
    exact hstate

theorem process_enters (hstate : s.state ≠ .waitEncryption) {pdu : SmpPdu}
    (hwaits : (s.process prim pdu).state.state = .waitEncryption) :
    ∃ random, pdu = .pairingRandom random ∧ s.state = .waitPairingRandom ∧
      s.process prim pdu = s.onPairingRandom prim random := by
  by_cases hrandom : ∃ random, pdu = .pairingRandom random ∧ s.state = .waitPairingRandom
  · obtain ⟨random, rfl, hawaited⟩ := hrandom
    refine ⟨random, rfl, hawaited, ?_⟩
    unfold process handle
    rw [hawaited]
    cases s.role <;> rfl
  · exfalso
    revert hwaits
    unfold process
    split
    · exact hstate
    · split
      · simp
      · split
        · split
          · exact hstate
          · exact syncDistribution_not_waiting _
        · split
          · exact fail_not_waiting _
          · apply handle_not_waiting hstate
            intro random hpdu hawaited
            exact hrandom ⟨random, hpdu, hawaited⟩

theorem process_of_waiting (hstate : s.state = .waitEncryption) (pdu : SmpPdu) :
    (s.process prim pdu).state.state ≠ .waitEncryption := by
  rcases process_handle prim (by rw [hstate]; simp) (by rw [hstate]; simp) pdu with
    haborts | hhandle
  · rw [haborts.state]
    simp
  · rw [hhandle, handle_of_concluded prim (by rw [hstate]; trivial)]
    exact fail_not_waiting _

/-- **One event** that ends in waiting for the encryption: a random value that was
    accepted, or nothing that concerns the comparison. -/
theorem event_waits {event : Event LegacyInput SmpPdu}
    (hwaits : ((legacyParty prim).apply s event).state = .waitEncryption) :
    (∃ random, event = .receive (.pairingRandom random) ∧ s.state = .waitPairingRandom ∧
        (legacyParty prim).apply s event = (s.onPairingRandom prim random).state) ∨
      s.state = .waitEncryption ∧
        ((legacyParty prim).apply s event).confirmView prim = s.confirmView prim ∧
        ((legacyParty prim).apply s event).peerRandom = s.peerRandom := by
  cases event with
  | call input =>
    right
    cases input with
    | start =>
      change s.start.state.state = .waitEncryption at hwaits
      change _ ∧ s.start.state.confirmView prim = _ ∧ s.start.state.peerRandom = _
      unfold start at hwaits ⊢
      split
      · next hmay =>
        rw [if_pos hmay] at hwaits
        exact ⟨hwaits, rfl, rfl⟩
      · next hmay =>
        rw [if_neg hmay] at hwaits
        cases hwaits
    | markEncrypted =>
      change s.markEncrypted.state.state = .waitEncryption at hwaits
      change _ ∧ s.markEncrypted.state.confirmView prim = _ ∧ s.markEncrypted.state.peerRandom = _
      have hstate : s.state = .waitEncryption := by
        by_contra hnot
        exact markEncrypted_not_waiting hnot hwaits
      have hsame : s.markEncrypted.state = s := by
        unfold markEncrypted at hwaits ⊢
        split
        · rfl
        · next outcome houtcome =>
          rw [houtcome] at hwaits
          dsimp only at hwaits
          rw [if_neg (not_not.mpr hstate)] at hwaits
          exact absurd hwaits (syncDistribution_not_waiting _)
      rw [hsame]
      exact ⟨hstate, rfl, rfl⟩
    | setLocalKeyMaterial keys =>
      change (s.setLocalKeyMaterial keys).state.state = .waitEncryption at hwaits
      change _ ∧ (s.setLocalKeyMaterial keys).state.confirmView prim = _ ∧
        (s.setLocalKeyMaterial keys).state.peerRandom = _
      unfold setLocalKeyMaterial at hwaits ⊢
      split
      · next hidle =>
        rw [if_pos hidle] at hwaits
        exact ⟨hwaits, rfl, rfl⟩
      · next hidle =>
        rw [if_neg hidle] at hwaits
        exact ⟨hwaits, rfl, rfl⟩
  | poll =>
    right
    cases hqueue : s.outbound with
    | nil =>
      have hpoll : (legacyParty prim).apply s .poll = s := by
        simp [Party.apply, legacyParty, pollOutbound, hqueue]
      rw [hpoll] at hwaits ⊢
      exact ⟨hwaits, rfl, rfl⟩
    | cons pdu outbound =>
      have hpoll : (legacyParty prim).apply s .poll = { s with outbound := outbound } := by
        simp [Party.apply, legacyParty, pollOutbound, hqueue]
      rw [hpoll] at hwaits ⊢
      exact ⟨hwaits, rfl, rfl⟩
  | receive pdu =>
    left
    have hstate : s.state ≠ .waitEncryption :=
      fun hstate => process_of_waiting hstate pdu hwaits
    obtain ⟨random, rfl, hawaited, hprocess⟩ := process_enters hstate hwaits
    exact ⟨random, rfl, hawaited, congrArg Outcome.state hprocess⟩

/-- **A whole run** that ends in waiting for the encryption has accepted a random
    value, and what was compared then is unchanged. -/
theorem run_waits (events : List (Event LegacyInput SmpPdu)) (hidle : s0.state = .idle)
    (hwaits : ((legacyParty prim).run s0 events).state = .waitEncryption) :
    ∃ before random after, events = before ++ .receive (.pairingRandom random) :: after ∧
      ((legacyParty prim).run s0 before).state = .waitPairingRandom ∧
      (∃ confirm, ((legacyParty prim).run s0 before).confirmFor prim random = .ok confirm ∧
        ((legacyParty prim).run s0 before).peerConfirm = some confirm) ∧
      ((legacyParty prim).run s0 events).confirmView prim =
        ((legacyParty prim).run s0 before).confirmView prim ∧
      ((legacyParty prim).run s0 events).peerRandom = some random := by
  induction events using List.reverseRecOn with
  | nil =>
    change s0.state = .waitEncryption at hwaits
    rw [hidle] at hwaits
    cases hwaits
  | append_singleton events event ih =>
    rw [Party.run_concat] at hwaits
    rcases event_waits hwaits with ⟨random, rfl, hawaited, happly⟩ | ⟨hstate, hview, hrandom⟩
    · rw [happly] at hwaits
      obtain ⟨hconfirm, hview, hrandom⟩ := onPairingRandom_accepts hawaited hwaits
      refine ⟨events, random, [], rfl, hawaited, hconfirm, ?_, ?_⟩
      · rw [Party.run_concat, happly]
        exact hview
      · rw [Party.run_concat, happly]
        exact hrandom
    · obtain ⟨before, random, after, hsplit, hawaited, hconfirm, hview', hrandom'⟩ := ih hstate
      refine ⟨before, random, after ++ [event], by rw [hsplit]; simp, hawaited, hconfirm, ?_, ?_⟩
      · rw [Party.run_concat]
        exact hview.trans hview'
      · rw [Party.run_concat]
        exact hrandom.trans hrandom'

end States

/-- A session with an echoed value never waits for the encryption. -/
def EchoesNeverWait (s0 : LegacyPairingSession κ) (events : List (Event LegacyInput SmpPdu)) :
    Prop :=
  ∀ before after, events = before ++ after →
    Echoed prim ((legacyParty prim).run s0 before) →
    ((legacyParty prim).run s0 before).state ≠ .waitEncryption

theorem Tracked.selected {log : Log (LegacyPairingSession κ) SmpPdu} (hlog : Tracked prim s0 log)
    (hfresh : Fresh s0) (hstate : log.state.state = .waitPairingRandom) :
    ∃ selection, log.state.selection = some selection := by
  rcases hlog with ⟨-, -, hfailed | hstage⟩ | ⟨ex, random, -, hconcluded, -, -⟩
  · rw [hstate] at hfailed
    cases hfailed
  · revert hstage
    generalize log.received = received
    generalize log.sent ++ log.state.outbound = queued
    intro hstage
    cases hstage with
    | idle hs => rw [hs, hfresh.state] at hstate; cases hstate
    | requested hrole hs => rw [hs] at hstate; cases hstate
    | prepared ex hs _ => rw [hs] at hstate; cases hstate
    | committed ex confirm _ hholds _ => exact ⟨_, hholds.selection⟩
  · rw [hstate] at hconcluded
    exact hconcluded.elim

theorem echoesNeverWait_iff (hfresh : Fresh s0) (events : List (Event LegacyInput SmpPdu)) :
    EchoesNeverWait prim s0 events ↔
      ∀ before random after, events = before ++ .receive (.pairingRandom random) :: after →
        ¬ OpensOwn prim ((legacyParty prim).run s0 before) random := by
  constructor
  · intro hnever before random after hsplit hopens
    have htracked := tracked_run prim hfresh before
    have hstate := (legacyParty prim).logged_run_state (.start SmpPdu s0) before
    change ((legacyParty prim).logged.run (.start SmpPdu s0) before).state =
      (legacyParty prim).run s0 before at hstate
    obtain ⟨selection, hselection⟩ := htracked.selected prim hfresh (by
      rw [hstate]
      exact hopens.awaited)
    rw [hstate] at hselection
    obtain ⟨hwaits, hechoed⟩ := onPairingRandom_opens hselection hopens
    have happly : (legacyParty prim).run s0 (before ++ [.receive (.pairingRandom random)]) =
        (((legacyParty prim).run s0 before).onPairingRandom prim random).state := by
      rw [Party.run_concat]
      change (((legacyParty prim).run s0 before).process prim (.pairingRandom random)).state = _
      unfold process handle
      rw [hopens.awaited]
      cases ((legacyParty prim).run s0 before).role <;> rfl
    have hcontra := hnever (before ++ [.receive (.pairingRandom random)]) after (by
      rw [hsplit]
      simp)
    rw [happly] at hcontra
    exact hcontra hechoed hwaits
  · rintro hopens before after rfl hechoed hwaits
    obtain ⟨first, random, rest, rfl, hawaited, ⟨confirm, hconfirm, hpeer⟩, hview, hrandom⟩ :=
      run_waits before hfresh.state hwaits
    apply hopens first random (rest ++ after) (by simp)
    refine ⟨hawaited, confirm, ?_, hpeer, hconfirm⟩
    have hlocal := congrArg Prod.fst hview
    have hpeer' := congrArg (fun view => view.2.1) hview
    have hown := congrArg (fun view => view.2.2) hview
    simp only [confirmView] at hlocal hpeer' hown
    rcases hechoed with ⟨echo, hecho, hechoed⟩ | hechoed
    · rw [hpeer', hpeer] at hechoed
      cases hechoed
      exact hlocal.symm.trans hecho
    · rw [hrandom, hown] at hechoed
      cases hechoed
      exact hconfirm

end LegacyPairingSession

/-! ## 3. Both protocols -/

/-- **Reflection**, for both kinds of sessions, both roles and whatever arrives: a key
    with the session's own `x` fails the pairing exactly where it is not a mirror image
    that is accepted, and no echo leads to the encryption exactly where no random value
    opens the session's own confirm value. -/
theorem reflection_fails_iff {κ : Type} (prim : Primitives κ) {role role' : PairingRole}
    {config config' : PairingConfig κ} {delegate delegate' : PairingDelegate}
    {initiatorAddress responderAddress initiatorAddress' responderAddress' : Address} {eccKey : κ}
    {localNonce localRandom : Octets 16} {random128 random128' : Nat → Octets 16}
    {s0 : ScPairingSession κ} {t0 : LegacyPairingSession κ}
    (hnew : ScPairingSession.new role config delegate initiatorAddress responderAddress eccKey
      localNonce random128 = .ok s0)
    (hnew' : LegacyPairingSession.new role' config' delegate' initiatorAddress' responderAddress'
      localRandom random128' = .ok t0)
    (events : List (Event ScPairingSession.ScInput SmpPdu))
    (events' : List (Event LegacyPairingSession.LegacyInput SmpPdu)) :
    (ScPairingSession.ReflectedKeysFail prim s0 events ↔
      ∀ before x y after, events = before ++ .receive (.pairingPublicKey x y) :: after →
        x = ((ScPairingSession.scParty prim).run s0 before).publicXLe prim →
        ¬ ScPairingSession.Mirrored prim ((ScPairingSession.scParty prim).run s0 before) x y) ∧
    (LegacyPairingSession.EchoesNeverWait prim t0 events' ↔
      ∀ before random after, events' = before ++ .receive (.pairingRandom random) :: after →
        ¬ LegacyPairingSession.OpensOwn prim
          ((LegacyPairingSession.legacyParty prim).run t0 before) random) := by
  constructor
  · exact ScPairingSession.reflectedKeysFail_iff prim (ScPairingSession.new_fresh hnew) events
  · exact LegacyPairingSession.echoesNeverWait_iff prim (LegacyPairingSession.new_fresh hnew')
      events'

/-- Two pairings of the tests in which the peer has values of its own. -/
theorem reflection_fails_test :
    ∃ s0 t0, ScPairingSession.new .responder (testConfig true none) testDelegate
        testInitiatorAddress testResponderAddress .b testResponderNonce testRandom128 = .ok s0 ∧
      LegacyPairingSession.testSession .initiator testInitiatorNonce = .ok t0 ∧
      ScPairingSession.ReflectedKeysFail testPrimitives s0 heardEvents ∧
      LegacyPairingSession.EchoesNeverWait testPrimitives t0 completingEvents := by
  have hsecure : ∃ s0, ScPairingSession.new .responder (testConfig true none) testDelegate
        testInitiatorAddress testResponderAddress .b testResponderNonce testRandom128 = .ok s0 ∧
      ∀ n < heardEvents.length,
        ((ScPairingSession.scParty testPrimitives).run s0 (heardEvents.take n)).publicXLe
          testPrimitives ≠ TestKey.a.publicX.reverse :=
    ⟨_, rfl, by decide +kernel⟩
  have hlegacy : ∃ t0, LegacyPairingSession.testSession .initiator testInitiatorNonce = .ok t0 ∧
      ∀ n < completingEvents.length,
        ((LegacyPairingSession.legacyParty testPrimitives).run t0
          (completingEvents.take n)).state = .waitPairingRandom →
        (((LegacyPairingSession.legacyParty testPrimitives).run t0
          (completingEvents.take n)).localConfirm testPrimitives).toOption ≠
            ((LegacyPairingSession.legacyParty testPrimitives).run t0
              (completingEvents.take n)).peerConfirm :=
    ⟨_, rfl, by decide +kernel⟩
  obtain ⟨s0, hnew, hkeys⟩ := hsecure
  obtain ⟨t0, hnew', hconfirms⟩ := hlegacy
  obtain ⟨hsecure, hlegacy⟩ :=
    reflection_fails_iff testPrimitives hnew hnew' heardEvents completingEvents
  refine ⟨s0, t0, hnew, hnew', hsecure.mpr ?_, hlegacy.mpr ?_⟩
  · intro before x y after hsplit hx _
    have hmem : Event.receive (.pairingPublicKey x y) ∈ heardEvents := by
      rw [hsplit]
      simp
    have hkey : x = TestKey.a.publicX.reverse := by
      have hpdu : x = TestKey.a.publicX.reverse ∧ y = TestKey.a.publicY.reverse := by
        simpa [heardEvents, ScPairingSession.heardByResponder] using hmem
      exact hpdu.1
    have hown := forall_split_of_take (P := fun before =>
      ((ScPairingSession.scParty testPrimitives).run s0 before).publicXLe testPrimitives ≠
        TestKey.a.publicX.reverse) hkeys before _ after hsplit
    exact hown (hx.symm.trans hkey)
  · intro before random after hsplit hopens
    obtain ⟨confirm, hlocal, hpeer, -⟩ := hopens.opens
    have hown := forall_split_of_take (P := fun before =>
      ((LegacyPairingSession.legacyParty testPrimitives).run t0 before).state = .waitPairingRandom →
        (((LegacyPairingSession.legacyParty testPrimitives).run t0 before).localConfirm
          testPrimitives).toOption ≠
            ((LegacyPairingSession.legacyParty testPrimitives).run t0 before).peerConfirm)
      hconfirms before _ after hsplit
    apply hown hopens.awaited
    rw [hlocal, hpeer]
    rfl

/-- The mirror image of a responder's own key is accepted, and an initiator's own
    confirm and random values lead to the encryption. -/
theorem reflection_accepted :
    (∃ s0, ScPairingSession.new .responder (testConfig true none) testDelegate
        testInitiatorAddress testResponderAddress .b testResponderNonce testRandom128 = .ok s0 ∧
      s0.publicXLe testPrimitives = TestKey.b.publicX.reverse ∧
      ((ScPairingSession.scParty testPrimitives).run s0
        [.receive (.pairingRequest ⟨0x03, 0x00, 0x0D, 16, 0x0F, 0x03⟩),
          .receive (.pairingPublicKey TestKey.b.publicX.reverse
            TestKey.b.mirrorY.reverse)]).state = .waitPairingRandom) ∧
    (∃ t0, LegacyPairingSession.testSession .initiator testInitiatorNonce = .ok t0 ∧
      ∃ confirm,
        ((LegacyPairingSession.legacyParty testPrimitives).run t0 [.call .start,
          .receive (.pairingResponse ⟨0x03, 0x00, 0x05, 16, 0x00, 0x00⟩)]).outbound =
            [.pairingRequest t0.localFeatures, .pairingConfirm confirm] ∧
        ((LegacyPairingSession.legacyParty testPrimitives).run t0 [.call .start,
          .receive (.pairingResponse ⟨0x03, 0x00, 0x05, 16, 0x00, 0x00⟩),
          .receive (.pairingConfirm confirm), .receive (.pairingRandom t0.localRandom)]).state =
            .waitEncryption) := by
  constructor
  · exact ⟨_, rfl, by decide +kernel, by decide +kernel⟩
  · exact ⟨_, rfl, #v[212, 247, 126, 7, 132, 75, 3, 234, 131, 167, 212, 55, 242, 14, 156, 139],
      by decide +kernel, by decide +kernel⟩

end Bumble.Smp
