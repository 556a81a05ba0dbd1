import Bumble.SmpBond
import Bumble.ScAuthentication
import Bumble.LegacyRuns

/-!
# When a session has keys to hand over

A session keeps its own state and that of its key distribution in two records.
`KeyView` is what the two say about the keys, and `KeyStep` what an event can do to
them; every event is such a step, with one exception: a PDU that arrives when the
session is complete fails the session and leaves the key distribution complete.
-/

namespace Bumble.Smp

/-! ## 1. The view -/

inductive KeyPhase where
  | pairing
  | distributing
  | complete
  | failed
deriving DecidableEq, Repr

structure KeyView where
  phase : KeyPhase
  distribution : Option KeyDistributionSession

namespace KeyDistributionSession

/-- The phase a session takes over from its key distribution. -/
def phase (session : KeyDistributionSession) : KeyPhase :=
  match session.state with
  | .waitEncryption => .distributing
  | .distributing => .distributing
  | .complete => .complete
  | .failed => .failed

def view (session : KeyDistributionSession) : KeyView :=
  ⟨session.phase, some { session with outbound := [] }⟩

theorem distributeLocalKeys_state (session : KeyDistributionSession) :
    session.distributeLocalKeys.state = session.state := by
  unfold distributeLocalKeys
  split <;> rfl

theorem record_state (session : KeyDistributionSession) (pdu : SmpPdu) :
    (session.record pdu).state = session.state := by
  cases pdu <;> rfl

theorem new_markEncrypted_state (config : KeyDistributionConfig) :
    (new config).markEncrypted.state = .distributing ∨
      (new config).markEncrypted.state = .complete := by
  have hstate : (new config).state = .waitEncryption := rfl
  unfold markEncrypted
  rw [if_neg (not_not.mpr hstate)]
  dsimp only
  split
  · split
    · exact .inr rfl
    · left
      rw [distributeLocalKeys_state]
  · split
    · exact .inr rfl
    · exact .inl rfl

theorem process_state {session : KeyDistributionSession} (hstate : session.state = .distributing)
    (pdu : SmpPdu) :
    (session.process pdu).state = .distributing ∨ (session.process pdu).state = .complete ∨
      (session.process pdu).state = .failed := by
  unfold process
  rw [if_neg (by rw [hstate]; simp), if_neg (not_not.mpr hstate)]
  split
  · exact .inr (.inr rfl)
  · split
    · exact .inr (.inr rfl)
    · split
      · dsimp only
        split
        · exact .inr (.inl rfl)
        · left
          exact (record_state session _).trans hstate
      · exact .inr (.inr rfl)

theorem pairingKeys_isSome {κ : Type} (prim : Primitives κ) (session : KeyDistributionSession) :
    (session.pairingKeys prim).isSome ↔ session.state = .complete := by
  unfold pairingKeys
  split
  · next hstate => simpa using hstate
  · next hstate => simpa using hstate

end KeyDistributionSession

namespace KeyView

/-- What an event can do to the keys of a session. -/
inductive KeyStep (view : KeyView) : KeyView → Prop where
  | still : KeyStep view view
  | fails (hphase : view.phase ≠ .complete) : KeyStep view ⟨.failed, view.distribution⟩
  | begins (config : KeyDistributionConfig) (hphase : view.phase = .pairing) :
      KeyStep view (KeyDistributionSession.new config).markEncrypted.view
  | takes (session : KeyDistributionSession) (pdu : SmpPdu) (hphase : view.phase = .distributing)
      (hsession : view.distribution = some session) : KeyStep view (session.process pdu).view

theorem KeyStep.of_fails {view view' : KeyView} (hphase : view.phase ≠ .complete)
    (hfailed : view'.phase = .failed) (hdistribution : view'.distribution = view.distribution) :
    view.KeyStep view' := by
  have hview : view' = ⟨.failed, view.distribution⟩ := by
    rw [← hfailed, ← hdistribution]
  rw [hview]
  exact .fails hphase

theorem KeyStep.of_still {view view' : KeyView} (hphase : view'.phase = view.phase)
    (hdistribution : view'.distribution = view.distribution) : view.KeyStep view' := by
  have hview : view' = view := by
    cases view
    cases view'
    cases hphase
    cases hdistribution
    rfl
  rw [hview]
  exact .still

def Ready (view : KeyView) : Prop :=
  ∃ session, view.distribution = some session ∧ session.state = .complete

def Consistent (view : KeyView) : Prop :=
  match view.phase with
  | .pairing => view.distribution = none
  | .distributing => ∃ session, view.distribution = some session ∧ session.state = .distributing
  | .complete => view.Ready
  | .failed => ¬ view.Ready

variable {view view' : KeyView}

theorem Consistent.ready_iff (hview : view.Consistent) : view.Ready ↔ view.phase = .complete := by
  unfold Consistent at hview
  split at hview
  · next hphase => simp [Ready, hphase, hview]
  · next hphase =>
    obtain ⟨session, hsession, hstate⟩ := hview
    simp [Ready, hphase, hsession, hstate]
  · next hphase => simp [hphase, hview]
  · next hphase => simp [hphase, hview]

theorem consistent_view {session : KeyDistributionSession}
    (hstate : session.state ≠ .waitEncryption) : session.view.Consistent := by
  unfold Consistent KeyDistributionSession.view KeyDistributionSession.phase
  cases hsession : session.state with
  | waitEncryption => exact absurd hsession hstate
  | distributing => exact ⟨_, rfl, rfl⟩
  | complete => exact ⟨_, rfl, rfl⟩
  | failed =>
    rintro ⟨kept, hkept, hcomplete⟩
    cases hkept
    cases hcomplete

/-- **One event** keeps the two records in agreement. -/
theorem KeyStep.consistent (hstep : KeyStep view view') (hview : view.Consistent) :
    view'.Consistent := by
  cases hstep with
  | still => exact hview
  | fails hphase =>
    have hready : ¬ view.Ready := fun hready => hphase (hview.ready_iff.mp hready)
    exact hready
  | begins config hphase =>
    apply consistent_view
    rcases KeyDistributionSession.new_markEncrypted_state config with hstate | hstate
    · rw [hstate]
      simp
    · rw [hstate]
      simp
  | takes session pdu hphase hsession =>
    apply consistent_view
    unfold Consistent at hview
    rw [hphase] at hview
    obtain ⟨kept, hkept, hdistributing⟩ := hview
    cases hsession.symm.trans hkept
    rcases KeyDistributionSession.process_state hdistributing pdu with hstate | hstate | hstate
    · rw [hstate]
      simp
    · rw [hstate]
      simp
    · rw [hstate]
      simp

theorem KeyStep.stays_failed (hstep : KeyStep view view') (hfailed : view.phase = .failed) :
    view'.phase = .failed := by
  cases hstep with
  | still => exact hfailed
  | fails _ => rfl
  | begins _ hphase =>
    rw [hfailed] at hphase
    cases hphase
  | takes _ _ hphase _ =>
    rw [hfailed] at hphase
    cases hphase

end KeyView

/-! ## 2. Whole runs -/

section Runs

variable {σ ι : Type}

/-- A PDU of the run arrives when the session is complete. -/
def Late (party : Party σ ι SmpPdu) (view : σ → KeyView) (state : σ)
    (events : List (Event ι SmpPdu)) : Prop :=
  ∃ before pdu after, events = before ++ .receive pdu :: after ∧
    (view (party.run state before)).phase = .complete

/-- What the events of a party do to its keys: each is a step, except a late PDU. -/
structure Staged (party : Party σ ι SmpPdu) (view : σ → KeyView) (state : σ) : Prop where
  fresh : view state = ⟨.pairing, none⟩
  step : ∀ events event,
    (∀ pdu, event = .receive pdu → (view (party.run state events)).phase ≠ .complete) →
    (view (party.run state events)).KeyStep (view (party.run state (events ++ [event])))
  late : ∀ events pdu, (view (party.run state events)).phase = .complete →
    view (party.run state (events ++ [.receive pdu])) =
      ⟨.failed, (view (party.run state events)).distribution⟩

variable {party : Party σ ι SmpPdu} {view : σ → KeyView} {state : σ}

theorem Staged.consistent (hstaged : Staged party view state) (events : List (Event ι SmpPdu))
    (hlate : ¬ Late party view state events) : (view (party.run state events)).Consistent := by
  induction events using List.reverseRecOn with
  | nil =>
    change (view state).Consistent
    rw [hstaged.fresh]
    exact rfl
  | append_singleton events event ih =>
    have hbefore : ¬ Late party view state events := by
      rintro ⟨before, pdu, after, rfl, hcomplete⟩
      exact hlate ⟨before, pdu, after ++ [event], by simp, hcomplete⟩
    apply (hstaged.step events event ?_).consistent (ih hbefore)
    rintro pdu rfl hcomplete
    exact hlate ⟨events, pdu, [], rfl, hcomplete⟩

theorem Staged.stays_failed (hstaged : Staged party view state)
    {before : List (Event ι SmpPdu)} (hfailed : (view (party.run state before)).phase = .failed)
    (after : List (Event ι SmpPdu)) :
    (view (party.run state (before ++ after))).phase = .failed := by
  induction after using List.reverseRecOn with
  | nil =>
    rw [List.append_nil]
    exact hfailed
  | append_singleton after event ih =>
    rw [← List.append_assoc]
    apply (hstaged.step (before ++ after) event ?_).stays_failed ih
    intro pdu _ hcomplete
    rw [ih] at hcomplete
    cases hcomplete

theorem Staged.failed_or_consistent (hstaged : Staged party view state)
    (events : List (Event ι SmpPdu)) :
    (view (party.run state events)).phase = .failed ∨
      (view (party.run state events)).Consistent := by
  induction events using List.reverseRecOn with
  | nil =>
    right
    change (view state).Consistent
    rw [hstaged.fresh]
    exact rfl
  | append_singleton events event ih =>
    by_cases hevent : ∃ pdu, event = .receive pdu ∧
        (view (party.run state events)).phase = .complete
    · obtain ⟨pdu, rfl, hcomplete⟩ := hevent
      left
      rw [hstaged.late events pdu hcomplete]
    · have hstep := hstaged.step events event fun pdu hpdu hcomplete =>
        hevent ⟨pdu, hpdu, hcomplete⟩
      rcases ih with hfailed | hconsistent
      · exact .inl (hstep.stays_failed hfailed)
      · exact .inr (hstep.consistent hconsistent)

/-- **Whole runs**: the keys are ready exactly in the complete states, as long as no
    PDU is late. -/
theorem Staged.ready_iff_not_late (hstaged : Staged party view state)
    (events : List (Event ι SmpPdu)) :
    (∀ before after, events = before ++ after →
      ((view (party.run state before)).Ready ↔
        (view (party.run state before)).phase = .complete)) ↔
      ¬ Late party view state events := by
  constructor
  · rintro hready ⟨before, pdu, after, rfl, hcomplete⟩
    have hbefore := (hready before _ rfl).mpr hcomplete
    have hafter := hready (before ++ [.receive pdu]) after (by simp)
    rw [hstaged.late before pdu hcomplete] at hafter
    exact absurd (hafter.mp hbefore) (by simp)
  · rintro hlate before after rfl
    apply KeyView.Consistent.ready_iff
    apply hstaged.consistent before
    rintro ⟨first, pdu, rest, rfl, hcomplete⟩
    exact hlate ⟨first, pdu, rest ++ after, by simp, hcomplete⟩

/-- **From the parts of a party**: its calls, its polls and what it does with a PDU are
    steps of its keys in every state that its log shows. -/
theorem Staged.of_logged {P : Log σ SmpPdu → Prop}
    (hfresh : view state = ⟨.pairing, none⟩)
    (hshown : ∀ events, P (party.logged.run (.start SmpPdu state) events))
    (hcall : ∀ s input, (view s).KeyStep (view (party.call s input)))
    (hpoll : ∀ s message rest, party.poll s = some (message, rest) → view rest = view s)
    (hreceive : ∀ log, P log → (view log.state).phase ≠ .complete → ∀ pdu,
      (view log.state).KeyStep (view (party.receive log.state pdu)))
    (hlate : ∀ s, (view s).phase = .complete → ∀ pdu,
      view (party.receive s pdu) = ⟨.failed, (view s).distribution⟩) :
    Staged party view state where
  fresh := hfresh
  step := by
    intro events event hevent
    rw [Party.run_concat]
    cases event with
    | call input => exact hcall _ input
    | poll =>
      have hview : view (party.apply (party.run state events) .poll) =
          view (party.run state events) := by
        unfold Party.apply
        cases hpolled : party.poll (party.run state events) with
        | none => rfl
        | some polled => exact hpoll _ polled.1 polled.2 hpolled
      rw [hview]
      exact .still
    | receive pdu =>
      have hlog := hshown events
      have hstate : (party.logged.run (.start SmpPdu state) events).state =
          party.run state events := party.logged_run_state (.start SmpPdu state) events
      rw [← hstate] at hevent ⊢
      exact hreceive _ hlog (hevent pdu rfl) pdu
  late := by
    intro events pdu hcomplete
    rw [Party.run_concat]
    exact hlate _ hcomplete pdu

end Runs

/-! ## 3. Keys that are returned and stored -/

/-- What the sessions of either kind show of their keys, and the two calls that hand
    them over. -/
structure KeyInterface {κ : Type} (prim : Primitives κ) (σ : Type) where
  view : σ → KeyView
  bonding : σ → Bool
  pairingKeys : σ → Option PairingKeys
  storeBond : ∀ {τ ε : Type}, σ → KeyStoreUpdate τ ε → τ → Outcome τ ε Bool
  pairingKeys_eq : ∀ s, pairingKeys s = (view s).distribution.bind (·.pairingKeys prim)
  storeBond_eq : ∀ {τ ε : Type} (s : σ) (update : KeyStoreUpdate τ ε) (store : τ),
    storeBond s update store =
      if !bonding s then .ok store false
      else
        match (view s).distribution with
        | some distribution => distribution.storeBond prim update store
        | none => .ok store false

theorem KeyDistributionSession.storeBond_writes {κ : Type} {prim : Primitives κ}
    (session : KeyDistributionSession) :
    (∃ (σ ε : Type) (update : KeyStoreUpdate σ ε) (store : σ),
      (session.storeBond prim update store).state ≠ store) ↔ session.state = .complete := by
  constructor
  · rintro ⟨σ, ε, update, store, hwrites⟩
    rw [← pairingKeys_isSome prim]
    by_contra hnone
    apply hwrites
    unfold storeBond
    rw [Option.not_isSome_iff_eq_none.mp hnone]
    rfl
  · intro hcomplete
    obtain ⟨keys, hkeys⟩ :=
      Option.isSome_iff_exists.mp ((pairingKeys_isSome prim session).mpr hcomplete)
    -- a store that only remembers whether it was written to
    refine ⟨Bool, Unit, fun _ _ _ => .ok true (), false, ?_⟩
    unfold storeBond
    rw [hkeys]
    exact Bool.true_eq_false_eq_False

namespace KeyInterface

variable {κ σ ι : Type} {prim : Primitives κ} (keys : KeyInterface prim σ)

/-- Some key store is changed when the bond is stored. -/
def CanStore (s : σ) : Prop :=
  ∃ (τ ε : Type) (update : KeyStoreUpdate τ ε) (store : τ),
    (keys.storeBond s update store).state ≠ store

/-- A session has keys to return exactly when it is complete, and to store when
    bonding was agreed too. -/
structure KeysFollowState (s : σ) : Prop where
  returned : (keys.pairingKeys s).isSome ↔ (keys.view s).phase = .complete
  stored : keys.CanStore s ↔ (keys.view s).phase = .complete ∧ keys.bonding s = true

structure Forfeited (s : σ) : Prop where
  state : (keys.view s).phase = .failed
  returned : keys.pairingKeys s = none
  stored : ¬ keys.CanStore s

/-- Along a run keys come only from a completed pairing, and failures are final. -/
structure KeysOnlyFromCompletion (party : Party σ ι SmpPdu) (s0 : σ)
    (events : List (Event ι SmpPdu)) : Prop where
  follow : ∀ before after, events = before ++ after → keys.KeysFollowState (party.run s0 before)
  final : ∀ before middle after, events = before ++ middle ++ after →
    (keys.view (party.run s0 before)).phase = .failed →
    keys.Forfeited (party.run s0 (before ++ middle))

theorem pairingKeys_ready (s : σ) : (keys.pairingKeys s).isSome ↔ (keys.view s).Ready := by
  rw [keys.pairingKeys_eq]
  unfold KeyView.Ready
  cases (keys.view s).distribution with
  | none => simp
  | some session =>
    simpa using KeyDistributionSession.pairingKeys_isSome prim session

theorem canStore_ready (s : σ) :
    keys.CanStore s ↔ (keys.view s).Ready ∧ keys.bonding s = true := by
  unfold CanStore KeyView.Ready
  simp only [keys.storeBond_eq]
  cases keys.bonding s with
  | false => simp
  | true =>
    cases (keys.view s).distribution with
    | none => simp
    | some session => simpa using KeyDistributionSession.storeBond_writes session

theorem keysFollowState_iff (s : σ) :
    keys.KeysFollowState s ↔ ((keys.view s).Ready ↔ (keys.view s).phase = .complete) := by
  constructor
  · intro hfollow
    rw [← keys.pairingKeys_ready]
    exact hfollow.returned
  · intro hready
    refine ⟨(keys.pairingKeys_ready s).trans hready, ?_⟩
    rw [keys.canStore_ready, hready]

variable {keys}

theorem KeysFollowState.forfeited {s : σ} (hfollow : keys.KeysFollowState s)
    (hfailed : (keys.view s).phase = .failed) : keys.Forfeited s := by
  have hcomplete : (keys.view s).phase ≠ .complete := by
    rw [hfailed]
    simp
  refine ⟨hfailed, ?_, ?_⟩
  · exact Option.not_isSome_iff_eq_none.mp fun hsome => hcomplete (hfollow.returned.mp hsome)
  · exact fun hstores => hcomplete (hfollow.stored.mp hstores).1

/-- **Whole runs** of a party whose events are steps of its keys. -/
theorem keysOnlyFromCompletion_iff {party : Party σ ι SmpPdu} {s0 : σ}
    (hstaged : Staged party keys.view s0) (events : List (Event ι SmpPdu)) :
    keys.KeysOnlyFromCompletion party s0 events ↔ ¬ Late party keys.view s0 events := by
  rw [← hstaged.ready_iff_not_late]
  constructor
  · intro hkeys before after hsplit
    exact (keys.keysFollowState_iff _).mp (hkeys.follow before after hsplit)
  · intro hready
    have hfollow : ∀ before after, events = before ++ after →
        keys.KeysFollowState (party.run s0 before) :=
      fun before after hsplit => (keys.keysFollowState_iff _).mpr (hready before after hsplit)
    refine ⟨hfollow, ?_⟩
    intro before middle after hsplit hfailed
    apply (hfollow (before ++ middle) after hsplit).forfeited
    exact hstaged.stays_failed hfailed middle

end KeyInterface

/-! ## 4. Secure Connections sessions -/

namespace ScPairingSession

variable {κ : Type} {s s' s0 : ScPairingSession κ} (prim : Primitives κ)

def keyPhase : ScPairingState → KeyPhase
  | .keyDistribution => .distributing
  | .complete => .complete
  | .failed => .failed
  | _ => .pairing

def keyView (s : ScPairingSession κ) : KeyView := ⟨keyPhase s.state, s.distribution⟩

attribute [local grind =] keyPhase

theorem keyPhase_complete {state : ScPairingState} :
    keyPhase state = .complete ↔ state = .complete := by
  cases state <;> simp [keyPhase]

theorem keyPhase_failed {state : ScPairingState} : keyPhase state = .failed ↔ state = .failed := by
  cases state <;> simp [keyPhase]

theorem syncDistribution_keyView (distribution : KeyDistributionSession) :
    (s.syncDistribution distribution).keyView = distribution.view := by
  unfold syncDistribution keyView KeyDistributionSession.view KeyDistributionSession.phase
  cases hstate : distribution.state <;> simp [keyPhase]

theorem Stage.keyPhase {received queued : List SmpPdu} (hfresh : Fresh s0)
    (hstage : Stage prim s0 s received queued) : keyPhase s.state = .pairing := by
  cases hstage with
  | idle hs => rw [hs, hfresh.state]; rfl
  | requested hrole hs => rw [hs]; rfl
  | negotiated ex hstate _ _ _ => rw [hstate]; rfl
  | confirming ex hstate _ _ => rw [hstate]; rfl
  | committed ex confirm hstate _ _ => rw [hstate]; rfl
  | derived ex last hstate _ _ _ _ _ _ _ => rw [hstate]; rfl

theorem process_of_complete (hcomplete : s.state = .complete) (pdu : SmpPdu) :
    (s.process prim pdu).state.state = .failed ∧
      (s.process prim pdu).state.distribution = s.distribution := by
  rcases process_handle prim (by rw [hcomplete]; simp) (by rw [hcomplete]; simp) pdu with
    ⟨hfailed, hfollows⟩ | hhandle
  · exact ⟨hfailed, hfollows.distribution⟩
  · rw [hhandle, handle_of_concluded prim (by rw [hcomplete]; trivial)]
    exact ⟨fail_state _, (Follows.fail _).distribution⟩

section Steps

variable {prim} {log : Log (ScPairingSession κ) SmpPdu}

theorem process_keyStep (hfresh : Fresh s0) (hlog : Tracked prim s0 log)
    (hcomplete : log.state.state ≠ .complete) (pdu : SmpPdu) :
    log.state.keyView.KeyStep (log.state.process prim pdu).state.keyView := by
  have hphase : ScPairingSession.keyPhase log.state.state ≠ .complete :=
    fun hphase => hcomplete (keyPhase_complete.mp hphase)
  by_cases hfailed : log.state.state = .failed
  · have hsame : (log.state.process prim pdu).state = log.state := by
      unfold process
      rw [if_pos hfailed]
      rfl
    rw [hsame]
    exact .still
  · by_cases hkeys : log.state.state = .keyDistribution
    · unfold process
      rw [if_neg hfailed]
      split
      · exact .of_fails hphase rfl rfl
      · rw [if_pos hkeys]
        split
        · exact .still
        · next distribution hdistribution =>
          simp only [Outcome.ok_state]
          rw [syncDistribution_keyView]
          refine .takes distribution _ ?_ hdistribution
          unfold keyView
          rw [hkeys]
          rfl
    · rcases process_handle prim hfailed hkeys pdu with ⟨hfails, hfollows⟩ | hhandle
      · exact .of_fails hphase (keyPhase_failed.mpr hfails) hfollows.distribution
      · have hdistribution := (handle_silent prim (s := log.state) pdu).distribution
        rw [hhandle]
        rcases hlog with ⟨-, hfailed' | hstage⟩ | ⟨ex, last, -, hconcluded, -⟩
        · exact absurd hfailed' hfailed
        · have hpairing := hstage.keyPhase prim hfresh
          cases handle_reacts prim hfresh hstage pdu with
          | advances hadvances =>
            obtain ⟨pdus, -, hnext⟩ := hadvances
            exact .of_still ((hnext.keyPhase prim hfresh).trans hpairing.symm) hdistribution
          | fails hfails _ => exact .of_fails hphase (keyPhase_failed.mpr hfails) hdistribution
          | concludes ex last pdus _ hstate _ _ _ =>
            refine .of_still ?_ hdistribution
            change ScPairingSession.keyPhase _ = ScPairingSession.keyPhase _
            rw [hstate, hpairing]
            rfl
        · have hfails : (log.state.fail .invalidParameters).state = .failed := fail_state _
          rw [handle_of_concluded prim hconcluded]
          exact .of_fails hphase (keyPhase_failed.mpr hfails) (Follows.fail _).distribution

theorem markEncrypted_keyStep : s.keyView.KeyStep s.markEncrypted.state.keyView := by
  unfold markEncrypted
  split
  · exact .still
  · split
    · exact .still
    · next hwaiting =>
      simp only [Outcome.ok_state]
      rw [syncDistribution_keyView]
      refine .begins _ ?_
      unfold keyView
      rw [not_not.mp hwaiting]
      rfl

theorem call_keyStep (s : ScPairingSession κ) (input : ScInput) :
    s.keyView.KeyStep ((scParty prim).call s input).keyView := by
  cases input with
  | start =>
    change s.keyView.KeyStep s.start.state.keyView
    unfold start
    split
    · exact .still
    · next hmay =>
      have hidle := not_not.mp (not_or.mp hmay).2
      have hphase : ScPairingSession.keyPhase s.state = .pairing := by
        rw [hidle]
        rfl
      exact .of_still hphase.symm rfl
  | markEncrypted => exact markEncrypted_keyStep
  | setLocalKeyMaterial keys =>
    change s.keyView.KeyStep (s.setLocalKeyMaterial keys).state.keyView
    unfold setLocalKeyMaterial
    split <;> exact .still

theorem pollOutbound_keyView {pdu : SmpPdu} (hpoll : s.pollOutbound = some (pdu, s')) :
    s'.keyView = s.keyView := by
  unfold pollOutbound at hpoll
  split at hpoll
  · cases hpoll
  · cases hpoll
    rfl

end Steps

theorem staged (hfresh : Fresh s0) : Staged (scParty prim) keyView s0 := by
  apply Staged.of_logged (P := Tracked prim s0)
  · unfold keyView
    rw [hfresh.state, hfresh.distribution]
    rfl
  · exact tracked_run prim hfresh
  · exact call_keyStep
  · exact fun s message rest hpoll => pollOutbound_keyView hpoll
  · intro log hlog hcomplete pdu
    exact process_keyStep hfresh hlog (fun hstate => hcomplete (keyPhase_complete.mpr hstate)) pdu
  · intro s hcomplete pdu
    obtain ⟨hfailed, hdistribution⟩ :=
      process_of_complete prim (keyPhase_complete.mp hcomplete) pdu
    change keyView (s.process prim pdu).state = _
    unfold keyView
    rw [hfailed, hdistribution]
    rfl

/-- The keys of a Secure Connections session. -/
def keyInterface : KeyInterface prim (ScPairingSession κ) where
  view := keyView
  bonding s := s.outcome.any (·.bonding)
  pairingKeys := pairingKeys prim
  storeBond := storeBond prim
  pairingKeys_eq _ := rfl
  storeBond_eq _ _ _ := rfl

end ScPairingSession

/-! ## 5. Legacy sessions -/

namespace LegacyPairingSession

variable {κ : Type} {s s' s0 : LegacyPairingSession κ} (prim : Primitives κ)

def keyPhase : PairingState → KeyPhase
  | .keyDistribution => .distributing
  | .complete => .complete
  | .failed => .failed
  | _ => .pairing

def keyView (s : LegacyPairingSession κ) : KeyView := ⟨keyPhase s.state, s.distribution⟩

attribute [local grind =] keyPhase

theorem keyPhase_complete {state : PairingState} :
    keyPhase state = .complete ↔ state = .complete := by
  cases state <;> simp [keyPhase]

theorem keyPhase_failed {state : PairingState} : keyPhase state = .failed ↔ state = .failed := by
  cases state <;> simp [keyPhase]

theorem syncDistribution_keyView (distribution : KeyDistributionSession) :
    (s.syncDistribution distribution).keyView = distribution.view := by
  unfold syncDistribution keyView KeyDistributionSession.view KeyDistributionSession.phase
  cases hstate : distribution.state <;> simp [keyPhase]

theorem Stage.keyPhase {received queued : List SmpPdu} (hfresh : Fresh s0)
    (hstage : Stage prim s0 s received queued) : keyPhase s.state = .pairing := by
  cases hstage with
  | idle hs => rw [hs, hfresh.state]; rfl
  | requested hrole hs => rw [hs]; rfl
  | prepared ex hstate _ => rw [hstate]; rfl
  | committed ex confirm hstate _ _ => rw [hstate]; rfl

theorem process_of_complete (hcomplete : s.state = .complete) (pdu : SmpPdu) :
    Aborts s (s.process prim pdu).state := by
  rcases process_handle prim (by rw [hcomplete]; simp) (by rw [hcomplete]; simp) pdu with
    haborts | hhandle
  · exact haborts
  · rw [hhandle, handle_of_concluded prim (by rw [hcomplete]; trivial)]
    exact fail_aborts _

section Steps

variable {prim} {log : Log (LegacyPairingSession κ) SmpPdu}

theorem Aborts.keyStep (haborts : Aborts s s') (hcomplete : s.state ≠ .complete) :
    s.keyView.KeyStep s'.keyView := by
  apply KeyView.KeyStep.of_fails
  · exact fun hphase => hcomplete (keyPhase_complete.mp hphase)
  · exact keyPhase_failed.mpr haborts.state
  · exact haborts.distribution

theorem Stage.handle_keyStep {received queued : List SmpPdu} (hfresh : Fresh s0)
    (hstage : Stage prim s0 s received queued) (pdu : SmpPdu) :
    s.keyView.KeyStep (s.handle prim pdu).state.keyView := by
  have hpairing := hstage.keyPhase prim hfresh
  obtain ⟨-, -, -, -, hnone⟩ := hstage.state_mem prim hfresh
  cases handle_reacts prim hfresh hstage pdu with
  | advances pdus _ hnext =>
    obtain ⟨-, -, -, -, hnone'⟩ := hnext.state_mem prim hfresh
    exact .of_still ((hnext.keyPhase prim hfresh).trans hpairing.symm) (hnone'.trans hnone.symm)
  | aborts haborts =>
    apply haborts.keyStep
    intro hcomplete
    rw [hcomplete] at hpairing
    cases hpairing
  | concludes ex random pdus _ hstate hnone' _ _ _ =>
    refine .of_still ?_ (hnone'.trans hnone.symm)
    change LegacyPairingSession.keyPhase _ = LegacyPairingSession.keyPhase _
    rw [hstate, hpairing]
    rfl

theorem process_keyStep (hfresh : Fresh s0) (hlog : Tracked prim s0 log)
    (hcomplete : log.state.state ≠ .complete) (pdu : SmpPdu) :
    log.state.keyView.KeyStep (log.state.process prim pdu).state.keyView := by
  by_cases hfailed : log.state.state = .failed
  · have hsame : (log.state.process prim pdu).state = log.state := by
      unfold process
      rw [if_pos hfailed]
      rfl
    rw [hsame]
    exact .still
  · by_cases hkeys : log.state.state = .keyDistribution
    · unfold process
      rw [if_neg hfailed]
      split
      · exact Aborts.keyStep ⟨rfl, rfl, rfl⟩ hcomplete
      · rw [if_pos hkeys]
        split
        · exact .still
        · next distribution hdistribution =>
          simp only [Outcome.ok_state]
          rw [syncDistribution_keyView]
          refine .takes distribution _ ?_ hdistribution
          unfold keyView
          rw [hkeys]
          rfl
    · rcases process_handle prim hfailed hkeys pdu with haborts | hhandle
      · exact haborts.keyStep hcomplete
      · rw [hhandle]
        rcases hlog with ⟨-, -, hfailed' | hstage⟩ | ⟨ex, random, -, hconcluded, -, -⟩
        · exact absurd hfailed' hfailed
        · exact hstage.handle_keyStep hfresh pdu
        · rw [handle_of_concluded prim hconcluded]
          exact (fail_aborts _).keyStep hcomplete

theorem markEncrypted_keyStep : s.keyView.KeyStep s.markEncrypted.state.keyView := by
  unfold markEncrypted
  split
  · exact .still
  · split
    · exact .still
    · next hwaiting =>
      simp only [Outcome.ok_state]
      rw [syncDistribution_keyView]
      refine .begins _ ?_
      unfold keyView
      rw [not_not.mp hwaiting]
      rfl

theorem call_keyStep (s : LegacyPairingSession κ) (input : LegacyInput) :
    s.keyView.KeyStep ((legacyParty prim).call s input).keyView := by
  cases input with
  | start =>
    change s.keyView.KeyStep s.start.state.keyView
    unfold start
    split
    · exact .still
    · next hmay =>
      have hidle := not_not.mp (not_or.mp hmay).2
      have hphase : LegacyPairingSession.keyPhase s.state = .pairing := by
        rw [hidle]
        rfl
      exact .of_still hphase.symm rfl
  | markEncrypted => exact markEncrypted_keyStep
  | setLocalKeyMaterial keys =>
    change s.keyView.KeyStep (s.setLocalKeyMaterial keys).state.keyView
    unfold setLocalKeyMaterial
    split <;> exact .still

theorem pollOutbound_keyView {pdu : SmpPdu} (hpoll : s.pollOutbound = some (pdu, s')) :
    s'.keyView = s.keyView := by
  unfold pollOutbound at hpoll
  split at hpoll
  · cases hpoll
  · cases hpoll
    rfl

end Steps

theorem staged (hfresh : Fresh s0) : Staged (legacyParty prim) keyView s0 := by
  apply Staged.of_logged (P := Tracked prim s0)
  · unfold keyView
    rw [hfresh.state, hfresh.distribution]
    rfl
  · exact tracked_run prim hfresh
  · exact call_keyStep
  · exact fun s message rest hpoll => pollOutbound_keyView hpoll
  · intro log hlog hcomplete pdu
    exact process_keyStep hfresh hlog (fun hstate => hcomplete (keyPhase_complete.mpr hstate)) pdu
  · intro s hcomplete pdu
    have haborts := process_of_complete prim (keyPhase_complete.mp hcomplete) pdu
    change keyView (s.process prim pdu).state = _
    unfold keyView
    rw [haborts.state, haborts.distribution]
    rfl

/-- The keys of a legacy session. -/
def keyInterface : KeyInterface prim (LegacyPairingSession κ) where
  view := keyView
  bonding s := s.outcome.any (·.bonding)
  pairingKeys := pairingKeys prim
  storeBond := storeBond prim
  pairingKeys_eq _ := rfl
  storeBond_eq _ _ _ := rfl

end LegacyPairingSession

/-! ## 6. Both kinds of sessions -/

section Keys

variable {κ : Type} {prim : Primitives κ}

/-- A run with no late PDU, said of the states of the sessions. -/
theorem not_late_iff {σ ι : Type} {party : Party σ ι SmpPdu} {view : σ → KeyView} {s0 : σ}
    {P : σ → Prop} (hcomplete : ∀ s, (view s).phase = .complete ↔ P s)
    (events : List (Event ι SmpPdu)) :
    ¬ Late party view s0 events ↔
      ∀ before pdu after, events = before ++ .receive pdu :: after →
        ¬ P (party.run s0 before) := by
  constructor
  · intro hlate before pdu after hsplit hstate
    exact hlate ⟨before, pdu, after, hsplit, (hcomplete _).mpr hstate⟩
  · rintro htimely ⟨before, pdu, after, hsplit, hstate⟩
    exact htimely before pdu after hsplit ((hcomplete _).mp hstate)

variable (prim) in
/-- **Keys only from a completed pairing**, for both kinds of sessions and whatever
    arrives and is called: exactly in the runs in which nothing arrives when the session
    is complete. -/
theorem keys_only_from_completion_iff {role role' : PairingRole} {config config' : PairingConfig κ}
    {delegate delegate' : PairingDelegate}
    {initiatorAddress responderAddress initiatorAddress' responderAddress' : Address} {eccKey : κ}
    {localNonce localRandom : Octets 16} {random128 random128' : Nat → Octets 16}
    {s0 : ScPairingSession κ} {t0 : LegacyPairingSession κ}
    (hnew : ScPairingSession.new role config delegate initiatorAddress responderAddress eccKey
      localNonce random128 = .ok s0)
    (hnew' : LegacyPairingSession.new role' config' delegate' initiatorAddress' responderAddress'
      localRandom random128' = .ok t0)
    (events : List (Event ScPairingSession.ScInput SmpPdu))
    (events' : List (Event LegacyPairingSession.LegacyInput SmpPdu)) :
    ((ScPairingSession.keyInterface prim).KeysOnlyFromCompletion
        (ScPairingSession.scParty prim) s0 events ↔
      ∀ before pdu after, events = before ++ .receive pdu :: after →
        ((ScPairingSession.scParty prim).run s0 before).state ≠ .complete) ∧
    ((LegacyPairingSession.keyInterface prim).KeysOnlyFromCompletion
        (LegacyPairingSession.legacyParty prim) t0 events' ↔
      ∀ before pdu after, events' = before ++ .receive pdu :: after →
        ((LegacyPairingSession.legacyParty prim).run t0 before).state ≠ .complete) := by
  constructor
  · have hstaged := ScPairingSession.staged prim (ScPairingSession.new_fresh hnew)
    exact (KeyInterface.keysOnlyFromCompletion_iff hstaged events).trans
      (not_late_iff (P := fun s : ScPairingSession κ => s.state = .complete)
        (fun _ => ScPairingSession.keyPhase_complete) events)
  · have hstaged := LegacyPairingSession.staged prim (LegacyPairingSession.new_fresh hnew')
    exact (KeyInterface.keysOnlyFromCompletion_iff hstaged events').trans
      (not_late_iff (P := fun s : LegacyPairingSession κ => s.state = .complete)
        (fun _ => LegacyPairingSession.keyPhase_complete) events')

end Keys

/-! ### The sessions of the tests -/

theorem forall_split_of_take {α : Type} {elements : List α} {P : List α → Prop}
    (htake : ∀ n < elements.length, P (elements.take n)) (before : List α) (element : α)
    (after : List α) (hsplit : elements = before ++ element :: after) : P before := by
  subst hsplit
  have hbefore := htake before.length (by simp)
  rw [List.take_left] at hbefore
  exact hbefore

/-- A legacy pairing in which no keys are to be exchanged, up to its completion. -/
def completingEvents : List (Event LegacyPairingSession.LegacyInput SmpPdu) :=
  [.call .start, .receive (.pairingResponse ⟨0x03, 0x00, 0x05, 16, 0x00, 0x00⟩),
    .receive (.pairingConfirm #v[83, 12, 52, 199, 37, 184, 218, 157, 75, 184, 244, 158, 98, 63, 27,
      190]),
    .receive (.pairingRandom testResponderNonce), .call .markEncrypted]

/-- The PDUs of a Secure Connections pairing up to the encryption. -/
def heardEvents : List (Event ScPairingSession.ScInput SmpPdu) :=
  ScPairingSession.heardByResponder.map Event.receive

theorem keys_only_from_completion_test :
    ∃ s0 t0, ScPairingSession.new .responder (testConfig true none) testDelegate
        testInitiatorAddress testResponderAddress .b testResponderNonce testRandom128 = .ok s0 ∧
      LegacyPairingSession.testSession .initiator testInitiatorNonce = .ok t0 ∧
      (ScPairingSession.keyInterface testPrimitives).KeysOnlyFromCompletion
        (ScPairingSession.scParty testPrimitives) s0 heardEvents ∧
      (LegacyPairingSession.keyInterface testPrimitives).KeysOnlyFromCompletion
        (LegacyPairingSession.legacyParty testPrimitives) t0 completingEvents := by
  have hsecure : ∃ s0, ScPairingSession.new .responder (testConfig true none) testDelegate
        testInitiatorAddress testResponderAddress .b testResponderNonce testRandom128 = .ok s0 ∧
      ∀ n < heardEvents.length,
        ((ScPairingSession.scParty testPrimitives).run s0 (heardEvents.take n)).state ≠ .complete :=
    ⟨_, rfl, by decide +kernel⟩
  have hlegacy : ∃ t0, LegacyPairingSession.testSession .initiator testInitiatorNonce = .ok t0 ∧
      ∀ n < completingEvents.length, ((LegacyPairingSession.legacyParty testPrimitives).run t0
        (completingEvents.take n)).state ≠ .complete :=
    ⟨_, rfl, by decide +kernel⟩
  obtain ⟨s0, hnew, htimely⟩ := hsecure
  obtain ⟨t0, hnew', htimely'⟩ := hlegacy
  obtain ⟨hsecure, hlegacy⟩ := keys_only_from_completion_iff testPrimitives hnew hnew'
    heardEvents completingEvents
  refine ⟨s0, t0, hnew, hnew', hsecure.mpr ?_, hlegacy.mpr ?_⟩
  · intro before pdu
    exact forall_split_of_take
      (P := fun before => ((ScPairingSession.scParty testPrimitives).run s0 before).state ≠
        .complete)
      htimely before (.receive pdu)
  · intro before pdu
    exact forall_split_of_take
      (P := fun before =>
        ((LegacyPairingSession.legacyParty testPrimitives).run t0 before).state ≠ .complete)
      htimely' before (.receive pdu)

/-- A completed pairing is reported as failed after one more PDU, and its keys are
    still handed over and stored. -/
theorem keys_after_late_pdu :
    ∃ t0, LegacyPairingSession.testSession .initiator testInitiatorNonce = .ok t0 ∧
      ((LegacyPairingSession.legacyParty testPrimitives).run t0
        (completingEvents ++ [.receive (.pairingFailed 0x08)])).state = .failed ∧
      (((LegacyPairingSession.legacyParty testPrimitives).run t0
        (completingEvents ++ [.receive (.pairingFailed 0x08)])).pairingKeys
          testPrimitives).isSome = true ∧
      (LegacyPairingSession.keyInterface testPrimitives).CanStore
        ((LegacyPairingSession.legacyParty testPrimitives).run t0
          (completingEvents ++ [.receive (.pairingFailed 0x08)])) := by
  have hends : ∃ t0, LegacyPairingSession.testSession .initiator testInitiatorNonce = .ok t0 ∧
      ((LegacyPairingSession.legacyParty testPrimitives).run t0
        (completingEvents ++ [.receive (.pairingFailed 0x08)])).state = .failed ∧
      (((LegacyPairingSession.legacyParty testPrimitives).run t0
        (completingEvents ++ [.receive (.pairingFailed 0x08)])).pairingKeys
          testPrimitives).isSome = true ∧
      ((LegacyPairingSession.legacyParty testPrimitives).run t0
        (completingEvents ++ [.receive (.pairingFailed 0x08)])).outcome.any (·.bonding) = true :=
    ⟨_, rfl, by decide +kernel⟩
  obtain ⟨t0, hnew, hfailed, hkeys, hbonding⟩ := hends
  refine ⟨t0, hnew, hfailed, hkeys, ?_⟩
  rw [KeyInterface.canStore_ready, ← KeyInterface.pairingKeys_ready]
  exact ⟨hkeys, hbonding⟩

end Bumble.Smp
