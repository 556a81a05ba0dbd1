import Bumble.KeyPhases

/-!
# Two key distributions that face each other

Both sides of an encrypted link distribute the keys that were agreed, the responder
first.  What a side has received is always a beginning of what its peer distributes,
and that determines the side's state: `Progress`.  So every run ends with both sides
complete, and the keys of the two sides mirror each other.
-/

namespace Bumble.Smp.KeyDistributionSession

/-! ## 1. The net -/

/-- Two configurations that result from one pairing. -/
structure Facing (config config' : KeyDistributionConfig) : Prop where
  role : config'.role ≠ config.role
  secureConnections : config'.secureConnections = config.secureConnections
  ct2 : config'.ct2 = config.ct2
  size : config'.maximumEncryptionKeySize = config.maximumEncryptionKeySize
  pairingLtk : config'.pairingLtk = config.pairingLtk
  initiatorKeys : config'.initiatorKeys = config.initiatorKeys
  responderKeys : config'.responderKeys = config.responderKeys

/-- A key distribution as a party; its one call is `mark_encrypted`. -/
def distributionParty : Party KeyDistributionSession Unit SmpPdu where
  call session _ := session.markEncrypted
  poll session := session.pollOutbound
  receive session pdu := session.process pdu

/-- The moves of the left side that change anything; a PDU is delivered once both
    sides have been told that the link is encrypted. -/
def Enabled (net : Net KeyDistributionSession SmpPdu) : Move Unit → Prop
  | .call _ => net.left.state = .waitEncryption
  | .poll => net.left.outbound ≠ []
  | .deliver =>
    net.toLeft ≠ [] ∧ net.left.state ≠ .waitEncryption ∧ net.right.state ≠ .waitEncryption
  | .lose _ => False

instance (net : Net KeyDistributionSession SmpPdu) (move : Move Unit) :
    Decidable (Enabled net move) :=
  match move with
  | .call _ => inferInstanceAs (Decidable (_ = _))
  | .poll => inferInstanceAs (Decidable (_ ≠ _))
  | .deliver => inferInstanceAs (Decidable (_ ∧ _ ∧ _))
  | .lose _ => .isFalse id

def Finished (net : Net KeyDistributionSession SmpPdu) : Prop :=
  ∀ action, ¬ Net.AllowedStep Enabled net action

variable {config config' : KeyDistributionConfig} {session : KeyDistributionSession}

theorem Facing.symm (hfacing : Facing config config') : Facing config' config where
  role := hfacing.role.symm
  secureConnections := hfacing.secureConnections.symm
  ct2 := hfacing.ct2.symm
  size := hfacing.size.symm
  pairingLtk := hfacing.pairingLtk.symm
  initiatorKeys := hfacing.initiatorKeys.symm
  responderKeys := hfacing.responderKeys.symm

theorem Facing.peerFlags (hfacing : Facing config config') :
    config.peerFlags = config'.localFlags := by
  have hrole := hfacing.role
  unfold KeyDistributionConfig.peerFlags KeyDistributionConfig.localFlags
  rw [hfacing.initiatorKeys, hfacing.responderKeys]
  cases hside : config.role <;> cases hside' : config'.role <;> simp_all

/-! ## 2. What is sent and what is expected -/

theorem kindOf_localDistribution {pdu : SmpPdu} (hpdu : pdu ∈ config.localDistribution) :
    (kindOf pdu).isSome := by
  unfold KeyDistributionConfig.localDistribution at hpdu
  rcases List.mem_append.mp hpdu with hpdu | hpdu
  · rcases List.mem_append.mp hpdu with hpdu | hpdu
    · split at hpdu
      · rcases List.mem_cons.mp hpdu with rfl | hpdu
        · rfl
        · rw [List.mem_singleton.mp hpdu]
          rfl
      · cases hpdu
    · split at hpdu
      · rcases List.mem_cons.mp hpdu with rfl | hpdu
        · rfl
        · rw [List.mem_singleton.mp hpdu]
          rfl
      · cases hpdu
  · split at hpdu
    · rw [List.mem_singleton.mp hpdu]
      rfl
    · cases hpdu

theorem Facing.expected (hfacing : Facing config config') :
    expectedDistributions config.secureConnections config.peerFlags =
      config'.localDistribution.filterMap kindOf := by
  unfold expectedDistributions KeyDistributionConfig.localDistribution
  rw [hfacing.peerFlags, hfacing.secureConnections, List.filterMap_append, List.filterMap_append]
  congr 1
  · congr 1
    · split <;> rfl
    · split <;> rfl
  · split <;> rfl

/-! ## 3. One side -/

/-- A side that has received some keys and still waits for the rest. -/
def after (config : KeyDistributionConfig) (received rest outbound : List SmpPdu) :
    KeyDistributionSession :=
  { received.foldl record (new config) with
    state := if rest.isEmpty then .complete else .distributing
    outbound := outbound
    expected := rest.filterMap kindOf
    localSent := config.role = .responder || rest.isEmpty }

/-- The keys a side has distributed when it waits for the rest of its peer's. -/
def distributed (config : KeyDistributionConfig) (rest : List SmpPdu) : List SmpPdu :=
  if config.role = .responder || rest.isEmpty then config.localDistribution else []

@[simp] theorem after_state (received rest outbound : List SmpPdu) :
    (after config received rest outbound).state =
      if rest.isEmpty then .complete else .distributing := rfl

@[simp] theorem after_outbound (received rest outbound : List SmpPdu) :
    (after config received rest outbound).outbound = outbound := rfl

theorem foldl_record_config (received : List SmpPdu) :
    (received.foldl record session).config = session.config := by
  induction received generalizing session with
  | nil => rfl
  | cons pdu received ih =>
    rw [List.foldl_cons, ih]
    cases pdu <;> rfl

@[simp] theorem after_config (received rest outbound : List SmpPdu) :
    (after config received rest outbound).config = config := foldl_record_config received

theorem record_update (state : KeyDistributionState) (outbound : List SmpPdu)
    (expected : List DistributionKind) (localSent : Bool) (pdu : SmpPdu) :
    record { session with
        state := state, outbound := outbound, expected := expected, localSent := localSent } pdu =
      { record session pdu with
        state := state, outbound := outbound, expected := expected, localSent := localSent } := by
  cases pdu <;> rfl

theorem filterMap_kindOf_eq_nil {pdus : List SmpPdu}
    (hkinds : ∀ pdu ∈ pdus, (kindOf pdu).isSome) : pdus.filterMap kindOf = [] ↔ pdus = [] := by
  cases pdus with
  | nil => simp
  | cons pdu pdus =>
    obtain ⟨kind, hkind⟩ := Option.isSome_iff_exists.mp (hkinds pdu List.mem_cons_self)
    simp [List.filterMap_cons_some hkind]

/-- **The link is encrypted**: the responder distributes its keys, and so does an
    initiator with nothing to wait for. -/
theorem markEncrypted_new (hfacing : Facing config config') :
    (new config).markEncrypted =
      after config [] config'.localDistribution (distributed config config'.localDistribution) := by
  have hstate : (new config).state = .waitEncryption := rfl
  have hnil : config'.localDistribution.filterMap kindOf = [] ↔ config'.localDistribution = [] :=
    filterMap_kindOf_eq_nil fun _ hpdu => kindOf_localDistribution hpdu
  unfold markEncrypted
  rw [if_neg (not_not.mpr hstate)]
  unfold distributed after
  cases hrole : config.role with
  | initiator =>
    by_cases hnone : config'.localDistribution = [] <;>
      simp [peerDistributionComplete, distributeLocalKeys, hrole, hfacing.expected,
        hnil, hnone, new]
  | responder =>
    by_cases hnone : config'.localDistribution = [] <;>
      simp [peerDistributionComplete, distributeLocalKeys, hrole, hfacing.expected,
        hnil, hnone, new]

/-- **A key arrives**: it is kept, and with the last one an initiator distributes
    its own. -/
theorem after_process {received rest outbound : List SmpPdu} {pdu : SmpPdu}
    (hkinds : ∀ other ∈ pdu :: rest, (kindOf other).isSome) :
    (after config received (pdu :: rest) outbound).process pdu =
      after config (received ++ [pdu]) rest (outbound ++
        if config.role = .initiator ∧ rest.isEmpty then config.localDistribution else []) := by
  obtain ⟨kind, hkind⟩ := Option.isSome_iff_exists.mp (hkinds pdu List.mem_cons_self)
  have hnil : rest.filterMap kindOf = [] ↔ rest = [] :=
    filterMap_kindOf_eq_nil fun other hother => hkinds other (List.mem_cons_of_mem _ hother)
  have hexpected : (after config received (pdu :: rest) outbound).expected =
      kind :: rest.filterMap kindOf := List.filterMap_cons_some hkind
  have hstate : (after config received (pdu :: rest) outbound).state = .distributing := rfl
  have hrecord : (after config received (pdu :: rest) outbound).record pdu =
      { (received ++ [pdu]).foldl record (new config) with
        state := .distributing
        outbound := outbound
        expected := kind :: rest.filterMap kindOf
        localSent := config.role = .responder || false } := by
    rw [List.foldl_append]
    unfold after
    rw [record_update, List.filterMap_cons_some hkind]
    rfl
  unfold process
  rw [if_neg (by rw [hstate]; simp), if_neg (not_not.mpr hstate)]
  split
  · cases hkind
  · rw [hkind]
    dsimp only
    rw [if_pos (by rw [hexpected]; exact List.mem_cons_self), hrecord, List.erase_cons_head]
    unfold after
    have hconfig : ((received ++ [pdu]).foldl record (new config)).config = config :=
      foldl_record_config _
    revert hconfig
    generalize (received ++ [pdu]).foldl record (new config) = kept
    intro hconfig
    by_cases hlast : rest = []
    · cases hrole : config.role <;>
        simp [peerDistributionComplete, distributeLocalKeys, hlast, hrole, hconfig]
    · cases hrole : config.role <;> simp [hnil, hlast]

/-- How far a side is: it waits for the encryption, or it has received a beginning of
    what its peer distributes. -/
inductive Progress (config config' : KeyDistributionConfig) (session : KeyDistributionSession)
    (received queued : List SmpPdu) : Prop where
  | waiting (hsession : session = new config) (hreceived : received = []) (hqueued : queued = [])
  | begun (rest : List SmpPdu) (hrest : config'.localDistribution = received ++ rest)
      (hsession : session = after config received rest session.outbound)
      (hqueued : queued = distributed config rest)

theorem distributed_next (config : KeyDistributionConfig) (pdu : SmpPdu) (rest : List SmpPdu) :
    distributed config (pdu :: rest) ++
        (if config.role = .initiator ∧ rest.isEmpty then config.localDistribution else []) =
      distributed config rest := by
  unfold distributed
  cases hrole : config.role <;> cases rest <;> simp

theorem distributed_prefix (config : KeyDistributionConfig) (rest : List SmpPdu) :
    distributed config rest <+: config.localDistribution := by
  unfold distributed
  split
  · exact List.prefix_rfl
  · exact List.nil_prefix

section Progress

variable {received queued : List SmpPdu}

theorem Progress.mark (hfacing : Facing config config')
    (hprogress : Progress config config' session received queued)
    (hstate : session.state = .waitEncryption) :
    Progress config config' session.markEncrypted received
        (queued ++ session.markEncrypted.outbound) ∧
      session.markEncrypted.state ≠ .waitEncryption ∧ session.outbound = [] := by
  cases hprogress with
  | waiting hsession hreceived hqueued =>
    subst hsession hreceived hqueued
    rw [markEncrypted_new hfacing]
    refine ⟨.begun _ rfl rfl rfl, ?_, rfl⟩
    rw [after_state]
    split <;> simp
  | begun rest hrest hsession hqueued =>
    rw [hsession, after_state] at hstate
    split at hstate <;> cases hstate

theorem Progress.begun_of_state (hprogress : Progress config config' session received queued)
    (hstate : session.state ≠ .waitEncryption) :
    ∃ rest, config'.localDistribution = received ++ rest ∧
      session = after config received rest session.outbound ∧
      queued = distributed config rest := by
  cases hprogress with
  | waiting hsession _ _ => exact absurd (by rw [hsession]; rfl) hstate
  | begun rest hrest hsession hqueued => exact ⟨rest, hrest, hsession, hqueued⟩

theorem Progress.received_prefix (hprogress : Progress config config' session received queued) :
    received <+: config'.localDistribution := by
  cases hprogress with
  | waiting _ hreceived _ =>
    rw [hreceived]
    exact List.nil_prefix
  | begun rest hrest _ _ =>
    rw [hrest]
    exact List.prefix_append _ _

theorem Progress.queued_prefix (hprogress : Progress config config' session received queued) :
    queued <+: config.localDistribution := by
  cases hprogress with
  | waiting _ _ hqueued =>
    rw [hqueued]
    exact List.nil_prefix
  | begun rest _ _ hqueued =>
    rw [hqueued]
    exact distributed_prefix config rest

theorem Progress.not_failed (hprogress : Progress config config' session received queued) :
    session.state ≠ .failed := by
  cases hprogress with
  | waiting hsession _ _ =>
    rw [hsession]
    simp [new]
  | begun rest _ hsession _ =>
    rw [hsession, after_state]
    split <;> simp

theorem Progress.poll (hprogress : Progress config config' session received queued)
    (outbound : List SmpPdu) (hstate : session.state ≠ .waitEncryption) :
    Progress config config' { session with outbound := outbound } received queued := by
  obtain ⟨rest, hrest, hsession, hqueued⟩ := hprogress.begun_of_state hstate
  refine .begun rest hrest ?_ hqueued
  rw [hsession]
  rfl

theorem Progress.take {pdu : SmpPdu} {more : List SmpPdu}
    (hprogress : Progress config config' session received queued)
    (hstate : session.state ≠ .waitEncryption)
    (hnext : config'.localDistribution = received ++ pdu :: more) :
    ∃ pdus, (session.process pdu).outbound = session.outbound ++ pdus ∧
      Progress config config' (session.process pdu) (received ++ [pdu]) (queued ++ pdus) ∧
      (session.process pdu).state ≠ .waitEncryption := by
  obtain ⟨rest, hrest, hsession, hqueued⟩ := hprogress.begun_of_state hstate
  have hsame : rest = pdu :: more := List.append_cancel_left (hrest.symm.trans hnext)
  subst hsame
  have hkinds : ∀ other ∈ pdu :: more, (kindOf other).isSome := by
    intro other hother
    have hmem : other ∈ config'.localDistribution := by
      rw [hrest]
      exact List.mem_append_right _ hother
    exact kindOf_localDistribution hmem
  have hprocess : session.process pdu = after config (received ++ [pdu]) more (session.outbound ++
      if config.role = .initiator ∧ more.isEmpty then config.localDistribution else []) := by
    rw [hsession]
    exact after_process hkinds
  refine ⟨if config.role = .initiator ∧ more.isEmpty then config.localDistribution else [], ?_,
    .begun more ?_ ?_ ?_, ?_⟩
  · rw [hprocess, after_outbound]
  · rw [List.append_assoc]
    exact hrest
  · rw [hprocess]
    rfl
  · rw [hqueued]
    exact distributed_next config pdu more
  · rw [hprocess, after_state]
    split <;> simp

end Progress

/-! ## 4. Both sides -/

/-- Both sides, and what is under way between them. -/
structure Paired (config config' : KeyDistributionConfig)
    (net : Net (Log KeyDistributionSession SmpPdu) SmpPdu) : Prop where
  left : Progress config config' net.left.state net.left.received
    (net.left.sent ++ net.left.state.outbound)
  right : Progress config' config net.right.state net.right.received
    (net.right.sent ++ net.right.state.outbound)
  meet : net.LogsMeet

def effort (log : Log KeyDistributionSession SmpPdu) : Nat :=
  (if log.state.state = .waitEncryption then 0 else 1) + log.sent.length + log.received.length

variable {net : Net (Log KeyDistributionSession SmpPdu) SmpPdu}

theorem Paired.swap (hnet : Paired config config' net) : Paired config' config net.swap :=
  ⟨hnet.right, hnet.left, hnet.meet.swap⟩

theorem enabled_lossless {net : Net KeyDistributionSession SmpPdu} {move : Move Unit}
    (henabled : Enabled net move) {σ : Type} (net' : Net σ SmpPdu) : net'.Lossless move := by
  cases move with
  | call input => trivial
  | poll => trivial
  | deliver => trivial
  | lose index => exact henabled.elim

/-- **One move.**  A side keeps its pace, and something has been done. -/
theorem Paired.stepLeft (hfacing : Facing config config') (hnet : Paired config config' net)
    {move : Move Unit} (henabled : Enabled net.forget move) :
    Paired config config' (net.stepLeft distributionParty.logged move) ∧
      effort (net.stepLeft distributionParty.logged move).left = effort net.left + 1 ∧
      (net.stepLeft distributionParty.logged move).right = net.right := by
  have hmeet : (net.stepLeft distributionParty.logged move).LogsMeet :=
    hnet.meet.stepLeft (enabled_lossless henabled net)
  have hright : (net.stepLeft distributionParty.logged move).right = net.right :=
    Net.stepLeft_right net move
  cases move with
  | call input =>
    have hwaiting : net.left.state.state = .waitEncryption := henabled
    obtain ⟨hprogress, hmarked, hempty⟩ := hnet.left.mark hfacing hwaiting
    refine ⟨⟨?_, hnet.right, hmeet⟩, ?_, hright⟩
    · rw [hempty, List.append_nil] at hprogress
      exact hprogress
    · have heffort : ∀ log : Log KeyDistributionSession SmpPdu,
          log = { net.left with state := net.left.state.markEncrypted } →
          effort log = effort net.left + 1 := by
        rintro log rfl
        unfold effort
        rw [if_neg hmarked, if_pos hwaiting]
        dsimp only
        omega
      exact heffort _ rfl
  | poll =>
    have hqueue : net.left.state.outbound ≠ [] := henabled
    have hbegun : net.left.state.state ≠ .waitEncryption := by
      intro hwaiting
      exact hqueue (hnet.left.mark hfacing hwaiting).2.2
    obtain ⟨pdu, outbound, hcons⟩ := List.exists_cons_of_ne_nil hqueue
    have hpoll : distributionParty.logged.poll net.left = some (pdu,
        { net.left with
          state := { net.left.state with outbound := outbound }
          sent := net.left.sent ++ [pdu] }) := by
      simp [Party.logged, distributionParty, pollOutbound, hcons]
    rw [Net.stepLeft_poll_some hpoll] at hmeet hright ⊢
    refine ⟨⟨?_, hnet.right, hmeet⟩, ?_, rfl⟩
    · have hprogress := hnet.left.poll outbound hbegun
      rw [hcons] at hprogress
      simpa using hprogress
    · unfold effort
      simp only [List.length_append, List.length_singleton, if_neg hbegun]
      omega
  | deliver =>
    obtain ⟨hlink, hbegun, hbegun'⟩ := henabled
    obtain ⟨pdu, toLeft, hcons⟩ := List.exists_cons_of_ne_nil hlink
    have hcons : net.toLeft = pdu :: toLeft := hcons
    -- what is under way comes from a peer that has begun, so it is the next of its keys
    have hnext : config'.localDistribution =
        net.left.received ++ pdu :: (toLeft ++ net.right.state.outbound) := by
      obtain ⟨rest, -, -, hqueued⟩ := hnet.right.begun_of_state hbegun'
      rw [← hnet.meet.left, hcons] at hqueued
      unfold distributed at hqueued
      split at hqueued
      · rw [← hqueued]
        simp
      · simp at hqueued
    obtain ⟨pdus, houtbound, hprogress, hstate⟩ := hnet.left.take hbegun hnext
    rw [Net.stepLeft_deliver_cons hcons] at hmeet hright ⊢
    refine ⟨⟨?_, hnet.right, hmeet⟩, ?_, rfl⟩
    · change Progress config config' (net.left.state.process pdu) (net.left.received ++ [pdu])
        (net.left.sent ++ (net.left.state.process pdu).outbound)
      rw [houtbound, ← List.append_assoc]
      exact hprogress
    · have heffort : ∀ log : Log KeyDistributionSession SmpPdu,
          log = { net.left with
            state := net.left.state.process pdu, received := net.left.received ++ [pdu] } →
          effort log = effort net.left + 1 := by
        rintro log rfl
        have hbegun : net.left.state.state ≠ .waitEncryption := hbegun
        unfold effort
        simp only [List.length_append, List.length_singleton, if_neg hstate, if_neg hbegun]
        omega
      exact heffort _ rfl
  | lose index => exact henabled.elim

/-- **A whole run** keeps the pace, and every move of it counts. -/
theorem Paired.run (hfacing : Facing config config') (hnet : Paired config config' net)
    {moves : List (Side × Move Unit)}
    (hmoves : Net.Admissible distributionParty Enabled net.forget moves) :
    Paired config config' (net.run distributionParty.logged moves) ∧
      effort (net.run distributionParty.logged moves).left +
          effort (net.run distributionParty.logged moves).right =
        effort net.left + effort net.right + moves.length := by
  induction moves generalizing net with
  | nil => exact ⟨hnet, rfl⟩
  | cons action moves ih =>
    obtain ⟨hfirst, hrest⟩ := hmoves
    rw [← Net.forget_step] at hrest
    have hstep : Paired config config' (net.step distributionParty.logged action) ∧
        effort (net.step distributionParty.logged action).left +
            effort (net.step distributionParty.logged action).right =
          effort net.left + effort net.right + 1 := by
      obtain ⟨side, move⟩ := action
      cases side with
      | left =>
        obtain ⟨hnext, heffort, hright⟩ := hnet.stepLeft hfacing hfirst
        refine ⟨hnext, ?_⟩
        change effort (net.stepLeft _ move).left + effort (net.stepLeft _ move).right = _
        rw [heffort, hright]
        omega
      | right =>
        obtain ⟨hnext, heffort, hright⟩ := hnet.swap.stepLeft hfacing.symm hfirst
        refine ⟨hnext.swap, ?_⟩
        change effort (net.swap.stepLeft _ move).right + effort (net.swap.stepLeft _ move).left = _
        rw [heffort, hright]
        simp only [Net.swap_left, Net.swap_right]
        omega
    obtain ⟨hlast, heffort⟩ := ih hstep.1 hrest
    refine ⟨hlast, ?_⟩
    change effort (Net.run _ (net.step _ action) moves).left +
      effort (Net.run _ (net.step _ action) moves).right = _
    rw [heffort, hstep.2, List.length_cons]
    omega

theorem Paired.complete_left (hnet : Paired config config' net)
    (hfinished : Finished net.forget) (hrole : config'.role = .responder) :
    net.left.state.state = .complete ∧ net.right.state.state = .complete := by
  have hbegun : net.left.state.state ≠ .waitEncryption := hfinished (.left, .call ())
  have hbegun' : net.right.state.state ≠ .waitEncryption := hfinished (.right, .call ())
  have hqueue : net.left.state.outbound = [] := not_not.mp (hfinished (.left, .poll))
  have hqueue' : net.right.state.outbound = [] := not_not.mp (hfinished (.right, .poll))
  have hlink : net.toLeft = [] := by
    by_contra hlink
    exact hfinished (.left, .deliver) ⟨hlink, hbegun, hbegun'⟩
  have hlink' : net.toRight = [] := by
    by_contra hlink
    exact hfinished (.right, .deliver) ⟨hlink, hbegun', hbegun⟩
  obtain ⟨rest, hrest, hleft, hqueued⟩ := hnet.left.begun_of_state hbegun
  obtain ⟨rest', hrest', hright, hqueued'⟩ := hnet.right.begun_of_state hbegun'
  have hmeet := hnet.meet.left
  have hmeet' := hnet.meet.right
  rw [hlink, List.append_nil] at hmeet
  rw [hlink', List.append_nil] at hmeet'
  rw [hqueue, List.append_nil, ← hmeet'] at hqueued
  rw [hqueue', List.append_nil, ← hmeet] at hqueued'
  -- the responder has sent everything at once, so the initiator is done, and then the responder is
  have hdone : rest = [] := by
    have hall : net.left.received = config'.localDistribution := by
      rw [hqueued', distributed, hrole]
      rfl
    rw [hall] at hrest
    simpa using hrest
  have hdone' : rest' = [] := by
    have hall : net.right.received = config.localDistribution := by
      rw [hqueued, distributed, hdone]
      simp
    rw [hall] at hrest'
    simpa using hrest'
  rw [hleft, hright, hdone, hdone']
  exact ⟨rfl, rfl⟩

theorem Paired.complete (hfacing : Facing config config') (hnet : Paired config config' net)
    (hfinished : Finished net.forget) :
    net.left.state.state = .complete ∧ net.right.state.state = .complete := by
  cases hrole : config'.role with
  | responder => exact hnet.complete_left hfinished hrole
  | initiator =>
    have hside : config.role = .responder := by
      have hne := hfacing.role
      rw [hrole] at hne
      cases hside : config.role with
      | initiator => exact absurd hside.symm hne
      | responder => rfl
    have hswapped : Finished net.swap.forget := by
      rintro ⟨side, move⟩ henabled
      cases side with
      | left => exact hfinished (.right, move) henabled
      | right => exact hfinished (.left, move) henabled
    exact (hnet.swap.complete_left hswapped hside).symm

/-! ## 5. The keys -/

theorem recorded (config config' : KeyDistributionConfig) :
    let session := config'.localDistribution.foldl record (new config)
    let legacy := !config'.secureConnections && config'.localFlags.contains .encryptionKey
    let identity := config'.localFlags.contains .identityKey
    session.peerLtk = (if legacy then some config'.localLtk else none) ∧
      session.peerEdiv = (if legacy then some config'.localKeys.ediv else none) ∧
      session.peerRand = (if legacy then some config'.localKeys.rand else none) ∧
      session.peerIrk = (if identity then some config'.localKeys.irk else none) ∧
      session.peerIdentityAddress =
        (if identity then some config'.localKeys.identityAddress else none) ∧
      session.peerCsrk =
        (if config'.localFlags.contains .signingKey then
          some config'.localKeys.csrk else none) := by
  intro session legacy identity
  simp only [session, legacy, identity]
  unfold KeyDistributionConfig.localDistribution
  split <;> split <;> split <;> exact ⟨rfl, rfl, rfl, rfl, rfl, rfl⟩

theorem pairingKeys_of_complete {κ : Type} (prim : Primitives κ)
    (hcomplete : session.state = .complete) :
    session.pairingKeys prim = some
      { addressType := some session.peerAddress.addressType
        ltk := if session.config.secureConnections then
          some (session.key session.config.pairingLtk) else none
        ltkCentral := if session.config.secureConnections then none
          else if session.config.role = .initiator then session.peerLegacyKey
          else session.ownLegacyKey
        ltkPeripheral := if session.config.secureConnections then none
          else if session.config.role = .initiator then session.ownLegacyKey
          else session.peerLegacyKey
        irk := session.peerIrk.map session.key
        csrk := session.peerCsrk.map session.key
        localCsrk := if session.config.localFlags.contains .signingKey then
          some { session.key session.config.localKeys.csrk with signCounter := some 0 } else none
        linkKey := if session.config.secureConnections &&
            session.config.localFlags.contains .linkKey then
          some (session.key (deriveLinkKey prim session.config.pairingLtk session.config.ct2))
          else none } := by
  unfold pairingKeys
  rw [if_neg (not_not.mpr hcomplete)]
  dsimp only
  cases session.config.secureConnections <;>
    cases session.config.localFlags.contains .signingKey <;>
    cases session.config.localFlags.contains .linkKey <;>
    cases session.config.role <;> rfl

/-- What two keys that were exchanged have in common. -/
def material (key : Key) : Bytes × Option UInt16 × Option Bytes := (key.value, key.ediv, key.rand)

/-- The keys of a side, compared with those of its peer. -/
structure Mirrors {κ : Type} (prim : Primitives κ) (config config' : KeyDistributionConfig)
    (keys keys' : PairingKeys) : Prop where
  ltk : keys.ltk.map material = keys'.ltk.map material
  ltkCentral : keys.ltkCentral.map material = keys'.ltkCentral.map material
  ltkPeripheral : keys.ltkPeripheral.map material = keys'.ltkPeripheral.map material
  /-- With one verdict on the authentication the long term keys are the same. -/
  same : config.authenticated = config'.authenticated →
    keys.ltk = keys'.ltk ∧ keys.ltkCentral = keys'.ltkCentral ∧
      keys.ltkPeripheral = keys'.ltkPeripheral
  irk : keys.irk.map (·.value) =
    if config'.localFlags.contains .identityKey then some config'.localKeys.irk.toList else none
  csrk : keys.csrk.map (·.value) =
    if config'.localFlags.contains .signingKey then some config'.localKeys.csrk.toList else none
  localCsrk : keys.localCsrk.map (·.value) = keys'.csrk.map (·.value)
  /-- The link key is derived by each side for itself. -/
  linkKey : keys.linkKey.map (·.value) =
    if config.secureConnections && config.localFlags.contains .linkKey then
      some (deriveLinkKey prim config.pairingLtk config.ct2).toList else none
  linkKeys : keys.linkKey.isSome → keys'.linkKey.isSome →
    keys.linkKey.map (·.value) = keys'.linkKey.map (·.value)

structure Done (config config' : KeyDistributionConfig) (session : KeyDistributionSession) :
    Prop where
  config : session.config = config
  state : session.state = .complete
  peerLegacyKey : session.peerLegacyKey =
    if !config'.secureConnections && config'.localFlags.contains .encryptionKey then
      some (session.legacyKey config'.localLtk config'.localKeys.ediv config'.localKeys.rand)
    else none
  peerIrk : session.peerIrk =
    if config'.localFlags.contains .identityKey then some config'.localKeys.irk else none
  peerIdentityAddress : session.peerIdentityAddress =
    if config'.localFlags.contains .identityKey then
      some config'.localKeys.identityAddress else none
  peerCsrk : session.peerCsrk =
    if config'.localFlags.contains .signingKey then some config'.localKeys.csrk else none

theorem Progress.done {received queued : List SmpPdu}
    (hprogress : Progress config config' session received queued)
    (hcomplete : session.state = .complete) : Done config config' session := by
  obtain ⟨rest, hrest, hsession, -⟩ := hprogress.begun_of_state (by rw [hcomplete]; simp)
  have hdone : rest = [] := by
    rw [hsession, after_state] at hcomplete
    split at hcomplete
    · next hempty => exact List.isEmpty_iff.mp hempty
    · cases hcomplete
  rw [hdone, List.append_nil] at hrest
  obtain ⟨hltk, hediv, hrand, hirk, haddress, hcsrk⟩ := recorded config config'
  rw [hrest] at hltk hediv hrand hirk haddress hcsrk
  refine ⟨?_, hcomplete, ?_, (congrArg peerIrk hsession).trans hirk,
    (congrArg peerIdentityAddress hsession).trans haddress,
    (congrArg peerCsrk hsession).trans hcsrk⟩
  · rw [hsession, after_config]
  · unfold peerLegacyKey
    rw [(congrArg peerLtk hsession).trans hltk, (congrArg peerEdiv hsession).trans hediv,
      (congrArg peerRand hsession).trans hrand]
    cases !config'.secureConnections && config'.localFlags.contains .encryptionKey <;> rfl

/-- **The bonds mirror each other.** -/
theorem Done.mirrors {κ : Type} (prim : Primitives κ) (hfacing : Facing config config')
    {session' : KeyDistributionSession} (hdone : Done config config' session)
    (hdone' : Done config' config session') {keys keys' : PairingKeys}
    (hkeys : session.pairingKeys prim = some keys)
    (hkeys' : session'.pairingKeys prim = some keys') : Mirrors prim config config' keys keys' := by
  have hrole := hfacing.role
  rw [pairingKeys_of_complete prim hdone.state] at hkeys
  rw [pairingKeys_of_complete prim hdone'.state] at hkeys'
  cases hkeys
  cases hkeys'
  rw [hdone.peerIrk, hdone.peerCsrk, hdone.peerLegacyKey, hdone'.peerIrk, hdone'.peerCsrk,
    hdone'.peerLegacyKey]
  simp only [key, legacyKey, ownLegacyKey, hdone.config, hdone'.config, hfacing.secureConnections,
    hfacing.ct2, hfacing.pairingLtk]
  constructor
  · cases config.secureConnections <;> simp [material]
  · cases config.secureConnections <;> cases hside : config.role <;>
      cases hside' : config'.role <;> simp_all [material]
  · cases config.secureConnections <;> cases hside : config.role <;>
      cases hside' : config'.role <;> simp_all [material]
  · intro hauthenticated
    cases config.secureConnections <;> cases hside : config.role <;>
      cases hside' : config'.role <;> simp_all
  · dsimp only
    split <;> rfl
  · dsimp only
    split <;> rfl
  · dsimp only
    split <;> rfl
  · dsimp only
    split <;> rfl
  · intro hsome hsome'
    dsimp only at hsome hsome' ⊢
    split at hsome
    · next hown =>
      split at hsome'
      · next hpeer =>
        rw [if_pos hown, if_pos hpeer]
        rfl
      · cases hsome'
    · cases hsome

/-- The two sides of a completed exchange hand over keys that mirror each other. -/
structure Bonded {κ : Type} (prim : Primitives κ) (config config' : KeyDistributionConfig)
    (session session' : KeyDistributionSession) : Prop where
  keys : ∃ keys keys', session.pairingKeys prim = some keys ∧
    session'.pairingKeys prim = some keys' ∧ Mirrors prim config config' keys keys' ∧
    Mirrors prim config' config keys' keys
  identity : session.peerIdentityAddress =
    if config'.localFlags.contains .identityKey then
      some config'.localKeys.identityAddress else none
  identity' : session'.peerIdentityAddress =
    if config.localFlags.contains .identityKey then some config.localKeys.identityAddress else none

theorem Paired.bonded {κ : Type} (prim : Primitives κ) (hfacing : Facing config config')
    (hnet : Paired config config' net) (hleft : net.left.state.state = .complete)
    (hright : net.right.state.state = .complete) :
    Bonded prim config config' net.left.state net.right.state := by
  have hdone := hnet.left.done hleft
  have hdone' := hnet.right.done hright
  obtain ⟨keys, hkeys⟩ := Option.isSome_iff_exists.mp
    ((pairingKeys_isSome prim net.left.state).mpr hleft)
  obtain ⟨keys', hkeys'⟩ := Option.isSome_iff_exists.mp
    ((pairingKeys_isSome prim net.right.state).mpr hright)
  exact ⟨⟨keys, keys', hkeys, hkeys', hdone.mirrors prim hfacing hdone' hkeys hkeys',
    hdone'.mirrors prim hfacing.symm hdone hkeys' hkeys⟩, hdone.peerIdentityAddress,
    hdone'.peerIdentityAddress⟩

theorem paired_start (config config' : KeyDistributionConfig) :
    Paired config config' ⟨.start SmpPdu (new config), .start SmpPdu (new config'), [], [], 0⟩ :=
  ⟨.waiting rfl rfl rfl, .waiting rfl rfl rfl, ⟨rfl, rfl⟩⟩

/-- **Bonds mirror each other.**  Whatever the order in which the two sides are told
    of the encryption, are polled and receive: the exchange ends, no side fails, both are
    complete in the end, and then the keys of the two sides mirror each other. -/
theorem bonds_mirror {κ : Type} (prim : Primitives κ) (hfacing : Facing config config') :
    ∃ bound, ∀ moves,
      Net.Admissible distributionParty Enabled ⟨new config, new config', [], [], 0⟩ moves →
      moves.length ≤ bound ∧
      ∀ net, net = Net.run distributionParty ⟨new config, new config', [], [], 0⟩ moves →
        net.left.state ≠ .failed ∧ net.right.state ≠ .failed ∧
        (Finished net → net.left.state = .complete ∧ net.right.state = .complete) ∧
        (net.left.state = .complete → net.right.state = .complete →
          Bonded prim config config' net.left net.right) := by
  refine ⟨2 + 2 * (config.localDistribution.length + config'.localDistribution.length), ?_⟩
  intro moves hmoves
  obtain ⟨hpaired, heffort⟩ := (paired_start config config').run hfacing hmoves
  have hforget : (Net.run distributionParty.logged
      ⟨.start SmpPdu (new config), .start SmpPdu (new config'), [], [], 0⟩ moves).forget =
      Net.run distributionParty ⟨new config, new config', [], [], 0⟩ moves :=
    Net.forget_run _ moves
  revert hpaired heffort hforget
  generalize Net.run distributionParty.logged
    ⟨.start SmpPdu (new config), .start SmpPdu (new config'), [], [], 0⟩ moves = logs
  intro hpaired heffort hforget
  constructor
  · have hreceived := hpaired.left.received_prefix.length_le
    have hreceived' := hpaired.right.received_prefix.length_le
    have hqueued := hpaired.left.queued_prefix.length_le
    have hqueued' := hpaired.right.queued_prefix.length_le
    rw [List.length_append] at hqueued hqueued'
    have hcount : ∀ log : Log KeyDistributionSession SmpPdu,
        effort log ≤ 1 + log.sent.length + log.received.length := by
      intro log
      unfold effort
      split <;> omega
    have hleft := hcount logs.left
    have hright := hcount logs.right
    have hstart : effort (.start SmpPdu (new config)) + effort (.start SmpPdu (new config')) = 0 :=
      rfl
    dsimp only at heffort
    omega
  · rintro net rfl
    rw [← hforget]
    refine ⟨hpaired.left.not_failed, hpaired.right.not_failed, hpaired.complete hfacing, ?_⟩
    exact hpaired.bonded prim hfacing

/-! ### The configurations of the tests -/

def testKeys (base : UInt8) (address : Address) : LocalKeyMaterial where
  ltk := Vector.replicate 16 base
  ediv := 0x1234
  rand := Vector.replicate 8 (base + 1)
  irk := Vector.replicate 16 (base + 2)
  identityAddress := address
  csrk := Vector.replicate 16 (base + 3)

def testDistribution (role : PairingRole) (secureConnections : Bool)
    (initiatorKeys responderKeys : KeyDistribution) : KeyDistributionConfig where
  role := role
  secureConnections := secureConnections
  ct2 := false
  authenticated := true
  maximumEncryptionKeySize := 16
  pairingLtk := Vector.replicate 16 0x55
  initiatorKeys := initiatorKeys
  responderKeys := responderKeys
  localKeys := match role with
    | .initiator => testKeys 0x10 testInitiatorAddress
    | .responder => testKeys 0x20 testResponderAddress
  peerAddress := match role with
    | .initiator => testResponderAddress
    | .responder => testInitiatorAddress

theorem test_facing (secureConnections : Bool) (initiatorKeys responderKeys : KeyDistribution) :
    Facing (testDistribution .initiator secureConnections initiatorKeys responderKeys)
      (testDistribution .responder secureConnections initiatorKeys responderKeys) :=
  ⟨by simp [testDistribution], rfl, rfl, rfl, rfl, rfl, rfl⟩

/-- A legacy exchange of all keys comes to its end. -/
theorem bonds_mirror_legacy :
    ∃ net, Net.Reachable distributionParty Enabled
        ⟨new (testDistribution .initiator false .all .all),
          new (testDistribution .responder false .all .all), [], [], 0⟩ net ∧
      Bonded testPrimitives (testDistribution .initiator false .all .all)
        (testDistribution .responder false .all .all) net.left net.right := by
  obtain ⟨bound, hruns⟩ := bonds_mirror testPrimitives (test_facing false .all .all)
  obtain ⟨moves, hmoves, hfinished⟩ :=
    Net.exists_finished (fun moves hmoves => (hruns moves hmoves).1)
  obtain ⟨-, -, hends, hbonded⟩ := (hruns moves hmoves).2 _ rfl
  obtain ⟨hleft, hright⟩ := hends hfinished
  exact ⟨_, ⟨moves, hmoves, rfl⟩, hbonded hleft hright⟩

/-- With the link key in the initiator's set only, only the initiator derives one. -/
theorem link_key_on_one_side :
    ∃ keys keys', Net.run distributionParty
        ⟨new (testDistribution .initiator true .linkKey ⟨0⟩),
          new (testDistribution .responder true .linkKey ⟨0⟩), [], [], 0⟩
        [(.left, .call ()), (.right, .call ())] =
      ⟨(new (testDistribution .initiator true .linkKey ⟨0⟩)).markEncrypted,
        (new (testDistribution .responder true .linkKey ⟨0⟩)).markEncrypted, [], [], 0⟩ ∧
      (new (testDistribution .initiator true .linkKey ⟨0⟩)).markEncrypted.pairingKeys
        testPrimitives = some keys ∧
      (new (testDistribution .responder true .linkKey ⟨0⟩)).markEncrypted.pairingKeys
        testPrimitives = some keys' ∧
      keys.linkKey.isSome = true ∧ keys'.linkKey = none :=
  ⟨_, _, rfl, rfl, rfl, rfl, rfl⟩

end Bumble.Smp.KeyDistributionSession
