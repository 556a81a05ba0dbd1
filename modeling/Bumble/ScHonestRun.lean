import Bumble.ScAuthentication
import Bumble.ScHonest
import Bumble.ScOobSecret
import Bumble.SmpTestSetup

/-!
# Runs of an honest pairing

Two sides that fit, each polled and delivered to in any order, with the initiator
started once.  Every move keeps both sides sound; the queues are bounded, so every
run ends; and where no move is left, the numbers of PDUs received and queued leave
both sides nothing but to wait for encryption.
-/

namespace Bumble.Smp.ScPairingSession

variable {κ : Type} {s t s0 t0 : ScPairingSession κ} {prim : Primitives κ} {ex ex' : Exchange}
  {received queued received' queued' : List SmpPdu}

/-! ## 1. How far a side is -/

/-- How many PDUs a side with features has received and queued before it is done. -/
def Underway (role : PairingRole) (passkey : Bool) (received queued : Nat) : Prop :=
  match role, passkey with
  | .initiator, true => queued = received + 1 ∧ received ≤ 42
  | .responder, true => queued = received ∧ received ≤ 42
  | .initiator, false => received = 1 ∧ queued = 2 ∨ 2 ≤ received ∧ received ≤ 4 ∧ queued = received
  | .responder, false =>
    received = 1 ∧ queued = 1 ∨ 2 ≤ received ∧ received ≤ 3 ∧ queued = received + 1

/-- How many PDUs a side has received and queued when it is done. -/
def Through (role : PairingRole) (passkey : Bool) (received queued : Nat) : Prop :=
  match role, passkey with
  | _, true => received = 43 ∧ queued = 43
  | .initiator, false => received = 5 ∧ queued = 4
  | .responder, false => received = 4 ∧ queued = 5

inductive Pace (s0 s : ScPairingSession κ) (received queued : List SmpPdu) : Prop where
  | idle (hstate : s.state = .idle) (hreceived : received.length = 0) (hqueued : queued.length = 0)
  | asks (hrole : s0.role = .initiator) (hreceived : received.length = 0)
      (hqueued : queued.length = 1)
  | goes (ex : Exchange) (hsettled : ex.Settled s0 s.calls)
      (hheard : received.head? = some (ex.peerFeaturesPdu s0.role))
      (hsaid : queued.head? = some (ex.ownFeaturesPdu s0.role))
      (hcounts : Underway s0.role (decide (ex.method = .passkey)) received.length queued.length ∨
        s.state = .waitEncryption ∧
          Through s0.role (decide (ex.method = .passkey)) received.length queued.length)

theorem received_head (role : PairingRole) (ex : Exchange) (rest : List SmpPdu) :
    (ex.received role ++ rest).head? = some (ex.peerFeaturesPdu role) := rfl

theorem sent_head (ex : Exchange) (s0 : ScPairingSession κ) (rest : List SmpPdu) :
    (ex.sent prim s0 ++ rest).head? = some (ex.ownFeaturesPdu s0.role) := rfl

theorem roundCount_eq (method : PairingMethod) :
    roundCount method = if decide (method = .passkey) then 20 else 1 := by
  unfold roundCount
  split <;> simp_all

theorem Done.counts (hdone : Done prim s0 s received queued) :
    ∃ ex : Exchange, ex.Settled s0 s.calls ∧
      received.head? = some (ex.peerFeaturesPdu s0.role) ∧
      queued.head? = some (ex.ownFeaturesPdu s0.role) ∧
      Through s0.role (decide (ex.method = .passkey)) received.length queued.length := by
  obtain ⟨-, ex, last, hsettled, -, -, hcount, -, rfl, rfl⟩ := hdone
  refine ⟨ex, hsettled, received_head _ _ _, sent_head _ _ _, ?_⟩
  rw [roundCount_eq] at hcount
  simp only [List.length_append, received_length, sent_length, hcount]
  cases hrole : s0.role <;> by_cases hmethod : ex.method = .passkey <;>
    simp [hmethod, checks, commits, Through]

theorem Sound.pace (hfresh : Fresh s0) (hsound : Sound prim s0 s received queued) :
    Pace s0 s received queued := by
  rcases hsound with hstage | hdone
  · cases hstage with
    | idle hs => exact .idle (by rw [hs]; exact hfresh.state) rfl rfl
    | requested hrole hs => exact .asks hrole rfl rfl
    | negotiated ex hstate hholds hrounds hstep =>
      refine .goes ex hholds.settled rfl rfl (.inl ?_)
      cases hrole : s0.role <;> cases hmethod : decide (ex.method = .passkey) <;>
        simp [Underway]
    | confirming ex hstate hround hchecks =>
      refine .goes ex hround.holds.settled (received_head _ _ []) (sent_head _ _ _) (.inl ?_)
      have hmore := hround.more
      rw [roundCount_eq] at hmore
      simp only [List.length_append, received_length, sent_length]
      generalize ex.rounds.length = count at hmore ⊢
      cases hrole : s0.role <;> by_cases hmethod : ex.method = .passkey <;>
        simp only [hrole, hmethod, checks, commits, Underway] at hchecks hmore ⊢ <;>
        simp at hchecks hmore ⊢ <;> omega
    | committed ex confirm hstate hround hconfirm =>
      refine .goes ex hround.holds.settled (received_head _ _ _) ?_ (.inl ?_)
      · rw [List.append_assoc]
        exact sent_head _ _ _
      have hmore := hround.more
      rw [roundCount_eq] at hmore
      simp only [List.length_append, received_length, sent_length]
      generalize ex.rounds.length = count at hmore ⊢
      cases hrole : s0.role <;> by_cases hmethod : ex.method = .passkey <;>
        simp only [hmethod, checks, commits, Underway] at hmore ⊢ <;>
        simp at hmore ⊢ <;> omega
    | derived ex last hstate hholds haccepted hchecked hcount hlast hkeys hconsented =>
      refine .goes ex hholds.settled (received_head _ _ []) (sent_head _ _ _) (.inl ?_)
      rw [roundCount_eq] at hcount
      simp only [List.length_append, received_length, sent_length, hcount]
      cases hrole : s0.role <;> by_cases hmethod : ex.method = .passkey <;>
        simp [hmethod, checks, commits, Underway]
  · obtain ⟨ex, hsettled, hheard, hsaid, hcounts⟩ := hdone.counts
    exact .goes ex hsettled hheard hsaid (.inr ⟨hdone.1, hcounts⟩)

theorem Pace.bounded (hpace : Pace s0 s received queued) :
    received.length ≤ 43 ∧ queued.length ≤ 43 := by
  cases hpace with
  | idle _ hreceived hqueued => omega
  | asks _ hreceived hqueued => omega
  | goes ex _ _ _ hcounts =>
    rcases hcounts with hcounts | ⟨-, hcounts⟩
    · cases hrole : s0.role <;> cases hmethod : decide (ex.method = .passkey) <;>
        simp only [hrole, hmethod, Underway] at hcounts <;> omega
    · cases hrole : s0.role <;> cases hmethod : decide (ex.method = .passkey) <;>
        simp only [hrole, hmethod, Through] at hcounts <;> omega

/-! ## 2. Two sound sides -/

theorem method_of_heads (hpeers : Peers prim s0 t0) {calls calls' : List DelegateCall}
    (hsettled : ex.Settled s0 calls) (hsettled' : ex'.Settled t0 calls')
    (hheard : received.head? = some (ex.peerFeaturesPdu s0.role))
    (hsaid : queued.head? = some (ex.ownFeaturesPdu s0.role))
    (hheard' : received'.head? = some (ex'.peerFeaturesPdu t0.role))
    (hsaid' : queued'.head? = some (ex'.ownFeaturesPdu t0.role))
    (hto : received' <+: queued) (hfrom : received <+: queued') : ex.method = ex'.method := by
  have hfirst : ∀ {l l' : List SmpPdu} {pdu pdu' : SmpPdu}, l.head? = some pdu →
      l'.head? = some pdu' → l <+: l' → pdu = pdu' := by
    intro l l' pdu pdu' hl hl' hbegins
    obtain ⟨rest, rfl⟩ := hbegins
    rw [List.head?_append_of_ne_nil _ (by rintro rfl; cases hl), hl] at hl'
    exact Option.some.inj hl'
  have hfeatures := hfirst hheard hsaid' hfrom
  have hfeatures' := hfirst hheard' hsaid hto
  have hboth : ex.request = ex'.request ∧ ex.response = ex'.response := by
    have hopposite := hpeers.opposite
    cases hs : s0.role <;> cases ht : t0.role <;>
      simp_all [Exchange.peerFeaturesPdu, Exchange.ownFeaturesPdu]
  exact (hpeers.same ex ex' _ _ hsettled hsettled' hboth.1 hboth.2).1

theorem Done.hears_nothing (hpeers : Peers prim s0 t0) (hfresh' : Fresh t0)
    (hdone : Done prim s0 s received queued) (hsound' : Sound prim t0 t received' queued')
    (hto : received' <+: queued) {pdu : SmpPdu} : ¬ received ++ [pdu] <+: queued' := by
  intro hnext
  have hlength := hnext.length_le
  rw [List.length_append, List.length_singleton] at hlength
  obtain ⟨ex, hsettled, hheard, hsaid, hcounts⟩ := hdone.counts
  cases hsound'.pace hfresh' with
  | idle _ _ hqueued' => omega
  | asks _ _ hqueued' =>
    have hempty : received.length = 0 := by omega
    rw [List.length_eq_zero_iff.mp hempty] at hheard
    cases hheard
  | goes ex' hsettled' hheard' hsaid' hcounts' =>
    have hmethod := method_of_heads hpeers hsettled hsettled' hheard hsaid hheard' hsaid' hto
      ((List.prefix_append _ _).trans hnext)
    have hopposite := hpeers.opposite
    rw [← hmethod] at hcounts'
    revert hcounts hcounts'
    generalize decide (ex.method = .passkey) = passkey
    cases hs : s0.role <;> cases ht : t0.role <;> cases passkey <;>
      simp only [Underway, Through] <;> first | omega | exact absurd (hs.trans ht.symm) hopposite

structure Paired (prim : Primitives κ) (s0 t0 : ScPairingSession κ)
    (net : Net (Log (ScPairingSession κ) SmpPdu) SmpPdu) : Prop where
  left : Sound prim s0 net.left.state net.left.received (net.left.sent ++ net.left.state.outbound)
  right : Sound prim t0 net.right.state net.right.received
    (net.right.sent ++ net.right.state.outbound)
  meet : net.LogsMeet

namespace Paired

variable {net : Net (Log (ScPairingSession κ) SmpPdu) SmpPdu}

theorem swap (hpaired : Paired prim s0 t0 net) : Paired prim t0 s0 net.swap :=
  ⟨hpaired.right, hpaired.left, hpaired.meet.swap⟩

theorem crosses (hpaired : Paired prim s0 t0 net) :
    net.right.received <+: net.left.sent ++ net.left.state.outbound := by
  rw [← hpaired.meet.right, List.append_assoc]
  exact List.prefix_append _ _

theorem takes (hpaired : Paired prim s0 t0 net) (hpeers : Peers prim s0 t0) (hfresh' : Fresh t0)
    {pdu : SmpPdu} {rest : List SmpPdu} (hlink : net.toLeft = pdu :: rest) :
    Takes prim s0 net.left.state net.left.received (net.left.sent ++ net.left.state.outbound)
      pdu := by
  have hnext : net.left.received ++ [pdu] <+: net.right.sent ++ net.right.state.outbound := by
    rw [← hpaired.meet.left, hlink]
    exact ⟨rest ++ net.right.state.outbound, by simp⟩
  rcases hpaired.left with hstage | hdone
  · exact hears hpeers hstage hpaired.right.view hnext hpaired.crosses
  · exact absurd hnext (hdone.hears_nothing hpeers hfresh' hpaired.right hpaired.crosses)

end Paired

/-! ## 3. The moves of a pairing -/

/-- The initiator starts once, what is queued is sent, and what is under way
    arrives. -/
def Enabled (net : Net (ScPairingSession κ) SmpPdu) : Move ScInput → Prop
  | .call .start => net.left.role = .initiator ∧ net.left.state = .idle
  | .call _ => False
  | .poll => net.left.outbound ≠ []
  | .deliver => net.toLeft ≠ []
  | .lose _ => False

instance (net : Net (ScPairingSession κ) SmpPdu) (move : Move ScInput) :
    Decidable (Enabled net move) :=
  match move with
  | .call .start => inferInstanceAs (Decidable (_ ∧ _))
  | .call .markEncrypted => .isFalse id
  | .call (.setLocalKeyMaterial _) => .isFalse id
  | .poll => inferInstanceAs (Decidable (_ ≠ _))
  | .deliver => inferInstanceAs (Decidable (_ ≠ _))
  | .lose _ => .isFalse id

def Finished (net : Net (ScPairingSession κ) SmpPdu) : Prop :=
  ∀ action, ¬ Net.AllowedStep Enabled net action

def effort (log : Log (ScPairingSession κ) SmpPdu) : Nat :=
  (log.sent ++ log.state.outbound).length + log.sent.length + log.received.length

theorem enabled_lossless {net : Net (ScPairingSession κ) SmpPdu} {move : Move ScInput}
    (henabled : Enabled net move) {σ : Type} (net' : Net σ SmpPdu) : net'.Lossless move := by
  cases move with
  | call input => trivial
  | poll => trivial
  | deliver => trivial
  | lose index => exact henabled.elim

theorem Sound.setOutbound (hsound : Sound prim s0 s received queued) (outbound : List SmpPdu) :
    Sound prim s0 { s with outbound := outbound } received queued := by
  rcases hsound with hstage | hdone
  · exact .inl (hstage.setOutbound prim outbound)
  · exact .inr hdone

theorem Sound.starts (hfresh : Fresh s0) (hrole : s0.role = .initiator)
    (hsound : Sound prim s0 s received queued) (hidle : s.state = .idle) :
    received = [] ∧ queued = [] ∧
    Sound prim s0 s.start.state [] [.pairingRequest s0.localFeatures] ∧
      s.start.state.outbound = s.outbound ++ [.pairingRequest s0.localFeatures] := by
  rcases hsound with hstage | ⟨hstate, -⟩
  · cases hstage with
    | idle hs =>
      obtain ⟨-, houtbound, hstage⟩ := start_advances prim hfresh hrole hs
      exact ⟨rfl, rfl, .inl hstage, houtbound⟩
    | requested _ hs => rw [hs] at hidle; cases hidle
    | negotiated _ hstate _ _ _ => rw [hstate] at hidle; cases hidle
    | confirming _ hstate _ _ => rw [hstate] at hidle; cases hidle
    | committed _ _ hstate _ _ => rw [hstate] at hidle; cases hidle
    | derived _ _ hstate _ _ _ _ _ _ _ => rw [hstate] at hidle; cases hidle
  · rw [hstate] at hidle
    cases hidle

theorem Sound.role (hsound : Sound prim s0 s received queued) (hidle : s.state = .idle) :
    s.role = s0.role := by
  rcases hsound with hstage | ⟨hstate, -⟩
  · cases hstage with
    | idle hs => rw [hs]
    | requested _ hs => rw [hs]
    | negotiated _ _ hholds _ _ => exact hholds.keeps.role
    | confirming _ _ hround _ => exact hround.holds.keeps.role
    | committed _ _ _ hround _ => exact hround.holds.keeps.role
    | derived _ _ _ hholds _ _ _ _ _ _ => exact hholds.keeps.role
  · rw [hstate] at hidle
    cases hidle

/-- **One move** keeps both sides sound and gets them on. -/
theorem Paired.stepLeft {net : Net (Log (ScPairingSession κ) SmpPdu) SmpPdu}
    (hpaired : Paired prim s0 t0 net) (hpeers : Peers prim s0 t0) (hfresh' : Fresh t0)
    {move : Move ScInput} (henabled : Enabled net.forget move) :
    Paired prim s0 t0 (net.stepLeft (scParty prim).logged move) ∧
      effort net.left + 1 ≤ effort (net.stepLeft (scParty prim).logged move).left := by
  have hmeet : (net.stepLeft (scParty prim).logged move).LogsMeet :=
    hpaired.meet.stepLeft (enabled_lossless henabled net)
  cases move with
  | call input =>
    cases input with
    | start =>
      obtain ⟨hrole, hidle⟩ := henabled
      have hside : s0.role = .initiator := (hpaired.left.role hidle).symm.trans hrole
      obtain ⟨hreceived, hqueued, hsound, houtbound⟩ :=
        hpaired.left.starts hpeers.fresh hside hidle
      have hsent : net.left.sent = [] := (List.append_eq_nil_iff.mp hqueued).1
      have hempty : net.left.state.outbound = [] := (List.append_eq_nil_iff.mp hqueued).2
      have houtbound' : net.left.state.start.state.outbound =
          [.pairingRequest s0.localFeatures] := by rw [houtbound, hempty]; rfl
      refine ⟨⟨?_, hpaired.right, hmeet⟩, ?_⟩
      · change Sound prim s0 net.left.state.start.state net.left.received
          (net.left.sent ++ net.left.state.start.state.outbound)
        rw [hreceived, hsent, houtbound']
        exact hsound
      · change effort net.left + 1 ≤ (net.left.sent ++ net.left.state.start.state.outbound).length +
          net.left.sent.length + net.left.received.length
        rw [effort, hsent, hempty, houtbound', hreceived]
        simp
    | markEncrypted => exact henabled.elim
    | setLocalKeyMaterial keys => exact henabled.elim
  | poll =>
    cases hqueue : net.left.state.outbound with
    | nil => exact absurd hqueue henabled
    | cons pdu outbound =>
      have hpoll : (scParty prim).logged.poll net.left = some (pdu,
          { net.left with
            state := { net.left.state with outbound := outbound }
            sent := net.left.sent ++ [pdu] }) := by
        simp [Party.logged, scParty, pollOutbound, hqueue]
      rw [Net.stepLeft_poll_some hpoll] at hmeet ⊢
      have hsame : net.left.sent ++ [pdu] ++ outbound =
          net.left.sent ++ net.left.state.outbound := by simp [hqueue]
      refine ⟨⟨?_, hpaired.right, hmeet⟩, ?_⟩
      · dsimp only
        rw [hsame]
        exact hpaired.left.setOutbound outbound
      · simp only [effort, hsame]
        simp only [List.length_append, List.length_singleton]
        omega
  | deliver =>
    cases hlink : net.toLeft with
    | nil => exact absurd hlink henabled
    | cons pdu rest =>
      obtain ⟨pdus, hqueue, hsound⟩ := hpaired.takes hpeers hfresh' hlink
      rw [Net.stepLeft_deliver_cons hlink] at hmeet ⊢
      refine ⟨⟨?_, hpaired.right, hmeet⟩, ?_⟩
      · change Sound prim s0 (net.left.state.process prim pdu).state (net.left.received ++ [pdu])
          (net.left.sent ++ (net.left.state.process prim pdu).state.outbound)
        rw [hqueue, ← List.append_assoc]
        exact hsound
      · change _ + 1 ≤ (net.left.sent ++ (net.left.state.process prim pdu).state.outbound).length +
          net.left.sent.length + (net.left.received ++ [pdu]).length
        rw [hqueue, effort]
        simp only [List.length_append, List.length_singleton]
        omega
  | lose index => exact henabled.elim

/-- **A whole run** keeps both sides sound, and every move of it counts. -/
theorem Paired.run {net : Net (Log (ScPairingSession κ) SmpPdu) SmpPdu}
    (hpaired : Paired prim s0 t0 net) (hpeers : Peers prim s0 t0) (hpeers' : Peers prim t0 s0)
    {moves : List (Side × Move ScInput)}
    (hrun : Net.Admissible (scParty prim) Enabled net.forget moves) :
    Paired prim s0 t0 (net.run (scParty prim).logged moves) ∧
      effort net.left + effort net.right + moves.length ≤
        effort (net.run (scParty prim).logged moves).left +
          effort (net.run (scParty prim).logged moves).right := by
  induction moves generalizing net with
  | nil => exact ⟨hpaired, le_rfl⟩
  | cons action actions ih =>
    obtain ⟨hfirst, hrest⟩ := hrun
    rw [← Net.forget_step] at hrest
    have hstep : Paired prim s0 t0 (net.step (scParty prim).logged action) ∧
        effort net.left + effort net.right + 1 ≤
          effort (net.step (scParty prim).logged action).left +
            effort (net.step (scParty prim).logged action).right := by
      obtain ⟨side, move⟩ := action
      cases side with
      | left =>
        obtain ⟨hnext, heffort⟩ := hpaired.stepLeft hpeers hpeers'.fresh hfirst
        refine ⟨hnext, ?_⟩
        change _ ≤ effort (net.stepLeft (scParty prim).logged move).left +
          effort (net.stepLeft (scParty prim).logged move).right
        rw [Net.stepLeft_right]
        omega
      | right =>
        obtain ⟨hnext, heffort⟩ := hpaired.swap.stepLeft hpeers' hpeers.fresh hfirst
        refine ⟨hnext.swap, ?_⟩
        change _ ≤ effort (net.swap.stepLeft (scParty prim).logged move).right +
          effort (net.swap.stepLeft (scParty prim).logged move).left
        rw [Net.stepLeft_right]
        rw [Net.swap_left] at heffort
        rw [Net.swap_right]
        omega
    obtain ⟨hnext, heffort⟩ := ih hstep.1 hrest
    refine ⟨hnext, ?_⟩
    have hcount : (action :: actions).length = actions.length + 1 := rfl
    change effort net.left + effort net.right + (action :: actions).length ≤
      effort ((net.step (scParty prim).logged action).run (scParty prim).logged actions).left +
        effort ((net.step (scParty prim).logged action).run (scParty prim).logged actions).right
    omega

/-- **Where no move is left** both sides wait for encryption. -/
theorem Paired.finished {net : Net (Log (ScPairingSession κ) SmpPdu) SmpPdu}
    (hpaired : Paired prim s0 t0 net) (hpeers : Peers prim s0 t0) (hfresh' : Fresh t0)
    (hinitiator : s0.role = .initiator) (hresponder : t0.role = .responder)
    (hfinished : Finished net.forget) :
    net.left.state.state = .waitEncryption ∧ net.right.state.state = .waitEncryption := by
  have hleft : net.left.state.outbound = [] :=
    not_not.mp (hfinished (.left, .poll))
  have hright : net.right.state.outbound = [] := not_not.mp (hfinished (.right, .poll))
  have htoLeft : net.toLeft = [] := not_not.mp (hfinished (.left, .deliver))
  have htoRight : net.toRight = [] := not_not.mp (hfinished (.right, .deliver))
  have hfrom : net.left.received = net.right.sent := by
    have hmeet := hpaired.meet.left
    rwa [htoLeft, List.append_nil] at hmeet
  have hto : net.right.received = net.left.sent := by
    have hmeet := hpaired.meet.right
    rwa [htoRight, List.append_nil] at hmeet
  have hpace := hpaired.left.pace hpeers.fresh
  have hpace' := hpaired.right.pace hfresh'
  rw [hleft, List.append_nil, hfrom] at hpace
  rw [hright, List.append_nil, hto] at hpace'
  cases hpace with
  | idle hidle _ _ =>
    exact absurd ⟨(hpaired.left.role hidle).trans hinitiator, hidle⟩
      (hfinished (.left, .call .start))
  | asks _ hreceived hqueued =>
    cases hpace' with
    | idle _ hreceived' _ => omega
    | asks hother _ _ => rw [hresponder] at hother; cases hother
    | goes ex' _ _ _ hcounts' =>
      revert hcounts'
      rw [hresponder]
      cases decide (ex'.method = .passkey) <;> simp only [Underway, Through] <;> omega
  | goes ex hsettled hheard hsaid hcounts =>
    cases hpace' with
    | idle _ hreceived' hqueued' =>
      revert hcounts
      rw [hinitiator]
      cases decide (ex.method = .passkey) <;> simp only [Underway, Through] <;> omega
    | asks hother _ _ => rw [hresponder] at hother; cases hother
    | goes ex' hsettled' hheard' hsaid' hcounts' =>
      have hmethod := method_of_heads hpeers hsettled hsettled' hheard hsaid hheard' hsaid'
        List.prefix_rfl List.prefix_rfl
      rw [← hmethod, hresponder] at hcounts'
      rw [hinitiator] at hcounts
      generalize decide (ex.method = .passkey) = passkey at hcounts hcounts'
      rcases hcounts with hcounts | ⟨hstate, hcounts⟩
      · exfalso
        revert hcounts hcounts'
        cases passkey <;> simp only [Underway, Through] <;> omega
      · rcases hcounts' with hcounts' | ⟨hstate', -⟩
        · exfalso
          revert hcounts hcounts'
          cases passkey <;> simp only [Underway, Through] <;> omega
        · exact ⟨hstate, hstate'⟩

/-! ## 4. Honest sides that fit -/

/-- The out-of-band data of a side, where it has some, comes from the context of the
    other, and it has a context of its own. -/
def OutOfBand (prim : Primitives κ) (s0 t0 : ScPairingSession κ) : Prop :=
  ∀ data, s0.config.peerData = some data → s0.config.ourContext.isSome = true ∧
    ∃ context, t0.config.ourContext = some context ∧ data = context.share prim

/-- The method that the features of an initiator and a responder select. -/
def selected (s0 t0 : ScPairingSession κ) : PairingMethodSelection :=
  s0.selection s0.localFeatures (t0.answer s0.localFeatures)
    s0.config.capabilities.ioCapability t0.config.capabilities.ioCapability

/-- An initiator and a responder with users who accept and who enter the displayed
    passkey, and with out-of-band data from each other. -/
structure Honest (prim : Primitives κ) (s0 t0 : ScPairingSession κ) : Prop where
  accepts : s0.delegate.Accepts
  accepts' : t0.delegate.Accepts
  passkey : (s0.selected t0).method = .passkey → ∃ passkey : UInt32, passkey < 1000000 ∧
    (s0.delegate.passkey [] ((s0.selected t0).displays .initiator)).1 = some passkey ∧
    (t0.delegate.passkey [.accept true] ((s0.selected t0).displays .responder)).1 = some passkey
  outOfBand : OutOfBand prim s0 t0
  outOfBand' : OutOfBand prim t0 s0

/-- Out-of-band data on one side only goes with a random value of zero on that side. -/
def OneSided (s0 t0 : ScPairingSession κ) : Prop :=
  s0.config.peerData.isSome = true → t0.config.peerData = none →
    ∀ context, s0.config.ourContext = some context → context.r = zeroBlock

/-- The configurations fit: the initiator offers no key kinds that do not exist, the
    sides have different key pairs, and out-of-band data is on both sides or on none
    or hides no random value. -/
structure Fits (prim : Primitives κ) (s0 t0 : ScPairingSession κ) : Prop where
  initiatorKeys : s0.config.capabilities.localInitiatorKeyDistribution.flags &&&
    ~~~KeyDistribution.all.flags = 0
  responderKeys : s0.config.capabilities.localResponderKeyDistribution.flags &&&
    ~~~KeyDistribution.all.flags = 0
  keyPairs : ¬ (prim.publicX s0.eccKey = prim.publicX t0.eccKey ∧
    prim.publicY s0.eccKey = prim.publicY t0.eccKey)
  oneSided : OneSided s0 t0
  oneSided' : OneSided t0 s0

/-! ## 5. Honest sides that fit are peers -/

structure Facing (prim : Primitives κ) (s0 t0 : ScPairingSession κ) : Prop where
  commutes : prim.Commutes
  fresh : Fresh s0
  fresh' : Fresh t0
  initiator : s0.role = .initiator
  responder : t0.role = .responder
  address : s0.initiatorAddress = t0.initiatorAddress
  address' : s0.responderAddress = t0.responderAddress

theorem publicXLe_reverse (s : ScPairingSession κ) :
    (s.publicXLe prim).reverse = prim.publicX s.eccKey := by
  simp [publicXLe]

theorem publicYLe_reverse (s : ScPairingSession κ) :
    (s.publicYLe prim).reverse = prim.publicY s.eccKey := by
  simp [publicYLe]

theorem onCurve_of_commutes (hcommutes : prim.Commutes) (s t : ScPairingSession κ) :
    ∃ dhKey : Octets 32, prim.dh s.eccKey (t.publicXLe prim).reverse (t.publicYLe prim).reverse =
      some dhKey.reverse := by
  obtain ⟨secret, hsecret, -⟩ := hcommutes s.eccKey t.eccKey
  refine ⟨secret.reverse, ?_⟩
  rw [publicXLe_reverse, publicYLe_reverse, hsecret, Vector.reverse_reverse]

theorem toArray16_toList (r : Octets 16) : toArray16 r.toList = some r := by
  rw [toArray16_of_length (by simp)]
  congr 1
  apply Vector.ext
  intro i hi
  simp

theorem OutOfBand.commits (houtOfBand : OutOfBand prim s0 t0) (hfresh' : Fresh t0)
    {data : OobSharedData} (hdata : s0.config.peerData = some data) :
    ∃ r, toArray16 data.r = some r ∧
      data.c = (confirmValueWithZ prim (t0.publicXLe prim) (t0.publicXLe prim) r 0).toList := by
  obtain ⟨-, context, hcontext, rfl⟩ := houtOfBand data hdata
  obtain ⟨hkey, -⟩ := hfresh'.context context hcontext
  refine ⟨context.r, toArray16_toList _, ?_⟩
  simp only [OobContext.share, confirmValueWithZ, publicXLe, hkey]

theorem localFeatures_valid (hfresh : Fresh s0)
    (hinitiatorKeys : s0.config.capabilities.localInitiatorKeyDistribution.flags &&&
      ~~~KeyDistribution.all.flags = 0)
    (hresponderKeys : s0.config.capabilities.localResponderKeyDistribution.flags &&&
      ~~~KeyDistribution.all.flags = 0) : validFeatures s0.localFeatures = true := by
  have hvalid := hfresh.valid
  unfold PairingCapabilities.validate at hvalid
  split at hvalid
  · next hsize =>
    have hflag : s0.localFeatures.oobDataFlag ≤ 1 := by
      unfold localFeatures
      dsimp only
      split <;> decide
    simp only [validFeatures, localFeatures, IoCapability.tryFrom_value, hinitiatorKeys,
      hresponderKeys, hsize.2] at hflag ⊢
    simp [Except.isOk, Except.toBool, hflag]
  · cases hvalid

theorem localFeatures_secure (s : ScPairingSession κ) :
    AuthReq.contains ⟨s.localFeatures.authReq⟩ .secureConnections = true :=
  (AuthReq.contains_fromBooleans s.config.bonding true s.config.mitm false s.config.ct2).2.1

theorem localFeatures_oob (s : ScPairingSession κ) :
    (s.localFeatures.oobDataFlag != 0) = s.config.peerData.isSome := by
  unfold localFeatures
  cases s.config.peerData.isSome <;> rfl

theorem Fresh.sizes (hfresh : Fresh s0) :
    7 ≤ s0.config.capabilities.maximumEncryptionKeySize ∧
      s0.config.capabilities.maximumEncryptionKeySize ≤ 16 := by
  have hvalid := hfresh.valid
  unfold PairingCapabilities.validate at hvalid
  split at hvalid
  · next hsize => exact hsize
  · cases hvalid

theorem agreedSize_valid (hfresh : Fresh s0) (hfresh' : Fresh t0) :
    7 ≤ t0.agreedSize s0.localFeatures ∧ t0.agreedSize s0.localFeatures ≤ 16 := by
  obtain ⟨hlow, hhigh⟩ := hfresh.sizes
  obtain ⟨hlow', hhigh'⟩ := hfresh'.sizes
  simp only [agreedSize, localFeatures, UInt8.le_iff_toNat_le, UInt8.toNat_min]
    at hlow hhigh hlow' hhigh' ⊢
  omega

theorem intersection_valid (keys other : KeyDistribution) :
    (keys.intersection other).flags &&& ~~~KeyDistribution.all.flags = 0 := by
  simp only [KeyDistribution.intersection, UInt8.and_assoc]
  have hall : KeyDistribution.all.flags &&& ~~~KeyDistribution.all.flags = 0 := by decide
  rw [hall]
  simp

theorem Facing.acceptable_request (hfacing : Facing prim s0 t0) (hfits : Fits prim s0 t0) :
    t0.Acceptable s0.localFeatures :=
  ⟨localFeatures_valid hfacing.fresh hfits.initiatorKeys hfits.responderKeys,
    localFeatures_secure s0, (agreedSize_valid hfacing.fresh hfacing.fresh').1⟩

theorem Facing.acceptable_response (hfacing : Facing prim s0 t0) :
    s0.Acceptable (t0.answer s0.localFeatures) := by
  have hsize := agreedSize_valid hfacing.fresh hfacing.fresh'
  refine ⟨?_, localFeatures_secure t0, ?_⟩
  · have hflag : t0.localFeatures.oobDataFlag ≤ 1 := by
      unfold localFeatures
      dsimp only
      split <;> decide
    have hio : (t0.answer s0.localFeatures).ioCapability =
        t0.config.capabilities.ioCapability.value := rfl
    have hoob : (t0.answer s0.localFeatures).oobDataFlag = t0.localFeatures.oobDataFlag := rfl
    have hkeySize : (t0.answer s0.localFeatures).maximumEncryptionKeySize =
        t0.agreedSize s0.localFeatures := rfl
    have hinitiatorKeys : (t0.answer s0.localFeatures).initiatorKeyDistribution &&&
        ~~~KeyDistribution.all.flags = 0 := intersection_valid _ _
    have hresponderKeys : (t0.answer s0.localFeatures).responderKeyDistribution &&&
        ~~~KeyDistribution.all.flags = 0 := intersection_valid _ _
    simp [validFeatures, hio, hoob, hkeySize, hinitiatorKeys, hresponderKeys, hflag, hsize.2,
      Except.isOk, Except.toBool]
  · rw [agreedSize_answer]
    exact hsize.1

theorem selectPairingMethod_cases (sc mitm : Bool) (authReq : AuthReq)
    (initiator responder : IoCapability) :
    (selectPairingMethod sc mitm authReq initiator responder).method = .justWorks ∨
      (selectPairingMethod sc mitm authReq initiator responder).method = .numericComparison ∨
      (selectPairingMethod sc mitm authReq initiator responder).method = .passkey := by
  unfold selectPairingMethod
  split
  · exact .inl rfl
  · cases sc <;> cases initiator <;> cases responder <;> decide

theorem selected_cases (s0 t0 : ScPairingSession κ) :
    (s0.selected t0).method ≠ .ctkdOverClassic ∧
      ((s0.selected t0).method = .oob →
        s0.config.peerData.isSome = true ∨ t0.config.peerData.isSome = true) := by
  have hflag : ((t0.answer s0.localFeatures).oobDataFlag != 0) = t0.config.peerData.isSome :=
    localFeatures_oob t0
  unfold selected selection selectPairingMethodWithOob
  rw [localFeatures_oob, hflag]
  split
  · next hdata =>
    refine ⟨by simp [PairingMethodSelection.simple], fun _ => ?_⟩
    rcases Bool.or_eq_true _ _ ▸ hdata with hboth | hone
    · exact .inl (Bool.and_eq_true _ _ ▸ hboth).1
    · simpa using hone
  · rcases selectPairingMethod_cases true s0.config.mitm _ _ _ with hcase | hcase | hcase <;>
      rw [hcase] <;> simp

theorem choose_isSome {calls : List DelegateCall} {selection : PairingMethodSelection}
    (hpasskey : selection.method = .passkey → ∃ passkey : UInt32, passkey < 1000000 ∧
      (s.delegate.passkey calls (selection.displays s.role)).1 = some passkey)
    (hoob : selection.method = .oob → s.config.ourContext.isSome = true)
    (hclassic : selection.method ≠ .ctkdOverClassic) :
    ∃ choice, s.choose calls selection = some choice := by
  unfold choose
  cases hmethod : selection.method with
  | passkey =>
    obtain ⟨passkey, hsmall, hentered⟩ := hpasskey hmethod
    dsimp only
    rw [hentered]
    simp [Option.filter, hsmall]
  | oob =>
    have hsome := hoob hmethod
    rw [Option.isSome_iff_exists] at hsome
    obtain ⟨context, hcontext⟩ := hsome
    simp [hcontext]
  | justWorks => exact ⟨_, rfl⟩
  | numericComparison => exact ⟨_, rfl⟩
  | ctkdOverClassic => exact absurd hmethod hclassic

theorem Honest.contexts (hhonest : Honest prim s0 t0)
    (hdata : s0.config.peerData.isSome = true ∨ t0.config.peerData.isSome = true) :
    s0.config.ourContext.isSome = true ∧ t0.config.ourContext.isSome = true := by
  rcases hdata with hdata | hdata
  · obtain ⟨data, hdata⟩ := Option.isSome_iff_exists.mp hdata
    obtain ⟨hown, context, hcontext, -⟩ := hhonest.outOfBand data hdata
    exact ⟨hown, by rw [hcontext]; rfl⟩
  · obtain ⟨data, hdata⟩ := Option.isSome_iff_exists.mp hdata
    obtain ⟨hown, context, hcontext, -⟩ := hhonest.outOfBand' data hdata
    exact ⟨by rw [hcontext]; rfl, hown⟩

theorem choose_passkey {calls : List DelegateCall} {selection : PairingMethodSelection}
    {method : PairingMethod} {passkey entered : UInt32} {asked : List DelegateCall}
    (hchoose : s.choose calls selection = some (method, passkey, asked))
    (hmethod : selection.method = .passkey)
    (hentered : (s.delegate.passkey calls (selection.displays s.role)).1 = some entered) :
    passkey = entered := by
  unfold choose at hchoose
  simp only [hmethod] at hchoose
  obtain ⟨value, hvalue, hresult⟩ := Option.map_eq_some_iff.mp hchoose
  have hfound := (Option.filter_eq_some_iff.mp hvalue).1
  cases hresult
  exact Option.some.inj (hfound.symm.trans hentered)

section Joining

variable {calls calls' : List DelegateCall}

theorem Facing.choices (hfacing : Facing prim s0 t0) (hsettled : ex.Settled s0 calls)
    (hsettled' : ex'.Settled t0 calls') (hrequest : ex.request = ex'.request)
    (hresponse : ex.response = ex'.response) :
    (∃ asked, s0.choose [] (s0.selected t0) = some (ex.method, ex.passkey, asked)) ∧
      ∃ asked, t0.choose [.accept true] (s0.selected t0) =
        some (ex'.method, ex'.passkey, asked) := by
  have hown := hsettled.own
  have hown' := hsettled'.own
  simp only [hfacing.initiator, hfacing.responder, Exchange.ownFeaturesPdu,
    SmpPdu.pairingRequest.injEq, SmpPdu.pairingResponse.injEq] at hown hown'
  rw [← hrequest, hown] at hown'
  obtain ⟨initiator, responder, asked, hio, hio', hchoose, -⟩ := hsettled.chosen
  obtain ⟨initiator', responder', asked', hio₂, hio₂', hchoose', -⟩ := hsettled'.chosen
  rw [hown] at hio hchoose
  rw [hresponse, hown'] at hio' hchoose
  rw [← hrequest, hown] at hio₂ hchoose'
  rw [hown'] at hio₂' hchoose'
  cases (IoCapability.tryFrom_value _).symm.trans hio
  cases (answer_io s0.localFeatures).symm.trans hio'
  cases (IoCapability.tryFrom_value _).symm.trans hio₂
  cases (answer_io s0.localFeatures).symm.trans hio₂'
  rw [hfacing.initiator] at hchoose
  rw [hfacing.responder, ← selection_answer hfacing.initiator hfacing.responder] at hchoose'
  exact ⟨⟨asked, hchoose⟩, asked', hchoose'⟩

theorem Facing.same (hfacing : Facing prim s0 t0) (hhonest : Honest prim s0 t0)
    (hsettled : ex.Settled s0 calls) (hsettled' : ex'.Settled t0 calls')
    (hrequest : ex.request = ex'.request) (hresponse : ex.response = ex'.response) :
    ex.method = ex'.method ∧ (ex.method = .passkey → ex.passkey = ex'.passkey) := by
  obtain ⟨⟨asked, hchoose⟩, asked', hchoose'⟩ :=
    hfacing.choices hsettled hsettled' hrequest hresponse
  have hmethod := choose_method hchoose
  refine ⟨hmethod.trans (choose_method hchoose').symm, fun hpasskey => ?_⟩
  have hselected : (s0.selected t0).method = .passkey := hmethod.symm.trans hpasskey
  obtain ⟨passkey, -, hentered, hentered'⟩ := hhonest.passkey hselected
  rw [← hfacing.initiator] at hentered
  rw [← hfacing.responder] at hentered'
  rw [choose_passkey hchoose hselected hentered, choose_passkey hchoose' hselected hentered']

/-- Two honest sides use the same values of r, with out-of-band data on either side. -/
theorem rValues_eq (hhonest : Honest prim s0 t0) (hfits : Fits prim s0 t0)
    (hinitiator : s0.role = .initiator) (hresponder : t0.role = .responder)
    (hmethod : ex.method = ex'.method) (hpasskey : ex.method = .passkey → ex.passkey = ex'.passkey)
    (hdata : ex.method = .oob →
      s0.config.peerData.isSome = true ∨ t0.config.peerData.isSome = true) :
    ex.rValues s0 = ex'.rValues t0 := by
  unfold Exchange.rValues
  rw [← hmethod]
  cases hcase : ex.method with
  | passkey => dsimp only; rw [hpasskey hcase]
  | justWorks => rfl
  | numericComparison => rfl
  | ctkdOverClassic => rfl
  | oob =>
    obtain ⟨hcontext, hcontext'⟩ := hhonest.contexts (hdata hcase)
    obtain ⟨context, hcontext⟩ := Option.isSome_iff_exists.mp hcontext
    obtain ⟨context', hcontext'⟩ := Option.isSome_iff_exists.mp hcontext'
    -- without the data of the other side its value counts as zero
    have hpeer : ((s0.config.peerData.bind fun data => toArray16 data.r).getD zeroBlock) =
        context'.r := by
      cases hpeerData : s0.config.peerData with
      | some data =>
        obtain ⟨-, shared, hshared, rfl⟩ := hhonest.outOfBand data hpeerData
        cases hcontext'.symm.trans hshared
        simp [OobContext.share, toArray16_toList]
      | none =>
        have hother : t0.config.peerData.isSome = true := by
          rcases hdata hcase with hsome | hsome
          · rw [hpeerData] at hsome; cases hsome
          · exact hsome
        exact (hfits.oneSided' hother hpeerData context' hcontext').symm
    have hpeer' : ((t0.config.peerData.bind fun data => toArray16 data.r).getD zeroBlock) =
        context.r := by
      cases hpeerData : t0.config.peerData with
      | some data =>
        obtain ⟨-, shared, hshared, rfl⟩ := hhonest.outOfBand' data hpeerData
        cases hcontext.symm.trans hshared
        simp [OobContext.share, toArray16_toList]
      | none =>
        have hother : s0.config.peerData.isSome = true := by
          rcases hdata hcase with hsome | hsome
          · exact hsome
          · rw [hpeerData] at hsome; cases hsome
        exact (hfits.oneSided hother hpeerData context hcontext).symm
    dsimp only
    rw [hpeer, hpeer', hcontext, hcontext', hinitiator, hresponder]
    rfl

theorem Facing.keys_eq (hfacing : Facing prim s0 t0) (hhonest : Honest prim s0 t0)
    (hfits : Fits prim s0 t0) {last last' : Round} {whole whole' : List SmpPdu}
    (hsettled : ex.Settled s0 calls) (hsettled' : ex'.Settled t0 calls')
    (haccepted : ex.KeyAccepted prim s0) (haccepted' : ex'.KeyAccepted prim t0)
    (hcount : ex.rounds.length = roundCount ex.method)
    (hcount' : ex'.rounds.length = roundCount ex'.method)
    (hlast : ex.rounds.getLast? = some last) (hlast' : ex'.rounds.getLast? = some last')
    (hreceived : ex.received s0.role <+: whole') (hsent : ex'.sent prim t0 <+: whole')
    (hreceived' : ex'.received t0.role <+: whole) (hsent' : ex.sent prim s0 <+: whole) :
    ex.keys prim s0 last.ownNonce last.peerNonce =
      ex'.keys prim t0 last'.ownNonce last'.peerNonce := by
  have hjoined := Exchange.join hfacing.initiator hfacing.responder hsettled hsettled' hcount
    hcount' hlast hlast' hreceived hsent hreceived' hsent'
  have hdhKey := hjoined.dhKey hfacing.commutes haccepted haccepted'
  have hrequest : ex.request = ex'.request := hjoined.request.trans hjoined.request'.symm
  have hresponse : ex.response = ex'.response := hjoined.response.trans hjoined.response'.symm
  obtain ⟨hmethod, hpasskey⟩ :=
    hfacing.same hhonest hsettled hsettled' hrequest hresponse
  obtain ⟨⟨asked, hchoose⟩, -⟩ := hfacing.choices hsettled hsettled' hrequest hresponse
  have hr := rValues_eq hhonest hfits hfacing.initiator hfacing.responder hmethod hpasskey
    (fun hcase => (selected_cases s0 t0).2 ((choose_method hchoose).symm.trans hcase))
  simp only [Exchange.keys, hr, hrequest, hresponse, hdhKey, hfacing.address, hfacing.address',
    hfacing.initiator, hfacing.responder, byRole, hjoined.nonce, hjoined.nonce', hjoined.key.1,
    hjoined.key'.1]

end Joining

/-- **Honest sides that fit are peers**, in both directions. -/
theorem Facing.peers (hfacing : Facing prim s0 t0) (hhonest : Honest prim s0 t0)
    (hfits : Fits prim s0 t0) : Peers prim s0 t0 where
  fresh := hfacing.fresh
  opposite := by rw [hfacing.initiator, hfacing.responder]; simp
  notOwn := by
    rintro ⟨hx, hy⟩
    exact hfits.keyPairs ⟨(Vector.reverse_inj.mp hx).symm, (Vector.reverse_inj.mp hy).symm⟩
  onCurve := onCurve_of_commutes hfacing.commutes s0 t0
  outOfBand := fun _ hdata => hhonest.outOfBand.commits hfacing.fresh' hdata
  agrees := hhonest.accepts.confirm
  compares := hhonest.accepts.compareNumbers
  request := by
    intro hrole
    rw [hfacing.initiator] at hrole
    cases hrole
  response := by
    intro _
    refine ⟨hfacing.acceptable_response, choose_isSome ?_ ?_ (selected_cases s0 t0).1⟩
    · intro hmethod
      obtain ⟨passkey, hsmall, hentered, -⟩ := hhonest.passkey hmethod
      rw [← hfacing.initiator] at hentered
      exact ⟨passkey, hsmall, hentered⟩
    · intro hmethod
      exact (hhonest.contexts ((selected_cases s0 t0).2 hmethod)).1
  same := fun _ _ _ _ => hfacing.same hhonest
  check := by
    intro ex ex' last last' calls calls' whole whole' hsettled hsettled' haccepted haccepted'
      hcount hcount' hlast hlast' hreceived hsent hreceived' hsent'
    rw [hfacing.keys_eq hhonest hfits hsettled hsettled' haccepted haccepted' hcount hcount' hlast
      hlast' hreceived hsent hreceived' hsent', hfacing.initiator, hfacing.responder]
    rfl

theorem Facing.peers' (hfacing : Facing prim s0 t0) (hhonest : Honest prim s0 t0)
    (hfits : Fits prim s0 t0) : Peers prim t0 s0 where
  fresh := hfacing.fresh'
  opposite := by rw [hfacing.initiator, hfacing.responder]; simp
  notOwn := by
    rintro ⟨hx, hy⟩
    exact hfits.keyPairs ⟨Vector.reverse_inj.mp hx, Vector.reverse_inj.mp hy⟩
  onCurve := onCurve_of_commutes hfacing.commutes t0 s0
  outOfBand := fun _ hdata => hhonest.outOfBand'.commits hfacing.fresh hdata
  agrees := hhonest.accepts'.confirm
  compares := hhonest.accepts'.compareNumbers
  request := by
    intro _
    refine ⟨hhonest.accepts'.accept [], hfacing.acceptable_request hfits, ?_⟩
    rw [← selection_answer hfacing.initiator hfacing.responder]
    refine choose_isSome ?_ ?_ (selected_cases s0 t0).1
    · intro hmethod
      obtain ⟨passkey, hsmall, -, hentered⟩ := hhonest.passkey hmethod
      rw [← hfacing.responder] at hentered
      exact ⟨passkey, hsmall, hentered⟩
    · intro hmethod
      exact (hhonest.contexts ((selected_cases s0 t0).2 hmethod)).2
  response := by
    intro hrole
    rw [hfacing.responder] at hrole
    cases hrole
  same := by
    intro ex ex' calls calls' hsettled hsettled' hrequest hresponse
    obtain ⟨hmethod, hpasskey⟩ :=
      hfacing.same hhonest hsettled' hsettled hrequest.symm hresponse.symm
    exact ⟨hmethod.symm, fun hcase => (hpasskey (hmethod.trans hcase)).symm⟩
  check := by
    intro ex ex' last last' calls calls' whole whole' hsettled hsettled' haccepted haccepted'
      hcount hcount' hlast hlast' hreceived hsent hreceived' hsent'
    rw [hfacing.keys_eq hhonest hfits hsettled' hsettled haccepted' haccepted hcount' hcount hlast'
      hlast hreceived' hsent' hreceived hsent, hfacing.initiator, hfacing.responder]
    rfl

/-! ## 6. Honest pairings succeed -/

/-- How a pairing of an initiator and a responder should go: every run is finite,
    neither side ever fails, and where no move is left both wait for encryption. -/
def Succeeds (prim : Primitives κ) (s0 t0 : ScPairingSession κ) : Prop :=
  ∃ bound, ∀ moves, Net.Admissible (scParty prim) Enabled ⟨s0, t0, [], [], 0⟩ moves →
    moves.length ≤ bound ∧
    ∀ net, net = Net.run (scParty prim) ⟨s0, t0, [], [], 0⟩ moves →
      net.left.state ≠ .failed ∧ net.right.state ≠ .failed ∧
      (Finished net → net.left.state = .waitEncryption ∧ net.right.state = .waitEncryption)

theorem Sound.not_failed (hfresh : Fresh s0) (hsound : Sound prim s0 s received queued) :
    s.state ≠ .failed := by
  rcases hsound with hstage | ⟨hstate, -⟩
  · exact (hstage.state_mem prim hfresh).1
  · rw [hstate]
    simp

theorem paired_start (hfacing : Facing prim s0 t0) :
    Paired prim s0 t0 ⟨.start SmpPdu s0, .start SmpPdu t0, [], [], 0⟩ := by
  refine ⟨.inl ?_, .inl ?_, ⟨rfl, rfl⟩⟩
  · simp only [Log.start, hfacing.fresh.outbound]
    exact .idle rfl
  · simp only [Log.start, hfacing.fresh'.outbound]
    exact .idle rfl

theorem Facing.succeeds (hfacing : Facing prim s0 t0) (hhonest : Honest prim s0 t0)
    (hfits : Fits prim s0 t0) : Succeeds prim s0 t0 := by
  have hpeers := hfacing.peers hhonest hfits
  have hpeers' := hfacing.peers' hhonest hfits
  refine ⟨6 * 43, fun moves hrun => ?_⟩
  obtain ⟨hpaired, heffort⟩ := (paired_start hfacing).run hpeers hpeers' hrun
  have hforget : (Net.run (scParty prim).logged
      ⟨.start SmpPdu s0, .start SmpPdu t0, [], [], 0⟩ moves).forget =
      Net.run (scParty prim) ⟨s0, t0, [], [], 0⟩ moves := Net.forget_run _ moves
  revert hpaired heffort hforget
  generalize Net.run (scParty prim).logged ⟨.start SmpPdu s0, .start SmpPdu t0, [], [], 0⟩ moves =
    logs
  intro hpaired heffort hforget
  refine ⟨?_, ?_⟩
  · obtain ⟨hreceived, hqueued⟩ := (hpaired.left.pace hfacing.fresh).bounded
    obtain ⟨hreceived', hqueued'⟩ := (hpaired.right.pace hfacing.fresh').bounded
    have hsent : logs.left.sent.length ≤ 43 := by
      rw [List.length_append] at hqueued
      omega
    have hsent' : logs.right.sent.length ≤ 43 := by
      rw [List.length_append] at hqueued'
      omega
    unfold effort at heffort
    omega
  · intro net hnet
    have hsame : logs.forget = net := hforget.trans hnet.symm
    subst hsame
    exact ⟨hpaired.left.not_failed hfacing.fresh, hpaired.right.not_failed hfacing.fresh',
      hpaired.finished hpeers hfacing.fresh' hfacing.initiator hfacing.responder⟩

theorem Succeeds.run (hsucceeds : Succeeds prim s0 t0) :
    ∃ net, Net.Reachable (scParty prim) Enabled ⟨s0, t0, [], [], 0⟩ net ∧
      net.left.state = .waitEncryption ∧ net.right.state = .waitEncryption := by
  obtain ⟨bound, hruns⟩ := hsucceeds
  obtain ⟨moves, hmoves, hfinished⟩ :=
    Net.exists_finished (fun moves hmoves => (hruns moves hmoves).1)
  exact ⟨_, ⟨moves, hmoves, rfl⟩, ((hruns moves hmoves).2 _ rfl).2.2 hfinished⟩

theorem new_facing (hcommutes : prim.Commutes) {config config' : PairingConfig κ}
    {delegate delegate' : PairingDelegate} {initiatorAddress responderAddress : Address}
    {eccKey eccKey' : κ} {localNonce localNonce' : Octets 16}
    {random128 random128' : Nat → Octets 16}
    (hnew : new .initiator config delegate initiatorAddress responderAddress eccKey localNonce
      random128 = .ok s0)
    (hnew' : new .responder config' delegate' initiatorAddress responderAddress eccKey' localNonce'
      random128' = .ok t0) : Facing prim s0 t0 := by
  have hfields : ∀ {role : PairingRole} {config : PairingConfig κ} {delegate : PairingDelegate}
      {eccKey : κ} {localNonce : Octets 16} {random128 : Nat → Octets 16} {s : ScPairingSession κ},
      new role config delegate initiatorAddress responderAddress eccKey localNonce
        random128 = .ok s →
      s.role = role ∧ s.initiatorAddress = initiatorAddress ∧
        s.responderAddress = responderAddress := by
    intro role config delegate eccKey localNonce random128 s hnew
    unfold new at hnew
    split at hnew
    · cases hnew
    · split at hnew
      · cases hnew
      · cases hnew
        exact ⟨rfl, rfl, rfl⟩
  obtain ⟨hrole, haddress, haddress'⟩ := hfields hnew
  obtain ⟨hrole', haddress₂, haddress₂'⟩ := hfields hnew'
  exact ⟨hcommutes, new_fresh hnew, new_fresh hnew', hrole, hrole', haddress.trans haddress₂.symm,
    haddress'.trans haddress₂'.symm⟩

/-- **Honest pairings succeed** where the configurations fit: for all capabilities,
    all MITM flags and every method that they select. -/
theorem honest_pairing_succeeds (hcommutes : prim.Commutes) {config config' : PairingConfig κ}
    {delegate delegate' : PairingDelegate} {initiatorAddress responderAddress : Address}
    {eccKey eccKey' : κ} {localNonce localNonce' : Octets 16}
    {random128 random128' : Nat → Octets 16}
    (hnew : new .initiator config delegate initiatorAddress responderAddress eccKey localNonce
      random128 = .ok s0)
    (hnew' : new .responder config' delegate' initiatorAddress responderAddress eccKey' localNonce'
      random128' = .ok t0)
    (hhonest : Honest prim s0 t0) (hfits : Fits prim s0 t0) : Succeeds prim s0 t0 :=
  (new_facing hcommutes hnew hnew').succeeds hhonest hfits

/-! ## 7. The check of an out-of-band pairing -/

/-- In an out-of-band pairing the one random value a side has sent is its first nonce. -/
theorem Verified.first_nonce {last : Round} {calls : List DelegateCall}
    (hverified : Verified prim s0 ex last calls received queued) (hmethod : ex.method = .oob)
    {nonce : Octets 16}
    (hqueued : randomsIn queued = [] ∨ ∃ rest, randomsIn queued = nonce :: rest) :
    last.ownNonce = nonce := by
  have hrounds : ex.rounds = [last] := by
    have hcount := hverified.count
    rw [hmethod] at hcount
    obtain ⟨round, hround⟩ := List.length_eq_one_iff.mp hcount
    have hcloses := hverified.closes
    rw [hround] at hcloses
    cases hcloses
    exact hround
  obtain ⟨rest, rfl⟩ := hverified.queued
  have hfirst : ∃ tail, randomsIn (ex.sent prim s0 ++ [.pairingDhKeyCheck (ownCheck s0.role
      (ex.keys prim s0 last.ownNonce last.peerNonce))] ++ rest) = last.ownNonce :: tail := by
    refine ⟨randomsIn rest, ?_⟩
    cases hrole : s0.role <;>
      simp [Exchange.sent, Exchange.sentRounds, hrounds, hrole, randomsIn, commits, hmethod,
        publicKeyPdu,
        Exchange.ownFeaturesPdu]
  obtain ⟨tail, htail⟩ := hfirst
  rw [htail] at hqueued
  rcases hqueued with hnone | ⟨_, hsome⟩
  · cases hnone
  · exact (List.cons.inj hsome).1

theorem nonce_sent (hfresh : Fresh s0) {log : Log (ScPairingSession κ) SmpPdu}
    (hlog : ∃ events, log = (scParty prim).logged.run (.start SmpPdu s0) events) :
    Tracked prim s0 log ∧ (randomsIn (log.sent ++ log.state.outbound) = [] ∨
      ∃ rest, randomsIn (log.sent ++ log.state.outbound) = s0.localNonce :: rest) := by
  obtain ⟨events, rfl⟩ := hlog
  refine ⟨tracked_run prim hfresh events, ?_⟩
  rcases run_nonce hfresh events rfl with ⟨-, hempty, -⟩ | ⟨-, hfirst⟩
  · exact .inl hempty
  · exact .inr hfirst

theorem Tracked.verified {log : Log (ScPairingSession κ) SmpPdu} (hlog : Tracked prim s0 log)
    (hfresh : Fresh s0) (hstate : log.state.state = .waitEncryption) :
    ∃ ex last, Verified prim s0 ex last log.state.calls log.received
      (log.sent ++ log.state.outbound) := by
  have hsome := hlog.waiting prim hfresh hstate
  rcases hlog with ⟨hnone, -⟩ | ⟨ex, last, -, -, hverified⟩
  · rw [hnone] at hsome
    cases hsome
  · exact ⟨ex, last, hverified⟩

/-- The check the initiator has accepted is the one the responder has sent. -/
theorem Verified.check_eq {last last' : Round} {calls calls' : List DelegateCall}
    (hinitiator : s0.role = .initiator) (hresponder : t0.role = .responder)
    (hfirst : Verified prim s0 ex last calls received queued)
    (hsecond : Verified prim t0 ex' last' calls' received' queued')
    (hmethod : ex.method = ex'.method) (hfrom : received <+: queued') :
    (ex.keys prim s0 last.ownNonce last.peerNonce).eb =
      (ex'.keys prim t0 last'.ownNonce last'.peerNonce).eb := by
  have hreceived := hfirst.received
  have hsent := hsecond.queued
  rw [hinitiator] at hreceived
  rw [hresponder] at hsent
  have hlength : (ex.received .initiator).length = (ex'.sent prim t0).length := by
    rw [received_length, sent_length, hfirst.count, hsecond.count, hmethod, hresponder]
    simp [checks, commits]
  have hcheck := eq_of_prefixes (hreceived.trans hfrom) hsent
    (by simp [hlength])
  have hvalue := (List.append_inj hcheck hlength).2
  exact SmpPdu.pairingDhKeyCheck.inj (List.cons.inj hvalue).1

/-- **What the initiator has checked** in an out-of-band pairing that succeeds: the
    random values of its own context and of the data the responder has of it enter the
    same check. -/
theorem Facing.check_agrees (hfacing : Facing prim s0 t0) (hsucceeds : Succeeds prim s0 t0)
    (hmethod : (s0.selected t0).method = .oob) :
    ∃ ex ex' : Exchange, ex.method = .oob ∧ ex'.method = .oob ∧
      ex.request = s0.localFeatures ∧ ex.response = t0.answer s0.localFeatures ∧
      ex'.request = s0.localFeatures ∧ ex'.response = t0.answer s0.localFeatures ∧
      ex.x = t0.publicXLe prim ∧ ex'.x = s0.publicXLe prim ∧
      prim.dh s0.eccKey (prim.publicX t0.eccKey) (prim.publicY t0.eccKey) =
        some ex.dhKey.reverse ∧ ex'.dhKey = ex.dhKey ∧
      (ex.keys prim s0 s0.localNonce t0.localNonce).eb =
        (ex'.keys prim t0 t0.localNonce s0.localNonce).eb := by
  obtain ⟨net, hreach, hleft, hright⟩ := hsucceeds.run
  have hlossless : Net.Reachable (scParty prim) Net.Lossless
      (Net.forget ⟨.start SmpPdu s0, .start SmpPdu t0, [], [], 0⟩) net :=
    hreach.mono fun _ _ henabled => enabled_lossless henabled _
  obtain ⟨logs, hlogs, rfl⟩ := Net.reachable_logged hlossless
  obtain ⟨hrun, hrun'⟩ := Net.sides_run hlogs
  obtain ⟨htracked, hnonce⟩ := nonce_sent hfacing.fresh hrun
  obtain ⟨htracked', hnonce'⟩ := nonce_sent hfacing.fresh' hrun'
  obtain ⟨ex, last, hverified⟩ := htracked.verified hfacing.fresh hleft
  obtain ⟨ex', last', hverified'⟩ := htracked'.verified hfacing.fresh' hright
  obtain ⟨hto, hfrom⟩ := Net.logs_cross hlogs logs.left.state.outbound logs.right.state.outbound
  have hjoined := hverified.join hfacing.initiator hfacing.responder hverified' hto hfrom
  have hdhKey := hjoined.dhKey hfacing.commutes hverified.accepted hverified'.accepted
  have hchosen : ex.method = .oob := by
    obtain ⟨⟨asked, hchoose⟩, -⟩ := hfacing.choices hverified.settled hverified'.settled
      (hjoined.request.trans hjoined.request'.symm) (hjoined.response.trans hjoined.response'.symm)
    exact (choose_method hchoose).trans hmethod
  have hchosen' : ex'.method = .oob := hjoined.method.symm.trans hchosen
  have hown := hverified.first_nonce hchosen hnonce
  have hown' := hverified'.first_nonce hchosen' hnonce'
  have hsecret := hverified.accepted.onCurve
  rw [hjoined.key.1, hjoined.key.2] at hsecret
  simp only [publicXLe, publicYLe, Vector.reverse_reverse] at hsecret
  have hcheck := hverified.check_eq hfacing.initiator hfacing.responder hverified'
    hjoined.method hfrom
  rw [hjoined.nonce, hjoined.nonce', hown, hown'] at hcheck
  exact ⟨ex, ex', hchosen, hchosen', hjoined.request, hjoined.response, hjoined.request',
    hjoined.response', hjoined.key.1, hjoined.key'.1, hsecret, hdhKey.symm, hcheck⟩

/-! ### The sessions of the tests -/

def testInitiator (oob : OobConfig TestKey) : Except Error (ScPairingSession TestKey) :=
  new .initiator (testConfig true (some oob)) testDelegate testInitiatorAddress testResponderAddress
    .a testInitiatorNonce testRandom128

def testResponder (oob : OobConfig TestKey) : Except Error (ScPairingSession TestKey) :=
  new .responder (testConfig true (some oob)) testDelegate testInitiatorAddress testResponderAddress
    .b testResponderNonce testRandom128

theorem two_sided_fits :
    ∃ s0 t0, testInitiator (testOob testInitiatorContext
        (some (testResponderContext.share testPrimitives))) = .ok s0 ∧
      testResponder (testOob testResponderContext
        (some (testInitiatorContext.share testPrimitives))) = .ok t0 ∧
      Honest testPrimitives s0 t0 ∧ Fits testPrimitives s0 t0 := by
  refine ⟨_, _, rfl, rfl, ?_, ?_⟩
  · refine ⟨testDelegate_accepts, testDelegate_accepts, ?_, ?_, ?_⟩
    · intro hmethod
      cases hmethod
    · rintro data hdata
      cases hdata
      exact ⟨rfl, testResponderContext, rfl, rfl⟩
    · rintro data hdata
      cases hdata
      exact ⟨rfl, testInitiatorContext, rfl, rfl⟩
  · refine ⟨by decide, by decide, fun hsame => absurd hsame.1.symm TestKey.publicX_ne, ?_, ?_⟩
    · intro _ hnone
      cases hnone
    · intro _ hnone
      cases hnone

theorem honest_pairing_succeeds_two_sided :
    ∃ s0 t0, testInitiator (testOob testInitiatorContext
        (some (testResponderContext.share testPrimitives))) = .ok s0 ∧
      testResponder (testOob testResponderContext
        (some (testInitiatorContext.share testPrimitives))) = .ok t0 ∧
      Succeeds testPrimitives s0 t0 := by
  obtain ⟨s0, t0, hnew, hnew', hhonest, hfits⟩ := two_sided_fits
  exact ⟨s0, t0, hnew, hnew',
    honest_pairing_succeeds testPrimitives_commutes hnew hnew' hhonest hfits⟩

/-- The MAC key of the two contexts of the tests. -/
def testMacKey : Octets 16 :=
  (f5 testPrimitives (TestKey.secret .a .b).reverse testInitiatorContext.r testResponderContext.r
    (testInitiatorAddress.addressBytes.push testInitiatorAddress.randomFlag)
    (testResponderAddress.addressBytes.push testResponderAddress.randomFlag)).1

theorem testMacKey_eq : testMacKey =
    #v[213, 152, 109, 130, 101, 226, 228, 225, 216, 167, 22, 108, 238, 193, 134, 155] := by
  decide +kernel

/-- The responder's check, with what it takes for the initiator's random value. -/
def testCheck (r : Octets 16) : Octets 16 :=
  f6 testPrimitives testMacKey testResponderContext.r testInitiatorContext.r r #v[3, 0, 13]
    (testResponderAddress.addressBytes.push testResponderAddress.randomFlag)
    (testInitiatorAddress.addressBytes.push testInitiatorAddress.randomFlag)

theorem testCheck_known : testCheck testInitiatorContext.r =
    #v[48, 192, 189, 56, 148, 48, 25, 116, 85, 105, 222, 103, 246, 88, 174, 161] := by
  rw [testCheck, testMacKey_eq]
  decide +kernel

theorem testCheck_unknown : testCheck zeroBlock ≠
    #v[48, 192, 189, 56, 148, 48, 25, 116, 85, 105, 222, 103, 246, 88, 174, 161] := by
  rw [testCheck, testMacKey_eq]
  decide +kernel

/-- Only the initiator has the data of the other side: its own random value enters the
    check it expects, and zero enters the one the responder sends. -/
theorem honest_pairing_fails_one_sided :
    ∃ s0 t0, testInitiator (testOob testInitiatorContext
        (some (testResponderContext.share testPrimitives))) = .ok s0 ∧
      testResponder (testOob testResponderContext none) = .ok t0 ∧
      Honest testPrimitives s0 t0 ∧ ¬ Succeeds testPrimitives s0 t0 := by
  refine ⟨_, _, rfl, rfl, ?_, ?_⟩
  · refine ⟨testDelegate_accepts, testDelegate_accepts, ?_, ?_, ?_⟩
    · intro hmethod
      cases hmethod
    · rintro data hdata
      cases hdata
      exact ⟨rfl, testResponderContext, rfl, rfl⟩
    · rintro data hdata
      cases hdata
  · intro hsucceeds
    have hnew : testInitiator (testOob testInitiatorContext
      (some (testResponderContext.share testPrimitives))) = .ok _ := rfl
    have hnew' : testResponder (testOob testResponderContext none) = .ok _ := rfl
    obtain ⟨ex, ex', hmethod, hmethod', hrequest, hresponse, hrequest', hresponse', hkey, hkey',
      hsecret, hdhKey, hcheck⟩ :=
      (new_facing testPrimitives_commutes hnew hnew').check_agrees hsucceeds rfl
    have hsame : ex.dhKey = (TestKey.secret .a .b).reverse := by
      rw [← Vector.reverse_inj, Vector.reverse_reverse]
      exact (Option.some.inj (hsecret.symm.trans (TestKey.dh_public .a .b)))
    simp only [Exchange.keys, keysWithR, Exchange.rValues, hmethod, hmethod', hresponse, hresponse',
      hsame, hdhKey] at hcheck
    have hequal : testCheck testInitiatorContext.r = testCheck zeroBlock := hcheck
    exact testCheck_unknown (hequal.symm.trans testCheck_known)

end Bumble.Smp.ScPairingSession
