import Bumble.LegacyTranscript
import Bumble.SmpTestSetup

/-!
# Runs of a legacy session

An adversary chooses the PDUs a session receives and the order of all calls.
Every event keeps the session on the track of its transcript: it is at a stage,
it has failed, or it has an outcome and a verified exchange behind it.
-/

namespace Bumble.Smp.LegacyPairingSession

variable {κ : Type} {s s' s0 : LegacyPairingSession κ} (prim : Primitives κ)

inductive LegacyInput where
  | start
  | markEncrypted
  | setLocalKeyMaterial (keys : LocalKeyMaterial)

def legacyParty : Party (LegacyPairingSession κ) LegacyInput SmpPdu where
  call s input :=
    match input with
    | .start => s.start.state
    | .markEncrypted => s.markEncrypted.state
    | .setLocalKeyMaterial keys => (s.setLocalKeyMaterial keys).state
  poll s := s.pollOutbound
  receive s pdu := (s.process prim pdu).state

theorem pollOutbound_nil (hqueue : s.outbound = []) : s.pollOutbound = none := by
  simp [pollOutbound, hqueue]

theorem pollOutbound_cons {pdu : SmpPdu} {outbound : List SmpPdu}
    (hqueue : s.outbound = pdu :: outbound) :
    s.pollOutbound = some (pdu, { s with outbound := outbound }) := by
  simp [pollOutbound, hqueue]

/-- A session, what it has received and what it has queued so far, polled or not. -/
def Tracked (s0 : LegacyPairingSession κ) (log : Log (LegacyPairingSession κ) SmpPdu) : Prop :=
  (log.state.outcome = none ∧ log.state.distribution = none ∧ (log.state.state = .failed ∨
    Stage prim s0 log.state log.received (log.sent ++ log.state.outbound))) ∨
  ∃ ex random, log.state.outcome = some (ex.outcome prim s0 random) ∧
    Concluded log.state.state ∧ Confirms prim s0 log.state ex ∧
    Verified prim s0 ex random log.received (log.sent ++ log.state.outbound)

variable {prim} in
theorem Verified.mono {ex : Exchange} {random : Octets 16}
    {received received' queued queued' : List SmpPdu}
    (hverified : Verified prim s0 ex random received queued) (hreceived : received <+: received')
    (hqueued : queued <+: queued') : Verified prim s0 ex random received' queued' :=
  ⟨hverified.settled, hverified.received.trans hreceived, hverified.queued.trans hqueued⟩

theorem Stage.setOutbound {received queued : List SmpPdu} (hstage : Stage prim s0 s received queued)
    (outbound : List SmpPdu) : Stage prim s0 { s with outbound := outbound } received queued := by
  cases hstage with
  | idle hs =>
    refine .idle ?_
    rw [hs]
  | requested hrole hs =>
    refine .requested hrole ?_
    rw [hs]
  | prepared ex hstate hholds =>
    exact .prepared ex hstate (hholds.queue s.state outbound s.peerConfirm)
  | committed ex confirm hstate hholds hconfirm =>
    exact .committed ex confirm hstate (hholds.queue s.state outbound s.peerConfirm) hconfirm

theorem Stage.idle_cases {received queued : List SmpPdu} (hstage : Stage prim s0 s received queued)
    (hidle : s.state = .idle) : Idle s0 s ∧ received = [] ∧ queued = [] := by
  cases hstage with
  | idle hs => exact ⟨hs, rfl, rfl⟩
  | requested hside hs => rw [hs] at hidle; cases hidle
  | prepared ex hstate _ => rw [hstate] at hidle; cases hidle
  | committed ex confirm hstate _ _ => rw [hstate] at hidle; cases hidle

section Events

variable {prim} {log : Log (LegacyPairingSession κ) SmpPdu}

theorem Tracked.call_start (hfresh : Fresh s0) (hlog : Tracked prim s0 log) :
    Tracked prim s0 { log with state := log.state.start.state } := by
  by_cases hmay : log.state.role ≠ .initiator ∨ log.state.state ≠ .idle
  · have hsame : log.state.start.state = log.state := by
      unfold start
      rw [if_pos hmay]
      rfl
    rw [hsame]
    exact hlog
  · obtain ⟨hrole, hidle⟩ := not_or.mp hmay
    rw [not_not] at hrole hidle
    rcases hlog with ⟨houtcome, -, hfailed | hstage⟩ | ⟨ex, random, -, hconcluded, -, -⟩
    · rw [hidle] at hfailed
      cases hfailed
    · obtain ⟨hs, hreceived, hqueued⟩ := hstage.idle_cases prim hidle
      have hside : s0.role = .initiator := by
        rw [hs] at hrole
        exact hrole
      obtain ⟨houtbound, hnext⟩ := start_advances prim hfresh hside hs
      obtain ⟨-, -, -, hnone, hnone'⟩ := hnext.state_mem prim hfresh
      refine .inl ⟨hnone, hnone', .inr (hnext.cast hreceived.symm ?_)⟩
      change _ = log.sent ++ log.state.start.state.outbound
      rw [houtbound, ← List.append_assoc, hqueued]
      rfl
    · exact (hconcluded.not_idle hidle).elim

theorem Tracked.call_setLocalKeyMaterial (hlog : Tracked prim s0 log) (keys : LocalKeyMaterial) :
    Tracked prim s0 { log with state := (log.state.setLocalKeyMaterial keys).state } := by
  by_cases hidle : log.state.state = .idle
  · have hresult : (log.state.setLocalKeyMaterial keys).state =
        { log.state with localKeys := keys } := by
      unfold setLocalKeyMaterial
      rw [if_neg (not_not.mpr hidle)]
      rfl
    rw [hresult]
    rcases hlog with ⟨houtcome, hnone, hfailed | hstage⟩ | ⟨ex, random, -, hconcluded, -, -⟩
    · rw [hidle] at hfailed
      cases hfailed
    · obtain ⟨hs, hreceived, hqueued⟩ := hstage.idle_cases prim hidle
      refine .inl ⟨houtcome, hnone, .inr ?_⟩
      refine (Stage.idle ?_).cast hreceived.symm hqueued.symm
      rw [hs]
    · exact (hconcluded.not_idle hidle).elim
  · have hsame : (log.state.setLocalKeyMaterial keys).state = log.state := by
      unfold setLocalKeyMaterial
      rw [if_pos hidle]
      rfl
    rw [hsame]
    exact hlog

theorem Tracked.retains {received : List SmpPdu} {ex : Exchange} {random : Octets 16}
    (houtcome : log.state.outcome = some (ex.outcome prim s0 random))
    (hconfirms : Confirms prim s0 log.state ex)
    (hverified : Verified prim s0 ex random log.received (log.sent ++ log.state.outbound))
    (hretains : Retains log.state s') (hreceived : log.received <+: received) :
    Tracked prim s0 { log with state := s', received := received } := by
  refine .inr ⟨ex, random, hretains.outcome.trans houtcome, hretains.concluded,
    ⟨hretains.tk.trans hconfirms.1, ?_⟩, ?_⟩
  · intro random
    exact (hretains.confirmFor prim random).trans (hconfirms.2 random)
  · exact hverified.mono hreceived ((List.prefix_append_right_inj _).mpr hretains.outbound)

theorem Tracked.call_markEncrypted (hlog : Tracked prim s0 log) :
    Tracked prim s0 { log with state := log.state.markEncrypted.state } := by
  rcases hlog with hnone | ⟨ex, random, houtcome, hconcluded, hconfirms, hverified⟩
  · have hsame : log.state.markEncrypted.state = log.state := by
      unfold markEncrypted
      rw [hnone.1]
      rfl
    rw [hsame]
    exact .inl hnone
  · exact Tracked.retains houtcome hconfirms hverified (markEncrypted_retains hconcluded)
      List.prefix_rfl

theorem Tracked.receive (hfresh : Fresh s0) (hlog : Tracked prim s0 log) (pdu : SmpPdu) :
    Tracked prim s0
      { log with
        state := (log.state.process prim pdu).state, received := log.received ++ [pdu] } := by
  rcases hlog with ⟨houtcome, hnone, hfailed | hstage⟩ |
    ⟨ex, random, houtcome, hconcluded, hconfirms, hverified⟩
  · have hprocess : (log.state.process prim pdu).state = log.state := by
      unfold process
      rw [if_pos hfailed]
      rfl
    rw [hprocess]
    exact .inl ⟨houtcome, hnone, .inl hfailed⟩
  · obtain ⟨hfailed, hkeys, -, -, -⟩ := hstage.state_mem prim hfresh
    have hreacts : Reacts prim s0 log.state log.received (log.sent ++ log.state.outbound) pdu
        (log.state.process prim pdu).state := by
      rcases process_handle prim hfailed hkeys pdu with haborts | hhandle
      · exact .aborts haborts
      · rw [hhandle]
        exact handle_reacts prim hfresh hstage pdu
    cases hreacts with
    | advances pdus hqueue hnext =>
      obtain ⟨-, -, -, hnone, hnone'⟩ := hnext.state_mem prim hfresh
      refine .inl ⟨hnone, hnone', .inr (hnext.cast rfl ?_)⟩
      dsimp only
      rw [hqueue, List.append_assoc]
    | aborts haborts =>
      exact .inl ⟨haborts.outcome.trans houtcome, haborts.distribution.trans hnone,
        .inl haborts.state⟩
    | concludes ex random pdus hqueue hstate hdistribution hconfirms hresult hverified =>
      refine .inr ⟨ex, random, hresult, ?_, hconfirms, ?_⟩
      · dsimp only
        rw [hstate]
        trivial
      · dsimp only
        rw [hqueue, ← List.append_assoc]
        exact hverified
  · exact Tracked.retains houtcome hconfirms hverified (process_retains prim hconcluded pdu)
      (List.prefix_append _ _)

theorem Tracked.poll (hlog : Tracked prim s0 log) {pdu : SmpPdu} {outbound : List SmpPdu}
    (hqueue : log.state.outbound = pdu :: outbound) :
    Tracked prim s0
      { log with state := { log.state with outbound := outbound }, sent := log.sent ++ [pdu] } := by
  have hsame : log.sent ++ [pdu] ++ outbound = log.sent ++ log.state.outbound := by
    rw [hqueue, List.append_assoc]
    rfl
  rcases hlog with ⟨houtcome, hnone, hfailed | hstage⟩ |
    ⟨ex, random, houtcome, hconcluded, hconfirms, hverified⟩
  · exact .inl ⟨houtcome, hnone, .inl hfailed⟩
  · exact .inl ⟨houtcome, hnone, .inr ((hstage.setOutbound prim outbound).cast rfl hsame.symm)⟩
  · refine .inr ⟨ex, random, houtcome, hconcluded, hconfirms, ?_⟩
    dsimp only
    rw [hsame]
    exact hverified

/-- **Every event** keeps the session on the track of its transcript. -/
theorem tracked_apply (hfresh : Fresh s0) (hlog : Tracked prim s0 log)
    (event : Event LegacyInput SmpPdu) :
    Tracked prim s0 ((legacyParty prim).logged.apply log event) := by
  cases event with
  | call input =>
    cases input with
    | start => exact hlog.call_start hfresh
    | markEncrypted => exact hlog.call_markEncrypted
    | setLocalKeyMaterial keys => exact hlog.call_setLocalKeyMaterial keys
  | poll =>
    cases hqueue : log.state.outbound with
    | nil =>
      rw [Party.logged_poll_none _ (pollOutbound_nil hqueue)]
      exact hlog
    | cons pdu outbound =>
      rw [Party.logged_poll_some _ (pollOutbound_cons hqueue)]
      exact hlog.poll hqueue
  | receive pdu => exact hlog.receive hfresh pdu

end Events

theorem tracked_start (hfresh : Fresh s0) : Tracked prim s0 (.start SmpPdu s0) := by
  refine .inl ⟨hfresh.outcome, hfresh.distribution, .inr ?_⟩
  refine (Stage.idle rfl).cast rfl ?_
  exact hfresh.outbound.symm

theorem tracked_run (hfresh : Fresh s0) (events : List (Event LegacyInput SmpPdu)) :
    Tracked prim s0 ((legacyParty prim).logged.run (.start SmpPdu s0) events) := by
  have hstep : ∀ log event, Tracked prim s0 log →
      Tracked prim s0 ((legacyParty prim).logged.apply log event) :=
    fun _ event hlog => tracked_apply hfresh hlog event
  exact Party.run_keeps _ hstep (tracked_start prim hfresh) events

/-- A session of the tests, without input and output. -/
def testSession (role : PairingRole) (localRandom : Octets 16) :
    Except Error (LegacyPairingSession TestKey) :=
  new role (testConfig false none) testDelegate testInitiatorAddress testResponderAddress
    localRandom testRandom128

end Bumble.Smp.LegacyPairingSession
