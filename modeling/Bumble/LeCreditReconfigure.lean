import Bumble.LeCreditManager
import Bumble.StepRuns

/-!
# Reconfiguration of a group of channels (`bumble-l2cap/src/le_credit.rs`)

A successful response applies the new MTU and MPS to the channels of the group one
after the other, and stops with an error at the first that is gone.  The channels in
front of it keep what they have taken by then (`reconfigured_iff`).
-/

namespace Bumble.LeCredit

open Bumble.L2cap (L2capPdu ControlFrame InformationCapabilities l2capLeSignalingCid)

namespace LeCreditChannelManager

variable {manager : LeCreditChannelManager} {mtu mps : UInt16}

/-! ## 1. The loop -/

/-- The channels of a group in front of the first that is gone. -/
def presentCids (manager : LeCreditChannelManager) (cids : List UInt16) : List UInt16 :=
  cids.takeWhile fun cid => manager.channels.contains cid

theorem contains_insert_present {sourceCid : UInt16} {channel : LeCreditBasedChannel}
    (hchannel : manager.channels[sourceCid]? = some channel) (next : LeCreditBasedChannel) :
    (fun cid => (manager.channels.insert sourceCid next).contains cid) =
      fun cid => manager.channels.contains cid := by
  funext cid
  rw [Bool.eq_iff_iff, OrderedMap.contains_iff, OrderedMap.contains_iff]
  simp only [OrderedMap.getElem?_insert]
  by_cases hcid : sourceCid = cid
  · subst hcid
    rw [if_pos rfl]
    exact iff_of_true ⟨_, rfl⟩ ⟨_, hchannel⟩
  · rw [if_neg hcid]

theorem reconfigureLocals_channels (cids : List UInt16) : ∀ (manager : LeCreditChannelManager)
    (cid : UInt16), (manager.reconfigureLocals mtu mps cids).state.channels[cid]? =
      if cid ∈ manager.presentCids cids then
        manager.channels[cid]?.map (·.reconfigureLocal mtu mps)
      else manager.channels[cid]? := by
  induction cids with
  | nil => exact fun _ _ => rfl
  | cons sourceCid rest ih =>
    intro manager cid
    rw [reconfigureLocals, presentCids]
    cases hchannel : manager.channels[sourceCid]? with
    | none =>
      have habsent : ¬ manager.channels.contains sourceCid = true := by
        rw [OrderedMap.contains_iff]
        simp [hchannel]
      rw [List.takeWhile_cons_of_neg habsent, if_neg List.not_mem_nil]
      rfl
    | some channel =>
      have hpresent : manager.channels.contains sourceCid = true :=
        (OrderedMap.contains_iff _ _).mpr ⟨channel, hchannel⟩
      dsimp only
      rw [ih, presentCids, List.takeWhile_cons_of_pos hpresent, contains_insert_present hchannel]
      simp only [OrderedMap.getElem?_insert, List.mem_cons]
      by_cases hcid : sourceCid = cid
      · subst hcid
        simp only [if_true, true_or, hchannel]
        split <;> rfl
      · rw [if_neg hcid]
        simp only [Ne.symm hcid, false_or]

theorem reconfigureLocals_ok_iff (cids : List UInt16) : ∀ manager : LeCreditChannelManager,
    (manager.reconfigureLocals mtu mps cids).result = .ok () ↔
      ∀ cid ∈ cids, manager.channels.contains cid = true := by
  induction cids with
  | nil => exact fun _ => iff_of_true rfl (List.forall_mem_nil _)
  | cons sourceCid rest ih =>
    intro manager
    rw [reconfigureLocals, List.forall_mem_cons]
    cases hchannel : manager.channels[sourceCid]? with
    | none =>
      apply iff_of_false
      · intro hok
        cases hok
      · rintro ⟨hcontains, -⟩
        rw [OrderedMap.contains_iff, hchannel] at hcontains
        obtain ⟨_, hnone⟩ := hcontains
        cases hnone
    | some channel =>
      have hpresent : manager.channels.contains sourceCid = true :=
        (OrderedMap.contains_iff _ _).mpr ⟨channel, hchannel⟩
      have hsame := contains_insert_present hchannel (channel.reconfigureLocal mtu mps)
      dsimp only
      rw [ih]
      simp only [fun cid => congrFun hsame cid, hpresent, true_and]

/-! ## 2. One response -/

/-- The channels of the group that exist have these parameters, and the call succeeds. -/
structure AllTake (manager : LeCreditChannelManager) (pending : PendingReconfiguration)
    (call : ManagerCall Unit) : Prop where
  ok : call.result = .ok ()
  take : ∀ cid ∈ pending.sourceCids, ∀ channel, manager.channels[cid]? = some channel →
    ∃ next, call.state.channels[cid]? = some next ∧ next.mtu = pending.mtu ∧ next.mps = pending.mps

/-- A response to a reconfiguration reaches all channels of its group or changes none. -/
def AllOrNone (manager : LeCreditChannelManager) (op : ManagerOp) : Prop :=
  ∀ pdu identifier result, op = .processPdu pdu → pdu.cid = l2capLeSignalingCid →
    ControlFrame.fromBytes pdu.payload = .ok (.creditBasedReconfigureResponse identifier result) →
    (∃ pending, manager.pendingReconfigurations[identifier]? = some pending ∧
      AllTake manager pending (manager.processPdu pdu)) ∨
    (manager.processPdu pdu).state.channels = manager.channels

/-- A successful response finds all channels of its group, or those in front of the
    first that is gone have the new parameters already. -/
def GroupIntact (manager : LeCreditChannelManager) (op : ManagerOp) : Prop :=
  ∀ pdu identifier pending, op = .processPdu pdu → pdu.cid = l2capLeSignalingCid →
    ControlFrame.fromBytes pdu.payload =
      .ok (.creditBasedReconfigureResponse identifier creditBasedReconfigurationSuccessful) →
    manager.pendingReconfigurations[identifier]? = some pending →
    (∀ cid ∈ pending.sourceCids, manager.channels.contains cid = true) ∨
      ∀ cid ∈ manager.presentCids pending.sourceCids, ∀ channel,
        manager.channels[cid]? = some channel →
        channel.reconfigureLocal pending.mtu pending.mps = channel

theorem processPdu_reconfigureResponse {pdu : L2capPdu} {identifier : UInt8} {result : UInt16}
    (hcid : pdu.cid = l2capLeSignalingCid)
    (hframe : ControlFrame.fromBytes pdu.payload =
      .ok (.creditBasedReconfigureResponse identifier result)) :
    manager.processPdu pdu = manager.onReconfigureResponse identifier result := by
  rw [processPdu, if_pos hcid, hframe]
  rfl

theorem onReconfigureResponse_channels {identifier : UInt8} {result : UInt16}
    (hnone : ∀ pending, manager.pendingReconfigurations[identifier]? = some pending →
      result ≠ creditBasedReconfigurationSuccessful) :
    (manager.onReconfigureResponse identifier result).state.channels = manager.channels := by
  rw [onReconfigureResponse]
  cases hpending : manager.pendingReconfigurations[identifier]? with
  | none => rfl
  | some pending =>
    dsimp only
    rw [if_neg (hnone pending hpending)]
    rfl

theorem onReconfigureResponse_success {identifier : UInt8} {pending : PendingReconfiguration}
    (hpending : manager.pendingReconfigurations[identifier]? = some pending) :
    ((manager.onReconfigureResponse identifier creditBasedReconfigurationSuccessful).result =
      .ok () ↔
      ∀ cid ∈ pending.sourceCids, manager.channels.contains cid = true) ∧
    ∀ cid : UInt16, (manager.onReconfigureResponse identifier
        creditBasedReconfigurationSuccessful).state.channels[cid]? =
      if cid ∈ manager.presentCids pending.sourceCids then
        manager.channels[cid]?.map (·.reconfigureLocal pending.mtu pending.mps)
      else manager.channels[cid]? := by
  rw [onReconfigureResponse, hpending]
  dsimp only
  rw [if_pos rfl]
  exact ⟨reconfigureLocals_ok_iff _ _, reconfigureLocals_channels _ _⟩

theorem presentCids_of_all {cids : List UInt16}
    (hall : ∀ cid ∈ cids, manager.channels.contains cid = true) :
    manager.presentCids cids = cids := List.takeWhile_eq_self_iff.mpr hall

/-- **One response.** -/
theorem allOrNone_iff (op : ManagerOp) : manager.AllOrNone op ↔ manager.GroupIntact op := by
  constructor
  · intro hall pdu identifier pending hop hcid hframe hpending
    obtain ⟨hok, hchannels⟩ := onReconfigureResponse_success hpending
    rcases hall pdu identifier _ hop hcid hframe with ⟨_, _, htake⟩ | hsame
    · left
      have hresult := htake.ok
      rw [processPdu_reconfigureResponse hcid hframe] at hresult
      exact hok.mp hresult
    · right
      intro cid hpresent channel hchannel
      rw [processPdu_reconfigureResponse hcid hframe] at hsame
      have hafter := hchannels cid
      rw [hsame, if_pos hpresent, hchannel] at hafter
      exact (Option.some.inj hafter).symm
  · intro hintact pdu identifier result hop hcid hframe
    rw [processPdu_reconfigureResponse hcid hframe]
    by_cases hsuccess : result = creditBasedReconfigurationSuccessful
    · subst hsuccess
      cases hpending : manager.pendingReconfigurations[identifier]? with
      | none =>
        right
        apply onReconfigureResponse_channels
        intro pending hsome
        rw [hpending] at hsome
        cases hsome
      | some pending =>
        obtain ⟨hok, hchannels⟩ := onReconfigureResponse_success hpending
        rcases hintact pdu identifier pending hop hcid hframe hpending with hall | hsame
        · left
          refine ⟨pending, rfl, hok.mpr hall, ?_⟩
          intro cid hmem channel hchannel
          refine ⟨channel.reconfigureLocal pending.mtu pending.mps, ?_, rfl, rfl⟩
          rw [hchannels, presentCids_of_all hall, if_pos hmem, hchannel]
          rfl
        · right
          apply Std.ExtTreeMap.ext_getElem?
          intro cid
          rw [hchannels]
          split
          · next hpresent =>
            cases hchannel : manager.channels[cid]? with
            | none => rfl
            | some channel => exact congrArg some (hsame cid hpresent channel hchannel)
          · rfl
    · right
      exact onReconfigureResponse_channels fun _ _ => hsuccess

/-! ## 3. Runs -/

/-- **Reconfiguration.**  In every run of a manager the responses to its reconfigurations
    reach all channels of their groups or none exactly when each successful one finds
    all channels of its group, or the new parameters in place in those in front of the
    first that is gone. -/
theorem reconfigured_iff (information : InformationCapabilities) (ops : List ManagerOp) :
    (∀ before op after, ops = before ++ op :: after →
      ((withInformationCapabilities information).runOps before).AllOrNone op) ↔
    ∀ before op after, ops = before ++ op :: after →
      ((withInformationCapabilities information).runOps before).GroupIntact op := by
  constructor
  · intro hall before op after hsplit
    exact (allOrNone_iff op).mp (hall before op after hsplit)
  · intro hintact before op after hsplit
    exact (allOrNone_iff op).mpr (hintact before op after hsplit)

def leSignalingPdu (frame : ControlFrame) : L2capPdu := ⟨l2capLeSignalingCid, frame.toBytes⟩

/-- Two channels are connected and asked to take larger parameters, and the second one is
    aborted before the answer. -/
def secondAborted : List ManagerOp :=
  [.connectEnhanced 0x80 { mtu := 64, mps := 64 } 2,
    .processPdu (leSignalingPdu (.creditBasedConnectionResponse 1 64 64 5 0 [0x40, 0x41])),
    .reconfigure [0x40, 0x41] 128 128, .abort 0x41]

/-- The first one takes them, and the call fails. -/
theorem second_aborted_half :
    ¬ (new.runOps secondAborted).AllOrNone
      (.processPdu (leSignalingPdu (.creditBasedReconfigureResponse 2 0))) := by
  intro hall
  rcases hall _ 2 0 rfl rfl (by decide) with ⟨_, _, htake⟩ | hsame
  · have hfailed : ((new.runOps secondAborted).processPdu
        (leSignalingPdu (.creditBasedReconfigureResponse 2 0))).result ≠ .ok () := by
      decide
    exact hfailed htake.ok
  · have hmtu : ((new.runOps secondAborted).processPdu (leSignalingPdu
        (.creditBasedReconfigureResponse 2 0))).state.channels[(0x40 : UInt16)]?.map (·.mtu) =
          some 128 := by decide
    rw [hsame] at hmtu
    exact absurd hmtu (by decide)

end LeCreditChannelManager

end Bumble.LeCredit
