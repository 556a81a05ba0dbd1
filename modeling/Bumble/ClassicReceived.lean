import Bumble.ClassicCalls

/-!
# Received SDUs of Classic channels (`bumble-l2cap/src/classic.rs`)

What a channel has received waits until the application takes it.  No other
call removes an SDU or a channel, or changes the order.
-/

namespace Bumble.Classic

open Bumble.L2cap (L2capPdu ControlFrame l2capSignalingCid)
open Bumble.Ertm (EngineCall)
open ChannelManager

/-- Every channel is still there, and its received SDUs are still waiting, in front of those
that have come since. -/
def Grows (manager next : ChannelManager) : Prop :=
  ∀ (cid : UInt16) (channel : ClassicChannel), manager.channels[cid]? = some channel →
    ∃ channel', next.channels[cid]? = some channel' ∧ channel.received <+: channel'.received

section Calls

variable {op : ClassicOp} {manager next last : ChannelManager} {cid : UInt16}
  {channel channel' : ClassicChannel}

theorem Grows.same (hchannels : next.channels = manager.channels) : Grows manager next := by
  intro cid channel hget
  exact ⟨channel, by rw [hchannels]; exact hget, List.prefix_rfl⟩

theorem Grows.trans (hfirst : Grows manager next) (hsecond : Grows next last) :
    Grows manager last := by
  intro cid channel hget
  obtain ⟨middle, hmiddle, hreceived⟩ := hfirst cid channel hget
  obtain ⟨after, hafter, hmore⟩ := hsecond cid middle hmiddle
  exact ⟨after, hafter, hreceived.trans hmore⟩

theorem Grows.insert (hchannels : next.channels = manager.channels.insert cid channel')
    (hreceived : ∀ channel, manager.channels[cid]? = some channel →
      channel.received <+: channel'.received) : Grows manager next := by
  intro other channel hget
  rw [hchannels, OrderedMap.getElem?_insert]
  by_cases heq : cid = other
  · subst heq
    exact ⟨channel', if_pos rfl, hreceived channel hget⟩
  · exact ⟨channel, by rw [if_neg heq]; exact hget, List.prefix_rfl⟩

theorem grows_callEngine (hget : manager.channels[cid]? = some channel)
    (call : EngineCall Unit) : Grows manager (manager.callEngine cid channel call).state := by
  obtain ⟨engine, received, outbound, hstate, hreceived⟩ := callEngine_state manager cid channel call
  rw [hstate]
  apply Grows.insert rfl
  intro old hold
  rw [hget] at hold
  obtain rfl := Option.some.inj hold
  exact hreceived

theorem grows_tickLoop (ticks : UInt32) (cids : List UInt16) (manager : ChannelManager) :
    Grows manager (manager.tickLoop ticks cids).state := by
  induction cids generalizing manager with
  | nil => exact .same rfl
  | cons first cids ih =>
    rw [tickLoop]
    cases hget : manager.channels[first]? with
    | none => exact .same rfl
    | some channel =>
      dsimp only
      cases channel.ertm with
      | none => exact .same rfl
      | some engine =>
        have hcall := grows_callEngine hget (engine.tick ticks)
        dsimp only
        generalize manager.callEngine first channel (engine.tick ticks) = call at hcall
        obtain ⟨state, result⟩ := call
        cases result with
        | error error => exact hcall
        | ok value => exact hcall.trans (ih state)

theorem grows_setReceiverBusy (sourceCid : UInt16) (busy : Bool) :
    Grows manager (manager.setReceiverBusy sourceCid busy).state := by
  rw [setReceiverBusy]
  cases hget : manager.channels[sourceCid]? with
  | none => exact .same rfl
  | some channel =>
    dsimp only
    split
    · exact .same rfl
    · exact grows_callEngine hget _

theorem grows_send (sourceCid : UInt16) (sdu : Bytes) :
    Grows manager (manager.send sourceCid sdu).state := by
  rw [send]
  cases hget : manager.channels[sourceCid]? with
  | none => exact .same rfl
  | some channel =>
    dsimp only
    split
    · exact .same rfl
    split
    · exact grows_callEngine hget _
    · split
      · exact .same rfl
      · exact .same rfl

theorem grows_processData (localCid : UInt16) (payload : Bytes) :
    Grows manager (manager.processData localCid payload).state := by
  rw [processData]
  cases hget : manager.channels[localCid]? with
  | none => exact .same rfl
  | some channel =>
    dsimp only
    split
    · exact .same rfl
    split
    · split
      · exact .same rfl
      · exact grows_callEngine hget _
    · split
      · exact .same rfl
      · apply Grows.insert rfl
        intro old hold
        rw [hget] at hold
        obtain rfl := Option.some.inj hold
        exact List.prefix_append ..

theorem grows_disconnect (sourceCid : UInt16) :
    Grows manager (manager.disconnect sourceCid).state := by
  rw [disconnect]
  cases hget : manager.channels[sourceCid]? with
  | none => exact .same rfl
  | some channel =>
    dsimp only
    split
    · exact .same rfl
    · apply Grows.insert rfl
      intro old hold
      rw [hget] at hold
      obtain rfl := Option.some.inj hold
      exact List.prefix_rfl

theorem grows_connectWithSpec (psm : UInt32) (spec : ChannelSpec) :
    Grows manager (manager.connectWithSpec psm spec).state := by
  rw [connectWithSpec]
  cases hallocate : manager.allocateCid with
  | error error => exact .same rfl
  | ok sourceCid =>
    apply Grows.insert rfl
    intro channel hget
    rw [allocateCid_free hallocate] at hget
    cases hget

theorem grows_registerServerWithSpec (psm : Option UInt32) (spec : ChannelSpec) :
    Grows manager (manager.registerServerWithSpec psm spec).state := by
  simp only [registerServerWithSpec]
  split
  · exact .same rfl
  split
  · exact .same rfl
  · exact .same rfl

theorem Change.received_eq (hchange : Change op manager next cid channel channel')
    (hframe : op.frame? ≠ none) : channel'.received = channel.received := by
  have hopened : ∀ channel : ClassicChannel, channel.opened.received = channel.received := by
    intro channel
    rcases channel.opened_cases with hsame | ⟨hopened, -⟩
    · rw [hsame]
    · rw [hopened]
  have hconfigured : ∀ flags options,
      (channel.onConfigureOptions flags options).state.received = channel.received := by
    intro flags options
    rw [(ClassicChannel.configures channel flags options).same]
  cases hchange with
  | traffic engine received hnone => exact absurd hnone hframe
  | configured identifier flags encoded options => rw [hopened, hconfigured]
  | misconfigured identifier flags encoded options => exact hconfigured flags options
  | answered => rw [hopened]
  | connected => rfl
  | refused => rfl
  | rejected => rfl
  | disconnecting => rfl
  | closed => rfl

theorem Effect.grows (heffect : Effect op manager next) (hframe : op.frame? ≠ none) :
    Grows manager next := by
  intro cid channel hget
  obtain ⟨channel', hnext, rfl | hchange⟩ := heffect.kept cid channel hget
  · exact ⟨channel', hnext, List.prefix_rfl⟩
  · exact ⟨channel', hnext, by rw [hchange.received_eq hframe]⟩

theorem grows_processPdu (pdu : L2capPdu) :
    Grows manager (manager.processPdu pdu).state := by
  by_cases hsignaling : pdu.cid = l2capSignalingCid
  · cases hbytes : ControlFrame.fromBytes pdu.payload with
    | error error =>
      rw [processPdu, if_pos hsignaling, hbytes]
      exact .same rfl
    | ok frame =>
      have hframe : (ClassicOp.processPdu pdu).frame? = some frame := by
        simp [ClassicOp.frame?, ClassicOp.pdu?, hsignaling, hbytes, Except.toOption]
      have heffect : Effect (.processPdu pdu) manager (manager.processPdu pdu).state :=
        effect_processPdu rfl
      apply heffect.grows
      rw [hframe]
      exact Option.some_ne_none frame
  · rw [processPdu, if_neg hsignaling]
    exact grows_processData pdu.cid pdu.payload

/-- **Nothing is lost in a manager.**  Only taking an SDU shortens what a channel has
received. -/
theorem grows_apply (op : ClassicOp) (hop : ∀ cid, op ≠ .popReceived cid)
    (manager : ChannelManager) : Grows manager (op.apply manager) := by
  cases op with
  | registerServer psm spec =>
    simp only [ClassicOp.apply, registerServer]
    cases validateSpec spec with
    | error error => exact .same rfl
    | ok value => exact grows_registerServerWithSpec psm _
  | registerErtmServer psm spec =>
    simp only [ClassicOp.apply, registerErtmServer]
    cases validateErtmSpec spec with
    | error error => exact .same rfl
    | ok value => exact grows_registerServerWithSpec psm _
  | connect psm spec =>
    simp only [ClassicOp.apply, ChannelManager.connect]
    cases validatePsm psm with
    | error error => exact .same rfl
    | ok value =>
      cases validateSpec spec with
      | error error => exact .same rfl
      | ok value => exact grows_connectWithSpec psm _
  | connectErtm psm spec =>
    simp only [ClassicOp.apply, ChannelManager.connectErtm]
    cases validatePsm psm with
    | error error => exact .same rfl
    | ok value =>
      cases validateErtmSpec spec with
      | error error => exact .same rfl
      | ok value => exact grows_connectWithSpec psm _
  | popReceived sourceCid => exact absurd rfl (hop sourceCid)
  | tick ticks => exact grows_tickLoop ticks _ manager
  | setReceiverBusy sourceCid busy => exact grows_setReceiverBusy sourceCid busy
  | processPdu pdu => exact grows_processPdu pdu
  | processBytes bytes =>
    simp only [ClassicOp.apply, ChannelManager.processBytes]
    cases L2capPdu.fromBytes bytes with
    | error error => exact .same rfl
    | ok pdu => exact grows_processPdu pdu
  | send sourceCid sdu => exact grows_send sourceCid sdu
  | disconnect sourceCid => exact grows_disconnect sourceCid
  | _ => exact .same rfl

end Calls

/-- The SDU that a call takes out of the channel. -/
def takenOut (cid : UInt16) (manager : ChannelManager) : ClassicOp → List Bytes
  | .popReceived sourceCid =>
    if sourceCid = cid then ((manager.channels[cid]?).bind (·.received.head?)).toList else []
  | _ => []

def takenOutIn (cid : UInt16) (manager : ChannelManager) : List ClassicOp → List Bytes
  | [] => []
  | op :: ops => takenOut cid manager op ++ takenOutIn cid (op.apply manager) ops

/-- What waits in a channel leaves it before anything that comes later. -/
def FirstInFirstOut (manager : ChannelManager) (ops : List ClassicOp) : Prop :=
  ∀ (cid : UInt16) (channel : ClassicChannel), manager.channels[cid]? = some channel →
    ∃ channel', (manager.runOps ops).channels[cid]? = some channel' ∧
      channel.received <+: takenOutIn cid manager ops ++ channel'.received

theorem received_apply (op : ClassicOp) {manager : ChannelManager} {cid : UInt16}
    {channel : ClassicChannel} (hget : manager.channels[cid]? = some channel) :
    ∃ channel', (op.apply manager).channels[cid]? = some channel' ∧
      channel.received <+: takenOut cid manager op ++ channel'.received := by
  by_cases hpop : ∃ sourceCid, op = .popReceived sourceCid
  · obtain ⟨sourceCid, rfl⟩ := hpop
    simp only [ClassicOp.apply, Std.ExtTreeMap.getElem?_modify, takenOut]
    by_cases hsame : sourceCid = cid
    · subst hsame
      refine ⟨{ channel with received := channel.received.tail }, by simp [hget], ?_⟩
      rw [if_pos rfl, hget, Option.bind_some]
      cases channel.received <;> exact List.prefix_rfl
    · refine ⟨channel, by simp [hget, hsame], ?_⟩
      rw [if_neg hsame, List.nil_append]
  · rw [not_exists] at hpop
    obtain ⟨channel', hafter, hreceived⟩ := grows_apply op hpop manager cid channel hget
    have hnone : takenOut cid manager op = [] := by
      unfold takenOut
      split
      · exact absurd rfl (hpop _)
      · rfl
    refine ⟨channel', hafter, ?_⟩
    rw [hnone, List.nil_append]
    exact hreceived

/-- **Channels are queues.**  In every run no channel goes away, and what a channel has received
    is taken out of it in that order, before whatever it receives later. -/
theorem received_in_order (ops : List ClassicOp) :
    ∀ manager : ChannelManager, FirstInFirstOut manager ops := by
  induction ops with
  | nil =>
    intro manager cid channel hget
    exact ⟨channel, hget, List.prefix_rfl⟩
  | cons op ops ih =>
    intro manager cid channel hget
    obtain ⟨middle, hmiddle, hfirst⟩ := received_apply op hget
    obtain ⟨channel', hafter, hrest⟩ := ih (op.apply manager) cid middle hmiddle
    refine ⟨channel', hafter, ?_⟩
    rw [takenOutIn, List.append_assoc]
    exact hfirst.trans ((List.prefix_append_right_inj _).mpr hrest)

end Bumble.Classic
