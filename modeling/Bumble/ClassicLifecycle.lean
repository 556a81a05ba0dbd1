import Bumble.ClassicCalls

/-!
# The life of a Classic channel

Configuration frames are processed in every state of a channel, and each of
them may set a mark or close the channel.  Along any run a channel moves
forward only, it opens only after both configuration exchanges and, when it is
outgoing, after its connection was accepted, and an incoming one is announced
once, by the step that opens it.
-/

namespace Bumble.Classic

open Bumble.L2cap (ControlFrame InformationCapabilities configurationSuccess connectionSuccessful)
open ChannelManager

/-! ## 1. What a run has seen -/

def ClassicChannelState.rank : ClassicChannelState → Nat
  | waitConnectResponse => 0
  | configuring => 1
  | open_ => 2
  | waitDisconnect => 3
  | closed => 4

/-- Some call of the run was the event, in the state it was made in. -/
def Happened (event : ClassicOp → ChannelManager → Prop) (start : ChannelManager)
    (ops : List ClassicOp) : Prop :=
  ∃ earlier op later, ops = earlier ++ op :: later ∧ event op (start.runOps earlier)

/-- A Configuration Response with success for the channel. -/
def ConfigurationAnswered (cid : UInt16) (op : ClassicOp) (manager : ChannelManager) : Prop :=
  ∃ identifier flags options channel, manager.channels[cid]? = some channel ∧
    op.frame? = some (.configureResponse identifier cid flags configurationSuccess options)

/-- A complete Configuration Request for the channel, answered with success. -/
def ConfigurationAccepted (cid : UInt16) (op : ClassicOp) (manager : ChannelManager) : Prop :=
  (∃ channel, manager.channels[cid]? = some channel) ∧
    AcceptsConfiguration op manager (op.apply manager) cid

/-- A successful Connection Response for the channel, which waits for it. -/
def ConnectionAccepted (cid : UInt16) (op : ClassicOp) (manager : ChannelManager) : Prop :=
  ∃ identifier destinationCid status channel, manager.channels[cid]? = some channel ∧
    channel.state = .waitConnectResponse ∧
    op.frame? = some
      (.connectionResponse identifier destinationCid cid connectionSuccessful status)

/-- The CIDs that the call puts in the queue of accepted channels. -/
def pushed (op : ClassicOp) (manager : ChannelManager) : List UInt16 :=
  (op.apply manager).acceptedChannels.drop manager.acceptedChannels.length

/-- All CIDs that a run puts in the queue, in order. -/
def pushedIn : ChannelManager → List ClassicOp → List UInt16
  | _, [] => []
  | manager, op :: ops => pushed op manager ++ pushedIn (op.apply manager) ops

theorem runOps_append (manager : ChannelManager) (earlier later : List ClassicOp) :
    manager.runOps (earlier ++ later) = (manager.runOps earlier).runOps later :=
  List.foldl_append ..

theorem pushedIn_append (earlier later : List ClassicOp) : ∀ (manager : ChannelManager),
    pushedIn manager (earlier ++ later) =
      pushedIn manager earlier ++ pushedIn (manager.runOps earlier) later := by
  induction earlier with
  | nil =>
    intro manager
    rfl
  | cons op earlier ih =>
    intro manager
    rw [List.cons_append, pushedIn, pushedIn, ih, List.append_assoc]
    rfl

section Happened

variable {event : ClassicOp → ChannelManager → Prop} {start : ChannelManager}
  {ops : List ClassicOp}

theorem Happened.later (hhappened : Happened event start ops) (op : ClassicOp) :
    Happened event start (ops ++ [op]) := by
  obtain ⟨earlier, first, later, rfl, hevent⟩ := hhappened
  exact ⟨earlier, first, later ++ [op], by simp, hevent⟩

theorem Happened.now {op : ClassicOp} (hevent : event op (start.runOps ops)) :
    Happened event start (ops ++ [op]) := ⟨ops, op, [], rfl, hevent⟩

end Happened

/-! ## 2. One step of a channel -/

section Step

variable {op : ClassicOp} {manager : ChannelManager} {cid : UInt16}
  {channel channel' : ClassicChannel}

/-- What a step keeps of a channel, and when it can set its marks. -/
structure Advances (op : ClassicOp) (manager : ChannelManager) (cid : UInt16)
    (channel channel' : ClassicChannel) : Prop where
  forward : channel.state.rank ≤ channel'.state.rank
  incoming : channel'.incoming = channel.incoming
  announced : channel.openAnnounced = true → channel'.openAnnounced = true
  answered : channel'.configurationResponseReceived = true →
    channel.configurationResponseReceived = true ∨ ConfigurationAnswered cid op manager
  accepted : channel'.peerConfigurationReceived = true →
    channel.peerConfigurationReceived = true ∨ ConfigurationAccepted cid op manager
  connected : channel.state = .waitConnectResponse → channel'.state ≠ .waitConnectResponse →
    channel'.state ≠ .closed → ConnectionAccepted cid op manager
  opens : channel'.state = .open_ → channel.state = .open_ ∨
    channel'.peerConfigurationReceived = true ∧ channel'.configurationResponseReceived = true
  marked : channel.peerConfigurationReceived = true ∧ channel.configurationResponseReceived = true →
    channel'.peerConfigurationReceived = true ∧ channel'.configurationResponseReceived = true

theorem Advances.refl : Advances op manager cid channel channel where
  forward := le_rfl
  incoming := rfl
  announced h := h
  answered h := .inl h
  accepted h := .inl h
  connected h hnot := absurd h hnot
  opens h := .inl h
  marked h := h

theorem Advances.close (hclosed : channel'.state = .closed)
    (hincoming : channel'.incoming = channel.incoming)
    (hannounced : channel'.openAnnounced = channel.openAnnounced)
    (hanswered : channel'.configurationResponseReceived = channel.configurationResponseReceived)
    (haccepted : channel'.peerConfigurationReceived = channel.peerConfigurationReceived) :
    Advances op manager cid channel channel' where
  forward := by
    rw [hclosed]
    cases channel.state <;> decide
  incoming := hincoming
  announced h := by rw [hannounced]; exact h
  answered h := .inl (by rw [← hanswered]; exact h)
  accepted h := .inl (by rw [← haccepted]; exact h)
  connected _ _ hnot := absurd hclosed hnot
  opens h := by
    rw [hclosed] at h
    cases h
  marked h := by
    rw [haccepted, hanswered]
    exact h

theorem Advances.opened (hadvances : Advances op manager cid channel channel')
    (hstate : channel'.state = channel.state ∨ channel'.state = .closed) :
    Advances op manager cid channel channel'.opened := by
  rcases channel'.opened_cases with hsame | ⟨hopened, hconfiguring, hpeer, hresponse⟩
  · rw [hsame]
    exact hadvances
  · rw [hopened]
    have hbefore : channel.state = .configuring := by
      rcases hstate with hkept | hclosed
      · rw [← hkept]
        exact hconfiguring
      · rw [hclosed] at hconfiguring
        cases hconfiguring
    constructor
    case forward =>
      rw [hbefore]
      exact (by decide : ClassicChannelState.rank .configuring ≤ ClassicChannelState.rank .open_)
    case incoming => exact hadvances.incoming
    case announced =>
      intro hannounced
      simp only [hadvances.announced hannounced, Bool.true_or]
    case answered => exact hadvances.answered
    case accepted => exact hadvances.accepted
    case connected =>
      intro hwaiting
      rw [hbefore] at hwaiting
      cases hwaiting
    case opens => exact fun _ => .inr ⟨hpeer, hresponse⟩
    case marked => exact fun _ => ⟨hpeer, hresponse⟩

/-- The options of a request advance the channel no further than their acceptance does. -/
theorem advances_configured {flags : UInt16} {options : List L2cap.ConfigurationOption}
    (haccepts : ∀ answer, flags &&& 1 = 0 →
      (channel.onConfigureOptions flags options).result = .ok (configurationSuccess, answer) →
      ConfigurationAccepted cid op manager) :
    Advances op manager cid channel (channel.onConfigureOptions flags options).state := by
  have hconfigures := channel.configures flags options
  have hincoming : (channel.onConfigureOptions flags options).state.incoming =
      channel.incoming := by rw [hconfigures.same]
  have hannounced : (channel.onConfigureOptions flags options).state.openAnnounced =
      channel.openAnnounced := by rw [hconfigures.same]
  have hanswered :
      (channel.onConfigureOptions flags options).state.configurationResponseReceived =
        channel.configurationResponseReceived := by rw [hconfigures.same]
  have hmarks := hconfigures.marks
  constructor
  case forward =>
    rcases hconfigures.closes with hkept | hclosed
    · rw [hkept]
    · rw [hclosed]
      cases channel.state <;> decide
  case incoming => exact hincoming
  case announced => exact fun h => by rw [hannounced]; exact h
  case answered => exact fun h => .inl (by rw [← hanswered]; exact h)
  case accepted =>
    intro hreceived
    rcases hmarks with hkept | ⟨-, hflags, answer, hresult⟩
    · exact .inl (by rw [← hkept]; exact hreceived)
    · exact .inr (haccepts answer hflags hresult)
  case connected =>
    intro hwaiting hmoved hopen
    rcases hconfigures.closes with hkept | hclosed
    · exact absurd (hkept.trans hwaiting) hmoved
    · exact absurd hclosed hopen
  case opens =>
    intro hopen
    rcases hconfigures.closes with hkept | hclosed
    · exact .inl (by rw [← hkept]; exact hopen)
    · rw [hclosed] at hopen
      cases hopen
  case marked =>
    intro hmarked
    refine ⟨?_, by rw [hanswered]; exact hmarked.2⟩
    rcases hmarks with hkept | ⟨hset, -⟩
    · rw [hkept]
      exact hmarked.1
    · exact hset

/-- **The step.**  Whatever changes a channel moves it forward. -/
theorem advances_change (hget : manager.channels[cid]? = some channel)
    (hchange : Change op manager (op.apply manager) cid channel channel') :
    Advances op manager cid channel channel' := by
  cases hchange with
  | traffic engine received =>
    exact ⟨le_rfl, rfl, fun h => h, fun h => .inl h, fun h => .inl h, fun h hnot => absurd h hnot,
      fun h => .inl h, fun h => h⟩
  | connected identifier destinationCid status hframe hstate =>
    refine ⟨?_, rfl, fun h => h, fun h => .inl h, fun h => .inl h, ?_, ?_, fun h => h⟩
    · rw [hstate]
      exact Nat.zero_le _
    · intro _ _ _
      exact ⟨identifier, destinationCid, status, channel, hget, hstate, hframe⟩
    · intro hopen
      cases hopen
  | refused result hstate => exact .close rfl rfl rfl rfl rfl
  | configured identifier flags encoded options hframe hdecode hresult haccepts =>
    apply Advances.opened
    · apply advances_configured
      intro answer hflags hsuccess
      exact ⟨⟨channel, hget⟩, haccepts answer hflags hsuccess⟩
    · exact (channel.configures flags options).closes
  | misconfigured identifier flags encoded options error hframe hdecode hresult =>
    apply advances_configured
    intro answer _ hsuccess
    rw [hresult] at hsuccess
    cases hsuccess
  | answered identifier flags options hframe =>
    have hanswered : Advances op manager cid channel
        { channel with configurationResponseReceived := true } := by
      refine ⟨le_rfl, rfl, fun h => h, ?_, fun h => .inl h, fun h hnot => absurd h hnot,
        fun h => .inl h, fun h => ⟨h.1, rfl⟩⟩
      intro _
      exact .inr ⟨identifier, flags, options, channel, hget, hframe⟩
    exact hanswered.opened (.inl rfl)
  | rejected result => exact .close rfl rfl rfl rfl rfl
  | disconnecting hstate =>
    refine ⟨?_, rfl, fun h => h, fun h => .inl h, fun h => .inl h, ?_, ?_, fun h => h⟩
    · rw [hstate]
      exact (by decide :
        ClassicChannelState.rank .open_ ≤ ClassicChannelState.rank .waitDisconnect)
    · intro hwaiting
      rw [hstate] at hwaiting
      cases hwaiting
    · intro hopen
      cases hopen
  | closed => exact .close rfl rfl rfl rfl rfl

theorem advances_apply (op : ClassicOp) (hget : manager.channels[cid]? = some channel) :
    ∃ channel', (op.apply manager).channels[cid]? = some channel' ∧
      Advances op manager cid channel channel' := by
  obtain ⟨channel', hnext, hsame | hchange⟩ := (op.effect_apply manager).kept cid channel hget
  · rw [hsame] at hnext
    exact ⟨channel, hnext, .refl⟩
  · exact ⟨channel', hnext, advances_change hget hchange⟩

theorem pushed_cases (op : ClassicOp) (manager : ChannelManager) :
    pushed op manager = [] ∨
    ∃ cid channel channel', pushed op manager = [cid] ∧ manager.channels[cid]? = some channel ∧
      (op.apply manager).channels[cid]? = some channel' ∧ Announced channel channel' := by
  rcases (op.effect_apply manager).accepted with hsame | htail | ⟨cid, channel, channel', hpushed,
    hget, hnext, hannounced⟩
  · left
    rw [pushed, hsame, List.drop_length]
  · left
    rw [pushed, htail]
    exact List.drop_eq_nil_of_le (by simp)
  · right
    refine ⟨cid, channel, channel', ?_, hget, hnext, hannounced⟩
    rw [pushed, hpushed, List.drop_left]

end Step

/-! ## 3. Every run -/

/-- What the marks and the state of a channel say about the run. -/
structure Recorded (start : ChannelManager) (ops : List ClassicOp) (cid : UInt16)
    (channel : ClassicChannel) : Prop where
  answered : channel.configurationResponseReceived = true →
    Happened (ConfigurationAnswered cid) start ops
  accepted : channel.peerConfigurationReceived = true →
    Happened (ConfigurationAccepted cid) start ops
  connected : channel.incoming = false → channel.state ≠ .waitConnectResponse →
    channel.state ≠ .closed → Happened (ConnectionAccepted cid) start ops
  marked : channel.state = .open_ →
    channel.peerConfigurationReceived = true ∧ channel.configurationResponseReceived = true

theorem Recorded.step {start : ChannelManager} {ops : List ClassicOp} {cid : UInt16}
    {channel channel' : ClassicChannel} {op : ClassicOp}
    (hrecorded : Recorded start ops cid channel)
    (hadvances : Advances op (start.runOps ops) cid channel channel') :
    Recorded start (ops ++ [op]) cid channel' where
  answered h := by
    rcases hadvances.answered h with hbefore | hnow
    · exact (hrecorded.answered hbefore).later op
    · exact .now hnow
  accepted h := by
    rcases hadvances.accepted h with hbefore | hnow
    · exact (hrecorded.accepted hbefore).later op
    · exact .now hnow
  connected hincoming hmoved hopen := by
    by_cases hwaiting : channel.state = .waitConnectResponse
    · exact .now (hadvances.connected hwaiting hmoved hopen)
    · apply Happened.later
      apply hrecorded.connected
      · rw [← hadvances.incoming]
        exact hincoming
      · exact hwaiting
      · intro hclosed
        have hforward := hadvances.forward
        rw [hclosed] at hforward
        cases hstate : channel'.state with
        | closed => exact hopen hstate
        | _ =>
          rw [hstate] at hforward
          simp [ClassicChannelState.rank] at hforward
  marked hopen := by
    rcases hadvances.opens hopen with hbefore | hmarked
    · exact hadvances.marked (hrecorded.marked hbefore)
    · exact hmarked

theorem Recorded.created {start manager : ChannelManager} {ops : List ClassicOp} {cid : UInt16}
    {channel : ClassicChannel} (hcreated : Created manager cid channel) :
    Recorded start ops cid channel := by
  rcases hcreated with ⟨psm, spec, -, rfl⟩ | ⟨psm, remoteCid, spec, -, rfl⟩
  · exact ⟨nofun, nofun, fun _ hmoved => absurd rfl hmoved, nofun⟩
  · exact ⟨nofun, nofun, nofun, nofun⟩

/-- The invariant of a run: the record of every channel, and the channels that
    were put in the queue. -/
structure Logged (start : ChannelManager) (ops : List ClassicOp) : Prop where
  recorded : ∀ cid channel, (start.runOps ops).channels[cid]? = some channel →
    Recorded start ops cid channel
  announced : ∀ cid ∈ pushedIn start ops, ∃ channel,
    (start.runOps ops).channels[cid]? = some channel ∧ channel.openAnnounced = true
  once : (pushedIn start ops).Nodup

/-- One more operation keeps the record of the channels and of the queue. -/
theorem Logged.step {start : ChannelManager} {ops : List ClassicOp} (hlogged : Logged start ops)
    (op : ClassicOp) : Logged start (ops ++ [op]) := by
  have hrun : start.runOps (ops ++ [op]) = op.apply (start.runOps ops) := runOps_append ..
  have hpushes : pushedIn start (ops ++ [op]) =
      pushedIn start ops ++ pushed op (start.runOps ops) := by
    rw [pushedIn_append]
    simp [pushedIn]
  have hkept : ∀ cid ∈ pushedIn start ops, ∃ channel,
      (op.apply (start.runOps ops)).channels[cid]? = some channel ∧
        channel.openAnnounced = true := by
    intro cid hcid
    obtain ⟨channel, hget, hannounced⟩ := hlogged.announced cid hcid
    obtain ⟨channel', hnext, hadvances⟩ := advances_apply op hget
    exact ⟨channel', hnext, hadvances.announced hannounced⟩
  constructor
  case recorded =>
    intro cid channel' hnext
    rw [hrun] at hnext
    cases hget : (start.runOps ops).channels[cid]? with
    | none => exact .created ((op.effect_apply _).fresh cid channel' hget hnext)
    | some channel =>
      obtain ⟨found, hfound, hadvances⟩ := advances_apply op hget
      rw [hnext] at hfound
      cases hfound
      exact (hlogged.recorded cid channel hget).step hadvances
  case announced =>
    intro cid hcid
    rw [hrun]
    rw [hpushes] at hcid
    rcases List.mem_append.mp hcid with hcid | hcid
    · exact hkept cid hcid
    · rcases pushed_cases op (start.runOps ops) with hnone | ⟨other, channel, channel', hone, -,
        hnext, hannounced⟩
      · rw [hnone] at hcid
        cases hcid
      · rw [hone] at hcid
        cases List.mem_singleton.mp hcid
        exact ⟨channel', hnext, hannounced.announced⟩
  case once =>
    rw [hpushes]
    rcases pushed_cases op (start.runOps ops) with hnone | ⟨cid, channel, channel', hone, hget, -,
      hannounced⟩
    · rw [hnone, List.append_nil]
      exact hlogged.once
    · rw [hone]
      refine List.Nodup.append hlogged.once (List.nodup_singleton cid) ?_
      intro other hearlier hother
      cases List.mem_singleton.mp hother
      -- a channel in the queue carries the mark that the announcement needs to be clear
      obtain ⟨found, hfound, hmarked⟩ := hlogged.announced cid hearlier
      rw [hget] at hfound
      cases hfound
      rw [hannounced.silent] at hmarked
      cases hmarked

theorem logged_run (information : InformationCapabilities) (ops : List ClassicOp) :
    Logged (.withInformationCapabilities information) ops := by
  induction ops using List.reverseRecOn with
  | nil =>
    constructor
    case recorded =>
      intro cid channel hget
      simp [ChannelManager.runOps, withInformationCapabilities] at hget
    case announced =>
      intro cid hcid
      cases hcid
    case once => exact List.nodup_nil
  | append_singleton ops op ih => exact ih.step op

theorem run_forward (later : List ClassicOp) : ∀ {manager : ChannelManager} {cid : UInt16}
    {channel : ClassicChannel}, manager.channels[cid]? = some channel →
    ∃ channel', (manager.runOps later).channels[cid]? = some channel' ∧
      channel.state.rank ≤ channel'.state.rank := by
  induction later with
  | nil =>
    intro manager cid channel hget
    exact ⟨channel, hget, le_rfl⟩
  | cons op later ih =>
    intro manager cid channel hget
    obtain ⟨middle, hmiddle, hadvances⟩ := advances_apply op hget
    obtain ⟨channel', hnext, hforward⟩ := ih hmiddle
    exact ⟨channel', hnext, hadvances.forward.trans hforward⟩

/-- What a run from `start` shows of its channels. -/
structure Lifecycle (start : ChannelManager) (ops : List ClassicOp) : Prop where
  forward : ∀ earlier later, ops = earlier ++ later →
    ∀ (cid : UInt16) (channel : ClassicChannel),
    (start.runOps earlier).channels[cid]? = some channel →
    ∃ channel', (start.runOps ops).channels[cid]? = some channel' ∧
      channel.state.rank ≤ channel'.state.rank
  opens : ∀ (cid : UInt16) (channel : ClassicChannel), (start.runOps ops).channels[cid]? =
    some channel →
    channel.state = .open_ →
    Happened (ConfigurationAnswered cid) start ops ∧
    Happened (ConfigurationAccepted cid) start ops ∧
    (channel.incoming = false → Happened (ConnectionAccepted cid) start ops)
  once : (pushedIn start ops).Nodup
  announced : ∀ earlier op later, ops = earlier ++ op :: later →
    ∀ cid ∈ pushed op (start.runOps earlier), ∃ channel channel' : ClassicChannel,
      (start.runOps earlier).channels[cid]? = some channel ∧
      (op.apply (start.runOps earlier)).channels[cid]? = some channel' ∧
      channel.state ≠ .open_ ∧ channel'.state = .open_ ∧ channel.incoming = true

/-- **The life of a channel.**  In every run from a new manager, whatever the
    calls and the PDUs. -/
theorem channel_lifecycle (information : InformationCapabilities) (ops : List ClassicOp) :
    Lifecycle (.withInformationCapabilities information) ops where
  forward := by
    rintro earlier later rfl cid channel hget
    rw [runOps_append]
    exact run_forward later hget
  opens := by
    intro cid channel hget hopen
    have hrecorded := (logged_run information ops).recorded cid channel hget
    obtain ⟨hpeer, hresponse⟩ := hrecorded.marked hopen
    refine ⟨hrecorded.answered hresponse, hrecorded.accepted hpeer, ?_⟩
    intro hincoming
    exact hrecorded.connected hincoming (by rw [hopen]; decide) (by rw [hopen]; decide)
  once := (logged_run information ops).once
  announced := by
    rintro earlier op later - cid hcid
    rcases pushed_cases op _ with hnone | ⟨other, channel, channel', hone, hget, hnext, hannounced⟩
    · rw [hnone] at hcid
      cases hcid
    · rw [hone] at hcid
      cases List.mem_singleton.mp hcid
      refine ⟨channel, channel', hget, hnext, ?_, hannounced.after, hannounced.incoming⟩
      rw [hannounced.before]
      decide

end Bumble.Classic
