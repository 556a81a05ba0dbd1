import Bumble.ClassicManager

/-!
# What one call of the Classic manager does

Closed forms of the helpers that several calls share, and from them one
inversion lemma, `ClassicOp.effect_apply`: what any public call and any PDU can
do to the channels, to the servers and to the queue of accepted channels.
Invariants of the manager are read off the effect and never unfold a handler
again.
-/

namespace Bumble.Classic

open Bumble.L2cap (Error L2capPdu ControlFrame ConfigurationOption InformationCapabilities
  l2capSignalingCid encodeConfigurationOptions decodeConfigurationOptions configurationSuccess
  configurationUnacceptableParameters connectionSuccessful)
open Bumble.Ertm (ErtmEngine EngineCall)

/-! ## 1. A Configuration Request at its channel -/

namespace ClassicChannel

/-- What a request can do to its channel: everything that `on_configure_request`
    writes, and when it writes the two marks that matter for opening. -/
structure Configures (channel : ClassicChannel) (flags : UInt16) (call : ConfigureCall) : Prop where
  same : call.state = { channel with
    peerMtu := call.state.peerMtu
    peerMps := call.state.peerMps
    fcsEnabled := call.state.fcsEnabled
    ertm := call.state.ertm
    peerConfigurationReceived := call.state.peerConfigurationReceived
    state := call.state.state
    connectionResult := call.state.connectionResult }
  closes : call.state.state = channel.state ∨ call.state.state = .closed
  marks : call.state.peerConfigurationReceived = channel.peerConfigurationReceived ∨
    call.state.peerConfigurationReceived = true ∧ flags &&& 1 = 0 ∧
      ∃ options, call.result = .ok (configurationSuccess, options)

variable {channel next : ClassicChannel} {flags : UInt16}

theorem Configures.of_eq {call : ConfigureCall} (hcall : Configures next flags call)
    (hsame : next = { channel with
      peerMtu := next.peerMtu
      peerMps := next.peerMps
      fcsEnabled := next.fcsEnabled
      ertm := next.ertm }) : Configures channel flags call := by
  have hstate : next.state = channel.state := by rw [hsame]
  have hmark : next.peerConfigurationReceived = channel.peerConfigurationReceived := by rw [hsame]
  refine ⟨?_, ?_, ?_⟩
  · rw [hcall.same, hsame]
  · rw [← hstate]
    exact hcall.closes
  · rw [← hmark]
    exact hcall.marks

theorem configures_conclude (hflags : flags &&& 1 = 0) (result : UInt16)
    (options : List ConfigurationOption) :
    Configures channel flags (channel.concludeConfiguration result options) := by
  rw [concludeConfiguration]
  by_cases hresult : result = configurationSuccess
  · rw [if_pos hresult]
    exact ⟨rfl, .inl rfl, .inr ⟨rfl, hflags, options, by rw [hresult]; rfl⟩⟩
  · rw [if_neg hresult]
    exact ⟨rfl, .inr rfl, .inl rfl⟩

theorem configures_complete (hflags : flags &&& 1 = 0) (scan : OptionScan) :
    Configures channel flags (channel.completeConfiguration scan) := by
  rw [completeConfiguration]
  cases channel.spec.ertmSpec with
  | none =>
    dsimp only
    split
    · exact configures_conclude hflags _ _
    · exact configures_conclude hflags _ _
  | some spec =>
    dsimp only
    cases scan.peerErtm with
    | none => exact configures_conclude hflags _ _
    | some parameters =>
      dsimp only
      split
      · exact configures_conclude hflags _ _
      · cases ErtmEngine.new (ertmConfig spec parameters) with
        | error error => exact ⟨rfl, .inl rfl, .inl rfl⟩
        | ok engine => exact (configures_conclude hflags _ _).of_eq rfl

theorem configures (channel : ClassicChannel) (flags : UInt16)
    (options : List ConfigurationOption) :
    Configures channel flags (channel.onConfigureOptions flags options) := by
  rw [onConfigureOptions]
  by_cases hcomplete : (scanOptions channel.mode options (.start channel.peerMtu)).result =
      configurationSuccess ∧ flags &&& 1 = 0
  · simp only [if_pos hcomplete]
    exact (configures_complete hcomplete.2 _).of_eq rfl
  · simp only [if_neg hcomplete]
    exact ⟨rfl, .inl rfl, .inl rfl⟩

/-! ## 2. Opening -/

/-- The test of `maybe_open`. -/
def readyToOpen (channel : ClassicChannel) : Bool :=
  channel.peerConfigurationReceived && channel.configurationResponseReceived &&
    channel.state = .configuring

/-- The channel after `maybe_open`. -/
def opened (channel : ClassicChannel) : ClassicChannel :=
  if channel.readyToOpen then
    { channel with state := .open_, openAnnounced := channel.openAnnounced || channel.incoming }
  else channel

theorem opened_cases (channel : ClassicChannel) :
    channel.opened = channel ∨
      channel.opened = { channel with
        state := .open_, openAnnounced := channel.openAnnounced || channel.incoming } ∧
      channel.state = .configuring ∧ channel.peerConfigurationReceived = true ∧
      channel.configurationResponseReceived = true := by
  rw [opened]
  by_cases hready : channel.readyToOpen = true
  · rw [if_pos hready]
    simp only [readyToOpen, Bool.and_eq_true, decide_eq_true_eq] at hready
    exact .inr ⟨rfl, hready.2, hready.1.1, hready.1.2⟩
  · rw [if_neg hready]
    exact .inl rfl

/-- `maybe_open` announces the channel. -/
def announces (channel : ClassicChannel) : Bool :=
  channel.readyToOpen && channel.incoming && !channel.openAnnounced

end ClassicChannel

namespace ChannelManager

theorem insert_self {manager : ChannelManager} {cid : UInt16} {channel : ClassicChannel}
    (hget : manager.channels[cid]? = some channel) :
    manager.channels.insert cid channel = manager.channels := by
  apply Std.ExtTreeMap.ext_getElem?
  intro other
  rw [OrderedMap.getElem?_insert]
  by_cases heq : cid = other
  · rw [if_pos heq, ← heq, hget]
  · rw [if_neg heq]

theorem maybeOpen_eq {manager : ChannelManager} {cid : UInt16} {channel : ClassicChannel}
    (hget : manager.channels[cid]? = some channel) :
    manager.maybeOpen cid = { manager with
      channels := manager.channels.insert cid channel.opened
      acceptedChannels :=
        manager.acceptedChannels ++ if channel.announces then [cid] else [] } := by
  have hready : channel.readyToOpen = true ↔ channel.peerConfigurationReceived = true ∧
      channel.configurationResponseReceived = true ∧ channel.state = .configuring := by
    simp [ClassicChannel.readyToOpen, and_assoc]
  simp only [maybeOpen, hget]
  by_cases hopen : channel.readyToOpen = true
  · rw [if_pos (hready.mp hopen)]
    by_cases hannounce : channel.incoming = true ∧ ¬ channel.openAnnounced = true
    · rw [if_pos hannounce]
      simp [ClassicChannel.announces, ClassicChannel.opened, hopen, hannounce]
    · rw [if_neg hannounce]
      have hsilent : channel.announces = false := by
        simp only [ClassicChannel.announces, hopen, Bool.true_and]
        simpa using hannounce
      have hsame : (channel.openAnnounced || channel.incoming) = channel.openAnnounced := by
        cases hincoming : channel.incoming <;> cases hannounced : channel.openAnnounced <;>
          simp_all
      rw [hsilent]
      simp only [Bool.false_eq_true, if_false, List.append_nil, ClassicChannel.opened, hopen,
        if_true]
      rw [hsame]
  · rw [if_neg (fun h => hopen (hready.mpr h))]
    simp only [ClassicChannel.announces, ClassicChannel.opened, hopen, if_false,
      Bool.false_eq_true, Bool.false_and, List.append_nil]
    rw [insert_self hget]

/-! ## 3. Encoding the answer -/

def Short (options : List ConfigurationOption) : Prop :=
  ∀ option ∈ options, option.value.length ≤ 255

theorem Short.nil : Short [] := fun _ hoption => nomatch hoption

theorem encode_short (options : List ConfigurationOption) (hshort : Short options) :
    ∃ encoded, encodeConfigurationOptions options = .ok encoded := by
  induction options with
  | nil => exact ⟨[], rfl⟩
  | cons option options ih =>
    obtain ⟨rest, hrest⟩ := ih fun other hother => hshort other (List.mem_cons_of_mem _ hother)
    have hfits := hshort option List.mem_cons_self
    simp only [encodeConfigurationOptions, if_neg (Nat.not_lt.mpr hfits), hrest]
    exact ⟨_, rfl⟩

theorem decodeLoop_short (fuel : Nat) : ∀ {data : Bytes} {options : List ConfigurationOption},
    L2cap.decodeConfigurationOptionsLoop fuel data = .ok options → Short options := by
  induction fuel with
  | zero =>
    intro data options hdecode
    cases hdecode
    exact Short.nil
  | succ fuel ih =>
    intro data options hdecode
    match data with
    | [] =>
      cases hdecode
      exact Short.nil
    | [_] => cases hdecode
    | rawType :: length :: rest =>
      simp only [L2cap.decodeConfigurationOptionsLoop] at hdecode
      split at hdecode
      · cases hdecode
      cases hrest : L2cap.decodeConfigurationOptionsLoop fuel (rest.drop length.toNat) with
      | error error =>
        rw [hrest] at hdecode
        cases hdecode
      | ok others =>
        rw [hrest] at hdecode
        cases hdecode
        intro option hoption
        rcases List.mem_cons.mp hoption with rfl | hoption
        · have hlength := length.toNat_lt
          simp only [List.length_take]
          omega
        · exact ih hrest option hoption

theorem decode_short {data : Bytes} {options : List ConfigurationOption}
    (hdecode : decodeConfigurationOptions data = .ok options) : Short options :=
  decodeLoop_short _ hdecode

theorem Short.append {options : List ConfigurationOption} {option : ConfigurationOption}
    (hshort : Short options) (hfits : option.value.length ≤ 255) : Short (options ++ [option]) := by
  intro other hother
  rcases List.mem_append.mp hother with hother | hother
  · exact hshort other hother
  · rw [List.mem_singleton.mp hother]
    exact hfits

theorem Short.singleton {option : ConfigurationOption} (hfits : option.value.length ≤ 255) :
    Short [option] := Short.nil.append hfits

theorem scan_short (mode : ClassicChannelMode) (options : List ConfigurationOption) :
    ∀ {scan : OptionScan}, Short options → Short scan.responseOptions →
      Short (scanOptions mode options scan).responseOptions := by
  induction options with
  | nil =>
    intro scan _ hscan
    exact hscan
  | cons option rest ih =>
    intro scan hoptions hscan
    have hoption : option.value.length ≤ 255 := hoptions option List.mem_cons_self
    have hrest : Short rest := fun other hother => hoptions other (List.mem_cons_of_mem _ hother)
    rw [scanOptions]
    split
    · split
      · dsimp only
        split
        · exact Short.singleton (by simp [ConfigurationOption.new])
        · exact ih hrest (hscan.append hoption)
      · exact Short.singleton hoption
    split
    · split
      · exact Short.singleton hoption
      · split
        · exact ih hrest (hscan.append hoption)
        · exact Short.singleton hoption
    split
    · split
      · split
        · exact Short.singleton hoption
        · exact ih hrest (hscan.append hoption)
      · exact Short.singleton hoption
    split
    · exact ih hrest hscan
    · exact Short.singleton hoption

theorem conclude_short {channel : ClassicChannel} {result : UInt16}
    {options answer : List ConfigurationOption} {value : UInt16} (hshort : Short options)
    (hresult : (channel.concludeConfiguration result options).result = .ok (value, answer)) :
    Short answer := by
  rw [ClassicChannel.concludeConfiguration] at hresult
  split at hresult
  · cases hresult
    exact hshort
  · cases hresult
    exact hshort

theorem answer_short {channel : ClassicChannel} {flags : UInt16}
    {options answer : List ConfigurationOption} {value : UInt16} (hoptions : Short options)
    (hresult : (channel.onConfigureOptions flags options).result = .ok (value, answer)) :
    Short answer := by
  have hscan : Short (scanOptions channel.mode options (.start channel.peerMtu)).responseOptions :=
    scan_short _ _ hoptions Short.nil
  rw [ClassicChannel.onConfigureOptions] at hresult
  generalize scanOptions channel.mode options (.start channel.peerMtu) = scan at hscan hresult
  split at hresult
  · rw [ClassicChannel.completeConfiguration] at hresult
    split at hresult
    · split at hresult
      · split at hresult
        · exact conclude_short (Short.singleton (by simp [ConfigurationOption.new])) hresult
        · dsimp only at hresult
          split at hresult
          · cases hresult
          · exact conclude_short hscan hresult
      · exact conclude_short
          (Short.singleton (by simp [ConfigurationOption.new, encodeErtmOption])) hresult
    · split at hresult
      · exact conclude_short hscan hresult
      · exact conclude_short hscan hresult
  · cases hresult
    exact hscan

end ChannelManager

/-! ## 4. Effects -/

open ChannelManager

def ChannelSpec.Valid : ChannelSpec → Prop
  | basic spec => validateSpec spec = .ok ()
  | ertm spec => validateErtmSpec spec = .ok ()

/-- The call processes a complete Configuration Request for the channel and
    answers it with success. -/
def AcceptsConfiguration (op : ClassicOp) (manager next : ChannelManager) (cid : UInt16) : Prop :=
  ∃ identifier flags encoded remoteCid answer,
    op.frame? = some (.configureRequest identifier cid flags encoded) ∧ flags &&& 1 = 0 ∧
    next.outbound = manager.outbound ++ [⟨l2capSignalingCid,
      (ControlFrame.configureResponse identifier remoteCid 0 configurationSuccess answer).toBytes⟩]

/-- What a call can do to a channel that it changes. -/
inductive Change (op : ClassicOp) (manager next : ChannelManager) (cid : UInt16)
    (channel : ClassicChannel) : ClassicChannel → Prop
  | traffic (engine : Option ErtmEngine) (received : List Bytes) (hframe : op.frame? = none) :
      Change op manager next cid channel { channel with ertm := engine, received }
  | connected (identifier : UInt8) (destinationCid status : UInt16)
      (hframe : op.frame? =
        some (.connectionResponse identifier destinationCid cid connectionSuccessful status))
      (hstate : channel.state = .waitConnectResponse) :
      Change op manager next cid channel { channel with
        connectionResult := some connectionSuccessful, destinationCid, state := .configuring }
  | refused (result : UInt16) (hstate : channel.state = .waitConnectResponse) :
      Change op manager next cid channel
        { channel with connectionResult := some result, state := .closed }
  | configured (identifier : UInt8) (flags : UInt16) (encoded : Bytes)
      (options : List ConfigurationOption)
      (hframe : op.frame? = some (.configureRequest identifier cid flags encoded))
      (hdecode : decodeConfigurationOptions encoded = .ok options)
      (hresult : (channel.onConfigureOptions flags options).result.isOk)
      (haccepts : ∀ answer, flags &&& 1 = 0 →
        (channel.onConfigureOptions flags options).result = .ok (configurationSuccess, answer) →
        AcceptsConfiguration op manager next cid) :
      Change op manager next cid channel (channel.onConfigureOptions flags options).state.opened
  | misconfigured (identifier : UInt8) (flags : UInt16) (encoded : Bytes)
      (options : List ConfigurationOption) (error : Error)
      (hframe : op.frame? = some (.configureRequest identifier cid flags encoded))
      (hdecode : decodeConfigurationOptions encoded = .ok options)
      (hresult : (channel.onConfigureOptions flags options).result = .error error) :
      Change op manager next cid channel (channel.onConfigureOptions flags options).state
  | answered (identifier : UInt8) (flags : UInt16) (options : Bytes)
      (hframe : op.frame? =
        some (.configureResponse identifier cid flags configurationSuccess options)) :
      Change op manager next cid channel
        { channel with configurationResponseReceived := true }.opened
  | rejected (result : UInt16) :
      Change op manager next cid channel
        { channel with connectionResult := some result, state := .closed }
  | disconnecting (hstate : channel.state = .open_) :
      Change op manager next cid channel { channel with state := .waitDisconnect }
  | closed : Change op manager next cid channel { channel with state := .closed }

/-- The channel of a connection that begins: at a free CID, with a specification
    of the caller or of a server. -/
def Created (manager : ChannelManager) (cid : UInt16) (channel : ClassicChannel) : Prop :=
  (∃ psm spec, spec.Valid ∧ channel = .newOutgoing psm cid spec) ∨
    ∃ psm remoteCid spec, manager.servers[psm]? = some spec ∧
      channel = .newIncoming psm cid remoteCid spec

/-- The channel becomes open and is announced for the first time. -/
structure Announced (channel next : ClassicChannel) : Prop where
  before : channel.state = .configuring
  after : next.state = .open_
  incoming : channel.incoming = true
  silent : channel.openAnnounced = false
  announced : next.openAnnounced = true

structure Effect (op : ClassicOp) (manager next : ChannelManager) : Prop where
  kept : ∀ (cid : UInt16) (channel : ClassicChannel), manager.channels[cid]? = some channel →
    ∃ channel', next.channels[cid]? = some channel' ∧
      (channel' = channel ∨ Change op manager next cid channel channel')
  fresh : ∀ (cid : UInt16) (channel : ClassicChannel), manager.channels[cid]? = none →
    next.channels[cid]? = some channel → Created manager cid channel
  servers : ∀ (psm : UInt32) (spec : ChannelSpec), next.servers[psm]? = some spec →
    manager.servers[psm]? = some spec ∨ spec.Valid
  accepted : next.acceptedChannels = manager.acceptedChannels ∨
    next.acceptedChannels = manager.acceptedChannels.tail ∨
    ∃ (cid : UInt16) (channel channel' : ClassicChannel),
      next.acceptedChannels = manager.acceptedChannels ++ [cid] ∧
      manager.channels[cid]? = some channel ∧ next.channels[cid]? = some channel' ∧
      Announced channel channel'

section Effects

variable {op : ClassicOp} {manager next : ChannelManager} {cid : UInt16}
  {channel channel' : ClassicChannel}

theorem Effect.same (hchannels : next.channels = manager.channels)
    (hservers : next.servers = manager.servers)
    (haccepted : next.acceptedChannels = manager.acceptedChannels) : Effect op manager next where
  kept cid channel hget := ⟨channel, by rw [hchannels]; exact hget, .inl rfl⟩
  fresh cid channel hnone hget := by
    rw [hchannels, hnone] at hget
    cases hget
  servers psm spec hget := .inl (by rw [← hservers]; exact hget)
  accepted := .inl haccepted

theorem Effect.one (hget : manager.channels[cid]? = some channel)
    (hchange : Change op manager next cid channel channel')
    (hchannels : next.channels = manager.channels.insert cid channel')
    (hservers : next.servers = manager.servers)
    (haccepted : next.acceptedChannels = manager.acceptedChannels ∨
      next.acceptedChannels = manager.acceptedChannels ++ [cid] ∧ Announced channel channel') :
    Effect op manager next where
  kept other old hold := by
    by_cases heq : cid = other
    · subst heq
      rw [hget] at hold
      cases hold
      refine ⟨channel', ?_, .inr hchange⟩
      rw [hchannels, OrderedMap.getElem?_insert, if_pos rfl]
    · refine ⟨old, ?_, .inl rfl⟩
      rw [hchannels, OrderedMap.getElem?_insert, if_neg heq]
      exact hold
  fresh other new hnone hnew := by
    rw [hchannels, OrderedMap.getElem?_insert] at hnew
    by_cases heq : cid = other
    · subst heq
      rw [hget] at hnone
      cases hnone
    · rw [if_neg heq, hnone] at hnew
      cases hnew
  servers psm spec hspec := .inl (by rw [← hservers]; exact hspec)
  accepted := by
    rcases haccepted with hsame | ⟨hpushed, hannounced⟩
    · exact .inl hsame
    · refine .inr (.inr ⟨cid, channel, channel', hpushed, hget, ?_, hannounced⟩)
      rw [hchannels, OrderedMap.getElem?_insert, if_pos rfl]

theorem Effect.created (hnone : manager.channels[cid]? = none)
    (hcreated : Created manager cid channel')
    (hchannels : next.channels = manager.channels.insert cid channel')
    (hservers : next.servers = manager.servers)
    (haccepted : next.acceptedChannels = manager.acceptedChannels) : Effect op manager next where
  kept other old hold := by
    refine ⟨old, ?_, .inl rfl⟩
    rw [hchannels, OrderedMap.getElem?_insert, if_neg]
    · exact hold
    · rintro rfl
      rw [hnone] at hold
      cases hold
  fresh other new hother hnew := by
    rw [hchannels, OrderedMap.getElem?_insert] at hnew
    by_cases heq : cid = other
    · subst heq
      rw [if_pos rfl] at hnew
      cases hnew
      exact hcreated
    · rw [if_neg heq, hother] at hnew
      cases hnew
  servers psm spec hspec := .inl (by rw [← hservers]; exact hspec)
  accepted := .inl haccepted

/-! ### Servers and outgoing channels -/

theorem allocateCidLoop_free (fuel : Nat) : ∀ {first cid : UInt16},
    manager.allocateCidLoop fuel first = some cid → manager.channels[cid]? = none := by
  induction fuel with
  | zero =>
    intro first cid hfind
    cases hfind
  | succ fuel ih =>
    intro first cid hfind
    rw [allocateCidLoop] at hfind
    by_cases hcontains : manager.channels.contains first = true
    · rw [if_pos hcontains] at hfind
      exact ih hfind
    · rw [if_neg hcontains] at hfind
      cases hfind
      rw [Option.eq_none_iff_forall_ne_some]
      intro channel hget
      exact hcontains ((OrderedMap.contains_iff _ _).mpr ⟨channel, hget⟩)

theorem allocateCid_free (hallocate : manager.allocateCid = .ok cid) :
    manager.channels[cid]? = none := by
  rw [allocateCid] at hallocate
  split at hallocate
  · next found hfind =>
    cases hallocate
    exact allocateCidLoop_free _ hfind
  · cases hallocate

theorem effect_registerServerWithSpec (psm : Option UInt32) {spec : ChannelSpec}
    (hvalid : spec.Valid) : Effect op manager (manager.registerServerWithSpec psm spec).state := by
  simp only [registerServerWithSpec]
  split
  · exact .same rfl rfl rfl
  split
  · exact .same rfl rfl rfl
  · refine ⟨fun cid channel hget => ⟨channel, hget, .inl rfl⟩, ?_, ?_, .inl rfl⟩
    · intro cid channel hnone hget
      exact absurd (hnone.symm.trans hget) nofun
    · intro other found hfound
      simp only [Outcome.ok_state, OrderedMap.getElem?_insert] at hfound
      split at hfound
      · cases hfound
        exact .inr hvalid
      · exact .inl hfound

theorem effect_connectWithSpec (psm : UInt32) {spec : ChannelSpec} (hvalid : spec.Valid) :
    Effect op manager (manager.connectWithSpec psm spec).state := by
  rw [connectWithSpec]
  cases hallocate : manager.allocateCid with
  | error error => exact .same rfl rfl rfl
  | ok sourceCid =>
    exact .created (allocateCid_free hallocate) (.inl ⟨psm, spec, hvalid, rfl⟩) rfl rfl rfl

/-! ### Data -/

theorem queueFrames_state (destinationCid : UInt16) (fcsEnabled : Bool) (frames : List Bytes) :
    ∀ (manager : ChannelManager), ∃ outbound,
      (manager.queueFrames destinationCid fcsEnabled frames).state = { manager with outbound } := by
  induction frames with
  | nil =>
    intro manager
    exact ⟨manager.outbound, rfl⟩
  | cons frame frames ih =>
    intro manager
    rw [queueFrames]
    split
    · exact ⟨manager.outbound, rfl⟩
    · next payload _ =>
      obtain ⟨outbound, hstate⟩ := ih
        { manager with outbound := manager.outbound ++ [⟨destinationCid, payload⟩] }
      exact ⟨outbound, hstate⟩

/-- A call of an engine changes the engine, what is to be sent and, at its end, what the
    channel has received. -/
theorem callEngine_state (manager : ChannelManager) (cid : UInt16) (channel : ClassicChannel)
    (call : EngineCall Unit) : ∃ engine received outbound,
      (manager.callEngine cid channel call).state = { manager with
        channels := manager.channels.insert cid { channel with ertm := some engine, received }
        outbound } ∧ channel.received <+: received := by
  rw [callEngine]
  cases call.result with
  | error error => exact ⟨_, _, _, rfl, List.prefix_rfl⟩
  | ok value =>
    dsimp only
    simp only [flushErtm, OrderedMap.getElem?_insert, if_true]
    obtain ⟨outbound, hstate⟩ := queueFrames_state channel.destinationCid channel.fcsEnabled
      call.state.outbound { manager with
        channels := (manager.channels.insert cid { channel with ertm := some call.state }).insert
          cid { channel with
            ertm := some { call.state with outbound := [], received := [] }
            received := channel.received ++ call.state.received } }
    rw [hstate]
    simp only [OrderedMap.insert_insert]
    exact ⟨_, _, _, rfl, List.prefix_append ..⟩

theorem effect_callEngine (hframe : op.frame? = none)
    (hget : manager.channels[cid]? = some channel) (call : EngineCall Unit) :
    Effect op manager (manager.callEngine cid channel call).state := by
  obtain ⟨engine, received, outbound, hstate, -⟩ := callEngine_state manager cid channel call
  rw [hstate]
  exact .one hget (.traffic _ _ hframe) rfl rfl (.inl rfl)

/-- Ticks change the engines of the channels, what these have received and the PDUs
    to be sent, and nothing else. -/
theorem tickLoop_state (ticks : UInt32) (cids : List UInt16) : ∀ (manager : ChannelManager),
    ∃ channels outbound, (manager.tickLoop ticks cids).state = { manager with channels, outbound } ∧
      (∀ (cid : UInt16) (channel : ClassicChannel), manager.channels[cid]? = some channel →
        ∃ engine received, channels[cid]? = some { channel with ertm := engine, received }) ∧
      ∀ cid : UInt16, manager.channels[cid]? = none → channels[cid]? = none := by
  induction cids with
  | nil =>
    intro manager
    exact ⟨_, _, rfl, fun cid channel hget => ⟨_, _, hget⟩, fun cid hnone => hnone⟩
  | cons first cids ih =>
    intro manager
    have hsame : ∃ channels outbound, manager = { manager with channels, outbound } ∧
        (∀ (cid : UInt16) (channel : ClassicChannel), manager.channels[cid]? = some channel →
          ∃ engine received, channels[cid]? = some { channel with ertm := engine, received }) ∧
        ∀ cid : UInt16, manager.channels[cid]? = none → channels[cid]? = none :=
      ⟨_, _, rfl, fun cid channel hget => ⟨_, _, hget⟩, fun cid hnone => hnone⟩
    rw [tickLoop]
    cases hget : manager.channels[first]? with
    | none => exact hsame
    | some channel =>
      dsimp only
      cases channel.ertm with
      | none => exact hsame
      | some engine =>
        dsimp only
        obtain ⟨engine', received, outbound, hcall, -⟩ :=
          callEngine_state manager first channel (engine.tick ticks)
        have hfirst : ∀ (cid : UInt16) (old : ClassicChannel), manager.channels[cid]? = some old →
            ∃ after received, (manager.callEngine first channel
              (engine.tick ticks)).state.channels[cid]? =
                some { old with ertm := after, received } := by
          intro cid old hold
          rw [hcall]
          simp only [OrderedMap.getElem?_insert]
          by_cases heq : first = cid
          · subst heq
            rw [hget] at hold
            cases hold
            rw [if_pos rfl]
            exact ⟨_, _, rfl⟩
          · rw [if_neg heq]
            exact ⟨_, _, hold⟩
        have hnone : ∀ cid : UInt16, manager.channels[cid]? = none →
            (manager.callEngine first channel (engine.tick ticks)).state.channels[cid]? = none := by
          intro cid hcid
          rw [hcall]
          simp only [OrderedMap.getElem?_insert]
          rw [if_neg]
          · exact hcid
          · rintro rfl
            rw [hget] at hcid
            cases hcid
        generalize manager.callEngine first channel (engine.tick ticks) = call at hcall hfirst hnone
        obtain ⟨state, result⟩ := call
        cases result with
        | error error =>
          subst hcall
          exact ⟨_, _, rfl, hfirst, hnone⟩
        | ok value =>
          subst hcall
          obtain ⟨channels, outbound, hstate, hkept, hempty⟩ := ih { manager with
            channels := manager.channels.insert first
              { channel with ertm := some engine', received }, outbound }
          refine ⟨channels, outbound, hstate, ?_, fun cid hcid => hempty cid (hnone cid hcid)⟩
          intro cid old hold
          obtain ⟨_, _, hmiddle⟩ := hfirst cid old hold
          obtain ⟨_, _, hlast⟩ := hkept cid _ hmiddle
          exact ⟨_, _, hlast⟩

theorem effect_tick (ticks : UInt32) :
    Effect (.tick ticks) manager (manager.tick ticks).state := by
  rw [tick]
  obtain ⟨channels, outbound, hstate, hkept, hempty⟩ := tickLoop_state ticks
    ((manager.channels.toList.filter fun entry => entry.2.ertm.isSome).map (·.1)) manager
  rw [hstate]
  refine ⟨?_, ?_, fun psm spec hspec => .inl hspec, .inl rfl⟩
  · intro cid channel hget
    obtain ⟨engine, received, hnext⟩ := hkept cid channel hget
    exact ⟨_, hnext, .inr (.traffic _ _ rfl)⟩
  · intro cid channel hnone hget
    rw [hempty cid hnone] at hget
    cases hget

theorem effect_setReceiverBusy (hframe : op.frame? = none) (sourceCid : UInt16) (busy : Bool) :
    Effect op manager (manager.setReceiverBusy sourceCid busy).state := by
  rw [setReceiverBusy]
  cases hget : manager.channels[sourceCid]? with
  | none => exact .same rfl rfl rfl
  | some channel =>
    dsimp only
    split
    · exact .same rfl rfl rfl
    · exact effect_callEngine hframe hget _

theorem effect_send (hframe : op.frame? = none) (sourceCid : UInt16) (sdu : Bytes) :
    Effect op manager (manager.send sourceCid sdu).state := by
  rw [send]
  cases hget : manager.channels[sourceCid]? with
  | none => exact .same rfl rfl rfl
  | some channel =>
    dsimp only
    split
    · exact .same rfl rfl rfl
    split
    · exact effect_callEngine hframe hget _
    · split
      · exact .same rfl rfl rfl
      · exact .same rfl rfl rfl

theorem effect_processData (hframe : op.frame? = none) (localCid : UInt16) (payload : Bytes) :
    Effect op manager (manager.processData localCid payload).state := by
  rw [processData]
  cases hget : manager.channels[localCid]? with
  | none => exact .same rfl rfl rfl
  | some channel =>
    dsimp only
    split
    · exact .same rfl rfl rfl
    split
    · split
      · exact .same rfl rfl rfl
      · exact effect_callEngine hframe hget _
    · split
      · exact .same rfl rfl rfl
      · exact .one hget (.traffic channel.ertm _ hframe) rfl rfl (.inl rfl)

theorem effect_disconnect (sourceCid : UInt16) :
    Effect op manager (manager.disconnect sourceCid).state := by
  rw [disconnect]
  cases hget : manager.channels[sourceCid]? with
  | none => exact .same rfl rfl rfl
  | some channel =>
    dsimp only
    by_cases hstate : channel.state = .open_
    · rw [if_neg (not_not_intro hstate)]
      exact .one hget (.disconnecting hstate) rfl rfl (.inl rfl)
    · rw [if_pos hstate]
      exact .same rfl rfl rfl

theorem effect_popReceived (hframe : op.frame? = none) (sourceCid : UInt16) :
    Effect op manager { manager with
      channels := manager.channels.modify sourceCid fun channel =>
        { channel with received := channel.received.tail } } where
  kept cid channel hget := by
    simp only [OrderedMap.getElem?_modify, hget, Option.map_some]
    by_cases heq : sourceCid = cid
    · rw [if_pos heq]
      exact ⟨_, rfl, .inr (.traffic channel.ertm _ hframe)⟩
    · rw [if_neg heq]
      exact ⟨_, rfl, .inl rfl⟩
  fresh cid channel hnone hget := by
    simp only [OrderedMap.getElem?_modify, hnone, Option.map_none, ite_self] at hget
    cases hget
  servers psm spec hspec := .inl hspec
  accepted := .inl rfl

/-! ### Signaling -/

theorem queueConfigureRequest_state (manager : ChannelManager) (localCid : UInt16) :
    ∃ identifier outbound, (manager.queueConfigureRequest localCid).state =
      { manager with identifier, outbound } := by
  rw [queueConfigureRequest]
  split
  · exact ⟨_, _, rfl⟩
  simp only [nextIdentifier]
  split
  · exact ⟨_, _, rfl⟩
  · exact ⟨_, _, rfl⟩

theorem effect_onConnectionRequest (identifier : UInt8) (psm : UInt32) (remoteCid : UInt16) :
    Effect op manager (manager.onConnectionRequest identifier psm remoteCid).state := by
  rw [onConnectionRequest]
  cases hserver : manager.servers[psm]? with
  | none => exact .same rfl rfl rfl
  | some spec =>
    dsimp only
    cases hallocate : manager.allocateCid with
    | error error => exact .same rfl rfl rfl
    | ok localCid =>
      dsimp only
      obtain ⟨_, _, hstate⟩ := queueConfigureRequest_state
        (({ manager with
          channels := manager.channels.insert localCid
            (.newIncoming psm localCid remoteCid spec) } : ChannelManager).queueControl
          (.connectionResponse identifier localCid remoteCid connectionSuccessful 0)) localCid
      rw [hstate]
      exact .created (allocateCid_free hallocate) (.inr ⟨psm, remoteCid, spec, hserver, rfl⟩)
        rfl rfl rfl

theorem effect_onConnectionResponse {identifier : UInt8}
    {destinationCid sourceCid result status : UInt16}
    (hframe : op.frame? =
      some (.connectionResponse identifier destinationCid sourceCid result status)) :
    Effect op manager (manager.onConnectionResponse destinationCid sourceCid result).state := by
  rw [onConnectionResponse]
  cases hget : manager.channels[sourceCid]? with
  | none => exact .same rfl rfl rfl
  | some channel =>
    dsimp only
    by_cases hstate : channel.state = .waitConnectResponse
    · rw [if_neg (not_not_intro hstate)]
      by_cases hresult : result = connectionSuccessful
      · rw [if_neg (not_not_intro hresult)]
        obtain ⟨_, _, hqueue⟩ := queueConfigureRequest_state
          { manager with
            channels := manager.channels.insert sourceCid { channel with
              connectionResult := some result, destinationCid, state := .configuring } } sourceCid
        rw [hqueue]
        subst hresult
        exact .one hget (.connected identifier destinationCid status hframe hstate) rfl rfl
          (.inl rfl)
      · rw [if_pos hresult]
        exact .one hget (.refused result hstate) rfl rfl (.inl rfl)
    · rw [if_pos hstate]
      exact .same rfl rfl rfl

/-- The queue of accepted channels when `maybe_open` follows a change that
    leaves the state, or closes the channel. -/
theorem announced_opened (hsame : channel'.incoming = channel.incoming)
    (hannounced : channel'.openAnnounced = channel.openAnnounced)
    (hstate : channel'.state = channel.state ∨ channel'.state = .closed)
    (hannounces : channel'.announces = true) : Announced channel channel'.opened := by
  simp only [ClassicChannel.announces, Bool.and_eq_true, Bool.not_eq_true'] at hannounces
  obtain ⟨⟨hready, hincoming⟩, hsilent⟩ := hannounces
  have hconfiguring : channel'.state = .configuring := by
    simp only [ClassicChannel.readyToOpen, Bool.and_eq_true, decide_eq_true_eq] at hready
    exact hready.2
  refine ⟨?_, ?_, by rw [← hsame]; exact hincoming, by rw [← hannounced]; exact hsilent, ?_⟩
  · rcases hstate with hkept | hclosed
    · rw [← hkept]
      exact hconfiguring
    · rw [hclosed] at hconfiguring
      cases hconfiguring
  · simp [ClassicChannel.opened, hready]
  · simp [ClassicChannel.opened, hready, hincoming]

theorem effect_maybeOpen (hget : manager.channels[cid]? = some channel)
    (hbefore : next.channels = manager.channels.insert cid channel')
    (hservers : next.servers = manager.servers)
    (haccepted : next.acceptedChannels = manager.acceptedChannels)
    (hincoming : channel'.incoming = channel.incoming)
    (hannounced : channel'.openAnnounced = channel.openAnnounced)
    (hstate : channel'.state = channel.state ∨ channel'.state = .closed)
    (hchange : Change op manager (next.maybeOpen cid) cid channel channel'.opened) :
    Effect op manager (next.maybeOpen cid) := by
  have hnext : next.channels[cid]? = some channel' := by
    rw [hbefore, OrderedMap.getElem?_insert, if_pos rfl]
  have hopen := maybeOpen_eq hnext
  refine .one hget hchange ?_ ?_ ?_
  · rw [hopen]
    simp only [hbefore, OrderedMap.insert_insert]
  · rw [hopen]
    exact hservers
  · rw [hopen]
    by_cases hannounces : channel'.announces = true
    · right
      refine ⟨?_, announced_opened hincoming hannounced hstate hannounces⟩
      simp only [if_pos hannounces, haccepted]
    · left
      simp only [if_neg hannounces, haccepted, List.append_nil]

theorem effect_onConfigureRequest {identifier : UInt8} {localCid flags : UInt16} {encoded : Bytes}
    (hframe : op.frame? = some (.configureRequest identifier localCid flags encoded)) :
    Effect op manager (manager.onConfigureRequest identifier localCid flags encoded).state := by
  rw [onConfigureRequest]
  cases hdecode : decodeConfigurationOptions encoded with
  | error error => exact .same rfl rfl rfl
  | ok options =>
    dsimp only
    cases hget : manager.channels[localCid]? with
    | none => exact .same rfl rfl rfl
    | some channel =>
      dsimp only
      have hconfigures := channel.configures flags options
      cases hresult : (channel.onConfigureOptions flags options).result with
      | error error =>
        exact .one hget (.misconfigured identifier flags encoded options error hframe
          hdecode hresult)
          rfl rfl (.inl rfl)
      | ok answer =>
        obtain ⟨result, responseOptions⟩ := answer
        obtain ⟨response, hencode⟩ := encode_short responseOptions
          (answer_short (decode_short hdecode) hresult)
        simp only [hencode, Outcome.ok_state]
        refine effect_maybeOpen hget rfl rfl rfl ?_ ?_ hconfigures.closes
          (.configured identifier flags encoded options hframe hdecode ?_ ?_)
        · rw [hconfigures.same]
        · rw [hconfigures.same]
        · rw [hresult]
          rfl
        · intro answer hflags hsuccess
          rw [hresult] at hsuccess
          cases hsuccess
          refine ⟨identifier, flags, encoded, channel.destinationCid, response, hframe, hflags, ?_⟩
          have hnext : (({ manager with
              channels := manager.channels.insert localCid
                (channel.onConfigureOptions flags options).state } : ChannelManager).queueControl
              (.configureResponse identifier channel.destinationCid 0 configurationSuccess
                response)).channels[localCid]? =
              some (channel.onConfigureOptions flags options).state := by
            simp only [queueControl, OrderedMap.getElem?_insert, if_true]
          rw [maybeOpen_eq hnext]
          rfl

theorem effect_onConfigureResponse {identifier : UInt8} {localCid flags result : UInt16}
    {options : Bytes}
    (hframe : op.frame? = some (.configureResponse identifier localCid flags result options)) :
    Effect op manager (manager.onConfigureResponse localCid result).state := by
  rw [onConfigureResponse]
  cases hget : manager.channels[localCid]? with
  | none => exact .same rfl rfl rfl
  | some channel =>
    dsimp only
    by_cases hresult : result = configurationSuccess
    · simp only [if_pos hresult]
      subst hresult
      exact effect_maybeOpen hget rfl rfl rfl rfl rfl (.inl rfl)
        (.answered identifier flags options hframe)
    · simp only [if_neg hresult]
      refine effect_maybeOpen hget rfl rfl rfl rfl rfl (.inr rfl) ?_
      have hclosed : ({ channel with
          connectionResult := some result, state := .closed } : ClassicChannel).opened =
          { channel with connectionResult := some result, state := .closed } := by
        simp [ClassicChannel.opened, ClassicChannel.readyToOpen]
      rw [hclosed]
      exact .rejected result

theorem effect_onDisconnectionRequest (identifier : UInt8) (localCid remoteCid : UInt16) :
    Effect op manager (manager.onDisconnectionRequest identifier localCid remoteCid).state := by
  rw [onDisconnectionRequest]
  cases hget : manager.channels[localCid]? with
  | none => exact .same rfl rfl rfl
  | some channel =>
    dsimp only
    split
    · exact .same rfl rfl rfl
    · exact .one hget .closed rfl rfl (.inl rfl)

theorem effect_onDisconnectionResponse (destinationCid sourceCid : UInt16) :
    Effect op manager (manager.onDisconnectionResponse destinationCid sourceCid).state := by
  rw [onDisconnectionResponse]
  cases hget : manager.channels[sourceCid]? with
  | none => exact .same rfl rfl rfl
  | some channel =>
    dsimp only
    split
    · exact .same rfl rfl rfl
    · exact .one hget .closed rfl rfl (.inl rfl)

theorem effect_processPdu {pdu : L2capPdu} (hpdu : op.pdu? = some pdu) :
    Effect op manager (manager.processPdu pdu).state := by
  rw [processPdu]
  by_cases hcid : pdu.cid = l2capSignalingCid
  · rw [if_pos hcid]
    cases hbytes : ControlFrame.fromBytes pdu.payload with
    | error error => exact .same rfl rfl rfl
    | ok frame =>
      have hframe : op.frame? = some frame := by
        simp [ClassicOp.frame?, hpdu, hcid, hbytes, Except.toOption]
      cases frame with
      | connectionRequest => exact effect_onConnectionRequest ..
      | connectionResponse => exact effect_onConnectionResponse hframe
      | configureRequest => exact effect_onConfigureRequest hframe
      | configureResponse => exact effect_onConfigureResponse hframe
      | disconnectionRequest => exact effect_onDisconnectionRequest ..
      | disconnectionResponse => exact effect_onDisconnectionResponse ..
      | _ => exact .same rfl rfl rfl
  · rw [if_neg hcid]
    have hframe : op.frame? = none := by
      simp [ClassicOp.frame?, hpdu, hcid]
    exact effect_processData hframe _ _

end Effects

/-- **What a call can do.**  Every public call and every PDU, from any state. -/
theorem ClassicOp.effect_apply (op : ClassicOp) (manager : ChannelManager) :
    Effect op manager (op.apply manager) := by
  cases op with
  | registerServer psm spec =>
    simp only [apply, ChannelManager.registerServer]
    cases hvalid : validateSpec spec with
    | error error => exact .same rfl rfl rfl
    | ok value =>
      have hspec : ChannelSpec.Valid (.basic spec) := hvalid
      exact effect_registerServerWithSpec psm hspec
  | registerErtmServer psm spec =>
    simp only [apply, ChannelManager.registerErtmServer]
    cases hvalid : validateErtmSpec spec with
    | error error => exact .same rfl rfl rfl
    | ok value =>
      have hspec : ChannelSpec.Valid (.ertm spec) := hvalid
      exact effect_registerServerWithSpec psm hspec
  | unregisterServer psm =>
    refine ⟨fun cid channel hget => ⟨channel, hget, .inl rfl⟩, ?_, ?_, .inl rfl⟩
    · intro cid channel hnone hget
      exact absurd (hnone.symm.trans hget) nofun
    · intro other spec hspec
      simp only [apply, ChannelManager.unregisterServer, OrderedMap.getElem?_erase] at hspec
      split at hspec
      · cases hspec
      · exact .inl hspec
  | connect psm spec =>
    simp only [apply, ChannelManager.connect]
    cases validatePsm psm with
    | error error => exact .same rfl rfl rfl
    | ok value =>
      cases hvalid : validateSpec spec with
      | error error => exact .same rfl rfl rfl
      | ok value =>
        have hspec : ChannelSpec.Valid (.basic spec) := hvalid
        exact effect_connectWithSpec psm hspec
  | connectErtm psm spec =>
    simp only [apply, ChannelManager.connectErtm]
    cases validatePsm psm with
    | error error => exact .same rfl rfl rfl
    | ok value =>
      cases hvalid : validateErtmSpec spec with
      | error error => exact .same rfl rfl rfl
      | ok value =>
        have hspec : ChannelSpec.Valid (.ertm spec) := hvalid
        exact effect_connectWithSpec psm hspec
  | popReceived sourceCid => exact effect_popReceived rfl sourceCid
  | pollAcceptedChannel =>
    refine ⟨fun cid channel hget => ⟨channel, hget, .inl rfl⟩, ?_, fun psm spec hspec => .inl hspec,
      .inr (.inl rfl)⟩
    intro cid channel hnone hget
    exact absurd (hnone.symm.trans hget) nofun
  | tick ticks => exact effect_tick ticks
  | setReceiverBusy sourceCid busy => exact effect_setReceiverBusy rfl sourceCid busy
  | processPdu pdu => exact effect_processPdu rfl
  | processBytes bytes =>
    simp only [apply, ChannelManager.processBytes]
    cases hbytes : L2capPdu.fromBytes bytes with
    | error error => exact .same rfl rfl rfl
    | ok pdu =>
      exact effect_processPdu (by simp [ClassicOp.pdu?, hbytes, Except.toOption])
  | send sourceCid sdu => exact effect_send rfl sourceCid sdu
  | disconnect sourceCid => exact effect_disconnect sourceCid
  | _ => exact .same rfl rfl rfl

/-! ## 5. Specifications stay valid -/

/-- Every specification passed its check, and every channel has the mode of its
    own. -/
structure Specified (manager : ChannelManager) : Prop where
  servers : ∀ (psm : UInt32) (spec : ChannelSpec), manager.servers[psm]? = some spec → spec.Valid
  valid : ∀ (cid : UInt16) (channel : ClassicChannel), manager.channels[cid]? = some channel →
    channel.spec.Valid
  mode : ∀ (cid : UInt16) (channel : ClassicChannel), manager.channels[cid]? = some channel →
    channel.mode = channel.spec.mode

theorem opened_spec (channel : ClassicChannel) :
    channel.opened.spec = channel.spec ∧ channel.opened.mode = channel.mode := by
  rw [ClassicChannel.opened]
  split
  · exact ⟨rfl, rfl⟩
  · exact ⟨rfl, rfl⟩

theorem Change.spec {op : ClassicOp} {manager next : ChannelManager} {cid : UInt16}
    {channel channel' : ClassicChannel} (hchange : Change op manager next cid channel channel') :
    channel'.spec = channel.spec ∧ channel'.mode = channel.mode := by
  cases hchange with
  | configured identifier flags encoded options =>
    have hopened := opened_spec (channel.onConfigureOptions flags options).state
    rw [hopened.1, hopened.2, (channel.configures flags options).same]
    exact ⟨rfl, rfl⟩
  | misconfigured identifier flags encoded options =>
    rw [(channel.configures flags options).same]
    exact ⟨rfl, rfl⟩
  | answered => exact opened_spec _
  | _ => exact ⟨rfl, rfl⟩

theorem Specified.step {manager : ChannelManager} (hmanager : Specified manager)
    (op : ClassicOp) : Specified (op.apply manager) := by
  have heffect := op.effect_apply manager
  have hchannel : ∀ (cid : UInt16) (channel' : ClassicChannel),
      (op.apply manager).channels[cid]? = some channel' →
      channel'.spec.Valid ∧ channel'.mode = channel'.spec.mode := by
    intro cid channel' hnext
    cases hget : manager.channels[cid]? with
    | none =>
      rcases heffect.fresh cid channel' hget hnext with
        ⟨psm, spec, hvalid, rfl⟩ | ⟨psm, remoteCid, spec, hserver, rfl⟩
      · exact ⟨hvalid, rfl⟩
      · exact ⟨hmanager.servers psm spec hserver, rfl⟩
    | some channel =>
      have hvalid := hmanager.valid cid channel hget
      have hmode := hmanager.mode cid channel hget
      obtain ⟨found, hfound, hsame | hchange⟩ := heffect.kept cid channel hget
      · rw [hnext, hsame] at hfound
        cases hfound
        exact ⟨hvalid, hmode⟩
      · rw [hnext] at hfound
        cases hfound
        rw [hchange.spec.1, hchange.spec.2]
        exact ⟨hvalid, hmode⟩
  refine ⟨?_, fun cid channel hget => (hchannel cid channel hget).1,
    fun cid channel hget => (hchannel cid channel hget).2⟩
  intro psm spec hspec
  rcases heffect.servers psm spec hspec with hold | hvalid
  · exact hmanager.servers psm spec hold
  · exact hvalid

theorem specified_run (information : InformationCapabilities) (ops : List ClassicOp) :
    Specified ((withInformationCapabilities information).runOps ops) := by
  have hstart : Specified (withInformationCapabilities information) := by
    constructor
    case servers =>
      intro psm spec hget
      simp [withInformationCapabilities] at hget
    case valid =>
      intro cid channel hget
      simp [withInformationCapabilities] at hget
    case mode =>
      intro cid channel hget
      simp [withInformationCapabilities] at hget
  revert hstart
  generalize withInformationCapabilities information = manager
  induction ops generalizing manager with
  | nil => exact fun hmanager => hmanager
  | cons op ops ih => exact fun hmanager => ih _ (hmanager.step op)

end Bumble.Classic
