import Bumble.ErtmSizes
import Bumble.ClassicRenegotiation

/-!
# What the Classic manager queues can be sent

The length field of a PDU has sixteen bits, and the control field, the SDU
length and the check sequence of a retransmission frame come on top of an MPS
that may itself be 65535.  A frame that is too long is queued with a truncated
length, or is lost with everything behind it when the check sequence refuses
it.  The same happens to the answer to a very long signaling frame.  A run that
avoids these sizes queues only PDUs that can be sent and loses no frame.
-/

namespace Bumble.Classic

open Bumble.L2cap (Error L2capPdu ControlFrame ConfigurationOption InformationCapabilities
  l2capSignalingCid encodeConfigurationOptions decodeConfigurationOptions configurationSuccess
  connectionSuccessful)
open Bumble.Ertm (ErtmEngine EngineCall)
open Bumble.Ertm.ErtmEngine (Fits sduFits)
open ChannelManager

/-! ## 1. Sizes -/

def Sendable (pdu : L2capPdu) : Prop := L2capPdu.fromBytes (pdu.toBytes false) = .ok pdu

theorem sendable_of_length {pdu : L2capPdu} (hlength : pdu.payload.length < 65536) :
    Sendable pdu := by
  simp only [Sendable, L2capPdu.toBytes, Bool.false_eq_true, if_false, Nat.add_zero, u16ToLe,
    List.cons_append, List.nil_append, L2capPdu.fromBytes, u16FromLe_toLe]
  have htake : (UInt16.ofNat pdu.payload.length).toNat = pdu.payload.length := by
    rw [UInt16.toNat_ofNat']
    exact Nat.mod_eq_of_lt hlength
  rw [htake, List.take_length]

theorem length_of_sendable {pdu : L2capPdu} (hsendable : Sendable pdu) :
    pdu.payload.length < 65536 := by
  simp only [Sendable, L2capPdu.toBytes, Bool.false_eq_true, if_false, Nat.add_zero, u16ToLe,
    List.cons_append, List.nil_append, L2capPdu.fromBytes, u16FromLe_toLe, Except.ok.injEq]
      at hsendable
  have hpayload := congrArg (fun pdu => pdu.payload.length) hsendable
  simp only [List.length_take] at hpayload
  have hword := (UInt16.ofNat pdu.payload.length).toNat_lt
  omega

/-- What a frame may have: two octets less with a check sequence. -/
def frameLimit (fcsEnabled : Bool) : Nat := if fcsEnabled then 65533 else 65535

/-- The octets that `flush_ertm` queues for a frame. -/
def sealFrame (channel : ClassicChannel) (frame : Bytes) : Except Error Bytes :=
  if channel.fcsEnabled then appendFcs channel.destinationCid frame else .ok frame

theorem sealFrame_ok (channel : ClassicChannel) {frame : Bytes}
    (hframe : frame.length ≤ frameLimit channel.fcsEnabled) :
    ∃ payload, sealFrame channel frame = .ok payload ∧ payload.length < 65536 := by
  rw [sealFrame]
  cases hfcs : channel.fcsEnabled with
  | false =>
    rw [hfcs, frameLimit] at hframe
    exact ⟨frame, rfl, Nat.lt_succ_of_le hframe⟩
  | true =>
    rw [hfcs, frameLimit, if_pos rfl] at hframe
    simp only [if_true, appendFcs]
    rw [if_neg (by omega)]
    refine ⟨_, rfl, ?_⟩
    simp only [List.length_append, length_u16ToLe]
    omega

def optionsLength (options : List ConfigurationOption) : Nat :=
  (options.map fun option => option.value.length + 2).sum

/-- The options of a Configuration Request that are sent back leave room for
    the header of the response. -/
def answerFits (manager : ChannelManager) (localCid : UInt16) (encoded : Bytes) : Bool :=
  match manager.channels[localCid]?, decodeConfigurationOptions encoded with
  | some channel, .ok options =>
    optionsLength (scanOptions channel.mode options (.start channel.peerMtu)).responseOptions ≤
      65525
  | _, _ => true

/-- The call queues no frame that is too long: the frames of an SDU that is
    sent fit behind their headers, and so does what an answer repeats of a
    signaling frame. -/
def sizesFit (op : ClassicOp) (manager : ChannelManager) : Bool :=
  match op with
  | .send sourceCid sdu =>
    match manager.channels[sourceCid]? with
    | none => true
    | some channel =>
      match channel.ertm with
      | none => true
      | some engine =>
        channel.state ≠ .open_ || sduFits (frameLimit channel.fcsEnabled) engine sdu
  | op =>
    match op.frame? with
    | some (.echoRequest _ data) => data.length ≤ 65531
    | some (.configureRequest _ localCid _ encoded) => answerFits manager localCid encoded
    | _ => true

/-- Every call of the run meets the condition in the state it is made in. -/
def SizesFit : ChannelManager → List ClassicOp → Prop
  | _, [] => True
  | manager, op :: ops => sizesFit op manager = true ∧ SizesFit (op.apply manager) ops

instance decidableSizesFit : (manager : ChannelManager) → (ops : List ClassicOp) →
    Decidable (SizesFit manager ops)
  | _, [] => .isTrue trivial
  | manager, op :: ops =>
    have := decidableSizesFit (op.apply manager) ops
    inferInstanceAs (Decidable (_ ∧ _))

/-! ## 2. The invariant -/

/-- What is queued can be sent, and every frame of an engine can be queued. -/
structure Sized (manager : ChannelManager) : Prop where
  outbound : ∀ pdu ∈ manager.outbound, pdu.payload.length < 65536
  engines : ∀ (cid : UInt16) (channel : ClassicChannel) (engine : ErtmEngine),
    manager.channels[cid]? = some channel → channel.ertm = some engine →
    Fits (frameLimit channel.fcsEnabled) engine

def ChannelFits (channel : ClassicChannel) : Prop :=
  ∀ engine, channel.ertm = some engine → Fits (frameLimit channel.fcsEnabled) engine

section Sized

variable {manager next : ChannelManager} {cid : UInt16} {channel : ClassicChannel}

theorem Sized.fits (hsized : Sized manager) (hget : manager.channels[cid]? = some channel) :
    ChannelFits channel := fun engine hengine => hsized.engines cid channel engine hget hengine

theorem Sized.of_eq (hsized : Sized manager) (hchannels : next.channels = manager.channels)
    (houtbound : ∀ pdu ∈ next.outbound, pdu ∈ manager.outbound) : Sized next where
  outbound pdu hpdu := hsized.outbound pdu (houtbound pdu hpdu)
  engines := by
    rw [hchannels]
    exact hsized.engines

theorem Sized.insert (hsized : Sized manager)
    (hchannels : next.channels = manager.channels.insert cid channel)
    (houtbound : next.outbound = manager.outbound) (hchannel : ChannelFits channel) :
    Sized next where
  outbound := by
    rw [houtbound]
    exact hsized.outbound
  engines other found engine hfound hengine := by
    rw [hchannels, OrderedMap.getElem?_insert] at hfound
    by_cases heq : cid = other
    · rw [if_pos heq] at hfound
      cases hfound
      exact hchannel engine hengine
    · rw [if_neg heq] at hfound
      exact hsized.engines other found engine hfound hengine

theorem Sized.push (hsized : Sized manager) {pdu : L2capPdu} (hpdu : pdu.payload.length < 65536)
    (hchannels : next.channels = manager.channels)
    (houtbound : next.outbound = manager.outbound ++ [pdu]) : Sized next where
  outbound := by
    rw [houtbound]
    exact Ertm.ErtmEngine.mem_append_singleton hsized.outbound hpdu
  engines := by
    rw [hchannels]
    exact hsized.engines

theorem length_toBytes (frame : ControlFrame) :
    frame.toBytes.length = frame.payload.length + 4 := by
  simp [ControlFrame.toBytes, u16ToLe]

theorem Sized.queueControl (hsized : Sized manager) {frame : ControlFrame}
    (hframe : frame.payload.length ≤ 65531) : Sized (manager.queueControl frame) := by
  have hpdu : (⟨l2capSignalingCid, frame.toBytes⟩ : L2capPdu).payload.length < 65536 := by
    simp only [length_toBytes]
    omega
  exact hsized.push hpdu rfl rfl

theorem Sized.nextIdentifier (hsized : Sized manager) : Sized manager.nextIdentifier.2 :=
  hsized.of_eq rfl fun _ hpdu => hpdu

/-! ### Engines -/

theorem queueFrames_all (channel : ClassicChannel) (frames : List Bytes)
    (hframes : ∀ frame ∈ frames, frame.length ≤ frameLimit channel.fcsEnabled) :
    ∀ (manager : ChannelManager), ∃ payloads,
      List.Forall₂ (fun frame payload => sealFrame channel frame = .ok payload) frames payloads ∧
      (∀ payload ∈ payloads, payload.length < 65536) ∧
      manager.queueFrames channel.destinationCid channel.fcsEnabled frames =
        .ok { manager with
          outbound := manager.outbound ++
            payloads.map (L2capPdu.mk channel.destinationCid) } () := by
  induction frames with
  | nil =>
    intro manager
    exact ⟨[], .nil, fun _ h => (nomatch h), by simp [queueFrames]⟩
  | cons frame frames ih =>
    intro manager
    obtain ⟨payload, hseal, hlength⟩ := sealFrame_ok channel (hframes frame List.mem_cons_self)
    obtain ⟨payloads, hsealed, hlengths, hqueue⟩ :=
      ih (fun other hother => hframes other (List.mem_cons_of_mem _ hother))
        { manager with outbound := manager.outbound ++ [⟨channel.destinationCid, payload⟩] }
    refine ⟨payload :: payloads, .cons hseal hsealed, ?_, ?_⟩
    · intro other hother
      rcases List.mem_cons.mp hother with rfl | hother
      · exact hlength
      · exact hlengths other hother
    · have hhead : (if channel.fcsEnabled then appendFcs channel.destinationCid frame
          else .ok frame) = .ok payload := hseal
      rw [queueFrames, hhead]
      dsimp only
      rw [hqueue]
      simp

theorem flushErtm_all {engine : ErtmEngine} (hget : manager.channels[cid]? = some channel)
    (hengine : channel.ertm = some engine) (hfits : Fits (frameLimit channel.fcsEnabled) engine) :
    ∃ payloads,
      List.Forall₂ (fun frame payload => sealFrame channel frame = .ok payload) engine.outbound
        payloads ∧
      (∀ payload ∈ payloads, payload.length < 65536) ∧
      manager.flushErtm cid =
        .ok { manager with
          channels := manager.channels.insert cid { channel with
            ertm := some { engine with outbound := [], received := [] }
            received := channel.received ++ engine.received }
          outbound := manager.outbound ++
            payloads.map (L2capPdu.mk channel.destinationCid) } () := by
  obtain ⟨payloads, hsealed, hlengths, hqueue⟩ := queueFrames_all channel engine.outbound
    hfits.outbound { manager with
      channels := manager.channels.insert cid { channel with
        ertm := some { engine with outbound := [], received := [] }
        received := channel.received ++ engine.received } }
  refine ⟨payloads, hsealed, hlengths, ?_⟩
  simp only [flushErtm, hget, hengine]
  exact hqueue

theorem Sized.callEngine (hsized : Sized manager) {call : EngineCall Unit}
    (hfits : Fits (frameLimit channel.fcsEnabled) call.state) :
    Sized (manager.callEngine cid channel call).state := by
  have hcalled : Sized { manager with
      channels := manager.channels.insert cid { channel with ertm := some call.state } } := by
    refine hsized.insert rfl rfl ?_
    intro engine hengine
    cases hengine
    exact hfits
  rw [ChannelManager.callEngine]
  cases call.result with
  | error error => exact hcalled
  | ok value =>
    have hget : ({ manager with
        channels := manager.channels.insert cid { channel with ertm := some call.state }
        } : ChannelManager).channels[cid]? = some { channel with ertm := some call.state } := by
      simp only [OrderedMap.getElem?_insert, if_true]
    obtain ⟨payloads, -, hlengths, hflush⟩ := flushErtm_all hget rfl hfits
    dsimp only
    rw [hflush]
    have hdrained : Fits (frameLimit channel.fcsEnabled)
        { call.state with outbound := [], received := [] } :=
      ⟨hfits.pending, hfits.txWindow, fun _ h => absurd h List.not_mem_nil⟩
    constructor
    case outbound =>
      intro pdu hpdu
      rcases List.mem_append.mp hpdu with hold | hnew
      · exact hsized.outbound pdu hold
      · obtain ⟨payload, hpayload, rfl⟩ := List.mem_map.mp hnew
        exact hlengths payload hpayload
    case engines =>
      intro other found engine hfound hengine
      simp only [Outcome.ok_state, OrderedMap.insert_insert, OrderedMap.getElem?_insert] at hfound
      by_cases heq : cid = other
      · rw [if_pos heq] at hfound
        cases hfound
        cases hengine
        exact hdrained
      · rw [if_neg heq] at hfound
        exact hsized.engines other found engine hfound hengine

theorem Sized.tickLoop (ticks : UInt32) (cids : List UInt16) : ∀ {manager : ChannelManager},
    Sized manager → Sized (manager.tickLoop ticks cids).state := by
  induction cids with
  | nil => exact fun hsized => hsized
  | cons cid cids ih =>
    intro manager hsized
    rw [ChannelManager.tickLoop]
    cases hget : manager.channels[cid]? with
    | none => exact hsized
    | some channel =>
      dsimp only
      cases hengine : channel.ertm with
      | none => exact hsized
      | some engine =>
        have hcall : Sized (manager.callEngine cid channel (engine.tick ticks)).state :=
          hsized.callEngine (Ertm.ErtmEngine.fits_tick (hsized.fits hget engine hengine) ticks)
        dsimp only
        rw [Outcome.andThen]
        cases (manager.callEngine cid channel (engine.tick ticks)).result with
        | error error => exact hcall
        | ok value => exact ih hcall

/-! ### Signaling -/

theorem ChannelFits.of_eq {other : ClassicChannel} (hfits : ChannelFits channel)
    (hengine : other.ertm = channel.ertm) (hfcs : other.fcsEnabled = channel.fcsEnabled) :
    ChannelFits other := by
  rw [ChannelFits, hengine, hfcs]
  exact hfits

theorem Sized.update (hsized : Sized manager) {other : ClassicChannel}
    (hget : manager.channels[cid]? = some channel)
    (hchannels : next.channels = manager.channels.insert cid other)
    (houtbound : next.outbound = manager.outbound) (hengine : other.ertm = channel.ertm)
    (hfcs : other.fcsEnabled = channel.fcsEnabled) : Sized next :=
  hsized.insert hchannels houtbound ((hsized.fits hget).of_eq hengine hfcs)

theorem ChannelFits.opened (hfits : ChannelFits channel) : ChannelFits channel.opened := by
  rcases channel.opened_cases with hsame | ⟨hopened, -⟩
  · rw [hsame]
    exact hfits
  · rw [hopened]
    exact hfits

theorem ChannelFits.configured (hfits : ChannelFits channel) (hvalid : channel.spec.Valid)
    (hmode : channel.mode = channel.spec.mode) (flags : UInt16)
    (options : List ConfigurationOption) :
    ChannelFits (channel.onConfigureOptions flags options).state := by
  by_cases hnegotiates : flags &&& 1 = 0 ∧ negotiatesErtm channel options = true
  · obtain ⟨⟨config, hreplaced⟩, -⟩ :=
      onConfigureOptions_replaces hvalid hmode hnegotiates.1 hnegotiates.2
    intro engine hengine
    rw [hreplaced] at hengine
    cases hengine
    exact .initial _ config
  · obtain ⟨hengine, hfcs⟩ := onConfigureOptions_keeps hnegotiates
    exact hfits.of_eq hengine hfcs

theorem Sized.maybeOpen (hsized : Sized manager) (cid : UInt16) :
    Sized (manager.maybeOpen cid) := by
  cases hget : manager.channels[cid]? with
  | none =>
    rw [ChannelManager.maybeOpen, hget]
    exact hsized
  | some channel =>
    rw [maybeOpen_eq hget]
    exact hsized.insert rfl rfl (hsized.fits hget).opened

theorem encode_options_length (options : List ConfigurationOption) : ∀ {encoded : Bytes},
    encodeConfigurationOptions options = .ok encoded → encoded.length = optionsLength options := by
  induction options with
  | nil =>
    intro encoded hencode
    cases hencode
    rfl
  | cons option options ih =>
    intro encoded hencode
    rw [encodeConfigurationOptions] at hencode
    split at hencode
    · cases hencode
    cases hrest : encodeConfigurationOptions options with
    | error error =>
      rw [hrest] at hencode
      cases hencode
    | ok rest =>
      rw [hrest] at hencode
      cases hencode
      simp only [optionsLength, List.map_cons, List.sum_cons, List.cons_append, List.length_cons,
        List.length_append]
      rw [ih hrest, optionsLength]
      omega

theorem conclude_answer {result value : UInt16} {options answer : List ConfigurationOption}
    (hresult : (channel.concludeConfiguration result options).result = .ok (value, answer)) :
    answer = options := by
  rw [ClassicChannel.concludeConfiguration] at hresult
  split at hresult
  · cases hresult
    rfl
  · cases hresult
    rfl

theorem answer_length {flags value : UInt16} {options answer : List ConfigurationOption}
    (hresult : (channel.onConfigureOptions flags options).result = .ok (value, answer)) :
    optionsLength answer ≤ max 11
      (optionsLength (scanOptions channel.mode options
        (.start channel.peerMtu)).responseOptions) := by
  rw [ClassicChannel.onConfigureOptions] at hresult
  generalize scanOptions channel.mode options (.start channel.peerMtu) = scan at hresult ⊢
  have hscan : optionsLength scan.responseOptions ≤ max 11 (optionsLength scan.responseOptions) :=
    Nat.le_max_right _ _
  have hsmall : ∀ option : ConfigurationOption, option.value.length ≤ 9 →
      optionsLength [option] ≤ max 11 (optionsLength scan.responseOptions) := by
    intro option hoption
    simp only [optionsLength, List.map_cons, List.map_nil, List.sum_cons, List.sum_nil]
    omega
  split at hresult
  · rw [ClassicChannel.completeConfiguration] at hresult
    split at hresult
    · split at hresult
      · split at hresult
        · rw [conclude_answer hresult]
          exact hsmall _ (by simp [ConfigurationOption.new])
        · dsimp only at hresult
          split at hresult
          · cases hresult
          · rw [conclude_answer hresult]
            exact hscan
      · rw [conclude_answer hresult]
        exact hsmall _ (by simp [ConfigurationOption.new, encodeErtmOption])
    · split at hresult
      · rw [conclude_answer hresult]
        exact hscan
      · rw [conclude_answer hresult]
        exact hscan
  · cases hresult
    exact hscan

theorem configureOptions_length (spec : ChannelSpec) :
    optionsLength (configureOptions spec) ≤ 18 := by
  cases spec with
  | basic spec =>
      simp [configureOptions, ChannelSpec.ertmSpec, optionsLength, ConfigurationOption.new]
  | ertm spec =>
    cases hfcs : spec.fcsEnabled with
    | false =>
      simp [configureOptions, ChannelSpec.ertmSpec, optionsLength, ConfigurationOption.new,
        encodeErtmOption, hfcs]
    | true =>
      simp [configureOptions, ChannelSpec.ertmSpec, optionsLength, ConfigurationOption.new,
        encodeErtmOption, hfcs]

theorem Sized.queueConfigureRequest (hsized : Sized manager) (cid : UInt16) :
    Sized (manager.queueConfigureRequest cid).state := by
  rw [ChannelManager.queueConfigureRequest]
  split
  · exact hsized
  next channel _ =>
  dsimp only [ChannelManager.nextIdentifier]
  split
  · exact hsized.nextIdentifier
  · next options hencode =>
    refine hsized.nextIdentifier.queueControl ?_
    have hlength := configureOptions_length channel.spec
    simp only [ControlFrame.payload, List.length_append, length_u16ToLe,
      encode_options_length _ hencode]
    omega

theorem Sized.onConnectionRequest (hsized : Sized manager) (identifier : UInt8) (psm : UInt32)
    (remoteCid : UInt16) : Sized (manager.onConnectionRequest identifier psm remoteCid).state := by
  have hresponse : ∀ {manager : ChannelManager} (localCid result : UInt16), Sized manager →
      Sized (manager.queueControl
        (.connectionResponse identifier localCid remoteCid result 0)) := by
    intro manager localCid result hsized
    exact hsized.queueControl (by simp [ControlFrame.payload])
  rw [ChannelManager.onConnectionRequest]
  split
  · exact hresponse _ _ hsized
  split
  · exact hresponse _ _ hsized
  · apply Sized.queueConfigureRequest
    apply hresponse
    refine hsized.insert rfl rfl ?_
    intro engine hengine
    cases hengine

theorem Sized.onConnectionResponse (hsized : Sized manager)
    (destinationCid sourceCid result : UInt16) :
    Sized (manager.onConnectionResponse destinationCid sourceCid result).state := by
  rw [ChannelManager.onConnectionResponse]
  cases hget : manager.channels[sourceCid]? with
  | none => exact hsized
  | some channel =>
    dsimp only
    split
    · exact hsized
    split
    · exact hsized.update hget rfl rfl rfl rfl
    · apply Sized.queueConfigureRequest
      exact hsized.update hget rfl rfl rfl rfl

theorem Sized.onConfigureRequest (hsized : Sized manager) (hspecified : Specified manager)
    (identifier : UInt8) (localCid flags : UInt16) {encoded : Bytes}
    (hencoded : answerFits manager localCid encoded = true) :
    Sized (manager.onConfigureRequest identifier localCid flags encoded).state := by
  rw [ChannelManager.onConfigureRequest]
  cases hdecode : decodeConfigurationOptions encoded with
  | error error => exact hsized
  | ok options =>
    dsimp only
    cases hget : manager.channels[localCid]? with
    | none => exact hsized
    | some channel =>
      have hconfigured : Sized { manager with
          channels := manager.channels.insert localCid
            (channel.onConfigureOptions flags options).state } := by
        refine hsized.insert rfl rfl ((hsized.fits hget).configured ?_ ?_ flags options)
        · exact hspecified.valid localCid channel hget
        · exact hspecified.mode localCid channel hget
      dsimp only
      cases hresult : (channel.onConfigureOptions flags options).result with
      | error error => exact hconfigured
      | ok answer =>
        obtain ⟨result, responseOptions⟩ := answer
        dsimp only
        cases hencode : encodeConfigurationOptions responseOptions with
        | error error => exact hconfigured
        | ok response =>
          refine (hconfigured.queueControl ?_).maybeOpen localCid
          have hanswer := answer_length hresult
          simp only [answerFits, hget, hdecode, decide_eq_true_eq] at hencoded
          simp only [ControlFrame.payload, List.length_append, length_u16ToLe,
            encode_options_length _ hencode]
          omega

theorem Sized.onConfigureResponse (hsized : Sized manager) (localCid result : UInt16) :
    Sized (manager.onConfigureResponse localCid result).state := by
  rw [ChannelManager.onConfigureResponse]
  cases hget : manager.channels[localCid]? with
  | none => exact hsized
  | some channel =>
    dsimp only
    apply Sized.maybeOpen
    split
    · exact hsized.update hget rfl rfl rfl rfl
    · exact hsized.update hget rfl rfl rfl rfl

theorem Sized.onDisconnectionRequest (hsized : Sized manager) (identifier : UInt8)
    (localCid remoteCid : UInt16) :
    Sized (manager.onDisconnectionRequest identifier localCid remoteCid).state := by
  rw [ChannelManager.onDisconnectionRequest]
  cases hget : manager.channels[localCid]? with
  | none => exact hsized
  | some channel =>
    dsimp only
    split
    · exact hsized
    · refine Sized.queueControl ?_ (by simp [ControlFrame.payload])
      exact hsized.update hget rfl rfl rfl rfl

theorem Sized.onDisconnectionResponse (hsized : Sized manager)
    (destinationCid sourceCid : UInt16) :
    Sized (manager.onDisconnectionResponse destinationCid sourceCid).state := by
  rw [ChannelManager.onDisconnectionResponse]
  cases hget : manager.channels[sourceCid]? with
  | none => exact hsized
  | some channel =>
    dsimp only
    split
    · exact hsized
    · exact hsized.update hget rfl rfl rfl rfl

theorem information_length (information : InformationCapabilities) (identifier : UInt8)
    (infoType : UInt16) : (information.response identifier infoType).payload.length ≤ 65531 := by
  rw [InformationCapabilities.response]
  split
  · simp [ControlFrame.payload]
  split
  · simp [ControlFrame.payload, u32ToLe]
  split
  · simp [ControlFrame.payload, u64ToLe]
  · simp [ControlFrame.payload]

theorem Sized.processControl (hsized : Sized manager) (hspecified : Specified manager)
    {frame : ControlFrame}
    (hecho : ∀ identifier data, frame = .echoRequest identifier data → data.length ≤ 65531)
    (hrequest : ∀ identifier localCid flags encoded,
      frame = .configureRequest identifier localCid flags encoded →
        answerFits manager localCid encoded = true) :
    Sized (manager.processControl frame).state := by
  cases frame with
  | connectionRequest => exact hsized.onConnectionRequest _ _ _
  | connectionResponse => exact hsized.onConnectionResponse _ _ _
  | configureRequest identifier localCid flags encoded =>
    exact hsized.onConfigureRequest hspecified _ _ _ (hrequest _ _ _ _ rfl)
  | configureResponse => exact hsized.onConfigureResponse _ _
  | disconnectionRequest => exact hsized.onDisconnectionRequest _ _ _
  | disconnectionResponse => exact hsized.onDisconnectionResponse _ _
  | echoRequest identifier data => exact hsized.queueControl (hecho identifier data rfl)
  | informationRequest identifier infoType =>
    exact hsized.queueControl (information_length _ identifier infoType)
  | informationResponse => exact hsized.of_eq rfl fun _ hpdu => hpdu
  | _ => exact hsized

theorem Sized.processData (hsized : Sized manager) (localCid : UInt16) (payload : Bytes) :
    Sized (manager.processData localCid payload).state := by
  rw [ChannelManager.processData]
  cases hget : manager.channels[localCid]? with
  | none => exact hsized
  | some channel =>
    dsimp only
    split
    · exact hsized
    cases hengine : channel.ertm with
    | some engine =>
      dsimp only
      split
      · exact hsized
      · apply hsized.callEngine
        apply Ertm.ErtmEngine.fits_receiveFrame
        · rw [frameLimit]
          split <;> decide
        · exact hsized.fits hget engine hengine
    | none =>
      dsimp only
      split
      · exact hsized
      · exact hsized.update hget rfl rfl hengine.symm rfl

theorem Sized.processPdu (hsized : Sized manager) (hspecified : Specified manager)
    {op : ClassicOp} {pdu : L2capPdu} (hpdu : op.pdu? = some pdu)
    (hfits : sizesFit op manager = true) : Sized (manager.processPdu pdu).state := by
  rw [ChannelManager.processPdu]
  by_cases hcid : pdu.cid = l2capSignalingCid
  · rw [if_pos hcid]
    cases hbytes : ControlFrame.fromBytes pdu.payload with
    | error error => exact hsized
    | ok frame =>
      have hframe : op.frame? = some frame := by
        simp [ClassicOp.frame?, hpdu, hcid, hbytes, Except.toOption]
      have hcondition : (match op.frame? with
          | some (.echoRequest _ data) => decide (data.length ≤ 65531)
          | some (.configureRequest _ localCid _ encoded) => answerFits manager localCid encoded
          | _ => true) = true := by
        cases op with
        | send => cases hpdu
        | _ => exact hfits
      rw [hframe] at hcondition
      refine hsized.processControl hspecified ?_ ?_
      · rintro identifier data rfl
        exact of_decide_eq_true hcondition
      · rintro identifier localCid flags encoded rfl
        exact hcondition
  · rw [if_neg hcid]
    exact hsized.processData _ _

theorem Sized.connectWithSpec (hsized : Sized manager) (psm : UInt32) (spec : ChannelSpec) :
    Sized (manager.connectWithSpec psm spec).state := by
  rw [ChannelManager.connectWithSpec]
  split
  · exact hsized
  · dsimp only [ChannelManager.nextIdentifier]
    refine Sized.queueControl ?_ ?_
    · refine hsized.insert rfl rfl ?_
      intro engine hengine
      cases hengine
    · have hrest : (L2cap.serializePsmRest 4 (psm >>> 16)).length ≤ 4 := by
        generalize psm >>> 16 = rest
        simp only [L2cap.serializePsmRest]
        split
        · simp
        split
        · simp
        split
        · simp
        split
        · simp
        · simp
      simp only [ControlFrame.payload, L2cap.serializePsm, List.length_append, length_u16ToLe]
      omega

theorem Sized.send (hsized : Sized manager) {sourceCid : UInt16} {sdu : Bytes}
    (hfits : sizesFit (.send sourceCid sdu) manager = true) :
    Sized (manager.send sourceCid sdu).state := by
  rw [ChannelManager.send]
  cases hget : manager.channels[sourceCid]? with
  | none => exact hsized
  | some channel =>
    dsimp only
    split
    · exact hsized
    next hopen =>
    cases hengine : channel.ertm with
    | some engine =>
      simp only [sizesFit, hget, hengine, Bool.or_eq_true, decide_eq_true_eq] at hfits
      apply hsized.callEngine
      exact Ertm.ErtmEngine.fits_sendSdu (hsized.fits hget engine hengine)
        (hfits.resolve_left hopen)
    | none =>
      dsimp only
      split
      · exact hsized
      · next hmtu =>
        have hpdu : (⟨channel.destinationCid, sdu⟩ : L2capPdu).payload.length < 65536 := by
          have hword := channel.peerMtu.toNat_lt
          simp only
          omega
        exact hsized.push hpdu rfl rfl

/-- **The step.** -/
theorem Sized.step (hsized : Sized manager) (hspecified : Specified manager) (op : ClassicOp)
    (hfits : sizesFit op manager = true) : Sized (op.apply manager) := by
  have hregister : ∀ (psm : Option UInt32) (spec : ChannelSpec),
      Sized (manager.registerServerWithSpec psm spec).state := by
    intro psm spec
    simp only [registerServerWithSpec]
    split
    · exact hsized
    split
    · exact hsized
    · exact hsized.of_eq rfl fun _ hpdu => hpdu
  cases op with
  | registerServer psm spec =>
    simp only [ClassicOp.apply, registerServer]
    split
    · exact hsized
    · exact hregister _ _
  | registerErtmServer psm spec =>
    simp only [ClassicOp.apply, registerErtmServer]
    split
    · exact hsized
    · exact hregister _ _
  | unregisterServer => exact hsized.of_eq rfl fun _ hpdu => hpdu
  | requestInformation => exact hsized.nextIdentifier.queueControl (by simp [ControlFrame.payload])
  | pollInformationResponse => exact hsized.of_eq rfl fun _ hpdu => hpdu
  | drainInformationResponses => exact hsized.of_eq rfl fun _ hpdu => hpdu
  | connect psm spec =>
    simp only [ClassicOp.apply, connect]
    split
    · exact hsized
    split
    · exact hsized
    · exact hsized.connectWithSpec _ _
  | connectErtm psm spec =>
    simp only [ClassicOp.apply, connectErtm]
    split
    · exact hsized
    split
    · exact hsized
    · exact hsized.connectWithSpec _ _
  | popReceived sourceCid =>
    refine ⟨hsized.outbound, ?_⟩
    intro cid channel engine hget hengine
    simp only [ClassicOp.apply, OrderedMap.getElem?_modify] at hget
    split at hget
    · obtain ⟨found, hfound, rfl⟩ := Option.map_eq_some_iff.mp hget
      exact hsized.engines cid found engine hfound hengine
    · exact hsized.engines cid channel engine hget hengine
  | pollAcceptedChannel => exact hsized.of_eq rfl fun _ hpdu => hpdu
  | pollOutbound => exact hsized.of_eq rfl fun _ hpdu => List.mem_of_mem_tail hpdu
  | drainOutbound => exact hsized.of_eq rfl fun _ hpdu => absurd hpdu List.not_mem_nil
  | tick ticks => exact hsized.tickLoop ticks _
  | setReceiverBusy sourceCid busy =>
    simp only [ClassicOp.apply, setReceiverBusy]
    cases hget : manager.channels[sourceCid]? with
    | none => exact hsized
    | some channel =>
      dsimp only
      cases hengine : channel.ertm with
      | none => exact hsized
      | some engine =>
        apply hsized.callEngine
        apply Ertm.ErtmEngine.fits_setReceiverBusy
        · rw [frameLimit]
          split <;> decide
        · exact hsized.fits hget engine hengine
  | processPdu pdu => exact hsized.processPdu hspecified rfl hfits
  | processBytes bytes =>
    simp only [ClassicOp.apply, processBytes]
    cases hbytes : L2capPdu.fromBytes bytes with
    | error error => exact hsized
    | ok pdu =>
      refine hsized.processPdu hspecified ?_ hfits
      simp [ClassicOp.pdu?, hbytes, Except.toOption]
  | send sourceCid sdu => exact hsized.send hfits
  | disconnect sourceCid =>
    simp only [ClassicOp.apply, disconnect]
    cases hget : manager.channels[sourceCid]? with
    | none => exact hsized
    | some channel =>
      dsimp only
      split
      · exact hsized
      · dsimp only [ChannelManager.nextIdentifier]
        refine Sized.queueControl ?_ (by simp [ControlFrame.payload])
        exact hsized.update hget rfl rfl rfl rfl

end Sized

/-! ## 3. Runs -/

/-- The calls an engine gets from the manager before a flush. -/
inductive Called (manager : ChannelManager) (cid : UInt16) (channel : ClassicChannel)
    (engine : ErtmEngine) : EngineCall Unit → Prop
  | sent (sdu : Bytes) (hopen : channel.state = .open_)
      (hfits : sizesFit (.send cid sdu) manager = true) :
      Called manager cid channel engine (engine.sendSdu sdu)
  | received (frame : Bytes) : Called manager cid channel engine (engine.receiveFrame frame)
  | busy (busy : Bool) : Called manager cid channel engine (engine.setReceiverBusy busy)
  | ticked (ticks : UInt32) : Called manager cid channel engine (engine.tick ticks)

/-- Whatever call an engine gets, and whatever happens to other channels
    meanwhile, the flush after it queues every frame it drains. -/
def FlushesAll (manager : ChannelManager) : Prop :=
  ∀ (cid : UInt16) (channel : ClassicChannel) (engine : ErtmEngine) (call : EngineCall Unit)
    (flushed : ChannelManager),
    manager.channels[cid]? = some channel → channel.ertm = some engine →
    Called manager cid channel engine call →
    flushed.channels[cid]? = some { channel with ertm := some call.state } →
    ∃ payloads,
      List.Forall₂ (fun frame payload => sealFrame channel frame = .ok payload)
        call.state.outbound payloads ∧
      (flushed.flushErtm cid).result = .ok () ∧
      (flushed.flushErtm cid).state.outbound =
        flushed.outbound ++ payloads.map (L2capPdu.mk channel.destinationCid)

theorem Sized.flushesAll {manager : ChannelManager} (hsized : Sized manager) :
    FlushesAll manager := by
  intro cid channel engine call flushed hget hengine hcalled hflushed
  have hfits := hsized.fits hget engine hengine
  have hlimit : 2 ≤ frameLimit channel.fcsEnabled := by
    rw [frameLimit]
    split <;> decide
  have hcall : Fits (frameLimit channel.fcsEnabled) call.state := by
    cases hcalled with
    | sent sdu hopen hsizes =>
      simp only [sizesFit, hget, hengine, Bool.or_eq_true, decide_eq_true_eq] at hsizes
      exact Ertm.ErtmEngine.fits_sendSdu hfits (hsizes.resolve_left fun hnot => hnot hopen)
    | received frame => exact Ertm.ErtmEngine.fits_receiveFrame hlimit hfits frame
    | busy busy => exact Ertm.ErtmEngine.fits_setReceiverBusy hlimit hfits busy
    | ticked ticks => exact Ertm.ErtmEngine.fits_tick hfits ticks
  obtain ⟨payloads, hsealed, -, hflush⟩ := flushErtm_all hflushed rfl hcall
  refine ⟨payloads, hsealed, ?_, ?_⟩
  · rw [hflush]
    rfl
  · rw [hflush]
    rfl

theorem sized_run (ops : List ClassicOp) : ∀ {manager : ChannelManager}, Sized manager →
    Specified manager → SizesFit manager ops → Sized (manager.runOps ops) := by
  induction ops with
  | nil => exact fun hsized _ _ => hsized
  | cons op ops ih =>
    intro manager hsized hspecified hsizes
    exact ih (hsized.step hspecified op hsizes.1) (hspecified.step op) hsizes.2

/-- **Every queued PDU can be sent and no frame is lost.**  In every state that
    a new manager reaches by a run whose calls all keep to the sizes. -/
theorem outbound_sendable (information : InformationCapabilities) (ops : List ClassicOp)
    (hsizes : SizesFit (withInformationCapabilities information) ops) :
    (∀ pdu ∈ ((withInformationCapabilities information).runOps ops).outbound, Sendable pdu) ∧
      FlushesAll ((withInformationCapabilities information).runOps ops) := by
  have hstart : Sized (withInformationCapabilities information) := by
    constructor
    case outbound => exact fun _ hpdu => nomatch hpdu
    case engines =>
      intro cid channel engine hget
      simp [withInformationCapabilities] at hget
  have hsized : Sized ((withInformationCapabilities information).runOps ops) :=
    sized_run ops hstart (specified_run information []) hsizes
  exact ⟨fun pdu hpdu => sendable_of_length (hsized.outbound pdu hpdu), hsized.flushesAll⟩

/-- The run in which a peer opens a channel and an SDU of three octets is sent. -/
theorem short_sdu_sendable :
    (∀ pdu ∈ ((withInformationCapabilities {}).runOps openedAndSent).outbound, Sendable pdu) ∧
      FlushesAll ((withInformationCapabilities {}).runOps openedAndSent) :=
  outbound_sendable {} openedAndSent (by decide)

def openedWithLargestMps : List ClassicOp :=
  [.registerErtmServer (some 0x1001) {},
    .processPdu (signalingPdu (.connectionRequest 1 0x1001 0x40)),
    .processPdu (signalingPdu (.configureRequest 2 0x40 0
      ([1, 2] ++ u16ToLe 2048 ++ [4, 9] ++ encodeErtmOption { mps := 65535 }))),
    .processPdu (signalingPdu (.configureResponse 1 0x40 0 0 []))]

def largestMpsEngine : ErtmEngine :=
  .initial (ertmConfig {} ⟨retransmissionModeEnhanced, 63, 1, 65535⟩)

theorem largestMpsEngine_sendSdu {sdu : Bytes} (hlength : sdu.length ≤ 65535) :
    (largestMpsEngine.sendSdu sdu).result = .ok () ∧
      (largestMpsEngine.sendSdu sdu).state.outbound = [[0, 0] ++ sdu] := by
  have hmtu : ¬ sdu.length > largestMpsEngine.config.peerMtu.toNat := Nat.not_lt.mpr hlength
  have hmps : sdu.length ≤ largestMpsEngine.config.peerMps.toNat := hlength
  have hactive : largestMpsEngine.ensureActive = .ok () := rfl
  rw [Ertm.ErtmEngine.sendSdu, hactive]
  dsimp only
  rw [if_neg hmtu, if_pos hmps]
  have hcontrol : (Ertm.EnhancedControlField.information 0 false 0 .unsegmented).toBytes =
      .ok [0, 0] := by decide
  have hencode : (Ertm.PendingFrame.mk sdu 0 .unsegmented none).encode 0 false =
      .ok ([0, 0] ++ sdu) := by
    rw [Ertm.PendingFrame.encode, hcontrol]
    rfl
  simp [Ertm.ErtmEngine.processOutput, Ertm.ErtmEngine.queueFrame, largestMpsEngine,
    Ertm.ErtmEngine.initial, Ertm.ErtmEngine.processOutputLoop, ertmConfig, hencode,
    Outcome.andThen, Ertm.ErtmEngine.refreshRetransmissionDeadline]

theorem largest_mps_queues {sdu : Bytes} (hlength : sdu.length ≤ 65535) :
    ∃ cid, (⟨cid, [0, 0] ++ sdu⟩ : L2capPdu) ∈ ((withInformationCapabilities {}).runOps
      (openedWithLargestMps ++ [.send 0x40 sdu])).outbound := by
  have hopened : (((withInformationCapabilities {}).runOps
      openedWithLargestMps).channels[(0x40 : UInt16)]?).any (fun channel =>
        channel.state = .open_ && channel.fcsEnabled = false &&
          channel.ertm = some largestMpsEngine) = true := by
    decide
  obtain ⟨channel, hget, hchannel⟩ := (Option.any_eq_true ..).mp hopened
  simp only [Bool.and_eq_true, decide_eq_true_eq] at hchannel
  obtain ⟨⟨hopen, hfcs⟩, hengine⟩ := hchannel
  obtain ⟨hresult, hframes⟩ := largestMpsEngine_sendSdu hlength
  refine ⟨channel.destinationCid, ?_⟩
  rw [runOps, List.foldl_append]
  change _ ∈ (((withInformationCapabilities {}).runOps openedWithLargestMps).send 0x40
    sdu).state.outbound
  simp only [ChannelManager.send, hget, hopen, hengine, ne_eq, not_true_eq_false, if_false,
    callEngine, hresult, flushErtm, OrderedMap.getElem?_insert, if_true, hframes, hfcs,
    queueFrames, Bool.false_eq_true]
  exact List.mem_append_right _ List.mem_cons_self

/-- The frame of an SDU of 65534 octets has two octets more and is queued. -/
theorem largest_mps_not_sendable :
    ¬ ∀ pdu ∈ ((withInformationCapabilities {}).runOps
      (openedWithLargestMps ++ [.send 0x40 (List.replicate 65534 0)])).outbound, Sendable pdu := by
  intro hsendable
  have hsdu : (List.replicate 65534 (0 : UInt8)).length = 65534 := List.length_replicate
  obtain ⟨cid, hqueued⟩ := largest_mps_queues (hsdu.le.trans (by decide))
  have hlength := length_of_sendable (hsendable _ hqueued)
  rw [List.length_append, hsdu] at hlength
  exact absurd hlength (by decide)

end Bumble.Classic
