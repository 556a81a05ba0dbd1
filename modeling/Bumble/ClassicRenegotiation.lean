import Bumble.ClassicCalls

/-!
# Configuration requests on an open channel

`on_configure_request` installs the engine of a channel in retransmission mode
whenever a complete request is accepted, whatever the state of the channel.  A
request that reaches an open channel therefore throws away the SDUs that wait
for an acknowledgement, the sequence numbers and the SDU that is being
reassembled.  Every other signaling PDU keeps them.
-/

namespace Bumble.Classic

open Bumble.L2cap (L2capPdu ControlFrame ConfigurationOption InformationCapabilities
  l2capSignalingCid decodeConfigurationOptions encodeConfigurationOptions configurationSuccess)
open Bumble.Ertm (ErtmEngine ErtmConfig)
open ChannelManager

/-! ## 1. Engines -/

/-- The SDUs that were accepted and are not acknowledged, the sequence numbers
    and the SDU that is being reassembled are the same. -/
structure KeepsData (engine next : ErtmEngine) : Prop where
  pending : next.pending = engine.pending
  txWindow : next.txWindow = engine.txWindow
  nextTxSeq : next.nextTxSeq = engine.nextTxSeq
  lastAckedTxSeq : next.lastAckedTxSeq = engine.lastAckedTxSeq
  expectedTxSeq : next.expectedTxSeq = engine.expectedTxSeq
  lastAckedRxSeq : next.lastAckedRxSeq = engine.lastAckedRxSeq
  inputSdu : next.inputSdu = engine.inputSdu
  inputSduLength : next.inputSduLength = engine.inputSduLength

/-- Nothing has been sent or received, as far as the data of the engine shows. -/
def atRest (engine : ErtmEngine) : Bool :=
  engine.pending.isEmpty && engine.txWindow.isEmpty && engine.nextTxSeq = 0 &&
    engine.lastAckedTxSeq = 0 && engine.expectedTxSeq = 0 && engine.lastAckedRxSeq = 0 &&
    engine.inputSdu.isEmpty && engine.inputSduLength.isNone

theorem KeepsData.refl (engine : ErtmEngine) : KeepsData engine engine :=
  ⟨rfl, rfl, rfl, rfl, rfl, rfl, rfl, rfl⟩

theorem keepsData_initial_iff {engine : ErtmEngine} {config : ErtmConfig} :
    KeepsData engine (.initial config) ↔ atRest engine = true := by
  constructor
  · rintro ⟨hpending, hwindow, hnext, hacked, hexpected, hackedRx, hinput, hlength⟩
    simp [atRest, ← hpending, ← hwindow, ← hnext, ← hacked, ← hexpected, ← hackedRx, ← hinput,
      ← hlength, ErtmEngine.initial]
  · intro hrest
    simp only [atRest, Bool.and_eq_true, List.isEmpty_iff, decide_eq_true_eq,
      Option.isNone_iff_eq_none] at hrest
    obtain ⟨⟨⟨⟨⟨⟨⟨hpending, hwindow⟩, hnext⟩, hacked⟩, hexpected⟩, hackedRx⟩, hinput⟩, hlength⟩ :=
      hrest
    exact ⟨hpending.symm, hwindow.symm, hnext.symm, hacked.symm, hexpected.symm, hackedRx.symm,
      hinput.symm, hlength.symm⟩

/-! ## 2. Renegotiation -/

/-- The options are acceptable to a channel in retransmission mode: none is
    refused, the mode is negotiated and both sides want the same check
    sequence. -/
def negotiatesErtm (channel : ClassicChannel) (options : List ConfigurationOption) : Bool :=
  let scan := scanOptions channel.mode options (.start channel.peerMtu)
  scan.result = configurationSuccess &&
    match channel.spec.ertmSpec, scan.peerErtm with
    | some spec, some _ => scan.peerFcs.getD false = spec.fcsEnabled
    | _, _ => false

/-- The PDU is a complete Configuration Request for the channel, with options
    that it accepts. -/
def renegotiates (cid : UInt16) (channel : ClassicChannel) (pdu : L2capPdu) : Bool :=
  match ControlFrame.fromBytes pdu.payload with
  | .ok (.configureRequest _ localCid flags encoded) =>
    localCid = cid && flags &&& 1 = 0 &&
      match decodeConfigurationOptions encoded with
      | .ok options => negotiatesErtm channel options
      | .error _ => false
  | _ => false

theorem scan_acceptable (mode : ClassicChannelMode) (options : List ConfigurationOption) :
    ∀ {scan : OptionScan}, (∀ parameters, scan.peerErtm = some parameters →
      parameters.acceptable mode = true) → ∀ parameters,
      (scanOptions mode options scan).peerErtm = some parameters →
      parameters.acceptable mode = true := by
  induction options with
  | nil =>
    intro scan hscan
    exact hscan
  | cons option rest ih =>
    intro scan hscan
    rw [scanOptions]
    split
    · split
      · dsimp only
        split
        · exact hscan
        · exact ih hscan
      · exact hscan
    split
    · split
      · exact hscan
      · next parameters _ =>
        by_cases haccept : parameters.acceptable mode = true
        · rw [if_pos haccept]
          apply ih
          intro found hfound
          cases hfound
          exact haccept
        · rw [if_neg haccept]
          exact hscan
    split
    · split
      · split
        · exact hscan
        · exact ih hscan
      · exact hscan
    split
    · exact ih hscan
    · exact hscan

theorem validateErtmSpec_ok {spec : ErtmChannelSpec} (hvalid : validateErtmSpec spec = .ok ()) :
    spec.mps ≠ 0 ∧ spec.retransmissionTimeoutMs ≠ 0 := by
  rw [validateErtmSpec] at hvalid
  cases hmtu : validateSpec ⟨spec.mtu⟩ with
  | error error =>
    rw [hmtu] at hvalid
    cases hvalid
  | ok value =>
    rw [hmtu] at hvalid
    simp only [bind, Except.bind] at hvalid
    by_cases hmps : spec.mps = 0
    · rw [if_pos hmps] at hvalid
      cases hvalid
    rw [if_neg hmps] at hvalid
    split at hvalid
    · cases hvalid
    by_cases htimeout : spec.retransmissionTimeoutMs = 0 ∨ spec.monitorTimeoutMs = 0
    · rw [if_pos htimeout] at hvalid
      cases hvalid
    · exact ⟨hmps, fun hzero => htimeout (.inl hzero)⟩

theorem new_ertmConfig {spec : ErtmChannelSpec} {parameters : ErtmOption}
    (hvalid : validateErtmSpec spec = .ok ())
    (haccept : parameters.acceptable .enhancedRetransmission = true) :
    ErtmEngine.new (ertmConfig spec parameters) = .ok (.initial (ertmConfig spec parameters)) := by
  obtain ⟨hmps, htimeout⟩ := validateErtmSpec_ok hvalid
  rw [ErtmOption.acceptable, Bool.and_eq_true, Bool.not_eq_true', Bool.and_eq_false_iff] at haccept
  have hmode : parameters.mode = retransmissionModeEnhanced := of_decide_eq_true haccept.1
  obtain ⟨⟨hzero, hwindow⟩, hpeer⟩ : (¬ parameters.txWindowSize = 0 ∧
      ¬ parameters.txWindowSize ≥ 64) ∧ ¬ parameters.mps = 0 := by
    simpa [hmode] using haccept.2
  have hpositive : 1 ≤ parameters.txWindowSize := by
    rw [UInt8.le_iff_toNat_le]
    exact Nat.pos_of_ne_zero fun h => hzero (UInt8.toNat_inj.mp h)
  have hbelow : parameters.txWindowSize < Ertm.ertmSequenceModulus :=
    UInt8.not_le.mp hwindow
  have hticks : spec.retransmissionTimeoutMs.toUInt32 ≠ 0 := by
    intro h
    apply htimeout
    apply UInt16.toNat_inj.mp
    have hnat := congrArg UInt32.toNat h
    simpa using hnat
  have hconfig : (ertmConfig spec parameters).validate = .ok (ertmConfig spec parameters) := by
    rw [ErtmConfig.validate]
    simp only [ertmConfig, hmps, hpeer, hpositive, hbelow, hticks, or_self, and_self,
      not_true_eq_false, if_false]
    rfl
  rw [ErtmEngine.new, hconfig]
  rfl

section Request

variable {channel : ClassicChannel} {flags : UInt16} {options : List ConfigurationOption}

theorem conclude_keeps (result : UInt16) (answer : List ConfigurationOption) :
    (channel.concludeConfiguration result answer).state.ertm = channel.ertm ∧
    (channel.concludeConfiguration result answer).state.fcsEnabled = channel.fcsEnabled := by
  rw [ClassicChannel.concludeConfiguration]
  split
  · exact ⟨rfl, rfl⟩
  · exact ⟨rfl, rfl⟩

theorem onConfigureOptions_keeps
    (hnot : ¬ (flags &&& 1 = 0 ∧ negotiatesErtm channel options = true)) :
    (channel.onConfigureOptions flags options).state.ertm = channel.ertm ∧
    (channel.onConfigureOptions flags options).state.fcsEnabled = channel.fcsEnabled := by
  rw [ClassicChannel.onConfigureOptions]
  simp only [negotiatesErtm] at hnot
  generalize scanOptions channel.mode options (.start channel.peerMtu) = scan at hnot ⊢
  by_cases hcomplete : scan.result = configurationSuccess ∧ flags &&& 1 = 0
  · rw [if_pos hcomplete, ClassicChannel.completeConfiguration]
    simp only [hcomplete.1, hcomplete.2, decide_true, Bool.true_and, true_and] at hnot
    dsimp only
    cases hspec : channel.spec.ertmSpec with
    | none =>
      dsimp only
      split
      · exact conclude_keeps _ _
      · exact conclude_keeps _ _
    | some spec =>
      dsimp only
      cases hpeer : scan.peerErtm with
      | none => exact conclude_keeps _ _
      | some parameters =>
        dsimp only
        simp only [hspec, hpeer, decide_eq_true_eq] at hnot
        rw [if_pos hnot]
        exact conclude_keeps _ _
  · rw [if_neg hcomplete]
    exact ⟨rfl, rfl⟩

theorem onConfigureOptions_replaces (hvalid : channel.spec.Valid)
    (hmode : channel.mode = channel.spec.mode) (hflags : flags &&& 1 = 0)
    (hnegotiates : negotiatesErtm channel options = true) :
    (∃ config, (channel.onConfigureOptions flags options).state.ertm = some (.initial config)) ∧
    (channel.onConfigureOptions flags options).state.state = channel.state ∧
    (channel.onConfigureOptions flags options).result.isOk := by
  simp only [negotiatesErtm, Bool.and_eq_true, decide_eq_true_eq] at hnegotiates
  rw [ClassicChannel.onConfigureOptions]
  have hacceptable : ∀ parameters,
      (scanOptions channel.mode options (.start channel.peerMtu)).peerErtm = some parameters →
      parameters.acceptable channel.mode = true := by
    apply scan_acceptable
    intro parameters hnone
    cases hnone
  generalize scanOptions channel.mode options (.start channel.peerMtu) = scan at *
  obtain ⟨hresult, hnegotiates⟩ := hnegotiates
  rw [if_pos ⟨hresult, hflags⟩, ClassicChannel.completeConfiguration]
  cases hspec : channel.spec with
  | basic spec => simp [hspec, ChannelSpec.ertmSpec] at hnegotiates
  | ertm spec =>
    rw [hspec] at hvalid hmode
    simp only [hspec, ChannelSpec.ertmSpec] at hnegotiates ⊢
    cases hpeer : scan.peerErtm with
    | none => simp [hpeer] at hnegotiates
    | some parameters =>
      simp only [hpeer, decide_eq_true_eq] at hnegotiates
      have haccept := hacceptable parameters hpeer
      rw [hmode] at haccept
      dsimp only
      rw [if_neg (not_not_intro hnegotiates), new_ertmConfig hvalid haccept]
      simp only [ClassicChannel.concludeConfiguration, if_pos hresult]
      exact ⟨⟨_, rfl⟩, rfl, rfl⟩

end Request

/-! ## 3. Signaling on open channels -/

/-- The PDU keeps the data of every open channel in retransmission mode that
    it leaves open. -/
def KeepsEngines (manager : ChannelManager) (pdu : L2capPdu) : Prop :=
  ∀ (cid : UInt16) (channel channel' : ClassicChannel) (engine : ErtmEngine),
    manager.channels[cid]? = some channel → channel.state = .open_ →
    channel.ertm = some engine →
    (manager.processPdu pdu).state.channels[cid]? = some channel' → channel'.state = .open_ →
    ∃ engine', channel'.ertm = some engine' ∧ KeepsData engine engine'

theorem opened_open {channel : ClassicChannel} (hstate : channel.state = .open_) :
    channel.opened = channel := by
  rcases channel.opened_cases with hsame | ⟨-, hconfiguring, -⟩
  · exact hsame
  · rw [hstate] at hconfiguring
    cases hconfiguring

section Signaling

variable {manager : ChannelManager} {pdu : L2capPdu} {cid : UInt16}
  {channel channel' : ClassicChannel}

/-- A signaling PDU that does not renegotiate an open channel leaves its engine alone. -/
theorem processPdu_keeps (hcid : pdu.cid = l2capSignalingCid)
    (hget : manager.channels[cid]? = some channel) (hopen : channel.state = .open_)
    (hnot : renegotiates cid channel pdu = false)
    (hnext : (manager.processPdu pdu).state.channels[cid]? = some channel')
    (hstill : channel'.state = .open_) : channel'.ertm = channel.ertm := by
  cases hbytes : ControlFrame.fromBytes pdu.payload with
  | error error =>
    have hsame : (manager.processPdu pdu).state = manager := by
      simp only [processPdu, hcid, hbytes, if_true, Outcome.fail_state]
    rw [hsame, hget] at hnext
    cases hnext
    rfl
  | ok frame =>
    have hframe : (ClassicOp.processPdu pdu).frame? = some frame := by
      simp [ClassicOp.frame?, ClassicOp.pdu?, hcid, hbytes, Except.toOption]
    obtain ⟨found, hfound, hchange⟩ :=
      ((ClassicOp.processPdu pdu).effect_apply manager).kept cid channel hget
    change (manager.processPdu pdu).state.channels[cid]? = some found at hfound
    rw [hnext] at hfound
    cases hfound
    rcases hchange with rfl | hchange
    · rfl
    cases hchange with
    | traffic engine received hnone =>
      rw [hframe] at hnone
      cases hnone
    | connected => rfl
    | refused result hstate => cases hstill
    | configured identifier flags encoded options hrequest hdecode =>
      rw [hframe] at hrequest
      cases hrequest
      have hkeeps : ¬ (flags &&& 1 = 0 ∧ negotiatesErtm channel options = true) := by
        rintro ⟨hflags, hnegotiates⟩
        simp [renegotiates, hbytes, hdecode, hflags, hnegotiates] at hnot
      rcases (channel.onConfigureOptions flags options).state.opened_cases with
        hsame | ⟨-, hstate, -⟩
      · rw [hsame]
        exact (onConfigureOptions_keeps hkeeps).1
      · rcases (channel.configures flags options).closes with hkept | hclosed
        · rw [hkept, hopen] at hstate
          cases hstate
        · rw [hclosed] at hstate
          cases hstate
    | misconfigured identifier flags encoded options error hrequest hdecode =>
      rw [hframe] at hrequest
      cases hrequest
      refine (onConfigureOptions_keeps ?_).1
      rintro ⟨hflags, hnegotiates⟩
      simp [renegotiates, hbytes, hdecode, hflags, hnegotiates] at hnot
    | answered identifier flags options =>
      have hsame : ({ channel with configurationResponseReceived := true } :
          ClassicChannel).opened = { channel with configurationResponseReceived := true } :=
        opened_open hopen
      rw [hsame]
    | rejected result => cases hstill
    | disconnecting => cases hstill
    | closed => cases hstill

theorem processPdu_replaces (hspecified : Specified manager)
    (hcid : pdu.cid = l2capSignalingCid) (hget : manager.channels[cid]? = some channel)
    (hopen : channel.state = .open_) (hrenegotiates : renegotiates cid channel pdu = true) :
    ∃ channel' config, (manager.processPdu pdu).state.channels[cid]? = some channel' ∧
      channel'.state = .open_ ∧ channel'.ertm = some (.initial config) := by
  rw [renegotiates] at hrenegotiates
  split at hrenegotiates
  · next identifier localCid flags encoded hbytes =>
    rw [Bool.and_eq_true, Bool.and_eq_true, decide_eq_true_eq, decide_eq_true_eq] at hrenegotiates
    obtain ⟨⟨rfl, hflags⟩, hrequest⟩ := hrenegotiates
    split at hrequest
    · next options hdecode =>
      obtain ⟨⟨config, hengine⟩, hstate, hok⟩ := onConfigureOptions_replaces
        (hspecified.valid localCid channel hget) (hspecified.mode localCid channel hget) hflags
        hrequest
      cases hresult : (channel.onConfigureOptions flags options).result with
      | error error =>
        rw [hresult] at hok
        cases hok
      | ok answer =>
        obtain ⟨result, answer⟩ := answer
        obtain ⟨encodedAnswer, hencode⟩ :=
          encode_short answer (answer_short (decode_short hdecode) hresult)
        have hsame := opened_open (hstate.trans hopen)
        refine ⟨_, config, ?_, hstate.trans hopen, hengine⟩
        have hstored : (({ manager with
            channels := manager.channels.insert localCid
              (channel.onConfigureOptions flags options).state } : ChannelManager).queueControl
            (.configureResponse identifier channel.destinationCid 0 result
              encodedAnswer)).channels[localCid]? =
            some (channel.onConfigureOptions flags options).state := by
          simp only [queueControl, OrderedMap.getElem?_insert, if_true]
        simp only [processPdu, hcid, hbytes, if_true, processControl, onConfigureRequest, hdecode,
          hget, hresult, hencode, Outcome.ok_state]
        rw [maybeOpen_eq hstored]
        simp only [OrderedMap.getElem?_insert, if_true, hsame]
    · cases hrequest
  · cases hrenegotiates

end Signaling

/-- **When signaling keeps the data of open channels.**  In every state that a
    new manager can reach and for every signaling PDU: exactly when the PDU
    renegotiates no open channel in retransmission mode whose engine has been
    used. -/
theorem signaling_keeps_engines_iff (information : InformationCapabilities)
    (ops : List ClassicOp) {pdu : L2capPdu} (hcid : pdu.cid = l2capSignalingCid) :
    KeepsEngines ((withInformationCapabilities information).runOps ops) pdu ↔
      ∀ (cid : UInt16) (channel : ClassicChannel) (engine : ErtmEngine),
        ((withInformationCapabilities information).runOps ops).channels[cid]? = some channel →
        channel.state = .open_ → channel.ertm = some engine →
        renegotiates cid channel pdu = true → atRest engine = true := by
  have hspecified := specified_run information ops
  generalize (withInformationCapabilities information).runOps ops = manager at hspecified ⊢
  constructor
  · intro hkeeps cid channel engine hget hopen hengine hrenegotiates
    obtain ⟨channel', config, hnext, hstill, hreplaced⟩ :=
      processPdu_replaces hspecified hcid hget hopen hrenegotiates
    obtain ⟨engine', hafter, hdata⟩ :=
      hkeeps cid channel channel' engine hget hopen hengine hnext hstill
    rw [hreplaced] at hafter
    cases hafter
    exact keepsData_initial_iff.mp hdata
  · intro hcondition cid channel channel' engine hget hopen hengine hnext hstill
    cases hrenegotiates : renegotiates cid channel pdu with
    | false =>
      refine ⟨engine, ?_, .refl engine⟩
      rw [processPdu_keeps hcid hget hopen hrenegotiates hnext hstill]
      exact hengine
    | true =>
      obtain ⟨found, config, hfound, -, hreplaced⟩ :=
        processPdu_replaces hspecified hcid hget hopen hrenegotiates
      rw [hnext] at hfound
      cases hfound
      exact ⟨_, hreplaced,
        keepsData_initial_iff.mpr (hcondition cid channel engine hget hopen hengine hrenegotiates)⟩

def signalingPdu (frame : ControlFrame) : L2capPdu := ⟨l2capSignalingCid, frame.toBytes⟩

/-- The Configuration Request of a peer with the default retransmission
    options. -/
def peerConfigureRequest : L2capPdu :=
  signalingPdu (.configureRequest 2 0x40 0
    ([1, 2] ++ u16ToLe 2048 ++ [4, 9] ++ encodeErtmOption {}))

/-- A peer opens a channel to a server in retransmission mode, and an SDU is
    sent on it. -/
def openedAndSent : List ClassicOp :=
  [.registerErtmServer (some 0x1001) {},
    .processPdu (signalingPdu (.connectionRequest 1 0x1001 0x40)),
    .processPdu peerConfigureRequest,
    .processPdu (signalingPdu (.configureResponse 1 0x40 0 0 [])), .send 0x40 [1, 2, 3]]

/-- The engine that waits for the acknowledgement of the SDU is replaced. -/
theorem renegotiation_drops_sdu :
    ¬ KeepsEngines ((withInformationCapabilities {}).runOps openedAndSent)
      peerConfigureRequest := by
  intro hkeeps
  have hbefore : (((withInformationCapabilities {}).runOps
    openedAndSent).channels[(0x40 : UInt16)]?).any
      (fun channel => channel.state = .open_ &&
        channel.ertm.any fun engine => !engine.txWindow.isEmpty) = true := by
    decide
  have hafter : ((((withInformationCapabilities {}).runOps openedAndSent).processPdu
      peerConfigureRequest).state.channels[(0x40 : UInt16)]?).any
      (fun channel => channel.state = .open_ &&
        channel.ertm.any fun engine => engine.txWindow.isEmpty) = true := by
    decide
  obtain ⟨channel, hget, hchannel⟩ := (Option.any_eq_true ..).mp hbefore
  obtain ⟨channel', hnext, hchannel'⟩ := (Option.any_eq_true ..).mp hafter
  rw [Bool.and_eq_true, decide_eq_true_eq] at hchannel hchannel'
  obtain ⟨engine, hengine, hwaiting⟩ := (Option.any_eq_true ..).mp hchannel.2
  obtain ⟨after, hreplaced, hempty⟩ := (Option.any_eq_true ..).mp hchannel'.2
  obtain ⟨engine', hafter, hdata⟩ :=
    hkeeps 0x40 channel channel' engine hget hchannel.1 hengine hnext hchannel'.1
  rw [hreplaced] at hafter
  cases hafter
  rw [hdata.txWindow] at hempty
  rw [hempty] at hwaiting
  cases hwaiting

/-- A peer that only asks for information renegotiates nothing. -/
theorem information_request_keeps_engines :
    KeepsEngines ((withInformationCapabilities {}).runOps openedAndSent)
      (signalingPdu (.informationRequest 3 2)) := by
  apply (signaling_keeps_engines_iff {} openedAndSent rfl).mpr
  intro cid channel engine _ _ _ hrenegotiates
  have hnone : renegotiates cid channel (signalingPdu (.informationRequest 3 2)) = false := rfl
  rw [hnone] at hrenegotiates
  cases hrenegotiates

end Bumble.Classic
