import Bumble.ErtmEngine

/-!
# One Classic channel (`bumble-l2cap/src/classic.rs`)

Specifications, the record of a channel and the configuration options that the
two ends exchange.  The option loop of `on_configure_request` is `scanOptions`:
it stops at the first option it refuses and keeps what it has read before.
-/

namespace Bumble.Classic

open Bumble.L2cap (Error ConfigurationOption crc16 configurationSuccess
  configurationUnacceptableParameters configurationUnknownOptions configurationOptionMtu
  configurationOptionRetransmissionAndFlowControl configurationOptionFcs connectionSuccessful)
open Bumble.Ertm (ErtmEngine ErtmConfig)

/-! ## 1. Specifications -/

def l2capMinBrEdrMtu : UInt16 := 48
def l2capDefaultMtu : UInt16 := 2048
def l2capDefaultMps : UInt16 := 1010
def l2capAclUDynamicCidRangeStart : UInt16 := 0x0040
def l2capAclUDynamicCidRangeEnd : UInt16 := 0xffff
def l2capPsmDynamicRangeStart : UInt32 := 0x1001
def l2capPsmDynamicRangeEnd : UInt32 := 0xffff
def retransmissionModeEnhanced : UInt8 := 0x03

structure ClassicChannelSpec where
  mtu : UInt16 := l2capDefaultMtu
deriving DecidableEq, Repr

structure ErtmChannelSpec where
  mtu : UInt16 := l2capDefaultMtu
  mps : UInt16 := l2capDefaultMps
  txWindowSize : UInt8 := 63
  maxRetransmissions : UInt8 := 1
  retransmissionTimeoutMs : UInt16 := 2000
  monitorTimeoutMs : UInt16 := 12000
  fcsEnabled : Bool := false
deriving DecidableEq, Repr

inductive ClassicChannelMode where
  | basic
  | enhancedRetransmission
deriving DecidableEq, Repr

inductive ChannelSpec where
  | basic (spec : ClassicChannelSpec)
  | ertm (spec : ErtmChannelSpec)
deriving DecidableEq, Repr

namespace ChannelSpec

def mtu : ChannelSpec → UInt16
  | basic spec => spec.mtu
  | ertm spec => spec.mtu

def mode : ChannelSpec → ClassicChannelMode
  | basic _ => .basic
  | ertm _ => .enhancedRetransmission

/-- `ChannelSpec::ertm`; `ertm` is the constructor. -/
def ertmSpec : ChannelSpec → Option ErtmChannelSpec
  | basic _ => none
  | ertm spec => some spec

end ChannelSpec

def validateSpec (spec : ClassicChannelSpec) : Except Error Unit :=
  if spec.mtu < l2capMinBrEdrMtu then
    .error (.invalidPacket s!"Classic MTU must be at least {l2capMinBrEdrMtu.toNat}")
  else .ok ()

def validateErtmSpec (spec : ErtmChannelSpec) : Except Error Unit := do
  validateSpec ⟨spec.mtu⟩
  if spec.mps = 0 then .error (.invalidPacket "ERTM MPS cannot be zero")
  else if ¬ (1 ≤ spec.txWindowSize ∧ spec.txWindowSize < 64) then
    .error (.invalidPacket "ERTM transmit window must be between 1 and 63")
  else if spec.retransmissionTimeoutMs = 0 ∨ spec.monitorTimeoutMs = 0 then
    .error (.invalidPacket "ERTM timeout cannot be zero")
  else .ok ()

/-- The `while high != 0` loop of `validate_psm`: 24 bits are left. -/
def psmOctetsEven : Nat → UInt32 → Bool
  | 0, _ => true
  | fuel + 1, high =>
    if high = 0 then true
    else if high &&& 1 ≠ 0 then false
    else psmOctetsEven fuel (high >>> 8)

def validatePsm (psm : UInt32) : Except Error Unit :=
  if psm = 0 ∨ psm &&& 1 = 0 then .error (.invalidPacket "invalid Classic PSM")
  else if psmOctetsEven 3 (psm >>> 8) then .ok ()
  else .error (.invalidPacket "invalid Classic PSM")

/-! ## 2. The channel -/

inductive ClassicChannelState where
  | closed
  | waitConnectResponse
  | configuring
  | open_
  | waitDisconnect
deriving DecidableEq, Repr

structure ClassicChannel where
  psm : UInt32
  sourceCid : UInt16
  destinationCid : UInt16
  mtu : UInt16
  peerMtu : UInt16
  peerMps : UInt16
  mode : ClassicChannelMode
  fcsEnabled : Bool
  state : ClassicChannelState
  connectionResult : Option UInt16
  incoming : Bool
  peerConfigurationReceived : Bool
  configurationResponseReceived : Bool
  openAnnounced : Bool
  spec : ChannelSpec
  ertm : Option ErtmEngine
  received : List Bytes
deriving DecidableEq, Repr

namespace ClassicChannel

/-- `ClassicChannel::outgoing`. -/
def newOutgoing (psm : UInt32) (sourceCid : UInt16) (spec : ChannelSpec) : ClassicChannel where
  psm := psm
  sourceCid := sourceCid
  destinationCid := 0
  mtu := spec.mtu
  peerMtu := l2capMinBrEdrMtu
  peerMps := l2capDefaultMps
  mode := spec.mode
  fcsEnabled := false
  state := .waitConnectResponse
  connectionResult := none
  incoming := false
  peerConfigurationReceived := false
  configurationResponseReceived := false
  openAnnounced := false
  spec := spec
  ertm := none
  received := []

/-- `ClassicChannel::incoming`. -/
def newIncoming (psm : UInt32) (sourceCid destinationCid : UInt16) (spec : ChannelSpec) :
    ClassicChannel where
  psm := psm
  sourceCid := sourceCid
  destinationCid := destinationCid
  mtu := spec.mtu
  peerMtu := l2capMinBrEdrMtu
  peerMps := l2capDefaultMps
  mode := spec.mode
  fcsEnabled := false
  state := .configuring
  connectionResult := some connectionSuccessful
  incoming := true
  peerConfigurationReceived := false
  configurationResponseReceived := false
  openAnnounced := false
  spec := spec
  ertm := none
  received := []

def popReceived (channel : ClassicChannel) : Option (Bytes × ClassicChannel) :=
  match channel.received with
  | [] => none
  | sdu :: received => some (sdu, { channel with received })

end ClassicChannel

/-! ## 3. Configuration options -/

structure ErtmOption where
  mode : UInt8
  txWindowSize : UInt8
  maxRetransmissions : UInt8
  mps : UInt16
deriving DecidableEq, Repr

def encodeErtmOption (spec : ErtmChannelSpec) : Bytes :=
  [retransmissionModeEnhanced, spec.txWindowSize, spec.maxRetransmissions] ++
    u16ToLe spec.retransmissionTimeoutMs ++ u16ToLe spec.monitorTimeoutMs ++ u16ToLe spec.mps

def decodeErtmOption (value : Bytes) : Option ErtmOption :=
  match value with
  | [mode, txWindowSize, maxRetransmissions, _, _, _, _, mpsLow, mpsHigh] =>
    some ⟨mode, txWindowSize, maxRetransmissions, u16FromLe mpsLow mpsHigh⟩
  | _ => none

/-- The options of a Configuration Request for this specification. -/
def configureOptions (spec : ChannelSpec) : List ConfigurationOption :=
  .new configurationOptionMtu (u16ToLe spec.mtu) ::
    match spec.ertmSpec with
    | none => []
    | some ertm =>
      .new configurationOptionRetransmissionAndFlowControl (encodeErtmOption ertm) ::
        if ertm.fcsEnabled then [.new configurationOptionFcs [1]] else []

/-- What the option loop of `on_configure_request` has read. -/
structure OptionScan where
  result : UInt16
  responseOptions : List ConfigurationOption
  peerMtu : UInt16
  peerErtm : Option ErtmOption
  peerFcs : Option Bool
deriving DecidableEq, Repr

namespace OptionScan

/-- The loop's variables before it; `peer_mtu` is the channel's. -/
def start (peerMtu : UInt16) : OptionScan := ⟨configurationSuccess, [], peerMtu, none, none⟩

/-- A refusal, and the option that the response carries for it. -/
def refuse (scan : OptionScan) (result : UInt16) (option : ConfigurationOption) : OptionScan :=
  { scan with result, responseOptions := [option] }

end OptionScan

/-- The mode that a retransmission option must name. -/
def expectedMode : ClassicChannelMode → UInt8
  | .basic => 0
  | .enhancedRetransmission => retransmissionModeEnhanced

def ErtmOption.acceptable (parameters : ErtmOption) (mode : ClassicChannelMode) : Bool :=
  parameters.mode = expectedMode mode &&
    !(parameters.mode = retransmissionModeEnhanced &&
      (parameters.txWindowSize = 0 || parameters.txWindowSize ≥ 64 || parameters.mps = 0))

/-- The `for option in options` loop of `on_configure_request`. -/
def scanOptions (mode : ClassicChannelMode) : List ConfigurationOption → OptionScan → OptionScan
  | [], scan => scan
  | option :: rest, scan =>
    let accepted := scan.responseOptions ++ [option]
    if option.optionType = configurationOptionMtu then
      match option.value with
      | [low, high] =>
        let mtu := u16FromLe low high
        if mtu < l2capMinBrEdrMtu then
          scan.refuse configurationUnacceptableParameters
            (.new configurationOptionMtu (u16ToLe l2capMinBrEdrMtu))
        else
          scanOptions mode rest { scan with peerMtu := mtu, responseOptions := accepted }
      | _ => scan.refuse configurationUnacceptableParameters option
    else if option.optionType = configurationOptionRetransmissionAndFlowControl then
      match decodeErtmOption option.value with
      | none => scan.refuse configurationUnacceptableParameters option
      | some parameters =>
        if parameters.acceptable mode then
          scanOptions mode rest
            { scan with peerErtm := some parameters, responseOptions := accepted }
        else scan.refuse configurationUnacceptableParameters option
    else if option.optionType = configurationOptionFcs then
      match option.value with
      | [value] =>
        if value > 1 then scan.refuse configurationUnacceptableParameters option
        else
          scanOptions mode rest
            { scan with peerFcs := some (value ≠ 0), responseOptions := accepted }
      | _ => scan.refuse configurationUnacceptableParameters option
    else if option.hint then scanOptions mode rest scan
    else scan.refuse configurationUnknownOptions option

/-! ## 4. Negotiation -/

/-- The engine's configuration for a negotiated channel. -/
def ertmConfig (spec : ErtmChannelSpec) (parameters : ErtmOption) : ErtmConfig where
  localMtu := 65535
  peerMtu := 65535
  localMps := spec.mps
  peerMps := parameters.mps
  txWindowSize := parameters.txWindowSize
  maxRetransmissions := parameters.maxRetransmissions
  retransmissionTimeoutTicks := spec.retransmissionTimeoutMs.toUInt32

/-- What a Configuration Request leaves of a channel and answers. -/
abbrev ConfigureCall := Outcome ClassicChannel Error (UInt16 × List ConfigurationOption)

namespace ClassicChannel

/-- The end of a complete request: the channel is configured or closed. -/
def concludeConfiguration (channel : ClassicChannel) (result : UInt16)
    (options : List ConfigurationOption) : ConfigureCall :=
  if result = configurationSuccess then
    .ok { channel with peerConfigurationReceived := true } (result, options)
  else
    .ok { channel with state := .closed, connectionResult := some result } (result, options)

/-- A request whose options were all accepted and that no other one continues. -/
def completeConfiguration (channel : ClassicChannel) (scan : OptionScan) : ConfigureCall :=
  match channel.spec.ertmSpec with
  | some spec =>
    match scan.peerErtm with
    | some parameters =>
      if scan.peerFcs.getD false ≠ spec.fcsEnabled then
        channel.concludeConfiguration configurationUnacceptableParameters
          [.new configurationOptionFcs [spec.fcsEnabled.toUInt8]]
      else
        let channel := { channel with
          peerMps := parameters.mps, fcsEnabled := spec.fcsEnabled }
        match ErtmEngine.new (ertmConfig spec parameters) with
        | .error error => .fail channel error
        | .ok engine =>
          { channel with ertm := some engine }.concludeConfiguration scan.result
            scan.responseOptions
    | none =>
      channel.concludeConfiguration configurationUnacceptableParameters
        [.new configurationOptionRetransmissionAndFlowControl (encodeErtmOption spec)]
  | none =>
    if scan.peerErtm.isSome ∨ scan.peerFcs.getD false then
      channel.concludeConfiguration configurationUnacceptableParameters scan.responseOptions
    else channel.concludeConfiguration scan.result scan.responseOptions

/-- The channel's part of `on_configure_request`. -/
def onConfigureOptions (channel : ClassicChannel) (flags : UInt16)
    (options : List ConfigurationOption) : ConfigureCall :=
  let scan := scanOptions channel.mode options (.start channel.peerMtu)
  let channel := { channel with peerMtu := scan.peerMtu }
  if scan.result = configurationSuccess ∧ flags &&& 1 = 0 then
    channel.completeConfiguration scan
  else .ok channel (scan.result, scan.responseOptions)

end ClassicChannel

/-! ## 5. Frame check sequences -/

def appendFcs (cid : UInt16) (payload : Bytes) : Except Error Bytes :=
  if payload.length + 2 > 65535 then .error (.invalidPacket "ERTM frame is too large")
  else
    let length := UInt16.ofNat (payload.length + 2)
    .ok (payload ++ u16ToLe (crc16 (u16ToLe length ++ u16ToLe cid ++ payload)))

def verifyAndStripFcs (cid : UInt16) (payload : Bytes) : Except Error Bytes :=
  if payload.length < 2 then .error (.invalidPacket "ERTM frame is missing its FCS")
  else if payload.length > 65535 then .error (.invalidPacket "ERTM frame is too large")
  else
    let body := payload.take (payload.length - 2)
    let checked := u16ToLe (UInt16.ofNat payload.length) ++ u16ToLe cid ++ body
    match payload.drop (payload.length - 2) with
    | [low, high] =>
      if crc16 checked ≠ u16FromLe low high then
        .error (.invalidPacket "ERTM frame has an invalid FCS")
      else .ok body
    | _ => .error (.panic "index out of bounds")

end Bumble.Classic
