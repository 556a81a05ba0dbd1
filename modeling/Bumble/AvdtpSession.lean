import Bumble.AvdtpMessage
import Bumble.StepRuns

/-!
# The AVDTP session (`bumble-avdtp/src/session.rs`)

The command handler of an acceptor: each local stream endpoint goes through the
states of a stream, and every change is announced by an event.  An observer that
sees the events only can follow the endpoints by replaying them, as long as every
event is one the endpoint can make in its state.
-/

namespace Bumble.Avdtp

/-! ## 1. Endpoints and the command handler -/

structure LocalEndpoint where
  seid : UInt8
  mediaType : MediaType
  endpointType : StreamEndpointType
  capabilities : List ServiceCapabilities
  configuration : List ServiceCapabilities
  state : State
  remoteSeid : Option UInt8
deriving DecidableEq, Repr

namespace LocalEndpoint

def inUse (endpoint : LocalEndpoint) : Bool := endpoint.state ≠ .idle

def info (endpoint : LocalEndpoint) : EndpointInfo :=
  ⟨endpoint.seid, endpoint.inUse, endpoint.mediaType, endpoint.endpointType⟩

def reset (endpoint : LocalEndpoint) : LocalEndpoint :=
  { endpoint with configuration := [], remoteSeid := none, state := .idle }

end LocalEndpoint

inductive SessionEvent where
  | configured (seid remoteSeid : UInt8)
  | reconfigured (seid : UInt8)
  | opened (seid : UInt8)
  | started (seid : UInt8)
  | suspended (seid : UInt8)
  | closed (seid : UInt8)
  | aborted (seid : UInt8)
  | securityControl (seid : UInt8) (data : Bytes)
  | delayReport (seid : UInt8) (delay : UInt16)
deriving DecidableEq, Repr

structure Session where
  endpoints : List LocalEndpoint
  events : List SessionEvent
deriving DecidableEq, Repr

/-- Change the first endpoint with the identifier, as `endpoint_mut` gives it out. -/
def updateEndpoint (seid : UInt8) (change : LocalEndpoint → LocalEndpoint) :
    List LocalEndpoint → List LocalEndpoint
  | [] => []
  | endpoint :: endpoints =>
    if endpoint.seid = seid then change endpoint :: endpoints
    else endpoint :: updateEndpoint seid change endpoints

namespace Session

def empty : Session := ⟨[], []⟩

/-- `None` is the panic of the 256th endpoint. -/
def addEndpoint (s : Session) (mediaType : MediaType) (endpointType : StreamEndpointType)
    (capabilities : List ServiceCapabilities) : Option (Session × UInt8) :=
  if s.endpoints.length + 1 < 256 then
    let seid := UInt8.ofNat (s.endpoints.length + 1)
    some ({ s with endpoints := s.endpoints ++
      [⟨seid, mediaType, endpointType, capabilities, [], .idle, none⟩] }, seid)
  else none

def endpoint (s : Session) (seid : UInt8) : Option LocalEndpoint :=
  s.endpoints.find? fun endpoint => endpoint.seid = seid

def takeEvents (s : Session) : Session × List SessionEvent := ({ s with events := [] }, s.events)

def update (s : Session) (seid : UInt8) (change : LocalEndpoint → LocalEndpoint) : Session :=
  { s with endpoints := updateEndpoint seid change s.endpoints }

def push (s : Session) (event : SessionEvent) : Session :=
  { s with events := s.events ++ [event] }

/-- The session after the change and whether it was made. -/
def transition (s : Session) (seid : UInt8) (source target : State) : Session × Bool :=
  match s.endpoint seid with
  | none => (s, false)
  | some endpoint =>
    if endpoint.state ≠ source then (s, false)
    else (s.update seid fun endpoint => { endpoint with state := target }, true)

def simpleReject (s : Session) (seid : UInt8) (badState : Message) : Message :=
  if (s.endpoint seid).isNone then
    match badState with
    | .openReject _ => .openReject .badAcpSeid
    | _ => badState
  else badState

def validateAll (s : Session) (seids : List UInt8) (state : State) : Option (UInt8 × ErrorCode) :=
  match seids with
  | [] => none
  | seid :: seids =>
    match s.endpoint seid with
    | none => some (seid, .badAcpSeid)
    | some endpoint =>
      if endpoint.state ≠ state then some (seid, .badState) else s.validateAll seids state

/-- The loop of Start and Suspend over the validated endpoints. -/
def moveAll (s : Session) (seids : List UInt8) (target : State) (event : UInt8 → SessionEvent) :
    Session :=
  seids.foldl (fun s seid =>
    (s.update seid fun endpoint => { endpoint with state := target }).push (event seid)) s

def handleCommand (s : Session) (command : Message) : Session × Message :=
  match command with
  | .discoverCommand => (s, .discoverResponse (s.endpoints.map LocalEndpoint.info))
  | .getCapabilitiesCommand acpSeid =>
    match s.endpoint acpSeid with
    | some endpoint => (s, .getCapabilitiesResponse endpoint.capabilities)
    | none => (s, .getCapabilitiesReject .badAcpSeid)
  | .getAllCapabilitiesCommand acpSeid =>
    match s.endpoint acpSeid with
    | some endpoint => (s, .getAllCapabilitiesResponse endpoint.capabilities)
    | none => (s, .getAllCapabilitiesReject .badAcpSeid)
  | .setConfigurationCommand acpSeid intSeid capabilities =>
    match s.endpoint acpSeid with
    | none => (s, .setConfigurationReject ⟨0⟩ .badAcpSeid)
    | some endpoint =>
      if endpoint.inUse then (s, .setConfigurationReject ⟨0⟩ .sepInUse)
      else
        ((s.update acpSeid fun endpoint => { endpoint with
            configuration := capabilities, remoteSeid := some intSeid,
            state := .configured }).push (.configured acpSeid intSeid),
          .setConfigurationResponse)
  | .getConfigurationCommand acpSeid =>
    match s.endpoint acpSeid with
    | none => (s, .getConfigurationReject .badAcpSeid)
    | some endpoint =>
      if ¬ (endpoint.state = .configured ∨ endpoint.state = .open ∨
          endpoint.state = .streaming) then
        (s, .getConfigurationReject .badState)
      else (s, .getConfigurationResponse endpoint.configuration)
  | .reconfigureCommand acpSeid capabilities =>
    match s.endpoint acpSeid with
    | none => (s, .reconfigureReject ⟨0⟩ .badAcpSeid)
    | some endpoint =>
      if endpoint.state ≠ .open then (s, .reconfigureReject ⟨0⟩ .badState)
      else
        ((s.update acpSeid fun endpoint => { endpoint with configuration := capabilities }).push
            (.reconfigured acpSeid),
          .reconfigureResponse)
  | .openCommand acpSeid =>
    match s.transition acpSeid .configured .open with
    | (s, false) => (s, s.simpleReject acpSeid (.openReject .badState))
    | (s, true) => (s.push (.opened acpSeid), .openResponse)
  | .startCommand acpSeids =>
    match s.validateAll acpSeids .open with
    | some (seid, errorCode) => (s, .startReject seid errorCode)
    | none => (s.moveAll acpSeids .streaming .started, .startResponse)
  | .suspendCommand acpSeids =>
    match s.validateAll acpSeids .streaming with
    | some (seid, errorCode) => (s, .suspendReject seid errorCode)
    | none => (s.moveAll acpSeids .open .suspended, .suspendResponse)
  | .closeCommand acpSeid =>
    match s.endpoint acpSeid with
    | none => (s, .closeReject .badAcpSeid)
    | some endpoint =>
      if ¬ (endpoint.state = .open ∨ endpoint.state = .streaming) then (s, .closeReject .badState)
      else ((s.update acpSeid LocalEndpoint.reset).push (.closed acpSeid), .closeResponse)
  | .abortCommand acpSeid =>
    match s.endpoint acpSeid with
    | none => (s, .abortResponse)
    | some _ => ((s.update acpSeid LocalEndpoint.reset).push (.aborted acpSeid), .abortResponse)
  | .securityControlCommand acpSeid data =>
    match s.endpoint acpSeid with
    | none => (s, .securityControlReject .badAcpSeid)
    | some endpoint =>
      if !endpoint.inUse then (s, .securityControlReject .badState)
      else (s.push (.securityControl acpSeid data), .securityControlResponse)
  | .delayReportCommand acpSeid delay =>
    match s.endpoint acpSeid with
    | none => (s, .delayReportReject .badAcpSeid)
    | some endpoint =>
      if !endpoint.inUse then (s, .delayReportReject .badState)
      else (s.push (.delayReport acpSeid delay), .delayReportResponse)
  | _ => (s, .generalReject)

end Session

/-! ## 2. The replay of the events -/

/-- The states an observer of the events has for the endpoints. -/
abbrev Observed := UInt8 → State

/-- One event, when the endpoint can make it in its state. -/
def observe (observed : Observed) : SessionEvent → Option Observed
  | .configured seid _ =>
    if observed seid = .idle then some (Function.update observed seid .configured) else none
  | .reconfigured seid => if observed seid = .open then some observed else none
  | .opened seid =>
    if observed seid = .configured then some (Function.update observed seid .open) else none
  | .started seid =>
    if observed seid = .open then some (Function.update observed seid .streaming) else none
  | .suspended seid =>
    if observed seid = .streaming then some (Function.update observed seid .open) else none
  | .closed seid =>
    if observed seid = .open ∨ observed seid = .streaming then
      some (Function.update observed seid .idle)
    else none
  | .aborted seid => some (Function.update observed seid .idle)
  | .securityControl _ _ => some observed
  | .delayReport _ _ => some observed

/-- The states after a list of events from all endpoints idle; `none` when one of the
    events is not legal. -/
def replay (events : List SessionEvent) : Option Observed :=
  events.foldlM observe fun _ => .idle

theorem replay_append (events later : List SessionEvent) :
    replay (events ++ later) = (replay events).bind fun observed => later.foldlM observe observed :=
  List.foldlM_append

/-! ## 3. Runs of a session -/

inductive SessionOp where
  | addEndpoint (mediaType : MediaType) (endpointType : StreamEndpointType)
    (capabilities : List ServiceCapabilities)
  | handleCommand (command : Message)
  | takeEvents
deriving DecidableEq, Repr

/-- A session with the events its owner has taken so far. -/
structure SessionHistory where
  session : Session
  taken : List SessionEvent
deriving DecidableEq, Repr

namespace SessionHistory

def start : SessionHistory := ⟨.empty, []⟩

def emitted (history : SessionHistory) : List SessionEvent :=
  history.taken ++ history.session.events

def step (history : SessionHistory) : SessionOp → Option SessionHistory
  | .addEndpoint mediaType endpointType capabilities =>
    (history.session.addEndpoint mediaType endpointType capabilities).map fun added =>
      { history with session := added.1 }
  | .handleCommand command =>
      some { history with session := (history.session.handleCommand command).1 }
  | .takeEvents =>
    some ⟨history.session.takeEvents.1, history.taken ++ history.session.takeEvents.2⟩

/-- A run; `none` when it would need more than 255 endpoints. -/
def run (ops : List SessionOp) : Option SessionHistory := ops.foldlM step start

end SessionHistory

end Bumble.Avdtp
