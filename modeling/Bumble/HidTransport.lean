import Bumble.Hid
import Bumble.ClassicReceived

/-!
# Human interface devices over L2CAP (`bumble-hid/src/l2cap.rs`)

The control and the interrupt channel of a connection, what is sent on them, and
the received messages that are taken from them together.
-/

namespace Bumble.Hid

open Bumble.Classic (ChannelManager ClassicChannel ClassicChannelState ClassicOp Grows)

def hidControlPsm : UInt32 := 0x0011
def hidInterruptPsm : UInt32 := 0x0013

/-! ## 1. The transport -/

inductive HidChannel where
  | control
  | interrupt
deriving DecidableEq, Repr

structure ReceivedMessage where
  channel : HidChannel
  message : Message
deriving DecidableEq, Repr

structure L2capTransport where
  controlCid : UInt16
  interruptCid : UInt16
  controlPeerMtu : Nat
  interruptPeerMtu : Nat
deriving DecidableEq, Repr

def validateChannel (manager : ChannelManager) (cid : UInt16) (expectedPsm : UInt32) :
    Except Error Nat :=
  match manager.channels[cid]? with
  | none => .error (.channelNotOpen cid)
  | some channel =>
    if channel.state ≠ .open_ then .error (.channelNotOpen cid)
    else if channel.psm ≠ expectedPsm then .error (.invalid "HIDP channel PSM")
    else .ok channel.peerMtu.toNat

/-- Takes the messages of one channel.  At a malformed one the loop stops: that one and those
in front of it are gone. -/
def drainReceived (channel : HidChannel) :
    List Bytes → Except Error (List ReceivedMessage) × List Bytes
  | [] => (.ok [], [])
  | pdu :: rest =>
    match Message.fromBytes pdu with
    | .error error => (.error error, rest)
    | .ok message =>
      match drainReceived channel rest with
      | (.ok messages, left) => (.ok (⟨channel, message⟩ :: messages), left)
      | (.error error, left) => (.error error, left)

namespace L2capTransport

def new (controlCid interruptCid : UInt16) (manager : ChannelManager) :
    Except Error L2capTransport := do
  let controlPeerMtu ← validateChannel manager controlCid hidControlPsm
  let interruptPeerMtu ← validateChannel manager interruptCid hidInterruptPsm
  return { controlCid, interruptCid, controlPeerMtu, interruptPeerMtu }

def cid (transport : L2capTransport) : HidChannel → UInt16
  | .control => transport.controlCid
  | .interrupt => transport.interruptCid

def peerMtu (transport : L2capTransport) : HidChannel → Nat
  | .control => transport.controlPeerMtu
  | .interrupt => transport.interruptPeerMtu

def send (transport : L2capTransport) (manager : ChannelManager) (channel : HidChannel)
    (message : Message) : Outcome ChannelManager Error Unit :=
  match message.toBytes with
  | .error error => .fail manager error
  | .ok bytes =>
    if bytes.length > transport.peerMtu channel then
      .fail manager (.invalid "HIDP message exceeds peer MTU")
    else
      let sent := manager.send (transport.cid channel) bytes
      ⟨sent.state, sent.result.mapError .l2cap⟩

def takeChannel (transport : L2capTransport) (manager : ChannelManager)
    (channel : HidChannel) : Outcome ChannelManager Error (List ReceivedMessage) :=
  match manager.channels[transport.cid channel]? with
  | none => .fail manager (.channelNotOpen (transport.cid channel))
  | some found =>
    let (result, received) := drainReceived channel found.received
    let channels := manager.channels.insert (transport.cid channel) { found with received }
    ⟨{ manager with channels }, result⟩

/-- Takes what both channels have received.  The control channel comes first, and an error in
either discards the messages of both. -/
def takeMessages (transport : L2capTransport) (manager : ChannelManager) :
    Outcome ChannelManager Error (List ReceivedMessage) :=
  (transport.takeChannel manager .control).andThen fun manager control =>
    (transport.takeChannel manager .interrupt).andThen fun manager interrupt =>
      .ok manager (control ++ interrupt)

end L2capTransport

/-! ## 2. Answers -/

/-- The octets are a request of a host, whole or cut short. -/
def IsRequest (bytes : Bytes) : Prop :=
  ∃ header ∈ bytes.head?, header >>> 4 ∈
    [MessageType.getReport, MessageType.setReport, MessageType.getProtocol,
      MessageType.setProtocol]

/-- The channel takes every SDU of at most so many octets. -/
def TakesSdus (manager : ChannelManager) (cid : UInt16) (size : Nat) : Prop :=
  ∀ sdu : Bytes, sdu.length ≤ size → (manager.send cid sdu).result = .ok ()

/-- The device makes one message of the request, to be sent on the control channel, and that
message can be sent there. -/
def Answered {δ : Type} (runtime : DeviceRuntime δ) (bytes : Bytes) : Prop :=
  ∃ message next octets, runtime.handleControl bytes = .ok ([.sendControl message], next) ∧
    message.toBytes = .ok octets ∧ octets.length ≤ runtime.controlPeerMtu ∧
    ∀ (transport : L2capTransport) (manager : ChannelManager),
      transport.controlPeerMtu = runtime.controlPeerMtu →
      TakesSdus manager transport.controlCid transport.controlPeerMtu →
      (transport.send manager .control message).result = .ok ()

/-- The request is whole, a message of one octet can be sent, and the protocol mode that the
delegate reports is shorter than that. -/
def Answerable {δ : Type} (runtime : DeviceRuntime δ) : Bytes → Prop
  | [] => False
  | header :: body =>
    1 ≤ runtime.controlPeerMtu ∧
    if header >>> 4 = MessageType.getReport then
      body.length = if header &&& 0x08 = 0 then 1 else 3
    else if header >>> 4 = MessageType.setReport then body ≠ []
    else body = [] ∧ (header >>> 4 = MessageType.getProtocol →
      ∀ mode, (runtime.delegate.getProtocol runtime.device).1 = .success mode →
        mode.length < runtime.controlPeerMtu)

section Answers

variable {δ : Type} {runtime next : DeviceRuntime δ} {header parameter : UInt8} {body : Bytes}
  {message : Message} {size : Nat}

def Encodes (message : Message) (size : Nat) : Prop :=
  ∃ octets, message.toBytes = .ok octets ∧ octets.length = size

theorem encodes_handshake {result : Handshake} (hresult : result ≤ 0x0F) :
    Encodes (.handshake result) 1 := by
  refine ⟨[MessageType.handshake <<< 4 ||| result], ?_, rfl⟩
  have hheader : ¬(MessageType.handshake > 0x0F ∨ result > 0x0F) := by
    rintro (htype | hparameter)
    · exact absurd htype (by decide)
    · exact absurd hresult (UInt8.not_le.mpr hparameter)
  exact if_neg hheader

theorem encodes_data {reportType : ReportType} (htype : reportType ≤ 0x0F) :
    Encodes (.data reportType body) (body.length + 1) := by
  refine ⟨(MessageType.data <<< 4 ||| reportType) :: body, ?_, rfl⟩
  have hheader : ¬(MessageType.data > 0x0F ∨ reportType > 0x0F) := by
    rintro (hdata | hparameter)
    · exact absurd hdata (by decide)
    · exact absurd htype (UInt8.not_le.mpr hparameter)
  exact if_neg hheader

theorem send_ok {transport : L2capTransport} {manager : ChannelManager} {octets : Bytes}
    (hencode : message.toBytes = .ok octets) (hfits : octets.length ≤ transport.controlPeerMtu)
    (hready : TakesSdus manager transport.controlCid transport.controlPeerMtu) :
    (transport.send manager .control message).result = .ok () := by
  have hsize : ¬octets.length > transport.peerMtu .control := Nat.not_lt.mpr hfits
  simp only [L2capTransport.send, hencode, if_neg hsize]
  change (manager.send transport.controlCid octets).result.mapError Error.l2cap = .ok ()
  rw [hready octets hfits]
  rfl

theorem answered_iff_fits
    (hhandle : runtime.handleControl (header :: body) = .ok ([.sendControl message], next))
    (hencodes : Encodes message size) :
    Answered runtime (header :: body) ↔ size ≤ runtime.controlPeerMtu := by
  obtain ⟨octets, hencode, rfl⟩ := hencodes
  constructor
  · rintro ⟨answer, after, written, hanswer, hwritten, hfits, -⟩
    rw [hhandle] at hanswer
    cases hanswer
    rw [hencode] at hwritten
    obtain rfl := Except.ok.inj hwritten
    exact hfits
  · intro hfits
    refine ⟨message, next, octets, hhandle, hencode, hfits, ?_⟩
    intro transport manager hmtu hready
    exact send_ok hencode (hmtu ▸ hfits) hready

theorem not_answered_of_error {error : Error}
    (hhandle : runtime.handleControl (header :: body) = .error error) :
    ¬ Answered runtime (header :: body) := by
  rintro ⟨answer, after, written, hanswer, -⟩
  rw [hhandle] at hanswer
  cases hanswer

theorem exists_encodes_reportResponse (mtu : Nat) {reportType : ReportType}
    (htype : reportType ≤ 0x0F) (reportId : UInt8) (result : GetSetStatus) :
    ∃ size, Encodes (DeviceRuntime.reportResponse mtu reportType reportId result) size ∧
      (size ≤ mtu ↔ 1 ≤ mtu) := by
  unfold DeviceRuntime.reportResponse
  split_ifs with hsuccess hfits
  · refine ⟨_, encodes_data htype, ?_⟩
    constructor
    · intro hsize
      exact (Nat.le_add_left 1 _).trans hsize
    · intro _
      exact hfits
  · exact ⟨1, encodes_handshake (by decide), Iff.rfl⟩
  · exact ⟨1, encodes_handshake (by decide), Iff.rfl⟩
  · exact ⟨1, encodes_handshake (by decide), Iff.rfl⟩
  · exact ⟨1, encodes_handshake (by decide), Iff.rfl⟩
  · exact ⟨1, encodes_handshake (by decide), Iff.rfl⟩

theorem setReportHandshake_le (result : GetSetStatus) :
    DeviceRuntime.setReportHandshake result ≤ 0x0F := by
  unfold DeviceRuntime.setReportHandshake
  split_ifs <;> decide

theorem setProtocolHandshake_le (result : GetSetStatus) :
    DeviceRuntime.setProtocolHandshake result ≤ 0x0F := by
  unfold DeviceRuntime.setProtocolHandshake
  split_ifs <;> decide

theorem reportType_le (parameter : UInt8) : parameter &&& 3 ≤ 0x0F := by
  rw [UInt8.le_iff_toNat_le, UInt8.toNat_and]
  exact Nat.and_le_right.trans (by decide)

theorem getReportFromBytes_cases (parameter : UInt8) (body : Bytes) :
    (∃ reportId bufferSize, getReportFromBytes parameter body =
        .ok (.getReport (parameter &&& 3) reportId bufferSize) ∧
      body.length = if parameter &&& 0x08 = 0 then 1 else 3) ∨
    (∃ error, getReportFromBytes parameter body = .error error ∧
      body.length ≠ if parameter &&& 0x08 = 0 then 1 else 3) := by
  by_cases hsized : parameter &&& 0x08 = 0
  · rw [if_pos hsized]
    match body with
    | [] => exact Or.inr ⟨_, rfl, by simp⟩
    | [reportId] =>
      exact Or.inl ⟨reportId, none, by simp [getReportFromBytes, hsized], by simp⟩
    | reportId :: second :: rest =>
      refine Or.inr ⟨.trailingBytes (rest.length + 1), ?_, by simp⟩
      simp [getReportFromBytes, hsized]
  · rw [if_neg hsized]
    match body with
    | [] => exact Or.inr ⟨_, rfl, by simp⟩
    | [reportId] | [reportId, low] =>
      refine Or.inr ⟨.truncated "HIDP report buffer size", ?_, by simp⟩
      simp [getReportFromBytes, hsized]
    | [reportId, low, high] =>
      refine Or.inl ⟨reportId, some (UInt16.ofNat (low.toNat + 0x100 * high.toNat)), ?_, by simp⟩
      simp [getReportFromBytes, hsized]
    | reportId :: low :: high :: extra :: rest =>
      refine Or.inr ⟨.trailingBytes (rest.length + 1), ?_, by simp⟩
      simp [getReportFromBytes, hsized]

theorem answered_getReport_iff (htype : header >>> 4 = MessageType.getReport) :
    Answered runtime (header :: body) ↔ 1 ≤ runtime.controlPeerMtu ∧
      body.length = if header &&& 0x08 = 0 then 1 else 3 := by
  have hread : Message.fromBytes (header :: body) =
      getReportFromBytes (header &&& 0x0F) body := by
    simp [Message.fromBytes, htype, MessageType.getReport, MessageType.handshake,
      MessageType.control]
  have hbit : header &&& 0x0F &&& 0x08 = header &&& 0x08 := UInt8.and_assoc ..
  rcases getReportFromBytes_cases (header &&& 0x0F) body with
    ⟨reportId, bufferSize, hbody, hlength⟩ | ⟨error, hbody, hlength⟩
  · obtain ⟨size, hencodes, hsize⟩ := exists_encodes_reportResponse runtime.controlPeerMtu
      (reportType_le (header &&& 0x0F)) reportId
      (runtime.delegate.getReport runtime.device reportId (header &&& 0x0F &&& 3) bufferSize).1
    rw [answered_iff_fits (by rw [DeviceRuntime.handleControl, hread, hbody]; rfl) hencodes,
      hsize]
    rw [hbit] at hlength
    exact (and_iff_left hlength).symm
  · rw [hbit] at hlength
    have hnot : ¬ Answered runtime (header :: body) :=
      not_answered_of_error (by rw [DeviceRuntime.handleControl, hread, hbody]; rfl)
    exact iff_of_false hnot fun hwhole => hlength hwhole.2

theorem answered_setReport_iff (htype : header >>> 4 = MessageType.setReport) :
    Answered runtime (header :: body) ↔ 1 ≤ runtime.controlPeerMtu ∧ body ≠ [] := by
  have hread : Message.fromBytes (header :: body) =
      .ok (.setReport (header &&& 0x0F &&& 3) body) := by
    simp [Message.fromBytes, htype, MessageType.getReport, MessageType.handshake,
      MessageType.control, MessageType.setReport]
  cases body with
  | nil =>
    have hnot : ¬ Answered runtime [header] :=
      not_answered_of_error (by rw [DeviceRuntime.handleControl, hread]; rfl)
    exact iff_of_false hnot fun hwhole => hwhole.2 rfl
  | cons reportId reportData =>
    rw [answered_iff_fits (by rw [DeviceRuntime.handleControl, hread]; rfl)
      (encodes_handshake (setReportHandshake_le _))]
    exact (and_iff_left nofun).symm

theorem fromBytes_empty {made : Message}
    (hread : Message.fromBytes (header :: body) = (exactEmpty body).bind fun _ => .ok made) :
    (body = [] ∧ Message.fromBytes (header :: body) = .ok made) ∨
      (body ≠ [] ∧ ∃ error, Message.fromBytes (header :: body) = .error error) := by
  rw [hread]
  cases body with
  | nil => exact Or.inl ⟨rfl, rfl⟩
  | cons first rest => exact Or.inr ⟨nofun, _, rfl⟩

theorem answered_getProtocol_iff (htype : header >>> 4 = MessageType.getProtocol) :
    Answered runtime (header :: body) ↔ 1 ≤ runtime.controlPeerMtu ∧ body = [] ∧
      ∀ mode, (runtime.delegate.getProtocol runtime.device).1 = .success mode →
        mode.length < runtime.controlPeerMtu := by
  have hread : Message.fromBytes (header :: body) =
      (exactEmpty body).bind fun _ => .ok .getProtocol := by
    simp [Message.fromBytes, htype, MessageType.getReport, MessageType.handshake,
      MessageType.control, MessageType.setReport, MessageType.getProtocol]
    rfl
  rcases fromBytes_empty hread with ⟨rfl, hmessage⟩ | ⟨hbody, error, hmessage⟩
  · have hhandle : runtime.handleControl [header] =
        .ok ([.sendControl (DeviceRuntime.protocolResponse
          (runtime.delegate.getProtocol runtime.device).1)],
          { runtime with device := (runtime.delegate.getProtocol runtime.device).2 }) := by
      rw [DeviceRuntime.handleControl, hmessage]
      rfl
    generalize (runtime.delegate.getProtocol runtime.device).1 = result at hhandle
    obtain ⟨mode, status⟩ := result
    by_cases hstatus : status = GetSetReturn.success
    · subst hstatus
      rw [answered_iff_fits hhandle (encodes_data (by decide))]
      constructor
      · intro hfits
        refine ⟨(Nat.le_add_left 1 _).trans hfits, rfl, ?_⟩
        rintro reported hreported
        cases hreported
        exact hfits
      · rintro ⟨-, -, hshort⟩
        exact hshort mode rfl
    · have hrefused : DeviceRuntime.protocolResponse ⟨mode, status⟩ =
          .handshake Handshake.errUnsupportedRequest := if_neg hstatus
      rw [hrefused] at hhandle
      rw [answered_iff_fits hhandle (encodes_handshake (by decide))]
      constructor
      · intro hfits
        refine ⟨hfits, rfl, ?_⟩
        rintro reported hreported
        cases hreported
        exact absurd rfl hstatus
      · exact And.left
  · have hnot : ¬ Answered runtime (header :: body) :=
      not_answered_of_error (by rw [DeviceRuntime.handleControl, hmessage]; rfl)
    exact iff_of_false hnot fun hwhole => hbody hwhole.2.1

theorem answered_setProtocol_iff (htype : header >>> 4 = MessageType.setProtocol) :
    Answered runtime (header :: body) ↔ 1 ≤ runtime.controlPeerMtu ∧ body = [] := by
  have hread : Message.fromBytes (header :: body) =
      (exactEmpty body).bind fun _ => .ok (.setProtocol (header &&& 0x0F &&& 1)) := by
    simp [Message.fromBytes, htype, MessageType.getReport, MessageType.handshake,
      MessageType.control, MessageType.setReport, MessageType.getProtocol,
      MessageType.setProtocol]
    rfl
  rcases fromBytes_empty hread with ⟨rfl, hmessage⟩ | ⟨hbody, error, hmessage⟩
  · rw [answered_iff_fits (by rw [DeviceRuntime.handleControl, hmessage]; rfl)
      (encodes_handshake (setProtocolHandshake_le _))]
    exact (and_iff_left rfl).symm
  · have hnot : ¬ Answered runtime (header :: body) :=
      not_answered_of_error (by rw [DeviceRuntime.handleControl, hmessage]; rfl)
    exact iff_of_false hnot fun hwhole => hbody hwhole.2

/-- **Answers.**  For every delegate, a request is answered exactly when it is answerable. -/
theorem answered_iff_answerable (runtime : DeviceRuntime δ) {bytes : Bytes}
    (hrequest : IsRequest bytes) : Answered runtime bytes ↔ Answerable runtime bytes := by
  obtain ⟨header, hheader, htype⟩ := hrequest
  cases bytes with
  | nil => cases hheader
  | cons first body =>
    obtain rfl := Option.some.inj hheader
    simp only [List.mem_cons, List.not_mem_nil, or_false] at htype
    rcases htype with htype | htype | htype | htype
    · rw [answered_getReport_iff htype, Answerable, if_pos htype]
    · rw [answered_setReport_iff htype, Answerable, if_neg (by rw [htype]; decide),
        if_pos htype]
    · rw [answered_getProtocol_iff htype, Answerable, if_neg (by rw [htype]; decide),
        if_neg (by rw [htype]; decide)]
      simp [htype]
    · rw [answered_setProtocol_iff htype, Answerable, if_neg (by rw [htype]; decide),
        if_neg (by rw [htype]; decide)]
      have hother : first >>> 4 ≠ MessageType.getProtocol := by
        rw [htype]
        decide
      simp [hother]

end Answers

/-! ## 3. Runs -/

/-- What happens to the manager: any call but the taking of an SDU, and the transport that
takes what its channels have received. -/
inductive HidCall where
  | l2cap (op : { op : ClassicOp // ∀ cid, op ≠ .popReceived cid })
  | takeMessages

def waiting (transport : L2capTransport) (manager : ChannelManager) (channel : HidChannel) :
    List Bytes :=
  (manager.channels[transport.cid channel]?).elim [] (·.received)

/-- The manager, every PDU that each channel has received, and every message that has been
taken. -/
structure HidHistory where
  manager : ChannelManager
  received : HidChannel → List Bytes
  taken : List ReceivedMessage

namespace HidHistory

def start (transport : L2capTransport) (manager : ChannelManager) : HidHistory where
  manager := manager
  received := waiting transport manager
  taken := []

def step (transport : L2capTransport) (history : HidHistory) : HidCall → HidHistory
  | .l2cap op =>
    { history with
      manager := op.val.apply history.manager
      received := fun channel => history.received channel ++
        (waiting transport (op.val.apply history.manager) channel).drop
          (waiting transport history.manager channel).length }
  | .takeMessages =>
    let call := transport.takeMessages history.manager
    { history with
      manager := call.state
      taken := history.taken ++ call.result.toOption.getD [] }

def run (transport : L2capTransport) (history : HidHistory) (calls : List HidCall) :
    HidHistory :=
  calls.foldl (step transport) history

end HidHistory

/-- The messages of the PDUs that are well formed. -/
def accepted (pdus : List Bytes) : List Message :=
  pdus.filterMap fun pdu => (Message.fromBytes pdu).toOption

def messagesOn (channel : HidChannel) (messages : List ReceivedMessage) : List Message :=
  messages.filterMap fun received =>
    if received.channel = channel then some received.message else none

/-- Every well-formed PDU that has been received has been taken once, in order, or is still
waiting. -/
def Accounted (transport : L2capTransport) (history : HidHistory) : Prop :=
  ∀ channel, messagesOn channel history.taken ++
    accepted (waiting transport history.manager channel) = accepted (history.received channel)

def WellFormed (pdu : Bytes) : Prop := ∃ message, Message.fromBytes pdu = .ok message

/-- Of the PDUs that wait, control in front of interrupt, all are well formed or the first is
not. -/
def CleanTake (transport : L2capTransport) (manager : ChannelManager) : Prop :=
  (∀ pdu ∈ waiting transport manager .control ++ waiting transport manager .interrupt,
      WellFormed pdu) ∨
    ∃ pdu ∈ (waiting transport manager .control ++
      waiting transport manager .interrupt).head?, ¬ WellFormed pdu

/-- Every taking of a run is clean in the state it meets. -/
def CleanTakes (transport : L2capTransport) : HidHistory → List HidCall → Prop
  | _, [] => True
  | history, call :: rest =>
    (call = .takeMessages → CleanTake transport history.manager) ∧
      CleanTakes transport (history.step transport call) rest

/-! ## 4. Taking messages -/

structure Connected (transport : L2capTransport) (manager : ChannelManager) : Prop where
  present : ∀ channel, ∃ found, manager.channels[transport.cid channel]? = some found
  distinct : transport.controlCid ≠ transport.interruptCid

section Takes

variable {transport : L2capTransport} {manager next : ChannelManager} {channel other : HidChannel}
  {found : ClassicChannel} {pdus good rest : List Bytes} {bad : Bytes}

@[simp] theorem accepted_nil : accepted [] = [] := rfl

@[simp] theorem accepted_append (first second : List Bytes) :
    accepted (first ++ second) = accepted first ++ accepted second := List.filterMap_append

@[simp] theorem messagesOn_append (first second : List ReceivedMessage) :
    messagesOn channel (first ++ second) = messagesOn channel first ++ messagesOn channel second :=
  List.filterMap_append

theorem accepted_cons_ok {pdu : Bytes} {message : Message}
    (hread : Message.fromBytes pdu = .ok message) :
    accepted (pdu :: rest) = message :: accepted rest :=
  List.filterMap_cons_some (by rw [hread]; rfl)

theorem accepted_cons_malformed (hbad : ¬ WellFormed bad) :
    accepted (bad :: rest) = accepted rest := by
  apply List.filterMap_cons_none
  cases hread : Message.fromBytes bad with
  | error error => rfl
  | ok message => exact absurd ⟨message, hread⟩ hbad

theorem accepted_eq_nil (hgood : ∀ pdu ∈ good, WellFormed pdu) :
    accepted good = [] ↔ good = [] := by
  cases good with
  | nil => simp
  | cons first rest =>
    obtain ⟨message, hread⟩ := hgood first (List.mem_cons_self ..)
    rw [accepted_cons_ok hread]
    simp

theorem wellFormed_or_split (pdus : List Bytes) :
    (∀ pdu ∈ pdus, WellFormed pdu) ∨
      ∃ good bad rest, pdus = good ++ bad :: rest ∧ (∀ pdu ∈ good, WellFormed pdu) ∧
        ¬ WellFormed bad := by
  induction pdus with
  | nil => simp
  | cons first rest ih =>
    by_cases hfirst : WellFormed first
    · rcases ih with hrest | ⟨good, bad, left, rfl, hgood, hbad⟩
      · exact Or.inl (List.forall_mem_cons.mpr ⟨hfirst, hrest⟩)
      · exact Or.inr ⟨first :: good, bad, left, rfl, List.forall_mem_cons.mpr ⟨hfirst, hgood⟩, hbad⟩
    · exact Or.inr ⟨[], first, rest, rfl, List.forall_mem_nil _, hfirst⟩

theorem drainReceived_wellFormed (hgood : ∀ pdu ∈ pdus, WellFormed pdu) :
    drainReceived channel pdus =
      (.ok ((accepted pdus).map fun message => ⟨channel, message⟩), []) := by
  induction pdus with
  | nil => rfl
  | cons first rest ih =>
    obtain ⟨⟨message, hread⟩, hrest⟩ := List.forall_mem_cons.mp hgood
    rw [accepted_cons_ok hread, drainReceived, hread, ih hrest]
    rfl

theorem drainReceived_malformed (hgood : ∀ pdu ∈ good, WellFormed pdu)
    (hbad : ¬ WellFormed bad) :
    ∃ error, drainReceived channel (good ++ bad :: rest) = (.error error, rest) := by
  induction good with
  | nil =>
    cases hread : Message.fromBytes bad with
    | error error => exact ⟨error, by rw [List.nil_append, drainReceived, hread]⟩
    | ok message => exact absurd ⟨message, hread⟩ hbad
  | cons first good ih =>
    obtain ⟨⟨message, hread⟩, hgood⟩ := List.forall_mem_cons.mp hgood
    obtain ⟨error, herror⟩ := ih hgood
    exact ⟨error, by rw [List.cons_append, drainReceived, hread]; simp only [herror]⟩

theorem messagesOn_map (messages : List Message) :
    messagesOn other (messages.map fun message => ⟨channel, message⟩) =
      if channel = other then messages else [] := by
  unfold messagesOn
  rw [List.filterMap_map]
  split
  next heq => simp [heq]
  next hne => simp [hne]

theorem cid_injective (hconnected : Connected transport manager) :
    transport.cid channel = transport.cid other ↔ channel = other := by
  cases channel <;> cases other <;>
    simp [L2capTransport.cid, hconnected.distinct, hconnected.distinct.symm]

theorem takeChannel_spec (hconnected : Connected transport manager) (channel : HidChannel) :
    (transport.takeChannel manager channel).result =
        (drainReceived channel (waiting transport manager channel)).1 ∧
      Connected transport (transport.takeChannel manager channel).state ∧
      ∀ other, waiting transport (transport.takeChannel manager channel).state other =
        if channel = other then (drainReceived channel (waiting transport manager channel)).2
        else waiting transport manager other := by
  obtain ⟨found, hfound⟩ := hconnected.present channel
  have hwaiting : waiting transport manager channel = found.received := by
    rw [waiting, hfound]
    rfl
  rw [hwaiting]
  simp only [L2capTransport.takeChannel, hfound]
  refine ⟨trivial, ⟨?_, hconnected.distinct⟩, ?_⟩
  · intro other
    simp only [OrderedMap.getElem?_insert]
    split
    · exact ⟨_, rfl⟩
    · exact hconnected.present other
  · intro other
    simp only [waiting, OrderedMap.getElem?_insert, cid_injective hconnected]
    split
    · rfl
    · rfl

/-- What one call of `take_messages` does to a channel: some well-formed PDUs are lost, the
messages of others are returned, and the rest stays. -/
structure Takes (transport : L2capTransport) (manager : ChannelManager)
    (call : Outcome ChannelManager Error (List ReceivedMessage))
    (lost : HidChannel → List Message) : Prop where
  connected : Connected transport call.state
  split : ∀ channel, accepted (waiting transport manager channel) =
    lost channel ++ messagesOn channel (call.result.toOption.getD []) ++
      accepted (waiting transport call.state channel)

theorem takes_of_malformed {call : Outcome ChannelManager Error (List ReceivedMessage)}
    {error : Error} (hconnected : Connected transport call.state)
    (hresult : call.result = .error error) {lost : HidChannel → List Message}
    (hlost : ∀ channel, accepted (waiting transport manager channel) =
      lost channel ++ accepted (waiting transport call.state channel)) :
    Takes transport manager call lost := by
  refine ⟨hconnected, ?_⟩
  intro channel
  rw [hresult, hlost]
  simp [Except.toOption, messagesOn]

theorem cleanTake_iff_of_malformed
    (hwaiting : waiting transport manager .control ++ waiting transport manager .interrupt =
      good ++ bad :: rest)
    (hgood : ∀ pdu ∈ good, WellFormed pdu) (hbad : ¬ WellFormed bad) :
    CleanTake transport manager ↔ accepted good = [] := by
  rw [CleanTake, hwaiting, accepted_eq_nil hgood]
  constructor
  · rintro (hall | ⟨pdu, hhead, hmalformed⟩)
    · exact absurd (hall bad (by simp)) hbad
    · cases good with
      | nil => rfl
      | cons first good =>
        obtain rfl := Option.some.inj hhead
        exact absurd (hgood _ (List.mem_cons_self ..)) hmalformed
  · rintro rfl
    exact Or.inr ⟨bad, rfl, hbad⟩

/-- A call returns what it takes but for what it loses, and it loses nothing exactly
    on a clean take. -/
theorem takeMessages_spec (hconnected : Connected transport manager) :
    ∃ lost, Takes transport manager (transport.takeMessages manager) lost ∧
      ((∀ channel, lost channel = []) ↔ CleanTake transport manager) := by
  obtain ⟨hresult, hkept, hleft⟩ := takeChannel_spec hconnected .control
  rw [L2capTransport.takeMessages]
  generalize transport.takeChannel manager .control = first at hresult hkept hleft
  obtain ⟨middle, control⟩ := first
  dsimp only at hresult hkept hleft
  have hother : waiting transport middle .interrupt = waiting transport manager .interrupt := by
    rw [hleft, if_neg (by decide)]
  rcases wellFormed_or_split (waiting transport manager .control) with
    hcontrol | ⟨good, bad, rest, hsplit, hgood, hbad⟩
  · -- the control channel is drained, and the interrupt channel decides
    rw [drainReceived_wellFormed hcontrol] at hresult hleft
    subst hresult
    have hempty : waiting transport middle .control = [] := by rw [hleft, if_pos rfl]
    obtain ⟨hresult, hkept, hleft⟩ := takeChannel_spec hkept .interrupt
    simp only [Outcome.andThen]
    generalize transport.takeChannel middle .interrupt = second at hresult hkept hleft
    obtain ⟨last, interrupt⟩ := second
    dsimp only at hresult hkept hleft
    have hdrained : waiting transport last .control = [] := by
      rw [hleft, if_neg (by decide), hempty]
    rw [hother] at hresult hleft
    rcases wellFormed_or_split (waiting transport manager .interrupt) with
      hinterrupt | ⟨good, bad, rest, hsplit, hgood, hbad⟩
    · rw [drainReceived_wellFormed hinterrupt] at hresult hleft
      subst hresult
      refine ⟨fun _ => [], ⟨hkept, ?_⟩, ?_⟩
      · have hlast : waiting transport last .interrupt = [] := by rw [hleft, if_pos rfl]
        rintro (_ | _)
        · simp [hdrained, Except.toOption, Outcome.ok, messagesOn_map]
        · simp [hlast, Except.toOption, Outcome.ok, messagesOn_map]
      · refine iff_of_true (fun _ => rfl) (Or.inl ?_)
        exact List.forall_mem_append.mpr ⟨hcontrol, hinterrupt⟩
    · obtain ⟨error, herror⟩ : ∃ error, drainReceived .interrupt (good ++ bad :: rest) =
          (.error error, rest) := drainReceived_malformed hgood hbad
      rw [hsplit, herror] at hresult hleft
      subst hresult
      have hlast : waiting transport last .interrupt = rest := by rw [hleft, if_pos rfl]
      refine ⟨fun
        | .control => accepted (waiting transport manager .control)
        | .interrupt => accepted good, takes_of_malformed hkept rfl ?_, ?_⟩
      · rintro (_ | _)
        · simp [hdrained, Outcome.fail]
        · simp [hlast, Outcome.fail, hsplit, accepted_cons_malformed hbad]
      · rw [cleanTake_iff_of_malformed (by rw [hsplit, ← List.append_assoc])
          (List.forall_mem_append.mpr ⟨hcontrol, hgood⟩) hbad, accepted_append,
          List.append_eq_nil_iff]
        constructor
        · intro hnone
          exact ⟨hnone .control, hnone .interrupt⟩
        · rintro ⟨hfirst, hsecond⟩ (_ | _)
          · exact hfirst
          · exact hsecond
  · obtain ⟨error, herror⟩ : ∃ error, drainReceived .control (good ++ bad :: rest) =
          (.error error, rest) := drainReceived_malformed hgood hbad
    rw [hsplit, herror] at hresult hleft
    subst hresult
    have hlast : waiting transport middle .control = rest := by rw [hleft, if_pos rfl]
    refine ⟨fun
      | .control => accepted good
      | .interrupt => [], takes_of_malformed hkept rfl ?_, ?_⟩
    · rintro (_ | _)
      · simp [hlast, Outcome.fail, Outcome.andThen, hsplit, accepted_cons_malformed hbad]
      · simp [hother, Outcome.fail, Outcome.andThen]
    · rw [cleanTake_iff_of_malformed (by rw [hsplit, List.append_assoc, List.cons_append])
        hgood hbad]
      constructor
      · intro hnone
        exact hnone .control
      · rintro hfirst (_ | _)
        · exact hfirst
        · rfl

end Takes

/-! ## 5. Whole runs -/

/-- What holds in every state of a run: nothing is taken that has not been received. -/
structure Within (transport : L2capTransport) (history : HidHistory) : Prop where
  connected : Connected transport history.manager
  kept : ∀ channel, (messagesOn channel history.taken ++
    accepted (waiting transport history.manager channel)).Sublist
      (accepted (history.received channel))

section Runs

variable {transport : L2capTransport} {manager next : ChannelManager} {history : HidHistory}
  {channel : HidChannel}

theorem waiting_grows (hconnected : Connected transport manager) (hgrows : Grows manager next) :
    Connected transport next ∧
      ∀ channel, waiting transport manager channel <+: waiting transport next channel := by
  refine ⟨⟨?_, hconnected.distinct⟩, ?_⟩
  · intro channel
    obtain ⟨found, hfound⟩ := hconnected.present channel
    obtain ⟨after, hafter, -⟩ := hgrows _ found hfound
    exact ⟨after, hafter⟩
  · intro channel
    obtain ⟨found, hfound⟩ := hconnected.present channel
    obtain ⟨after, hafter, hprefix⟩ := hgrows _ found hfound
    rw [waiting, waiting, hfound, hafter]
    exact hprefix

theorem step_l2cap (hwithin : Within transport history)
    (op : { op : ClassicOp // ∀ cid, op ≠ .popReceived cid }) :
    Within transport (history.step transport (.l2cap op)) ∧
      (Accounted transport (history.step transport (.l2cap op)) ↔
        Accounted transport history) := by
  obtain ⟨hconnected, hgrown⟩ := waiting_grows hwithin.connected
    (Classic.grows_apply op.val op.property history.manager)
  have hmore : ∀ channel, waiting transport (op.val.apply history.manager) channel =
      waiting transport history.manager channel ++
        (waiting transport (op.val.apply history.manager) channel).drop
          (waiting transport history.manager channel).length :=
    fun channel => (List.prefix_iff_eq_append.mp (hgrown channel)).symm
  refine ⟨⟨hconnected, ?_⟩, ?_⟩
  · intro channel
    simp only [HidHistory.step]
    rw [hmore channel, List.drop_left, accepted_append, accepted_append, ← List.append_assoc]
    exact (hwithin.kept channel).append_right _
  · apply forall_congr'
    intro channel
    simp only [HidHistory.step]
    rw [hmore channel, List.drop_left, accepted_append, accepted_append, ← List.append_assoc,
      List.append_left_inj]

theorem step_takeMessages (hwithin : Within transport history) :
    Within transport (history.step transport .takeMessages) ∧
      (Accounted transport (history.step transport .takeMessages) ↔
        Accounted transport history ∧ CleanTake transport history.manager) := by
  obtain ⟨lost, htakes, hclean⟩ := takeMessages_spec hwithin.connected
  have hless : ∀ channel, (messagesOn channel (history.step transport .takeMessages).taken ++
      accepted (waiting transport (history.step transport .takeMessages).manager channel)).Sublist
        (messagesOn channel history.taken ++
          accepted (waiting transport history.manager channel)) := by
    intro channel
    simp only [HidHistory.step, messagesOn_append, List.append_assoc, htakes.split channel]
    exact (List.sublist_append_right _ _).append_left _
  refine ⟨⟨htakes.connected, fun channel => (hless channel).trans (hwithin.kept channel)⟩, ?_⟩
  rw [← hclean]
  constructor
  · intro haccounted
    have hwas : Accounted transport history := by
      intro channel
      apply (hwithin.kept channel).eq_of_length_le
      exact (congrArg List.length (haccounted channel)).ge.trans (hless channel).length_le
    refine ⟨hwas, ?_⟩
    intro channel
    have hsame := (haccounted channel).trans (hwas channel).symm
    simp only [HidHistory.step, messagesOn_append, List.append_assoc, htakes.split channel]
      at hsame
    have hlength := congrArg List.length hsame
    simp only [List.length_append] at hlength
    exact List.eq_nil_of_length_eq_zero (by omega)
  · rintro ⟨hwas, hnone⟩ channel
    have hsplit := htakes.split channel
    rw [hnone channel, List.nil_append] at hsplit
    simp only [HidHistory.step, messagesOn_append, List.append_assoc, ← hsplit]
    exact hwas channel

theorem accounted_run_iff (calls : List HidCall) (hwithin : Within transport history) :
    Accounted transport (history.run transport calls) ↔
      Accounted transport history ∧ CleanTakes transport history calls := by
  induction calls generalizing history with
  | nil => exact (and_iff_left trivial).symm
  | cons call rest ih =>
    cases call with
    | l2cap op =>
      obtain ⟨hstep, hsame⟩ := step_l2cap hwithin op
      change Accounted transport ((history.step transport (.l2cap op)).run transport rest) ↔ _
      rw [ih hstep, hsame, CleanTakes]
      simp
    | takeMessages =>
      obtain ⟨hstep, hclean⟩ := step_takeMessages hwithin
      change Accounted transport ((history.step transport .takeMessages).run transport rest) ↔ _
      rw [ih hstep, hclean, CleanTakes, and_assoc]
      simp

theorem validateChannel_present {cid : UInt16} {psm : UInt32} {mtu : Nat}
    (hvalid : validateChannel manager cid psm = .ok mtu) :
    ∃ found, manager.channels[cid]? = some found ∧ found.psm = psm := by
  unfold validateChannel at hvalid
  split at hvalid
  · cases hvalid
  next found hfound =>
    split at hvalid
    · cases hvalid
    split at hvalid
    · cases hvalid
    next hpsm => exact ⟨found, hfound, not_not.mp hpsm⟩

theorem connected_of_new {controlCid interruptCid : UInt16}
    (hnew : L2capTransport.new controlCid interruptCid manager = .ok transport) :
    Connected transport manager := by
  obtain ⟨controlPeerMtu, hcontrol, hnew⟩ := except_bind_eq_ok hnew
  obtain ⟨interruptPeerMtu, hinterrupt, hnew⟩ := except_bind_eq_ok hnew
  obtain rfl := Except.ok.inj hnew
  obtain ⟨control, hget, hpsm⟩ := validateChannel_present hcontrol
  obtain ⟨interrupt, hget', hpsm'⟩ := validateChannel_present hinterrupt
  constructor
  · rintro (_ | _)
    · exact ⟨control, hget⟩
    · exact ⟨interrupt, hget'⟩
  · rintro heq
    have hsame : controlCid = interruptCid := heq
    subst hsame
    rw [hget] at hget'
    obtain rfl := Option.some.inj hget'
    rw [hpsm] at hpsm'
    exact absurd hpsm' (by decide)

theorem accounted_iff_clean {controlCid interruptCid : UInt16}
    (hnew : L2capTransport.new controlCid interruptCid manager = .ok transport)
    (calls : List HidCall) :
    Accounted transport ((HidHistory.start transport manager).run transport calls) ↔
      CleanTakes transport (HidHistory.start transport manager) calls := by
  have hstart : Accounted transport (HidHistory.start transport manager) := fun channel => rfl
  have hwithin : Within transport (HidHistory.start transport manager) :=
    ⟨connected_of_new hnew, fun channel => List.Sublist.refl _⟩
  rw [accounted_run_iff calls hwithin]
  exact and_iff_right hstart

/-- **Requests and messages of a device.**  A request is answered exactly when it is whole,
one octet can be sent, and a protocol mode that the delegate reports fits.  A run of the
transport takes every well-formed PDU once exactly when at every taking the PDUs that wait
are all well formed or the first one is not. -/
theorem answered_and_accounted_iff {δ : Type} (runtime : DeviceRuntime δ) {bytes : Bytes}
    (hrequest : IsRequest bytes) {controlCid interruptCid : UInt16}
    (hnew : L2capTransport.new controlCid interruptCid manager = .ok transport)
    (calls : List HidCall) :
    (Answered runtime bytes ↔ Answerable runtime bytes) ∧
      (Accounted transport ((HidHistory.start transport manager).run transport calls) ↔
        CleanTakes transport (HidHistory.start transport manager) calls) :=
  ⟨answered_iff_answerable runtime hrequest, accounted_iff_clean hnew calls⟩

/-- A device that reports its protocol mode. -/
def testDevice : DeviceRuntime Unit :=
  ⟨{ getProtocol := fun device => (.success [0x01], device) }, (), 48⟩

def testChannel (psm : UInt32) (cid : UInt16) (received : List Bytes) : ClassicChannel :=
  { ClassicChannel.newIncoming psm cid cid (.basic {}) with state := .open_, received }

/-- What has come on the interrupt channel of an open transport. -/
def testManager (reports : List Bytes) : ChannelManager where
  channels := ((∅ : Std.ExtTreeMap UInt16 ClassicChannel).insert 0x40
    (testChannel hidControlPsm 0x40 [])).insert 0x41
      (testChannel hidInterruptPsm 0x41 reports)

def testTransport : L2capTransport := ⟨0x40, 0x41, 48, 48⟩

theorem new_testTransport (reports : List Bytes) :
    L2capTransport.new 0x40 0x41 (testManager reports) = .ok testTransport := rfl

/-- Two reports are taken, a third one comes and is taken too. -/
def testCalls : List HidCall :=
  [.takeMessages, .l2cap ⟨.processPdu ⟨0x41, [0xA1, 0x09]⟩, fun _ => nofun⟩, .takeMessages]

def testHistory : HidHistory :=
  .start testTransport (testManager [[0xA1, 0x07], [0xA1, 0x08]])

theorem wellFormed_of_all {pdus : List Bytes}
    (hall : pdus.all fun pdu => (Message.fromBytes pdu).isOk) : ∀ pdu ∈ pdus, WellFormed pdu := by
  intro pdu hmem
  have hok := List.all_eq_true.mp hall pdu hmem
  cases hmessage : Message.fromBytes pdu with
  | ok message => exact ⟨message, hmessage⟩
  | error error => simp [hmessage, Except.isOk, Except.toBool] at hok

theorem getProtocol_answered :
    Answered testDevice [0x60] ∧ Accounted testTransport (testHistory.run testTransport testCalls) ∧
      (testHistory.run testTransport testCalls).taken.length = 3 := by
  have hrequest : IsRequest [0x60] := ⟨0x60, rfl, by decide⟩
  obtain ⟨hanswered, haccounted⟩ := answered_and_accounted_iff testDevice hrequest
    (new_testTransport [[0xA1, 0x07], [0xA1, 0x08]]) testCalls
  refine ⟨hanswered.mpr ?_, haccounted.mpr ?_, by decide⟩
  · refine ⟨by decide, rfl, ?_⟩
    rintro - mode hmode
    cases hmode
    decide
  · exact ⟨fun _ => .inl (wellFormed_of_all (by decide)), nofun,
      fun _ => .inl (wellFormed_of_all (by decide)), trivial⟩

/-- Get Report without a report ID is not answered, and the report is lost with the empty PDU
behind it. -/
theorem getReport_unanswered_and_report_lost :
    ¬ Answered testDevice [0x40] ∧
      ¬ Accounted testTransport
        ((HidHistory.start testTransport (testManager [[0xA1, 0x07], []])).run
        testTransport [.takeMessages]) := by
  constructor
  · exact not_answered_of_error rfl
  · intro haccounted
    exact absurd (haccounted .interrupt) (by decide)

end Runs

end Bumble.Hid
