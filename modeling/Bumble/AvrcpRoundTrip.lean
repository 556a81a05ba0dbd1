import Bumble.AvctpRoundTrip
import Bumble.AvrcpAnswers
import Bumble.AvrcpCodec

/-!
# AVRCP commands and replies through the whole stack

A command is encoded, fragmented into vendor PDUs, framed and cut into AVCTP packets.  The peer
puts the packets together, then the fragments, and decodes the same command; the reply comes
back the same way.
-/

namespace Bumble.Avrcp

open Avc (CommandType ResponseCode SubunitType Frame FrameBody)
open Avctp (Message MessageAssembler)

/-! ## 1. Frames and vendor PDUs -/

theorem PacketType.fromByte_toByte (packetType : PacketType) :
    fromByte packetType.toByte = packetType := by
  cases packetType <;> rfl

theorem VendorPdu.fromBytes_octets {pdu : VendorPdu} (hlength : pdu.parameters.length < 65536) :
    fromBytes pdu.octets = .ok pdu := by
  have hcount : (UInt16.ofNat pdu.parameters.length).toNat = pdu.parameters.length := by
    rw [UInt16.toNat_ofNat']
    exact Nat.mod_eq_of_lt hlength
  have hdeclared : beToNat (natToBe 2 (UInt16.ofNat pdu.parameters.length).toNat) =
      pdu.parameters.length := by
    rw [beToNat_natToBe 2 (UInt16.toNat_lt _), hcount]
  change (if beToNat (natToBe 2 (UInt16.ofNat pdu.parameters.length).toNat) ≠
    pdu.parameters.length then _ else _) = _
  rw [hdeclared, if_neg (by simp), PacketType.fromByte_toByte]
  rfl

def vendorFrame (category : UInt8) (pdu : VendorPdu) : Frame :=
  if category < 8 then
    .command category SubunitType.panel 0 (.vendorDependent bluetoothSigCompanyId pdu.octets)
  else .response category SubunitType.panel 0 (.vendorDependent bluetoothSigCompanyId pdu.octets)

theorem fromBytes_vendorPayload {category : UInt8} (hcategory : category ≤ 0x0F)
    (pdu : VendorPdu) : Frame.fromBytes (vendorPayload category pdu) =
      .ok (vendorFrame category pdu) := by
  have hbits : category >>> 4 = 0 ∧ category &&& 0x0F = category := by
    revert category
    set_option maxRecDepth 30000 in decide
  rw [vendorPayload, Frame.fromBytes, hbits.1, hbits.2, if_neg (by decide), if_neg (by decide)]
  change (if category < 8 then _ else _) = _
  rw [vendorFrame]
  split <;> rfl

/-! ## 2. Fragments -/

theorem PduAssembler.accept_complete {assembler next : PduAssembler} {pdu : VendorPdu}
    {complete : PduId × Bytes} (haccept : assembler.accept pdu = (next, some complete)) :
    next = ⟨none⟩ := by
  unfold accept at haccept
  split at haccept
  · cases haccept
    rfl
  · cases haccept
  · split at haccept
    · cases haccept
    · split at haccept <;> cases haccept
  · split at haccept
    · cases haccept
    · split at haccept
      · cases haccept
      · cases haccept
        rfl

def laterFragments (pduId : PduId) : List Bytes → List VendorPdu
  | [] => []
  | chunk :: later =>
    ⟨pduId, if later = [] then .end else .continue, chunk⟩ :: laterFragments pduId later

theorem mapIdx_fragmentType (pduId : PduId) (chunks : List Bytes) : ∀ {index : Nat}, 0 < index →
    (chunks.mapIdx fun offset chunk => (⟨pduId,
      fragmentType (offset + index) (index + chunks.length), chunk⟩ : VendorPdu)) =
      laterFragments pduId chunks := by
  induction chunks with
  | nil =>
    intro index _
    rfl
  | cons chunk later ih =>
    intro index hindex
    have hlater := ih (Nat.succ_pos index)
    rw [List.mapIdx_cons, laterFragments, List.length_cons, Nat.zero_add]
    congr 1
    · rw [fragmentType, if_neg hindex.ne']
      cases later with
      | nil => rw [List.length_nil, if_pos rfl, if_pos rfl]
      | cons next later =>
        rw [if_neg (by simp only [List.length_cons]; omega), if_neg (by simp)]
    · rw [← hlater]
      congr 1
      funext offset other
      congr 2 <;> omega

theorem fragmentPdu_long (pduId : PduId) {parameters : Bytes} {maxParameters : Nat}
    (hmax : 0 < maxParameters) (hlong : maxParameters < parameters.length) :
    ∃ chunk later, later ≠ [] ∧ chunk ++ later.flatten = parameters ∧
      fragmentPdu pduId parameters maxParameters =
        .ok (⟨pduId, .start, chunk⟩ :: laterFragments pduId later) := by
  have hcount := length_chunks hmax parameters
  have hflatten := flatten_chunks hmax parameters
  rw [fragmentPdu, if_neg hmax.ne', if_neg (Nat.not_le.mpr hlong)]
  dsimp only
  rw [← hcount]
  have hmany : 2 ≤ (chunks maxParameters parameters).length := by
    rw [hcount, Nat.le_div_iff_mul_le hmax]
    omega
  cases hchunks : chunks maxParameters parameters with
  | nil =>
    rw [hchunks] at hmany
    exact absurd hmany (by simp)
  | cons chunk later =>
    rw [hchunks] at hmany hflatten
    refine ⟨chunk, later, ?_, hflatten, ?_⟩
    · rintro rfl
      exact absurd hmany (by simp)
    · rw [List.mapIdx_cons, ← mapIdx_fragmentType pduId later Nat.one_pos, List.length_cons,
        Nat.add_comm]
      rfl

/-- Feed elements one after the other and collect what they return. -/
def feedAll {σ ε α β : Type} (feed : σ → α → Outcome σ ε (List β)) (state : σ) :
    List α → Outcome σ ε (List β)
  | [] => .ok state []
  | value :: values =>
    (feed state value).andThen fun state first =>
      (feedAll feed state values).andThen fun state later => .ok state (first ++ later)

section Fragments

variable {σ β : Type} {feed : σ → VendorPdu → Outcome σ Error (List β)}
  {state : PduAssembler → Bool → σ} {final : PduId → Bytes → Outcome σ Error (List β)}

/-- A receiver of fragments: its assembler takes each, and a complete PDU is passed on. -/
def Receives (feed : σ → VendorPdu → Outcome σ Error (List β)) (state : PduAssembler → Bool → σ)
    (final : PduId → Bytes → Outcome σ Error (List β)) : Prop :=
  ∀ assembler busy pdu, pdu.parameters.length < 65536 →
    feed (state assembler busy) pdu =
      match assembler.accept pdu with
      | (next, none) => .ok (state next true) []
      | (_, some (pduId, parameters)) => final pduId parameters

theorem feedAll_singleton {σ ε α β : Type} (feed : σ → α → Outcome σ ε (List β)) (state : σ)
    (value : α) : feedAll feed state [value] = feed state value := by
  rw [feedAll]
  generalize feed state value = outcome
  obtain ⟨next, result⟩ := outcome
  cases result with
  | error error => rfl
  | ok events =>
    change Outcome.ok next (events ++ []) = _
    rw [List.append_nil]
    rfl

theorem feedAll_ok_nil {σ ε α β : Type} {feed : σ → α → Outcome σ ε (List β)} {state next : σ}
    {value : α} (hfeed : feed state value = .ok next []) (values : List α) :
    feedAll feed state (value :: values) = feedAll feed next values := by
  rw [feedAll, hfeed, Outcome.ok_andThen]
  generalize feedAll feed next values = outcome
  obtain ⟨last, result⟩ := outcome
  cases result <;> rfl

theorem feedAll_later (hreceives : Receives feed state final) (pduId : PduId)
    (chunks : List Bytes) (hchunks : chunks ≠ []) : ∀ (parameters : Bytes),
    (∀ chunk ∈ chunks, chunk.length < 65536) →
    feedAll feed (state ⟨some (pduId, parameters)⟩ true) (laterFragments pduId chunks) =
      final pduId (parameters ++ chunks.flatten) := by
  induction chunks with
  | nil => exact absurd rfl hchunks
  | cons chunk later ih =>
    intro parameters hlengths
    have hone := hreceives ⟨some (pduId, parameters)⟩ true
      ⟨pduId, if later = [] then .end else .continue, chunk⟩ (hlengths chunk List.mem_cons_self)
    rw [laterFragments]
    by_cases hlast : later = []
    · subst hlast
      rw [if_pos rfl, PduAssembler.accept] at hone
      simp only [ne_eq, not_true_eq_false, if_false] at hone
      rw [if_pos rfl, laterFragments, feedAll_singleton, hone, List.flatten_cons,
        List.flatten_nil, List.append_nil]
    · rw [if_neg hlast, PduAssembler.accept] at hone
      simp only [ne_eq, not_true_eq_false, if_false] at hone
      rw [if_neg hlast, feedAll_ok_nil hone, ih hlast (parameters ++ chunk) (fun other hother =>
        hlengths other (List.mem_cons_of_mem _ hother)), List.flatten_cons, List.append_assoc]

theorem feedAll_fragments (hreceives : Receives feed state final) {pduId : PduId}
    {parameters : Bytes} {maxParameters : Nat} {fragments : List VendorPdu}
    (hfragments : fragmentPdu pduId parameters maxParameters = .ok fragments)
    (hlengths : ∀ fragment ∈ fragments, fragment.parameters.length < 65536) :
    feedAll feed (state ⟨none⟩ false) fragments = final pduId parameters := by
  have hmax : 0 < maxParameters := by
    rw [Nat.pos_iff_ne_zero]
    rintro rfl
    cases hfragments
  by_cases hlong : maxParameters < parameters.length
  · obtain ⟨chunk, later, hlater, hparts, hcut⟩ := fragmentPdu_long pduId hmax hlong
    rw [hcut] at hfragments
    cases hfragments
    have hfirst := hreceives ⟨none⟩ false ⟨pduId, .start, chunk⟩ (hlengths _ List.mem_cons_self)
    have hchunks : ∀ (chunks : List Bytes),
        (∀ fragment ∈ laterFragments pduId chunks, fragment.parameters.length < 65536) →
        ∀ chunk ∈ chunks, chunk.length < 65536 := by
      intro chunks
      induction chunks with
      | nil =>
        intro _ chunk hchunk
        cases hchunk
      | cons head tail ih =>
        intro hall chunk hchunk
        rw [laterFragments] at hall
        rcases List.mem_cons.mp hchunk with rfl | hchunk
        · exact hall _ List.mem_cons_self
        · exact ih (fun other hother => hall other (List.mem_cons_of_mem _ hother)) chunk hchunk
    rw [feedAll_ok_nil hfirst, feedAll_later hreceives pduId later hlater chunk
      (hchunks later fun other hother => hlengths other (List.mem_cons_of_mem _ hother)), hparts]
  · rw [fragmentPdu, if_neg hmax.ne', if_pos (Nat.not_lt.mp hlong)] at hfragments
    cases hfragments
    have hone := hreceives ⟨none⟩ false ⟨pduId, .single, parameters⟩
      (hlengths _ List.mem_cons_self)
    rw [feedAll_singleton, hone]
    rfl

end Fragments

/-! ## 3. Peers -/

/-- A runtime behind the reassembly of AVCTP packets. -/
structure Peer (δ : Type) where
  assembler : MessageAssembler
  runtime : Runtime δ

namespace Peer

variable {δ : Type} [Delegate δ]

/-- Push the packets and handle each message when it is complete. -/
def receive (peer : Peer δ) : List Bytes → Outcome (Peer δ) Error (List RuntimeEvent)
  | [] => .ok peer []
  | pdu :: pdus =>
    let (assembler, completed) := peer.assembler.push pdu
    match completed with
    | none => receive { peer with assembler } pdus
    | some message =>
      ((peer.runtime.handleMessage message).mapState fun runtime =>
        Peer.mk assembler runtime).andThen
        fun peer first => (receive peer pdus).andThen fun peer later => .ok peer (first ++ later)

theorem receive_result (pdus : List Bytes) : ∀ (assembler : MessageAssembler) (runtime : Runtime δ),
    (receive ⟨assembler, runtime⟩ pdus).result =
      (feedAll Runtime.handleMessage runtime (assembler.pushAll pdus).2).result := by
  induction pdus with
  | nil =>
    intro assembler runtime
    rfl
  | cons pdu pdus ih =>
    intro assembler runtime
    cases hpush : assembler.push pdu with
    | mk next completed =>
      rw [MessageAssembler.pushAll_cons hpush]
      cases completed with
      | none =>
        rw [receive, hpush]
        exact ih next runtime
      | some message =>
        rw [receive, hpush]
        simp only [Option.toList_some, List.singleton_append]
        rw [feedAll]
        generalize runtime.handleMessage message = outcome
        obtain ⟨handled, result⟩ := outcome
        cases result with
        | error error => rfl
        | ok first =>
          have hlater := ih next handled
          change ((receive ⟨next, handled⟩ pdus).andThen fun peer later =>
            (.ok peer (first ++ later) : Outcome (Peer δ) Error (List RuntimeEvent))).result =
              ((feedAll Runtime.handleMessage handled (next.pushAll pdus).2).andThen
                fun state later => (.ok state (first ++ later) :
                  Outcome (Runtime δ) Error (List RuntimeEvent))).result
          rw [Outcome.andThen, Outcome.andThen, hlater]
          cases (feedAll Runtime.handleMessage handled (next.pushAll pdus).2).result <;> rfl

end Peer

theorem pushAll_append (first later : List Bytes) : ∀ assembler : MessageAssembler,
    (assembler.pushAll (first ++ later)).2 =
      (assembler.pushAll first).2 ++ ((assembler.pushAll first).1.pushAll later).2 := by
  induction first with
  | nil =>
    intro assembler
    rfl
  | cons pdu first ih =>
    intro assembler
    cases hpush : assembler.push pdu with
    | mk next completed =>
      rw [List.cons_append, MessageAssembler.pushAll_cons hpush,
        MessageAssembler.pushAll_cons hpush, ih next, List.append_assoc]

theorem pushAll_messages {mtu : Nat} {messages : List Message} {pdus : List (List Bytes)}
    (hpdus : messages.mapM (·.encodePdus mtu) = .ok pdus) : ∀ assembler : MessageAssembler,
    (assembler.pushAll pdus.flatten).2 = messages := by
  have heach := except_mapM_eq_ok hpdus
  clear hpdus
  induction heach with
  | nil =>
    intro assembler
    rfl
  | cons hfirst _ ih =>
    intro assembler
    rw [List.flatten_cons, pushAll_append, MessageAssembler.pushAll_encodePdus assembler hfirst,
      ih ⟨none⟩]
    rfl

/-! ## 4. Commands -/

theorem feedAll_map {σ ε α β γ : Type} (feed : σ → β → Outcome σ ε (List γ)) (f : α → β)
    (values : List α) : ∀ state : σ,
    feedAll feed state (values.map f) =
      feedAll (fun state value => feed state (f value)) state values := by
  induction values with
  | nil =>
    intro state
    rfl
  | cons value values ih =>
    intro state
    rw [List.map_cons, feedAll, feedAll]
    congr 1
    funext next first
    rw [ih next]

namespace Runtime

variable {δ : Type}

theorem vendorMessage_command (label : UInt8) (commandType : CommandType) (pdu : VendorPdu) :
    vendorMessage .command (.command commandType) label pdu =
      if pdu.parameters.length < 65536 then
        if commandType > 0x0F then .error (.avc (.invalid "AV/C header field"))
        else .ok (.command label avrcpPid (vendorPayload commandType pdu))
      else .error .parametersTooLong :=
  vendorMessage_eq .command (fun _ _ _ => rfl) label pdu

theorem mapM_vendorMessage_eq_ok {message : UInt8 → UInt16 → Bytes → Message}
    {frame : SubunitType → UInt16 → FrameBody → Frame} {category label : UInt8}
    (hone : ∀ pdu, vendorMessage message frame label pdu =
      if pdu.parameters.length < 65536 then
        if category > 0x0F then .error (.avc (.invalid "AV/C header field"))
        else .ok (message label avrcpPid (vendorPayload category pdu))
      else .error .parametersTooLong)
    {fragments : List VendorPdu} {messages : List Message}
    (hmessages : fragments.mapM (vendorMessage message frame label) = .ok messages) :
    messages = fragments.map (fun pdu => message label avrcpPid (vendorPayload category pdu)) ∧
      ∀ pdu ∈ fragments, pdu.parameters.length < 65536 := by
  have heach := except_mapM_eq_ok hmessages
  clear hmessages
  induction heach with
  | nil => exact ⟨rfl, fun pdu hpdu => by cases hpdu⟩
  | @cons pdu first fragments later hfirst _ ih =>
    rw [hone] at hfirst
    split at hfirst
    · next hlength =>
      split at hfirst
      · cases hfirst
      · cases hfirst
        refine ⟨by rw [List.map_cons, ih.1], ?_⟩
        intro other hother
        rcases List.mem_cons.mp hother with rfl | hother
        · exact hlength
        · exact ih.2 other hother
    · cases hfirst

section Command

variable [Delegate δ]

theorem handleMessage_command (runtime : Runtime δ) {commandType : CommandType}
    (htype : commandType < 8) (label : UInt8) (pdu : VendorPdu) :
    runtime.handleMessage (.command label avrcpPid (vendorPayload commandType pdu)) =
      runtime.receiveCommandPdu label commandType pdu.octets := by
  have hnibble : commandType ≤ 0x0F := UInt8.le_of_lt (UInt8.lt_trans htype (by decide))
  rw [handleMessage, if_neg (by simp [Message.command]), if_neg (by simp [Message.command])]
  have hpayload : (Message.command label avrcpPid (vendorPayload commandType pdu)).payload =
      vendorPayload commandType pdu := rfl
  rw [hpayload, fromBytes_vendorPayload hnibble, vendorFrame, if_pos htype]
  change runtime.handleCommandFrame label (.command commandType SubunitType.panel 0
    (.vendorDependent bluetoothSigCompanyId pdu.octets)) = _
  rw [handleCommandFrame, if_neg (by decide), if_neg (by decide)]

theorem receives_command (runtime : Runtime δ) {commandType : CommandType}
    (htype : commandType < 8) (label : UInt8) :
    Receives
      (fun runtime pdu =>
        runtime.handleMessage (.command label avrcpPid (vendorPayload commandType pdu)))
      (fun assembler busy => { runtime with
        commandAssembler := assembler
        incomingCommand := if busy then some (label, commandType) else none })
      ({ runtime with commandAssembler := ⟨none⟩, incomingCommand := none }.answerCommand label
        commandType) := by
  intro assembler busy pdu hlength
  dsimp only
  have hclear : ¬((if busy then some (label, commandType) else none) ≠ none ∧
      (if busy then some (label, commandType) else none) ≠ some (label, commandType)) := by
    cases busy <;> simp
  rw [handleMessage_command _ htype, receiveCommandPdu, if_neg hclear, PduAssembler.push,
    VendorPdu.fromBytes_octets hlength]
  dsimp only
  rcases haccept : assembler.accept pdu with ⟨next, _ | ⟨pduId, parameters⟩⟩
  · rfl
  · obtain rfl := PduAssembler.accept_complete haccept
    rfl

end Command

/-! ## 5. Responses -/

theorem expected_bounds {responseCode : ResponseCode}
    (hcode : responseCode ∈ expectedResponseCodes) :
    ¬ responseCode < 8 ∧ responseCode ≤ 0x0F := by
  revert responseCode
  set_option maxRecDepth 30000 in decide

theorem handleMessage_response [Delegate δ] (runtime : Runtime δ) {responseCode : ResponseCode}
    (hcode : responseCode ∈ expectedResponseCodes) {label : UInt8} {expected : PduId}
    (hpending : runtime.pending[label]? = some (.vendor expected)) (pdu : VendorPdu) :
    runtime.handleMessage (.response label avrcpPid (vendorPayload responseCode pdu)) =
      runtime.receiveResponsePdu label responseCode expected pdu.octets := by
  obtain ⟨hresponse, hnibble⟩ := expected_bounds hcode
  rw [handleMessage, if_neg (by simp [Message.response]), if_neg (by simp [Message.response])]
  have hpayload : (Message.response label avrcpPid (vendorPayload responseCode pdu)).payload =
      vendorPayload responseCode pdu := rfl
  rw [hpayload, fromBytes_vendorPayload hnibble, vendorFrame, if_neg hresponse]
  change runtime.handleResponseFrame label (.response responseCode SubunitType.panel 0
    (.vendorDependent bluetoothSigCompanyId pdu.octets)) = _
  rw [handleResponseFrame, hpending]
  dsimp only
  rw [if_neg (not_not_intro hcode), if_neg (by decide)]

theorem receives_response [Delegate δ] (runtime : Runtime δ) {responseCode : ResponseCode}
    (hcode : responseCode ∈ expectedResponseCodes) {label : UInt8} {expected : PduId}
    (hpending : runtime.pending[label]? = some (.vendor expected)) :
    Receives
      (fun runtime pdu =>
        runtime.handleMessage (.response label avrcpPid (vendorPayload responseCode pdu)))
      (fun assembler busy => { runtime with
        responseAssembler := assembler
        incomingResponse := if busy then some (label, responseCode) else none })
      ({ runtime with responseAssembler := ⟨none⟩, incomingResponse := none }.completeResponse label
        responseCode expected) := by
  intro assembler busy pdu hlength
  dsimp only
  have hclear : ¬((if busy then some (label, responseCode) else none) ≠ none ∧
      (if busy then some (label, responseCode) else none) ≠ some (label, responseCode)) := by
    cases busy <;> simp
  rw [handleMessage_response { runtime with
    responseAssembler := assembler
    incomingResponse := if busy then some (label, responseCode) else none } hcode hpending,
    receiveResponsePdu, if_neg hclear, PduAssembler.push, VendorPdu.fromBytes_octets hlength]
  dsimp only
  rcases haccept : assembler.accept pdu with ⟨next, _ | ⟨pduId, parameters⟩⟩
  · rfl
  · obtain rfl := PduAssembler.accept_complete haccept
    rfl

end Runtime

/-! ## 6. Replies of a basic target -/

/-- A reply is for its PDU and is decoded from its parameters. -/
structure Faithful (pduId : PduId) (reply : CommandReply) : Prop where
  answers : reply.response.pduId = pduId
  code : reply.responseCode ∈ Runtime.expectedResponseCodes
  decodes : ∀ parameters, reply.response.toParameters = .ok parameters →
    Runtime.decodeResponse reply.responseCode pduId parameters = .ok reply.response

theorem faithful_rejected (pduId : PduId) (status : StatusCode) :
    Faithful pduId ⟨ResponseCode.rejected, .rejected pduId status⟩ where
  answers := rfl
  code := by
    change ResponseCode.rejected ∈ Runtime.expectedResponseCodes
    decide
  decodes := by
    intro parameters hparameters
    cases hparameters
    rfl

theorem faithful_notImplemented (command : Command) :
    Faithful command.pduId (BasicDelegate.notImplemented command) where
  answers := rfl
  code := by
    change ResponseCode.notImplemented ∈ Runtime.expectedResponseCodes
    decide
  decodes := by
    intro parameters hparameters
    cases hparameters
    rfl

theorem faithful_composed {response : Response} (hcomposed : response.Composed)
    {responseCode : ResponseCode} (hcode : responseCode ∈ Runtime.expectedResponseCodes)
    (hrejected : responseCode ≠ ResponseCode.rejected)
    (hnotImplemented : responseCode ≠ ResponseCode.notImplemented) :
    Faithful response.pduId ⟨responseCode, response⟩ where
  answers := rfl
  code := hcode
  decodes := by
    intro parameters hparameters
    rw [Runtime.decodeResponse.eq_def, if_neg hrejected, if_neg hnotImplemented]
    exact Response.fromParameters_toParameters hcomposed hparameters

theorem faithful_stable {response : Response} (hcomposed : response.Composed) :
    Faithful response.pduId (.stable response) :=
  faithful_composed hcomposed (by decide) (by decide) (by decide)

namespace BasicDelegate

theorem currentEvent_known {delegate : BasicDelegate} {eventId : EventId} {event : Event}
    (hevent : delegate.currentEvent eventId = some event) : event.Known := by
  unfold currentEvent at hevent
  split at hevent
  · cases hevent
    exact trivial
  · cases hevent
    exact trivial
  · cases hevent
    exact trivial
  · cases hevent
    exact trivial
  · cases hevent
    exact trivial
  · cases hevent
    exact trivial
  · cases hevent
    exact trivial
  · cases hevent
    exact trivial
  · cases hevent

theorem handleCommand_currentSettings (delegate : BasicDelegate)
    (attributes : List ApplicationSettingAttributeId) :
    delegate.handleCommand (.getCurrentPlayerApplicationSettingValue attributes) =
      match delegate.currentSettings attributes with
      | some settings => (delegate, Except.ok (CommandReply.stable
        (.getCurrentPlayerApplicationSettingValue settings)))
      | none => (delegate, .ok
        (notImplemented (.getCurrentPlayerApplicationSettingValue attributes))) := rfl

theorem handleCommand_registerNotification (delegate : BasicDelegate) (eventId : EventId)
    (playbackInterval : UInt32) :
    delegate.handleCommand (.registerNotification eventId playbackInterval) =
      if eventId ∉ delegate.supportedEvents then
        (delegate, Except.ok (notImplemented (.registerNotification eventId playbackInterval)))
      else match delegate.currentEvent eventId with
        | some event => (delegate, .ok (.interim (.registerNotification event)))
        | none => (delegate, .error StatusCode.invalidParameter) := rfl

/-- Every reply of the basic target is for its PDU and decodes. -/
theorem handleCommand_faithful {delegate : BasicDelegate} {command : Command}
    {reply : CommandReply} (hreply : (delegate.handleCommand command).2 = .ok reply) :
    Faithful command.pduId reply := by
  cases command with
  | getCapabilities capabilityId =>
    change (if capabilityId = CapabilityId.eventsSupported then
      (delegate, Except.ok (CommandReply.stable (.getCapabilities capabilityId
        (delegate.supportedEvents.map .event))))
      else if capabilityId = CapabilityId.companyId then
        (delegate, Except.ok (CommandReply.stable (.getCapabilities capabilityId
          (delegate.supportedCompanyIds.map .companyId))))
      else (delegate, .error StatusCode.invalidParameter)).2 = _ at hreply
    split at hreply
    · next hevents =>
      cases hreply
      rw [hevents]
      exact faithful_stable (.events _)
    · split at hreply
      · next hcompany =>
        cases hreply
        rw [hcompany]
        exact faithful_stable (.companyIds _)
      · cases hreply
  | setAbsoluteVolume volume =>
    cases hreply
    exact faithful_composed (.volume volume) (by decide) (by decide) (by decide)
  | getPlayStatus =>
    cases hreply
    exact faithful_stable (.playStatus _ _ _)
  | listPlayerApplicationSettingAttributes =>
    cases hreply
    exact faithful_stable (.attributes _)
  | listPlayerApplicationSettingValues attributeId =>
    cases hreply
    exact faithful_stable (.values _)
  | getCurrentPlayerApplicationSettingValue attributes =>
    rw [handleCommand_currentSettings] at hreply
    split at hreply
    · cases hreply
      exact faithful_stable (.settings _)
    · cases hreply
      exact faithful_notImplemented _
  | setPlayerApplicationSettingValue settings =>
    cases hreply
    exact faithful_stable .settingsSet
  | playItem scope uid uidCounter =>
    cases hreply
    exact faithful_stable (.itemPlayed _)
  | registerNotification eventId playbackInterval =>
    rw [handleCommand_registerNotification] at hreply
    split at hreply
    · cases hreply
      exact faithful_notImplemented _
    · split at hreply
      · next event hevent =>
        cases hreply
        exact faithful_composed (.notification event (currentEvent_known hevent)) (by decide)
          (by decide) (by decide)
      · cases hreply
  | _ => cases hreply

theorem replyOf_faithful (delegate : BasicDelegate) (commandType : CommandType)
    (command : Command) :
    Faithful command.pduId (Runtime.replyOf delegate commandType command.pduId command) := by
  rw [Runtime.replyOf]
  cases hreply : (Runtime.replyTo delegate commandType command).2 with
  | error status => exact faithful_rejected command.pduId status
  | ok reply =>
    rw [Runtime.replyTo] at hreply
    split at hreply
    · exact handleCommand_faithful hreply
    · cases hreply

end BasicDelegate

/-! ## 7. The exchange -/

namespace Runtime

theorem beginCommand_eq_ok {δ : Type} {runtime : Runtime δ} {commandType : CommandType}
    {command : Command} {messages : List Message}
    (hbegin : (runtime.beginCommand commandType command).result = .ok messages) :
    ∃ label, (runtime.beginCommand commandType command).state.pending[label]? =
        some (.vendor command.pduId) ∧
      (runtime.beginCommand commandType command).state.responseAssembler =
        runtime.responseAssembler ∧
      (runtime.beginCommand commandType command).state.incomingResponse =
        runtime.incomingResponse ∧
      encodeCommand runtime.maxVendorParameters label commandType command = .ok messages := by
  unfold beginCommand at *
  cases hfirst : runtime.freeLabels.toList.head? with
  | none =>
    rw [reserveLabel, hfirst] at hbegin
    cases hbegin
  | some label =>
    have hreserved : runtime.reserveLabel (.vendor command.pduId) = .ok { runtime with
        freeLabels := runtime.freeLabels.erase label
        pending := runtime.pending.insert label (.vendor command.pduId) } label := by
      rw [reserveLabel, hfirst]
    rw [hreserved, Outcome.ok_andThen] at hbegin ⊢
    dsimp only at hbegin ⊢
    cases hencode : encodeCommand runtime.maxVendorParameters label commandType command with
    | error error =>
      rw [hencode] at hbegin
      cases hbegin
    | ok encoded =>
      rw [hencode] at hbegin
      cases hbegin
      refine ⟨label, ?_, rfl, rfl, hencode⟩
      exact (OrderedMap.getElem?_insert runtime.pending label label _).trans (if_pos rfl)

structure Idle {δ : Type} (runtime : Runtime δ) : Prop where
  commandAssembler : runtime.commandAssembler = ⟨none⟩
  responseAssembler : runtime.responseAssembler = ⟨none⟩
  incomingCommand : runtime.incomingCommand = none
  incomingResponse : runtime.incomingResponse = none

end Runtime

namespace Peer

/-- **Exchange.**  The packets of a command give the peer exactly the command, under its label, with
the messages of the reply; and the packets of these give exactly the reply back. -/
theorem exchange_survives {γ : Type} [Delegate γ] (controller : Runtime γ)
    (target : Runtime BasicDelegate) (controllerAssembler targetAssembler : MessageAssembler)
    (hcontroller : controller.Idle) (htarget : target.Idle) {commandType : CommandType}
    (htype : commandType < 8) {command : Command} (htyped : command.Typed)
    {messages : List Message}
    (hbegin : (controller.beginCommand commandType command).result = .ok messages)
    {mtu : Nat} {pdus : List (List Bytes)}
    (hpdus : messages.mapM (·.encodePdus mtu) = .ok pdus)
    (hsendable : Runtime.Sendable target.maxVendorParameters
      (Runtime.replyOf target.delegate commandType command.pduId command)) :
    let reply := Runtime.replyOf target.delegate commandType command.pduId command
    ∃ (label : UInt8) (replies : List Message), messages ≠ [] ∧
      (∀ message ∈ messages, message.transactionLabel = label) ∧
      (receive ⟨targetAssembler, target⟩ pdus.flatten).result =
        .ok (.command label commandType command :: replies.map .send) ∧
      ∀ {replyMtu : Nat} {replyPdus : List (List Bytes)},
        replies.mapM (·.encodePdus replyMtu) = .ok replyPdus →
        (receive ⟨controllerAssembler, (controller.beginCommand commandType command).state⟩
          replyPdus.flatten).result =
          .ok [.response label reply.responseCode reply.response] := by
  intro reply
  have hfaithful : Faithful command.pduId reply :=
    BasicDelegate.replyOf_faithful target.delegate commandType command
  obtain ⟨label, hpending, hassembler, hincoming, hencode⟩ := Runtime.beginCommand_eq_ok hbegin
  obtain ⟨replies, hreplies⟩ := (Runtime.encodeResponse_ok_iff _ label reply).mpr hsendable
  rw [Runtime.encodeCommand] at hencode
  obtain ⟨parameters, hparameters, hencode⟩ := except_bind_eq_ok hencode
  obtain ⟨fragments, hfragments, hencode⟩ := except_bind_eq_ok hencode
  obtain ⟨hmessages, hlengths⟩ := Runtime.mapM_vendorMessage_eq_ok
    (Runtime.vendorMessage_command label commandType) hencode
  refine ⟨label, replies, ?_, ?_, ?_, ?_⟩
  · have hmax : controller.maxVendorParameters ≠ 0 := by
      intro hzero
      rw [hzero] at hfragments
      cases hfragments
    obtain ⟨first, rest, hcut, -, -⟩ := fragmentPdu_lengths command.pduId parameters hmax
    obtain rfl : first :: rest = fragments := Except.ok.inj (hcut.symm.trans hfragments)
    rw [hmessages]
    exact List.cons_ne_nil _ _
  · intro message hmessage
    rw [hmessages] at hmessage
    obtain ⟨pdu, -, rfl⟩ := List.mem_map.mp hmessage
    rfl
  · have hstart : target = { target with
        commandAssembler := ⟨none⟩
        incomingCommand := if false then some (label, commandType) else none } := by
      obtain ⟨hassembler, -, hincoming, -⟩ := htarget
      cases target
      cases hassembler
      cases hincoming
      rfl
    have hparsed := Command.fromParameters_toParameters htyped hparameters
    rw [receive_result, pushAll_messages hpdus, hmessages, feedAll_map]
    have hfed := feedAll_fragments (Runtime.receives_command target htype label) hfragments hlengths
    rw [← hstart] at hfed
    rw [hfed, Runtime.answerCommand, hparsed]
    dsimp only
    change (if reply.response.pduId ≠ command.pduId then _ else _ : Outcome (Runtime BasicDelegate)
      Error (List RuntimeEvent)).result = _
    rw [if_neg (not_not_intro hfaithful.answers), Runtime.listen_maxVendorParameters]
    split
    · next error herror => cases hreplies.symm.trans herror
    · next messages hmessages =>
      obtain rfl : replies = messages := Except.ok.inj (hreplies.symm.trans hmessages)
      rfl
  · intro replyMtu replyPdus hreplyPdus
    generalize (controller.beginCommand commandType command).state = begun at *
    rw [Runtime.encodeResponse] at hreplies
    obtain ⟨parameters, hparameters, hreplies⟩ := except_bind_eq_ok hreplies
    obtain ⟨fragments, hfragments, hreplies⟩ := except_bind_eq_ok hreplies
    obtain ⟨hmessages, hlengths⟩ := Runtime.mapM_vendorMessage_eq_ok
      (Runtime.vendorMessage_response label reply.responseCode) hreplies
    have hstart : begun = { begun with
        responseAssembler := ⟨none⟩
        incomingResponse := if false then some (label, reply.responseCode) else none } := by
      rw [hcontroller.responseAssembler] at hassembler
      rw [hcontroller.incomingResponse] at hincoming
      cases begun
      cases hassembler
      cases hincoming
      rfl
    rw [receive_result, pushAll_messages hreplyPdus, hmessages, feedAll_map]
    have hfed := feedAll_fragments (Runtime.receives_response begun hfaithful.code hpending)
      hfragments hlengths
    rw [← hstart] at hfed
    rw [hfed, Runtime.completeResponse, if_neg (not_not_intro hfaithful.answers), hfaithful.answers,
      hfaithful.decodes parameters hparameters]
    rfl

def fresh : Runtime BasicDelegate := Runtime.withDelegate {} 512

theorem fresh_idle : fresh.Idle := ⟨rfl, rfl, rfl, rfl⟩

/-- The capabilities are asked for in three packets. -/
theorem exchange_capabilities :
    (fresh.beginCommand CommandType.status (.getCapabilities CapabilityId.companyId)).result =
        .ok [.command 0 avrcpPid [1, 0x48, 0, 0, 0x19, 0x58, 0x10, 0, 0, 1, 2]] ∧
      ∃ replies : List Message, (receive ⟨{}, fresh⟩
        [[0x04, 3, 0x11, 0x0E, 1, 0x48, 0, 0], [0x08, 0x11, 0x0E, 0x19, 0x58, 0x10, 0, 0],
          [0x0C, 0x11, 0x0E, 1, 2]]).result =
        .ok (.command 0 CommandType.status (.getCapabilities CapabilityId.companyId)
          :: replies.map .send) := by
  have hbegin : (fresh.beginCommand CommandType.status
      (.getCapabilities CapabilityId.companyId)).result =
      .ok [.command 0 avrcpPid [1, 0x48, 0, 0, 0x19, 0x58, 0x10, 0, 0, 1, 2]] := by decide
  have hpdus : [Message.command 0 avrcpPid
      [1, 0x48, 0, 0, 0x19, 0x58, 0x10, 0, 0, 1, 2]].mapM (·.encodePdus 8) =
      .ok [[[0x04, 3, 0x11, 0x0E, 1, 0x48, 0, 0], [0x08, 0x11, 0x0E, 0x19, 0x58, 0x10, 0, 0],
        [0x0C, 0x11, 0x0E, 1, 2]]] := by decide
  have htype : CommandType.status < 8 := by decide
  have htyped : (Command.getCapabilities CapabilityId.companyId).Typed := trivial
  have hsendable : Runtime.Sendable fresh.maxVendorParameters (Runtime.replyOf fresh.delegate
      CommandType.status PduId.getCapabilities (.getCapabilities CapabilityId.companyId)) :=
    ⟨by decide, by decide, [2, 1, 0, 0x19, 0x58], by decide, by decide⟩
  obtain ⟨label, replies, -, hlabel, hreceive, -⟩ := exchange_survives fresh fresh {} {} fresh_idle
    fresh_idle htype htyped hbegin hpdus hsendable
  obtain rfl : 0 = label := hlabel _ List.mem_cons_self
  exact ⟨hbegin, replies, hreceive⟩

/-- A command type of eight or more is taken for a response, and an unknown command with the id
of a known one for that one. -/
theorem exchange_changes :
    (¬ ∀ (commandType : CommandType) (messages : List Message) (pdus : List (List Bytes)),
      (fresh.beginCommand commandType .getPlayStatus).result = .ok messages →
      messages.mapM (·.encodePdus 48) = .ok pdus →
      ∃ label events, (receive ⟨{}, fresh⟩ pdus.flatten).result =
        .ok (.command label commandType .getPlayStatus :: events)) ∧
    ¬ ∀ (command : Command) (messages : List Message) (pdus : List (List Bytes)),
      (fresh.beginCommand CommandType.status command).result = .ok messages →
      messages.mapM (·.encodePdus 48) = .ok pdus →
      ∃ label events, (receive ⟨{}, fresh⟩ pdus.flatten).result =
        .ok (.command label CommandType.status command :: events) := by
  constructor
  · intro hall
    obtain ⟨label, events, hreceive⟩ := hall 9
      [.command 0 avrcpPid [9, 0x48, 0, 0, 0x19, 0x58, 0x30, 0, 0, 0]]
      [[[0, 0x11, 0x0E, 9, 0x48, 0, 0, 0x19, 0x58, 0x30, 0, 0, 0]]] (by decide)
      (by decide)
    have hrefused : (receive ⟨{}, fresh⟩
        [[[0, 0x11, 0x0E, 9, 0x48, 0, 0, 0x19, 0x58, 0x30, 0, 0, 0]]].flatten).result =
        .error .wrongFrameKind := by decide
    rw [hrefused] at hreceive
    cases hreceive
  · intro hall
    obtain ⟨label, events, hreceive⟩ := hall (.unknown 0x10 [2])
      [.command 0 avrcpPid [1, 0x48, 0, 0, 0x19, 0x58, 0x10, 0, 0, 1, 2]]
      [[[0, 0x11, 0x0E, 1, 0x48, 0, 0, 0x19, 0x58, 0x10, 0, 0, 1, 2]]] (by decide)
      (by decide)
    have htaken : ((receive ⟨{}, fresh⟩
        [[[0, 0x11, 0x0E, 1, 0x48, 0, 0, 0x19, 0x58, 0x10, 0, 0, 1,
          2]]].flatten).result.toOption.map
          List.head?) =
        some (some (.command 0 CommandType.status (.getCapabilities CapabilityId.companyId))) := by
      decide
    rw [hreceive] at htaken
    cases htaken

end Peer

end Bumble.Avrcp
