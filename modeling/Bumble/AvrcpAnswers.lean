import Bumble.AvrcpLabels

/-!
# Answers of the AVRCP target

A command in a single vendor PDU is answered under its own label when no other command is
marked as in progress and the reply of the delegate can be sent.  The mark is set by any fragment,
also one that belongs to nothing, and the next command under another label pays for it.
-/

namespace Bumble.Avrcp

open Avc (CommandType ResponseCode SubunitType Frame FrameBody)
open Avctp (Message)

/-! ## 1. Fragments -/

theorem fragmentPdu_lengths (pduId : PduId) (parameters : Bytes) {maxParameters : Nat}
    (hmax : maxParameters ≠ 0) :
    ∃ first rest, fragmentPdu pduId parameters maxParameters = .ok (first :: rest) ∧
      first.parameters.length = min parameters.length maxParameters ∧
      ∀ fragment ∈ first :: rest,
        fragment.parameters.length ≤ min parameters.length maxParameters := by
  rw [fragmentPdu, if_neg hmax]
  by_cases hfits : parameters.length ≤ maxParameters
  · rw [if_pos hfits]
    refine ⟨⟨pduId, .single, parameters⟩, [], rfl, (Nat.min_eq_left hfits).symm, ?_⟩
    intro fragment hfragment
    obtain rfl := List.mem_singleton.mp hfragment
    exact (Nat.min_eq_left hfits).ge
  · rw [if_neg hfits]
    have hlong : maxParameters < parameters.length := Nat.lt_of_not_le hfits
    have hnonempty : parameters ≠ [] := by
      rintro rfl
      exact hfits (Nat.zero_le _)
    obtain ⟨rest, hchunks⟩ := chunks_first maxParameters hnonempty
    have hshort : ∀ chunk ∈ chunks maxParameters parameters, chunk.length ≤ maxParameters :=
      chunksLoop_length maxParameters parameters.length
    rw [Nat.min_eq_right hlong.le]
    dsimp only
    rw [hchunks] at hshort ⊢
    rw [List.mapIdx_cons]
    refine ⟨_, _, rfl, ?_, ?_⟩
    · rw [List.length_take, Nat.min_eq_left hlong.le]
    · intro fragment hfragment
      rw [List.mem_cons, List.mem_mapIdx] at hfragment
      rcases hfragment with rfl | ⟨index, hindex, rfl⟩
      · exact hshort _ List.mem_cons_self
      · exact hshort _ (List.mem_cons_of_mem _ (List.getElem_mem hindex))

/-! ## 2. Messages with a vendor PDU -/

/-- The octets of a vendor PDU whose length fits its header. -/
def VendorPdu.octets (pdu : VendorPdu) : Bytes :=
  pdu.pduId :: pdu.packetType.toByte
    :: (u16ToBe (UInt16.ofNat pdu.parameters.length) ++ pdu.parameters)

/-- The octets of a frame to the panel with a vendor PDU. -/
def vendorPayload (category : UInt8) (pdu : VendorPdu) : Bytes :=
  category :: 0x48 :: 0 :: 0 :: 0x19 :: 0x58 :: pdu.octets

namespace Runtime

theorem vendorMessage_eq (message : UInt8 → UInt16 → Bytes → Message)
    {frame : SubunitType → UInt16 → FrameBody → Frame} {category : UInt8}
    (hfields : ∀ subunitType subunitId body,
      (frame subunitType subunitId body).fields = (category, subunitType, subunitId, body))
    (label : UInt8) (pdu : VendorPdu) :
    vendorMessage message frame label pdu =
      if pdu.parameters.length < 65536 then
        if category > 0x0F then .error (.avc (.invalid "AV/C header field"))
        else .ok (message label avrcpPid (vendorPayload category pdu))
      else .error .parametersTooLong := by
  rw [vendorMessage, VendorPdu.toBytes]
  by_cases hlength : pdu.parameters.length < 65536
  · rw [if_pos hlength, if_pos hlength]
    change (frameBytes _ >>= fun payload => pure (message label avrcpPid payload)) = _
    rw [frameBytes, Frame.toBytes, hfields]
    dsimp only
    by_cases hcategory : category > 0x0F
    · rw [if_pos (.inl hcategory), if_pos hcategory]
      rfl
    · rw [if_neg hcategory, if_neg (by simp only [hcategory, false_or]; decide)]
      rfl
  · rw [if_neg hlength, if_neg hlength]
    rfl

theorem vendorMessage_response (label : UInt8) (responseCode : ResponseCode) (pdu : VendorPdu) :
    vendorMessage .response (.response responseCode) label pdu =
      if pdu.parameters.length < 65536 then
        if responseCode > 0x0F then .error (.avc (.invalid "AV/C header field"))
        else .ok (.response label avrcpPid (vendorPayload responseCode pdu))
      else .error .parametersTooLong :=
  vendorMessage_eq .response (fun _ _ _ => rfl) label pdu

def Sendable (maxVendorParameters : Nat) (reply : CommandReply) : Prop :=
  reply.responseCode ≤ 0x0F ∧ maxVendorParameters ≠ 0 ∧
    ∃ parameters, reply.response.toParameters = .ok parameters ∧
      min parameters.length maxVendorParameters < 65536

def SentUnder (label : UInt8) (message : Message) : Prop :=
  message.transactionLabel = label ∧ message.isCommand = false

theorem encodeResponse_ok_iff (maxVendorParameters : Nat) (label : UInt8) (reply : CommandReply) :
    (∃ messages, encodeResponse maxVendorParameters label reply.responseCode reply.response =
      .ok messages) ↔ Sendable maxVendorParameters reply := by
  constructor
  · rintro ⟨messages, hencode⟩
    rw [encodeResponse] at hencode
    obtain ⟨parameters, hparameters, hencode⟩ := except_bind_eq_ok hencode
    obtain ⟨fragments, hfragments, hencode⟩ := except_bind_eq_ok hencode
    have hmax : maxVendorParameters ≠ 0 := by
      rintro rfl
      cases hfragments
    obtain ⟨first, rest, hcut, hlength, -⟩ :=
      fragmentPdu_lengths reply.response.pduId parameters hmax
    obtain rfl : first :: rest = fragments := Except.ok.inj (hcut.symm.trans hfragments)
    obtain ⟨message, later, hmessage, -, -⟩ := List.forall₂_cons_left_iff.mp
      (except_mapM_eq_ok hencode)
    rw [vendorMessage_response] at hmessage
    split at hmessage
    · next hshort =>
      split at hmessage
      · cases hmessage
      · next hcode =>
        rw [hlength] at hshort
        exact ⟨UInt8.not_lt.mp hcode, hmax, parameters, hparameters, hshort⟩
    · cases hmessage
  · rintro ⟨hcode, hmax, parameters, hparameters, hshort⟩
    obtain ⟨first, rest, hcut, -, hlengths⟩ :=
      fragmentPdu_lengths reply.response.pduId parameters hmax
    refine ⟨(first :: rest).map fun fragment =>
      .response label avrcpPid (vendorPayload reply.responseCode fragment), ?_⟩
    rw [encodeResponse, hparameters]
    change (fragmentPdu reply.response.pduId parameters maxVendorParameters >>= fun fragments =>
      fragments.mapM (vendorMessage .response (.response reply.responseCode) label)) = _
    rw [hcut]
    apply except_mapM_of_forall
    intro fragment hfragment
    rw [vendorMessage_response, if_pos ((hlengths fragment hfragment).trans_lt hshort),
      if_neg (UInt8.not_lt.mpr hcode)]

theorem encodeResponse_sentUnder {maxVendorParameters : Nat} {label : UInt8}
    {responseCode : ResponseCode} {response : Response} {messages : List Message}
    (hencode : encodeResponse maxVendorParameters label responseCode response = .ok messages) :
    ∃ message ∈ messages, SentUnder label message := by
  rw [encodeResponse] at hencode
  obtain ⟨parameters, -, hencode⟩ := except_bind_eq_ok hencode
  obtain ⟨fragments, hfragments, hencode⟩ := except_bind_eq_ok hencode
  have hmax : maxVendorParameters ≠ 0 := by
    rintro rfl
    cases hfragments
  obtain ⟨first, rest, hcut, -, -⟩ := fragmentPdu_lengths response.pduId parameters hmax
  obtain rfl : first :: rest = fragments := Except.ok.inj (hcut.symm.trans hfragments)
  obtain ⟨message, later, hmessage, -, rfl⟩ := List.forall₂_cons_left_iff.mp
    (except_mapM_eq_ok hencode)
  refine ⟨message, List.mem_cons_self, ?_⟩
  rw [vendorMessage_response] at hmessage
  split at hmessage
  · split at hmessage
    · cases hmessage
    · cases hmessage
      exact ⟨rfl, rfl⟩
  · cases hmessage

/-! ## 3. Answering a complete command -/

variable {δ : Type} [Delegate δ]

/-- The call returned normally and sends a response under the label. -/
def Answered (label : UInt8) (outcome : Outcome (Runtime δ) Error (List RuntimeEvent)) : Prop :=
  ∃ events, outcome.result = .ok events ∧
    ∃ message, RuntimeEvent.send message ∈ events ∧ SentUnder label message

def replyOf (delegate : δ) (commandType : CommandType) (pduId : PduId) (command : Command) :
    CommandReply :=
  replyOr pduId (replyTo delegate commandType command).2

/-- The reply is for the PDU of the command and can be sent. -/
def Replies (runtime : Runtime δ) (commandType : CommandType) (pduId : PduId)
    (command : Command) : Prop :=
  (replyOf runtime.delegate commandType pduId command).response.pduId = pduId ∧
    Sendable runtime.maxVendorParameters (replyOf runtime.delegate commandType pduId command)

omit [Delegate δ] in
theorem listen_maxVendorParameters (runtime : Runtime δ) (label : UInt8)
    (commandType : CommandType) (command : Command) (reply : CommandReply) :
    (runtime.listen label commandType command reply).maxVendorParameters =
      runtime.maxVendorParameters := by
  unfold listen
  split
  · cases command <;> rfl
  · rfl

theorem answerCommand_answered_iff (runtime : Runtime δ) (label : UInt8)
    (commandType : CommandType) {pduId : PduId} {parameters : Bytes} {command : Command}
    (hparse : Command.fromParameters pduId parameters = .ok command) :
    Answered label (runtime.answerCommand label commandType pduId parameters) ↔
      runtime.Replies commandType pduId command := by
  rw [answerCommand, hparse]
  dsimp only
  change Answered label
    (if (replyOf runtime.delegate commandType pduId command).response.pduId ≠ pduId then _ else _)
      ↔ _
  by_cases hid : (replyOf runtime.delegate commandType pduId command).response.pduId = pduId
  · rw [if_neg (not_not_intro hid), Replies, and_iff_right hid,
      ← encodeResponse_ok_iff _ label, listen_maxVendorParameters]
    split
    · next error herror =>
      apply iff_of_false
      · rintro ⟨events, hevents, -⟩
        cases hevents
      · rintro ⟨messages, hmessages⟩
        cases hmessages.symm.trans herror
    · next messages hencode =>
      refine iff_of_true ?_ ⟨messages, hencode⟩
      obtain ⟨message, hmessage, hunder⟩ := encodeResponse_sentUnder hencode
      exact ⟨_, rfl, message, List.mem_cons_of_mem _ (List.mem_map_of_mem hmessage), hunder⟩
  · rw [if_pos hid]
    apply iff_of_false
    · rintro ⟨events, hevents, -⟩
      cases hevents
    · exact fun hreplies => hid hreplies.1

/-! ## 4. Single vendor PDUs -/

/-- A message with a command in a single vendor PDU for the panel. -/
structure SingleCommand (message : Message) (commandType : CommandType) (pduId : PduId)
    (command : Command) : Prop where
  isCommand : message.isCommand = true
  pid : message.pid = avrcpPid
  pdu : ∃ data parameters,
    Frame.fromBytes message.payload = .ok (.command commandType SubunitType.panel 0
      (.vendorDependent bluetoothSigCompanyId data)) ∧
    VendorPdu.fromBytes data = .ok ⟨pduId, .single, parameters⟩ ∧
    Command.fromParameters pduId parameters = .ok command

def NoneInProgress (runtime : Runtime δ) (label : UInt8) (commandType : CommandType) : Prop :=
  runtime.incomingCommand = none ∨ runtime.incomingCommand = some (label, commandType)

theorem receiveCommandPdu_answered_iff (runtime : Runtime δ) (label : UInt8)
    (commandType : CommandType) {data : Bytes} {pduId : PduId} {parameters : Bytes}
    {command : Command} (hpdu : VendorPdu.fromBytes data = .ok ⟨pduId, .single, parameters⟩)
    (hparse : Command.fromParameters pduId parameters = .ok command) :
    Answered label (runtime.receiveCommandPdu label commandType data) ↔
      runtime.NoneInProgress label commandType ∧ runtime.Replies commandType pduId command := by
  rw [receiveCommandPdu]
  by_cases hclear : runtime.NoneInProgress label commandType
  · rw [if_neg (fun hother => hclear.elim hother.1 hother.2), and_iff_right hclear,
      PduAssembler.push, hpdu]
    exact answerCommand_answered_iff
      { runtime with commandAssembler := ⟨none⟩, incomingCommand := none } label commandType hparse
  · rw [if_pos (not_or.mp hclear)]
    apply iff_of_false
    · rintro ⟨events, hevents, -⟩
      cases hevents
    · exact fun hanswered => hclear hanswered.1

theorem handleMessage_answered_iff (runtime : Runtime δ) {message : Message}
    {commandType : CommandType} {pduId : PduId} {command : Command}
    (hsingle : SingleCommand message commandType pduId command) :
    Answered message.transactionLabel (runtime.handleMessage message) ↔
      runtime.NoneInProgress message.transactionLabel commandType ∧
        runtime.Replies commandType pduId command := by
  obtain ⟨data, parameters, hframe, hpdu, hparse⟩ := hsingle.pdu
  rw [handleMessage, if_neg (not_not_intro hsingle.pid), if_neg (by simp [hsingle.isCommand]),
    hframe]
  dsimp only
  rw [if_pos hsingle.isCommand, handleCommandFrame, if_neg (by decide), if_neg (by decide)]
  exact receiveCommandPdu_answered_iff runtime message.transactionLabel commandType hpdu hparse

end Runtime

namespace RuntimeCall

variable {δ : Type} [Delegate δ]

/-- **Answers.**  After every run, a command in a single vendor PDU is answered under its label
exactly when no command under another label or of another type is marked as in progress and the
reply of the delegate is for its PDU and can be sent. -/
theorem single_command_answered_iff (delegate : δ) (maxVendorParameters : Nat)
    (calls : List (RuntimeCall δ)) {message : Message} {commandType : CommandType} {pduId : PduId}
    {command : Command} (hsingle : Runtime.SingleCommand message commandType pduId command) :
    let runtime := run (Runtime.withDelegate delegate maxVendorParameters) calls
    Runtime.Answered message.transactionLabel (runtime.handleMessage message) ↔
      runtime.NoneInProgress message.transactionLabel commandType ∧
        runtime.Replies commandType pduId command :=
  Runtime.handleMessage_answered_iff _ hsingle

/-- A command for the play status under the label one. -/
def playStatusCommand : Message :=
  .command 1 avrcpPid [0x01, 0x48, 0, 0, 0x19, 0x58, 0x30, 0, 0, 0]

theorem playStatusCommand_single : Runtime.SingleCommand playStatusCommand CommandType.status
    PduId.getPlayStatus .getPlayStatus where
  isCommand := rfl
  pid := rfl
  pdu := ⟨[0x30, 0, 0, 0], [], by decide, by decide, by decide⟩

theorem playStatusCommand_answered :
    Runtime.SingleCommand playStatusCommand CommandType.status PduId.getPlayStatus .getPlayStatus ∧
      Runtime.Answered 1 ((Runtime.withDelegate ({} : BasicDelegate) 512).handleMessage
        playStatusCommand) := by
  refine ⟨playStatusCommand_single, ?_⟩
  apply (single_command_answered_iff ({} : BasicDelegate) 512 [] playStatusCommand_single).mpr
  refine ⟨.inl rfl, by decide, by decide, by decide, ?_⟩
  exact ⟨_, rfl, by decide⟩

/-- The last fragment of a command that never began, under the label zero. -/
def strayEnd : Message :=
  .command 0 avrcpPid [0x01, 0x48, 0, 0, 0x19, 0x58, 0x30, 3, 0, 0]

/-- After a stray fragment a well-formed command under another label gets no answer. -/
theorem command_unanswered_after_stray :
    ¬ ∀ (calls : List (RuntimeCall BasicDelegate)) (message : Message) (commandType : CommandType)
      (pduId : PduId) (command : Command),
      Runtime.SingleCommand message commandType pduId command →
      Runtime.Answered message.transactionLabel
        ((run (Runtime.withDelegate {} 512) calls).handleMessage message) := by
  intro hall
  obtain ⟨events, hevents, -⟩ := hall [.handleMessage strayEnd] playStatusCommand CommandType.status
    PduId.getPlayStatus .getPlayStatus playStatusCommand_single
  have hfails : ((run (Runtime.withDelegate ({} : BasicDelegate) 512)
      [.handleMessage strayEnd]).handleMessage playStatusCommand).result =
      .error .interleavedPdu := by decide
  rw [hfails] at hevents
  cases hevents

end RuntimeCall

end Bumble.Avrcp
