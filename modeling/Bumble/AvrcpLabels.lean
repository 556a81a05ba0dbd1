import Bumble.AvrcpRuntime

/-!
# Transaction labels of the AVRCP runtime

A label is free or waits for its response, never both, and there are sixteen of them.
A complete response that is not interim gives its label back, except on the exits of
the response handler that return an error before the label is released.
-/

namespace Bumble.Avrcp

open Avc (CommandType ResponseCode SubunitType OperationId Frame FrameBody)
open Avctp (Message)

namespace Runtime

variable {δ : Type}

/-! ## 1. The partition of the labels -/

/-- The free labels and the labels with a pending command are the labels up to fifteen, each
once. -/
structure Partitioned (runtime : Runtime δ) : Prop where
  cover : ∀ label, label ∈ runtime.freeLabels ∨ label ∈ runtime.pending ↔ label < 16
  apart : ∀ label, label ∈ runtime.freeLabels → label ∉ runtime.pending

def SameLabels (runtime next : Runtime δ) : Prop :=
  next.freeLabels = runtime.freeLabels ∧ next.pending = runtime.pending

/-- What one message does to the labels: nothing, or the release of its own. -/
def AtMostReleased (runtime : Runtime δ) (label : UInt8) (next : Runtime δ) : Prop :=
  SameLabels runtime next ∨ SameLabels (runtime.releaseLabel label) next

theorem SameLabels.refl (runtime : Runtime δ) : SameLabels runtime runtime := ⟨rfl, rfl⟩

theorem SameLabels.partitioned {runtime next : Runtime δ} (hsame : SameLabels runtime next)
    (hpartitioned : Partitioned runtime) : Partitioned next := by
  obtain ⟨hfree, hpending⟩ := hsame
  constructor
  · intro label
    rw [hfree, hpending]
    exact hpartitioned.cover label
  · intro label hlabel
    rw [hpending]
    rw [hfree] at hlabel
    exact hpartitioned.apart label hlabel

theorem partitioned_withDelegate (delegate : δ) (maxVendorParameters : Nat) :
    Partitioned (withDelegate delegate maxVendorParameters) := by
  have hall : ∀ label : UInt8, label ∈ allLabels ↔ label < 16 := by
    intro label
    rw [allLabels, Std.ExtTreeSet.mem_ofList]
    revert label
    set_option maxRecDepth 30000 in decide
  have hnone : ∀ label : UInt8, label ∉ (withDelegate delegate maxVendorParameters).pending :=
    fun label => Std.ExtTreeMap.not_mem_empty
  constructor
  · intro label
    rw [or_iff_left (hnone label)]
    exact hall label
  · intro label _
    exact hnone label

theorem mem_releaseLabel_freeLabels (runtime : Runtime δ) (label other : UInt8) :
    other ∈ (runtime.releaseLabel label).freeLabels ↔ label = other ∨
    other ∈ runtime.freeLabels := by
  rw [releaseLabel, Std.ExtTreeSet.mem_insert, Std.LawfulEqOrd.compare_eq_iff_eq]

theorem mem_releaseLabel_pending (runtime : Runtime δ) (label other : UInt8) :
    other ∈ (runtime.releaseLabel label).pending ↔ label ≠ other ∧ other ∈ runtime.pending := by
  rw [releaseLabel, Std.ExtTreeMap.mem_erase, ne_eq, Std.LawfulEqOrd.compare_eq_iff_eq]

theorem Partitioned.releaseLabel {runtime : Runtime δ} (hpartitioned : Partitioned runtime)
    {label : UInt8} (hlabel : label < 16) : Partitioned (runtime.releaseLabel label) := by
  constructor
  · intro other
    rw [mem_releaseLabel_freeLabels, mem_releaseLabel_pending, ← hpartitioned.cover other]
    by_cases hother : label = other
    · subst hother
      simp only [true_or, ne_eq, not_true_eq_false, false_and, or_false, true_iff]
      exact (hpartitioned.cover label).mpr hlabel
    · simp [hother]
  · intro other hfree hpending
    rw [mem_releaseLabel_freeLabels] at hfree
    rw [mem_releaseLabel_pending] at hpending
    rcases hfree with heq | hfree
    · exact hpending.1 heq
    · exact hpartitioned.apart other hfree hpending.2

theorem Partitioned.atMostReleased {runtime next : Runtime δ} {label : UInt8}
    (hpartitioned : Partitioned runtime) (hlabel : label < 16)
    (hstep : AtMostReleased runtime label next) : Partitioned next := by
  rcases hstep with hsame | hreleased
  · exact hsame.partitioned hpartitioned
  · exact hreleased.partitioned (hpartitioned.releaseLabel hlabel)

/-! ## 2. Reserving a label -/

theorem Partitioned.reserveLabel {runtime : Runtime δ} (hpartitioned : Partitioned runtime)
    (kind : PendingKind) :
    Partitioned (runtime.reserveLabel kind).state ∧
      ∀ label, (runtime.reserveLabel kind).result = .ok label → label < 16 := by
  rw [Runtime.reserveLabel]
  cases hfirst : runtime.freeLabels.toList.head? with
  | none => exact ⟨hpartitioned, fun label hlabel => by cases hlabel⟩
  | some label =>
    have hfree : label ∈ runtime.freeLabels :=
      Std.ExtTreeSet.mem_toList.mp (List.mem_of_mem_head? hfirst)
    have hlabel : label < 16 := (hpartitioned.cover label).mp (.inl hfree)
    refine ⟨⟨?_, ?_⟩, ?_⟩
    · intro other
      simp only [Outcome.ok_state, Std.ExtTreeSet.mem_erase, Std.ExtTreeMap.mem_insert,
        ne_eq, Std.LawfulEqOrd.compare_eq_iff_eq]
      rw [← hpartitioned.cover other]
      by_cases hother : label = other
      · subst hother
        simp [hfree]
      · simp [hother]
    · intro other
      simp only [Outcome.ok_state, Std.ExtTreeSet.mem_erase, Std.ExtTreeMap.mem_insert,
        ne_eq, Std.LawfulEqOrd.compare_eq_iff_eq]
      rintro ⟨hne, hother⟩ (heq | hpending)
      · exact hne heq
      · exact hpartitioned.apart other hother hpending
    · intro other hother
      cases hother
      exact hlabel

theorem Partitioned.reserving {α : Type} {runtime : Runtime δ}
    (hpartitioned : Partitioned runtime) (kind : PendingKind)
    {encode : Runtime δ → UInt8 → Outcome (Runtime δ) Error α}
    (hencode : ∀ runtime label, AtMostReleased runtime label (encode runtime label).state) :
    Partitioned ((runtime.reserveLabel kind).andThen encode).state := by
  obtain ⟨hstate, hlabel⟩ := hpartitioned.reserveLabel kind
  rw [Outcome.andThen]
  cases hresult : (runtime.reserveLabel kind).result with
  | error error => exact hstate
  | ok label => exact hstate.atMostReleased (hlabel label hresult) (hencode _ label)

theorem Partitioned.beginCommand {runtime : Runtime δ} (hpartitioned : Partitioned runtime)
    (commandType : CommandType) (command : Command) :
    Partitioned (runtime.beginCommand commandType command).state := by
  apply hpartitioned.reserving
  intro reserved label
  split
  · exact .inl (.refl reserved)
  · exact .inr (.refl _)

theorem Partitioned.beginPassThrough {runtime : Runtime δ} (hpartitioned : Partitioned runtime)
    (operationId : OperationId) (pressed : Bool) (data : Bytes) :
    Partitioned (runtime.beginPassThrough operationId pressed data).state := by
  apply hpartitioned.reserving
  intro reserved label
  split
  · exact .inl (.refl reserved)
  · exact .inr (.refl _)

theorem notify_labels (runtime : Runtime δ) (event : Event) :
    SameLabels runtime (runtime.notify event).state := by
  rw [notify]
  split
  · exact .refl runtime
  · split <;> exact ⟨rfl, rfl⟩

/-! ## 3. Messages and labels -/

theorem listen_labels (runtime : Runtime δ) (label : UInt8) (commandType : CommandType)
    (command : Command) (reply : CommandReply) :
    SameLabels runtime (runtime.listen label commandType command reply) := by
  unfold listen
  split
  · cases command <;> exact ⟨rfl, rfl⟩
  · exact .refl runtime

theorem notImplementedFrame_labels (runtime : Runtime δ) (label : UInt8)
    (subunitType : SubunitType) (subunitId : UInt16) (body : FrameBody) :
    SameLabels runtime
      (runtime.notImplementedFrame label subunitType subunitId body).state := by
  rw [notImplementedFrame]
  split <;> exact .refl runtime

section Commands

variable [Delegate δ]

theorem answerCommand_labels (runtime : Runtime δ) (label : UInt8) (commandType : CommandType)
    (pduId : PduId) (parameters : Bytes) :
    SameLabels runtime
      (runtime.answerCommand label commandType pduId parameters).state := by
  rw [answerCommand]
  split
  · exact .refl runtime
  · next command _ =>
    generalize replyTo runtime.delegate commandType command = replied
    obtain ⟨delegate, result⟩ := replied
    dsimp only
    split
    · exact ⟨rfl, rfl⟩
    · have hlisten := listen_labels { runtime with delegate } label commandType command
        (replyOr pduId result)
      split <;> exact hlisten

theorem receiveCommandPdu_labels (runtime : Runtime δ) (label : UInt8)
    (commandType : CommandType) (data : Bytes) :
    SameLabels runtime (runtime.receiveCommandPdu label commandType data).state := by
  rw [receiveCommandPdu]
  split
  · exact ⟨rfl, rfl⟩
  · dsimp only
    split
    · exact ⟨rfl, rfl⟩
    · exact ⟨rfl, rfl⟩
    · exact answerCommand_labels
        { runtime with
          commandAssembler := (runtime.commandAssembler.push data).state
          incomingCommand := none } label commandType _ _

theorem handleCommandFrame_labels (runtime : Runtime δ) (label : UInt8) (frame : Frame) :
    SameLabels runtime (runtime.handleCommandFrame label frame).state := by
  unfold handleCommandFrame
  split
  · exact .refl runtime
  · next commandType subunitType subunitId body =>
    split
    · exact notImplementedFrame_labels runtime label subunitType subunitId body
    · split
      · next companyId data =>
        split
        · exact .refl runtime
        · exact receiveCommandPdu_labels runtime label commandType data
      · dsimp only
        split <;> exact ⟨rfl, rfl⟩
      · exact notImplementedFrame_labels runtime label subunitType subunitId _

end Commands

theorem completeResponse_labels (runtime : Runtime δ) (label : UInt8)
    (responseCode : ResponseCode) (expected pduId : PduId) (parameters : Bytes) :
    AtMostReleased runtime label
      (runtime.completeResponse label responseCode expected pduId parameters).state := by
  rw [completeResponse]
  split
  · exact .inr (.refl _)
  · split
    · exact .inl (.refl runtime)
    · rw [Outcome.ok_state]
      split
      · exact .inr (.refl _)
      · exact .inl (.refl runtime)

theorem receiveResponsePdu_labels (runtime : Runtime δ) (label : UInt8)
    (responseCode : ResponseCode) (expected : PduId) (data : Bytes) :
    AtMostReleased runtime label
      (runtime.receiveResponsePdu label responseCode expected data).state := by
  rw [receiveResponsePdu]
  split
  · exact .inl ⟨rfl, rfl⟩
  · dsimp only
    split
    · exact .inl ⟨rfl, rfl⟩
    · exact .inl ⟨rfl, rfl⟩
    · exact completeResponse_labels
        { runtime with
          responseAssembler := (runtime.responseAssembler.push data).state
          incomingResponse := none } label responseCode expected _ _

theorem handleResponseFrame_labels (runtime : Runtime δ) (label : UInt8) (frame : Frame) :
    AtMostReleased runtime label (runtime.handleResponseFrame label frame).state := by
  rw [handleResponseFrame]
  split
  · exact .inl (.refl runtime)
  · split
    · exact .inl (.refl runtime)
    · split
      · exact .inl (.refl runtime)
      · split
        · exact .inr (.refl _)
        · split
          · exact .inl (.refl runtime)
          · exact receiveResponsePdu_labels runtime label _ _ _
        · exact .inl (.refl runtime)

theorem handleMessage_labels [Delegate δ] (runtime : Runtime δ) (message : Message) :
    AtMostReleased runtime message.transactionLabel (runtime.handleMessage message).state := by
  rw [handleMessage]
  split
  · exact .inl (.refl runtime)
  · split
    · exact .inr (.refl _)
    · split
      · exact .inl (.refl runtime)
      · split
        · exact .inl (handleCommandFrame_labels runtime _ _)
        · exact handleResponseFrame_labels runtime _ _

/-! ## 4. Complete responses -/

/-- The PDU that a fragment of a response completes: its own when it is single, the one in progress
for its label and code when it is the last. -/
def completedPdu (runtime : Runtime δ) (label : UInt8) (responseCode : ResponseCode)
    (data : Bytes) : Option (PduId × Bytes) :=
  match VendorPdu.fromBytes data with
  | .error _ => none
  | .ok pdu =>
    if pdu.packetType = .single ∨ runtime.incomingResponse = some (label, responseCode) then
      (runtime.responseAssembler.accept pdu).2
    else none

/-- A response frame with nothing left to come that is not an interim one. -/
def CompleteFinal (runtime : Runtime δ) (label : UInt8) : Frame → Prop
  | .command _ _ _ _ => False
  | .response responseCode _ _ (.vendorDependent _ data) =>
    responseCode ≠ ResponseCode.interim ∧
      (runtime.completedPdu label responseCode data).isSome = true
  | .response responseCode _ _ _ => responseCode ≠ ResponseCode.interim

/-- The parameters of a response have the form its code asks for. -/
def WellFormedParameters (responseCode : ResponseCode) (pduId : PduId) (parameters : Bytes) :
    Prop :=
  if responseCode = ResponseCode.rejected then parameters.length = 1
  else responseCode = ResponseCode.notImplemented ∨
    ∃ response, Response.fromParameters pduId parameters = .ok response

def NotInterleaved (runtime : Runtime δ) (label : UInt8) (responseCode : ResponseCode) : Prop :=
  runtime.incomingResponse = none ∨ runtime.incomingResponse = some (label, responseCode)

/-- A response to a command of the given kind that the handler does not leave early. -/
def Accepts (runtime : Runtime δ) (label : UInt8) (kind : PendingKind) : Frame → Prop
  | .command _ _ _ _ => False
  | .response responseCode subunitType subunitId body =>
    responseCode ∈ expectedResponseCodes ∧
      match kind, body with
      | .passThrough, .passThrough _ _ _ => True
      | .vendor expected, .vendorDependent companyId data =>
        companyId = bluetoothSigCompanyId ∧ subunitType = SubunitType.panel ∧ subunitId = 0 ∧
          runtime.NotInterleaved label responseCode ∧
          ∃ pduId parameters, runtime.completedPdu label responseCode data =
            some (pduId, parameters)
            ∧ (pduId ≠ expected ∨ WellFormedParameters responseCode pduId parameters)
      | _, _ => False

theorem decodeResponse_ok_iff (responseCode : ResponseCode) (pduId : PduId) (parameters : Bytes) :
    (∃ response, decodeResponse responseCode pduId parameters = .ok response) ↔
      WellFormedParameters responseCode pduId parameters := by
  unfold decodeResponse WellFormedParameters
  split
  · rw [List.length_eq_one_iff]
    constructor
    · rintro ⟨response, hresponse⟩
      split at hresponse
      · exact ⟨_, rfl⟩
      · cases hresponse
    · rintro ⟨status, rfl⟩
      exact ⟨_, rfl⟩
  · split
    · next hcode => exact iff_of_true ⟨_, rfl⟩ (.inl hcode)
    · next hcode => rw [or_iff_right hcode]

/-- A complete response releases its label unless it is for the expected PDU and its parameters
do not have the form that its code asks for. -/
theorem completeResponse_released_iff {runtime : Runtime δ} {label : UInt8}
    {responseCode : ResponseCode} (hlabel : label ∉ runtime.freeLabels)
    (hfinal : responseCode ≠ ResponseCode.interim) (expected pduId : PduId) (parameters : Bytes) :
    label ∈ (runtime.completeResponse label responseCode expected pduId parameters).state.freeLabels
      ↔ pduId ≠ expected ∨ WellFormedParameters responseCode pduId parameters := by
  have hreleased : label ∈ (runtime.releaseLabel label).freeLabels :=
    (mem_releaseLabel_freeLabels runtime label label).mpr (.inl rfl)
  rw [completeResponse, ← decodeResponse_ok_iff]
  by_cases hid : pduId ≠ expected
  · rw [if_pos hid]
    exact iff_of_true hreleased (.inl hid)
  · rw [if_neg hid, or_iff_right hid]
    cases hdecode : decodeResponse responseCode pduId parameters with
    | error error =>
      apply iff_of_false hlabel
      rintro ⟨response, hresponse⟩
      cases hresponse
    | ok response =>
      rw [Outcome.ok_state, if_pos hfinal]
      exact iff_of_true hreleased ⟨response, rfl⟩

theorem receiveResponsePdu_completed {runtime : Runtime δ} {label : UInt8}
    {responseCode : ResponseCode} {data : Bytes} {pduId : PduId} {parameters : Bytes}
    (hclear : runtime.NotInterleaved label responseCode)
    (hcompleted : runtime.completedPdu label responseCode data = some (pduId, parameters))
    (expected : PduId) :
    ∃ assembler, runtime.receiveResponsePdu label responseCode expected data =
      { runtime with responseAssembler := assembler, incomingResponse := none }.completeResponse
        label responseCode expected pduId parameters := by
  have hnot : ¬(runtime.incomingResponse ≠ none ∧
      runtime.incomingResponse ≠ some (label, responseCode)) := by
    rintro ⟨hsome, hother⟩
    exact hclear.elim hsome hother
  rw [completedPdu] at hcompleted
  rw [receiveResponsePdu, if_neg hnot, PduAssembler.push]
  cases hparse : VendorPdu.fromBytes data with
  | error error =>
    rw [hparse] at hcompleted
    cases hcompleted
  | ok pdu =>
    rw [hparse] at hcompleted
    dsimp only at hcompleted ⊢
    split at hcompleted
    · rw [Outcome.ok_result, hcompleted]
      exact ⟨_, rfl⟩
    · cases hcompleted

/-- **Release.**  A complete and final response to a pending command leaves its label free exactly
when the handler does not leave early. -/
theorem handleResponseFrame_released_iff {runtime : Runtime δ} {label : UInt8}
    {kind : PendingKind} {frame : Frame} (hlabel : label ∉ runtime.freeLabels)
    (hpending : runtime.pending[label]? = some kind)
    (hcomplete : runtime.CompleteFinal label frame) :
    label ∈ (runtime.handleResponseFrame label frame).state.freeLabels ↔
      runtime.Accepts label kind frame := by
  have hreleased : label ∈ (runtime.releaseLabel label).freeLabels :=
    (mem_releaseLabel_freeLabels runtime label label).mpr (.inl rfl)
  rw [handleResponseFrame, hpending]
  cases frame with
  | command commandType subunitType subunitId body => exact hcomplete.elim
  | response responseCode subunitType subunitId body =>
    dsimp only [Accepts]
    by_cases hcode : responseCode ∈ expectedResponseCodes
    · rw [if_neg (not_not_intro hcode), and_iff_right hcode]
      cases kind with
      | passThrough =>
        cases body with
        | passThrough state operationId data => exact iff_of_true hreleased trivial
        | raw opcode operands => exact iff_of_false hlabel id
        | vendorDependent companyId data => exact iff_of_false hlabel id
      | vendor expected =>
        cases body with
        | passThrough state operationId data => exact iff_of_false hlabel id
        | raw opcode operands => exact iff_of_false hlabel id
        | vendorDependent companyId data =>
          obtain ⟨hfinal, hsome⟩ := hcomplete
          obtain ⟨⟨pduId, parameters⟩, hcompleted⟩ := Option.isSome_iff_exists.mp hsome
          dsimp only
          by_cases hforeign : companyId ≠ bluetoothSigCompanyId ∨ subunitType ≠ SubunitType.panel
              ∨ subunitId ≠ 0
          · rw [if_pos hforeign]
            apply iff_of_false hlabel
            rintro ⟨hcompany, htype, hid, -⟩
            rcases hforeign with hforeign | hforeign | hforeign
            · exact hforeign hcompany
            · exact hforeign htype
            · exact hforeign hid
          · rw [if_neg hforeign]
            simp only [not_or, not_not] at hforeign
            rw [and_iff_right hforeign.1, and_iff_right hforeign.2.1, and_iff_right hforeign.2.2,
              hcompleted]
            by_cases hclear : runtime.NotInterleaved label responseCode
            · obtain ⟨assembler, heq⟩ := receiveResponsePdu_completed hclear hcompleted expected
              have hlabel' : label ∉ ({ runtime with
                  responseAssembler := assembler, incomingResponse := none } :
                    Runtime δ).freeLabels :=
                hlabel
              rw [heq, and_iff_right hclear, completeResponse_released_iff hlabel' hfinal]
              constructor
              · intro hrest
                exact ⟨pduId, parameters, rfl, hrest⟩
              · rintro ⟨_, _, heq, hrest⟩
                cases heq
                exact hrest
            · apply iff_of_false
              · have hinterleaved : runtime.incomingResponse ≠ none ∧
                    runtime.incomingResponse ≠ some (label, responseCode) := not_or.mp hclear
                rw [receiveResponsePdu, if_pos hinterleaved]
                exact hlabel
              · exact fun haccepts => hclear haccepts.1
    · rw [if_pos hcode]
      exact iff_of_false hlabel fun haccepts => hcode haccepts.1

end Runtime

/-! ## 5. Runs -/

inductive RuntimeCall (δ : Type) where
  | beginCommand (commandType : CommandType) (command : Command)
  | beginPassThrough (operationId : OperationId) (pressed : Bool) (data : Bytes)
  | handleMessage (message : Message)
  | notify (event : Event)
  | delegateMut (delegate : δ)

namespace RuntimeCall

variable {δ : Type}

def apply [Delegate δ] (runtime : Runtime δ) : RuntimeCall δ → Runtime δ
  | beginCommand commandType command => (runtime.beginCommand commandType command).state
  | beginPassThrough operationId pressed data =>
    (runtime.beginPassThrough operationId pressed data).state
  | handleMessage message => (runtime.handleMessage message).state
  | notify event => (runtime.notify event).state
  | delegateMut delegate => { runtime with delegate }

def Labelled : RuntimeCall δ → Prop
  | handleMessage message => message.transactionLabel ≤ 15
  | _ => True

def run [Delegate δ] (runtime : Runtime δ) (calls : List (RuntimeCall δ)) : Runtime δ :=
  calls.foldl apply runtime

theorem partitioned_apply [Delegate δ] {runtime : Runtime δ}
    (hpartitioned : runtime.Partitioned) {call : RuntimeCall δ} (hlabelled : call.Labelled) :
    (apply runtime call).Partitioned := by
  cases call with
  | beginCommand commandType command => exact hpartitioned.beginCommand commandType command
  | beginPassThrough operationId pressed data =>
    exact hpartitioned.beginPassThrough operationId pressed data
  | handleMessage message =>
    have hlabel : message.transactionLabel < 16 :=
      UInt8.lt_iff_toNat_lt.mpr (Nat.lt_succ_of_le (UInt8.le_iff_toNat_le.mp hlabelled))
    exact hpartitioned.atMostReleased hlabel (runtime.handleMessage_labels message)
  | notify event => exact (runtime.notify_labels event).partitioned hpartitioned
  | delegateMut delegate =>
    have hsame : Runtime.SameLabels runtime { runtime with delegate } := ⟨rfl, rfl⟩
    exact hsame.partitioned hpartitioned

theorem partitioned_run [Delegate δ] (calls : List (RuntimeCall δ)) {runtime : Runtime δ}
    (hpartitioned : runtime.Partitioned) (hlabelled : ∀ call ∈ calls, call.Labelled) :
    (run runtime calls).Partitioned := by
  induction calls generalizing runtime with
  | nil => exact hpartitioned
  | cons call calls ih =>
    apply ih (partitioned_apply hpartitioned (hlabelled call List.mem_cons_self))
    exact fun later hlater => hlabelled later (List.mem_cons_of_mem call hlater)

/-- **Labels.**  In every run the free and the pending labels are the sixteen labels, each once, and
a complete final response to a pending label gives the label back exactly when the response
handler accepts it. -/
theorem labels_released_iff [Delegate δ] (delegate : δ) (maxVendorParameters : Nat)
    (calls : List (RuntimeCall δ)) (hlabelled : ∀ call ∈ calls, call.Labelled) :
    let runtime := run (Runtime.withDelegate delegate maxVendorParameters) calls
    runtime.Partitioned ∧
      ∀ message : Message, ∀ kind, message.pid = avrcpPid → message.isCommand = false →
        runtime.pending[message.transactionLabel]? = some kind →
        (message.ipid = true →
          message.transactionLabel ∈ (runtime.handleMessage message).state.freeLabels) ∧
        ∀ frame, message.ipid = false → Frame.fromBytes message.payload = .ok frame →
          runtime.CompleteFinal message.transactionLabel frame →
          (message.transactionLabel ∈ (runtime.handleMessage message).state.freeLabels ↔
            runtime.Accepts message.transactionLabel kind frame) := by
  intro runtime
  have hpartitioned : runtime.Partitioned :=
    partitioned_run calls (Runtime.partitioned_withDelegate delegate maxVendorParameters) hlabelled
  refine ⟨hpartitioned, ?_⟩
  intro message kind hpid hresponse hpending
  have hin : message.transactionLabel ∈ runtime.pending := by
    rw [Std.ExtTreeMap.mem_iff_contains, OrderedMap.contains_iff]
    exact ⟨kind, hpending⟩
  have hlabel : message.transactionLabel ∉ runtime.freeLabels :=
    fun hfree => hpartitioned.apart _ hfree hin
  constructor
  · intro hipid
    rw [Runtime.handleMessage, if_neg (not_not_intro hpid), if_pos (by simp [hresponse, hipid])]
    exact (runtime.mem_releaseLabel_freeLabels _ _).mpr (.inl rfl)
  · intro frame hipid hframe hcomplete
    rw [Runtime.handleMessage, if_neg (not_not_intro hpid), if_neg (by simp [hipid]), hframe]
    dsimp only
    rw [if_neg (by simp [hresponse])]
    exact Runtime.handleResponseFrame_released_iff hlabel hpending hcomplete

/-- A status command whose label waits for its response. -/
def playStatusCalls : List (RuntimeCall BasicDelegate) :=
  [.beginCommand CommandType.status .getPlayStatus]

def playStatusRuntime : Runtime BasicDelegate := run (Runtime.withDelegate {} 512) playStatusCalls

def rejectedTwice : Message :=
  .response 0 avrcpPid [0x0A, 0x48, 0, 0, 0x19, 0x58, 0x30, 0, 0, 2, 1, 1]

theorem playStatusCalls_labelled : ∀ call ∈ playStatusCalls, call.Labelled := by
  intro call hcall
  obtain rfl := List.mem_singleton.mp hcall
  exact trivial

def rejectedOnce : Message :=
  .response 0 avrcpPid [0x0A, 0x48, 0, 0, 0x19, 0x58, 0x30, 0, 0, 1, 1]

theorem playStatus_labels_released :
    (∀ call ∈ playStatusCalls, call.Labelled) ∧ playStatusRuntime.Partitioned ∧
      0 ∈ (playStatusRuntime.handleMessage rejectedOnce).state.freeLabels := by
  obtain ⟨hpartitioned, hreleased⟩ :=
    labels_released_iff ({} : BasicDelegate) 512 playStatusCalls playStatusCalls_labelled
  refine ⟨playStatusCalls_labelled, hpartitioned, ?_⟩
  apply ((hreleased rejectedOnce (.vendor PduId.getPlayStatus) rfl rfl (by decide)).2
    (.response ResponseCode.rejected SubunitType.panel 0
      (.vendorDependent bluetoothSigCompanyId [0x30, 0, 0, 1, 1])) rfl (by decide)
    ⟨by decide, by decide⟩).mpr
  exact ⟨by decide, rfl, rfl, rfl, .inl (by decide), PduId.getPlayStatus, [1],
    by decide, .inr rfl⟩

/-- A rejection with a bad length comes for a pending label and the label is lost. -/
theorem rejection_loses_label :
    ¬ ∀ (calls : List (RuntimeCall BasicDelegate)) (message : Message) (kind : PendingKind)
      (frame : Frame), (∀ call ∈ calls, call.Labelled) →
      message.pid = avrcpPid → message.isCommand = false → message.ipid = false →
      message.transactionLabel ≤ 15 →
      (run (Runtime.withDelegate {} 512) calls).pending[message.transactionLabel]? = some kind →
      Frame.fromBytes message.payload = .ok frame →
      (run (Runtime.withDelegate {} 512) calls).CompleteFinal message.transactionLabel frame →
      message.transactionLabel ∈
        ((run (Runtime.withDelegate {} 512) calls).handleMessage message).state.freeLabels := by
  intro hall
  have hfree := hall playStatusCalls rejectedTwice (.vendor PduId.getPlayStatus)
    (.response ResponseCode.rejected SubunitType.panel 0
      (.vendorDependent bluetoothSigCompanyId [0x30, 0, 0, 2, 1, 1]))
    playStatusCalls_labelled rfl rfl rfl (by decide) (by decide) (by decide)
    ⟨by decide, by decide⟩
  revert hfree
  decide

end RuntimeCall

end Bumble.Avrcp
