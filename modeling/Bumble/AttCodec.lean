import Bumble.AttPdu
import Bumble.OctetReader
import Bumble.Outcome

/-!
# The codec of ATT PDUs (`bumble-att/src/lib.rs`)

A PDU is written as its op code and the fields of its kind, and read back by a table over
the op code.  Handles and UUIDs are little-endian; a UUID at the end takes all that is
left, and an authentication signature is carved from the end.
-/

namespace Bumble

namespace Att

inductive Error where
  | invalidPacket (text : String)
deriving DecidableEq, Repr

/-! ## 1. Fields -/

def le16 (data : Bytes) (offset : Nat) : Except Error UInt16 :=
  match data.drop offset with
  | low :: high :: _ => .ok (u16FromLe low high)
  | _ => .error (.invalidPacket "truncated u16 field")

def octet (data : Bytes) (index : Nat) (text : String) : Except Error UInt8 :=
  match data[index]? with
  | some value => .ok value
  | none => .error (.invalidPacket text)

/-- `chunks_exact(2)`: the words of a string of octets, without a last odd one. -/
def words : Bytes → List UInt16
  | low :: high :: later => u16FromLe low high :: words later
  | _ => []

def parseHandles (data : Bytes) : Except Error (List UInt16) :=
  if data.length % 2 ≠ 0 then .error (.invalidPacket "odd-length ATT handle set")
  else .ok (words data)

/-- The loop over the data from the offset it has reached. -/
def parseLengthValueTuples : Bytes → Except Error (List (UInt16 × Bytes))
  | [] => .ok []
  | [_] => .error (.invalidPacket "truncated u16 field")
  | low :: high :: later =>
    let length := u16FromLe low high
    if length.toNat ≤ later.length then do
      let tuples ← parseLengthValueTuples (later.drop length.toNat)
      pure ((length, later.take length.toNat) :: tuples)
    else .error (.invalidPacket "truncated ATT length/value tuple")
termination_by bytes => bytes.length
decreasing_by
  simp only [List.length_drop, List.length_cons]
  omega

def uuid (bytes : Bytes) (name : String) : Except Error Uuid :=
  (Uuid.fromBytes bytes).mapError fun error => .invalidPacket s!"bad {name} UUID: {error}"

/-! ## 2. PDUs -/

namespace AttPdu

def payload : AttPdu → Bytes
  | errorResponse requestOpcodeInError attributeHandleInError errorCode =>
    requestOpcodeInError :: u16ToLe attributeHandleInError ++ [errorCode]
  | exchangeMtuRequest clientRxMtu => u16ToLe clientRxMtu
  | exchangeMtuResponse serverRxMtu => u16ToLe serverRxMtu
  | findInformationRequest startingHandle endingHandle =>
    u16ToLe startingHandle ++ u16ToLe endingHandle
  | findInformationResponse format informationData => format :: informationData
  | findByTypeValueRequest startingHandle endingHandle attributeType attributeValue =>
    u16ToLe startingHandle ++ u16ToLe endingHandle ++ attributeType.toBytes false ++ attributeValue
  | findByTypeValueResponse handlesInformationList => handlesInformationList
  | readRequest attributeHandle => u16ToLe attributeHandle
  | readResponse attributeValue => attributeValue
  | readBlobRequest attributeHandle valueOffset => u16ToLe attributeHandle ++ u16ToLe valueOffset
  | readBlobResponse partAttributeValue => partAttributeValue
  | readMultipleRequest setOfHandles | readMultipleVariableRequest setOfHandles =>
    setOfHandles.flatMap u16ToLe
  | readMultipleResponse setOfValues => setOfValues
  | readByTypeRequest startingHandle endingHandle attributeType =>
    u16ToLe startingHandle ++ u16ToLe endingHandle ++ attributeType.toBytes false
  | readByTypeResponse length attributeDataList => length :: attributeDataList
  | readByGroupTypeRequest startingHandle endingHandle attributeGroupType =>
    u16ToLe startingHandle ++ u16ToLe endingHandle ++ attributeGroupType.toBytes false
  | readByGroupTypeResponse length attributeDataList => length :: attributeDataList
  | readMultipleVariableResponse lengthValueTuples =>
    lengthValueTuples.flatMap fun (length, value) => u16ToLe length ++ value
  | writeRequest attributeHandle attributeValue => u16ToLe attributeHandle ++ attributeValue
  | writeResponse => []
  | writeCommand attributeHandle attributeValue => u16ToLe attributeHandle ++ attributeValue
  | signedWriteCommand attributeHandle attributeValue signCounter signature =>
    u16ToLe attributeHandle ++ attributeValue ++ u32ToLe signCounter ++ signature.toList
  | prepareWriteRequest attributeHandle valueOffset partAttributeValue
  | prepareWriteResponse attributeHandle valueOffset partAttributeValue =>
    u16ToLe attributeHandle ++ u16ToLe valueOffset ++ partAttributeValue
  | executeWriteRequest flags => [flags]
  | executeWriteResponse => []
  | handleValueNotification attributeHandle attributeValue =>
    u16ToLe attributeHandle ++ attributeValue
  | handleValueIndication attributeHandle attributeValue =>
    u16ToLe attributeHandle ++ attributeValue
  | handleValueConfirmation => []
  | generic _ payload => payload

def toBytes (pdu : AttPdu) : Bytes := pdu.opCode :: pdu.payload

/-- The payload of a signed write, with the counter and the signature at its end. -/
def signedWrite (payload : Bytes) : Except Error AttPdu :=
  if h : 14 ≤ payload.length then do
    let trailer := payload.length - 12
    let attributeHandle ← le16 payload 0
    pure (signedWriteCommand attributeHandle ((payload.take trailer).drop 2)
      (UInt32.ofNat (beToNat ((payload.drop trailer).take 4).reverse))
      ⟨(payload.drop (trailer + 4)).toArray, by
        rw [List.size_toArray, List.length_drop]
        omega⟩)
  else
    .error (.invalidPacket "Signed Write Command requires a 12-byte authentication signature")

def decode (opCode : UInt8) (payload : Bytes) : Except Error AttPdu :=
  match opCode with
  | Codes.attErrorResponse => do
    let requestOpcodeInError ← octet payload 0 "truncated Error_Response"
    let attributeHandleInError ← le16 payload 1
    pure (errorResponse requestOpcodeInError attributeHandleInError
      (← octet payload 3 "truncated Error_Response"))
  | Codes.attExchangeMtuRequest => do
    pure (exchangeMtuRequest (← le16 payload 0))
  | Codes.attExchangeMtuResponse => do
    pure (exchangeMtuResponse (← le16 payload 0))
  | Codes.attFindInformationRequest => do
    let startingHandle ← le16 payload 0
    pure (findInformationRequest startingHandle (← le16 payload 2))
  | Codes.attFindInformationResponse => do
    let format ← octet payload 0 "truncated Find_Information_Response"
    pure (findInformationResponse format (payload.drop 1))
  | Codes.attFindByTypeValueRequest => do
    if payload.length < 6 then throw (.invalidPacket "truncated Find_By_Type_Value_Request")
    let attributeType ← uuid ((payload.take 6).drop 4) "type"
    let startingHandle ← le16 payload 0
    let endingHandle ← le16 payload 2
    pure (findByTypeValueRequest startingHandle endingHandle attributeType (payload.drop 6))
  | Codes.attFindByTypeValueResponse => pure (findByTypeValueResponse payload)
  | Codes.attReadRequest => do
    pure (readRequest (← le16 payload 0))
  | Codes.attReadResponse => pure (readResponse payload)
  | Codes.attReadBlobRequest => do
    let attributeHandle ← le16 payload 0
    pure (readBlobRequest attributeHandle (← le16 payload 2))
  | Codes.attReadBlobResponse => pure (readBlobResponse payload)
  | Codes.attReadMultipleRequest => do
    pure (readMultipleRequest (← parseHandles payload))
  | Codes.attReadMultipleResponse => pure (readMultipleResponse payload)
  | Codes.attReadByTypeRequest => do
    let attributeType ← uuid (payload.drop 4) "type"
    let startingHandle ← le16 payload 0
    pure (readByTypeRequest startingHandle (← le16 payload 2) attributeType)
  | Codes.attReadByTypeResponse => do
    let length ← octet payload 0 "truncated Read_By_Type_Response"
    pure (readByTypeResponse length (payload.drop 1))
  | Codes.attReadByGroupTypeRequest => do
    let attributeGroupType ← uuid (payload.drop 4) "group type"
    let startingHandle ← le16 payload 0
    pure (readByGroupTypeRequest startingHandle (← le16 payload 2) attributeGroupType)
  | Codes.attReadByGroupTypeResponse => do
    let length ← octet payload 0 "truncated Read_By_Group_Type_Response"
    pure (readByGroupTypeResponse length (payload.drop 1))
  | Codes.attReadMultipleVariableRequest => do
    pure (readMultipleVariableRequest (← parseHandles payload))
  | Codes.attReadMultipleVariableResponse => do
    pure (readMultipleVariableResponse (← parseLengthValueTuples payload))
  | Codes.attWriteRequest => do
    pure (writeRequest (← le16 payload 0) (payload.drop 2))
  | Codes.attWriteResponse => pure writeResponse
  | Codes.attWriteCommand => do
    pure (writeCommand (← le16 payload 0) (payload.drop 2))
  | Codes.attSignedWriteCommand => signedWrite payload
  | Codes.attPrepareWriteRequest => do
    let attributeHandle ← le16 payload 0
    pure (prepareWriteRequest attributeHandle (← le16 payload 2) (payload.drop 4))
  | Codes.attPrepareWriteResponse => do
    let attributeHandle ← le16 payload 0
    pure (prepareWriteResponse attributeHandle (← le16 payload 2) (payload.drop 4))
  | Codes.attExecuteWriteRequest => do
    pure (executeWriteRequest (← octet payload 0 "truncated Execute_Write_Request"))
  | Codes.attExecuteWriteResponse => pure executeWriteResponse
  | Codes.attHandleValueNotification => do
    pure (handleValueNotification (← le16 payload 0) (payload.drop 2))
  | Codes.attHandleValueIndication => do
    pure (handleValueIndication (← le16 payload 0) (payload.drop 2))
  | Codes.attHandleValueConfirmation => pure handleValueConfirmation
  | opCode => pure (generic opCode payload)

def fromBytes (pdu : Bytes) : Except Error AttPdu :=
  match pdu with
  | [] => .error (.invalidPacket "empty ATT PDU")
  | opCode :: payload => decode opCode payload

end AttPdu

/-! ## 3. Fields that are read back -/

section Fields

variable {data later : Bytes}

theorem le16_first (value : UInt16) (later : Bytes) : le16 (u16ToLe value ++ later) 0 = .ok value :=
  congrArg Except.ok (u16FromLe_toLe value)

theorem le16_eq_ok {offset : Nat} {value : UInt16} (hread : le16 data offset = .ok value) :
    data.drop offset = u16ToLe value ++ data.drop (offset + 2) := by
  have hlater : data.drop (offset + 2) = (data.drop offset).drop 2 := by rw [List.drop_drop]
  rw [hlater]
  rw [le16] at hread
  split at hread
  · next low high later hdata =>
    cases hread
    rw [hdata, u16ToLe_fromLe]
    rfl
  · cases hread

theorem of_handle {value : UInt16} (hread : le16 data 0 = .ok value) :
    data = u16ToLe value ++ data.drop 2 := le16_eq_ok hread

theorem take_handle {value : UInt16} (hread : le16 data 0 = .ok value) {count : Nat}
    (hcount : 2 ≤ count) : u16ToLe value ++ (data.take count).drop 2 = data.take count := by
  rw [List.drop_take]
  calc u16ToLe value ++ (data.drop 2).take (count - 2)
      = (u16ToLe value ++ data.drop 2).take count := by
        have hfront : (u16ToLe value).take count = u16ToLe value :=
          List.take_of_length_le hcount
        rw [List.take_append, length_u16ToLe, hfront]
    _ = data.take count := by rw [← of_handle hread]

theorem of_handles {first value : UInt16} (hfirst : le16 data 0 = .ok first)
    (hread : le16 data 2 = .ok value) :
    data = u16ToLe first ++ (u16ToLe value ++ data.drop 4) := by
  rw [← le16_eq_ok hread]
  exact of_handle hfirst

theorem octet_eq_ok {index : Nat} {text : String} {value : UInt8}
    (hread : octet data index text = .ok value) :
    data.drop index = value :: data.drop (index + 1) := by
  rw [octet] at hread
  split at hread
  · next value hvalue =>
    cases hread
    obtain ⟨hlength, hget⟩ := List.getElem?_eq_some_iff.mp hvalue
    rw [← hget, List.getElem_cons_drop]
  · cases hread

theorem uuid_eq_ok {bytes : Bytes} {name : String} {value : Uuid}
    (hread : uuid bytes name = .ok value) : value.bytes = bytes := by
  rw [uuid] at hread
  cases hparse : Uuid.fromBytes bytes with
  | error error =>
    rw [hparse] at hread
    cases hread
  | ok parsed =>
    rw [hparse] at hread
    cases hread
    exact Uuid.bytes_of_fromBytes hparse

theorem uuid_bytes (value : Uuid) (name : String) : uuid value.bytes name = .ok value := by
  rw [uuid, Uuid.fromBytes_bytes]
  rfl

theorem words_flatMap (handles : List UInt16) : words (handles.flatMap u16ToLe) = handles := by
  induction handles with
  | nil => rfl
  | cons handle handles ih =>
    change u16FromLe _ _ :: words (handles.flatMap u16ToLe) = _
    rw [u16FromLe_toLe, ih]

theorem flatMap_words : ∀ data : Bytes, data.length % 2 = 0 → (words data).flatMap u16ToLe = data
  | [], _ => rfl
  | [_], hodd => nomatch hodd
  | low :: high :: later, heven => by
    rw [words, List.flatMap_cons, u16ToLe_fromLe, flatMap_words later (by
      rw [List.length_cons, List.length_cons] at heven
      omega)]
    rfl

theorem parseHandles_flatMap (handles : List UInt16) :
    parseHandles (handles.flatMap u16ToLe) = .ok handles := by
  have hlength : (handles.flatMap u16ToLe).length = 2 * handles.length := by
    induction handles with
    | nil => rfl
    | cons handle handles ih =>
      rw [List.flatMap_cons, List.length_append, ih, length_u16ToLe, List.length_cons]
      omega
  rw [parseHandles, if_neg (by omega), words_flatMap]

theorem parseHandles_eq_ok {handles : List UInt16} (hparse : parseHandles data = .ok handles) :
    handles.flatMap u16ToLe = data := by
  rw [parseHandles] at hparse
  split at hparse
  · cases hparse
  · next heven =>
    cases hparse
    exact flatMap_words data (by omega)

def tupleBytes (entry : UInt16 × Bytes) : Bytes := u16ToLe entry.1 ++ entry.2

theorem parseLengthValueTuples_flatMap {tuples : List (UInt16 × Bytes)}
    (hlengths : ∀ entry ∈ tuples, entry.1.toNat = entry.2.length) :
    parseLengthValueTuples (tuples.flatMap tupleBytes) = .ok tuples := by
  induction tuples with
  | nil => rw [List.flatMap_nil, parseLengthValueTuples]
  | cons entry tuples ih =>
    obtain ⟨length, value⟩ := entry
    have hlength : length.toNat = value.length := hlengths _ (.head _)
    have hlater := ih (fun other hother => hlengths other (.tail _ hother))
    change parseLengthValueTuples (_ :: _ :: (value ++ tuples.flatMap tupleBytes)) = _
    rw [parseLengthValueTuples, u16FromLe_toLe]
    dsimp only
    rw [hlength, if_pos (by simp), List.drop_left, List.take_left, hlater]
    rfl

theorem parseLengthValueTuples_eq_ok (data : Bytes) : ∀ {tuples : List (UInt16 × Bytes)},
    parseLengthValueTuples data = .ok tuples → tuples.flatMap tupleBytes = data := by
  induction data using parseLengthValueTuples.induct with
  | case1 =>
    intro tuples hparse
    rw [parseLengthValueTuples] at hparse
    cases hparse
    rfl
  | case2 last =>
    intro tuples hparse
    rw [parseLengthValueTuples] at hparse
    cases hparse
  | case3 low high later length hlength =>
    rename_i ih
    intro tuples hparse
    rw [parseLengthValueTuples] at hparse
    rw [if_pos hlength] at hparse
    obtain ⟨others, hothers, hparse⟩ := except_bind_eq_ok hparse
    cases hparse
    rw [List.flatMap_cons, ih hothers, tupleBytes, u16ToLe_fromLe, List.append_assoc,
      List.take_append_drop]
    rfl
  | case4 low high later length =>
    rename_i hlength
    intro tuples hparse
    rw [parseLengthValueTuples] at hparse
    rw [if_neg hlength] at hparse
    cases hparse

end Fields

namespace AttPdu

/-! ## 4. The codec -/

def typedOpCodes : List UInt8 :=
  [Codes.attErrorResponse, Codes.attExchangeMtuRequest, Codes.attExchangeMtuResponse,
    Codes.attFindInformationRequest, Codes.attFindInformationResponse,
    Codes.attFindByTypeValueRequest, Codes.attFindByTypeValueResponse,
    Codes.attReadByTypeRequest, Codes.attReadByTypeResponse, Codes.attReadRequest,
    Codes.attReadResponse, Codes.attReadBlobRequest, Codes.attReadBlobResponse,
    Codes.attReadMultipleRequest, Codes.attReadMultipleResponse,
    Codes.attReadByGroupTypeRequest, Codes.attReadByGroupTypeResponse, Codes.attWriteRequest,
    Codes.attWriteResponse, Codes.attPrepareWriteRequest, Codes.attPrepareWriteResponse,
    Codes.attExecuteWriteRequest, Codes.attExecuteWriteResponse,
    Codes.attHandleValueNotification, Codes.attHandleValueIndication,
    Codes.attHandleValueConfirmation, Codes.attReadMultipleVariableRequest,
    Codes.attReadMultipleVariableResponse, Codes.attWriteCommand, Codes.attSignedWriteCommand]

/-- The PDUs that are told from all others by what they are written as. -/
def Encodable : AttPdu → Prop
  | findByTypeValueRequest _ _ attributeType _ => attributeType.bytes.length = 2
  | readMultipleVariableResponse lengthValueTuples =>
    ∀ entry ∈ lengthValueTuples, entry.1.toNat = entry.2.length
  | generic opCode _ => opCode ∉ typedOpCodes
  | _ => True

/-- The kinds whose fields have a fixed size, so that octets may follow them. -/
def FixedSize : AttPdu → Prop
  | errorResponse .. | exchangeMtuRequest _ | exchangeMtuResponse _ | findInformationRequest ..
  | readRequest _ | readBlobRequest .. | writeResponse | executeWriteRequest _
  | executeWriteResponse | handleValueConfirmation => True
  | _ => False

theorem decode_untyped {opCode : UInt8} (huntyped : opCode ∉ typedOpCodes) (payload : Bytes) :
    decode opCode payload = .ok (generic opCode payload) := by
  unfold decode
  split
  all_goals first | exact absurd (by decide) huntyped | rfl

theorem signedWrite_payload (handle : UInt16) (value : Bytes) (signCounter : UInt32)
    (signature : Vector UInt8 8) :
    signedWrite (u16ToLe handle ++ value ++ u32ToLe signCounter ++ signature.toList) =
      .ok (signedWriteCommand handle value signCounter signature) := by
  have hlength : (u16ToLe handle ++ value ++ u32ToLe signCounter ++ signature.toList).length =
      value.length + 14 := by
    simp [u32ToLe]
    omega
  have htrailer : (u16ToLe handle ++ value ++ u32ToLe signCounter ++ signature.toList).length - 12 =
      (u16ToLe handle ++ value).length := by
    rw [hlength, List.length_append, length_u16ToLe]
    omega
  have hread : le16 (u16ToLe handle ++ value ++ u32ToLe signCounter ++ signature.toList) 0 =
      .ok handle := by
    rw [List.append_assoc, List.append_assoc, le16_first]
  have hvalue : ((u16ToLe handle ++ value ++ u32ToLe signCounter ++ signature.toList).take
      (u16ToLe handle ++ value).length).drop 2 = value := by
    rw [List.append_assoc, List.take_left]
    rfl
  have hcounter : (((u16ToLe handle ++ value ++ u32ToLe signCounter ++ signature.toList).drop
      (u16ToLe handle ++ value).length).take 4).reverse = u32ToBe signCounter := by
    rw [List.append_assoc, List.drop_left, OctetReader.u32ToLe_eq,
      List.take_left' (by simp [u32ToBe]), List.reverse_reverse]
  have hsignature : (u16ToLe handle ++ value ++ u32ToLe signCounter ++ signature.toList).drop
      ((u16ToLe handle ++ value).length + 4) = signature.toList := by
    apply List.drop_left'
    rw [List.length_append]
    rfl
  rw [signedWrite, dif_pos (by omega)]
  simp only [htrailer, hread, hvalue, hcounter, hsignature]
  rw [u32ToBe, beToNat_natToBe 4 signCounter.toNat_lt]
  change Except.ok (signedWriteCommand handle value _ _) = _
  rw [UInt32.ofNat_toNat]
  rfl

/-- **The encoder is undone by the table.**  What the table reads back is a word from the two
    octets of a word. -/
theorem decode_payload {pdu : AttPdu} (hencodable : pdu.Encodable) :
    decode pdu.opCode pdu.payload = .ok pdu := by
  cases pdu with
  | exchangeMtuRequest word | exchangeMtuResponse word | readRequest word
  | errorResponse _ word _ | writeRequest word _ | writeCommand word _
  | handleValueNotification word _ | handleValueIndication word _ =>
    conv_rhs => rw [← u16FromLe_toLe word]
    rfl
  | findInformationRequest first second | readBlobRequest first second
  | prepareWriteRequest first second _ | prepareWriteResponse first second _ =>
    conv_rhs => rw [← u16FromLe_toLe first, ← u16FromLe_toLe second]
    rfl
  | findInformationResponse | readByTypeResponse | readByGroupTypeResponse
  | findByTypeValueResponse | readResponse | readBlobResponse | readMultipleResponse
  | writeResponse | executeWriteRequest | executeWriteResponse | handleValueConfirmation => rfl
  | readMultipleRequest handles =>
    exact congrArg (Except.map readMultipleRequest) (parseHandles_flatMap handles)
  | readMultipleVariableRequest handles =>
    exact congrArg (Except.map readMultipleVariableRequest) (parseHandles_flatMap handles)
  | readMultipleVariableResponse tuples =>
    exact congrArg (Except.map readMultipleVariableResponse)
      (parseLengthValueTuples_flatMap hencodable)
  | findByTypeValueRequest first second attributeType attributeValue =>
    obtain ⟨bytes, hwidth⟩ := attributeType
    match bytes, hwidth, hencodable with
    | [low, high], hwidth, _ =>
      conv_rhs => rw [← u16FromLe_toLe first, ← u16FromLe_toLe second]
      rfl
  | readByTypeRequest first second attributeType =>
    conv_rhs => rw [← u16FromLe_toLe first, ← u16FromLe_toLe second]
    exact congrArg (Except.map _) (uuid_bytes attributeType "type")
  | readByGroupTypeRequest first second attributeType =>
    conv_rhs => rw [← u16FromLe_toLe first, ← u16FromLe_toLe second]
    exact congrArg (Except.map _) (uuid_bytes attributeType "group type")
  | signedWriteCommand handle value signCounter signature =>
    exact signedWrite_payload handle value signCounter signature
  | generic opCode payload => exact decode_untyped hencodable payload

/-- A PDU decoded from a payload is written as that payload again, without the octets behind a
    PDU of a fixed size. -/
def Restored (pdu : AttPdu) (payload : Bytes) : Prop :=
  ∃ trailing, payload = pdu.payload ++ trailing ∧ (trailing = [] ∨ pdu.FixedSize)

theorem restored_exact {pdu : AttPdu} {payload : Bytes} (hpayload : pdu.payload = payload) :
    Restored pdu payload := by
  subst hpayload
  exact ⟨[], (List.append_nil _).symm, .inl rfl⟩

theorem signedWrite_eq_ok {payload : Bytes} {pdu : AttPdu}
    (hdecode : signedWrite payload = .ok pdu) :
    pdu.opCode = Codes.attSignedWriteCommand ∧ Restored pdu payload := by
  rw [signedWrite] at hdecode
  split at hdecode
  · next hlength =>
    obtain ⟨handle, hhandle, hdecode⟩ := except_bind_eq_ok hdecode
    cases hdecode
    refine ⟨rfl, restored_exact ?_⟩
    have hcounter := @OctetReader.u32ToLe_beToNat
      ((payload.drop (payload.length - 12)).take 4) (by
        rw [List.length_take, List.length_drop]
        omega)
    have hfront : u16ToLe handle ++ (payload.take (payload.length - 12)).drop 2 =
        payload.take (payload.length - 12) := take_handle hhandle (by omega)
    change u16ToLe handle ++ (payload.take (payload.length - 12)).drop 2 ++ u32ToLe _ ++
      payload.drop (payload.length - 12 + 4) = payload
    rw [hcounter, hfront, ← List.drop_drop, List.append_assoc, List.take_append_drop,
      List.take_append_drop]
  · cases hdecode

/-- **The table loses nothing.** -/
theorem decode_eq_ok {opCode : UInt8} {payload : Bytes} {pdu : AttPdu}
    (hdecode : decode opCode payload = .ok pdu) : pdu.opCode = opCode ∧ Restored pdu payload := by
  unfold decode at hdecode
  split at hdecode
  · obtain ⟨opCode, hopCode, hdecode⟩ := except_bind_eq_ok hdecode
    obtain ⟨handle, hhandle, hdecode⟩ := except_bind_eq_ok hdecode
    obtain ⟨errorCode, herrorCode, hdecode⟩ := except_bind_eq_ok hdecode
    cases hdecode
    refine ⟨rfl, payload.drop 4, ?_, .inr trivial⟩
    change payload = opCode :: (u16ToLe handle ++ [errorCode] ++ payload.drop 4)
    rw [List.append_assoc, List.singleton_append, ← octet_eq_ok herrorCode, ← le16_eq_ok hhandle]
    exact octet_eq_ok hopCode
  · obtain ⟨handle, hhandle, hdecode⟩ := except_bind_eq_ok hdecode
    cases hdecode
    exact ⟨rfl, _, of_handle hhandle, .inr trivial⟩
  · obtain ⟨handle, hhandle, hdecode⟩ := except_bind_eq_ok hdecode
    cases hdecode
    exact ⟨rfl, _, of_handle hhandle, .inr trivial⟩
  · obtain ⟨first, hfirst, hdecode⟩ := except_bind_eq_ok hdecode
    obtain ⟨second, hsecond, hdecode⟩ := except_bind_eq_ok hdecode
    cases hdecode
    exact ⟨rfl, _, (of_handles hfirst hsecond).trans (List.append_assoc ..).symm, .inr trivial⟩
  · obtain ⟨length, hlength, hdecode⟩ := except_bind_eq_ok hdecode
    cases hdecode
    exact ⟨rfl, restored_exact (octet_eq_ok hlength).symm⟩
  · split at hdecode
    · cases hdecode
    · next hlength =>
      obtain ⟨attributeType, huuid, hdecode⟩ := except_bind_eq_ok hdecode
      obtain ⟨first, hfirst, hdecode⟩ := except_bind_eq_ok hdecode
      obtain ⟨second, hsecond, hdecode⟩ := except_bind_eq_ok hdecode
      cases hdecode
      refine ⟨rfl, restored_exact ?_⟩
      change u16ToLe first ++ u16ToLe second ++ attributeType.bytes ++ payload.drop 6 = payload
      have hvalue : payload.drop 6 = (payload.drop 4).drop 2 := by rw [List.drop_drop]
      rw [uuid_eq_ok huuid, List.drop_take, hvalue, List.append_assoc, List.take_append_drop,
        List.append_assoc]
      exact (of_handles hfirst hsecond).symm
  · cases hdecode
    exact ⟨rfl, restored_exact rfl⟩
  · obtain ⟨handle, hhandle, hdecode⟩ := except_bind_eq_ok hdecode
    cases hdecode
    exact ⟨rfl, _, of_handle hhandle, .inr trivial⟩
  · cases hdecode
    exact ⟨rfl, restored_exact rfl⟩
  · obtain ⟨first, hfirst, hdecode⟩ := except_bind_eq_ok hdecode
    obtain ⟨second, hsecond, hdecode⟩ := except_bind_eq_ok hdecode
    cases hdecode
    exact ⟨rfl, _, (of_handles hfirst hsecond).trans (List.append_assoc ..).symm, .inr trivial⟩
  · cases hdecode
    exact ⟨rfl, restored_exact rfl⟩
  · obtain ⟨handles, hhandles, hdecode⟩ := except_bind_eq_ok hdecode
    cases hdecode
    exact ⟨rfl, restored_exact (parseHandles_eq_ok hhandles)⟩
  · cases hdecode
    exact ⟨rfl, restored_exact rfl⟩
  · obtain ⟨attributeType, huuid, hdecode⟩ := except_bind_eq_ok hdecode
    obtain ⟨first, hfirst, hdecode⟩ := except_bind_eq_ok hdecode
    obtain ⟨second, hsecond, hdecode⟩ := except_bind_eq_ok hdecode
    cases hdecode
    refine ⟨rfl, restored_exact ?_⟩
    change u16ToLe first ++ u16ToLe second ++ attributeType.bytes = payload
    rw [uuid_eq_ok huuid, List.append_assoc]
    exact (of_handles hfirst hsecond).symm
  · obtain ⟨length, hlength, hdecode⟩ := except_bind_eq_ok hdecode
    cases hdecode
    exact ⟨rfl, restored_exact (octet_eq_ok hlength).symm⟩
  · obtain ⟨attributeType, huuid, hdecode⟩ := except_bind_eq_ok hdecode
    obtain ⟨first, hfirst, hdecode⟩ := except_bind_eq_ok hdecode
    obtain ⟨second, hsecond, hdecode⟩ := except_bind_eq_ok hdecode
    cases hdecode
    refine ⟨rfl, restored_exact ?_⟩
    change u16ToLe first ++ u16ToLe second ++ attributeType.bytes = payload
    rw [uuid_eq_ok huuid, List.append_assoc]
    exact (of_handles hfirst hsecond).symm
  · obtain ⟨length, hlength, hdecode⟩ := except_bind_eq_ok hdecode
    cases hdecode
    exact ⟨rfl, restored_exact (octet_eq_ok hlength).symm⟩
  · obtain ⟨handles, hhandles, hdecode⟩ := except_bind_eq_ok hdecode
    cases hdecode
    exact ⟨rfl, restored_exact (parseHandles_eq_ok hhandles)⟩
  · obtain ⟨tuples, htuples, hdecode⟩ := except_bind_eq_ok hdecode
    cases hdecode
    exact ⟨rfl, restored_exact (parseLengthValueTuples_eq_ok payload htuples)⟩
  · obtain ⟨handle, hhandle, hdecode⟩ := except_bind_eq_ok hdecode
    cases hdecode
    exact ⟨rfl, restored_exact (of_handle hhandle).symm⟩
  · cases hdecode
    exact ⟨rfl, payload, rfl, .inr trivial⟩
  · obtain ⟨handle, hhandle, hdecode⟩ := except_bind_eq_ok hdecode
    cases hdecode
    exact ⟨rfl, restored_exact (of_handle hhandle).symm⟩
  · exact signedWrite_eq_ok hdecode
  · obtain ⟨first, hfirst, hdecode⟩ := except_bind_eq_ok hdecode
    obtain ⟨second, hsecond, hdecode⟩ := except_bind_eq_ok hdecode
    cases hdecode
    refine ⟨rfl, restored_exact ?_⟩
    exact (List.append_assoc ..).trans (of_handles hfirst hsecond).symm
  · obtain ⟨first, hfirst, hdecode⟩ := except_bind_eq_ok hdecode
    obtain ⟨second, hsecond, hdecode⟩ := except_bind_eq_ok hdecode
    cases hdecode
    refine ⟨rfl, restored_exact ?_⟩
    exact (List.append_assoc ..).trans (of_handles hfirst hsecond).symm
  · obtain ⟨flags, hflags, hdecode⟩ := except_bind_eq_ok hdecode
    cases hdecode
    exact ⟨rfl, _, octet_eq_ok hflags, .inr trivial⟩
  · cases hdecode
    exact ⟨rfl, payload, rfl, .inr trivial⟩
  · obtain ⟨handle, hhandle, hdecode⟩ := except_bind_eq_ok hdecode
    cases hdecode
    exact ⟨rfl, restored_exact (of_handle hhandle).symm⟩
  · obtain ⟨handle, hhandle, hdecode⟩ := except_bind_eq_ok hdecode
    cases hdecode
    exact ⟨rfl, restored_exact (of_handle hhandle).symm⟩
  · cases hdecode
    exact ⟨rfl, payload, rfl, .inr trivial⟩
  · cases hdecode
    exact ⟨rfl, restored_exact rfl⟩

/-- **The codec of ATT PDUs.**  A PDU is decoded from what it is encoded as, and a string of
    octets that is decoded is what its PDU is encoded as, up to octets behind a PDU of a fixed
    size. -/
theorem att_codec (pdu : AttPdu) (bytes : Bytes) :
    (pdu.Encodable → fromBytes pdu.toBytes = .ok pdu) ∧
      (fromBytes bytes = .ok pdu →
        ∃ trailing, bytes = pdu.toBytes ++ trailing ∧ (trailing = [] ∨ pdu.FixedSize)) := by
  refine ⟨decode_payload, ?_⟩
  intro hdecode
  cases bytes with
  | nil => cases hdecode
  | cons opCode payload =>
    obtain ⟨hopCode, trailing, hpayload, htrailing⟩ := decode_eq_ok hdecode
    exact ⟨trailing, congrArg₂ List.cons hopCode.symm hpayload, htrailing⟩

end AttPdu

end Att

end Bumble
