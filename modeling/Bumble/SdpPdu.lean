import Bumble.SdpRoundTrip

/-!
# SDP protocol data units (`bumble-sdp/src/pdu.rs`)

The seven PDUs with their common framing, and the cursor that reads the parameters by
position.  A PDU is read again from its octets if its parameters fit the length field and
its data elements are nested no deeper than the parser goes.
-/

namespace Bumble.Sdp

namespace PduId

@[match_pattern] def sdpErrorResponse : UInt8 := 0x01
@[match_pattern] def sdpServiceSearchRequest : UInt8 := 0x02
@[match_pattern] def sdpServiceSearchResponse : UInt8 := 0x03
@[match_pattern] def sdpServiceAttributeRequest : UInt8 := 0x04
@[match_pattern] def sdpServiceAttributeResponse : UInt8 := 0x05
@[match_pattern] def sdpServiceSearchAttributeRequest : UInt8 := 0x06
@[match_pattern] def sdpServiceSearchAttributeResponse : UInt8 := 0x07

end PduId

inductive SdpPdu where
  | errorResponse (transactionId errorCode : UInt16)
  | serviceSearchRequest (transactionId : UInt16) (serviceSearchPattern : DataElement)
      (maximumServiceRecordCount : UInt16) (continuationState : Bytes)
  | serviceSearchResponse (transactionId totalServiceRecordCount : UInt16)
      (serviceRecordHandleList : List UInt32) (continuationState : Bytes)
  | serviceAttributeRequest (transactionId : UInt16) (serviceRecordHandle : UInt32)
      (maximumAttributeByteCount : UInt16) (attributeIdList : DataElement)
      (continuationState : Bytes)
  | serviceAttributeResponse (transactionId : UInt16) (attributeList continuationState : Bytes)
  | serviceSearchAttributeRequest (transactionId : UInt16) (serviceSearchPattern : DataElement)
      (maximumAttributeByteCount : UInt16) (attributeIdList : DataElement)
      (continuationState : Bytes)
  | serviceSearchAttributeResponse (transactionId : UInt16)
      (attributeLists continuationState : Bytes)
deriving Repr

namespace SdpPdu

/-! ## 1. The encoder -/

def pduId : SdpPdu → UInt8
  | errorResponse .. => PduId.sdpErrorResponse
  | serviceSearchRequest .. => PduId.sdpServiceSearchRequest
  | serviceSearchResponse .. => PduId.sdpServiceSearchResponse
  | serviceAttributeRequest .. => PduId.sdpServiceAttributeRequest
  | serviceAttributeResponse .. => PduId.sdpServiceAttributeResponse
  | serviceSearchAttributeRequest .. => PduId.sdpServiceSearchAttributeRequest
  | serviceSearchAttributeResponse .. => PduId.sdpServiceSearchAttributeResponse

def transactionId : SdpPdu → UInt16
  | errorResponse transactionId _ => transactionId
  | serviceSearchRequest transactionId .. => transactionId
  | serviceSearchResponse transactionId .. => transactionId
  | serviceAttributeRequest transactionId .. => transactionId
  | serviceAttributeResponse transactionId .. => transactionId
  | serviceSearchAttributeRequest transactionId .. => transactionId
  | serviceSearchAttributeResponse transactionId .. => transactionId

/-- `as u16`, in front of what it counts. -/
def lengthToBe (length : Nat) : Bytes := u16ToBe (UInt16.ofNat length)

/-- Everything after the header.  The error code alone is little-endian. -/
def parameters : SdpPdu → Except Error Bytes
  | errorResponse _ errorCode => .ok (u16ToLe errorCode)
  | serviceSearchRequest _ pattern maximum continuationState => do
    pure ((← pattern.toBytes) ++ (u16ToBe maximum ++ continuationState))
  | serviceSearchResponse _ total handles continuationState =>
    .ok (u16ToBe total ++ (lengthToBe handles.length ++
      (handles.flatMap u32ToBe ++ continuationState)))
  | serviceAttributeRequest _ handle maximum ids continuationState => do
    pure (u32ToBe handle ++ (u16ToBe maximum ++ ((← ids.toBytes) ++ continuationState)))
  | serviceAttributeResponse _ attributeList continuationState =>
    .ok (lengthToBe attributeList.length ++ (attributeList ++ continuationState))
  | serviceSearchAttributeRequest _ pattern maximum ids continuationState => do
    let pattern ← pattern.toBytes
    pure (pattern ++ (u16ToBe maximum ++ ((← ids.toBytes) ++ continuationState)))
  | serviceSearchAttributeResponse _ attributeLists continuationState =>
    .ok (lengthToBe attributeLists.length ++ (attributeLists ++ continuationState))

def toBytes (pdu : SdpPdu) : Except Error Bytes := do
  let parameters ← pdu.parameters
  pure (pdu.pduId :: (u16ToBe pdu.transactionId ++ (lengthToBe parameters.length ++ parameters)))

end SdpPdu

/-! ## 2. The cursor -/

/-- A forward-only reader over the parameters, at a position. -/
abbrev Cursor := ReaderT Bytes (StateT Nat (Except Error))

namespace Cursor

/-- `get(pos..pos + count)`. -/
def take (count : Nat) (what : String) : Cursor Bytes := fun data pos =>
  if pos + count ≤ data.length then .ok ((data.drop pos).take count, pos + count)
  else .error (truncated what)

def u16 : Cursor UInt16 := do
  let octets ← take 2 "u16"
  pure (UInt16.ofNat (beToNat octets))

def u16Le : Cursor UInt16 := do
  let octets ← take 2 "u16"
  pure (UInt16.ofNat (beToNat octets.reverse))

def u32 : Cursor UInt32 := do
  let octets ← take 4 "u32"
  pure (UInt32.ofNat (beToNat octets))

def dataElement : Cursor DataElement := fun data pos => do
  let (next, element) ← DataElement.parseFromBytes data pos
  pure (element, next)

def lengthPrefixedBytes : Cursor Bytes := do
  let length ← u16
  take length.toNat "length-prefixed bytes"

def rest : Cursor Bytes := fun data pos => .ok (data.drop pos, data.length)

def replicate {α : Type} (reader : Cursor α) : Nat → Cursor (List α)
  | 0 => pure []
  | count + 1 => do
    let value ← reader
    let values ← replicate reader count
    pure (value :: values)

end Cursor

namespace SdpPdu

/-- `{id:#04x}`. -/
def hexId (id : UInt8) : String :=
  let digits := Nat.toDigits 16 id.toNat
  "0x" ++ String.ofList (List.replicate (2 - digits.length) '0' ++ digits)

def fromParameters (id : UInt8) (transactionId : UInt16) : Cursor SdpPdu :=
  match id with
  | PduId.sdpErrorResponse => do
    pure (errorResponse transactionId (← Cursor.u16Le))
  | PduId.sdpServiceSearchRequest => do
    let pattern ← Cursor.dataElement
    let maximum ← Cursor.u16
    let continuationState ← Cursor.rest
    pure (serviceSearchRequest transactionId pattern maximum continuationState)
  | PduId.sdpServiceSearchResponse => do
    let total ← Cursor.u16
    let count ← Cursor.u16
    let handles ← Cursor.replicate Cursor.u32 count.toNat
    let continuationState ← Cursor.rest
    pure (serviceSearchResponse transactionId total handles continuationState)
  | PduId.sdpServiceAttributeRequest => do
    let handle ← Cursor.u32
    let maximum ← Cursor.u16
    let ids ← Cursor.dataElement
    let continuationState ← Cursor.rest
    pure (serviceAttributeRequest transactionId handle maximum ids continuationState)
  | PduId.sdpServiceAttributeResponse => do
    let attributeList ← Cursor.lengthPrefixedBytes
    let continuationState ← Cursor.rest
    pure (serviceAttributeResponse transactionId attributeList continuationState)
  | PduId.sdpServiceSearchAttributeRequest => do
    let pattern ← Cursor.dataElement
    let maximum ← Cursor.u16
    let ids ← Cursor.dataElement
    let continuationState ← Cursor.rest
    pure (serviceSearchAttributeRequest transactionId pattern maximum ids continuationState)
  | PduId.sdpServiceSearchAttributeResponse => do
    let attributeLists ← Cursor.lengthPrefixedBytes
    let continuationState ← Cursor.rest
    pure (serviceSearchAttributeResponse transactionId attributeLists continuationState)
  | other => throw (.invalidPacket s!"unknown SDP PDU id {hexId other}")

def fromBytes (pdu : Bytes) : Except Error SdpPdu :=
  match pdu with
  | id :: high :: low :: lengthHigh :: lengthLow :: later =>
    let transactionId := UInt16.ofNat (beToNat [high, low])
    let parameterLength := beToNat [lengthHigh, lengthLow]
    if parameterLength ≤ later.length then do
      let (result, _) ← fromParameters id transactionId (later.take parameterLength) 0
      pure result
    else .error (truncated "SDP PDU parameters")
  | _ => .error (truncated "SDP PDU header")

end SdpPdu

namespace Cursor

/-! ## 3. What a cursor reads -/

variable {α β : Type}

/-- The reader takes exactly `bytes`, wherever they stand, and returns `value`. -/
def Reads (reader : Cursor α) (bytes : Bytes) (value : α) : Prop :=
  ∀ before after : Bytes, reader (before ++ (bytes ++ after)) before.length =
    .ok (value, before.length + bytes.length)

/-- The reader makes `value` from `bytes` at the end of the parameters. -/
def Ends (reader : Cursor α) (bytes : Bytes) (value : α) : Prop :=
  ∀ before : Bytes, ∃ pos, reader (before ++ bytes) before.length = .ok (value, pos)

theorem reads_pure (value : α) : Reads (pure value) [] value :=
  fun _ _ => rfl

theorem Reads.bind {first : Cursor α} {next : α → Cursor β} {bytes later : Bytes}
    {value : α} {result : β} (hfirst : Reads first bytes value)
    (hnext : Reads (next value) later result) : Reads (first >>= next) (bytes ++ later) result := by
  intro before after
  have htail := hnext (before ++ bytes) after
  rw [List.append_assoc, List.length_append] at htail
  rw [List.append_assoc, List.length_append, ← Nat.add_assoc, ← htail]
  change (first (before ++ (bytes ++ (later ++ after))) before.length).bind _ = _
  rw [hfirst before (later ++ after)]
  rfl

theorem laws : ReadLaws Cursor Reads where
  pure := reads_pure
  bind := Reads.bind

theorem Reads.last {first : Cursor α} {next : α → Cursor β} {bytes : Bytes} {value : α}
    {result : β} (hfirst : Reads first bytes value) (hnext : Reads (next value) [] result) :
    Reads (first >>= next) bytes result :=
  laws.last hfirst hnext

theorem Reads.ends {first : Cursor α} {next : α → Cursor β} {bytes later : Bytes} {value : α}
    {result : β} (hfirst : Reads first bytes value) (hnext : Ends (next value) later result) :
    Ends (first >>= next) (bytes ++ later) result := by
  intro before
  obtain ⟨pos, htail⟩ := hnext (before ++ bytes)
  rw [List.append_assoc, List.length_append] at htail
  refine ⟨pos, ?_⟩
  change (first (before ++ (bytes ++ later)) before.length).bind _ = _
  rw [hfirst before later]
  exact htail

theorem Reads.toEnds {reader : Cursor α} {bytes : Bytes} {value : α}
    (hreads : Reads reader bytes value) : Ends reader bytes value := by
  intro before
  have hall := hreads before []
  rw [List.append_nil] at hall
  exact ⟨_, hall⟩

theorem ends_rest (later : Bytes) (f : Bytes → β) :
    Ends (do
      let remaining ← rest
      pure (f remaining)) later (f later) := by
  intro before
  refine ⟨(before ++ later).length, ?_⟩
  change Except.ok (f ((before ++ later).drop before.length), _) = _
  rw [List.drop_left]

theorem reads_take (bytes : Bytes) (what : String) :
    Reads (take bytes.length what) bytes bytes := by
  intro before after
  have hfits : before.length + bytes.length ≤ (before ++ (bytes ++ after)).length := by
    rw [List.length_append, List.length_append]
    omega
  rw [take, if_pos hfits, List.drop_left, List.take_left]

theorem reads_decoded {decode : Bytes → α} {bytes : Bytes} {count : Nat} {value : α}
    (what : String) (hlength : bytes.length = count) (hdecode : decode bytes = value) :
    Reads (do
      let octets ← take count what
      pure (decode octets)) bytes value := by
  subst hlength
  subst hdecode
  exact (reads_take bytes what).last (reads_pure _)

theorem reads_u16 (value : UInt16) : Reads u16 (u16ToBe value) value := by
  apply reads_decoded "u16" (length_natToBe 2 value.toNat)
  rw [beToNat_natToBe 2 value.toNat_lt]
  exact UInt16.ofNat_toNat

theorem reads_u16Le (value : UInt16) : Reads u16Le (u16ToLe value) value := by
  have hoctets : (u16ToLe value).reverse = u16ToBe value := by
    have hhigh : value.toNat / 256 % 256 = value.toNat / 256 :=
      Nat.mod_eq_of_lt (Nat.div_lt_of_lt_mul value.toNat_lt)
    change [UInt8.ofNat (value.toNat / 256), UInt8.ofNat (value.toNat % 256)] =
      [UInt8.ofNat (value.toNat / 256 % 256), UInt8.ofNat (value.toNat % 256)]
    rw [hhigh]
  have hlength : (u16ToLe value).length = 2 := rfl
  apply reads_decoded "u16" hlength
  rw [hoctets, u16ToBe, beToNat_natToBe 2 value.toNat_lt]
  exact UInt16.ofNat_toNat

theorem reads_u32 (value : UInt32) : Reads u32 (u32ToBe value) value := by
  apply reads_decoded "u32" (length_natToBe 4 value.toNat)
  rw [beToNat_natToBe 4 value.toNat_lt]
  exact UInt32.ofNat_toNat

theorem reads_dataElement {element : DataElement} {bytes : Bytes}
    (hbytes : element.toBytes = .ok bytes) (hdepth : element.depth ≤ maxNesting) :
    Reads dataElement bytes element := by
  intro before after
  have hparse := DataElement.parseAt_toBytes element hbytes before after hdepth
  rw [dataElement, DataElement.parseFromBytes, hparse]
  rfl

theorem reads_lengthPrefixedBytes {bytes : Bytes} (hlength : bytes.length < 65536) :
    Reads lengthPrefixedBytes (SdpPdu.lengthToBe bytes.length ++ bytes) bytes := by
  have htake := reads_take bytes "length-prefixed bytes"
  have hcount : (UInt16.ofNat bytes.length).toNat = bytes.length :=
    UInt16.toNat_ofNat_of_lt' hlength
  rw [← hcount] at htake
  exact (reads_u16 _).bind htake

theorem reads_replicate {reader : Cursor α} {encode : α → Bytes} (values : List α)
    (hreads : ∀ value ∈ values, Reads reader (encode value) value) :
    Reads (replicate reader values.length) (values.flatMap encode) values :=
  laws.repeated rfl (fun _ => rfl) values hreads

end Cursor

/-! ## 4. The round trip -/

namespace SdpPdu

def dataElements : SdpPdu → List DataElement
  | serviceSearchRequest _ pattern _ _ => [pattern]
  | serviceAttributeRequest _ _ _ ids _ => [ids]
  | serviceSearchAttributeRequest _ pattern _ ids _ => [pattern, ids]
  | errorResponse .. | serviceSearchResponse .. | serviceAttributeResponse ..
  | serviceSearchAttributeResponse .. => []

theorem length_lengthToBe (length : Nat) : (lengthToBe length).length = 2 := length_natToBe 2 _

theorem length_handles (handles : List UInt32) :
    (handles.flatMap u32ToBe).length = 4 * handles.length := by
  induction handles with
  | nil => rfl
  | cons handle handles ih =>
    rw [List.flatMap_cons, List.length_append, ih, u32ToBe, length_natToBe, List.length_cons]
    omega

theorem beToNat_lengthToBe {length : Nat} (hlength : length < 65536) :
    beToNat (lengthToBe length) = length := by
  rw [lengthToBe, u16ToBe, beToNat_natToBe 2 (UInt16.toNat_lt _)]
  exact UInt16.toNat_ofNat_of_lt' hlength

/-- The parameters of a PDU read back and nothing of them is left. -/
theorem ends_fromParameters {pdu : SdpPdu} {bytes : Bytes} (hbytes : pdu.parameters = .ok bytes)
    (hlength : bytes.length ≤ 65535)
    (hdepth : ∀ element ∈ pdu.dataElements, element.depth ≤ maxNesting) :
    Cursor.Ends (fromParameters pdu.pduId pdu.transactionId) bytes pdu := by
  cases pdu with
  | errorResponse transactionId errorCode =>
    cases hbytes
    apply Cursor.Reads.toEnds
    apply (Cursor.reads_u16Le errorCode).last
    exact Cursor.reads_pure _
  | serviceSearchRequest transactionId pattern maximum continuationState =>
    obtain ⟨first, hfirst, hbytes⟩ := except_bind_eq_ok hbytes
    cases hbytes
    apply (Cursor.reads_dataElement hfirst (hdepth pattern List.mem_cons_self)).ends
    apply (Cursor.reads_u16 maximum).ends
    exact Cursor.ends_rest continuationState _
  | serviceSearchResponse transactionId total handles continuationState =>
    cases hbytes
    rw [List.length_append, List.length_append, List.length_append, length_handles] at hlength
    have hcount : handles.length < 65536 := by omega
    have hhandles := Cursor.reads_replicate handles fun handle _ => Cursor.reads_u32 handle
    rw [← UInt16.toNat_ofNat_of_lt' (n := handles.length) hcount] at hhandles
    apply (Cursor.reads_u16 total).ends
    apply (Cursor.reads_u16 _).ends
    apply hhandles.ends
    exact Cursor.ends_rest continuationState _
  | serviceAttributeRequest transactionId handle maximum ids continuationState =>
    obtain ⟨second, hsecond, hbytes⟩ := except_bind_eq_ok hbytes
    cases hbytes
    apply (Cursor.reads_u32 handle).ends
    apply (Cursor.reads_u16 maximum).ends
    apply (Cursor.reads_dataElement hsecond (hdepth ids List.mem_cons_self)).ends
    exact Cursor.ends_rest continuationState _
  | serviceAttributeResponse transactionId attributeList continuationState =>
    cases hbytes
    rw [← List.append_assoc] at hlength ⊢
    rw [List.length_append, List.length_append, length_lengthToBe] at hlength
    apply (Cursor.reads_lengthPrefixedBytes (by omega)).ends
    exact Cursor.ends_rest continuationState _
  | serviceSearchAttributeRequest transactionId pattern maximum ids continuationState =>
    obtain ⟨first, hfirst, hbytes⟩ := except_bind_eq_ok hbytes
    obtain ⟨second, hsecond, hbytes⟩ := except_bind_eq_ok hbytes
    cases hbytes
    have hids := hdepth ids (List.mem_cons_of_mem _ List.mem_cons_self)
    apply (Cursor.reads_dataElement hfirst (hdepth pattern List.mem_cons_self)).ends
    apply (Cursor.reads_u16 maximum).ends
    apply (Cursor.reads_dataElement hsecond hids).ends
    exact Cursor.ends_rest continuationState _
  | serviceSearchAttributeResponse transactionId attributeLists continuationState =>
    cases hbytes
    rw [← List.append_assoc] at hlength ⊢
    rw [List.length_append, List.length_append, length_lengthToBe] at hlength
    apply (Cursor.reads_lengthPrefixedBytes (by omega)).ends
    exact Cursor.ends_rest continuationState _

/-- **The codec of data elements and PDUs.**  Wherever what an element is encoded as stands,
    it is parsed as that element, and a PDU whose parameters fit the length field is read
    again; both for containers that are nested at most 32 deep. -/
theorem sdp_codec :
    (∀ (element : DataElement) (bytes before after : Bytes), element.toBytes = .ok bytes →
      element.depth ≤ maxNesting →
      DataElement.parseFromBytes (before ++ bytes ++ after) before.length =
        .ok (before.length + bytes.length, element)) ∧
    ∀ (pdu : SdpPdu) (parameters bytes : Bytes), pdu.parameters = .ok parameters →
      parameters.length ≤ 65535 → pdu.toBytes = .ok bytes →
      (∀ element ∈ pdu.dataElements, element.depth ≤ maxNesting) → fromBytes bytes = .ok pdu := by
  constructor
  · intro element bytes before after hbytes hdepth
    rw [List.append_assoc]
    exact DataElement.parseAt_toBytes element hbytes before after hdepth
  · intro pdu parameters bytes hparameters hlength hbytes hdepth
    rw [toBytes, hparameters] at hbytes
    cases hbytes
    obtain ⟨pos, hread⟩ := ends_fromParameters hparameters hlength hdepth []
    have htransaction : UInt16.ofNat (beToNat (u16ToBe pdu.transactionId)) = pdu.transactionId := by
      rw [u16ToBe, beToNat_natToBe 2 (UInt16.toNat_lt _), UInt16.ofNat_toNat]
    have hfield := beToNat_lengthToBe (Nat.lt_succ_of_le hlength)
    change (if beToNat (lengthToBe parameters.length) ≤ parameters.length then
      (do
        let (result, _) ← fromParameters pdu.pduId
          (UInt16.ofNat (beToNat (u16ToBe pdu.transactionId)))
          (parameters.take (beToNat (lengthToBe parameters.length))) 0
        pure result)
      else .error (truncated "SDP PDU parameters")) = Except.ok pdu
    rw [htransaction, hfield, if_pos (le_refl _), List.take_length]
    change (fromParameters pdu.pduId pdu.transactionId ([] ++ parameters) ([] : Bytes).length).bind
      _ = _
    rw [hread]
    rfl

def nested : Nat → DataElement
  | 0 => .sequence []
  | depth + 1 => .sequence [nested depth]

/-- A search pattern of 33 sequences, one in the other, is sent and is refused. -/
theorem deep_pattern_refused : ∃ (pdu : SdpPdu) (parameters bytes : Bytes),
    pdu.parameters = .ok parameters ∧ parameters.length ≤ 65535 ∧ pdu.toBytes = .ok bytes ∧
      fromBytes bytes ≠ .ok pdu := by
  have hsmall : ((serviceSearchRequest 1 (nested 32) 1 [0]).parameters.toOption.any
      fun parameters => parameters.length ≤ 65535) = true := by decide +kernel
  have hrefused : ((serviceSearchRequest 1 (nested 32) 1 [0]).toBytes.toOption.any
      fun bytes => !(fromBytes bytes).isOk) = true := by decide +kernel
  generalize serviceSearchRequest 1 (nested 32) 1 [0] = pdu at hsmall hrefused
  cases hparameters : pdu.parameters with
  | error error =>
    rw [hparameters] at hsmall
    cases hsmall
  | ok parameters =>
    cases hbytes : pdu.toBytes with
    | error error =>
      rw [hbytes] at hrefused
      cases hrefused
    | ok bytes =>
      rw [hparameters] at hsmall
      rw [hbytes] at hrefused
      refine ⟨pdu, parameters, bytes, hparameters, of_decide_eq_true hsmall, hbytes, ?_⟩
      intro hread
      change (!(fromBytes bytes).isOk) = true at hrefused
      rw [hread] at hrefused
      cases hrefused

/-- An integer in a sequence, between other octets and as a search pattern. -/
theorem sequence_parsed :
    DataElement.parseFromBytes ([7] ++ [0x35, 0x02, 0x08, 0x2A] ++ [9]) 1 =
      .ok (5, .sequence [.unsignedInteger 42 1]) ∧
    fromBytes [2, 0, 1, 0, 7, 0x35, 0x02, 0x08, 0x2A, 0, 5, 0] =
      .ok (serviceSearchRequest 1 (.sequence [.unsignedInteger 42 1]) 5 [0]) := by
  constructor
  · exact sdp_codec.1 (.sequence [.unsignedInteger 42 1]) [0x35, 0x02, 0x08, 0x2A] [7] [9] rfl
      (by decide)
  · apply sdp_codec.2 (serviceSearchRequest 1 (.sequence [.unsignedInteger 42 1]) 5 [0])
      [0x35, 0x02, 0x08, 0x2A, 0, 5, 0] _ rfl (by decide) rfl
    intro element helement
    cases List.mem_singleton.mp helement
    decide

end SdpPdu

end Bumble.Sdp
