import Bumble.SdpIntegers

/-!
# Data elements are parsed again

What an element is encoded as is parsed as that element, wherever it stands in a string
of octets, if its containers are nested no deeper than the parser goes.  The induction is
on the element; a container is parsed against the offset of its end.
-/

namespace Bumble.Sdp.DataElement

/-! ## 1. Headers -/

theorem header_octet {code index : UInt8} (hcode : code.toNat < 32) (hindex : index.toNat < 8) :
    (code <<< 3 ||| index) >>> 3 = code ∧ (code <<< 3 ||| index) &&& 7 = index := by
  have hall : ∀ low : Fin 8, ∀ high : Fin 32,
      (UInt8.ofNat high <<< 3 ||| UInt8.ofNat low) >>> 3 = UInt8.ofNat high ∧
        (UInt8.ofNat high <<< 3 ||| UInt8.ofNat low) &&& 7 = UInt8.ofNat low := by
    decide
  have hboth := hall ⟨index.toNat, hindex⟩ ⟨code.toNat, hcode⟩
  rwa [UInt8.ofNat_toNat, UInt8.ofNat_toNat] at hboth

/-- What a size index and the octets after it say about the size of a value. -/
def SaysSize (code index : UInt8) (sizeBytes : Bytes) (size : Nat) : Prop :=
  match index.toNat with
  | 0 => sizeBytes = [] ∧ size = if code = TypeCode.nil then 0 else 1
  | 1 => sizeBytes = [] ∧ size = 2
  | 2 => sizeBytes = [] ∧ size = 4
  | 3 => sizeBytes = [] ∧ size = 8
  | 4 => sizeBytes = [] ∧ size = 16
  | 5 => sizeBytes.length = 1 ∧ beToNat sizeBytes = size
  | 6 => sizeBytes.length = 2 ∧ beToNat sizeBytes = size
  | 7 => sizeBytes.length = 4 ∧ beToNat sizeBytes = size
  | _ => False

theorem saysSize_index {code index : UInt8} {sizeBytes : Bytes} {size : Nat}
    (hstated : SaysSize code index sizeBytes size) : index.toNat < 8 := by
  rw [SaysSize] at hstated
  split at hstated <;> first | omega | exact hstated.elim

theorem readBe_append {front octets later : Bytes} {count : Nat} (text : String)
    (hlength : octets.length = count) :
    readBe (front ++ (octets ++ later)) front.length count text = .ok (beToNat octets) := by
  rw [readBe, List.drop_left, List.take_left' hlength, if_pos hlength]

theorem parseSize_append {code index : UInt8} {sizeBytes : Bytes} {size : Nat}
    (hstated : SaysSize code index sizeBytes size) (front later : Bytes) :
    parseSize (front ++ (sizeBytes ++ later)) code index front.length =
      .ok (front.length + sizeBytes.length, size) := by
  rw [SaysSize] at hstated
  rw [parseSize]
  generalize index.toNat = number at hstated ⊢
  split at hstated
  case h_1 | h_2 | h_3 | h_4 | h_5 =>
    obtain ⟨rfl, rfl⟩ := hstated
    rfl
  case h_6 | h_7 | h_8 =>
    obtain ⟨hlength, rfl⟩ := hstated
    rw [readBe_append _ hlength, hlength]
    rfl
  case h_9 => exact hstated.elim

theorem parseHeader_append {code index : UInt8} {sizeBytes data : Bytes} (hcode : code.toNat < 32)
    (hstated : SaysSize code index sizeBytes data.length) (before after : Bytes) :
    parseHeader (before ++ (code <<< 3 ||| index) :: (sizeBytes ++ (data ++ after))) before.length =
      .ok (code, before.length + 1 + sizeBytes.length, data.length) := by
  obtain ⟨htype, hbits⟩ := header_octet hcode (saysSize_index hstated)
  have hsize := parseSize_append hstated (before ++ [code <<< 3 ||| index]) (data ++ after)
  rw [List.append_assoc, List.length_append, List.length_singleton] at hsize
  have hend : before.length + 1 + sizeBytes.length + data.length ≤
      (before ++ (code <<< 3 ||| index) :: (sizeBytes ++ (data ++ after))).length := by
    simp only [List.length_append, List.length_cons]
    omega
  unfold parseHeader
  rw [List.getElem?_append_right (le_refl _), Nat.sub_self, List.getElem?_cons_zero]
  dsimp only
  rw [htype, hbits]
  change (parseSize
    (before ++ ([code <<< 3 ||| index] ++ (sizeBytes ++ (data ++ after)))) _ _ _).bind _ = _
  rw [hsize]
  change (if _ then _ else _) = _
  rw [if_pos hend]
  rfl

/-! ## 2. The header that the encoder writes -/

theorem saysSize_fixed {code : UInt8} {size : Nat} {index : UInt8}
    (hindex : fixedSizeIndex size = .ok index) (hpositive : size ≠ 0)
    (hcode : code ≠ TypeCode.nil) : SaysSize code index [] size := by
  rw [fixedSizeIndex] at hindex
  repeat' split at hindex
  all_goals
    cases hindex
    try subst_vars
    try exact ⟨rfl, rfl⟩
  next hsmall =>
    refine ⟨rfl, ?_⟩
    rw [if_neg hcode]
    omega

theorem saysSize_variable {code index : UInt8} {size : Nat} {sizeBytes : Bytes}
    (hheader : variableSizeHeader size = .ok (index, sizeBytes)) :
    SaysSize code index sizeBytes size := by
  rw [variableSizeHeader] at hheader
  split at hheader
  · next hsize =>
    cases hheader
    refine ⟨rfl, ?_⟩
    change 0 * 256 + (UInt8.ofNat size).toNat = size
    rw [UInt8.toNat_ofNat']
    omega
  · split at hheader
    · next hsize =>
      cases hheader
      exact ⟨length_natToBe 2 size, beToNat_natToBe 2 (by omega)⟩
    · split at hheader
      · next hsize =>
        cases hheader
        exact ⟨length_natToBe 4 size, beToNat_natToBe 4 (by omega)⟩
      · cases hheader

theorem integer_pos {size : UInt8} (hsize : size ∈ integerSizes) : size.toNat ≠ 0 := by
  rcases mem_integerSizes hsize with rfl | rfl | rfl | rfl | rfl <;> decide

theorem framed_eq_ok {element : DataElement} {data bytes : Bytes}
    (hdata : element.valueBytes = .ok data) (hframed : framed element data = .ok bytes) :
    ∃ index sizeBytes, SaysSize element.typeCode index sizeBytes data.length ∧
      bytes = (element.typeCode <<< 3 ||| index) :: (sizeBytes ++ data) := by
  obtain ⟨⟨index, sizeBytes⟩, hheader, hframed⟩ := except_bind_eq_ok hframed
  cases hframed
  refine ⟨index, sizeBytes, ?_, rfl⟩
  cases element with
  | nil =>
    cases hheader
    cases hdata
    exact ⟨rfl, rfl⟩
  | boolean value =>
    cases hheader
    cases hdata
    exact ⟨rfl, rfl⟩
  | unsignedInteger value size =>
    obtain ⟨hsize, hlength, -⟩ := unsignedToBytes_eq_ok hdata
    obtain ⟨fixed, hfixed, hheader⟩ := except_bind_eq_ok hheader
    cases hheader
    exact saysSize_fixed hfixed (by rw [hlength]; exact integer_pos hsize)
      (show TypeCode.unsignedInteger ≠ TypeCode.nil by decide)
  | signedInteger value size =>
    obtain ⟨hsize, hlength, -⟩ := signedToBytes_eq_ok hdata
    obtain ⟨fixed, hfixed, hheader⟩ := except_bind_eq_ok hheader
    cases hheader
    exact saysSize_fixed hfixed (by rw [hlength]; exact integer_pos hsize)
      (show TypeCode.signedInteger ≠ TypeCode.nil by decide)
  | uuid id =>
    obtain ⟨fixed, hfixed, hheader⟩ := except_bind_eq_ok hheader
    cases hheader
    cases hdata
    refine saysSize_fixed hfixed ?_ (show TypeCode.uuid ≠ TypeCode.nil by decide)
    rw [List.length_reverse]
    rcases id.width with hwidth | hwidth | hwidth
    all_goals
      change id.bytes.length ≠ 0
      omega
  | textString | sequence | alternative | url => exact saysSize_variable hheader

theorem typeCode_lt (element : DataElement) : element.typeCode.toNat < 32 := by
  cases element <;> simp only [typeCode] <;> decide

/-! ## 3. The value -/

mutual

/-- How deep the containers of an element are nested. -/
def depth : DataElement → Nat
  | sequence elements => elementsDepth elements + 1
  | alternative elements => elementsDepth elements + 1
  | nil | unsignedInteger .. | signedInteger .. | uuid _ | textString _ | boolean _ | url _ => 0

def elementsDepth : List DataElement → Nat
  | [] => 0
  | element :: elements => max element.depth (elementsDepth elements)

end

theorem elementOf_uuid (id : Uuid) (children : Except Error (List DataElement)) :
    elementOf TypeCode.uuid id.bytes.reverse children = .ok (uuid id) := by
  simp only [elementOf]
  rw [List.reverse_reverse, Uuid.fromBytes_bytes]
  rfl

theorem elementOf_url (text : String) (children : Except Error (List DataElement)) :
    elementOf TypeCode.url (stringBytes text) children = .ok (url text) := by
  simp only [elementOf]
  rw [stringFromUtf8_bytes]
  rfl

theorem elementOf_sequence (value : Bytes) {children : Except Error (List DataElement)}
    {elements : List DataElement} (hchildren : children = .ok elements) :
    elementOf TypeCode.sequence value children = .ok (sequence elements) := by
  subst hchildren
  rfl

theorem elementOf_alternative (value : Bytes) {children : Except Error (List DataElement)}
    {elements : List DataElement} (hchildren : children = .ok elements) :
    elementOf TypeCode.alternative value children = .ok (alternative elements) := by
  subst hchildren
  rfl

/-- The children of a container, with the depth that is left. -/
def childrenAt (string : Bytes) (nesting valueStart valueEnd : Nat) :
    Except Error (List DataElement) :=
  match nesting with
  | 0 => .error (.invalidPacket s!"nesting exceeds max depth ({maxNesting})")
  | nesting + 1 => parseContainer (parseAt string nesting) valueStart valueEnd

theorem parseAt_eq (string : Bytes) (nesting offset : Nat) :
    parseAt string nesting offset = (do
      let (elementType, valueStart, valueSize) ← parseHeader string offset
      let element ← elementOf elementType ((string.drop valueStart).take valueSize)
        (childrenAt string nesting valueStart (valueStart + valueSize))
      pure (valueStart + valueSize, element)) := by
  cases nesting <;> rfl

theorem parseAt_append {element : DataElement} {data bytes : Bytes} {index : UInt8}
    {sizeBytes : Bytes} (hstated : SaysSize element.typeCode index sizeBytes data.length)
    (hbytes : bytes = (element.typeCode <<< 3 ||| index) :: (sizeBytes ++ data))
    (before after : Bytes) {nesting : Nat}
    (hvalue : elementOf element.typeCode data
      (childrenAt (before ++ (bytes ++ after)) nesting (before.length + 1 + sizeBytes.length)
        (before.length + 1 + sizeBytes.length + data.length)) = .ok element) :
    parseAt (before ++ (bytes ++ after)) nesting before.length =
      .ok (before.length + bytes.length, element) := by
  have hheader := parseHeader_append (typeCode_lt element) hstated before after
  have hshape : (element.typeCode <<< 3 ||| index) :: (sizeBytes ++ (data ++ after)) =
      bytes ++ after := by
    rw [hbytes, List.cons_append, List.append_assoc]
  have hstart : before ++ (bytes ++ after) =
      (before ++ [element.typeCode <<< 3 ||| index] ++ sizeBytes) ++ (data ++ after) := by
    rw [← hshape, List.append_assoc, List.append_assoc]
    rfl
  have hdata : ((before ++ (bytes ++ after)).drop (before.length + 1 + sizeBytes.length)).take
      data.length = data := by
    rw [hstart, List.drop_left', List.take_left]
    rw [List.length_append, List.length_append, List.length_singleton]
  have hend : before.length + 1 + sizeBytes.length + data.length =
      before.length + bytes.length := by
    rw [hbytes, List.length_cons, List.length_append]
    omega
  rw [hshape] at hheader
  rw [parseAt_eq, hheader]
  change (elementOf _ (List.take data.length _) _).bind _ = _
  rw [hdata, hvalue, ← hend]
  rfl

theorem childrenAt_append {header : UInt8} {before sizeBytes data after bytes : Bytes}
    {nesting : Nat} {elements : List DataElement} (hshape : bytes = header :: (sizeBytes ++ data))
    (hloop : parseElements
      (parseAt (before ++ [header] ++ sizeBytes ++ (data ++ after)) nesting)
      ((before ++ [header] ++ sizeBytes).length + data.length) data.length
      (before ++ [header] ++ sizeBytes).length =
        .ok ((before ++ [header] ++ sizeBytes).length + data.length, elements)) :
    childrenAt (before ++ (bytes ++ after)) (nesting + 1) (before.length + 1 + sizeBytes.length)
      (before.length + 1 + sizeBytes.length + data.length) = .ok elements := by
  have hstring : before ++ [header] ++ sizeBytes ++ (data ++ after) =
      before ++ (bytes ++ after) := by
    rw [hshape, List.cons_append, List.append_assoc, List.append_assoc, List.append_assoc]
    rfl
  rw [hstring, List.length_append, List.length_append, List.length_singleton] at hloop
  rw [childrenAt, parseContainer, Nat.add_sub_cancel_left, hloop]
  change (if _ then _ else _) = _
  rw [if_neg (not_not.mpr rfl)]
  rfl

mutual

/-- **Elements are parsed again.** -/
theorem parseAt_toBytes (element : DataElement) {bytes : Bytes}
    (hbytes : element.toBytes = .ok bytes) (before after : Bytes) {nesting : Nat}
    (hdepth : element.depth ≤ nesting) :
    parseAt (before ++ (bytes ++ after)) nesting before.length =
      .ok (before.length + bytes.length, element) := by
  obtain ⟨data, hdata, hframed⟩ := except_bind_eq_ok hbytes
  obtain ⟨index, sizeBytes, hstated, hshape⟩ := framed_eq_ok hdata hframed
  refine parseAt_append hstated hshape before after ?_
  cases element with
  | nil => rfl
  | unsignedInteger value size =>
    obtain ⟨hsize, hlength, hvalue⟩ := unsignedToBytes_eq_ok hdata
    change Except.ok (unsignedInteger _ _) = _
    rw [hlength, UInt8.ofNat_toNat, hvalue]
  | signedInteger value size =>
    obtain ⟨hsize, hlength, hvalue⟩ := signedToBytes_eq_ok hdata
    change Except.ok (signedInteger _ _) = _
    rw [hlength, UInt8.ofNat_toNat, hvalue]
  | uuid id =>
    cases hdata
    exact elementOf_uuid id _
  | textString text =>
    cases hdata
    rfl
  | boolean value =>
    cases hdata
    cases value <;> rfl
  | sequence elements =>
    rw [depth] at hdepth
    rw [valueBytes] at hdata
    obtain ⟨inner, rfl⟩ : ∃ inner, nesting = inner + 1 := ⟨nesting - 1, by omega⟩
    have hloop := parseElements_toBytes elements hdata
      (before ++ [TypeCode.sequence <<< 3 ||| index] ++ sizeBytes) after
      (Nat.le_of_succ_le_succ hdepth) (le_refl _)
    exact elementOf_sequence data (childrenAt_append hshape hloop)
  | alternative elements =>
    rw [depth] at hdepth
    rw [valueBytes] at hdata
    obtain ⟨inner, rfl⟩ : ∃ inner, nesting = inner + 1 := ⟨nesting - 1, by omega⟩
    have hloop := parseElements_toBytes elements hdata
      (before ++ [TypeCode.alternative <<< 3 ||| index] ++ sizeBytes) after
      (Nat.le_of_succ_le_succ hdepth) (le_refl _)
    exact elementOf_alternative data (childrenAt_append hshape hloop)
  | url text =>
    cases hdata
    exact elementOf_url text _

theorem parseElements_toBytes (elements : List DataElement) {bytes : Bytes}
    (hbytes : elementsBytes elements = .ok bytes) (before after : Bytes) {nesting : Nat}
    (hdepth : elementsDepth elements ≤ nesting) {rounds : Nat} (hrounds : bytes.length ≤ rounds) :
    parseElements (parseAt (before ++ (bytes ++ after)) nesting) (before.length + bytes.length)
        rounds before.length =
      .ok (before.length + bytes.length, elements) := by
  cases elements with
  | nil =>
    cases hbytes
    cases rounds with
    | zero => rfl
    | succ rounds =>
      rw [parseElements, List.length_nil, Nat.add_zero, if_neg (Nat.lt_irrefl _)]
  | cons element elements =>
    rw [elementsBytes] at hbytes
    obtain ⟨data, hdata, hbytes⟩ := except_bind_eq_ok hbytes
    obtain ⟨first, hfirst, hbytes⟩ := except_bind_eq_ok hbytes
    obtain ⟨later, hlater, hbytes⟩ := except_bind_eq_ok hbytes
    cases hbytes
    have helement : element.toBytes = .ok first := by
      rw [toBytes, hdata]
      exact hfirst
    obtain ⟨index, sizeBytes, -, hshape⟩ := framed_eq_ok hdata hfirst
    have hpositive : 0 < first.length := by
      rw [hshape]
      exact Nat.succ_pos _
    rw [elementsDepth, max_le_iff] at hdepth
    have hparse := parseAt_toBytes element helement before (later ++ after) hdepth.1
    rw [List.length_append] at hrounds
    obtain ⟨rounds, rfl⟩ : ∃ more, rounds = more + 1 := ⟨rounds - 1, by omega⟩
    have hrest := parseElements_toBytes elements hlater (before ++ first) after hdepth.2
      (show later.length ≤ rounds by omega)
    rw [List.length_append, List.append_assoc] at hrest
    rw [List.length_append, List.append_assoc, parseElements, if_pos (by omega), hparse]
    change (parseElements _ _ _ _).bind _ = _
    rw [← Nat.add_assoc, hrest]
    rfl

end

end Bumble.Sdp.DataElement
