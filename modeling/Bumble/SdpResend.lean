import Bumble.SdpPdu

/-!
# What is parsed can be sent again

The parser takes any size with any type; the encoder knows five sizes of integers.  The
sizes that a string states for its integers, and the octets that the encoder needs for
what it holds, are walked from its headers alone.
-/

namespace Bumble.Sdp.DataElement

/-! ## 1. The headers of a string -/

/-- The offsets of the children of a container that ends at `valueEnd`. -/
def childOffsets (data : Bytes) (valueEnd : Nat) : Nat → Nat → List Nat
  | 0, _ => []
  | rounds + 1, offset =>
    if offset < valueEnd then
      match parseHeader data offset with
      | .ok (_, start, size) => offset :: childOffsets data valueEnd rounds (start + size)
      | .error _ => []
    else []

/-- A value for each element from those of its children. -/
def foldAt {β : Type} (leaf : UInt8 → Nat → β) (node : List β → β) (data : Bytes) : Nat → Nat → β
  | nesting, offset =>
    match parseHeader data offset with
    | .error _ => node []
    | .ok (code, start, size) =>
      if code = TypeCode.sequence ∨ code = TypeCode.alternative then
        match nesting with
        | 0 => node []
        | nesting + 1 =>
          node ((childOffsets data (start + size) size start).map (foldAt leaf node data nesting))
      else leaf code size

/-- The sizes that a string states for the integers of an element. -/
def integerSizesAt (data : Bytes) (nesting offset : Nat) : List Nat :=
  foldAt (fun code size =>
    if code = TypeCode.unsignedInteger ∨ code = TypeCode.signedInteger then [size] else [])
    List.flatten data nesting offset

/-- The octets of an element with a value of variable size. -/
def variableSize (size : Nat) : Nat :=
  size + if size ≤ 0xFF then 2 else if size ≤ 0xFFFF then 3 else 5

def totalSize : List (Option Nat) → Option Nat
  | [] => some 0
  | size :: sizes => do
    let first ← size
    let later ← totalSize sizes
    some (first + later)

/-- The octets of a container, if a length field counts those of its children. -/
def containerSize (sizes : List (Option Nat)) : Option Nat := do
  let total ← totalSize sizes
  if total ≤ 0xFFFFFFFF then some (variableSize total) else none

def leafSize (code : UInt8) (size : Nat) : Option Nat :=
  if code = TypeCode.nil then some 1
  else if code = TypeCode.boolean then some 2
  else if code = TypeCode.textString ∨ code = TypeCode.url then some (variableSize size)
  else some (1 + size)

/-- The octets that the encoder needs for an element of a string. -/
def sentSizeAt (data : Bytes) (nesting offset : Nat) : Option Nat :=
  foldAt leafSize containerSize data nesting offset

section Fold

variable {β : Type} {leaf : UInt8 → Nat → β} {node : List β → β} {data : Bytes}
  {offset start size nesting : Nat} {code : UInt8}

theorem foldAt_leaf (hheader : parseHeader data offset = .ok (code, start, size))
    (hcode : ¬ (code = TypeCode.sequence ∨ code = TypeCode.alternative)) :
    foldAt leaf node data nesting offset = leaf code size := by
  unfold foldAt
  rw [hheader]
  exact if_neg hcode

theorem foldAt_node (hheader : parseHeader data offset = .ok (code, start, size))
    (hcode : code = TypeCode.sequence ∨ code = TypeCode.alternative) :
    foldAt leaf node data (nesting + 1) offset =
      node ((childOffsets data (start + size) size start).map (foldAt leaf node data nesting)) := by
  conv_lhs => unfold foldAt
  rw [hheader]
  exact if_pos hcode

end Fold

/-! ## 2. Parsed headers and values -/

theorem readBe_eq_ok {data : Bytes} {pos count value : Nat} {text : String}
    (hread : readBe data pos count text = .ok value) : value < 256 ^ count := by
  simp only [readBe] at hread
  split at hread
  · next hlength =>
    cases hread
    have hlt := beToNat_lt ((data.drop pos).take count)
    rwa [hlength] at hlt
  · cases hread

theorem parseSize_le {data : Bytes} {code index : UInt8} {pos start size : Nat}
    (hparse : parseSize data code index pos = .ok (start, size)) : size ≤ 0xFFFFFFFF := by
  rw [parseSize] at hparse
  split at hparse
  case h_1 | h_2 | h_3 | h_4 | h_5 =>
    cases hparse
    try split
    all_goals decide
  case h_6 | h_7 | h_8 =>
    obtain ⟨value, hread, hparse⟩ := except_bind_eq_ok hparse
    cases hparse
    have hlt := readBe_eq_ok hread
    omega

theorem parseHeader_eq_ok {data : Bytes} {offset start size : Nat} {code : UInt8}
    (hheader : parseHeader data offset = .ok (code, start, size)) :
    start + size ≤ data.length ∧ size ≤ 0xFFFFFFFF := by
  rw [parseHeader] at hheader
  split at hheader
  · cases hheader
  · obtain ⟨⟨start', size'⟩, hsize, hheader⟩ := except_bind_eq_ok hheader
    dsimp only at hheader
    split at hheader
    · next hfits =>
      cases hheader
      exact ⟨hfits, parseSize_le hsize⟩
    · cases hheader

theorem parseAt_eq_ok {data : Bytes} {nesting offset next : Nat} {element : DataElement}
    (hparse : parseAt data nesting offset = .ok (next, element)) :
    ∃ code start size, parseHeader data offset = .ok (code, start, size) ∧ next = start + size ∧
      elementOf code ((data.drop start).take size)
        (childrenAt data nesting start (start + size)) = .ok element := by
  rw [parseAt_eq] at hparse
  obtain ⟨⟨code, start, size⟩, hheader, hparse⟩ := except_bind_eq_ok hparse
  obtain ⟨element', hvalue, hparse⟩ := except_bind_eq_ok hparse
  cases hparse
  exact ⟨code, start, size, hheader, rfl, hvalue⟩

theorem parseElements_eq_ok {data : Bytes} {nesting valueEnd : Nat} (rounds : Nat) :
    ∀ {offset last : Nat} {children : List DataElement},
      parseElements (parseAt data nesting) valueEnd rounds offset = .ok (last, children) →
      List.Forall₂ (fun offset child => ∃ next, parseAt data nesting offset = .ok (next, child))
        (childOffsets data valueEnd rounds offset) children := by
  induction rounds with
  | zero =>
    intro offset last children hloop
    cases hloop
    exact .nil
  | succ rounds ih =>
    intro offset last children hloop
    rw [parseElements] at hloop
    rw [childOffsets]
    split at hloop
    · next hinside =>
      obtain ⟨⟨next, child⟩, hchild, hloop⟩ := except_bind_eq_ok hloop
      obtain ⟨⟨last', later⟩, hlater, hloop⟩ := except_bind_eq_ok hloop
      cases hloop
      obtain ⟨code, start, size, hheader, hnext, -⟩ := parseAt_eq_ok hchild
      rw [hnext] at hlater
      rw [if_pos hinside, hheader]
      exact .cons ⟨next, hchild⟩ (ih hlater)
    · next hinside =>
      cases hloop
      rw [if_neg hinside]
      exact .nil

/-! ## 3. Headers that are written -/

theorem variableSizeHeader_eq {size : Nat} (hsize : size ≤ 0xFFFFFFFF) :
    ∃ index sizeBytes, variableSizeHeader size = .ok (index, sizeBytes) ∧
      1 + (sizeBytes.length + size) = variableSize size := by
  rw [variableSizeHeader, variableSize]
  split
  · exact ⟨5, _, rfl, by rw [List.length_singleton]; omega⟩
  · split
    · exact ⟨6, _, rfl, by rw [length_natToBe]; omega⟩
    · exact ⟨7, _, rfl, by rw [length_natToBe]; omega⟩

theorem variableSizeHeader_eq_ok {size : Nat} {header : UInt8 × Bytes}
    (hheader : variableSizeHeader size = .ok header) : size ≤ 0xFFFFFFFF := by
  rw [variableSizeHeader] at hheader
  by_contra hlarge
  rw [if_neg (by omega), if_neg (by omega), if_neg hlarge] at hheader
  cases hheader

theorem framed_variable {element : DataElement} {data : Bytes}
    (hvariable : element.sizeHeader data.length = variableSizeHeader data.length) :
    (∀ {bytes}, framed element data = .ok bytes →
      data.length ≤ 0xFFFFFFFF ∧ bytes.length = variableSize data.length) ∧
    (data.length ≤ 0xFFFFFFFF → ∃ bytes, framed element data = .ok bytes) := by
  have hwritten : data.length ≤ 0xFFFFFFFF → ∃ bytes, framed element data = .ok bytes ∧
      bytes.length = variableSize data.length := by
    intro hsize
    obtain ⟨index, sizeBytes, hheader, hlength⟩ := variableSizeHeader_eq hsize
    refine ⟨_, by rw [framed, hvariable, hheader]; rfl, ?_⟩
    rw [← hlength, List.length_cons, List.length_append]
    omega
  constructor
  · intro bytes hframed
    obtain ⟨header, hheader, -⟩ := except_bind_eq_ok hframed
    have hsize := variableSizeHeader_eq_ok (hvariable.symm.trans hheader)
    obtain ⟨bytes', hframed', hlength⟩ := hwritten hsize
    cases hframed.symm.trans hframed'
    exact ⟨hsize, hlength⟩
  · intro hsize
    obtain ⟨bytes, hframed, -⟩ := hwritten hsize
    exact ⟨bytes, hframed⟩

/-- The sizes that fixed-size elements are written with. -/
def Encodable (size : Nat) : Prop := size = 1 ∨ size = 2 ∨ size = 4 ∨ size = 8 ∨ size = 16

instance (size : Nat) : Decidable (Encodable size) := inferInstanceAs (Decidable (_ ∨ _))

theorem framed_fixed {element : DataElement} {data : Bytes}
    (hfixed : element.sizeHeader data.length = (do pure (← fixedSizeIndex data.length, [])))
    (hsize : Encodable data.length) :
    ∃ bytes, framed element data = .ok bytes ∧ bytes.length = 1 + data.length := by
  have hindex : ∃ index, fixedSizeIndex data.length = .ok index := by
    rcases hsize with hsize | hsize | hsize | hsize | hsize <;> rw [hsize] <;> exact ⟨_, rfl⟩
  obtain ⟨index, hindex⟩ := hindex
  refine ⟨_, by rw [framed, hfixed, hindex]; rfl, ?_⟩
  rw [List.length_cons, List.length_append, List.length_nil]
  omega

theorem encodable_lt {size : Nat} (hsize : Encodable size) : size < 256 := by
  rw [Encodable] at hsize
  omega

theorem mem_integerSizes_iff {size : Nat} (hsize : size < 256) :
    UInt8.ofNat size ∈ integerSizes ↔ Encodable size := by
  have hall : ∀ size : Fin 256, UInt8.ofNat size ∈ integerSizes ↔
      (size.val = 1 ∨ size.val = 2 ∨ size.val = 4 ∨ size.val = 8 ∨ size.val = 16) := by
    set_option maxRecDepth 30000 in decide
  exact hall ⟨size, hsize⟩

/-! ## 4. Elements that are sent again -/

/-- The element that was parsed at an offset is sent again just if its integers have sizes
    that the encoder knows, and then takes as many octets as its headers say. -/
structure SentAs (element : DataElement) (stated : List Nat) (count : Option Nat) : Prop where
  sizes : ∀ {bytes}, element.toBytes = .ok bytes → (∀ size ∈ stated, size < 256) →
    (∀ size ∈ stated, Encodable size) ∧ count = some bytes.length
  sent : (∀ size ∈ stated, Encodable size) → ∀ {length}, count = some length →
    ∃ bytes, element.toBytes = .ok bytes ∧ bytes.length = length

theorem sentAs_plain {element : DataElement} {bytes : Bytes} {count : Nat}
    (hbytes : element.toBytes = .ok bytes) (hcount : bytes.length = count) :
    SentAs element [] (some count) where
  sizes := by
    intro bytes' hbytes' hsizes
    cases hbytes.symm.trans hbytes'
    refine ⟨?_, congrArg some hcount.symm⟩
    intro size hsize
    cases hsize
  sent := by
    intro hsizes count' hcount'
    cases hcount'
    exact ⟨bytes, hbytes, hcount⟩

theorem sentAs_integer {element : DataElement} {value : Bytes}
    (hfixed : ∀ data, element.sizeHeader data = (do pure (← fixedSizeIndex data, [])))
    (hrefused : value.length < 256 → ∀ {bytes}, element.valueBytes = .ok bytes →
      Encodable value.length ∧ bytes = value)
    (hvalue : Encodable value.length → element.valueBytes = .ok value) :
    SentAs element [value.length] (some (1 + value.length)) where
  sizes := by
    intro bytes hbytes hsizes
    obtain ⟨data, hdata, hframed⟩ := except_bind_eq_ok hbytes
    obtain ⟨hsize, hwhole⟩ := hrefused (hsizes _ List.mem_cons_self) hdata
    rw [hwhole] at hframed
    obtain ⟨bytes', hframed', hlength⟩ := framed_fixed (hfixed _) hsize
    cases hframed.symm.trans hframed'
    refine ⟨?_, congrArg some hlength.symm⟩
    intro size hmem
    rw [List.mem_singleton.mp hmem]
    exact hsize
  sent := by
    intro hsizes count hcount
    cases hcount
    have hsize := hsizes _ List.mem_cons_self
    obtain ⟨bytes, hframed, hlength⟩ := framed_fixed (hfixed _) hsize
    refine ⟨bytes, ?_, hlength⟩
    rw [toBytes, hvalue hsize]
    exact hframed

theorem sentAs_octets {element : DataElement} {value : Bytes} (hsize : value.length ≤ 0xFFFFFFFF)
    (hvalue : element.valueBytes = .ok value)
    (hvariable : element.sizeHeader value.length = variableSizeHeader value.length) :
    SentAs element [] (some (variableSize value.length)) := by
  obtain ⟨bytes, hframed⟩ := (framed_variable hvariable).2 hsize
  have hlength := ((framed_variable hvariable).1 hframed).2
  have hbytes : element.toBytes = .ok bytes := by
    rw [toBytes, hvalue]
    exact hframed
  exact sentAs_plain hbytes hlength

/-- A leaf that was parsed is sent again with the size its header states. -/
theorem sentAs_leaf {code : UInt8} {value : Bytes} {children : Except Error (List DataElement)}
    {element : DataElement} (hvalue : elementOf code value children = .ok element)
    (hcode : ¬ (code = TypeCode.sequence ∨ code = TypeCode.alternative))
    (hsize : value.length ≤ 0xFFFFFFFF) :
    element.depth = 0 ∧ SentAs element
      (if code = TypeCode.unsignedInteger ∨ code = TypeCode.signedInteger then [value.length]
        else []) (leafSize code value.length) := by
  unfold elementOf at hvalue
  split at hvalue
  · cases hvalue
    exact ⟨rfl, @sentAs_plain nil _ _ rfl rfl⟩
  · cases hvalue
    refine ⟨rfl, sentAs_integer (fun _ => rfl) ?_ ?_⟩
    · intro hsmall bytes hbytes
      obtain ⟨hmem, -, -⟩ := unsignedToBytes_eq_ok hbytes
      cases hbytes.symm.trans (unsignedToBytes_beToU128 hmem hsmall)
      exact ⟨(mem_integerSizes_iff hsmall).mp hmem, rfl⟩
    · intro hencodable
      have hsmall : value.length < 256 := encodable_lt hencodable
      exact unsignedToBytes_beToU128 ((mem_integerSizes_iff hsmall).mpr hencodable) hsmall
  · cases hvalue
    refine ⟨rfl, sentAs_integer (fun _ => rfl) ?_ ?_⟩
    · intro hsmall bytes hbytes
      obtain ⟨hmem, -, -⟩ := signedToBytes_eq_ok hbytes
      cases hbytes.symm.trans (signedToBytes_beToI128 hmem hsmall)
      exact ⟨(mem_integerSizes_iff hsmall).mp hmem, rfl⟩
    · intro hencodable
      have hsmall : value.length < 256 := encodable_lt hencodable
      exact signedToBytes_beToI128 ((mem_integerSizes_iff hsmall).mpr hencodable) hsmall
  · split at hvalue
    · next parsed hparsed =>
      cases hvalue
      have hoctets : parsed.bytes.reverse = value := by
        rw [Uuid.bytes_of_fromBytes hparsed, List.reverse_reverse]
      have hwidth : Encodable value.length := by
        rw [← hoctets, List.length_reverse, Encodable]
        have hwidth := parsed.width
        omega
      obtain ⟨bytes, hframed, hlength⟩ :=
        @framed_fixed (uuid parsed) value rfl hwidth
      rw [← hoctets] at hframed
      exact ⟨rfl, sentAs_plain hframed hlength⟩
    · cases hvalue
  · cases hvalue
    exact ⟨rfl, sentAs_octets hsize rfl rfl⟩
  · cases hvalue
    exact ⟨rfl, @sentAs_plain (boolean _) _ _ rfl rfl⟩
  · exact absurd (.inl rfl) hcode
  · exact absurd (.inr rfl) hcode
  · split at hvalue
    · next text htext =>
      cases hvalue
      exact ⟨rfl, sentAs_octets hsize (congrArg _ (stringBytes_of_fromUtf8 htext)) rfl⟩
    · cases hvalue
  · cases hvalue

theorem sentAs_children {stated : Nat → List Nat} {count : Nat → Option Nat} {offsets : List Nat}
    {children : List DataElement}
    (hall : List.Forall₂ (fun offset child => SentAs child (stated offset) (count offset))
      offsets children) :
    (∀ {bytes}, elementsBytes children = .ok bytes →
      (∀ size ∈ (offsets.map stated).flatten, size < 256) →
      (∀ size ∈ (offsets.map stated).flatten, Encodable size) ∧
        totalSize (offsets.map count) = some bytes.length) ∧
    ((∀ size ∈ (offsets.map stated).flatten, Encodable size) →
      ∀ {length}, totalSize (offsets.map count) = some length →
      ∃ bytes, elementsBytes children = .ok bytes ∧ bytes.length = length) := by
  induction hall with
  | nil =>
    constructor
    · intro bytes hbytes hsizes
      cases hbytes
      refine ⟨?_, rfl⟩
      intro size hsize
      cases hsize
    · intro hsizes length hlength
      cases hlength
      exact ⟨[], rfl, rfl⟩
  | @cons offset child offsets children hchild hlater ih =>
    simp only [List.map_cons, List.flatten_cons, List.mem_append, totalSize]
    constructor
    · intro bytes hbytes hsizes
      rw [elementsBytes] at hbytes
      obtain ⟨data, hdata, hbytes⟩ := except_bind_eq_ok hbytes
      obtain ⟨first, hfirst, hbytes⟩ := except_bind_eq_ok hbytes
      obtain ⟨later, hrest, hbytes⟩ := except_bind_eq_ok hbytes
      cases hbytes
      have helement : child.toBytes = .ok first := by
        rw [toBytes, hdata]
        exact hfirst
      obtain ⟨hown, hcount⟩ := hchild.sizes helement fun size hsize => hsizes size (.inl hsize)
      obtain ⟨hothers, htotal⟩ := ih.1 hrest fun size hsize => hsizes size (.inr hsize)
      refine ⟨?_, ?_⟩
      · intro size hsize
        exact hsize.elim (hown size) (hothers size)
      · rw [hcount, htotal, List.length_append]
        rfl
    · intro hsizes length hlength
      obtain ⟨first, hcount, hlength⟩ := Option.bind_eq_some_iff.mp hlength
      obtain ⟨later, htotal, hlength⟩ := Option.bind_eq_some_iff.mp hlength
      cases hlength
      obtain ⟨bytes, hbytes, rfl⟩ := hchild.sent (fun size hsize => hsizes size (.inl hsize)) hcount
      obtain ⟨rest, hrest, rfl⟩ := ih.2 (fun size hsize => hsizes size (.inr hsize)) htotal
      obtain ⟨data, hdata, hframed⟩ := except_bind_eq_ok hbytes
      refine ⟨bytes ++ rest, ?_, List.length_append⟩
      rw [elementsBytes, hdata]
      change (framed child data).bind _ = _
      rw [hframed]
      change (elementsBytes children).bind _ = _
      rw [hrest]
      rfl

theorem sentAs_container {element : DataElement} {stated : Nat → List Nat}
    {count : Nat → Option Nat} {offsets : List Nat} {children : List DataElement}
    (hvalue : element.valueBytes = elementsBytes children)
    (hvariable : ∀ size, element.sizeHeader size = variableSizeHeader size)
    (hall : List.Forall₂ (fun offset child => SentAs child (stated offset) (count offset))
      offsets children) :
    SentAs element (offsets.map stated).flatten (containerSize (offsets.map count)) where
  sizes := by
    intro bytes hbytes hsizes
    obtain ⟨data, hdata, hframed⟩ := except_bind_eq_ok hbytes
    rw [hvalue] at hdata
    obtain ⟨hencodable, htotal⟩ := (sentAs_children hall).1 hdata hsizes
    obtain ⟨hsize, hlength⟩ := (framed_variable (hvariable _)).1 hframed
    refine ⟨hencodable, ?_⟩
    rw [containerSize, htotal, hlength]
    exact if_pos hsize
  sent := by
    intro hsizes length hlength
    obtain ⟨total, htotal, hlength⟩ := Option.bind_eq_some_iff.mp hlength
    obtain ⟨data, hdata, rfl⟩ := (sentAs_children hall).2 hsizes htotal
    split at hlength
    · next hsize =>
      cases hlength
      obtain ⟨bytes, hframed⟩ := (framed_variable (hvariable _)).2 hsize
      refine ⟨bytes, ?_, ((framed_variable (hvariable _)).1 hframed).2⟩
      rw [toBytes, hvalue, hdata]
      exact hframed
    · cases hlength

/-! ## 5. Parsed elements -/

theorem elementsDepth_le {offsets : List Nat} {children : List DataElement} {nesting : Nat}
    (hall : List.Forall₂ (fun (_ : Nat) child => child.depth ≤ nesting) offsets children) :
    elementsDepth children ≤ nesting := by
  induction hall with
  | nil => exact Nat.zero_le _
  | cons hchild _ ih =>
    rw [elementsDepth]
    exact max_le hchild ih

theorem childrenAt_eq_ok {data : Bytes} {nesting start size : Nat} {children : List DataElement}
    (hchildren : childrenAt data nesting start (start + size) = .ok children) :
    ∃ inner, nesting = inner + 1 ∧
      List.Forall₂ (fun offset child => ∃ next, parseAt data inner offset = .ok (next, child))
        (childOffsets data (start + size) size start) children := by
  cases nesting with
  | zero => cases hchildren
  | succ inner =>
    refine ⟨inner, rfl, ?_⟩
    rw [childrenAt, parseContainer, Nat.add_sub_cancel_left] at hchildren
    obtain ⟨⟨last, elements⟩, hloop, hchildren⟩ := except_bind_eq_ok hchildren
    dsimp only at hchildren
    split at hchildren
    · cases hchildren
    · cases hchildren
      exact parseElements_eq_ok size hloop

theorem elementOf_container {code : UInt8} {value : Bytes}
    {children : Except Error (List DataElement)} {element : DataElement}
    (hvalue : elementOf code value children = .ok element)
    (hcode : code = TypeCode.sequence ∨ code = TypeCode.alternative) :
    ∃ elements, children = .ok elements ∧ element.valueBytes = elementsBytes elements ∧
      (∀ size, element.sizeHeader size = variableSizeHeader size) ∧
      element.depth = elementsDepth elements + 1 := by
  rcases hcode with rfl | rfl
  · obtain ⟨elements, hchildren, hvalue⟩ := except_bind_eq_ok hvalue
    cases hvalue
    exact ⟨elements, hchildren, by rw [valueBytes], fun _ => rfl, by rw [depth]⟩
  · obtain ⟨elements, hchildren, hvalue⟩ := except_bind_eq_ok hvalue
    cases hvalue
    exact ⟨elements, hchildren, by rw [valueBytes], fun _ => rfl, by rw [depth]⟩

theorem sentAs_parseAt (data : Bytes) (nesting : Nat) : ∀ {offset next : Nat}
    {element : DataElement}, parseAt data nesting offset = .ok (next, element) →
    element.depth ≤ nesting ∧
      SentAs element (integerSizesAt data nesting offset) (sentSizeAt data nesting offset) := by
  induction nesting using Nat.strong_induction_on with
  | _ nesting ih =>
    intro offset next element hparse
    obtain ⟨code, start, size, hheader, -, hvalue⟩ := parseAt_eq_ok hparse
    obtain ⟨hend, hsize⟩ := parseHeader_eq_ok hheader
    by_cases hcode : code = TypeCode.sequence ∨ code = TypeCode.alternative
    · obtain ⟨children, hchildren, hbytes, hvariable, hdepth⟩ := elementOf_container hvalue hcode
      obtain ⟨inner, rfl, hall⟩ := childrenAt_eq_ok hchildren
      have hinner : List.Forall₂ (fun offset child => child.depth ≤ inner ∧
          SentAs child (integerSizesAt data inner offset) (sentSizeAt data inner offset))
          (childOffsets data (start + size) size start) children := by
        refine hall.imp ?_
        rintro offset child ⟨next, hchild⟩
        exact ih inner (Nat.lt_succ_self inner) hchild
      constructor
      · rw [hdepth]
        apply Nat.succ_le_succ
        exact elementsDepth_le (hinner.imp fun _ _ hboth => hboth.1)
      · rw [integerSizesAt, sentSizeAt, foldAt_node hheader hcode, foldAt_node hheader hcode]
        exact sentAs_container hbytes hvariable (hinner.imp fun _ _ hboth => hboth.2)
    · have hlength : ((data.drop start).take size).length = size := by
        rw [List.length_take, List.length_drop]
        omega
      have hleaf := sentAs_leaf hvalue hcode (by rw [hlength]; exact hsize)
      rw [hlength] at hleaf
      rw [integerSizesAt, sentSizeAt, foldAt_leaf hheader hcode, foldAt_leaf hheader hcode]
      exact ⟨by rw [hleaf.1]; exact Nat.zero_le _, hleaf.2⟩

/-- **What is parsed can be sent again** and is parsed as itself, and no integer is of more
    than 255 octets, if and only if the string states a size of 1, 2, 4, 8 or 16 octets for
    every integer and the contents of every container fit a length field. -/
theorem resent_iff (data : Bytes) (offset next : Nat) (element : DataElement)
    (hparse : parseFromBytes data offset = .ok (next, element)) :
    ((∃ bytes, element.toBytes = .ok bytes ∧
        parseFromBytes bytes 0 = .ok (bytes.length, element)) ∧
      ∀ size ∈ integerSizesAt data maxNesting offset, size < 256) ↔
    (∀ size ∈ integerSizesAt data maxNesting offset, Encodable size) ∧
      (sentSizeAt data maxNesting offset).isSome = true := by
  obtain ⟨hdepth, hsent⟩ := sentAs_parseAt data maxNesting hparse
  constructor
  · rintro ⟨⟨bytes, hbytes, -⟩, hsmall⟩
    obtain ⟨hencodable, hcount⟩ := hsent.sizes hbytes hsmall
    rw [hcount]
    exact ⟨hencodable, rfl⟩
  · rintro ⟨hencodable, hsome⟩
    obtain ⟨count, hcount⟩ := Option.isSome_iff_exists.mp hsome
    obtain ⟨bytes, hbytes, -⟩ := hsent.sent hencodable hcount
    refine ⟨⟨bytes, hbytes, ?_⟩, fun size hsize => encodable_lt (hencodable size hsize)⟩
    have hagain := parseAt_toBytes element hbytes [] [] hdepth
    rw [List.append_nil, List.length_nil, Nat.zero_add] at hagain
    exact hagain

/-- A sequence of an integer and a string of one octet, which takes one octet more. -/
theorem sequence_resent :
    (∃ bytes, (sequence [unsignedInteger 42 1, textString [7]]).toBytes = .ok bytes ∧
        parseFromBytes bytes 0 =
          .ok (bytes.length, sequence [unsignedInteger 42 1, textString [7]])) ∧
      ∀ size ∈ integerSizesAt [0x35, 4, 0x08, 42, 0x20, 7] maxNesting 0, size < 256 :=
  (resent_iff [0x35, 4, 0x08, 42, 0x20, 7] 0 6 _ rfl).mpr ⟨by decide, by decide⟩

/-- An integer of three octets is parsed and is not sent again. -/
theorem three_octets_refused : ∃ (data : Bytes) (offset next : Nat) (element : DataElement),
    parseFromBytes data offset = .ok (next, element) ∧
      ¬ ∃ bytes, element.toBytes = .ok bytes ∧
        parseFromBytes bytes 0 = .ok (bytes.length, element) := by
  refine ⟨[0x0D, 3, 1, 2, 3], 0, 5, unsignedInteger 66051 3, rfl, ?_⟩
  rintro ⟨bytes, hbytes, -⟩
  cases hbytes

end Bumble.Sdp.DataElement
