import Bumble.AvcFrame
import Bumble.Outcome

/-!
# The codec of AV/C frames (`bumble-avc/src/lib.rs`)

A frame that can be encoded is decoded again, with a subunit id in any of its three
encodings but for one: the id 5 is written with the extension octet 0, which the
decoder takes as reserved.
-/

namespace Bumble.Avc

/-! ## 1. Bodies -/

theorem u32ToBe_companyId {companyId : UInt32} (hsmall : ¬ companyId > 0xFFFFFF) :
    u32ToBe companyId = 0 :: (u32ToBe companyId).drop 1 := by
  have hbound : companyId.toNat ≤ 0xFFFFFF := UInt32.le_iff_toNat_le.mp (UInt32.not_lt.mp hsmall)
  have hzero : companyId.toNat / 256 / 256 / 256 % 256 = 0 := by omega
  change UInt8.ofNat (companyId.toNat / 256 / 256 / 256 % 256) :: (u32ToBe companyId).drop 1 = _
  rw [hzero]
  rfl

namespace FrameBody

/-- The bodies that are told from all others by their op code and operands. -/
def Canonical : FrameBody → Prop
  | raw opcode _ => opcode ≠ OperationCode.vendorDependent ∧ opcode ≠ OperationCode.passThrough
  | vendorDependent _ _ => True
  | passThrough _ operationId _ => operationId < 0x80

theorem passThrough_flags {operationId : OperationId} (hid : operationId < 0x80) :
    ((0 : UInt8) ||| (operationId &&& 0x7F)) &&& 0x80 = 0 ∧
      ((0 : UInt8) ||| (operationId &&& 0x7F)) &&& 0x7F = operationId ∧
      ((0x80 : UInt8) ||| (operationId &&& 0x7F)) &&& 0x80 ≠ 0 ∧
      ((0x80 : UInt8) ||| (operationId &&& 0x7F)) &&& 0x7F = operationId := by
  revert operationId
  set_option maxRecDepth 30000 in decide

theorem parse_operands {body : FrameBody} (hcanonical : body.Canonical) {operands : Bytes}
    (hoperands : body.operands = .ok operands) : parse body.opcode operands = .ok body := by
  cases body with
  | raw opcode octets =>
    cases hoperands
    change parse opcode operands = _
    unfold parse
    rw [if_neg hcanonical.1, if_neg hcanonical.2]
  | vendorDependent companyId data =>
    rw [FrameBody.operands] at hoperands
    split at hoperands
    · cases hoperands
    · next hsmall =>
      cases hoperands
      have hdecode : UInt32.ofNat (beToNat (0 :: (u32ToBe companyId).drop 1)) = companyId := by
        rw [← u32ToBe_companyId hsmall, u32ToBe, beToNat_natToBe 4 companyId.toNat_lt,
          UInt32.ofNat_toNat]
      conv_rhs => rw [← hdecode]
      rfl
  | passThrough state operationId data =>
    obtain ⟨hpressed, hpressedId, hreleased, hreleasedId⟩ := passThrough_flags hcanonical
    simp only [FrameBody.operands] at hoperands
    split at hoperands
    · next hlength =>
      cases hoperands
      have hcount : (UInt8.ofNat data.length).toNat = data.length := by
        rw [UInt8.toNat_ofNat']
        exact Nat.mod_eq_of_lt hlength
      change parse OperationCode.passThrough _ = _
      unfold parse
      rw [if_neg (by decide), if_pos rfl]
      dsimp only
      rw [hcount, if_pos (le_refl _), List.take_length]
      cases state with
      | pressed => rw [if_pos hpressed, hpressedId]
      | released => rw [if_neg hreleased, hreleasedId]
    · cases hoperands

end FrameBody

namespace Frame

/-! ## 2. Subunits -/

theorem subunit_octet {subunitType encodedId : UInt8} (htype : subunitType ≤ 0x1F)
    (hid : encodedId ≤ 7) :
    (subunitType <<< 3 ||| encodedId) >>> 3 = subunitType ∧
      (subunitType <<< 3 ||| encodedId) &&& 7 = encodedId := by
  have hall : ∀ low : Fin 8, ∀ high : Fin 32,
      (UInt8.ofNat high <<< 3 ||| UInt8.ofNat low) >>> 3 = UInt8.ofNat high ∧
        (UInt8.ofNat high <<< 3 ||| UInt8.ofNat low) &&& 7 = UInt8.ofNat low := by
    decide
  have hlow : encodedId.toNat < 8 := Nat.lt_succ_of_le (UInt8.le_iff_toNat_le.mp hid)
  have hhigh : subunitType.toNat < 32 := Nat.lt_succ_of_le (UInt8.le_iff_toNat_le.mp htype)
  have hboth := hall ⟨encodedId.toNat, hlow⟩ ⟨subunitType.toNat, hhigh⟩
  rwa [UInt8.ofNat_toNat, UInt8.ofNat_toNat] at hboth

/-- What an id is written as: the low bits of the octet of the type, and the extension. -/
def encodedSubunitId (subunitId : UInt16) : UInt8 × Bytes :=
  if subunitId ≤ 4 ∨ subunitId = 7 then (subunitId.toUInt8, [])
  else if subunitId ≤ 259 then (5, [(subunitId - 5).toUInt8])
  else (5, [0xFF, (subunitId - 259).toUInt8])

theorem subunitBytes_eq_ok {subunitType : SubunitType} {subunitId : UInt16} {bytes : Bytes}
    (hsubunit : subunitBytes subunitType subunitId = .ok bytes) :
    subunitId ≤ 514 ∧ bytes = ((subunitType <<< 3) ||| (encodedSubunitId subunitId).1) ::
      (encodedSubunitId subunitId).2 := by
  rw [subunitBytes] at hsubunit
  rw [encodedSubunitId]
  split at hsubunit
  · next hdirect =>
    cases hsubunit
    rw [if_pos hdirect]
    refine ⟨?_, rfl⟩
    rcases hdirect with hsmall | rfl
    · exact UInt16.le_trans hsmall (by decide)
    · decide
  · next hdirect =>
    rw [if_neg hdirect]
    split at hsubunit
    · next hextended =>
      cases hsubunit
      rw [if_pos hextended]
      exact ⟨UInt16.le_trans hextended (by decide), rfl⟩
    · next hextended =>
      rw [if_neg hextended]
      split at hsubunit
      · next hdouble =>
        cases hsubunit
        exact ⟨hdouble, rfl⟩
      · cases hsubunit

/-- **Where the two ends disagree.**  An id that can be written is read again from all its
    encodings, unless it is 5. -/
theorem parseSubunitId_encoded {subunitId : UInt16} (hid : subunitId ≤ 514) (later : Bytes) :
    (encodedSubunitId subunitId).1 ≤ 7 ∧
      parseSubunitId (encodedSubunitId subunitId).1 ((encodedSubunitId subunitId).2 ++ later) =
        if subunitId = 5 then .error (.invalid "reserved extended subunit ID")
        else .ok (subunitId, later) := by
  have hbound : subunitId.toNat ≤ 514 := UInt16.le_iff_toNat_le.mp hid
  have hnarrow : ∀ base : UInt16, base ≤ subunitId → subunitId.toNat < base.toNat + 256 →
      ((subunitId - base).toUInt8).toNat = subunitId.toNat - base.toNat := by
    intro base hbase hlt
    rw [UInt16.toNat_toUInt8, UInt16.toNat_sub_of_le _ _ hbase]
    exact Nat.mod_eq_of_lt (by omega)
  rw [encodedSubunitId]
  split
  · next hdirect =>
    -- the id itself
    have hsmall : subunitId.toNat ≤ 4 ∨ subunitId.toNat = 7 :=
      hdirect.imp UInt16.le_iff_toNat_le.mp (congrArg UInt16.toNat)
    have hoctet : subunitId.toUInt8.toNat = subunitId.toNat := by
      rw [UInt16.toNat_toUInt8]
      omega
    have hback : subunitId.toUInt8.toUInt16 = subunitId := by
      apply UInt16.toNat.inj
      rw [UInt8.toNat_toUInt16, hoctet]
    have hfive : subunitId ≠ 5 := by
      rintro rfl
      exact absurd hsmall (by decide)
    have hread : subunitId.toUInt8 ≤ 4 ∨ subunitId.toUInt8 = 7 := by
      refine hsmall.imp (fun hle => UInt8.le_iff_toNat_le.mpr ?_) (fun heq => UInt8.toNat.inj ?_)
      · rw [hoctet]
        exact hle
      · rw [hoctet]
        exact heq
    refine ⟨UInt8.le_iff_toNat_le.mpr ?_, ?_⟩
    · change subunitId.toUInt8.toNat ≤ 7
      omega
    · unfold parseSubunitId
      rw [if_pos hread, hback, if_neg hfive]
      rfl
  · next hdirect =>
    have hlarge : 5 ≤ subunitId := by
      apply UInt16.le_iff_toNat_le.mpr
      by_contra hlt
      exact hdirect (.inl (UInt16.le_iff_toNat_le.mpr (by
        change subunitId.toNat ≤ 4
        change ¬ 5 ≤ subunitId.toNat at hlt
        omega)))
    split
    · next hextended =>
      -- the extension is the id less 5, and must not be zero
      have hle : subunitId.toNat ≤ 259 := UInt16.le_iff_toNat_le.mp hextended
      have hoctet := hnarrow 5 hlarge (by change _ < 5 + 256; omega)
      change (5 : UInt8) ≤ 7 ∧ parseSubunitId 5 ((subunitId - 5).toUInt8 :: later) = _
      refine ⟨by decide, ?_⟩
      unfold parseSubunitId
      rw [if_neg (by decide), if_pos rfl]
      dsimp only
      by_cases hfive : subunitId = 5
      · subst hfive
        rfl
      · have hne : subunitId.toNat ≠ 5 := fun heq => hfive (UInt16.toNat.inj heq)
        have hge : 5 ≤ subunitId.toNat := UInt16.le_iff_toNat_le.mp hlarge
        change _ = subunitId.toNat - 5 at hoctet
        have hzero : (subunitId - 5).toUInt8 ≠ 0 := by
          intro heq
          rw [heq] at hoctet
          change 0 = _ at hoctet
          omega
        have hlast : (subunitId - 5).toUInt8 ≠ 0xFF := by
          intro heq
          rw [heq] at hoctet
          change 255 = _ at hoctet
          omega
        have hback : 5 + (subunitId - 5).toUInt8.toUInt16 = subunitId := by
          apply UInt16.toNat.inj
          rw [UInt16.toNat_add, UInt8.toNat_toUInt16, hoctet]
          change (5 + (subunitId.toNat - 5)) % 65536 = _
          omega
        rw [if_neg hzero, if_neg hlast, hback, if_neg hfive]
    · next hextended =>
      have hgt : 259 < subunitId.toNat := by
        by_contra hle
        exact hextended (UInt16.le_iff_toNat_le.mpr (by
          change subunitId.toNat ≤ 259
          omega))
      have hoctet := hnarrow 259 (UInt16.le_iff_toNat_le.mpr (by change 259 ≤ _; omega))
        (by change _ < 259 + 256; omega)
      change (5 : UInt8) ≤ 7 ∧
        parseSubunitId 5 (0xFF :: (subunitId - 259).toUInt8 :: later) = _
      refine ⟨by decide, ?_⟩
      unfold parseSubunitId
      rw [if_neg (by decide), if_pos rfl]
      dsimp only
      rw [if_neg (by decide), if_pos rfl]
      have hfive : subunitId ≠ 5 := by
        rintro rfl
        exact absurd hgt (by decide)
      have hback : 259 + (subunitId - 259).toUInt8.toUInt16 = subunitId := by
        apply UInt16.toNat.inj
        rw [UInt16.toNat_add, UInt8.toNat_toUInt16, hoctet]
        change (259 + (subunitId.toNat - 259)) % 65536 = _
        omega
      rw [hback, if_neg hfive]

/-! ## 3. Frames -/

/-- The frames whose category is of their kind and whose body is canonical. -/
def Canonical : Frame → Prop
  | command commandType _ _ body => commandType < 8 ∧ body.Canonical
  | response responseCode _ _ body => 8 ≤ responseCode ∧ responseCode ≤ 0x0F ∧ body.Canonical

def subunitId : Frame → UInt16
  | command _ _ subunitId _ => subunitId
  | response _ _ subunitId _ => subunitId

def ofFields (category : UInt8) (subunitType : SubunitType) (subunitId : UInt16)
    (body : FrameBody) : Frame :=
  if category < 8 then command category subunitType subunitId body
  else response category subunitType subunitId body

/-- **Decoding what was encoded**, for the fields of a frame. -/
theorem fromBytes_fields {category : UInt8} {subunitType : SubunitType} {subunitId : UInt16}
    {body : FrameBody} {subunit operands : Bytes} (hcategory : category ≤ 0x0F)
    (htype : subunitType ≤ 0x1F) (hplain : subunitType ≠ SubunitType.extended)
    (hcanonical : body.Canonical) (hsubunit : subunitBytes subunitType subunitId = .ok subunit)
    (hoperands : body.operands = .ok operands) :
    fromBytes (category :: subunit ++ body.opcode :: operands) =
      if subunitId = 5 then .error (.invalid "reserved extended subunit ID")
      else .ok (ofFields category subunitType subunitId body) := by
  have hbits : category >>> 4 = 0 ∧ category &&& 0x0F = category := by
    revert category
    set_option maxRecDepth 30000 in decide
  obtain ⟨hid, rfl⟩ := subunitBytes_eq_ok hsubunit
  obtain ⟨hencoded, hparse⟩ := parseSubunitId_encoded hid (body.opcode :: operands)
  obtain ⟨htypeBits, hidBits⟩ := subunit_octet htype hencoded
  have hbody := FrameBody.parse_operands hcanonical hoperands
  obtain ⟨third, later, hlater⟩ := List.exists_cons_of_ne_nil
    (List.append_ne_nil_of_right_ne_nil (encodedSubunitId subunitId).2
      (List.cons_ne_nil body.opcode operands))
  rw [List.cons_append, List.cons_append, hlater, fromBytes, hbits.1, hbits.2, htypeBits, hidBits,
    ← hlater, hparse, if_neg (by decide), if_neg hplain]
  split
  · rfl
  · change ((FrameBody.parse body.opcode operands).bind fun body =>
      if category < 8 then pure (command category subunitType subunitId body)
      else pure (response category subunitType subunitId body)) = _
    rw [hbody, ofFields]
    change (if _ then _ else _) = _
    split <;> rfl

theorem ofFields_canonical {frame : Frame} (hcanonical : frame.Canonical) :
    frame.fields.1 ≤ 0x0F ∧ frame.fields.2.2.2.Canonical ∧
      ofFields frame.fields.1 frame.fields.2.1 frame.subunitId frame.fields.2.2.2 = frame := by
  cases frame with
  | command commandType subunitType subunitId body =>
    obtain ⟨hcommand, hbody⟩ := hcanonical
    exact ⟨UInt8.le_of_lt (UInt8.lt_of_lt_of_le hcommand (by decide)), hbody, if_pos hcommand⟩
  | response responseCode subunitType subunitId body =>
    obtain ⟨hresponse, hle, hbody⟩ := hcanonical
    exact ⟨hle, hbody, if_neg (UInt8.not_lt.mpr hresponse)⟩

/-- **The codec of frames.**  A frame that can be encoded, and that is told from all others by
    its fields, is decoded again if and only if its subunit id is not 5. -/
theorem avc_codec_iff {frame : Frame} {bytes : Bytes} (hbytes : frame.toBytes = .ok bytes)
    (hcanonical : frame.Canonical) : fromBytes bytes = .ok frame ↔ frame.subunitId ≠ 5 := by
  obtain ⟨hcategory, hbody, hframe⟩ := ofFields_canonical hcanonical
  have hid : frame.fields.2.2.1 = frame.subunitId := by cases frame <;> rfl
  simp only [toBytes] at hbytes
  split at hbytes
  · cases hbytes
  · next hheader =>
    obtain ⟨subunit, hsubunit, hbytes⟩ := except_bind_eq_ok hbytes
    obtain ⟨operands, hoperands, hbytes⟩ := except_bind_eq_ok hbytes
    cases hbytes
    have htype : frame.fields.2.1 ≤ 0x1F := by
      by_contra hgt
      exact hheader (.inr (.inl (UInt8.not_le.mp hgt)))
    have hplain : frame.fields.2.1 ≠ SubunitType.extended :=
      fun heq => hheader (.inr (.inr heq))
    rw [hid] at hsubunit
    rw [fromBytes_fields hcategory htype hplain hbody hsubunit hoperands, hframe]
    split
    · next hfive => simp [hfive]
    · next hfive => simp [hfive]

theorem double_extended_read :
    fromBytes [0x01, 0x4D, 0xFF, 0x01, 0x30] =
        .ok (.command CommandType.status SubunitType.panel 260 (.raw 0x30 [])) ↔
      (260 : UInt16) ≠ 5 :=
  @avc_codec_iff (.command CommandType.status SubunitType.panel 260 (.raw 0x30 [])) _ rfl
    ⟨by decide, by decide, by decide⟩

/-- The first extended id, which is refused. -/
theorem fifth_subunit_refused :
    ∃ frame bytes, frame.toBytes = .ok bytes ∧ frame.Canonical ∧ fromBytes bytes ≠ .ok frame := by
  refine ⟨.command CommandType.status SubunitType.panel 5 (.raw 0x30 []),
    [0x01, 0x4D, 0x00, 0x30], rfl, ?_, ?_⟩
  · exact ⟨by decide, by decide, by decide⟩
  · decide

end Frame

end Bumble.Avc
