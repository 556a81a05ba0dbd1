import Bumble.ClassicChannel
import Bumble.ShiftRegister

/-!
# Frame check sequences (`bumble-l2cap/src/classic.rs`)

The sequence is the remainder of the length, the channel identifier and the payload in a register
of sixteen places; with the sequence behind it a frame leaves nothing in the register, and a burst
that is not longer than the register leaves something.
-/

namespace Bumble.Classic

open L2cap ShiftRegister

/-! ## 1. The register -/

/-- `0xA001`. -/
def crc16Polynomial : BitVec 16 := 0xA001#16

theorem crc16Bit_eq_shift (crc : UInt16) :
    (crc16Bit crc).toBitVec = shift crc16Polynomial crc.toBitVec := by
  have hlow : crc &&& 0x0001 ≠ 0 ↔ crc.toBitVec.getLsbD 0 = true := by
    rw [ne_eq, ← UInt16.toBitVec_inj, UInt16.toBitVec_and]
    change ¬ crc.toBitVec &&& 1#16 = 0#16 ↔ _
    rw [BitVec.and_one_eq_setWidth_ofBool_getLsbD]
    cases crc.toBitVec.getLsbD 0 <;> decide
  rw [crc16Bit, shift]
  by_cases hbit : crc.toBitVec.getLsbD 0 = true
  · rw [if_pos hbit, if_pos (hlow.mpr hbit)]
    rfl
  · rw [if_neg hbit, if_neg (mt hlow.mp hbit)]
    rfl

theorem crc16Byte_eq_run (crc : UInt16) (byte : UInt8) :
    (crc16Byte crc byte).toBitVec = run crc16Polynomial crc.toBitVec (places byte.toBitVec) := by
  have hshifts : ∀ (count : Nat) (crc : UInt16),
      ((List.range count).foldl (fun crc _ => crc16Bit crc) crc).toBitVec =
        shifts crc16Polynomial count crc.toBitVec := by
    intro count
    induction count with
    | zero => exact fun crc => rfl
    | succ count ih =>
      intro crc
      rw [List.range_succ_eq_map, List.foldl_cons, List.foldl_map, ih, crc16Bit_eq_shift]
      rfl
  rw [crc16Byte, hshifts, run_octet (by decide)]
  rfl

theorem crc16_eq_run (data : Bytes) :
    (crc16 data).toBitVec = run crc16Polynomial 0#16 (octetBits data) := by
  have hfold : ∀ crc : UInt16, (data.foldl crc16Byte crc).toBitVec =
      run crc16Polynomial crc.toBitVec (octetBits data) := by
    induction data with
    | nil => exact fun crc => rfl
    | cons byte data ih =>
      intro crc
      rw [List.foldl_cons, ih, crc16Byte_eq_run, ← run_append]
      rfl
  exact hfold 0

theorem getD_places {w : Nat} (register : BitVec w) (index : Nat) :
    (places register).getD index false = register.getLsbD index := by
  rw [List.getD_eq_getElem?_getD]
  by_cases hindex : index < w
  · rw [places, List.getElem?_map, List.getElem?_range hindex]
    rfl
  · rw [List.getElem?_eq_none (by rw [length_places]; omega),
      BitVec.getLsbD_of_ge register index (by omega)]
    rfl

theorem word_octets (low high : UInt8) :
    word 16 (octetBits [low, high]) = (u16FromLe low high).toBitVec := by
  have hbits : octetBits [low, high] = places low.toBitVec ++ places high.toBitVec := by
    rw [octetBits, List.flatMap_cons, List.flatMap_singleton]
  have hnumber : (u16FromLe low high).toBitVec =
      BitVec.ofNat 16 (256 * high.toNat + low.toNat) := by
    rw [u16FromLe, Nat.add_comm]
    rfl
  refine BitVec.eq_of_getLsbD_eq ?_
  intro index hindex
  rw [getLsbD_word, hbits, hnumber, BitVec.getLsbD_ofNat, show 256 = 2 ^ 8 by rfl,
    Nat.testBit_two_pow_mul_add high.toNat low.toNat_lt]
  refine congrArg (decide (index < 16) && ·) ?_
  rw [List.getD_eq_getElem?_getD, List.getElem?_append, length_places]
  split
  · rw [← List.getD_eq_getElem?_getD, getD_places]
    rfl
  · rw [← List.getD_eq_getElem?_getD, getD_places]
    rfl

theorem run_checked (checked : Bytes) (low high : UInt8) :
    run crc16Polynomial 0#16 (octetBits (checked ++ [low, high])) = 0#16 ↔
      crc16 checked = u16FromLe low high := by
  have hlength : (octetBits [low, high]).length = 16 := length_octetBits [low, high]
  have hdifference : crc16 checked = u16FromLe low high ↔
      (crc16 checked).toBitVec ^^^ (u16FromLe low high).toBitVec = 0#16 := by
    rw [BitVec.xor_eq_zero_iff, UInt16.toBitVec_inj]
  rw [octetBits_append, run_append, ← crc16_eq_run, run_eq_shifts hlength.le, word_octets,
    hdifference]
  constructor
  · intro hzero
    by_contra hne
    exact shifts_ne_zero (by decide) _ hne hzero
  · intro hzero
    rw [hzero]
    exact shifts_zero _

/-! ## 2. Verification -/

/-- The length and the channel identifier in front of a payload with its check sequence. -/
def frameHeader (cid : UInt16) (payload : Bytes) : Bytes :=
  u16ToLe (UInt16.ofNat payload.length) ++ u16ToLe cid

theorem verify_eq {cid : UInt16} {body : Bytes} {low high : UInt8} (hbody : body.length ≤ 65533) :
    verifyAndStripFcs cid (body ++ [low, high]) =
      if run crc16Polynomial 0#16
          (octetBits (frameHeader cid (body ++ [low, high]) ++ (body ++ [low, high]))) = 0#16 then
        .ok body
      else .error (.invalidPacket "ERTM frame has an invalid FCS") := by
  have hlength : (body ++ [low, high]).length = body.length + 2 := List.length_append
  have hchecked := run_checked (frameHeader cid (body ++ [low, high]) ++ body) low high
  rw [verifyAndStripFcs, if_neg (by omega), if_neg (by omega), hlength, Nat.add_sub_cancel,
    List.take_left' rfl, List.drop_left' rfl, ← List.append_assoc, if_congr hchecked rfl rfl]
  rw [frameHeader, hlength]
  exact ite_not _ _ _

theorem append_eq {cid : UInt16} {payload : Bytes} (hpayload : payload.length ≤ 65533) :
    appendFcs cid payload = .ok (payload ++ u16ToLe (crc16
      (u16ToLe (UInt16.ofNat (payload.length + 2)) ++ u16ToLe cid ++ payload))) := by
  rw [appendFcs, if_neg (by omega)]

theorem run_appended {cid : UInt16} {payload sent : Bytes} (hpayload : payload.length ≤ 65533)
    (hsent : appendFcs cid payload = .ok sent) :
    run crc16Polynomial 0#16 (octetBits (frameHeader cid sent ++ sent)) = 0#16 := by
  rw [append_eq hpayload] at hsent
  obtain rfl := Except.ok.inj hsent
  have hlength : ∀ fcs : UInt16, (payload ++ u16ToLe fcs).length = payload.length + 2 :=
    fun fcs => List.length_append
  rw [frameHeader, hlength, ← List.append_assoc]
  refine (run_checked _ _ _).mpr ?_
  exact (u16FromLe_toLe _).symm

def payloadBit (payload : Bytes) (index : Nat) : Option Bool := (octetBits payload)[index]?

theorem run_damaged {cid : UInt16} {sent received : Bytes} {start : Nat}
    (hsent : run crc16Polynomial 0#16 (octetBits (frameHeader cid sent ++ sent)) = 0#16)
    (hlength : received.length = sent.length) (hne : received ≠ sent)
    (hwindow : ∀ index, payloadBit received index ≠ payloadBit sent index →
      start ≤ index ∧ index < start + 16) :
    run crc16Polynomial 0#16 (octetBits (frameHeader cid received ++ received)) ≠ 0#16 := by
  have hheader : frameHeader cid received = frameHeader cid sent := by
    rw [frameHeader, hlength]
    rfl
  have hbits : (octetBits received).length = (octetBits sent).length := by
    rw [length_octetBits, length_octetBits, hlength]
  have hdifferent := @run_ne_of_window 16 crc16Polynomial (by decide) _ _ hbits
    (mt octetBits_injective hne) start hwindow
    (run crc16Polynomial 0#16 (octetBits (frameHeader cid sent)))
  rw [← run_append, ← run_append, ← octetBits_append, ← octetBits_append, hsent] at hdifferent
  rw [hheader]
  exact hdifferent

/-! ## 3. The check -/

/-- **The frame check sequence.**  What is appended is verified and stripped again, the frame is
    the one that is written with a check sequence, and every payload that differs from it within
    sixteen consecutive bits, counted from the lowest of each octet, is rejected. -/
theorem fcs_verified (cid : UInt16) {payload : Bytes} (hpayload : payload.length ≤ 65533) :
    ∃ sent, appendFcs cid payload = .ok sent ∧ verifyAndStripFcs cid sent = .ok payload ∧
      (L2capPdu.mk cid sent).toBytes false = (L2capPdu.mk cid payload).toBytes true ∧
      ∀ (received : Bytes) (start : Nat), received.length = sent.length → received ≠ sent →
        (∀ index, payloadBit received index ≠ payloadBit sent index →
          start ≤ index ∧ index < start + 16) →
        verifyAndStripFcs cid received =
          .error (.invalidPacket "ERTM frame has an invalid FCS") := by
  have hsent := @append_eq cid _ hpayload
  have hclean := run_appended hpayload hsent
  refine ⟨_, hsent, ?_, ?_, ?_⟩
  · rw [u16ToLe] at hclean ⊢
    exact (verify_eq hpayload).trans (if_pos hclean)
  · rw [L2capPdu.toBytes, L2capPdu.toBytes]
    simp only [List.length_append, length_u16ToLe, if_true, Bool.false_eq_true, if_false,
      Nat.add_zero, List.append_assoc]
  · intro received start hlength hne hwindow
    have hdamaged := run_damaged hclean hlength hne hwindow
    rw [List.length_append, length_u16ToLe] at hlength
    have hsplit := (List.take_append_drop payload.length received).symm
    have htail : (received.drop payload.length).length = 2 := by
      rw [List.length_drop, hlength, Nat.add_sub_cancel_left]
    obtain ⟨low, high, hpair⟩ := List.length_eq_two.mp htail
    rw [hpair] at hsplit
    rw [hsplit] at hdamaged ⊢
    have hbody : (received.take payload.length).length ≤ 65533 :=
      (List.length_take_le _ _).trans hpayload
    exact (verify_eq hbody).trans (if_neg hdamaged)

/-- A payload of one octet. -/
theorem octet_verified : ∃ sent, appendFcs 0x0040 [0x01] = .ok sent ∧
    verifyAndStripFcs 0x0040 sent = .ok [0x01] ∧
    (L2capPdu.mk 0x0040 sent).toBytes false = (L2capPdu.mk 0x0040 [0x01]).toBytes true ∧
    ∀ (received : Bytes) (start : Nat), received.length = sent.length → received ≠ sent →
      (∀ index, payloadBit received index ≠ payloadBit sent index →
        start ≤ index ∧ index < start + 16) →
      verifyAndStripFcs 0x0040 received =
        .error (.invalidPacket "ERTM frame has an invalid FCS") :=
  @fcs_verified 0x0040 [0x01] (by decide)

end Bumble.Classic
