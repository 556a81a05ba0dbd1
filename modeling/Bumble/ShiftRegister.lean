import Mathlib.Data.BitVec
import Mathlib.Data.List.Basic
import Mathlib.Tactic.ByContra

/-!
# Shift registers

A cyclic redundancy check moves a register to the right, one place for each bit of the message,
and adds the polynomial when the bit that falls out differs from that of the message.  Both are
linear in exclusive or, so what a register makes of a damaged message is what it makes of the
message and of the damage.  Nothing in this file depends on the width or the polynomial.
-/

namespace Bumble.ShiftRegister

variable {w : Nat} (polynomial : BitVec w)

/-- One place to the right; the bit that falls out adds the polynomial. -/
def shift (register : BitVec w) : BitVec w :=
  if register.getLsbD 0 then (register >>> 1) ^^^ polynomial else register >>> 1

/-- A register with a bit of the message in its lowest place. -/
def withBit (register : BitVec w) (bit : Bool) : BitVec w :=
  register ^^^ (BitVec.ofBool bit).setWidth w

def feed (register : BitVec w) (bit : Bool) : BitVec w := shift polynomial (withBit register bit)

def run (register : BitVec w) (bits : List Bool) : BitVec w := bits.foldl (feed polynomial) register

def shifts : Nat → BitVec w → BitVec w
  | 0, register => register
  | count + 1, register => shifts count (shift polynomial register)

variable {polynomial}

/-! ## 1. Linearity -/

theorem shift_xor (first second : BitVec w) :
    shift polynomial (first ^^^ second) = shift polynomial first ^^^ shift polynomial second := by
  have hcancel : ∀ a b : BitVec w, a ^^^ polynomial ^^^ (b ^^^ polynomial) = a ^^^ b := by
    intro a b
    rw [BitVec.xor_assoc, BitVec.xor_comm polynomial, BitVec.xor_assoc, BitVec.xor_self,
      BitVec.xor_zero]
  unfold shift
  rw [BitVec.getLsbD_xor, BitVec.ushiftRight_xor_distrib]
  cases first.getLsbD 0 <;> cases second.getLsbD 0
  · rfl
  · exact BitVec.xor_assoc _ _ _
  · simp only [Bool.true_xor, Bool.not_false, if_true, Bool.false_eq_true, if_false]
    rw [BitVec.xor_assoc, BitVec.xor_comm (second >>> 1), BitVec.xor_assoc]
  · exact (hcancel _ _).symm

theorem shift_zero : shift polynomial 0#w = 0#w := by
  simp [shift]

theorem shifts_zero (count : Nat) : shifts polynomial count 0#w = 0#w := by
  induction count with
  | zero => rfl
  | succ count ih =>
    rw [shifts, shift_zero]
    exact ih

theorem withBit_xor (first second : BitVec w) (bit other : Bool) :
    withBit (first ^^^ second) (bit ^^ other) = withBit first bit ^^^ withBit second other := by
  have hbit : (BitVec.ofBool (bit ^^ other)).setWidth w =
      (BitVec.ofBool bit).setWidth w ^^^ (BitVec.ofBool other).setWidth w := by
    rw [← BitVec.setWidth_xor]
    cases bit <;> cases other <;> rfl
  unfold withBit
  rw [hbit]
  ac_rfl

/-- **Linearity.**  The register of a message and a damage is the one of the message and the one
    of the damage. -/
theorem run_xor (first second : BitVec w) {bits others : List Bool}
    (hlength : bits.length = others.length) :
    run polynomial (first ^^^ second) (List.zipWith Bool.xor bits others) =
      run polynomial first bits ^^^ run polynomial second others := by
  induction bits generalizing first second others with
  | nil =>
    rw [List.eq_nil_of_length_eq_zero hlength.symm]
    rfl
  | cons bit bits ih =>
    rcases others with _ | ⟨other, others⟩
    · cases hlength
    · have hfeed : feed polynomial (first ^^^ second) (bit ^^ other) =
          feed polynomial first bit ^^^ feed polynomial second other := by
        rw [feed, withBit_xor, shift_xor]
        rfl
      change run polynomial (feed polynomial (first ^^^ second) (bit ^^ other)) _ = _
      rw [hfeed]
      exact ih _ _ (Nat.succ.inj hlength)

theorem run_append (register : BitVec w) (front bits : List Bool) :
    run polynomial register (front ++ bits) = run polynomial (run polynomial register front) bits :=
  List.foldl_append

/-! ## 2. No register is forgotten -/

theorem shift_ne_zero (hpolynomial : polynomial.msb = true) {register : BitVec w}
    (hregister : register ≠ 0#w) : shift polynomial register ≠ 0#w := by
  intro hzero
  unfold shift at hzero
  split at hzero
  · have hmsb : (register >>> 1 ^^^ polynomial).msb = true := by
      rw [BitVec.msb_xor, BitVec.msb_ushiftRight, hpolynomial]
      rfl
    rw [hzero, BitVec.msb_zero] at hmsb
    cases hmsb
  · next hlow =>
    refine hregister (BitVec.eq_of_getLsbD_eq ?_)
    intro index _
    rcases index with _ | index
    · rw [Bool.eq_false_iff.mpr hlow, BitVec.getLsbD_zero]
    · have hplace := congrArg (BitVec.getLsbD · index) hzero
      simp only [BitVec.getLsbD_ushiftRight, BitVec.getLsbD_zero] at hplace
      rw [BitVec.getLsbD_zero, Nat.add_comm, hplace]

theorem shifts_ne_zero (hpolynomial : polynomial.msb = true) (count : Nat) {register : BitVec w}
    (hregister : register ≠ 0#w) : shifts polynomial count register ≠ 0#w := by
  induction count generalizing register with
  | zero => exact hregister
  | succ count ih => exact ih (shift_ne_zero hpolynomial hregister)

theorem shifts_injective (hpolynomial : polynomial.msb = true) (count : Nat)
    {first second : BitVec w}
    (heq : shifts polynomial count first = shifts polynomial count second) : first = second := by
  induction count generalizing first second with
  | zero => exact heq
  | succ count ih =>
    have hshift := ih heq
    by_contra hne
    refine shift_ne_zero hpolynomial (mt BitVec.xor_eq_zero_iff.mp hne) ?_
    rw [shift_xor, hshift, BitVec.xor_self]

theorem withBit_false (register : BitVec w) : withBit register false = register := by
  simp [withBit]

theorem run_replicate (register : BitVec w) (count : Nat) :
    run polynomial register (List.replicate count false) = shifts polynomial count register := by
  induction count generalizing register with
  | zero => rfl
  | succ count ih =>
    have hfeed : feed polynomial register false = shift polynomial register := by
      rw [feed, withBit_false]
    rw [List.replicate_succ, shifts, ← hfeed]
    exact ih _

/-! ## 3. Messages no longer than the register -/

variable (w) in
/-- The bits in the places of a register, the first in the lowest. -/
def word : List Bool → BitVec w
  | [] => 0#w
  | bit :: bits => withBit (word bits <<< 1) bit

theorem getLsbD_withBit (register : BitVec w) (bit : Bool) (index : Nat) :
    (withBit register bit).getLsbD index =
      (register.getLsbD index ^^ (decide (index < w) && decide (index = 0) && bit)) := by
  rw [withBit, BitVec.getLsbD_xor, BitVec.getLsbD_setWidth, BitVec.getLsbD_ofBool, Bool.and_assoc]

theorem getLsbD_word (bits : List Bool) (index : Nat) :
    (word w bits).getLsbD index = (decide (index < w) && bits.getD index false) := by
  induction bits generalizing index with
  | nil => simp [word]
  | cons bit bits ih =>
    rw [word, getLsbD_withBit, BitVec.getLsbD_shiftLeft, ih]
    rcases index with _ | index
    · simp
    · by_cases hindex : index + 1 < w
      · have hlow : index < w := Nat.lt_of_succ_lt hindex
        simp [hindex, hlow]
      · simp [hindex]

theorem shift_shiftLeft {register : BitVec w}
    (hlow : ∀ index, w ≤ index + 1 → register.getLsbD index = false) :
    shift polynomial (register <<< 1) = register := by
  have hfirst : (register <<< 1).getLsbD 0 = false := by
    rw [BitVec.getLsbD_shiftLeft]
    simp
  rw [shift, hfirst, if_neg Bool.false_ne_true]
  refine BitVec.eq_of_getLsbD_eq ?_
  intro index hindex
  rw [BitVec.getLsbD_ushiftRight, BitVec.getLsbD_shiftLeft]
  by_cases hlast : 1 + index < w
  · simp [hlast]
  · rw [hlow index (by omega)]
    simp [hlast]

theorem run_eq_shifts {bits : List Bool} (hlength : bits.length ≤ w) (register : BitVec w) :
    run polynomial register bits = shifts polynomial bits.length (register ^^^ word w bits) := by
  induction bits generalizing register with
  | nil =>
    rw [word, BitVec.xor_zero]
    rfl
  | cons bit bits ih =>
    rw [List.length_cons] at hlength
    have hback : shift polynomial (word w bits <<< 1) = word w bits := by
      refine shift_shiftLeft ?_
      intro index hindex
      rw [getLsbD_word, List.getD_eq_getElem?_getD, List.getElem?_eq_none (by omega)]
      exact Bool.and_false _
    have hword : withBit register bit ^^^ word w bits <<< 1 =
        register ^^^ word w (bit :: bits) := by
      rw [word, withBit, withBit]
      ac_rfl
    change run polynomial (feed polynomial register bit) bits = _
    rw [ih (by omega), feed, ← hword, List.length_cons, shifts, shift_xor, hback]

def places (register : BitVec w) : List Bool := (List.range w).map register.getLsbD

theorem word_places (register : BitVec w) : word w (places register) = register := by
  refine BitVec.eq_of_getLsbD_eq ?_
  intro index hindex
  rw [getLsbD_word, decide_eq_true hindex, Bool.true_and, places, List.getD_eq_getElem?_getD,
    List.getElem?_map, List.getElem?_range hindex]
  rfl

theorem length_places (register : BitVec w) : (places register).length = w := by
  rw [places, List.length_map, List.length_range]

/-! ## 4. Bursts -/

/-- **Bursts.**  Damage that is not longer than the register leaves something in it, whatever is
    in front of it and behind. -/
theorem run_burst (hpolynomial : polynomial.msb = true) {burst : List Bool}
    (hlength : burst.length ≤ w) (hburst : true ∈ burst) (front later : Nat) :
    run polynomial 0#w (List.replicate front false ++ burst ++
      List.replicate later false) ≠ 0#w := by
  have hword : word w burst ≠ 0#w := by
    intro hzero
    obtain ⟨index, hindex⟩ := List.mem_iff_getElem?.mp hburst
    have hlt : index < burst.length := (List.getElem?_eq_some_iff.mp hindex).1
    have hplace := congrArg (BitVec.getLsbD · index) hzero
    simp only [getLsbD_word, BitVec.getLsbD_zero, List.getD_eq_getElem?_getD, hindex] at hplace
    rw [decide_eq_true (by omega)] at hplace
    cases hplace
  rw [run_append, run_append, run_replicate 0#w front, shifts_zero, run_eq_shifts hlength,
    BitVec.zero_xor, run_replicate]
  exact shifts_ne_zero hpolynomial later (shifts_ne_zero hpolynomial burst.length hword)

theorem eq_replicate_false {bits : List Bool} (hbits : true ∉ bits) :
    bits = List.replicate bits.length false := by
  refine List.eq_replicate_iff.mpr ⟨rfl, ?_⟩
  intro bit hmem
  refine Bool.eq_false_iff.mpr ?_
  rintro rfl
  exact hbits hmem

theorem run_ne_zero (hpolynomial : polynomial.msb = true) {damage : List Bool} {start : Nat}
    (hdamage : true ∈ damage)
    (hwindow : ∀ index : Nat, damage[index]? = some true → start ≤ index ∧ index < start + w) :
    run polynomial 0#w damage ≠ 0#w := by
  have hfront : true ∉ damage.take start := by
    intro hmem
    obtain ⟨index, hindex⟩ := List.mem_iff_getElem?.mp hmem
    rw [List.getElem?_take] at hindex
    split at hindex
    · exact absurd (hwindow index hindex).1 (by omega)
    · cases hindex
  have hlater : true ∉ damage.drop (start + w) := by
    intro hmem
    obtain ⟨index, hindex⟩ := List.mem_iff_getElem?.mp hmem
    rw [List.getElem?_drop] at hindex
    exact absurd (hwindow _ hindex).2 (by omega)
  have hsplit : damage = damage.take start ++ (damage.drop start).take w ++
      damage.drop (start + w) := by
    rw [List.append_assoc, ← List.drop_drop, List.take_append_drop, List.take_append_drop]
  have hburst : true ∈ (damage.drop start).take w := by
    rw [hsplit, List.mem_append, List.mem_append] at hdamage
    rcases hdamage with (hmem | hmem) | hmem
    · exact absurd hmem hfront
    · exact hmem
    · exact absurd hmem hlater
  rw [hsplit, eq_replicate_false hfront, eq_replicate_false hlater]
  exact run_burst hpolynomial (List.length_take_le _ _) hburst _ _

/-! ## 5. Octets -/

/-- The bits of a message of octets, each octet from its lowest bit on. -/
def octetBits (data : List UInt8) : List Bool := data.flatMap fun octet => places octet.toBitVec

theorem length_octetBits (data : List UInt8) : (octetBits data).length = 8 * data.length := by
  induction data with
  | nil => rfl
  | cons octet data ih =>
    rw [octetBits, List.flatMap_cons, List.length_append, length_places, List.length_cons,
      Nat.mul_succ, Nat.add_comm]
    exact congrArg (· + 8) ih

theorem octetBits_append (front data : List UInt8) :
    octetBits (front ++ data) = octetBits front ++ octetBits data :=
  List.flatMap_append

theorem octetBits_injective {first second : List UInt8} (heq : octetBits first = octetBits second) :
    first = second := by
  have hlength : first.length = second.length := by
    have heights := congrArg List.length heq
    rw [length_octetBits, length_octetBits] at heights
    omega
  induction first generalizing second with
  | nil => exact (List.eq_nil_of_length_eq_zero hlength.symm).symm
  | cons octet first ih =>
    rcases second with _ | ⟨other, second⟩
    · cases hlength
    · rw [octetBits, List.flatMap_cons, octetBits, List.flatMap_cons] at heq
      obtain ⟨hoctet, hrest⟩ := List.append_inj heq (by rw [length_places, length_places])
      have hword := congrArg (word 8) hoctet
      rw [word_places, word_places] at hword
      rw [UInt8.toBitVec_inj.mp hword, ih hrest (Nat.succ.inj hlength)]

theorem run_octet (hwidth : 8 ≤ w) (register : BitVec w) (octet : UInt8) :
    run polynomial register (places octet.toBitVec) =
      shifts polynomial 8 (register ^^^ octet.toBitVec.setWidth w) := by
  have hword : word w (places octet.toBitVec) = octet.toBitVec.setWidth w := by
    refine BitVec.eq_of_getLsbD_eq ?_
    intro index hindex
    have hoctet := congrArg (BitVec.getLsbD · index) (word_places octet.toBitVec)
    simp only [getLsbD_word] at hoctet
    rw [getLsbD_word, BitVec.getLsbD_setWidth, decide_eq_true hindex, ← hoctet]
    by_cases hlow : index < 8
    · rw [decide_eq_true hlow, Bool.true_and, Bool.true_and]
    · rw [List.getD_eq_getElem?_getD, List.getElem?_eq_none (by rw [length_places]; omega),
        decide_eq_false hlow]
      rfl
  rw [run_eq_shifts (by rw [length_places]; exact hwidth), hword, length_places]

theorem run_ne_of_window (hpolynomial : polynomial.msb = true) {first second : List Bool}
    (hlength : first.length = second.length) (hne : first ≠ second) {start : Nat}
    (hwindow : ∀ index : Nat, first[index]? ≠ second[index]? → start ≤ index ∧ index < start + w)
    (register : BitVec w) : run polynomial register first ≠ run polynomial register second := by
  have hplace : ∀ index : Nat, (List.zipWith Bool.xor first second)[index]? = some true →
      first[index]? ≠ second[index]? := by
    intro index hsome heq
    rw [List.getElem?_zipWith, heq] at hsome
    cases hbit : second[index]? with
    | none =>
      rw [hbit] at hsome
      cases hsome
    | some bit =>
      rw [hbit] at hsome
      change some (bit ^^ bit) = some true at hsome
      rw [Bool.xor_self] at hsome
      cases hsome
  have hdamage : true ∈ List.zipWith Bool.xor first second := by
    by_contra hnone
    refine hne (List.ext_getElem hlength ?_)
    intro index hfirst hsecond
    by_contra hbits
    refine hnone (List.mem_iff_getElem?.mpr ⟨index, ?_⟩)
    rw [List.getElem?_zipWith, List.getElem?_eq_getElem hfirst, List.getElem?_eq_getElem hsecond]
    exact congrArg some (bne_iff_ne.mpr hbits)
  have hdifference : run polynomial 0#w (List.zipWith Bool.xor first second) ≠ 0#w :=
    run_ne_zero hpolynomial hdamage fun index hsome => hwindow index (hplace index hsome)
  intro heq
  refine hdifference ?_
  have hlinear := @run_xor _ polynomial register register first second hlength
  rw [BitVec.xor_self, heq, BitVec.xor_self] at hlinear
  exact hlinear

end Bumble.ShiftRegister
