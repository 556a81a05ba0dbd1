import Bumble.ByteOrder

/-!
# Bits in octets

A string of octets read as bits, the most significant bit of each octet first.  A bit is
written by growing the string where it is full and setting one bit of an octet; what has
been written so far are the bits in front of the zeros of the last octet.
-/

namespace Bumble

/-! ## 1. Bits -/

/-- The last `count` bits of a number, the most significant one first. -/
def natBits : Nat → Nat → List Bool
  | 0, _ => []
  | count + 1, value => value.testBit count :: natBits count value

def bitsOf (bytes : Bytes) : List Bool := bytes.flatMap fun octet => natBits 8 octet.toNat

@[simp] theorem length_natBits (count value : Nat) : (natBits count value).length = count := by
  induction count with
  | zero => rfl
  | succ count ih => rw [natBits, List.length_cons, ih]

theorem bitsOf_cons (octet : UInt8) (bytes : Bytes) :
    bitsOf (octet :: bytes) = natBits 8 octet.toNat ++ bitsOf bytes := List.flatMap_cons

theorem bitsOf_append (first later : Bytes) :
    bitsOf (first ++ later) = bitsOf first ++ bitsOf later :=
  List.flatMap_append

@[simp] theorem length_bitsOf (bytes : Bytes) : (bitsOf bytes).length = 8 * bytes.length := by
  induction bytes with
  | nil => rfl
  | cons octet bytes ih =>
    rw [bitsOf_cons, List.length_append, length_natBits, ih, List.length_cons]
    omega

theorem octet_of_bits {octet other : UInt8}
    (hbits : natBits 8 octet.toNat = natBits 8 other.toNat) :
    octet = other := by
  have hvalue : ∀ value : Fin 256, (natBits 8 value.val).foldl
      (fun number bit => number * 2 + if bit then 1 else 0) 0 = value.val := by
    set_option maxRecDepth 30000 in decide
  have hoctet := hvalue ⟨octet.toNat, octet.toNat_lt⟩
  have hother := hvalue ⟨other.toNat, other.toNat_lt⟩
  rw [hbits] at hoctet
  exact UInt8.toNat_inj.mp (hoctet.symm.trans hother)

theorem bytes_of_bits {bytes : Bytes} : ∀ {other : Bytes},
    bytes.length = other.length → bitsOf bytes = bitsOf other → bytes = other := by
  induction bytes with
  | nil =>
    intro other hlength hbits
    exact (List.eq_nil_of_length_eq_zero hlength.symm).symm
  | cons octet bytes ih =>
    intro other hlength hbits
    cases other with
    | nil => cases hlength
    | cons head other =>
      rw [bitsOf_cons, bitsOf_cons] at hbits
      obtain ⟨hhead, hrest⟩ := List.append_inj hbits (by rw [length_natBits, length_natBits])
      rw [octet_of_bits hhead, ih (Nat.succ.inj hlength) hrest]

/-! ## 2. One bit -/

def bitOctet (bit : Bool) : UInt8 := if bit then 1 else 0

/-- `bytes[index] |= bit << (7 - place)`. -/
def orBit (bytes : Bytes) (index place : Nat) (bit : Bool) : Bytes :=
  bytes.modify index fun octet => octet ||| bitOctet bit <<< UInt8.ofNat (7 - place)

/-- `(byte >> (7 - place)) & 1`, at a bit position. -/
def bitAt (bytes : Bytes) (position : Nat) : Bool :=
  (bytes.getD (position / 8) 0).toNat.testBit (7 - position % 8)

theorem getElem?_natBits (count value : Nat) : ∀ {place : Nat}, place < count →
    (natBits count value)[place]? = some (value.testBit (count - 1 - place)) := by
  induction count with
  | zero =>
    intro place hplace
    omega
  | succ count ih =>
    intro place hplace
    cases place with
    | zero => rfl
    | succ place =>
      rw [natBits, List.getElem?_cons_succ, ih (Nat.lt_of_succ_lt_succ hplace)]
      congr 2
      omega

theorem getElem?_bitsOf (bytes : Bytes) : ∀ {position : Nat}, position < 8 * bytes.length →
    (bitsOf bytes)[position]? = some (bitAt bytes position) := by
  induction bytes with
  | nil =>
    intro position hposition
    rw [List.length_nil] at hposition
    omega
  | cons octet bytes ih =>
    intro position hposition
    rw [bitsOf_cons, bitAt]
    by_cases hfirst : position < 8
    · rw [List.getElem?_append_left (by rw [length_natBits]; exact hfirst),
        getElem?_natBits 8 octet.toNat hfirst, Nat.div_eq_of_lt hfirst, Nat.mod_eq_of_lt hfirst]
      rfl
    · obtain ⟨later, rfl⟩ : ∃ later, position = later + 8 := ⟨position - 8, by omega⟩
      rw [List.length_cons] at hposition
      rw [List.getElem?_append_right (by rw [length_natBits]; omega), length_natBits,
        Nat.add_sub_cancel, ih (by omega), bitAt, Nat.add_mod_right,
        Nat.add_div_right _ (by decide)]
      rfl

theorem natBits_orBit (octet : UInt8) (bit : Bool) {place : Nat} (hplace : place < 8)
    (hzero : octet.toNat.testBit (7 - place) = false) :
    natBits 8 (octet ||| bitOctet bit <<< UInt8.ofNat (7 - place)).toNat =
      (natBits 8 octet.toNat).set place bit := by
  have hshift : ∀ bit : Bool, ∀ place : Fin 8,
      (bitOctet bit <<< UInt8.ofNat (7 - place.val)).toNat =
        if bit then 2 ^ (7 - place.val) else 0 := by
    decide
  have hnew := hshift bit ⟨place, hplace⟩
  dsimp only at hnew
  apply List.ext_getElem?
  intro other
  by_cases hother : other < 8
  · rw [getElem?_natBits 8 _ hother, UInt8.toNat_or, Nat.testBit_or, hnew, List.getElem?_set]
    rw [length_natBits, getElem?_natBits 8 _ hother]
    by_cases hsame : place = other
    · subst hsame
      rw [if_pos rfl, if_pos hplace, show 8 - 1 - place = 7 - place from rfl, hzero]
      cases bit with
      | false => rw [if_neg Bool.false_ne_true, Nat.zero_testBit, Bool.or_false]
      | true => rw [if_pos rfl, Nat.testBit_two_pow_self, Bool.or_true]
    · rw [if_neg hsame]
      congr 1
      have hdiffer : 7 - place ≠ 8 - 1 - other := by omega
      cases bit with
      | false => rw [if_neg Bool.false_ne_true, Nat.zero_testBit, Bool.or_false]
      | true => rw [if_pos rfl, Nat.testBit_two_pow_of_ne hdiffer, Bool.or_false]
  · rw [List.getElem?_eq_none, List.getElem?_eq_none]
    · rw [List.length_set, length_natBits]
      omega
    · rw [length_natBits]
      omega

theorem bitsOf_orBit (bit : Bool) (bytes : Bytes) : ∀ {position : Nat},
    position < 8 * bytes.length → bitAt bytes position = false →
    bitsOf (orBit bytes (position / 8) (position % 8) bit) = (bitsOf bytes).set position bit := by
  induction bytes with
  | nil =>
    intro position hposition
    rw [List.length_nil] at hposition
    omega
  | cons octet bytes ih =>
    intro position hposition hzero
    rw [bitAt] at hzero
    by_cases hfirst : position < 8
    · rw [Nat.div_eq_of_lt hfirst, Nat.mod_eq_of_lt hfirst] at hzero ⊢
      rw [orBit, List.modify_zero_cons, bitsOf_cons, bitsOf_cons,
        natBits_orBit octet bit hfirst hzero,
        List.set_append_left _ _ (by rw [length_natBits]; exact hfirst)]
    · obtain ⟨later, rfl⟩ : ∃ later, position = later + 8 := ⟨position - 8, by omega⟩
      rw [List.length_cons] at hposition
      rw [Nat.add_mod_right, Nat.add_div_right _ (by decide)] at hzero ⊢
      have hrest := ih (show later < 8 * bytes.length by omega) hzero
      rw [orBit] at hrest
      rw [orBit, List.modify_succ_cons, bitsOf_cons, bitsOf_cons, hrest,
        List.set_append_right _ _ (by rw [length_natBits]; omega), length_natBits,
        Nat.add_sub_cancel]

/-! ## 3. What has been written -/

/-- The octets hold these bits, that many, and zeros up to the end of the last octet. -/
structure HoldsBits (bytes : Bytes) (count : Nat) (bits : List Bool) : Prop where
  count : count = bits.length
  bits : ∃ zeros < 8, bitsOf bytes = bits ++ List.replicate zeros false

theorem holdsBits_nil : HoldsBits [] 0 [] := ⟨rfl, 0, by decide, rfl⟩

variable {bytes : Bytes} {count : Nat} {bits : List Bool}

theorem HoldsBits.length (hholds : HoldsBits bytes count bits) :
    bytes.length = (count + 7) / 8 := by
  obtain ⟨zeros, hzeros, hbits⟩ := hholds.bits
  have hlength := congrArg List.length hbits
  rw [length_bitsOf, List.length_append, List.length_replicate, ← hholds.count] at hlength
  omega

theorem HoldsBits.unique (hholds : HoldsBits bytes count bits) {other : Bytes} {count' : Nat}
    (hother : HoldsBits other count' bits) : bytes = other := by
  obtain ⟨zeros, hzeros, hbits⟩ := hholds.bits
  obtain ⟨zeros', hzeros', hbits'⟩ := hother.bits
  have hlength : bytes.length = other.length := by
    rw [hholds.length, hother.length, hholds.count, hother.count]
  have hsame : zeros = zeros' := by
    have hfirst := congrArg List.length hbits
    have hsecond := congrArg List.length hbits'
    rw [length_bitsOf, List.length_append, List.length_replicate] at hfirst hsecond
    omega
  rw [← hsame, ← hbits] at hbits'
  exact bytes_of_bits hlength hbits'.symm

theorem HoldsBits.push (hholds : HoldsBits bytes count bits) (bit : Bool) :
    HoldsBits (orBit (if count % 8 = 0 then bytes ++ [0] else bytes) (count / 8) (count % 8) bit)
      (count + 1) (bits ++ [bit]) := by
  obtain ⟨hcount, zeros, hzeros, hbits⟩ := hholds
  subst hcount
  -- in both cases zeros are behind the bits
  obtain ⟨grown, hgrown, room, hroom, hall⟩ : ∃ grown : Bytes,
      (if bits.length % 8 = 0 then bytes ++ [0] else bytes) = grown ∧
      ∃ room < 8, bitsOf grown = bits ++ false :: List.replicate room false := by
    have hlength := congrArg List.length hbits
    rw [length_bitsOf, List.length_append, List.length_replicate] at hlength
    split
    · refine ⟨_, rfl, 7, by decide, ?_⟩
      obtain rfl : zeros = 0 := by omega
      rw [bitsOf_append, hbits, List.replicate_zero, List.append_nil]
      rfl
    · obtain ⟨room, rfl⟩ : ∃ room, zeros = room + 1 := ⟨zeros - 1, by omega⟩
      exact ⟨_, rfl, room, by omega, hbits⟩
  rw [hgrown]
  have hlength := congrArg List.length hall
  rw [length_bitsOf, List.length_append, List.length_cons, List.length_replicate] at hlength
  have hposition : bits.length < 8 * grown.length := by omega
  have hzero : bitAt grown bits.length = false := by
    have hget := getElem?_bitsOf grown hposition
    rw [hall, List.getElem?_append_right (le_refl _), Nat.sub_self] at hget
    exact (Option.some.inj hget).symm
  constructor
  · rw [List.length_append, List.length_singleton]
  · refine ⟨room, hroom, ?_⟩
    rw [bitsOf_orBit bit grown hposition hzero, hall, List.set_append_right _ _ (le_refl _),
      Nat.sub_self, List.append_assoc]
    rfl

end Bumble
