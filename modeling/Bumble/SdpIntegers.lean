import Bumble.SdpElement

/-!
# Integers of data elements

An integer is written in a number of octets and read from them again.  Signed ones are
cut off their two's complement and extended by their sign.
-/

namespace Bumble

/-! ## 1. Big-endian numbers -/

theorem natToBe_add (front : Nat) (count : Nat) : ∀ value,
    natToBe (front + count) value = natToBe front (value / 256 ^ count) ++ natToBe count value := by
  induction count with
  | zero =>
    intro value
    rw [Nat.pow_zero, Nat.div_one]
    exact (List.append_nil _).symm
  | succ count ih =>
    intro value
    rw [← Nat.add_assoc, natToBe, ih, natToBe, Nat.div_div_eq_div_mul, Nat.pow_succ',
      List.append_assoc]

theorem drop_natToBe (front count value : Nat) :
    (natToBe (front + count) value).drop front = natToBe count value := by
  rw [natToBe_add, List.drop_left' (length_natToBe front _)]

theorem take_natToBe (front count value : Nat) :
    (natToBe (front + count) value).take front = natToBe front (value / 256 ^ count) := by
  rw [natToBe_add, List.take_left' (length_natToBe front _)]

theorem natToBe_mod (count value : Nat) :
    natToBe count (value % 256 ^ count) = natToBe count value := by
  induction count generalizing value with
  | zero => rfl
  | succ count ih =>
    have hlast : value % 256 ^ (count + 1) % 256 = value % 256 := by
      rw [Nat.pow_succ, Nat.mod_mul_left_mod]
    have hfront : value % 256 ^ (count + 1) / 256 = value / 256 % 256 ^ count := by
      rw [Nat.pow_succ, Nat.mod_mul_left_div_self]
    rw [natToBe, natToBe, hlast, hfront, ih]

theorem beToNat_natToBe_mod (count value : Nat) :
    beToNat (natToBe count value) = value % 256 ^ count := by
  rw [← natToBe_mod, beToNat_natToBe count (Nat.mod_lt _ (Nat.pow_pos (by decide)))]

theorem natToBe_zero (count : Nat) : ∀ octet ∈ natToBe count 0, octet = 0 := by
  induction count with
  | zero =>
    intro octet hoctet
    cases hoctet
  | succ count ih =>
    intro octet hoctet
    rw [natToBe, Nat.zero_div] at hoctet
    rcases List.mem_append.mp hoctet with hoctet | hoctet
    · exact ih octet hoctet
    · exact List.mem_singleton.mp hoctet

theorem beToNat_of_zero {bytes : Bytes} (hzero : ∀ octet ∈ bytes, octet = 0) :
    beToNat bytes = 0 := by
  have hall : bytes = List.replicate bytes.length 0 := List.eq_replicate_iff.mpr ⟨rfl, hzero⟩
  have hpower : ∀ count, beToNat (List.replicate count 0) = 0 := by
    intro count
    induction count with
    | zero => rfl
    | succ count ih => rw [List.replicate_succ', beToNat_append, ih]; rfl
  rw [hall, hpower]

theorem front_zero_iff (front count value : Nat) (hvalue : value < 256 ^ (front + count)) :
    ((natToBe (front + count) value).take front).any (fun octet => octet != 0) = false ↔
      value < 256 ^ count := by
  rw [take_natToBe, List.any_eq_false]
  have hpos : 0 < 256 ^ count := Nat.pow_pos (by decide)
  have hfront : value / 256 ^ count < 256 ^ front := by
    rw [Nat.div_lt_iff_lt_mul hpos, ← Nat.pow_add]
    exact hvalue
  constructor
  · intro hall
    have hzero : beToNat (natToBe front (value / 256 ^ count)) = 0 :=
      beToNat_of_zero fun octet hoctet => by simpa using hall octet hoctet
    rw [beToNat_natToBe front hfront] at hzero
    exact (Nat.div_eq_zero_iff_lt hpos).mp hzero
  · intro hlt octet hoctet
    rw [Nat.div_eq_of_lt hlt] at hoctet
    simp [natToBe_zero front octet hoctet]

namespace Sdp.DataElement

/-! ## 2. What is read from octets -/

theorem toNat_step (acc : BitVec 128) (octet : UInt8) :
    (acc <<< 8 ||| octet.toBitVec.setWidth 128).toNat =
      (acc.toNat * 256 + octet.toNat) % 2 ^ 128 := by
  have hoctet : octet.toNat < 2 ^ 8 := octet.toNat_lt
  rw [BitVec.toNat_or, BitVec.toNat_shiftLeft, BitVec.toNat_setWidth, Nat.shiftLeft_eq]
  change (acc.toNat * 2 ^ 8 % 2 ^ 128) ||| (octet.toNat % 2 ^ 128) = _
  rw [Nat.mod_eq_of_lt (show octet.toNat < 2 ^ 128 by omega)]
  have hhigh : acc.toNat * 2 ^ 8 % 2 ^ 128 = 2 ^ 8 * (acc.toNat % 2 ^ 120) := by omega
  rw [hhigh, ← Nat.two_pow_add_eq_or_of_lt hoctet]
  omega

theorem toNat_loop (bytes : Bytes) : ∀ acc : BitVec 128,
    (bytes.foldl (fun (acc : BitVec 128) octet =>
      acc <<< 8 ||| octet.toBitVec.setWidth 128) acc).toNat =
      (acc.toNat * 256 ^ bytes.length + beToNat bytes) % 2 ^ 128 := by
  induction bytes using List.reverseRecOn with
  | nil =>
    intro acc
    have hacc := acc.isLt
    change acc.toNat = (acc.toNat * 1 + 0) % _
    omega
  | append_singleton bytes octet ih =>
    intro acc
    rw [List.foldl_append, List.foldl_cons, List.foldl_nil, toNat_step, ih, beToNat_append,
      List.length_append, List.length_singleton, pow_succ 256 bytes.length, ← Nat.mul_assoc]
    omega

theorem toNat_beToU128 {value : Bytes} (hlength : value.length ≤ 16) :
    (beToU128 value).toNat = beToNat value := by
  have hlt : beToNat value < 256 ^ 16 :=
    Nat.lt_of_lt_of_le (beToNat_lt value) (Nat.pow_le_pow_right (by decide) hlength)
  rw [beToU128, toNat_loop]
  change (0 * _ + beToNat value) % _ = _
  omega

theorem beToNat_cons (first : UInt8) (later : Bytes) :
    beToNat (first :: later) = first.toNat * 256 ^ later.length + beToNat later := by
  induction later using List.reverseRecOn with
  | nil =>
    change 0 * 256 + first.toNat = first.toNat * 1 + 0
    omega
  | append_singleton later octet ih =>
    rw [← List.cons_append, beToNat_append, beToNat_append, ih, List.length_append,
      List.length_singleton, Nat.pow_succ, Nat.add_mul, Nat.mul_assoc, Nat.add_assoc]

theorem sign_iff (first : UInt8) : first &&& 0x80 ≠ 0 ↔ 128 ≤ first.toNat := by
  revert first
  set_option maxRecDepth 30000 in decide

theorem toNat_beToI128 {value : Bytes} (hempty : value ≠ []) :
    (beToI128 value).toNat =
      if 128 * 256 ^ (value.length - 1) ≤ beToNat value then
        ((2 ^ 128 - 1) * 256 ^ value.length + beToNat value) % 2 ^ 128
      else beToNat value % 2 ^ 128 := by
  cases value with
  | nil => exact absurd rfl hempty
  | cons first later =>
    have hlater := beToNat_lt later
    have hcons := beToNat_cons first later
    have hsign : first &&& 0x80 ≠ 0 ↔ 128 * 256 ^ later.length ≤ beToNat (first :: later) := by
      rw [sign_iff, hcons]
      constructor
      · intro hle
        exact Nat.le_trans (Nat.mul_le_mul_right _ hle) (Nat.le_add_right _ _)
      · intro hle
        by_contra hgt
        have hmul : (first.toNat + 1) * 256 ^ later.length ≤ 128 * 256 ^ later.length :=
          Nat.mul_le_mul_right _ (by omega)
        rw [Nat.add_mul, Nat.one_mul] at hmul
        omega
    change BitVec.toNat (List.foldl _ (if first &&& 0x80 ≠ 0 then _ else _) (first :: later)) = _
    rw [toNat_loop, List.length_cons, Nat.add_sub_cancel]
    by_cases hhigh : first &&& 0x80 ≠ 0
    · rw [if_pos hhigh, if_pos (hsign.mp hhigh), BitVec.toNat_allOnes]
    · rw [if_neg hhigh, if_neg (fun hle => hhigh (hsign.mpr hle))]
      change (0 * _ + _) % _ = _
      rw [Nat.zero_mul, Nat.zero_add]

/-! ## 3. Both ways -/

theorem mem_integerSizes {size : UInt8} (hsize : size ∈ integerSizes) :
    size = 1 ∨ size = 2 ∨ size = 4 ∨ size = 8 ∨ size = 16 := by
  simpa [integerSizes] using hsize

theorem drop_of_size {size : UInt8} (hsize : size ∈ integerSizes) (value : Nat) :
    size.toNat ≤ 16 ∧ (natToBe 16 value).drop (16 - size.toNat) = natToBe size.toNat value := by
  have hle : size.toNat ≤ 16 := by
    rcases mem_integerSizes hsize with rfl | rfl | rfl | rfl | rfl <;> decide
  have hdrop := drop_natToBe (16 - size.toNat) size.toNat value
  rw [Nat.sub_add_cancel hle] at hdrop
  exact ⟨hle, hdrop⟩

theorem unsignedToBytes_eq (value : BitVec 128) {size : UInt8} (hsize : size ∈ integerSizes)
    (hfits : value.toNat < 256 ^ size.toNat) :
    unsignedToBytes value size = .ok (natToBe size.toNat value.toNat) := by
  obtain ⟨hle, hdrop⟩ := drop_of_size hsize value.toNat
  have hsum : 16 = (16 - size.toNat) + size.toNat := by omega
  have hany := (front_zero_iff (16 - size.toNat) size.toNat value.toNat
    (by rw [← hsum]; exact value.isLt)).mpr hfits
  rw [← hsum] at hany
  simp only [unsignedToBytes, hany, hdrop]
  rw [if_neg (not_not.mpr hsize), if_neg (by decide)]

theorem unsignedToBytes_eq_ok {value : BitVec 128} {size : UInt8} {bytes : Bytes}
    (hbytes : unsignedToBytes value size = .ok bytes) :
    size ∈ integerSizes ∧ bytes.length = size.toNat ∧ beToU128 bytes = value := by
  simp only [unsignedToBytes] at hbytes
  split at hbytes
  · cases hbytes
  · next hsize =>
    have hmem : size ∈ integerSizes := not_not.mp hsize
    obtain ⟨hle, hdrop⟩ := drop_of_size hmem value.toNat
    have hsum : 16 = (16 - size.toNat) + size.toNat := by omega
    split at hbytes
    · cases hbytes
    · next hany =>
      cases hbytes
      have hfits := (front_zero_iff (16 - size.toNat) size.toNat value.toNat
        (by rw [← hsum]; exact value.isLt)).mp (by rw [← hsum]; exact Bool.eq_false_iff.mpr hany)
      rw [hdrop]
      refine ⟨hmem, length_natToBe _ _, ?_⟩
      apply BitVec.eq_of_toNat_eq
      rw [toNat_beToU128 (by rw [length_natToBe]; exact hle), beToNat_natToBe _ hfits]

theorem unsignedToBytes_beToU128 {value : Bytes}
    (hsize : UInt8.ofNat value.length ∈ integerSizes) (hsmall : value.length < 256) :
    unsignedToBytes (beToU128 value) (UInt8.ofNat value.length) = .ok value := by
  have hlength : (UInt8.ofNat value.length).toNat = value.length := by
    rw [UInt8.toNat_ofNat']
    exact Nat.mod_eq_of_lt hsmall
  have hle : value.length ≤ 16 := by
    rw [← hlength]
    rcases mem_integerSizes hsize with heq | heq | heq | heq | heq <;> rw [heq] <;> decide
  rw [unsignedToBytes_eq _ hsize (by rw [toNat_beToU128 hle, hlength]; exact beToNat_lt value),
    toNat_beToU128 hle, hlength, natToBe_beToNat]

/-- A number of the given size in two's complement. -/
def FitsSigned (value : BitVec 128) (size : UInt8) : Prop :=
  2 * value.toNat < 256 ^ size.toNat ∨ 2 ^ 129 ≤ 2 * value.toNat + 256 ^ size.toNat

theorem fitsSigned_iff (value : BitVec 128) {size : UInt8} (hsize : size ∈ integerSizes) :
    FitsSigned value size ↔ ¬ (size.toNat * 8 < 128 ∧
      (value.toInt < -2 ^ (size.toNat * 8 - 1) ∨ value.toInt > 2 ^ (size.toNat * 8 - 1) - 1)) := by
  have hlt := value.isLt
  rw [FitsSigned, BitVec.toInt_eq_toNat_cond]
  rcases mem_integerSizes hsize with rfl | rfl | rfl | rfl | rfl
  all_goals
    simp only [UInt8.reduceToNat]
    split <;> omega

theorem signedToBytes_eq (value : BitVec 128) {size : UInt8} (hsize : size ∈ integerSizes)
    (hfits : FitsSigned value size) :
    signedToBytes value size = .ok (natToBe size.toNat value.toNat) := by
  simp only [signedToBytes, (drop_of_size hsize value.toNat).2]
  rw [if_neg (not_not.mpr hsize), if_neg ((fitsSigned_iff value hsize).mp hfits)]

theorem toNat_beToI128_natToBe {value : BitVec 128} {size : UInt8} (hsize : size ∈ integerSizes)
    (hfits : FitsSigned value size) : beToI128 (natToBe size.toNat value.toNat) = value := by
  have hlt := value.isLt
  have hempty : natToBe size.toNat value.toNat ≠ [] := by
    intro heq
    have hlength := length_natToBe size.toNat value.toNat
    rw [heq] at hlength
    rcases mem_integerSizes hsize with rfl | rfl | rfl | rfl | rfl <;> cases hlength
  apply BitVec.eq_of_toNat_eq
  rw [toNat_beToI128 hempty, length_natToBe, beToNat_natToBe_mod]
  rw [FitsSigned] at hfits
  rcases mem_integerSizes hsize with rfl | rfl | rfl | rfl | rfl
  all_goals
    simp only [UInt8.reduceToNat] at hfits ⊢
    split <;> omega

theorem signedToBytes_eq_ok {value : BitVec 128} {size : UInt8} {bytes : Bytes}
    (hbytes : signedToBytes value size = .ok bytes) :
    size ∈ integerSizes ∧ bytes.length = size.toNat ∧ beToI128 bytes = value := by
  simp only [signedToBytes] at hbytes
  split at hbytes
  · cases hbytes
  · next hsize =>
    have hmem : size ∈ integerSizes := not_not.mp hsize
    split at hbytes
    · cases hbytes
    · next hrange =>
      cases hbytes
      rw [(drop_of_size hmem value.toNat).2]
      exact ⟨hmem, length_natToBe _ _,
        toNat_beToI128_natToBe hmem ((fitsSigned_iff value hmem).mpr hrange)⟩

theorem signedToBytes_beToI128 {value : Bytes}
    (hsize : UInt8.ofNat value.length ∈ integerSizes) (hsmall : value.length < 256) :
    signedToBytes (beToI128 value) (UInt8.ofNat value.length) = .ok value := by
  have hlength : (UInt8.ofNat value.length).toNat = value.length := by
    rw [UInt8.toNat_ofNat']
    exact Nat.mod_eq_of_lt hsmall
  have hsizes : value.length = 1 ∨ value.length = 2 ∨ value.length = 4 ∨ value.length = 8 ∨
      value.length = 16 := by
    rw [← hlength]
    exact (mem_integerSizes hsize).imp (congrArg _) (Or.imp (congrArg _) (Or.imp (congrArg _)
      (Or.imp (congrArg _) (congrArg _))))
  have hempty : value ≠ [] := by
    rintro rfl
    rcases hsizes with heq | heq | heq | heq | heq <;> cases heq
  have hnumber := toNat_beToI128 hempty
  have hlt := beToNat_lt value
  -- the octets are the low end of the extended number, which fits
  have hboth : FitsSigned (beToI128 value) (UInt8.ofNat value.length) ∧
      (beToI128 value).toNat % 256 ^ value.length = beToNat value := by
    rw [FitsSigned, hlength, hnumber]
    rcases hsizes with heq | heq | heq | heq | heq
    all_goals
      rw [heq] at hlt ⊢
      split <;> omega
  rw [signedToBytes_eq _ hsize hboth.1, hlength, ← natToBe_mod, hboth.2, natToBe_beToNat]

end Sdp.DataElement

end Bumble
