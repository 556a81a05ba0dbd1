import Mathlib

/-!
# Bytes and little-endian words

Byte strings are lists of octets.  This module fixes the little-endian
encodings the wire formats are built from, with the round trips every codec
proof ends in.  Nothing here names a protocol: the definitions follow the
documented behaviour of `to_le_bytes` and `from_le_bytes`.
-/

namespace Bumble

abbrev Bytes := List UInt8

/-- The two octets of a 16-bit word, least significant first. -/
def u16ToLe (value : UInt16) : Bytes :=
  [UInt8.ofNat (value.toNat % 256), UInt8.ofNat (value.toNat / 256)]

/-- The 16-bit word with the given low and high octets. -/
def u16FromLe (low high : UInt8) : UInt16 :=
  UInt16.ofNat (low.toNat + 256 * high.toNat)

/-- The four octets of a 32-bit word, least significant first. -/
def u32ToLe (value : UInt32) : Bytes :=
  (List.range 4).map fun index => UInt8.ofNat (value.toNat / 256 ^ index % 256)

/-- The eight octets of a 64-bit word, least significant first. -/
def u64ToLe (value : UInt64) : Bytes :=
  (List.range 8).map fun index => UInt8.ofNat (value.toNat / 256 ^ index % 256)

@[simp] theorem length_u16ToLe (value : UInt16) : (u16ToLe value).length = 2 := rfl

theorem u16FromLe_toLe (value : UInt16) :
    u16FromLe (UInt8.ofNat (value.toNat % 256)) (UInt8.ofNat (value.toNat / 256)) = value := by
  have hvalue : value.toNat < 65536 := value.toNat_lt
  apply UInt16.toNat.inj
  simp only [u16FromLe, UInt16.toNat_ofNat', UInt8.toNat_ofNat']
  omega

theorem u16ToLe_fromLe (low high : UInt8) : u16ToLe (u16FromLe low high) = [low, high] := by
  have hlow : low.toNat < 256 := low.toNat_lt
  have hhigh : high.toNat < 256 := high.toNat_lt
  have hword : (u16FromLe low high).toNat = low.toNat + 256 * high.toNat := by
    simp only [u16FromLe, UInt16.toNat_ofNat']
    omega
  simp only [u16ToLe, hword]
  congr 1
  · apply UInt8.toNat.inj
    simp only [UInt8.toNat_ofNat']
    omega
  · congr 1
    apply UInt8.toNat.inj
    simp only [UInt8.toNat_ofNat']
    omega

theorem forall_octet_lt {P : UInt8 → Prop} {bound : Nat}
    (hall : ∀ value : Fin bound, P (UInt8.ofNat value)) (value : UInt8)
    (hvalue : value.toNat < bound) : P value := by
  have hvalue := hall ⟨value.toNat, hvalue⟩
  rwa [UInt8.ofNat_toNat] at hvalue

/-- `u8::saturating_add(1)`. -/
def saturatingSucc (count : UInt8) : UInt8 := if count = 255 then 255 else count + 1

theorem saturatingSucc_toNat {count : UInt8} (hcount : count.toNat < 255) :
    (saturatingSucc count).toNat = count.toNat + 1 := by
  have hne : count ≠ 255 := by
    rintro rfl
    exact absurd hcount (by decide)
  rw [saturatingSucc, if_neg hne, UInt8.toNat_add]
  exact Nat.mod_eq_of_lt (Nat.succ_lt_succ hcount)

end Bumble
