import Bumble.OctetReader
import Bumble.Outcome

/-!
# What a reader has taken

`OctetReader.Reads` says that a reader undoes an encoder.  The other direction is here:
a reader that has succeeded has taken the octets that the encoder writes for its value.
An encoder may fail, so it is a relation between a value and its octets.
-/

namespace Bumble.OctetReader

variable {ε ε' α β : Type} {short : ε} {bytes later : Bytes}

/-! ## 1. Sequences -/

theorem bind_apply (first : OctetReader ε α) (next : α → OctetReader ε β) (bytes : Bytes) :
    (first >>= next) bytes =
      match first bytes with
      | .ok (value, rest) => next value rest
      | .error error => .error error := rfl

theorem bind_eq_ok {first : OctetReader ε α} {next : α → OctetReader ε β} {result : β}
    (hread : (first >>= next) bytes = .ok (result, later)) :
    ∃ value middle, first bytes = .ok (value, middle) ∧
      next value middle = .ok (result, later) := by
  rw [bind_apply] at hread
  split at hread
  · next value middle hfirst => exact ⟨value, middle, hfirst, hread⟩
  · cases hread

theorem run_eq_ok {reader : OctetReader ε α} {trailing : Nat → ε} {value : α}
    (hrun : reader.run trailing bytes = .ok value) : reader bytes = .ok (value, []) := by
  rw [OctetReader.run] at hrun
  split at hrun
  · next value' hread =>
    cases hrun
    exact hread
  · cases hrun
  · cases hrun

theorem lift_eq_ok {result : Except ε α} {value : α}
    (hread : lift result bytes = .ok (value, later)) : result = .ok value ∧ later = bytes := by
  cases result with
  | error error => cases hread
  | ok value' =>
    cases hread
    exact ⟨rfl, rfl⟩

/-! ## 2. Fields -/

theorem take_eq_ok {count : Nat} {octets : Bytes}
    (hread : take short count bytes = .ok (octets, later)) :
    bytes = octets ++ later ∧ octets.length = count := by
  rw [take] at hread
  split at hread
  · next hcount =>
    cases hread
    exact ⟨(List.take_append_drop count bytes).symm, List.length_take_of_le hcount⟩
  · cases hread

theorem decoded_eq_ok {count : Nat} {decode : Bytes → α} {encode : α → Bytes} {value : α}
    (hencode : ∀ octets : Bytes, octets.length = count → encode (decode octets) = octets)
    (hread : (do
      let octets ← take short count
      pure (decode octets) : OctetReader ε α) bytes = .ok (value, later)) :
    bytes = encode value ++ later := by
  obtain ⟨octets, middle, htake, hread⟩ := bind_eq_ok hread
  cases hread
  obtain ⟨hbytes, hlength⟩ := take_eq_ok htake
  rw [hencode octets hlength]
  exact hbytes

theorem u8_eq_ok {octet : UInt8} (hread : u8 short bytes = .ok (octet, later)) :
    bytes = octet :: later := by
  refine @decoded_eq_ok _ _ short bytes later 1 (·.headD 0) (fun octet => [octet]) octet ?_ hread
  intro octets hlength
  obtain ⟨octet, rfl⟩ := List.length_eq_one_iff.mp hlength
  rfl

theorem natToBe_of_length {octets : Bytes} {count value : Nat} (hlength : octets.length = count)
    (hvalue : value = beToNat octets) : natToBe count value = octets := by
  rw [hvalue, ← hlength, natToBe_beToNat]

theorem beToNat_lt_of_length {octets : Bytes} {count : Nat} (hlength : octets.length = count) :
    beToNat octets < 256 ^ count := by
  rw [← hlength]
  exact beToNat_lt octets

theorem u16Be_eq_ok {value : UInt16} (hread : u16Be short bytes = .ok (value, later)) :
    bytes = u16ToBe value ++ later := by
  refine decoded_eq_ok ?_ hread
  intro octets hlength
  exact natToBe_of_length hlength
    (UInt16.toNat_ofNat_of_lt' (by simpa using beToNat_lt_of_length hlength))

theorem u32Be_eq_ok {value : UInt32} (hread : u32Be short bytes = .ok (value, later)) :
    bytes = u32ToBe value ++ later := by
  refine decoded_eq_ok ?_ hread
  intro octets hlength
  exact natToBe_of_length hlength
    (UInt32.toNat_ofNat_of_lt' (by simpa using beToNat_lt_of_length hlength))

theorem u64Be_eq_ok {value : UInt64} (hread : u64Be short bytes = .ok (value, later)) :
    bytes = u64ToBe value ++ later := by
  refine decoded_eq_ok ?_ hread
  intro octets hlength
  exact natToBe_of_length hlength
    (UInt64.toNat_ofNat_of_lt' (by simpa using beToNat_lt_of_length hlength))

theorem u32Le_eq_ok {value : UInt32} (hread : u32Le short bytes = .ok (value, later)) :
    bytes = u32ToLe value ++ later := by
  refine decoded_eq_ok ?_ hread
  intro octets hlength
  exact u32ToLe_beToNat hlength

theorem u128Le_eq_ok {value : BitVec 128} (hread : u128Le short bytes = .ok (value, later)) :
    bytes = u128ToLe value ++ later := by
  refine decoded_eq_ok ?_ hread
  intro octets hlength
  have hreverse : octets.reverse.length = 16 := List.length_reverse.trans hlength
  have hnumber : (BitVec.ofNat 128 (beToNat octets.reverse)).toNat = beToNat octets.reverse := by
    rw [BitVec.toNat_ofNat]
    exact Nat.mod_eq_of_lt (by simpa using beToNat_lt_of_length hreverse)
  rw [u128ToLe, natToBe_of_length hreverse hnumber, List.reverse_reverse]

theorem rest_eq_ok {octets : Bytes}
    (hread : (rest : OctetReader ε Bytes) bytes = .ok (octets, later)) :
    octets = bytes ∧ later = [] := by
  cases hread
  exact ⟨rfl, rfl⟩

theorem string_eq_ok {invalid : ε} {count : Nat} {text : String}
    (hread : string short invalid count bytes = .ok (text, later)) :
    bytes = stringBytes text ++ later ∧ (stringBytes text).length = count := by
  obtain ⟨octets, middle, htake, hread⟩ := bind_eq_ok hread
  obtain ⟨hbytes, hlength⟩ := take_eq_ok htake
  cases htext : stringFromUtf8 octets with
  | none =>
    rw [htext] at hread
    cases hread
  | some text' =>
    rw [htext] at hread
    cases hread
    rw [stringBytes_of_fromUtf8 htext]
    exact ⟨hbytes, hlength⟩

/-! ## 3. Lists -/

/-- A reader that succeeds has taken octets that stand for its value. -/
def Takes (reader : OctetReader ε α) (stands : α → Bytes → Prop) : Prop :=
  ∀ {bytes value later}, reader bytes = .ok (value, later) →
    ∃ front, stands value front ∧ bytes = front ++ later

theorem replicate_eq_ok {reader : OctetReader ε α} {stands : α → Bytes → Prop}
    (htakes : Takes reader stands) (count : Nat) : ∀ {bytes : Bytes} {values : List α},
      replicate reader count bytes = .ok (values, later) →
      values.length = count ∧ ∃ pieces : List Bytes, List.Forall₂ stands values pieces ∧
        bytes = pieces.flatten ++ later := by
  induction count with
  | zero =>
    intro bytes values hread
    cases hread
    exact ⟨rfl, [], .nil, rfl⟩
  | succ count ih =>
    intro bytes values hread
    obtain ⟨value, middle, hvalue, hread⟩ := bind_eq_ok hread
    obtain ⟨others, last, hothers, hread⟩ := bind_eq_ok hread
    cases hread
    obtain ⟨front, hstands, rfl⟩ := htakes hvalue
    obtain ⟨hlength, pieces, hpieces, rfl⟩ := ih hothers
    refine ⟨congrArg Nat.succ hlength, front :: pieces, .cons hstands hpieces, ?_⟩
    rw [List.flatten_cons, List.append_assoc]

theorem flatten_of_forall₂ {encode : α → Bytes} {values : List α} {pieces : List Bytes}
    (hall : List.Forall₂ (fun value piece => piece = encode value) values pieces) :
    pieces.flatten = values.flatMap encode := by
  induction hall with
  | nil => rfl
  | cons hfirst _ ih => rw [List.flatten_cons, List.flatMap_cons, ih, hfirst]

theorem mapM_of_forall₂ {encode : α → Except ε' Bytes} {values : List α} {pieces : List Bytes}
    (hall : List.Forall₂ (fun value piece => encode value = .ok piece) values pieces) :
    values.mapM encode = .ok pieces := by
  induction hall with
  | nil => rfl
  | cons hfirst _ ih =>
    rw [List.mapM_cons, hfirst, ih]
    rfl

end Bumble.OctetReader
