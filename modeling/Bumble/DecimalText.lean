import Bumble.ByteOrder

/-!
# Numbers as decimal text

Integers are read the way `str::parse` does it: an optional sign, at least one digit, nothing
else, and a value the type holds.  `parseUnsigned_eq_some_iff` says which texts are read.
-/

namespace Bumble

/-! ## 1. Digits -/

def digitValue (octet : UInt8) : Option Nat :=
  if 0x30 ≤ octet ∧ octet ≤ 0x39 then some (octet.toNat - 0x30) else none

def digitsFrom : Nat → Bytes → Option Nat
  | value, [] => some value
  | value, octet :: octets =>
    match digitValue octet with
    | none => none
    | some digit => digitsFrom (10 * value + digit) octets

def parseDigits (text : Bytes) : Option Nat :=
  if text = [] then none else digitsFrom 0 text

def plusSign : UInt8 := 0x2B

/-- `str::parse` for an unsigned type with values below `bound`. -/
def parseUnsigned (bound : Nat) (text : Bytes) : Option Nat :=
  let digits := if text.head? = some plusSign then text.tail else text
  (parseDigits digits).filter fun value => value < bound

/-! ## 2. What is read -/

theorem digitsFrom_eq_some {text : Bytes} : ∀ {value result : Nat},
    digitsFrom value text = some result → ∀ octet ∈ text, (digitValue octet).isSome := by
  induction text with
  | nil =>
    intro value result _ octet hmem
    cases hmem
  | cons first text ih =>
    intro value result hread octet hmem
    rw [digitsFrom] at hread
    split at hread
    · cases hread
    next digit hdigit =>
      rcases List.mem_cons.mp hmem with rfl | hmem
      · rw [hdigit]
        rfl
      · exact ih hread octet hmem

theorem digitsFrom_isSome {text : Bytes} : ∀ {value : Nat},
    (∀ octet ∈ text, (digitValue octet).isSome) → (digitsFrom value text).isSome := by
  induction text with
  | nil =>
    intro value _
    rfl
  | cons first text ih =>
    intro value hdigits
    obtain ⟨digit, hdigit⟩ := Option.isSome_iff_exists.mp (hdigits first List.mem_cons_self)
    rw [digitsFrom, hdigit]
    exact ih fun octet hmem => hdigits octet (List.mem_cons_of_mem first hmem)

theorem parseDigits_isSome_iff {text : Bytes} :
    (parseDigits text).isSome ↔ text ≠ [] ∧ ∀ octet ∈ text, (digitValue octet).isSome := by
  rw [parseDigits]
  split
  · rename_i hnil
    simp [hnil]
  · rename_i hne
    constructor
    · intro hsome
      obtain ⟨value, hvalue⟩ := Option.isSome_iff_exists.mp hsome
      exact ⟨hne, digitsFrom_eq_some hvalue⟩
    · intro hdigits
      exact digitsFrom_isSome hdigits.2

theorem digitsFrom_lt {text : Bytes} : ∀ {value result : Nat}, digitsFrom value text = some result →
    result < (value + 1) * 10 ^ text.length := by
  induction text with
  | nil =>
    intro value result hread
    obtain rfl := Option.some.inj hread
    simp
  | cons first text ih =>
    intro value result hread
    rw [digitsFrom] at hread
    split at hread
    · cases hread
    next digit hdigit =>
      have hlt := ih hread
      have hten : digit < 10 := by
        unfold digitValue at hdigit
        split at hdigit
        · rename_i hrange
          obtain rfl := Option.some.inj hdigit
          have hhigh := UInt8.le_iff_toNat_le.mp hrange.2
          simp at hhigh
          omega
        · cases hdigit
      have hpow : 0 < 10 ^ text.length := Nat.pow_pos (by decide)
      rw [List.length_cons, Nat.pow_succ]
      nlinarith

/-- **The texts `str::parse` reads.**  An optional plus sign and digits. -/
theorem parseUnsigned_eq_some_iff {bound value : Nat} {text : Bytes} :
    parseUnsigned bound text = some value ↔
      ∃ digits, (text = digits ∨ text = plusSign :: digits) ∧ parseDigits digits = some value ∧
        value < bound := by
  constructor
  · intro hread
    unfold parseUnsigned at hread
    obtain ⟨hdigits, hbound⟩ := Option.filter_eq_some_iff.mp hread
    refine ⟨_, ?_, hdigits, by simpa using hbound⟩
    split
    · rename_i hsign
      cases text with
      | nil => cases hsign
      | cons first text =>
        obtain rfl := Option.some.inj hsign
        exact .inr rfl
    · exact .inl rfl
  · rintro ⟨digits, htext, hdigits, hbound⟩
    unfold parseUnsigned
    refine Option.filter_eq_some_iff.mpr ⟨?_, by simpa using hbound⟩
    rcases htext with rfl | rfl
    · split
      · -- a text of digits does not start with a sign
        rename_i hsign
        have hall := (parseDigits_isSome_iff.mp (Option.isSome_iff_exists.mpr ⟨value, hdigits⟩)).2
        exact absurd (hall plusSign (List.mem_of_head? hsign)) (by decide)
      · exact hdigits
    · simpa using hdigits

end Bumble
