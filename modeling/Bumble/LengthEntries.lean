import Bumble.ExactReader

/-!
# Entries behind their lengths

Data that is a row of entries, each behind an octet with its length, which is not zero.  The
parser decodes an entry as it comes to it; its errors name the offset of the entry.
-/

namespace Bumble

namespace LengthEntries

variable {ε α : Type} (zero truncated : Nat → ε) (decode : Bytes → Except ε α) (size : Nat)

/-- The entries of the octets that are left of `size`. -/
def parse : Bytes → Except ε (List α)
  | [] => .ok []
  | length :: rest =>
    let offset := size - (rest.length + 1)
    if length = 0 then .error (zero offset)
    else if rest.length < length.toNat then .error (truncated offset)
    else do
      let entry ← decode (rest.take length.toNat)
      let entries ← parse (rest.drop length.toNat)
      pure (entry :: entries)
termination_by bytes => bytes.length
decreasing_by
  rw [List.length_drop, List.length_cons]
  omega

def delimited (piece : Bytes) : Bytes := UInt8.ofNat piece.length :: piece

variable {zero truncated decode size}

theorem parse_delimited {piece : Bytes} (hpositive : 0 < piece.length)
    (hlength : piece.length < 256)
    (later : Bytes) :
    parse zero truncated decode size (delimited piece ++ later) = (do
      let entry ← decode piece
      let entries ← parse zero truncated decode size later
      pure (entry :: entries)) := by
  have hcount : (UInt8.ofNat piece.length).toNat = piece.length := UInt8.toNat_ofNat_of_lt' hlength
  have hnonzero : UInt8.ofNat piece.length ≠ 0 := by
    intro heq
    rw [heq] at hcount
    exact absurd hcount (Nat.ne_of_lt hpositive)
  have hfits : ¬ (piece ++ later).length < (UInt8.ofNat piece.length).toNat := by
    rw [hcount, List.length_append]
    omega
  rw [delimited, List.cons_append, parse, if_neg hnonzero, if_neg hfits, hcount,
    List.take_left' rfl, List.drop_left' rfl]

/-- **What is parsed.**  A row of entries is accepted exactly if it consists of pieces that are
    decoded, each behind its length. -/
theorem parse_iff {stands : α → Bytes → Prop}
    (hdecode : ∀ value piece, 0 < piece.length → (decode piece = .ok value ↔ stands value piece))
    {bytes : Bytes} {values : List α} :
    parse zero truncated decode size bytes = .ok values ↔
      ∃ pieces, List.Forall₂ stands values pieces ∧
        (∀ piece ∈ pieces, 0 < piece.length ∧ piece.length < 256) ∧
        bytes = pieces.flatMap delimited := by
  constructor
  · intro hparse
    induction bytes using parse.induct size generalizing values with
    | case1 =>
      rw [parse] at hparse
      cases hparse
      exact ⟨[], .nil, fun piece hmem => absurd hmem List.not_mem_nil, rfl⟩
    | case2 rest =>
      rw [parse, if_pos rfl] at hparse
      cases hparse
    | case3 length rest hnonzero hshort =>
      rw [parse, if_neg hnonzero, if_pos hshort] at hparse
      cases hparse
    | case4 length rest hnonzero hfits ih =>
      rw [parse, if_neg hnonzero, if_neg hfits] at hparse
      obtain ⟨entry, hentry, hparse⟩ := except_bind_eq_ok hparse
      obtain ⟨entries, hentries, hparse⟩ := except_bind_eq_ok hparse
      cases hparse
      obtain ⟨pieces, hpieces, hlengths, hrest⟩ := ih hentries
      have hlength : (rest.take length.toNat).length = length.toNat :=
        List.length_take_of_le (Nat.le_of_not_lt hfits)
      have hpositive : 0 < length.toNat := by
        refine Nat.pos_of_ne_zero ?_
        intro hzero
        exact hnonzero (UInt8.toNat_inj.mp hzero)
      have hpiece : 0 < (rest.take length.toNat).length := by rwa [hlength]
      refine ⟨rest.take length.toNat :: pieces,
        .cons ((hdecode _ _ hpiece).mp hentry) hpieces, ?_, ?_⟩
      · intro piece hmem
        rcases List.mem_cons.mp hmem with rfl | hmem
        · rw [hlength]
          exact ⟨hpositive, length.toNat_lt⟩
        · exact hlengths piece hmem
      · rw [List.flatMap_cons, ← hrest, delimited, hlength, UInt8.ofNat_toNat, List.cons_append,
          List.take_append_drop]
  · rintro ⟨pieces, hpieces, hlengths, rfl⟩
    induction hpieces with
    | nil => rw [List.flatMap_nil, parse]
    | @cons value piece values pieces hfirst _ ih =>
      obtain ⟨hpositive, hlength⟩ := hlengths piece List.mem_cons_self
      rw [List.flatMap_cons, parse_delimited hpositive hlength,
        (hdecode value piece hpositive).mpr hfirst,
        ih fun other hmem => hlengths other (List.mem_cons_of_mem _ hmem)]
      rfl

def Delimited (stands : α → Bytes → Prop) (value : α) (octets : Bytes) : Prop :=
  ∃ piece, stands value piece ∧ (0 < piece.length ∧ piece.length < 256) ∧ octets = delimited piece

theorem forall₂_delimited {stands : α → Bytes → Prop} {values : List α} {bytes : Bytes} :
    (∃ pieces, List.Forall₂ stands values pieces ∧
        (∀ piece ∈ pieces, 0 < piece.length ∧ piece.length < 256) ∧
        bytes = pieces.flatMap delimited) ↔
      ∃ pieces, List.Forall₂ (Delimited stands) values pieces ∧ bytes = pieces.flatten := by
  constructor
  · rintro ⟨pieces, hpieces, hlengths, rfl⟩
    induction hpieces with
    | nil => exact ⟨[], .nil, rfl⟩
    | @cons value piece values pieces hfirst _ ih =>
      obtain ⟨later, hlater, heq⟩ := ih fun other hmem =>
        hlengths other (List.mem_cons_of_mem _ hmem)
      refine ⟨delimited piece :: later,
        .cons ⟨piece, hfirst, hlengths piece List.mem_cons_self, rfl⟩
        hlater, ?_⟩
      rw [List.flatMap_cons, heq, List.flatten_cons]
  · rintro ⟨pieces, hpieces, rfl⟩
    induction hpieces with
    | nil => exact ⟨[], .nil, fun piece hmem => absurd hmem List.not_mem_nil, rfl⟩
    | cons hfirst _ ih =>
      obtain ⟨piece, hstands, hlength, rfl⟩ := hfirst
      obtain ⟨later, hlater, hlengths, heq⟩ := ih
      refine ⟨piece :: later, .cons hstands hlater, ?_, ?_⟩
      · intro other hmem
        rcases List.mem_cons.mp hmem with rfl | hmem
        · exact hlength
        · exact hlengths other hmem
      · rw [List.flatten_cons, heq, List.flatMap_cons]

/-- **Encoders.**  The octets that are parsed as entries are those the entries are written as, one
    behind the other. -/
theorem parse_iff_mapM {ε' : Type} {stands : α → Bytes → Prop} {encode : α → Except ε' Bytes}
    (hdecode : ∀ value piece, 0 < piece.length → (decode piece = .ok value ↔ stands value piece))
    (hencode : ∀ value octets, encode value = .ok octets ↔ Delimited stands value octets)
    {bytes : Bytes} {values : List α} :
    parse zero truncated decode size bytes = .ok values ↔
      ∃ pieces, values.mapM encode = .ok pieces ∧ bytes = pieces.flatten := by
  have hpieces : Delimited stands = fun value octets => encode value = .ok octets := by
    funext value octets
    exact propext (hencode value octets).symm
  rw [parse_iff hdecode, forall₂_delimited, hpieces]
  simp only [OctetReader.forall₂_iff_mapM]

end LengthEntries

end Bumble
