import Mathlib

/-!
# Cutting a list into pieces of one size

`chunks size values` is the iterator of the same name: consecutive pieces of
`size` elements, the last one possibly shorter.
-/

namespace Bumble

variable {α : Type}

/-- At most `fuel` pieces of `size` elements. -/
def chunksLoop (size : Nat) : Nat → List α → List (List α)
  | 0, _ => []
  | _ + 1, [] => []
  | fuel + 1, value :: values =>
    (value :: values).take size :: chunksLoop size fuel ((value :: values).drop size)

/-- Consecutive pieces of `size` elements. -/
def chunks (size : Nat) (values : List α) : List (List α) :=
  chunksLoop size values.length values

/-! ## The pieces -/

theorem chunksLoop_length (size : Nat) (fuel : Nat) : ∀ {values : List α},
    ∀ chunk ∈ chunksLoop size fuel values, chunk.length ≤ size := by
  induction fuel with
  | zero =>
    intro values chunk hchunk
    cases hchunk
  | succ fuel ih =>
    intro values chunk hchunk
    cases values with
    | nil => cases hchunk
    | cons value values =>
      rw [chunksLoop] at hchunk
      rcases List.mem_cons.mp hchunk with rfl | hchunk
      · exact List.length_take_le _ _
      · exact ih chunk hchunk

theorem chunksLoop_ne_nil {size : Nat} (hsize : 0 < size) (fuel : Nat) : ∀ {values : List α},
    ∀ chunk ∈ chunksLoop size fuel values, chunk ≠ [] := by
  induction fuel with
  | zero =>
    intro values chunk hchunk
    cases hchunk
  | succ fuel ih =>
    intro values chunk hchunk
    cases values with
    | nil => cases hchunk
    | cons value values =>
      rw [chunksLoop] at hchunk
      rcases List.mem_cons.mp hchunk with rfl | hchunk
      · apply List.ne_nil_of_length_pos
        rw [List.length_take, List.length_cons]
        omega
      · exact ih chunk hchunk

theorem chunksLoop_flatten {size : Nat} (hsize : 0 < size) (fuel : Nat) : ∀ {values : List α},
    values.length ≤ fuel → (chunksLoop size fuel values).flatten = values := by
  induction fuel with
  | zero =>
    intro values hfuel
    rw [List.eq_nil_of_length_eq_zero (Nat.le_zero.mp hfuel)]
    rfl
  | succ fuel ih =>
    intro values hfuel
    cases values with
    | nil => rfl
    | cons value values =>
      have hrest : ((value :: values).drop size).length ≤ fuel := by
        rw [List.length_drop, List.length_cons]
        rw [List.length_cons] at hfuel
        omega
      rw [chunksLoop, List.flatten_cons, ih hrest, List.take_append_drop]

theorem flatten_chunks {size : Nat} (hsize : 0 < size) (values : List α) :
    (chunks size values).flatten = values :=
  chunksLoop_flatten hsize values.length (Nat.le_refl _)

theorem chunksLoop_of_flatten {size : Nat} (hsize : 0 < size) (pieces : List (List α)) :
    ∀ {fuel : Nat}, (∀ piece ∈ pieces, piece.length = size) → pieces.flatten.length ≤ fuel →
    chunksLoop size fuel pieces.flatten = pieces := by
  induction pieces with
  | nil =>
    intro fuel _ _
    cases fuel <;> rfl
  | cons piece pieces ih =>
    intro fuel hpieces hfuel
    have hpiece := hpieces piece List.mem_cons_self
    rw [List.flatten_cons] at hfuel ⊢
    rw [List.length_append] at hfuel
    cases piece with
    | nil => exact absurd hpiece (by simp only [List.length_nil]; omega)
    | cons value values =>
      cases fuel with
      | zero =>
        rw [List.length_cons] at hfuel
        omega
      | succ fuel =>
        have htake : (value :: values ++ pieces.flatten).take size = value :: values :=
          List.take_left' hpiece
        have hdrop : (value :: values ++ pieces.flatten).drop size = pieces.flatten :=
          List.drop_left' hpiece
        rw [List.cons_append] at htake hdrop ⊢
        rw [chunksLoop, htake, hdrop, ih (fun other hother => hpieces other
          (List.mem_cons_of_mem _ hother)) (by omega)]

theorem chunks_of_flatten {size : Nat} (hsize : 0 < size) {pieces : List (List α)}
    (hpieces : ∀ piece ∈ pieces, piece.length = size) : chunks size pieces.flatten = pieces :=
  chunksLoop_of_flatten hsize pieces hpieces (Nat.le_refl _)

theorem chunksLoop_count {size : Nat} (hsize : 0 < size) (fuel : Nat) : ∀ {values : List α},
    values.length ≤ fuel →
    (chunksLoop size fuel values).length = (values.length + size - 1) / size := by
  induction fuel with
  | zero =>
    intro values hfuel
    rw [List.eq_nil_of_length_eq_zero (Nat.le_zero.mp hfuel)]
    exact (Nat.div_eq_of_lt (by simp only [List.length_nil]; omega)).symm
  | succ fuel ih =>
    intro values hfuel
    cases values with
    | nil => exact (Nat.div_eq_of_lt (by simp only [List.length_nil]; omega)).symm
    | cons value values =>
      rw [List.length_cons] at hfuel
      rw [chunksLoop, List.length_cons, ih (by rw [List.length_drop, List.length_cons]; omega),
        List.length_drop, List.length_cons]
      by_cases hshort : values.length + 1 ≤ size
      · rw [Nat.sub_eq_zero_of_le hshort, Nat.div_eq_of_lt (by omega)]
        refine (Nat.div_eq_of_lt_le ?_ ?_).symm <;> omega
      · rw [show values.length + 1 + size - 1 = values.length + 1 - size + size - 1 + size by omega,
          Nat.add_div_right _ hsize]

theorem length_chunks {size : Nat} (hsize : 0 < size) (values : List α) :
    (chunks size values).length = (values.length + size - 1) / size :=
  chunksLoop_count hsize values.length (Nat.le_refl _)

theorem exists_pieces (size : Nat) (count : Nat) : ∀ {values : List α},
    values.length = count * size →
    ∃ pieces : List (List α), pieces.length = count ∧ (∀ piece ∈ pieces, piece.length = size) ∧
      pieces.flatten = values := by
  induction count with
  | zero =>
    intro values hlength
    rw [Nat.zero_mul] at hlength
    refine ⟨[], rfl, ?_, (List.eq_nil_of_length_eq_zero hlength).symm⟩
    intro piece hpiece
    cases hpiece
  | succ count ih =>
    intro values hlength
    rw [Nat.succ_mul] at hlength
    obtain ⟨pieces, hcount, hpieces, hflatten⟩ :=
      @ih (values.drop size) (by rw [List.length_drop]; omega)
    refine ⟨values.take size :: pieces, congrArg Nat.succ hcount, ?_, ?_⟩
    · intro piece hpiece
      rcases List.mem_cons.mp hpiece with rfl | hpiece
      · exact List.length_take_of_le (by omega)
      · exact hpieces piece hpiece
    · rw [List.flatten_cons, hflatten, List.take_append_drop]

theorem chunks_first (size : Nat) {values : List α} (hvalues : values ≠ []) :
    ∃ rest, chunks size values = values.take size :: rest := by
  cases values with
  | nil => exact absurd rfl hvalues
  | cons value values => exact ⟨_, rfl⟩

end Bumble
