import Mathlib

/-!
# Ordered maps by lookup

A map is what its lookups return.  These lemmas say so for the operations of
`Std.ExtTreeMap` on keys whose comparison decides equality, and for the two
searches through the values that a program makes with an iterator: whether some
value passes a test, and the first key whose value does.
-/

namespace Bumble.OrderedMap

variable {α β : Type} [Ord α] [Std.TransOrd α] (map : Std.ExtTreeMap α β)

theorem contains_iff (key : α) : map.contains key = true ↔ ∃ value, map[key]? = some value := by
  rw [Std.ExtTreeMap.contains_eq_isSome_getElem?, Option.isSome_iff_exists]

section Lookup

variable [Std.LawfulEqOrd α] [DecidableEq α]

theorem getElem?_insert (key other : α) (value : β) :
    (map.insert key value)[other]? = if key = other then some value else map[other]? := by
  rw [Std.ExtTreeMap.getElem?_insert]
  simp only [Std.LawfulEqOrd.compare_eq_iff_eq]

theorem getElem?_erase (key other : α) :
    (map.erase key)[other]? = if key = other then none else map[other]? := by
  rw [Std.ExtTreeMap.getElem?_erase]
  simp only [Std.LawfulEqOrd.compare_eq_iff_eq]

theorem getElem?_modify (key other : α) (f : β → β) :
    (map.modify key f)[other]? = if key = other then map[other]?.map f else map[other]? := by
  rw [Std.ExtTreeMap.getElem?_modify]
  simp only [Std.LawfulEqOrd.compare_eq_iff_eq]
  split
  · next heq => rw [heq]
  · rfl

theorem insert_insert (key : α) (first last : β) :
    (map.insert key first).insert key last = map.insert key last := by
  apply Std.ExtTreeMap.ext_getElem?
  intro other
  simp only [getElem?_insert]
  split <;> rfl

end Lookup

/-- `values().any(test)`. -/
def anyValue (test : β → Bool) : Bool := map.toList.any fun entry => test entry.2

/-- The first key, in order, whose value passes the test. -/
def findKey (test : β → Bool) : Option α :=
  (map.toList.find? fun entry => test entry.2).map (·.1)

section Search

variable [Std.LawfulEqOrd α]

theorem anyValue_iff (test : β → Bool) : anyValue map test = true ↔
    ∃ (key : α) (value : β), map[key]? = some value ∧ test value = true := by
  simp only [anyValue, List.any_eq_true]
  constructor
  · rintro ⟨⟨key, value⟩, hmem, htest⟩
    exact ⟨key, value, Std.ExtTreeMap.mem_toList_iff_getElem?_eq_some.mp hmem, htest⟩
  · rintro ⟨key, value, hget, htest⟩
    exact ⟨(key, value), Std.ExtTreeMap.mem_toList_iff_getElem?_eq_some.mpr hget, htest⟩

theorem findKey_some {test : β → Bool} {key : α} (hfind : findKey map test = some key) :
    ∃ value, map[key]? = some value ∧ test value = true := by
  obtain ⟨⟨found, value⟩, hentry, rfl⟩ := Option.map_eq_some_iff.mp hfind
  exact ⟨value, Std.ExtTreeMap.mem_toList_iff_getElem?_eq_some.mp
    (List.mem_of_find?_eq_some hentry),
    List.find?_some (p := fun entry : α × β => test entry.2) hentry⟩

theorem findKey_none {test : β → Bool} (hfind : findKey map test = none) (key : α) (value : β)
    (hget : map[key]? = some value) : test value = false := by
  have hnone := Option.map_eq_none_iff.mp hfind
  have hentry := List.find?_eq_none.mp hnone (key, value)
    (Std.ExtTreeMap.mem_toList_iff_getElem?_eq_some.mpr hget)
  simpa using hentry

theorem findKey_unique {test : β → Bool} {key : α} {value : β} (hget : map[key]? = some value)
    (htest : test value = true)
    (hunique : ∀ other otherValue, map[other]? = some otherValue → test otherValue = true →
      other = key) : findKey map test = some key := by
  cases hfind : findKey map test with
  | none =>
    have hfalse := findKey_none map hfind key value hget
    rw [htest] at hfalse
    cases hfalse
  | some found =>
    obtain ⟨foundValue, hfound, hpasses⟩ := findKey_some map hfind
    rw [hunique found foundValue hfound hpasses]

end Search

end Bumble.OrderedMap
