import Mathlib

/-!
# The first element that matches

Tables without keys: a lookup takes the first element with a property, and an
update or a removal concerns that element and no other.  Removal is `List.eraseP`.
-/

namespace Bumble

variable {α β : Type}

def updateFirst (matching : α → Bool) (change : α → α) : List α → List α
  | [] => []
  | first :: rest =>
    if matching first then change first :: rest else first :: updateFirst matching change rest

variable {matching : α → Bool} {change : α → α} {items : List α}

@[simp] theorem updateFirst_nil : updateFirst matching change [] = [] := rfl

theorem updateFirst_cons_of_pos {first : α} {rest : List α} (hfirst : matching first) :
    updateFirst matching change (first :: rest) = change first :: rest := if_pos hfirst

theorem updateFirst_cons_of_neg {first : α} {rest : List α} (hfirst : ¬ matching first) :
    updateFirst matching change (first :: rest) =
      first :: updateFirst matching change rest := if_neg hfirst

variable (change) in
theorem exists_split_of_find {found : α} (hfind : items.find? matching = some found) :
    ∃ before after, items = before ++ found :: after ∧
      (∀ item ∈ before, ¬ matching item) ∧
      updateFirst matching change items = before ++ change found :: after ∧
      items.eraseP matching = before ++ after := by
  induction items with
  | nil => cases hfind
  | cons first rest ih =>
    by_cases hfirst : matching first
    · rw [List.find?_cons_of_pos hfirst] at hfind
      obtain rfl := Option.some.inj hfind
      refine ⟨[], rest, rfl, List.forall_mem_nil _, ?_, ?_⟩
      · exact updateFirst_cons_of_pos hfirst
      · exact List.eraseP_cons_of_pos hfirst
    · rw [List.find?_cons_of_neg hfirst] at hfind
      obtain ⟨before, after, hsplit, hbefore, hupdate, herase⟩ := ih hfind
      refine ⟨first :: before, after, by rw [hsplit]; rfl, ?_, ?_, ?_⟩
      · intro item hitem
        rcases List.mem_cons.mp hitem with rfl | hitem
        · exact hfirst
        · exact hbefore item hitem
      · rw [updateFirst_cons_of_neg hfirst, hupdate]
        rfl
      · rw [List.eraseP_cons_of_neg hfirst, herase]
        rfl

theorem map_updateFirst {f : α → β} (hchange : ∀ item, f (change item) = f item) :
    (updateFirst matching change items).map f = items.map f := by
  induction items with
  | nil => rfl
  | cons first rest ih =>
    by_cases hfirst : matching first
    · rw [updateFirst_cons_of_pos hfirst, List.map_cons, List.map_cons, hchange]
    · rw [updateFirst_cons_of_neg hfirst, List.map_cons, List.map_cons, ih]

/-- A lookup by a key that the change keeps finds the changed item under its own key and the
same item under any other. -/
theorem find?_updateFirst_key {κ : Type} [DecidableEq κ] {key : α → κ}
    (hchange : ∀ item, key (change item) = key item) (changed wanted : κ) :
    (updateFirst (key · = changed) change items).find? (key · = wanted) =
      if wanted = changed then (items.find? (key · = changed)).map change
      else items.find? (key · = wanted) := by
  induction items with
  | nil => simp
  | cons first rest ih =>
    by_cases hfirst : key first = changed
    · rw [updateFirst_cons_of_pos (by simpa using hfirst)]
      by_cases hwanted : wanted = changed
      · simp [hchange, hfirst, hwanted]
      · have hother : ¬ changed = wanted := fun heq => hwanted heq.symm
        simp [hchange, hfirst, hwanted, hother]
    · rw [updateFirst_cons_of_neg (by simpa using hfirst), List.find?_cons, ih]
      by_cases hwanted : wanted = changed
      · subst hwanted
        simp [hfirst]
      · simp only [if_neg hwanted, List.find?_cons]

end Bumble
