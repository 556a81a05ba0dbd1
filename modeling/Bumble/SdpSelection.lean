import Bumble.SdpServer

/-!
# Which attributes a request selects

The selectors are looked at one after the other, so an attribute that two of them cover is
selected twice; the sort then orders what was selected by id.
-/

namespace Bumble.Sdp.SdpServer

def covers (selector : DataElement) (id : UInt16) : Bool :=
  match selectorRange selector with
  | some (first, last) => first ≤ id ∧ id ≤ last
  | none => false

theorem selectedBy_eq (service : List ServiceAttribute) (selector : DataElement) :
    selectedBy service selector = service.filter fun attr => covers selector attr.id := by
  unfold selectedBy covers
  cases selectorRange selector with
  | none =>
    symm
    apply List.filter_eq_nil_iff.mpr
    intro attr hattr
    exact Bool.false_ne_true
  | some range => rfl

theorem count_id {service : List ServiceAttribute} {attr : ServiceAttribute}
    (hdistinct : (service.map ServiceAttribute.id).Nodup) (hattr : attr ∈ service) :
    service.countP (fun other => other.id = attr.id) = 1 := by
  have hcount := List.count_eq_one_of_mem hdistinct (List.mem_map_of_mem hattr)
  rw [List.count, List.countP_map] at hcount
  rw [← hcount]
  apply List.countP_congr
  intro other hother
  simp

theorem count_selectedBy {service : List ServiceAttribute} {attr : ServiceAttribute}
    (hdistinct : (service.map ServiceAttribute.id).Nodup) (hattr : attr ∈ service)
    (selector : DataElement) :
    (selectedBy service selector).countP (fun other => other.id = attr.id) =
      if covers selector attr.id then 1 else 0 := by
  rw [selectedBy_eq, List.countP_filter]
  cases hcovers : covers selector attr.id with
  | true =>
    rw [if_pos rfl, ← count_id hdistinct hattr]
    apply List.countP_congr
    intro other hother
    by_cases hid : other.id = attr.id <;> simp [hid, hcovers]
  | false =>
    rw [if_neg Bool.false_ne_true, List.countP_eq_zero]
    intro other hother
    by_cases hid : other.id = attr.id <;> simp [hid, hcovers]

theorem count_selectedAttributes {service : List ServiceAttribute} {attr : ServiceAttribute}
    (hdistinct : (service.map ServiceAttribute.id).Nodup) (hattr : attr ∈ service)
    (ids : List DataElement) :
    (selectedAttributes service ids).countP (fun other => other.id = attr.id) =
      ids.countP fun selector => covers selector attr.id := by
  rw [selectedAttributes, (List.perm_insertionSort _ _).countP_eq]
  induction ids with
  | nil => rfl
  | cons selector ids ih =>
    rw [List.flatMap_cons, List.countP_append, ih, count_selectedBy hdistinct hattr,
      List.countP_cons, Nat.add_comm]

theorem selected_mem {service : List ServiceAttribute} {ids : List DataElement}
    {attr : ServiceAttribute} (hselected : attr ∈ selectedAttributes service ids) :
    attr ∈ service := by
  obtain ⟨selector, -, hattr⟩ :=
    List.mem_flatMap.mp ((List.perm_insertionSort _ _).mem_iff.mp hselected)
  rw [selectedBy_eq] at hattr
  exact List.mem_of_mem_filter hattr

instance : Std.Total fun attr other : ServiceAttribute => attr.id ≤ other.id :=
  ⟨fun attr other => UInt16.le_total attr.id other.id⟩

instance : IsTrans ServiceAttribute fun attr other => attr.id ≤ other.id :=
  ⟨fun _ _ _ hfirst hsecond => UInt16.le_trans hfirst hsecond⟩

theorem selected_sorted (service : List ServiceAttribute) (ids : List DataElement) :
    (selectedAttributes service ids).Pairwise fun attr other => attr.id ≤ other.id :=
  List.pairwise_insertionSort _ _

theorem strict_iff {selected : List ServiceAttribute}
    (hsorted : selected.Pairwise fun attr other => attr.id ≤ other.id) :
    (selected.Pairwise fun attr other => attr.id < other.id) ↔
      ∀ id, selected.countP (fun other => other.id = id) ≤ 1 := by
  have hstrict : (selected.Pairwise fun attr other => attr.id < other.id) ↔
      (selected.map ServiceAttribute.id).Nodup := by
    rw [List.Nodup, List.pairwise_map]
    constructor
    · exact List.Pairwise.imp fun hlt => UInt16.ne_of_lt hlt
    · intro hne
      refine (hsorted.and hne).imp ?_
      rintro attr other ⟨hle, hne⟩
      exact UInt16.lt_of_le_of_ne hle hne
  rw [hstrict, List.nodup_iff_count_le_one]
  have hcount : ∀ id, (selected.map ServiceAttribute.id).count id =
      selected.countP fun other => other.id = id := by
    intro id
    rw [List.count, List.countP_map]
    rfl
  exact forall_congr' fun id => by rw [hcount]

/-- **What is selected** of a record with distinct ids: its attributes, in ascending order of
    id, each with its own value and as often as selectors cover it; hence each once and in
    strictly ascending order if and only if no two selectors cover the same attribute. -/
theorem attributes_selected (service : List ServiceAttribute) (ids : List DataElement)
    (hdistinct : (service.map ServiceAttribute.id).Nodup) :
    ∃ selected : List ServiceAttribute,
      getServiceAttributes service ids = .sequence (attributeElements selected) ∧
      (selected.Pairwise fun attr other => attr.id ≤ other.id) ∧
      (∀ attr ∈ selected, attr ∈ service) ∧
      (∀ attr ∈ service, selected.countP (fun other => other.id = attr.id) =
        ids.countP fun selector => covers selector attr.id) ∧
      ((selected.Pairwise fun attr other => attr.id < other.id) ↔
        ∀ attr ∈ service, ids.countP (fun selector => covers selector attr.id) ≤ 1) := by
  have hcount := fun attr hattr => @count_selectedAttributes service attr hdistinct hattr ids
  refine ⟨selectedAttributes service ids, rfl, selected_sorted service ids,
    fun attr hattr => selected_mem hattr, hcount, ?_⟩
  rw [strict_iff (selected_sorted service ids)]
  constructor
  · intro hall attr hattr
    rw [← hcount attr hattr]
    exact hall attr.id
  · intro hall id
    by_cases hid : ∃ attr ∈ service, attr.id = id
    · obtain ⟨attr, hattr, rfl⟩ := hid
      rw [hcount attr hattr]
      exact hall attr hattr
    · have hnone : (selectedAttributes service ids).countP (fun other => other.id = id) = 0 := by
        rw [List.countP_eq_zero]
        intro other hother hsame
        exact hid ⟨other, selected_mem hother, of_decide_eq_true hsame⟩
      rw [hnone]
      exact Nat.zero_le _

/-- Two attributes of three, the later one asked for first. -/
theorem two_selected : ∃ selected : List ServiceAttribute,
    getServiceAttributes [⟨4, .boolean true⟩, ⟨1, .nil⟩, ⟨9, .nil⟩]
        [.unsignedInteger16 4, .unsignedInteger32 2] = .sequence (attributeElements selected) ∧
      selected.Pairwise fun attr other => attr.id < other.id := by
  obtain ⟨selected, hselected, -, -, -, hstrict⟩ := attributes_selected
    [⟨4, .boolean true⟩, ⟨1, .nil⟩, ⟨9, .nil⟩] [.unsignedInteger16 4, .unsignedInteger32 2]
    (by decide)
  refine ⟨selected, hselected, hstrict.mpr ?_⟩
  simp only [List.forall_mem_cons]
  decide

theorem unsignedInteger16_inj {id other : UInt16}
    (hsame : DataElement.unsignedInteger16 id = .unsignedInteger16 other) : id = other := by
  have hvalue := congrArg BitVec.toNat (DataElement.unsignedInteger.inj hsame).1
  have hid := id.toNat_lt
  have hother := other.toNat_lt
  rw [BitVec.toNat_ofNat, BitVec.toNat_ofNat] at hvalue
  apply UInt16.toNat_inj.mp
  omega

/-- An attribute that an id and a range cover is there twice. -/
theorem overlap_selected_twice : ¬ ∀ (service : List ServiceAttribute) (ids : List DataElement),
    (service.map ServiceAttribute.id).Nodup →
    ∃ selected : List ServiceAttribute,
      getServiceAttributes service ids = .sequence (attributeElements selected) ∧
      selected.Pairwise fun attr other => attr.id < other.id := by
  intro hall
  obtain ⟨selected, hselected, hstrict⟩ := hall [⟨1, .nil⟩]
    [.unsignedInteger16 1, .unsignedInteger32 0x0000FFFF] (by decide)
  have hpair : attributeElements selected = attributeElements [⟨1, .nil⟩, ⟨1, .nil⟩] :=
    (DataElement.sequence.inj hselected).symm
  match selected, hstrict, hpair with
  | [attr], hstrict, hpair =>
    exact absurd (congrArg List.length hpair) (show ¬ 2 = 4 by decide)
  | attr :: other :: later, hstrict, hpair =>
    obtain ⟨hfirst, hpair⟩ := List.cons.inj hpair
    obtain ⟨-, hpair⟩ := List.cons.inj hpair
    obtain ⟨hsecond, -⟩ := List.cons.inj hpair
    have hlt : attr.id < other.id := (List.pairwise_cons.mp hstrict).1 other List.mem_cons_self
    rw [unsignedInteger16_inj hfirst, unsignedInteger16_inj hsecond] at hlt
    exact absurd hlt (by decide)

end Bumble.Sdp.SdpServer
