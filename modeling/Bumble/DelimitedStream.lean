import Bumble.Outcome

/-!
# Streams of delimited items

Octets come in chunks and are collected in a buffer.  A push takes complete items from the front
of the buffer and parses each; at the first one that does not parse it returns the error, and
what it has parsed is dropped, while the items behind stay in the buffer.  Nothing in this file
depends on what the items are.
-/

namespace Bumble

/-- How the first complete item is told, which does not depend on what comes behind it. -/
structure Delimiting (β : Type) where
  next : List β → Option (List β × List β)
  shorter : ∀ {buffer item rest : List β}, next buffer = some (item, rest) →
    rest.length < buffer.length
  stable : ∀ {buffer item rest : List β}, next buffer = some (item, rest) → ∀ more : List β,
    next (buffer ++ more) = some (item, rest ++ more)

namespace Delimiting

variable {β α ε : Type} (delimiting : Delimiting β)

/-! ## 1. Items -/

def items (buffer : List β) : List (List β) :=
  match _ : delimiting.next buffer with
  | none => []
  | some (item, rest) => item :: items rest
termination_by buffer.length
decreasing_by exact delimiting.shorter ‹_›

def leftover (buffer : List β) : List β :=
  match _ : delimiting.next buffer with
  | none => buffer
  | some (_, rest) => leftover rest
termination_by buffer.length
decreasing_by exact delimiting.shorter ‹_›

variable {delimiting}

theorem items_of_none {buffer : List β} (hnext : delimiting.next buffer = none) :
    delimiting.items buffer = [] := by
  rw [items]
  split
  · rfl
  · next hsome =>
    rw [hnext] at hsome
    cases hsome

theorem items_of_some {buffer item rest : List β}
    (hnext : delimiting.next buffer = some (item, rest)) :
    delimiting.items buffer = item :: delimiting.items rest := by
  rw [items]
  split
  · next hnone =>
    rw [hnext] at hnone
    cases hnone
  · next hsome =>
    rw [hnext] at hsome
    cases hsome
    rfl

theorem leftover_of_none {buffer : List β} (hnext : delimiting.next buffer = none) :
    delimiting.leftover buffer = buffer := by
  rw [leftover]
  split
  · rfl
  · next hsome =>
    rw [hnext] at hsome
    cases hsome

theorem leftover_of_some {buffer item rest : List β}
    (hnext : delimiting.next buffer = some (item, rest)) :
    delimiting.leftover buffer = delimiting.leftover rest := by
  rw [leftover]
  split
  · next hnone =>
    rw [hnext] at hnone
    cases hnone
  · next hsome =>
    rw [hnext] at hsome
    cases hsome
    rfl

theorem items_append (buffer more : List β) :
    delimiting.items (buffer ++ more) =
      delimiting.items buffer ++ delimiting.items (delimiting.leftover buffer ++ more) := by
  induction buffer using items.induct delimiting with
  | case1 buffer hnext =>
    rw [items_of_none hnext, leftover_of_none hnext]
    rfl
  | case2 buffer item rest hnext ih =>
    rw [items_of_some (delimiting.stable hnext more), items_of_some hnext, leftover_of_some hnext,
      ih]
    rfl

/-! ## 2. The loop of a push -/

variable (delimiting) (parse : List β → Except ε α)

/-- Parse the complete items, up to the first error. -/
def drain (buffer : List β) (parsed : List α) : Outcome (List β) ε (List α) :=
  match _ : delimiting.next buffer with
  | none => .ok buffer parsed
  | some (item, rest) =>
    match parse item with
    | .ok value => drain rest (parsed ++ [value])
    | .error error => .fail rest error
termination_by buffer.length
decreasing_by exact delimiting.shorter ‹_›

def push (buffer chunk : List β) : Outcome (List β) ε (List α) :=
  delimiting.drain parse (buffer ++ chunk) []

def received (buffer : List β) : List (List β) → List α
  | [] => []
  | chunk :: chunks =>
    let pushed := delimiting.push parse buffer chunk
    (match pushed.result with
      | .ok values => values
      | .error _ => []) ++ received pushed.state chunks

/-- What the items are parsed to, each on its own, without those that are not valid. -/
def parsedItems (items : List (List β)) : List α :=
  items.filterMap fun item => (parse item).toOption

def Valid (item : List β) : Prop := ∃ value, parse item = .ok value

variable {delimiting} {parse}

theorem drain_of_none {buffer : List β} (hnext : delimiting.next buffer = none) (parsed : List α) :
    delimiting.drain parse buffer parsed = .ok buffer parsed := by
  rw [drain]
  split
  · rfl
  · next hsome =>
    rw [hnext] at hsome
    cases hsome

theorem drain_of_some {buffer item rest : List β}
    (hnext : delimiting.next buffer = some (item, rest)) (parsed : List α) :
    delimiting.drain parse buffer parsed =
      match parse item with
      | .ok value => delimiting.drain parse rest (parsed ++ [value])
      | .error error => .fail rest error := by
  rw [drain]
  split
  · next hnone =>
    rw [hnext] at hnone
    cases hnone
  · next hsome =>
    rw [hnext] at hsome
    cases hsome
    rfl

theorem parsedItems_cons_of_ok {item : List β} {value : α} (hparse : parse item = .ok value)
    (items : List (List β)) :
    parsedItems parse (item :: items) = value :: parsedItems parse items :=
  List.filterMap_cons_some (by rw [hparse]; rfl)

theorem parsedItems_append (front items : List (List β)) :
    parsedItems parse (front ++ items) = parsedItems parse front ++ parsedItems parse items :=
  List.filterMap_append

theorem drain_of_valid (buffer : List β) (parsed : List α)
    (hvalid : ∀ item ∈ delimiting.items buffer, Valid parse item) :
    delimiting.drain parse buffer parsed =
      .ok (delimiting.leftover buffer) (parsed ++ parsedItems parse (delimiting.items buffer)) := by
  induction buffer using items.induct delimiting generalizing parsed with
  | case1 buffer hnext =>
    rw [drain_of_none hnext, items_of_none hnext, leftover_of_none hnext]
    exact congrArg (Outcome.ok buffer) (List.append_nil parsed).symm
  | case2 buffer item rest hnext ih =>
    rw [items_of_some hnext] at hvalid ⊢
    obtain ⟨value, hvalue⟩ := hvalid item List.mem_cons_self
    rw [drain_of_some hnext, hvalue, leftover_of_some hnext, parsedItems_cons_of_ok hvalue]
    refine (ih (parsed ++ [value]) fun later hmem =>
      hvalid later (List.mem_cons_of_mem _ hmem)).trans ?_
    rw [List.append_assoc]
    rfl

theorem drain_of_invalid (front : List (List β)) {buffer item : List β} {later : List (List β)}
    (hitems : delimiting.items buffer = front ++ item :: later)
    (hfront : ∀ item ∈ front, Valid parse item) (hitem : ¬ Valid parse item) (parsed : List α) :
    ∃ rest error, delimiting.drain parse buffer parsed = .fail rest error ∧
      delimiting.items rest = later ∧ delimiting.leftover rest = delimiting.leftover buffer := by
  induction front generalizing buffer parsed with
  | nil =>
    cases hnext : delimiting.next buffer with
    | none =>
      rw [items_of_none hnext] at hitems
      cases hitems
    | some found =>
      obtain ⟨first, rest⟩ := found
      rw [items_of_some hnext] at hitems
      obtain ⟨rfl, hlater⟩ := List.cons.inj hitems
      cases hparse : parse first with
      | ok value => exact absurd ⟨value, hparse⟩ hitem
      | error error =>
        refine ⟨rest, error, ?_, hlater, (leftover_of_some hnext).symm⟩
        rw [drain_of_some hnext, hparse]
  | cons valid front ih =>
    cases hnext : delimiting.next buffer with
    | none =>
      rw [items_of_none hnext] at hitems
      cases hitems
    | some found =>
      obtain ⟨first, rest⟩ := found
      rw [items_of_some hnext] at hitems
      obtain ⟨rfl, hlater⟩ := List.cons.inj hitems
      obtain ⟨value, hvalue⟩ := hfront first List.mem_cons_self
      obtain ⟨rest', error, hdrain, hrest, hleftover⟩ := ih hlater
        (fun item hmem => hfront item (List.mem_cons_of_mem _ hmem)) (parsed ++ [value])
      refine ⟨rest', error, ?_, hrest, hleftover.trans (leftover_of_some hnext).symm⟩
      rw [drain_of_some hnext, hvalue]
      exact hdrain

theorem exists_first_invalid {items : List (List β)}
    (hinvalid : ¬ ∀ item ∈ items, Valid parse item) :
    ∃ front item later, items = front ++ item :: later ∧ (∀ item ∈ front, Valid parse item) ∧
      ¬ Valid parse item := by
  induction items with
  | nil => exact absurd (fun item hmem => absurd hmem List.not_mem_nil) hinvalid
  | cons first items ih =>
    by_cases hfirst : Valid parse first
    · have hrest : ¬ ∀ item ∈ items, Valid parse item := by
        intro hall
        refine hinvalid ?_
        intro item hmem
        rcases List.mem_cons.mp hmem with rfl | hmem
        · exact hfirst
        · exact hall item hmem
      obtain ⟨front, item, later, rfl, hfront, hitem⟩ := ih hrest
      refine ⟨first :: front, item, later, rfl, ?_, hitem⟩
      intro valid hmem
      rcases List.mem_cons.mp hmem with rfl | hmem
      · exact hfirst
      · exact hfront valid hmem
    · exact ⟨[], first, items, rfl, fun item hmem => absurd hmem List.not_mem_nil, hfirst⟩

/-! ## 3. Runs -/

/-- A push that loses nothing: all waiting items are valid, or the first is not. -/
def Lossless (delimiting : Delimiting β) (parse : List β → Except ε α) (buffer : List β) : Prop :=
  (∀ item ∈ delimiting.items buffer, Valid parse item) ∨
    ∃ item later, delimiting.items buffer = item :: later ∧ ¬ Valid parse item

/-- A push that leaves nothing behind either: all waiting items are valid, or none. -/
def Settled (delimiting : Delimiting β) (parse : List β → Except ε α) (buffer : List β) : Prop :=
  (∀ item ∈ delimiting.items buffer, Valid parse item) ∨
    ∀ item ∈ delimiting.items buffer, ¬ Valid parse item

/-- Every push of a run is lossless, and the last leaves no valid item behind. -/
def Steady (delimiting : Delimiting β) (parse : List β → Except ε α) (buffer : List β) :
    List (List β) → Prop
  | [] => True
  | [last] => Settled delimiting parse (buffer ++ last)
  | chunk :: next :: chunks => Lossless delimiting parse (buffer ++ chunk) ∧
    Steady delimiting parse (delimiting.push parse buffer chunk).state (next :: chunks)

theorem parsedItems_eq_nil {items : List (List β)} :
    parsedItems parse items = [] ↔ ∀ item ∈ items, ¬ Valid parse item := by
  rw [parsedItems, List.filterMap_eq_nil_iff]
  constructor
  · rintro hnone item hmem ⟨value, hvalue⟩
    have hitem := hnone item hmem
    rw [hvalue] at hitem
    cases hitem
  · intro hinvalid item hmem
    cases hparse : parse item with
    | ok value => exact absurd ⟨value, hparse⟩ (hinvalid item hmem)
    | error error => rfl

theorem received_cons (parse : List β → Except ε α) (buffer chunk : List β)
    (chunks : List (List β)) :
    (∀ item ∈ delimiting.items (buffer ++ chunk), Valid parse item) ∧
        delimiting.received parse buffer (chunk :: chunks) =
          parsedItems parse (delimiting.items (buffer ++ chunk)) ++
            delimiting.received parse (delimiting.leftover (buffer ++ chunk)) chunks ∧
        (delimiting.push parse buffer chunk).state = delimiting.leftover (buffer ++ chunk) ∨
      ∃ front item later rest, delimiting.items (buffer ++ chunk) = front ++ item :: later ∧
        (∀ item ∈ front, Valid parse item) ∧ ¬ Valid parse item ∧
        delimiting.received parse buffer (chunk :: chunks) =
          delimiting.received parse rest chunks ∧
        (delimiting.push parse buffer chunk).state = rest ∧ delimiting.items rest = later ∧
        delimiting.leftover rest = delimiting.leftover (buffer ++ chunk) := by
  by_cases hvalid : ∀ item ∈ delimiting.items (buffer ++ chunk), Valid parse item
  · have hpush : delimiting.push parse buffer chunk = _ :=
      drain_of_valid (buffer ++ chunk) [] hvalid
    refine .inl ⟨hvalid, ?_, by rw [hpush]; rfl⟩
    rw [received, hpush]
    rfl
  · obtain ⟨front, item, later, hitems, hfront, hitem⟩ := exists_first_invalid hvalid
    obtain ⟨rest, error, hdrain, hrest, hleftover⟩ :=
      drain_of_invalid front hitems hfront hitem []
    have hpush : delimiting.push parse buffer chunk = .fail rest error := hdrain
    refine .inr ⟨front, item, later, rest, hitems, hfront, hitem, ?_, by rw [hpush]; rfl, hrest,
      hleftover⟩
    rw [received, hpush]
    rfl

theorem items_flatten_cons (buffer chunk : List β) (chunks : List (List β)) :
    delimiting.items (buffer ++ (chunk :: chunks).flatten) =
      delimiting.items (buffer ++ chunk) ++
        delimiting.items (delimiting.leftover (buffer ++ chunk) ++ chunks.flatten) := by
  rw [List.flatten_cons, ← List.append_assoc, items_append]

theorem items_flatten_rest {rest buffer : List β} {later : List (List β)}
    (hitems : delimiting.items rest = later)
    (hleftover : delimiting.leftover rest = delimiting.leftover buffer) (more : List β) :
    delimiting.items (rest ++ more) =
      later ++ delimiting.items (delimiting.leftover buffer ++ more) := by
  rw [items_append, hitems, hleftover]

theorem received_sublist (parse : List β → Except ε α) (chunks : List (List β)) (buffer : List β) :
    (delimiting.received parse buffer chunks).Sublist
      (parsedItems parse (delimiting.items (buffer ++ chunks.flatten))) := by
  induction chunks generalizing buffer with
  | nil => exact List.nil_sublist _
  | cons chunk chunks ih =>
    rw [items_flatten_cons, parsedItems_append]
    rcases received_cons parse buffer chunk chunks with
      ⟨-, hreceived, -⟩ |
        ⟨front, item, later, rest, hitems, -, -, hreceived, -, hrest, hleftover⟩
    · rw [hreceived]
      exact (List.Sublist.refl _).append (ih _)
    · have hrestItems := ih rest
      rw [items_flatten_rest hrest hleftover, parsedItems_append] at hrestItems
      rw [hreceived, hitems, List.append_cons, parsedItems_append (front ++ [item]),
        List.append_assoc]
      exact hrestItems.trans (List.sublist_append_right _ _)

theorem parsedItems_front_ne_nil {front : List (List β)} {item : List β}
    (hfront : ∀ item ∈ front, Valid parse item) (hmem : item ∈ front) :
    parsedItems parse front ≠ [] := by
  intro hnil
  exact parsedItems_eq_nil.mp hnil item hmem (hfront item hmem)

theorem lossless_iff_front {buffer item : List β} {front later : List (List β)}
    (hitems : delimiting.items buffer = front ++ item :: later)
    (hfront : ∀ item ∈ front, Valid parse item) (hitem : ¬ Valid parse item) :
    Lossless delimiting parse buffer ↔ front = [] := by
  rw [Lossless, hitems]
  constructor
  · rintro (hvalid | ⟨first, rest, hfirst, hinvalid⟩)
    · exact absurd (hvalid item (List.mem_append_right _ List.mem_cons_self)) hitem
    · rcases front with _ | ⟨valid, front⟩
      · rfl
      · obtain ⟨rfl, -⟩ := List.cons.inj hfirst
        exact absurd (hfront valid List.mem_cons_self) hinvalid
  · rintro rfl
    exact .inr ⟨item, later, rfl, hitem⟩

/-- **Nothing is lost exactly in the steady runs.** -/
theorem received_eq_iff (parse : List β → Except ε α) (chunk : List β) (chunks : List (List β))
    (buffer : List β) :
    delimiting.received parse buffer (chunk :: chunks) =
        parsedItems parse (delimiting.items (buffer ++ (chunk :: chunks).flatten)) ↔
      Steady delimiting parse buffer (chunk :: chunks) := by
  induction chunks generalizing chunk buffer with
  | nil =>
    rw [List.flatten_singleton, Steady, Settled]
    rcases received_cons parse buffer chunk [] with
      ⟨hvalid, hreceived, -⟩ | ⟨front, item, later, rest, hitems, -, hitem, hreceived, -⟩
    · rw [hreceived, received, List.append_nil]
      exact ⟨fun _ => .inl hvalid, fun _ => rfl⟩
    · rw [hreceived, received, eq_comm, parsedItems_eq_nil]
      have hmem : item ∈ delimiting.items (buffer ++ chunk) := by
        rw [hitems]
        exact List.mem_append_right _ List.mem_cons_self
      exact ⟨.inr, fun hsettled => hsettled.resolve_left fun hvalid => hitem (hvalid item hmem)⟩
  | cons next chunks ih =>
    rw [Steady, items_flatten_cons, parsedItems_append]
    rcases received_cons parse buffer chunk (next :: chunks) with
      ⟨hvalid, hreceived, hstate⟩ |
        ⟨front, item, later, rest, hitems, hfront, hitem, hreceived, hstate, hrest, hleftover⟩
    · rw [hreceived, hstate, List.append_cancel_left_eq, ih]
      exact ⟨fun hsteady => ⟨.inl hvalid, hsteady⟩, fun hsteady => hsteady.2⟩
    · have hskipped : parsedItems parse [item] = [] := by
        refine parsedItems_eq_nil.mpr ?_
        intro other hmem
        rwa [List.mem_singleton.mp hmem]
      have hexpected : parsedItems parse (delimiting.items (buffer ++ chunk)) ++
          parsedItems parse (delimiting.items
            (delimiting.leftover (buffer ++ chunk) ++ (next :: chunks).flatten)) =
          parsedItems parse front ++
            parsedItems parse (delimiting.items (rest ++ (next :: chunks).flatten)) := by
        rw [items_flatten_rest hrest hleftover, hitems, List.append_cons, parsedItems_append,
          parsedItems_append, parsedItems_append later,
          hskipped, List.append_nil, List.append_assoc]
      rw [hexpected, hreceived, hstate, lossless_iff_front hitems hfront hitem]
      constructor
      · intro heq
        have hnone : front = [] := by
          rcases front with _ | ⟨valid, front⟩
          · rfl
          · have hle := (@received_sublist _ _ _ delimiting parse (next :: chunks) rest).length_le
            have hpos := List.length_pos_iff.mpr
              (parsedItems_front_ne_nil hfront List.mem_cons_self)
            rw [heq, List.length_append] at hle
            omega
        subst hnone
        exact ⟨rfl, (ih next rest).mp heq⟩
      · rintro ⟨rfl, hsteady⟩
        exact (ih next rest).mpr hsteady

theorem items_nil : delimiting.items [] = [] := by
  cases hnext : delimiting.next [] with
  | none => exact items_of_none hnext
  | some found => exact absurd (delimiting.shorter hnext) (Nat.not_lt_zero _)

theorem received_new_iff (parse : List β → Except ε α) (chunks : List (List β)) :
    delimiting.received parse [] chunks = parsedItems parse (delimiting.items chunks.flatten) ↔
      Steady delimiting parse [] chunks := by
  rcases chunks with _ | ⟨chunk, chunks⟩
  · rw [List.flatten_nil, items_nil]
    exact ⟨fun _ => trivial, fun _ => rfl⟩
  · exact received_eq_iff parse chunk chunks []

end Delimiting

end Bumble
