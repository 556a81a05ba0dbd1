import Bumble.KeyStoreAgreement

/-!
# Several stores on one file (`bumble/src/keys.rs`)

Each store of a family has a namespace of its own in one file.  What a file holds is
shown as a map of maps (`Shows`), and what a store sees of it is the map `seen`, in
the namespace that `load` selects at that moment.  A call writes the map that a
store sees (`rewritten`), so its own view always follows its own calls.

The view of the store with the default namespace does not stay in place: without
that namespace in the file it is the only one there, whoever wrote it.
`stores_isolated_iff` says which calls move it, or write through it.
-/

namespace Bumble.Keys

open Bumble.Smp (Key PairingKeys)
open Bumble.Host (mergeKeys)

variable {ε Text ι : Type}

/-! ## 1. What a file shows -/

abbrev KeyDb := Std.ExtTreeMap String MemoryKeyStore

def storedDb (db : KeyDb) : StoredDb := db.map fun _ => storedRecords

theorem storedDb_getElem? (db : KeyDb) (name : String) :
    (storedDb db)[name]? = db[name]?.map storedRecords :=
  Std.ExtTreeMap.getElem?_map

theorem storedDb_insert (db : KeyDb) (name : String) (records : MemoryKeyStore) :
    (storedDb db).insert name (storedRecords records) = storedDb (db.insert name records) := by
  apply Std.ExtTreeMap.ext_getElem?
  intro other
  rw [OrderedMap.getElem?_insert, storedDb_getElem?, storedDb_getElem?, OrderedMap.getElem?_insert]
  split <;> rfl

theorem storedRecords_empty : storedRecords ∅ = ∅ := by
  apply Std.ExtTreeMap.ext_getElem?
  intro name
  rw [storedRecords_getElem?]
  simp

theorem storedDb_empty : storedDb ∅ = ∅ := by
  apply Std.ExtTreeMap.ext_getElem?
  intro name
  rw [storedDb_getElem?]
  simp

/-- The file holds these maps; no file holds none. -/
def Shows (library : JsonLibrary Text ε) (disk : Disk Text) (db : KeyDb) : Prop :=
  match disk.file with
  | none => db = ∅
  | some text => library.fromSlice text = .ok (storedDb db)

theorem shows_nothing (library : JsonLibrary Text ε) : Shows library {} ∅ := rfl

/-! ## 2. What a store sees of it -/

/-- The namespace that `load` selects. -/
def selected (db : KeyDb) (name : String) : String :=
  if db.contains name then name
  else if name = defaultNamespace ∧ db.size = 1 then db.keys.headD name
  else name

def seen (db : KeyDb) (name : String) : MemoryKeyStore := db.getD (selected db name) ∅

theorem getD_insert (db : KeyDb) (name other : String) (records : MemoryKeyStore) :
    (db.insert name records).getD other ∅ = if name = other then records else db.getD other ∅ := by
  rw [Std.ExtTreeMap.getD_eq_getD_getElem?, OrderedMap.getElem?_insert,
    Std.ExtTreeMap.getD_eq_getD_getElem?]
  split <;> rfl

theorem getD_of_not_mem {db : KeyDb} {name : String} (hname : ¬ name ∈ db) :
    db.getD name ∅ = ∅ := by
  rw [Std.ExtTreeMap.getD_eq_getD_getElem?, Std.ExtTreeMap.getElem?_eq_none hname]
  rfl

theorem selected_named (db : KeyDb) {name : String} (hname : name ≠ defaultNamespace) :
    selected db name = name := by
  rw [selected, if_neg (show ¬ (name = defaultNamespace ∧ db.size = 1) from fun h => hname h.1)]
  split <;> rfl

theorem selected_mem {db : KeyDb} {name : String} (hname : name ∈ db) :
    selected db name = name := by
  rw [selected, if_pos (Std.ExtTreeMap.contains_iff_mem.mpr hname)]

theorem mem_lone {db : KeyDb} {lone name : String} (hkeys : db.keys = [lone]) :
    name ∈ db ↔ name = lone := by
  rw [← Std.ExtTreeMap.mem_keys, hkeys, List.mem_singleton]

theorem size_lone {db : KeyDb} {lone : String} (hkeys : db.keys = [lone]) : db.size = 1 := by
  rw [← Std.ExtTreeMap.length_keys, hkeys]
  rfl

theorem selected_lone {db : KeyDb} {lone : String} (hkeys : db.keys = [lone]) :
    selected db defaultNamespace = lone := by
  rw [selected]
  split
  · next hcontains => exact (mem_lone hkeys).mp (Std.ExtTreeMap.contains_iff_mem.mp hcontains)
  · rw [if_pos ⟨rfl, size_lone hkeys⟩, hkeys]
    rfl

theorem selected_default {db : KeyDb} (hsize : db.size ≠ 1) :
    selected db defaultNamespace = defaultNamespace := by
  rw [selected, if_neg (show ¬ (defaultNamespace = defaultNamespace ∧ db.size = 1) from
    fun h => hsize h.2)]
  split <;> rfl

theorem lone_of_size {db : KeyDb} (hsize : db.size = 1) : ∃ lone, db.keys = [lone] := by
  rw [← Std.ExtTreeMap.length_keys] at hsize
  exact List.length_eq_one_iff.mp hsize

theorem seen_named (db : KeyDb) {name : String} (hname : name ≠ defaultNamespace) :
    seen db name = db.getD name ∅ := by
  rw [seen, selected_named db hname]

theorem seen_mem {db : KeyDb} {name : String} (hname : name ∈ db) :
    seen db name = db.getD name ∅ := by
  rw [seen, selected_mem hname]

theorem seen_lone {db : KeyDb} {lone : String} (hkeys : db.keys = [lone]) :
    seen db defaultNamespace = db.getD lone ∅ := by
  rw [seen, selected_lone hkeys]

theorem seen_default {db : KeyDb} (hmissing : ¬ defaultNamespace ∈ db) (hsize : db.size ≠ 1) :
    seen db defaultNamespace = ∅ := by
  rw [seen, selected_default hsize, getD_of_not_mem hmissing]

theorem keys_insert_lone {db : KeyDb} {name : String} {records : MemoryKeyStore}
    (hkeys : db.keys = [] ∨ db.keys = [name]) : (db.insert name records).keys = [name] := by
  have hsize : (db.insert name records).size = 1 := by
    rw [Std.ExtTreeMap.size_insert]
    rcases hkeys with hkeys | hkeys
    · have hmissing : ¬ name ∈ db := by
        rw [← Std.ExtTreeMap.mem_keys, hkeys]
        exact List.not_mem_nil
      rw [if_neg (fun h => hmissing (Std.ExtTreeMap.contains_iff_mem.mp h)),
        ← Std.ExtTreeMap.length_keys, hkeys]
      rfl
    · rw [if_pos (Std.ExtTreeMap.contains_iff_mem.mpr ((mem_lone hkeys).mpr rfl)), size_lone hkeys]
  obtain ⟨lone, hlone⟩ := lone_of_size hsize
  have hname : name ∈ db.insert name records := by simp
  rw [hlone, (mem_lone hlone).mp hname]

theorem size_insert_other {db : KeyDb} {lone name : String} (records : MemoryKeyStore)
    (hkeys : db.keys = [lone]) (hname : name ≠ lone) : (db.insert name records).size ≠ 1 := by
  rw [Std.ExtTreeMap.size_insert, size_lone hkeys, if_neg]
  · decide
  · intro hcontains
    exact hname ((mem_lone hkeys).mp (Std.ExtTreeMap.contains_iff_mem.mp hcontains))

/-! ## 3. One call on a file -/

/-- The map that a call writes in the place of the one that its store sees. -/
def rewritten (records : MemoryKeyStore) : Call → Option MemoryKeyStore
  | .update name keys => some (records.insert name (match records[name]? with
      | some older => mergeKeys older keys
      | none => keys))
  | .delete name => if records[name]? = none then none else some (records.erase name)
  | .deleteAll => some ∅
  | _ => none

def stepDb (db : KeyDb) (name : String) (call : Call) : KeyDb :=
  match rewritten (seen db name) call with
  | some records => db.insert (selected db name) records
  | none => db

variable {library : JsonLibrary Text ε} {disk : Disk Text} {db : KeyDb}

theorem load_of_shows (store : JsonKeyStore Text ε) (hshows : Shows store.library disk db) :
    store.load disk =
      if db.contains store.keyNamespace then .ok (storedDb db, store.keyNamespace)
      else if store.keyNamespace = defaultNamespace ∧ db.size = 1 then
        match db.keys with
        | selected :: _ => .ok (storedDb db, selected)
        | [] => .error .panic
      else .ok ((storedDb db).insert store.keyNamespace
        (JsonKeyStore.entry (storedDb db) store.keyNamespace), store.keyNamespace) := by
  have hcontains : (storedDb db).contains store.keyNamespace = db.contains store.keyNamespace := by
    simp [storedDb]
  have hsize : (storedDb db).size = db.size := Std.ExtTreeMap.size_map
  have hkeys : (storedDb db).keys = db.keys := Std.ExtTreeMap.keys_map
  rw [← hcontains, ← hsize, ← hkeys]
  unfold Shows at hshows
  split at hshows
  · next hfile =>
    rw [hshows, storedDb_empty]
    unfold JsonKeyStore.load
    exact hfile ▸ rfl
  · next text hfile =>
    unfold JsonKeyStore.load
    simp only [hfile]
    exact hshows ▸ rfl

theorem load_shows (store : JsonKeyStore Text ε) (hshows : Shows store.library disk db) :
    ∃ loaded, store.load disk = .ok (loaded, selected db store.keyNamespace) ∧
      loaded[selected db store.keyNamespace]? = some (storedRecords (seen db store.keyNamespace)) ∧
      ∀ records, loaded.insert (selected db store.keyNamespace) records =
        (storedDb db).insert (selected db store.keyNamespace) records := by
  rw [load_of_shows store hshows]
  by_cases hmem : store.keyNamespace ∈ db
  · rw [if_pos (Std.ExtTreeMap.contains_iff_mem.mpr hmem), selected_mem hmem, seen_mem hmem]
    refine ⟨storedDb db, rfl, ?_, fun _ => rfl⟩
    rw [storedDb_getElem?, Std.ExtTreeMap.getD_eq_getD_getElem?]
    obtain ⟨records, hrecords⟩ :=
      (OrderedMap.contains_iff db _).mp (Std.ExtTreeMap.contains_iff_mem.mpr hmem)
    rw [hrecords]
    rfl
  · rw [if_neg (fun h => hmem (Std.ExtTreeMap.contains_iff_mem.mp h))]
    by_cases hlone : store.keyNamespace = defaultNamespace ∧ db.size = 1
    · obtain ⟨lone, hkeys⟩ := lone_of_size hlone.2
      rw [if_pos hlone, hkeys, hlone.1, selected_lone hkeys, seen_lone hkeys]
      refine ⟨storedDb db, rfl, ?_, fun _ => rfl⟩
      obtain ⟨records, hrecords⟩ := (OrderedMap.contains_iff db lone).mp
        (Std.ExtTreeMap.contains_iff_mem.mpr ((mem_lone hkeys).mpr rfl))
      rw [storedDb_getElem?, Std.ExtTreeMap.getD_eq_getD_getElem?, hrecords]
      rfl
    · have hselected : selected db store.keyNamespace = store.keyNamespace := by
        rw [selected, if_neg hlone]
        split <;> rfl
      have hmissing : (storedDb db)[store.keyNamespace]? = none := by
        rw [storedDb_getElem?, Std.ExtTreeMap.getElem?_eq_none hmem]
        rfl
      rw [if_neg hlone, seen, hselected, getD_of_not_mem hmem]
      refine ⟨_, rfl, ?_, fun _ => OrderedMap.insert_insert _ _ _ _⟩
      rw [OrderedMap.getElem?_insert, if_pos rfl, JsonKeyStore.entry,
        Std.ExtTreeMap.getD_eq_getD_getElem?, hmissing, storedRecords_empty]
      rfl

theorem shows_save (store : JsonKeyStore Text ε) (disk : Disk Text) {saved : StoredDb}
    (hsaved : saved = storedDb db) : Shows store.library (store.save disk saved).state db := by
  change store.library.fromSlice (store.library.toVecPretty saved) = .ok (storedDb db)
  rw [store.library.reads, hsaved]

section Shown

variable (store : JsonKeyStore Text ε)

theorem get_shows (hshows : Shows store.library disk db) (name : String) :
    store.get disk name = .ok (seen db store.keyNamespace)[name]? := by
  obtain ⟨loaded, hload, hrecords, -⟩ := load_shows store hshows
  rw [JsonKeyStore.get, hload]
  change Option.mapM _ _ = _
  rw [hrecords, Option.bind_some, storedRecords_getElem?, mapM_map_ok toKeys_ofKeys]

theorem getAll_shows (hshows : Shows store.library disk db) :
    store.getAll disk = .ok (seen db store.keyNamespace).toList := by
  obtain ⟨loaded, hload, hrecords, -⟩ := load_shows store hshows
  rw [JsonKeyStore.getAll, hload]
  change List.mapM _ _ = _
  rw [hrecords]
  dsimp only
  rw [storedRecords, Std.ExtTreeMap.toList_map]
  induction (seen db store.keyNamespace).toList with
  | nil => rfl
  | cons record records ih =>
    rw [List.map_cons, List.mapM_cons, toKeys_ofKeys, ih]
    rfl

theorem call_shows (hshows : Shows store.library disk db) (call : Call) :
    Shows store.library (store.impl.call disk call).1 (stepDb db store.keyNamespace call) := by
  obtain ⟨loaded, hload, hrecords, hinsert⟩ := load_shows store hshows
  have hentry := entry_of_getElem? hrecords
  cases call with
  | update name keys =>
    change Shows _ (store.update disk name keys).state _
    simp only [JsonKeyStore.update, hload, hentry, storedRecords_getElem?, stepDb, rewritten]
    apply shows_save
    rw [hinsert, ← storedDb_insert, ← storedRecords_insert]
    cases (seen db store.keyNamespace)[name]? with
    | none => rfl
    | some older =>
      dsimp only [Option.map_some]
      rw [merge_ofKeys]
  | delete name =>
    change Shows _ (store.delete disk name).state _
    simp only [JsonKeyStore.delete, hload, hentry, storedRecords_getElem?, stepDb, rewritten,
      Option.map_eq_none_iff]
    by_cases hmissing : (seen db store.keyNamespace)[name]? = none
    · rw [if_pos hmissing, if_pos hmissing]
      exact hshows
    · rw [if_neg hmissing, if_neg hmissing]
      apply shows_save
      rw [hinsert, storedRecords_erase, storedDb_insert]
  | deleteAll =>
    change Shows _ (store.deleteAll disk).state _
    simp only [JsonKeyStore.deleteAll, hload, stepDb, rewritten]
    apply shows_save
    rw [hinsert, ← storedRecords_empty, storedDb_insert]
  | get name => exact hshows
  | getAll => exact hshows
  | getResolvingKeys => exact hshows

end Shown

/-! ## 4. What a call does to the views -/

theorem seen_own (db : KeyDb) (name : String) (call : Call) :
    seen (stepDb db name call) name = (rewritten (seen db name) call).getD (seen db name) := by
  unfold stepDb
  cases rewritten (seen db name) call with
  | none => rfl
  | some records =>
    dsimp only [Option.getD_some]
    by_cases hlone : name = defaultNamespace ∧ db.size = 1
    · obtain ⟨rfl, hsize⟩ := hlone
      obtain ⟨lone, hkeys⟩ := lone_of_size hsize
      rw [selected_lone hkeys, seen_lone (keys_insert_lone (.inr hkeys)), getD_insert, if_pos rfl]
    · have hselected : selected db name = name := by
        rw [selected, if_neg hlone]
        split <;> rfl
      have hname : name ∈ db.insert name records := by simp
      rw [hselected, seen_mem hname, getD_insert, if_pos rfl]

variable {names : ι → String}

/-- Another store of the family has the default namespace. -/
def DefaultBeside (names : ι → String) (i : ι) : Prop := ∃ j, j ≠ i ∧ names j = defaultNamespace

/-- What the store `i` may write, on a file that has no default namespace and at most
    one other, beside the stores of its family. -/
structure Apart (names : ι → String) (db : KeyDb) (i : ι) (records : MemoryKeyStore) : Prop where
  /-- The default store sees what the only store that has written writes. -/
  alone : DefaultBeside names i → db.keys = [] ∨ db.keys = [names i] →
    records = seen db (names i)
  /-- The default store loses sight of the only namespace when there is a second. -/
  second : DefaultBeside names i → ∀ name, db.keys = [name] → name ≠ names i →
    name ≠ defaultNamespace → db.getD name ∅ = ∅
  /-- The default store writes into the only namespace, whosever it is. -/
  shared : names i = defaultNamespace → ∀ j, j ≠ i → db.keys = [names j] →
    records = seen db (names i)

theorem default_mem_insert {db : KeyDb} {name : String} (records : MemoryKeyStore)
    (hname : name ≠ defaultNamespace) :
    defaultNamespace ∈ db.insert name records ↔ defaultNamespace ∈ db := by
  simp [Std.ExtTreeMap.mem_insert, hname]

/-- When storing under another name leaves the view of the default namespace alone:
    a lone namespace stands in for a missing default one. -/
theorem seen_default_insert_iff {name : String} (hname : name ≠ defaultNamespace)
    (records : MemoryKeyStore) :
    seen (db.insert name records) defaultNamespace = seen db defaultNamespace ↔
      (db.keys = [] ∨ db.keys = [name] → records = seen db name) ∧
      ∀ lone, db.keys = [lone] → lone ≠ name → lone ≠ defaultNamespace → db.getD lone ∅ = ∅ := by
  by_cases hdefault : defaultNamespace ∈ db
  · -- the default namespace is there to stay
    have hlater := (default_mem_insert records hname).mpr hdefault
    rw [seen_mem hlater, seen_mem hdefault, getD_insert, if_neg hname]
    refine iff_of_true rfl ⟨?_, ?_⟩
    · rintro (hkeys | hkeys)
      · rw [← Std.ExtTreeMap.mem_keys, hkeys] at hdefault
        cases hdefault
      · exact absurd ((mem_lone hkeys).mp hdefault).symm hname
    · intro lone hkeys _ hlone
      exact absurd ((mem_lone hkeys).mp hdefault).symm hlone
  · have hlater := fun hmem => hdefault ((default_mem_insert records hname).mp hmem)
    rcases hkeys : db.keys with - | ⟨lone, - | ⟨other, rest⟩⟩
    · have hsize : db.size ≠ 1 := by
        rw [← Std.ExtTreeMap.length_keys, hkeys]
        decide
      have hmissing : ¬ name ∈ db := by
        rw [← Std.ExtTreeMap.mem_keys, hkeys]
        exact List.not_mem_nil
      rw [seen_lone (keys_insert_lone (.inl hkeys)), getD_insert, if_pos rfl,
        seen_default hdefault hsize, seen_named db hname, getD_of_not_mem hmissing]
      simp
    · by_cases hlone : lone = name
      · subst hlone
        rw [seen_lone (keys_insert_lone (.inr hkeys)), getD_insert, if_pos rfl, seen_lone hkeys,
          seen_named db hname]
        constructor
        · intro hsame
          refine ⟨fun _ => hsame, ?_⟩
          intro lone' hlone' hne
          exact absurd (List.singleton_injective hlone').symm hne
        · rintro ⟨hsame, -⟩
          exact hsame (.inr rfl)
      · have hne : lone ≠ defaultNamespace := by
          rintro rfl
          exact hdefault ((mem_lone hkeys).mpr rfl)
        rw [seen_default hlater (size_insert_other records hkeys (Ne.symm hlone)),
          seen_lone hkeys]
        constructor
        · intro hsame
          refine ⟨?_, ?_⟩
          · rintro (hnil | hname)
            · cases hnil
            · exact absurd (List.singleton_injective hname) hlone
          · intro lone' hlone' _ _
            rw [← List.singleton_injective hlone']
            exact hsame.symm
        · rintro ⟨-, hempty⟩
          exact (hempty lone rfl hlone hne).symm
    · have hsize : 2 ≤ db.size := by
        rw [← Std.ExtTreeMap.length_keys, hkeys]
        simp
      have hgrows : db.size ≤ (db.insert name records).size := Std.ExtTreeMap.size_le_size_insert
      rw [seen_default hlater (by omega), seen_default hdefault (by omega)]
      simp

/-- **One write.**  It changes what no other store of the family sees exactly when it
    is `Apart`. -/
theorem seen_others_iff (hnames : Function.Injective names) (db : KeyDb) (i : ι)
    (records : MemoryKeyStore) :
    (∀ j, j ≠ i → seen (db.insert (selected db (names i)) records) (names j) =
        seen db (names j)) ↔ Apart names db i records := by
  constructor
  · intro hall
    have hbeside : DefaultBeside names i → names i ≠ defaultNamespace ∧
        seen (db.insert (names i) records) defaultNamespace = seen db defaultNamespace := by
      rintro ⟨j, hj, hdefault⟩
      have hname : names i ≠ defaultNamespace := fun h => hj (hnames (hdefault.trans h.symm))
      have hsame := hall j hj
      rw [selected_named db hname, hdefault] at hsame
      exact ⟨hname, hsame⟩
    refine ⟨?_, ?_, ?_⟩
    · intro hdefault
      obtain ⟨hname, hsame⟩ := hbeside hdefault
      exact ((seen_default_insert_iff hname records).mp hsame).1
    · intro hdefault
      obtain ⟨hname, hsame⟩ := hbeside hdefault
      exact ((seen_default_insert_iff hname records).mp hsame).2
    · intro hdefault j hj hkeys
      have hname : names j ≠ defaultNamespace := fun h => hj (hnames (h.trans hdefault.symm))
      have hsame := hall j hj
      rw [hdefault, selected_lone hkeys, seen_named _ hname, seen_named _ hname, getD_insert,
        if_pos rfl] at hsame
      rw [hdefault, seen_lone hkeys, hsame]
  · intro happart j hj
    have hne : names i ≠ names j := fun h => hj (hnames h).symm
    by_cases hdefault : names j = defaultNamespace
    · have hname : names i ≠ defaultNamespace := fun h => hne (h.trans hdefault.symm)
      rw [hdefault, selected_named db hname, seen_default_insert_iff hname]
      exact ⟨happart.alone ⟨j, hj, hdefault⟩, happart.second ⟨j, hj, hdefault⟩⟩
    · rw [seen_named _ hdefault, seen_named _ hdefault, getD_insert]
      split
      · next hselected =>
        -- the default store is about to write into the namespace of `j`
        have hname : names i = defaultNamespace := by
          by_contra hname
          exact hne ((selected_named db hname).symm.trans hselected)
        have hsize : db.size = 1 := by
          by_contra hsize
          rw [hname, selected_default hsize] at hselected
          exact hdefault hselected.symm
        obtain ⟨lone, hkeys⟩ := lone_of_size hsize
        have hlone : lone = names j := by rw [← hselected, hname, selected_lone hkeys]
        rw [hlone] at hkeys
        rw [happart.shared hname j hj hkeys, hname, seen_lone hkeys]
      · rfl

/-! ## 5. Runs of a family -/

def storeAt (library : JsonLibrary Text ε) (names : ι → String) (i : ι) : JsonKeyStore Text ε :=
  ⟨library, names i⟩

/-- The file after calls of the stores, in any order. -/
def afterCalls (library : JsonLibrary Text ε) (names : ι → String) (disk : Disk Text)
    (calls : List (ι × Call)) : Disk Text :=
  calls.foldl (fun disk step => ((storeAt library names step.1).impl.call disk step.2).1) disk

structure Untouched (library : JsonLibrary Text ε) (names : ι → String) (disk : Disk Text)
    (step : ι × Call) : Prop where
  get : ∀ j, j ≠ step.1 → ∀ name,
    (storeAt library names j).get (afterCalls library names disk [step]) name =
      (storeAt library names j).get disk name
  getAll : ∀ j, j ≠ step.1 →
    (storeAt library names j).getAll (afterCalls library names disk [step]) =
      (storeAt library names j).getAll disk

def writtenBy (name : String) (written : Option PairingKeys) : Call → Option PairingKeys
  | .update other keys =>
    if other = name then some (match written with
      | some older => mergeKeys older keys
      | none => keys)
    else written
  | .delete other => if other = name then none else written
  | .deleteAll => none
  | _ => written

/-- What a store has last written under a name and not deleted. -/
def lastWritten [DecidableEq ι] (i : ι) (name : String) (written : Option PairingKeys) :
    List (ι × Call) → Option PairingKeys
  | [] => written
  | (j, call) :: calls =>
    lastWritten i name (if j = i then writtenBy name written call else written) calls

/-- At every moment of a run each store returns what it has last written itself. -/
def Kept [DecidableEq ι] (library : JsonLibrary Text ε) (names : ι → String) (disk : Disk Text)
    (calls : List (ι × Call)) : Prop :=
  ∀ before after, calls = before ++ after → ∀ i name written,
    (storeAt library names i).get disk name = .ok written →
    (storeAt library names i).get (afterCalls library names disk before) name =
      .ok (lastWritten i name written before)

/-- A call that writes nothing, or what it may write on this file. -/
def Allowed (library : JsonLibrary Text ε) (names : ι → String) (disk : Disk Text)
    (step : ι × Call) : Prop :=
  ∀ db, Shows library disk db → ∀ records,
    rewritten (seen db (names step.1)) step.2 = some records → Apart names db step.1 records

theorem call_shows_step (names : ι → String) (hshows : Shows library disk db) (step : ι × Call) :
    Shows library (afterCalls library names disk [step]) (stepDb db (names step.1) step.2) := by
  have hstore : Shows (storeAt library names step.1).library disk db := hshows
  exact call_shows _ hstore step.2

theorem untouched_iff (hshows : Shows library disk db) (step : ι × Call) :
    Untouched library names disk step ↔ ∀ j, j ≠ step.1 →
      seen (stepDb db (names step.1) step.2) (names j) = seen db (names j) := by
  have hlater := call_shows_step names hshows step
  have hget : ∀ j name, (storeAt library names j).get disk name =
      .ok (seen db (names j))[name]? :=
        fun j name => get_shows (storeAt library names j) hshows name
  have hgetLater : ∀ j name,
      (storeAt library names j).get (afterCalls library names disk [step]) name =
        .ok (seen (stepDb db (names step.1) step.2) (names j))[name]? :=
    fun j name => get_shows (storeAt library names j) hlater name
  constructor
  · intro huntouched j hj
    apply Std.ExtTreeMap.ext_getElem?
    intro name
    have hsame := huntouched.get j hj name
    rw [hget, hgetLater] at hsame
    exact Except.ok.inj hsame
  · intro hall
    refine ⟨?_, ?_⟩
    · intro j hj name
      rw [hget, hgetLater, hall j hj]
    · intro j hj
      have hgetAll : (storeAt library names j).getAll disk = .ok (seen db (names j)).toList :=
        getAll_shows _ hshows
      have hgetAllLater :
          (storeAt library names j).getAll (afterCalls library names disk [step]) =
            .ok (seen (stepDb db (names step.1) step.2) (names j)).toList := getAll_shows _ hlater
      rw [hgetAll, hgetAllLater, hall j hj]

theorem untouched_iff_allowed (hnames : Function.Injective names)
    (hshows : Shows library disk db) (step : ι × Call) :
    Untouched library names disk step ↔ Allowed library names disk step := by
  constructor
  · intro huntouched db hshows records hrecords
    rw [untouched_iff hshows] at huntouched
    apply (seen_others_iff hnames db step.1 records).mp
    simpa only [stepDb, hrecords] using huntouched
  · intro hallowed
    rw [untouched_iff hshows]
    cases hrecords : rewritten (seen db (names step.1)) step.2 with
    | none =>
      intro j _
      simp only [stepDb, hrecords]
    | some records =>
      have hsame := (seen_others_iff hnames db step.1 records).mpr
        (hallowed db hshows records hrecords)
      simpa only [stepDb, hrecords] using hsame

theorem rewritten_getElem? (records : MemoryKeyStore) (call : Call) (name : String) :
    ((rewritten records call).getD records)[name]? = writtenBy name records[name]? call := by
  cases call with
  | update other keys =>
    simp only [rewritten, Option.getD_some, OrderedMap.getElem?_insert, writtenBy]
    split
    · next hother => rw [hother]
    · rfl
  | delete other =>
    simp only [rewritten, writtenBy]
    by_cases hmissing : records[other]? = none
    · rw [if_pos hmissing, Option.getD_none]
      split
      · next hother => rw [← hother, hmissing]
      · rfl
    · rw [if_neg hmissing, Option.getD_some, OrderedMap.getElem?_erase]
  | deleteAll => simp [rewritten, writtenBy]
  | get other => rfl
  | getAll => rfl
  | getResolvingKeys => rfl

theorem afterCalls_cons (disk : Disk Text) (step : ι × Call) (calls : List (ι × Call)) :
    afterCalls library names disk (step :: calls) =
      afterCalls library names (afterCalls library names disk [step]) calls := rfl

theorem afterCalls_shows (names : ι → String) (calls : List (ι × Call)) :
    ∀ {disk : Disk Text} {db : KeyDb},
    Shows library disk db → ∃ later, Shows library (afterCalls library names disk calls) later := by
  induction calls with
  | nil => exact fun hshows => ⟨_, hshows⟩
  | cons step calls ih =>
    intro disk db hshows
    rw [afterCalls_cons]
    exact ih (call_shows_step names hshows step)

theorem get_of_untouched [DecidableEq ι] (i : ι) (name : String) (calls : List (ι × Call)) :
    ∀ {disk : Disk Text} {db : KeyDb} {written : Option PairingKeys}, Shows library disk db →
      (∀ before step after, calls = before ++ step :: after →
        Untouched library names (afterCalls library names disk before) step) →
      (storeAt library names i).get disk name = .ok written →
      (storeAt library names i).get (afterCalls library names disk calls) name =
        .ok (lastWritten i name written calls) := by
  induction calls with
  | nil => exact fun _ _ hget => hget
  | cons step calls ih =>
    intro disk db written hshows huntouched hget
    obtain ⟨hfirst, hrest⟩ := forall_split_cons_iff.mp huntouched
    have hlater := call_shows_step names hshows step
    rw [afterCalls_cons, lastWritten]
    apply ih hlater
    · intro before next after hsplit
      exact hrest before next after hsplit
    · split
      · next hown =>
        have hbefore : (seen db (names i))[name]? = written :=
          Except.ok.inj ((get_shows (storeAt library names i) hshows name).symm.trans hget)
        subst hown
        refine (get_shows (storeAt library names step.1) hlater name).trans ?_
        change Except.ok (seen (stepDb db (names step.1) step.2) (names step.1))[name]? = _
        rw [seen_own, rewritten_getElem?, hbefore]
      · next hother => exact (hfirst.get i (Ne.symm hother) name).trans hget

/-- **Stores on one file.**  In every run of a family of stores with distinct
    namespaces, each call leaves alone what the other stores return, and each store
    returns what it has last written itself, exactly when every call that writes is
    allowed where it is made: while the file has no default namespace and at most one
    other, a store beside the default one changes nothing in an empty file, in its own
    lone namespace, or beside a lone namespace with records, and the default store
    changes nothing in the lone namespace of another. -/
theorem stores_isolated_iff [DecidableEq ι] (hnames : Function.Injective names)
    (hshows : Shows library disk db) (calls : List (ι × Call)) :
    ((∀ before step after, calls = before ++ step :: after →
        Untouched library names (afterCalls library names disk before) step) ∧
      Kept library names disk calls) ↔
    ∀ before step after, calls = before ++ step :: after →
      Allowed library names (afterCalls library names disk before) step := by
  have hstep : ∀ before step, Untouched library names (afterCalls library names disk before) step ↔
      Allowed library names (afterCalls library names disk before) step := by
    intro before step
    obtain ⟨later, hlater⟩ := afterCalls_shows names before hshows
    exact untouched_iff_allowed hnames hlater step
  constructor
  · rintro ⟨huntouched, -⟩ before step after hsplit
    exact (hstep before step).mp (huntouched before step after hsplit)
  · intro hallowed
    have huntouched : ∀ before step after, calls = before ++ step :: after →
        Untouched library names (afterCalls library names disk before) step :=
      fun before step after hsplit => (hstep before step).mpr (hallowed before step after hsplit)
    refine ⟨huntouched, ?_⟩
    intro before after hsplit i name written hget
    apply get_of_untouched i name before hshows ?_ hget
    intro first step last hfirst
    apply huntouched first step (last ++ after)
    rw [hsplit, hfirst, List.append_assoc]
    rfl

def twoNames : Bool → String
  | false => defaultNamespace
  | true => "Nexus"

theorem twoNames_injective : Function.Injective twoNames := by decide

/-- The default store may write first. -/
theorem default_writes_first :
    Untouched plainLibrary twoNames {} (false, .update "AA" { ltk := some oneKey }) := by
  apply ((stores_isolated_iff twoNames_injective (shows_nothing plainLibrary)
    [(false, .update "AA" { ltk := some oneKey })]).mpr ?_).1 [] _ [] rfl
  rw [forall_split_cons_iff]
  refine ⟨?_, forall_split_nil⟩
  intro db hshows records _
  obtain rfl : db = ∅ := hshows
  have hbeside : ¬ DefaultBeside twoNames false := by
    rintro ⟨j, hj, hdefault⟩
    exact hj (twoNames_injective hdefault)
  refine ⟨fun h => absurd h hbeside, fun h => absurd h hbeside, ?_⟩
  intro _ j _ hkeys
  have hempty : (∅ : KeyDb).keys = [] := by simp
  rw [hempty] at hkeys
  cases hkeys

/-- When the store beside it writes first, the default store has that record too. -/
theorem default_sees_other :
    ¬ Untouched plainLibrary twoNames {} (true, .update "AA" { ltk := some oneKey }) := by
  intro huntouched
  have hseen := (untouched_iff (shows_nothing plainLibrary) _).mp huntouched false (by decide)
  have hsame := congrArg (fun records : MemoryKeyStore => records["AA"]?) hseen
  revert hsame
  decide

end Bumble.Keys
