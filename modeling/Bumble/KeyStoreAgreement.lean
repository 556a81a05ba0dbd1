import Bumble.KeyStores
import Bumble.StepRuns

/-!
# What the two key stores have in common

A file that is used by one store only represents the map that a store in memory
would have after the same calls (`Represents`), as long as no record is deleted
that is not there and no update leaves out a field that is set.  These are the two
calls that the stores treat differently by design: the store in a file reports a
name it does not find, and merges an update into the record it has.
`stores_agree_iff` says that nothing else tells them apart.
-/

namespace Bumble.Keys

open Bumble.Smp (Key PairingKeys)
open Bumble.Host (mergeKeys)

variable {ε Text σ : Type}

/-! ## 1. What is stored reads back -/

theorem decodePairs_hexOctet (octet : UInt8) :
    decodePairs (stringBytes (hexOctet octet)) = .ok [octet] ∧
      (stringBytes (hexOctet octet)).length = 2 := by
  refine forall_octet_lt
    (P := fun octet => decodePairs (stringBytes (hexOctet octet)) = .ok [octet] ∧
    (stringBytes (hexOctet octet)).length = 2)
    (by set_option maxRecDepth 30000 in decide) octet octet.toNat_lt

theorem decodePairs_append {pair octets text : Bytes} {octet : UInt8} (hlength : pair.length = 2)
    (hpair : decodePairs pair = .ok [octet]) (htext : decodePairs text = .ok octets) :
    decodePairs (pair ++ text) = .ok (octet :: octets) := by
  match pair, hlength with
  | [high, low], _ =>
    unfold decodePairs at hpair
    rw [List.cons_append, List.cons_append, List.nil_append, decodePairs]
    split at hpair
    · cases hpair
    · cases hpair
    · rename_i h l _ _
      rw [htext]
      have hoctet := Except.ok.inj hpair
      injection hoctet with hoctet
      rw [← hoctet]
      rfl

theorem decodePairs_hex (octets : Bytes) :
    decodePairs (stringBytes (hex octets)) = .ok octets ∧
      (stringBytes (hex octets)).length = 2 * octets.length := by
  induction octets with
  | nil => exact ⟨rfl, rfl⟩
  | cons octet octets ih =>
    obtain ⟨hpair, hlength⟩ := decodePairs_hexOctet octet
    rw [hex, stringBytes_append]
    refine ⟨decodePairs_append hlength hpair ih.1, ?_⟩
    rw [List.length_append, hlength, ih.2, List.length_cons]
    omega

theorem decodeHex_hex (octets : Bytes) :
    (decodeHex (hex octets) : Except (KeyStoreError ε) Bytes) = .ok octets := by
  obtain ⟨hdecode, hlength⟩ := decodePairs_hex octets
  rw [decodeHex, if_neg (by rw [hlength]; omega), hdecode]

theorem mapM_map_ok {α β : Type} {f : α → β} {g : β → Except ε α}
    (hround : ∀ value, g (f value) = .ok value) (value : Option α) :
    (value.map f).mapM g = .ok value := by
  cases value with
  | none => rfl
  | some value =>
    rw [Option.map_some, Option.mapM_some, hround]
    rfl

theorem toKey_ofKey (key : Key) :
    ((StoredKey.ofKey key).toKey : Except (KeyStoreError ε) Key) = .ok key := by
  rw [StoredKey.toKey, StoredKey.ofKey, decodeHex_hex, mapM_map_ok decodeHex_hex]
  rfl

theorem toKeys_ofKeys (keys : PairingKeys) :
    ((StoredPairingKeys.ofKeys keys).toKeys : Except (KeyStoreError ε) PairingKeys) = .ok keys := by
  simp only [StoredPairingKeys.toKeys, StoredPairingKeys.ofKeys, mapM_map_ok toKey_ofKey]
  rfl

theorem merge_ofKeys (older newer : PairingKeys) :
    (StoredPairingKeys.ofKeys older).merge (.ofKeys newer) = .ofKeys (mergeKeys older newer) := by
  simp only [StoredPairingKeys.merge, StoredPairingKeys.ofKeys, mergeKeys, Option.map_or]

/-! ## 2. A file that represents a map -/

def storedRecords (allKeys : MemoryKeyStore) : Records := allKeys.map fun _ => .ofKeys

theorem storedRecords_getElem? (allKeys : MemoryKeyStore) (name : String) :
    (storedRecords allKeys)[name]? = allKeys[name]?.map .ofKeys :=
  Std.ExtTreeMap.getElem?_map

theorem storedRecords_erase (allKeys : MemoryKeyStore) (name : String) :
    (storedRecords allKeys).erase name = storedRecords (allKeys.erase name) := by
  apply Std.ExtTreeMap.ext_getElem?
  intro other
  rw [OrderedMap.getElem?_erase, storedRecords_getElem?, storedRecords_getElem?,
    OrderedMap.getElem?_erase]
  split <;> rfl

theorem storedRecords_insert (allKeys : MemoryKeyStore) (name : String) (keys : PairingKeys) :
    (storedRecords allKeys).insert name (.ofKeys keys) =
      storedRecords (allKeys.insert name keys) := by
  apply Std.ExtTreeMap.ext_getElem?
  intro other
  rw [OrderedMap.getElem?_insert, storedRecords_getElem?, storedRecords_getElem?,
    OrderedMap.getElem?_insert]
  split <;> rfl

/-- The file holds the records of the map, under the namespace of the store. -/
def Represents (store : JsonKeyStore Text ε) (allKeys : MemoryKeyStore) (disk : Disk Text) : Prop :=
  ∃ db, store.load disk = .ok (db, store.keyNamespace) ∧
    db[store.keyNamespace]? = some (storedRecords allKeys)

variable {store : JsonKeyStore Text ε} {allKeys : MemoryKeyStore} {disk : Disk Text}

theorem represents_empty (store : JsonKeyStore Text ε) : Represents store ∅ {} := by
  refine ⟨(∅ : StoredDb).insert store.keyNamespace ∅, ?_, ?_⟩
  · have hcontains : ¬ (∅ : StoredDb).contains store.keyNamespace = true := by simp
    have hsize : ¬ (store.keyNamespace = defaultNamespace ∧ (∅ : StoredDb).size = 1) := by
      rintro ⟨-, hsize⟩
      simp at hsize
    have hentry : JsonKeyStore.entry ∅ store.keyNamespace = ∅ := by simp [JsonKeyStore.entry]
    simp only [JsonKeyStore.load]
    rw [if_neg hcontains, if_neg hsize, hentry]
  · rw [OrderedMap.getElem?_insert, if_pos rfl]
    apply congrArg some
    apply Std.ExtTreeMap.ext_getElem?
    intro name
    rw [storedRecords_getElem?]
    simp

theorem represents_save (disk : Disk Text) {db : StoredDb}
    (hrecords : db[store.keyNamespace]? = some (storedRecords allKeys)) :
    Represents store allKeys (store.save disk db).state := by
  refine ⟨db, ?_, hrecords⟩
  have hcontains : db.contains store.keyNamespace = true :=
    (OrderedMap.contains_iff db store.keyNamespace).mpr ⟨_, hrecords⟩
  simp only [JsonKeyStore.load, JsonKeyStore.save, Outcome.ok_state, store.library.reads]
  rw [if_pos hcontains]

theorem entry_of_getElem? {db : StoredDb} {name : String} {records : Records}
    (hrecords : db[name]? = some records) : JsonKeyStore.entry db name = records := by
  rw [JsonKeyStore.entry, Std.ExtTreeMap.getD_eq_getD_getElem?, hrecords]
  rfl

/-! ## 3. One call on both stores -/

namespace Represents

theorem get (h : Represents store allKeys disk) (name : String) :
    store.get disk name = .ok allKeys[name]? := by
  obtain ⟨db, hload, hrecords⟩ := h
  rw [JsonKeyStore.get, hload]
  change Option.mapM _ _ = _
  rw [hrecords, Option.bind_some, storedRecords_getElem?, mapM_map_ok toKeys_ofKeys]

theorem getAll (h : Represents store allKeys disk) : store.getAll disk = .ok allKeys.toList := by
  obtain ⟨db, hload, hrecords⟩ := h
  rw [JsonKeyStore.getAll, hload]
  change List.mapM _ _ = _
  rw [hrecords]
  dsimp only
  rw [storedRecords, Std.ExtTreeMap.toList_map]
  induction allKeys.toList with
  | nil => rfl
  | cons record records ih =>
    rw [List.map_cons, List.mapM_cons, toKeys_ofKeys, ih]
    rfl

theorem delete_missing (h : Represents store allKeys disk) {name : String}
    (hname : allKeys[name]? = none) :
    store.delete disk name = Outcome.fail disk (.notFound name) := by
  obtain ⟨db, hload, hrecords⟩ := h
  have hmissing : (JsonKeyStore.entry db store.keyNamespace)[name]? = none := by
    rw [entry_of_getElem? hrecords, storedRecords_getElem?, hname]
    rfl
  simp only [JsonKeyStore.delete, hload]
  rw [if_pos hmissing]

theorem delete_found (h : Represents store allKeys disk) {name : String} {keys : PairingKeys}
    (hname : allKeys[name]? = some keys) :
    (store.delete disk name).result = .ok () ∧
      Represents store (allKeys.erase name) (store.delete disk name).state := by
  obtain ⟨db, hload, hrecords⟩ := h
  have hfound : ¬ (JsonKeyStore.entry db store.keyNamespace)[name]? = none := by
    rw [entry_of_getElem? hrecords, storedRecords_getElem?, hname]
    simp
  simp only [JsonKeyStore.delete, hload]
  rw [if_neg hfound]
  refine ⟨rfl, represents_save disk ?_⟩
  rw [OrderedMap.getElem?_insert, if_pos rfl, entry_of_getElem? hrecords, storedRecords_erase]

theorem update (h : Represents store allKeys disk) (name : String) (keys : PairingKeys) :
    (store.update disk name keys).result = .ok () ∧
      Represents store (allKeys.insert name (match allKeys[name]? with
        | some older => mergeKeys older keys
        | none => keys)) (store.update disk name keys).state := by
  obtain ⟨db, hload, hrecords⟩ := h
  simp only [JsonKeyStore.update, hload]
  refine ⟨rfl, represents_save disk ?_⟩
  rw [OrderedMap.getElem?_insert, if_pos rfl, entry_of_getElem? hrecords, storedRecords_getElem?]
  cases allKeys[name]? with
  | none => rw [← storedRecords_insert]; rfl
  | some older =>
    rw [← storedRecords_insert, ← merge_ofKeys]
    rfl

theorem deleteAll (h : Represents store allKeys disk) :
    (store.deleteAll disk).result = .ok () ∧
      Represents store ∅ (store.deleteAll disk).state := by
  obtain ⟨db, hload, hrecords⟩ := h
  simp only [JsonKeyStore.deleteAll, hload]
  refine ⟨rfl, represents_save disk ?_⟩
  rw [OrderedMap.getElem?_insert, if_pos rfl]
  apply congrArg some
  apply Std.ExtTreeMap.ext_getElem?
  intro name
  rw [storedRecords_getElem?]
  simp

end Represents

theorem deleteEach_toList (allKeys : MemoryKeyStore) :
    (deleteEach MemoryKeyStore.delete allKeys allKeys.toList :
      Outcome MemoryKeyStore (KeyStoreError ε) Unit) = Outcome.ok ∅ () := by
  have herased : ∀ (records : List (String × PairingKeys)) (allKeys : MemoryKeyStore),
      ∃ later, (deleteEach MemoryKeyStore.delete allKeys records :
        Outcome MemoryKeyStore (KeyStoreError ε) Unit) = Outcome.ok later () ∧
        ∀ name, later[name]? = if name ∈ records.map (·.1) then none else allKeys[name]? := by
    intro records
    induction records with
    | nil =>
      intro allKeys
      exact ⟨allKeys, rfl, by simp⟩
    | cons record records ih =>
      intro allKeys
      obtain ⟨later, hlater, hget⟩ := ih (allKeys.erase record.1)
      refine ⟨later, hlater, ?_⟩
      intro name
      rw [hget, OrderedMap.getElem?_erase, List.map_cons]
      by_cases hname : record.1 = name
      · simp [hname]
      · have hne : name ≠ record.1 := Ne.symm hname
        simp only [if_neg hname, List.mem_cons, hne, false_or]
  obtain ⟨later, hlater, hget⟩ := herased allKeys.toList allKeys
  rw [hlater]
  have hempty : later = ∅ := by
    apply Std.ExtTreeMap.ext_getElem?
    intro name
    rw [hget]
    split
    · simp
    · rename_i hname
      rw [Std.ExtTreeMap.map_fst_toList_eq_keys, Std.ExtTreeMap.mem_keys] at hname
      simp [Std.ExtTreeMap.getElem?_eq_none hname]
  rw [hempty]

/-! ## 4. Runs -/

inductive Call where
  | update (name : String) (keys : PairingKeys)
  | delete (name : String)
  | deleteAll
  | get (name : String)
  | getAll
  | getResolvingKeys
deriving DecidableEq, Repr

inductive Answer (ε : Type) where
  | done (result : Except (KeyStoreError ε) Unit)
  | record (result : Except (KeyStoreError ε) (Option PairingKeys))
  | records (result : Except (KeyStoreError ε) (List (String × PairingKeys)))
  | resolvingKeys (result : Except (KeyStoreError ε) (List (Bytes × (Bytes × UInt8))))
deriving DecidableEq

namespace KeyStoreImpl

variable (impl : KeyStoreImpl σ ε)

def call (store : σ) : Call → σ × Answer ε
  | .update name keys =>
    ((impl.update store name keys).state, .done (impl.update store name keys).result)
  | .delete name => ((impl.delete store name).state, .done (impl.delete store name).result)
  | .deleteAll => ((impl.deleteAll store).state, .done (impl.deleteAll store).result)
  | .get name => (store, .record (impl.get store name))
  | .getAll => (store, .records (impl.getAll store))
  | .getResolvingKeys => (store, .resolvingKeys (impl.getResolvingKeys store))

def after (store : σ) (calls : List Call) : σ :=
  calls.foldl (fun store call => (impl.call store call).1) store

end KeyStoreImpl

/-- Every field that is set in the older keys is set in the newer ones. -/
structure LeavesNothingOut (older newer : PairingKeys) : Prop where
  addressType : older.addressType.isSome → newer.addressType.isSome
  ltk : older.ltk.isSome → newer.ltk.isSome
  ltkCentral : older.ltkCentral.isSome → newer.ltkCentral.isSome
  ltkPeripheral : older.ltkPeripheral.isSome → newer.ltkPeripheral.isSome
  irk : older.irk.isSome → newer.irk.isSome
  csrk : older.csrk.isSome → newer.csrk.isSome
  localCsrk : older.localCsrk.isSome → newer.localCsrk.isSome
  linkKey : older.linkKey.isSome → newer.linkKey.isSome
  linkKeyType : older.linkKeyType.isSome → newer.linkKeyType.isSome

theorem or_eq_left_iff {α : Type} (newer older : Option α) :
    newer.or older = newer ↔ (older.isSome → newer.isSome) := by
  cases newer <;> cases older <;> simp

theorem mergeKeys_eq_iff (older newer : PairingKeys) :
    mergeKeys older newer = newer ↔ LeavesNothingOut older newer := by
  obtain ⟨_, _, _, _, _, _, _, _, _⟩ := newer
  simp only [mergeKeys, PairingKeys.mk.injEq, or_eq_left_iff]
  constructor
  · rintro ⟨h₁, h₂, h₃, h₄, h₅, h₆, h₇, h₈, h₉⟩
    exact ⟨h₁, h₂, h₃, h₄, h₅, h₆, h₇, h₈, h₉⟩
  · rintro ⟨h₁, h₂, h₃, h₄, h₅, h₆, h₇, h₈, h₉⟩
    exact ⟨h₁, h₂, h₃, h₄, h₅, h₆, h₇, h₈, h₉⟩

/-- The calls the stores treat alike: a deleted record is there, and an update of a
    record leaves nothing out. -/
def Plain (allKeys : MemoryKeyStore) : Call → Prop
  | .delete name => ∃ keys, allKeys[name]? = some keys
  | .update name keys => ∀ older, allKeys[name]? = some older → LeavesNothingOut older keys
  | _ => True

/-- The stores answer a call alike, and cannot be told apart by a `get` after it. -/
structure Alike (store : JsonKeyStore Text ε) (allKeys : MemoryKeyStore) (disk : Disk Text)
    (call : Call) : Prop where
  answer : ((MemoryKeyStore.impl : KeyStoreImpl _ ε).call allKeys call).2 =
    (store.impl.call disk call).2
  gets : ∀ name, (MemoryKeyStore.impl : KeyStoreImpl _ ε).get
      ((MemoryKeyStore.impl : KeyStoreImpl _ ε).call allKeys call).1 name =
    store.impl.get (store.impl.call disk call).1 name

theorem Represents.call (h : Represents store allKeys disk) {call : Call}
    (hplain : Plain allKeys call) :
    ((MemoryKeyStore.impl : KeyStoreImpl _ ε).call allKeys call).2 = (store.impl.call disk call).2 ∧
      Represents store ((MemoryKeyStore.impl : KeyStoreImpl _ ε).call allKeys call).1
        (store.impl.call disk call).1 := by
  cases call with
  | update name keys =>
    obtain ⟨hresult, hlater⟩ := h.update name keys
    have hkeys : (match allKeys[name]? with
        | some older => mergeKeys older keys
        | none => keys) = keys := by
      split
      · rename_i older hname
        exact (mergeKeys_eq_iff older keys).mpr (hplain older hname)
      · rfl
    rw [hkeys] at hlater
    exact ⟨congrArg Answer.done hresult.symm, hlater⟩
  | delete name =>
    obtain ⟨keys, hname⟩ := hplain
    obtain ⟨hresult, hlater⟩ := h.delete_found hname
    exact ⟨congrArg Answer.done hresult.symm, hlater⟩
  | deleteAll =>
    obtain ⟨hresult, hlater⟩ := h.deleteAll
    have hall : (MemoryKeyStore.impl : KeyStoreImpl _ ε).deleteAll allKeys = Outcome.ok ∅ () :=
      deleteEach_toList allKeys
    refine ⟨?_, ?_⟩
    · change Answer.done _ = Answer.done (store.deleteAll disk).result
      rw [hall, hresult]
      rfl
    · change Represents store (MemoryKeyStore.impl.deleteAll allKeys).state _
      rw [hall]
      exact hlater
  | get name => exact ⟨congrArg Answer.record (h.get name).symm, h⟩
  | getAll => exact ⟨congrArg Answer.records h.getAll.symm, h⟩
  | getResolvingKeys =>
    refine ⟨?_, h⟩
    change Answer.resolvingKeys _ = Answer.resolvingKeys _
    rw [KeyStoreImpl.getResolvingKeys, KeyStoreImpl.getResolvingKeys]
    change Answer.resolvingKeys (Except.ok allKeys.toList >>= resolvingKeys) =
      Answer.resolvingKeys (store.getAll disk >>= resolvingKeys)
    rw [h.getAll]

/-- **One call.**  On a map and a file that represents it, a call is answered alike
    exactly when it is plain. -/
theorem Represents.alike_iff (h : Represents store allKeys disk) (call : Call) :
    Alike store allKeys disk call ↔ Plain allKeys call := by
  constructor
  · intro halike
    cases call with
    | delete name =>
      cases hname : allKeys[name]? with
      | some keys => exact ⟨keys, hname⟩
      | none =>
        have hanswer := halike.answer
        change Answer.done (Except.ok ()) = Answer.done (store.delete disk name).result at hanswer
        rw [h.delete_missing hname] at hanswer
        cases hanswer
    | update name keys =>
      intro older hname
      have hget := halike.gets name
      change Except.ok (allKeys.insert name keys)[name]? =
        store.get (store.update disk name keys).state name at hget
      rw [(h.update name keys).2.get, hname, OrderedMap.getElem?_insert, if_pos rfl,
        OrderedMap.getElem?_insert, if_pos rfl] at hget
      rw [← mergeKeys_eq_iff]
      exact (Option.some.inj (Except.ok.inj hget)).symm
    | deleteAll => trivial
    | get name => trivial
    | getAll => trivial
    | getResolvingKeys => trivial
  · intro hplain
    obtain ⟨hanswer, hlater⟩ := h.call hplain
    exact ⟨hanswer, fun name => (hlater.get name).symm⟩

theorem Represents.run_iff (calls : List Call) : ∀ {allKeys : MemoryKeyStore} {disk : Disk Text},
    Represents store allKeys disk →
    ((∀ before call after, calls = before ++ call :: after →
        Alike store ((MemoryKeyStore.impl : KeyStoreImpl _ ε).after allKeys before)
          (store.impl.after disk before) call) ↔
      ∀ before call after, calls = before ++ call :: after →
        Plain ((MemoryKeyStore.impl : KeyStoreImpl _ ε).after allKeys before) call) := by
  induction calls with
  | nil =>
    intro allKeys disk _
    exact iff_of_true forall_split_nil forall_split_nil
  | cons call calls ih =>
    intro allKeys disk h
    rw [forall_split_cons_iff, forall_split_cons_iff]
    constructor
    · rintro ⟨hfirst, hrest⟩
      have hplain := (h.alike_iff call).mp hfirst
      exact ⟨hplain, (ih (h.call hplain).2).mp hrest⟩
    · rintro ⟨hplain, hrest⟩
      exact ⟨(h.alike_iff call).mpr hplain, (ih (h.call hplain).2).mpr hrest⟩

/-- **The two stores.**  A new store in memory and a new store in a file answer every
    call of a run alike, and cannot be told apart by a `get` after it, exactly when
    the run deletes only records that are there and no update of a record leaves out
    a field that the record has. -/
theorem stores_agree_iff (store : JsonKeyStore Text ε) (calls : List Call) :
    (∀ before call after, calls = before ++ call :: after →
        Alike store ((MemoryKeyStore.impl : KeyStoreImpl _ ε).after ∅ before)
          (store.impl.after {} before) call) ↔
      ∀ before call after, calls = before ++ call :: after →
        Plain ((MemoryKeyStore.impl : KeyStoreImpl _ ε).after ∅ before) call :=
  Represents.run_iff calls (represents_empty store)

/-- The library whose text is the database itself. -/
def plainLibrary : JsonLibrary StoredDb Unit := ⟨id, .ok, fun _ => rfl⟩

def plainStore : JsonKeyStore StoredDb Unit := JsonKeyStore.new plainLibrary none

def oneKey : Key := ⟨[0xAA], true, none, none, none⟩

/-- A record that is not there is deleted by one store and missed by the other, and an
    identity key that is stored over a long term key replaces it in one and joins it in
    the other. -/
theorem stores_differ :
    ((MemoryKeyStore.impl : KeyStoreImpl _ Unit).call ∅ (.delete "AA")).2 ≠
        (plainStore.impl.call {} (.delete "AA")).2 ∧
      ((MemoryKeyStore.impl : KeyStoreImpl _ Unit).call
          ((MemoryKeyStore.impl : KeyStoreImpl _ Unit).after ∅
            [.update "AA" { ltk := some oneKey }, .update "AA" { irk := some oneKey }])
          (.get "AA")).2 ≠
        (plainStore.impl.call (plainStore.impl.after {}
          [.update "AA" { ltk := some oneKey }, .update "AA" { irk := some oneKey }])
          (.get "AA")).2 := by
  have hempty := represents_empty plainStore
  have hname : (∅ : MemoryKeyStore)["AA"]? = none := by simp
  constructor
  · intro hanswer
    change Answer.done _ = Answer.done (plainStore.delete {} "AA").result at hanswer
    rw [hempty.delete_missing hname] at hanswer
    cases hanswer
  · intro hanswer
    have hfirst := (hempty.update "AA" { ltk := some oneKey }).2
    rw [hname] at hfirst
    have hsecond := (hfirst.update "AA" { irk := some oneKey }).2.get "AA"
    change Answer.record (Except.ok _) = Answer.record (plainStore.get
      (plainStore.update (plainStore.update {} "AA" { ltk := some oneKey }).state "AA"
        { irk := some oneKey }).state "AA") at hanswer
    rw [hsecond] at hanswer
    change Answer.record (Except.ok (((∅ : MemoryKeyStore).insert "AA" _).insert "AA" _)["AA"]?) = _
      at hanswer
    simp only [OrderedMap.getElem?_insert, if_pos] at hanswer
    cases hanswer

end Bumble.Keys
