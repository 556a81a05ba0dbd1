import Bumble.DeviceKeys
import Bumble.OctetReader
import Bumble.OrderedMap

/-!
# The key stores (`bumble/src/keys.rs`)

Bonds are kept in memory, in a map, or in a file, which every call reads again and
every change writes anew, with the keys as hexadecimal text.  Both stores stand
behind one trait, `KeyStoreImpl`; its two default methods are here the functions
`deleteEach` and `resolvingKeys`.

Reads and writes of the file succeed; a file that does not exist is an empty store.
-/

namespace Bumble.Keys

open Bumble.Smp (Key PairingKeys)
open Bumble.Host (mergeKeys)

/-! ## 1. Hexadecimal text -/

/-- One digit of `{:02x}`. -/
def hexDigit (nibble : Nat) : Char := Char.ofNat (if nibble < 10 then 48 + nibble else 87 + nibble)

def hexOctet (octet : UInt8) : String :=
  String.ofList [hexDigit (octet.toNat / 16), hexDigit (octet.toNat % 16)]

def hex : Bytes → String
  | [] => ""
  | octet :: octets => hexOctet octet ++ hex octets

/-- `char::to_digit(16)`, and `hex_nibble`. -/
def toDigit (octet : UInt8) : Option UInt8 :=
  if 0x30 ≤ octet ∧ octet ≤ 0x39 then some (octet - 0x30)
  else if 0x61 ≤ octet ∧ octet ≤ 0x66 then some (octet - 0x61 + 10)
  else if 0x41 ≤ octet ∧ octet ≤ 0x46 then some (octet - 0x41 + 10)
  else none

/-- The octets that pairs of digits make; the first octet that is no digit otherwise. -/
def decodePairs : Bytes → Except UInt8 Bytes
  | high :: low :: text =>
    match toDigit high, toDigit low with
    | none, _ => .error high
    | some _, none => .error low
    | some h, some l => do
      let octets ← decodePairs text
      return ((h <<< 4) ||| l) :: octets
  | _ => .ok []

/-! ## 2. Errors -/

/-- The errors of `Address::parse`. -/
inductive AddressError where
  /-- `odd-length hex: {text:?}` -/
  | oddLength (text : Bytes)
  /-- `invalid hex digit: {digit:?}` -/
  | invalidDigit (digit : UInt8)
  /-- `invalid address length` -/
  | invalidLength
deriving DecidableEq, Repr

inductive KeyStoreError (ε : Type) where
  | json (error : ε)
  | invalidHex (text : String)
  | invalidAddress (error : AddressError)
  | notFound (name : String)
  /-- The mark of a call that panics. -/
  | panic
deriving DecidableEq, Repr

variable {ε Text : Type}

def decodeHex (value : String) : Except (KeyStoreError ε) Bytes :=
  if (stringBytes value).length % 2 ≠ 0 then .error (.invalidHex value)
  else
    match decodePairs (stringBytes value) with
    | .ok octets => .ok octets
    | .error _ => .error (.invalidHex value)

/-! ## 3. Addresses -/

def randomDevice : UInt8 := 0x01
def publicDevice : UInt8 := 0x00

/-- `Address::parse`: the octets, least significant first, and the address type. -/
def parseAddress (address : String) (addressType : UInt8) :
    Except (KeyStoreError ε) (Bytes × UInt8) := do
  let text := stringBytes address
  let isPublic := text.getLast? = some 0x50
  let addressType := if isPublic then publicDevice else addressType
  -- the last two octets are cut off, at the character boundary they have to be at
  let text ←
    if isPublic then
      if isCharBoundary text (text.length - 2) then .ok (text.take (text.length - 2))
      else .error .panic
    else .ok text
  let text := if text.length = 17 then text.filter (· ≠ 0x3A) else text
  if text.length % 2 ≠ 0 then .error (.invalidAddress (.oddLength text))
  else
    match decodePairs text with
    | .error digit => .error (.invalidAddress (.invalidDigit digit))
    | .ok octets =>
      if octets.length ≠ 6 then .error (.invalidAddress .invalidLength)
      else .ok (octets.reverse, addressType)

/-! ## 4. The trait -/

/-- A key store with states `σ`. -/
structure KeyStoreImpl (σ ε : Type) where
  delete : σ → String → Outcome σ (KeyStoreError ε) Unit
  update : σ → String → PairingKeys → Outcome σ (KeyStoreError ε) Unit
  get : σ → String → Except (KeyStoreError ε) (Option PairingKeys)
  getAll : σ → Except (KeyStoreError ε) (List (String × PairingKeys))
  deleteAll : σ → Outcome σ (KeyStoreError ε) Unit

/-- The loop of the default `delete_all`. -/
def deleteEach {σ : Type} (delete : σ → String → Outcome σ (KeyStoreError ε) Unit) :
    σ → List (String × PairingKeys) → Outcome σ (KeyStoreError ε) Unit
  | store, [] => Outcome.ok store ()
  | store, (name, _) :: records => (delete store name).andThen fun store () =>
      deleteEach delete store records

/-- The default `get_resolving_keys`, of what `get_all` returns. -/
def resolvingKeys (records : List (String × PairingKeys)) :
    Except (KeyStoreError ε) (List (Bytes × (Bytes × UInt8))) :=
  (records.filterMap fun record => record.2.irk.map fun irk => (record, irk)).mapM
    fun (record, irk) => do
      let address ← parseAddress record.1 (record.2.addressType.getD randomDevice)
      return (irk.value, address)

def KeyStoreImpl.getResolvingKeys {σ : Type} (impl : KeyStoreImpl σ ε) (store : σ) :
    Except (KeyStoreError ε) (List (Bytes × (Bytes × UInt8))) := do
  let records ← impl.getAll store
  resolvingKeys records

/-! ## 5. The store in memory -/

abbrev MemoryKeyStore := Std.ExtTreeMap String PairingKeys

namespace MemoryKeyStore

def delete (allKeys : MemoryKeyStore) (name : String) :
    Outcome MemoryKeyStore (KeyStoreError ε) Unit :=
  Outcome.ok (allKeys.erase name) ()

def update (allKeys : MemoryKeyStore) (name : String) (keys : PairingKeys) :
    Outcome MemoryKeyStore (KeyStoreError ε) Unit :=
  Outcome.ok (allKeys.insert name keys) ()

def impl : KeyStoreImpl MemoryKeyStore ε where
  delete := delete
  update := update
  get allKeys name := .ok allKeys[name]?
  getAll allKeys := .ok allKeys.toList
  deleteAll allKeys := deleteEach delete allKeys allKeys.toList

end MemoryKeyStore

/-! ## 6. Stored records -/

structure StoredKey where
  value : String
  authenticated : Bool
  ediv : Option UInt16
  rand : Option String
  signCounter : Option UInt32
deriving DecidableEq, Repr

def StoredKey.ofKey (key : Key) : StoredKey where
  value := hex key.value
  authenticated := key.authenticated
  ediv := key.ediv
  rand := key.rand.map hex
  signCounter := key.signCounter

def StoredKey.toKey (key : StoredKey) : Except (KeyStoreError ε) Key := do
  let value ← decodeHex key.value
  let rand ← key.rand.mapM decodeHex
  return { value, authenticated := key.authenticated, ediv := key.ediv, rand,
           signCounter := key.signCounter }

structure StoredPairingKeys where
  addressType : Option UInt8
  ltk : Option StoredKey
  ltkCentral : Option StoredKey
  ltkPeripheral : Option StoredKey
  irk : Option StoredKey
  csrk : Option StoredKey
  localCsrk : Option StoredKey
  linkKey : Option StoredKey
  linkKeyType : Option UInt8
deriving DecidableEq, Repr

namespace StoredPairingKeys

/-- Newer fields over the older ones, where they are set. -/
def merge (existing newer : StoredPairingKeys) : StoredPairingKeys where
  addressType := newer.addressType.or existing.addressType
  ltk := newer.ltk.or existing.ltk
  ltkCentral := newer.ltkCentral.or existing.ltkCentral
  ltkPeripheral := newer.ltkPeripheral.or existing.ltkPeripheral
  irk := newer.irk.or existing.irk
  csrk := newer.csrk.or existing.csrk
  localCsrk := newer.localCsrk.or existing.localCsrk
  linkKey := newer.linkKey.or existing.linkKey
  linkKeyType := newer.linkKeyType.or existing.linkKeyType

def ofKeys (keys : PairingKeys) : StoredPairingKeys where
  addressType := keys.addressType
  ltk := keys.ltk.map .ofKey
  ltkCentral := keys.ltkCentral.map .ofKey
  ltkPeripheral := keys.ltkPeripheral.map .ofKey
  irk := keys.irk.map .ofKey
  csrk := keys.csrk.map .ofKey
  localCsrk := keys.localCsrk.map .ofKey
  linkKey := keys.linkKey.map .ofKey
  linkKeyType := keys.linkKeyType

def toKeys (keys : StoredPairingKeys) : Except (KeyStoreError ε) PairingKeys := do
  let ltk ← keys.ltk.mapM StoredKey.toKey
  let ltkCentral ← keys.ltkCentral.mapM StoredKey.toKey
  let ltkPeripheral ← keys.ltkPeripheral.mapM StoredKey.toKey
  let irk ← keys.irk.mapM StoredKey.toKey
  let csrk ← keys.csrk.mapM StoredKey.toKey
  let localCsrk ← keys.localCsrk.mapM StoredKey.toKey
  let linkKey ← keys.linkKey.mapM StoredKey.toKey
  return { addressType := keys.addressType, ltk, ltkCentral, ltkPeripheral, irk, csrk, localCsrk,
           linkKey, linkKeyType := keys.linkKeyType }

end StoredPairingKeys

/-! ## 7. The store in a file -/

abbrev Records := Std.ExtTreeMap String StoredPairingKeys

abbrev StoredDb := Std.ExtTreeMap String Records

/-- A JSON library, which reads what it has written. -/
structure JsonLibrary (Text ε : Type) where
  toVecPretty : StoredDb → Text
  fromSlice : Text → Except ε StoredDb
  reads : ∀ db, fromSlice (toVecPretty db) = .ok db

/-- The files that a store touches: its own and the one beside it. -/
structure Disk (Text : Type) where
  file : Option Text := none
  temp : Option Text := none

/-- Of a store, what stays the same: the namespace and the library. -/
structure JsonKeyStore (Text ε : Type) where
  library : JsonLibrary Text ε
  keyNamespace : String

def defaultNamespace : String := "__DEFAULT__"

namespace JsonKeyStore

def new (library : JsonLibrary Text ε) (keyNamespace : Option String) : JsonKeyStore Text ε :=
  ⟨library, keyNamespace.getD defaultNamespace⟩

variable (store : JsonKeyStore Text ε)

/-- `db.entry(name).or_default()`. -/
def entry (db : StoredDb) (name : String) : Records := db.getD name ∅

def load (disk : Disk Text) : Except (KeyStoreError ε) (StoredDb × String) :=
  let read : Except (KeyStoreError ε) StoredDb :=
    match disk.file with
    | none => .ok ∅
    | some text =>
      match store.library.fromSlice text with
      | .ok db => .ok db
      | .error error => .error (.json error)
  match read with
  | .error error => .error error
  | .ok db =>
    if db.contains store.keyNamespace then .ok (db, store.keyNamespace)
    else if store.keyNamespace = defaultNamespace ∧ db.size = 1 then
      match db.keys with
      | selected :: _ => .ok (db, selected)
      | [] => .error .panic
    else .ok (db.insert store.keyNamespace (entry db store.keyNamespace), store.keyNamespace)

/-- The database is written beside the file and then moved over it. -/
def save (disk : Disk Text) (db : StoredDb) : Outcome (Disk Text) (KeyStoreError ε) Unit :=
  let disk := { disk with temp := some (store.library.toVecPretty db) }
  Outcome.ok { disk with file := disk.temp, temp := none } ()

def delete (disk : Disk Text) (name : String) : Outcome (Disk Text) (KeyStoreError ε) Unit :=
  match store.load disk with
  | .error error => Outcome.fail disk error
  | .ok (db, selected) =>
    let records := entry db selected
    if records[name]? = none then Outcome.fail disk (.notFound name)
    else store.save disk (db.insert selected (records.erase name))

def update (disk : Disk Text) (name : String) (keys : PairingKeys) :
    Outcome (Disk Text) (KeyStoreError ε) Unit :=
  match store.load disk with
  | .error error => Outcome.fail disk error
  | .ok (db, selected) =>
    let stored := StoredPairingKeys.ofKeys keys
    let records := entry db selected
    let stored := match records[name]? with
      | some existing => existing.merge stored
      | none => stored
    store.save disk (db.insert selected (records.insert name stored))

def get (disk : Disk Text) (name : String) : Except (KeyStoreError ε) (Option PairingKeys) := do
  let (db, selected) ← store.load disk
  (db[selected]?.bind fun records => records[name]?).mapM StoredPairingKeys.toKeys

def getAll (disk : Disk Text) : Except (KeyStoreError ε) (List (String × PairingKeys)) := do
  let (db, selected) ← store.load disk
  let records := match db[selected]? with
    | some records => records.toList
    | none => []
  records.mapM fun record => do
    let keys ← record.2.toKeys
    return (record.1, keys)

def deleteAll (disk : Disk Text) : Outcome (Disk Text) (KeyStoreError ε) Unit :=
  match store.load disk with
  | .error error => Outcome.fail disk error
  | .ok (db, selected) => store.save disk (db.insert selected ∅)

def impl : KeyStoreImpl (Disk Text) ε where
  delete := store.delete
  update := store.update
  get := store.get
  getAll := store.getAll
  deleteAll := store.deleteAll

end JsonKeyStore

end Bumble.Keys
