import Bumble.KeyMirror

/-!
# The bonds of a device (`bumble-host/src/lib.rs`)

A device that knows its peer takes the long term key from its key store: as the
central to start the encryption, as the peripheral to answer the request of its
controller.  A bond from Secure Connections has one key; a legacy bond has two, of
which the role on the present connection selects one.
-/

namespace Bumble.Host

open Bumble.Smp

/-! ## 1. The key store -/

/-- A key store of type `σ`. -/
structure KeyStore (σ ε : Type) where
  update : KeyStoreUpdate σ ε
  get : σ → String → Except ε (Option PairingKeys)

def mergeKeys (older newer : PairingKeys) : PairingKeys where
  addressType := newer.addressType.or older.addressType
  ltk := newer.ltk.or older.ltk
  ltkCentral := newer.ltkCentral.or older.ltkCentral
  ltkPeripheral := newer.ltkPeripheral.or older.ltkPeripheral
  irk := newer.irk.or older.irk
  csrk := newer.csrk.or older.csrk
  localCsrk := newer.localCsrk.or older.localCsrk
  linkKey := newer.linkKey.or older.linkKey
  linkKeyType := newer.linkKeyType.or older.linkKeyType

/-- What has been stored under a name is found there, over the keys that the store has
kept from before. -/
def KeyStore.ReadsBack {σ ε : Type} (keyStore : KeyStore σ ε)
    (kept : σ → String → PairingKeys) : Prop :=
  ∀ {store later : σ} {name : String} {keys : PairingKeys},
    keyStore.update store name keys = .ok later () →
      keyStore.get later name = .ok (some (mergeKeys (kept store name) keys))

/-- The store in memory, in which a record replaces an older one. -/
def memoryKeyStore : KeyStore (String → Option PairingKeys) String where
  update allKeys name keys := .ok (Function.update allKeys name (some keys)) ()
  get allKeys name := .ok (allKeys name)

/-- The store in a file, in which a record is merged into an older one. -/
def jsonKeyStore : KeyStore (String → Option PairingKeys) String where
  update db name keys :=
    let stored := match db name with
      | some existing => mergeKeys existing keys
      | none => keys
    .ok (Function.update db name (some stored)) ()
  get db name := .ok (db name)

theorem mergeKeys_empty (keys : PairingKeys) : mergeKeys {} keys = keys := by
  simp only [mergeKeys, Option.or_none]

theorem memoryKeyStore_readsBack : memoryKeyStore.ReadsBack fun _ _ => {} := by
  intro store later name keys hupdate
  have hlater : Function.update store name (some keys) = later := congrArg Outcome.state hupdate
  rw [← hlater, mergeKeys_empty]
  change Except.ok (Function.update store name (some keys) name) = _
  rw [Function.update_self]

/-- The merging store keeps the older fields that the newer record leaves open. -/
theorem jsonKeyStore_readsBack : jsonKeyStore.ReadsBack fun db name => (db name).getD {} := by
  intro store later name keys hupdate
  have hlater : Function.update store name _ = later := congrArg Outcome.state hupdate
  rw [← hlater]
  change Except.ok (Function.update store name _ name) = _
  rw [Function.update_self]
  cases hexisting : store name with
  | none =>
    dsimp only
    rw [hexisting, Option.getD_none, mergeKeys_empty]
  | some existing =>
    dsimp only
    rw [hexisting, Option.getD_some]

/-! ## 2. The keys of a connection -/

def roleCentral : UInt8 := 0
def rolePeripheral : UInt8 := 1

inductive DeviceKeyStoreError (ε : Type) where
  | store (error : ε)
  | noConnection
  | bondNotFound (peerAddress : Address)
  | noLongTermKey (peerAddress : Address)
  | invalidKeyLength (field : String) (expected actual : Nat)
  | notCentral (connectionHandle : UInt16)
  deriving DecidableEq, Repr

structure LeConnectionInfo where
  role : UInt8
  peerAddress : Address
  deriving DecidableEq, Repr

/-- What a device has of its connections and bonds. -/
structure BondDevice (σ : Type) where
  leConnections : UInt16 → Option LeConnectionInfo
  store : σ

/-- The command that starts the encryption of a link. -/
structure LeEnableEncryption where
  connectionHandle : UInt16
  randomNumber : Octets 8
  encryptedDiversifier : UInt16
  longTermKey : Octets 16
  deriving DecidableEq, Repr

/-- A value of fixed size, from the octets of a stored key. -/
def fixedOctets {ε : Type} (size : Nat) (field : String) (value : Bytes) :
    Except (DeviceKeyStoreError ε) (Octets size) :=
  if hsize : value.length = size then .ok ⟨value.toArray, hsize⟩
  else .error (.invalidKeyLength field size value.length)

theorem fixedOctets_toList {ε : Type} {size : Nat} (field : String) (value : Octets size) :
    (fixedOctets size field value.toList : Except (DeviceKeyStoreError ε) _) = .ok value := by
  rw [fixedOctets, dif_pos value.length_toList]
  rfl

/-- The key for a role: that of Secure Connections, or the legacy key of the role. -/
def selectedKey (role : UInt8) (keys : PairingKeys) : Option Key :=
  keys.ltk.or (if role = roleCentral then keys.ltkCentral else keys.ltkPeripheral)

def encryptionParameters {ε : Type} (key : Key) :
    Except (DeviceKeyStoreError ε) (Octets 16 × UInt16 × Octets 8) := do
  let longTermKey ← fixedOctets 16 "LTK" key.value
  let randomNumber ← match key.rand with
    | some random => fixedOctets 8 "LTK RAND" random
    | none => .ok (Vector.replicate 8 0)
  return (longTermKey, key.ediv.getD 0, randomNumber)

namespace BondDevice

variable {σ ε : Type} (keyStore : KeyStore σ ε)

def storedEncryptionParameters (device : BondDevice σ) (connectionHandle : UInt16) :
    Except (DeviceKeyStoreError ε) (Octets 16 × UInt16 × Octets 8) :=
  match device.leConnections connectionHandle with
  | none => .error .noConnection
  | some connection =>
    match keyStore.get device.store connection.peerAddress.toName with
    | .error error => .error (.store error)
    | .ok none => .error (.bondNotFound connection.peerAddress)
    | .ok (some keys) =>
      match selectedKey connection.role keys with
      | none => .error (.noLongTermKey connection.peerAddress)
      | some key => encryptionParameters key

def enableEncryptionWithBondOnHandle (device : BondDevice σ) (connectionHandle : UInt16) :
    Except (DeviceKeyStoreError ε) LeEnableEncryption :=
  match device.leConnections connectionHandle with
  | none => .error .noConnection
  | some connection =>
    if connection.role ≠ roleCentral then .error (.notCentral connectionHandle)
    else do
      let parameters ← device.storedEncryptionParameters keyStore connectionHandle
      return { connectionHandle
               randomNumber := parameters.2.2
               encryptedDiversifier := parameters.2.1
               longTermKey := parameters.1 }

/-- The answer to a long term key request of the controller, which names the key by a
diversifier and a random value: the key of the pairing session, if there is one, or
that of the bond. -/
def longTermKeyReply (device : BondDevice σ) (pairingKey : Option (Octets 16))
    (connectionHandle : UInt16) (_randomNumber : Octets 8) (_encryptionDiversifier : UInt16) :
    Option (Octets 16) :=
  match pairingKey with
  | some key => some key
  | none =>
    match device.storedEncryptionParameters keyStore connectionHandle with
    | .ok (key, _) => some key
    | .error _ => none

/-! ## 3. Encrypting with a bond -/

/-- The central starts the encryption with its bond, and the peripheral, which is not
pairing, answers the request that carries the central's diversifier and random value
with the same key. -/
def Encrypts {σ' : Type} (keyStore : KeyStore σ ε) (keyStore' : KeyStore σ' ε)
    (central : BondDevice σ) (peripheral : BondDevice σ') (handle handle' : UInt16) : Prop :=
  ∃ command, central.enableEncryptionWithBondOnHandle keyStore handle = .ok command ∧
    peripheral.longTermKeyReply keyStore' none handle' command.randomNumber
      command.encryptedDiversifier = some command.longTermKey

theorem storedEncryptionParameters_of_get {device : BondDevice σ} {handle : UInt16}
    {connection : LeConnectionInfo} {keys : PairingKeys} {key : Key}
    (hconnection : device.leConnections handle = some connection)
    (hget : keyStore.get device.store connection.peerAddress.toName = .ok (some keys))
    (hkey : selectedKey connection.role keys = some key) :
    device.storedEncryptionParameters keyStore handle = encryptionParameters key := by
  unfold storedEncryptionParameters
  rw [hconnection]
  dsimp only
  rw [hget]
  dsimp only
  rw [hkey]

/-- **Both keys are read and are the same.** -/
theorem encrypts_iff {σ' : Type} {keyStore' : KeyStore σ' ε} {central : BondDevice σ}
    {peripheral : BondDevice σ'} {handle handle' : UInt16} {connection : LeConnectionInfo}
    (hconnection : central.leConnections handle = some connection)
    (hrole : connection.role = roleCentral) :
    Encrypts keyStore keyStore' central peripheral handle handle' ↔
      ∃ own answered, central.storedEncryptionParameters keyStore handle = .ok own ∧
        peripheral.storedEncryptionParameters keyStore' handle' = .ok answered ∧
        answered.1 = own.1 := by
  have hcommand : central.enableEncryptionWithBondOnHandle keyStore handle = (do
      let parameters ← central.storedEncryptionParameters keyStore handle
      return { connectionHandle := handle
               randomNumber := parameters.2.2
               encryptedDiversifier := parameters.2.1
               longTermKey := parameters.1 }) := by
    unfold enableEncryptionWithBondOnHandle
    rw [hconnection]
    exact if_neg (not_not.mpr hrole)
  unfold Encrypts
  rw [hcommand]
  unfold longTermKeyReply
  dsimp only
  cases hown : central.storedEncryptionParameters keyStore handle with
  | error error =>
    constructor
    · rintro ⟨command, hcommand, -⟩
      nomatch hcommand
    · rintro ⟨own, answered, hown, -⟩
      nomatch hown
  | ok own =>
    cases hanswered : peripheral.storedEncryptionParameters keyStore' handle' with
    | error error =>
      constructor
      · rintro ⟨command, -, hreply⟩
        nomatch hreply
      · rintro ⟨own, answered, -, hanswered, -⟩
        nomatch hanswered
    | ok answered =>
      constructor
      · rintro ⟨command, hcommand, hreply⟩
        cases hcommand
        exact ⟨own, answered, rfl, rfl, Option.some.inj hreply⟩
      · rintro ⟨own', answered', hown', hanswered', hsame⟩
        cases hown'
        cases hanswered'
        exact ⟨_, rfl, congrArg some hsame⟩

end BondDevice

theorem encryptionParameters_legacyKey {ε : Type} (session : KeyDistributionSession)
    (value : Octets 16) (ediv : UInt16) (rand : Octets 8) :
    (encryptionParameters (session.legacyKey value ediv rand) :
      Except (DeviceKeyStoreError ε) _) = .ok (value, ediv, rand) := by
  unfold encryptionParameters
  have hvalue : (session.legacyKey value ediv rand).value = value.toList := rfl
  have hrand : (session.legacyKey value ediv rand).rand = some rand.toList := rfl
  rw [hvalue, hrand, fixedOctets_toList]
  dsimp only [bind, Except.bind]
  rw [fixedOctets_toList]
  rfl

end Bumble.Host
