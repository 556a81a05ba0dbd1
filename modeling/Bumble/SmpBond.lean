import Bumble.ScSession
import Bumble.LegacySession

/-!
# The keys of a pairing (`bumble/src/keys.rs`, `bumble-smp/src/distribution.rs`)

What a completed key distribution hands over: the long term keys, the peer's
identity and signing keys, the local signing key and, with Secure Connections, the
link key of the classic transport.  A session stores them under the address of the
peer when bonding was agreed.
-/

namespace Bumble.Smp

/-! ## 1. Keys -/

structure Key where
  value : Bytes
  authenticated : Bool
  ediv : Option UInt16
  rand : Option Bytes
  signCounter : Option UInt32
deriving DecidableEq, Repr

structure PairingKeys where
  addressType : Option UInt8 := none
  ltk : Option Key := none
  ltkCentral : Option Key := none
  ltkPeripheral : Option Key := none
  irk : Option Key := none
  csrk : Option Key := none
  localCsrk : Option Key := none
  linkKey : Option Key := none
  linkKeyType : Option UInt8 := none
deriving DecidableEq, Repr

/-- The key of the other transport: `tmp` and `name` are the two key identifiers. -/
def crossTransportKey {κ : Type} (prim : Primitives κ) (tmp name : Octets 4) (key : Octets 16)
    (ct2 : Bool) : Octets 16 :=
  let zeros : Octets 12 := Vector.replicate 12 0
  let salt : Octets 16 := zeros ++ tmp
  let intermediate := if ct2 then h7 prim salt key else h6 prim key tmp.toList
  h6 prim intermediate name.toList

/-- The key of the classic transport from the LE key, with "tmp1" and "lebr". -/
def deriveLinkKey {κ : Type} (prim : Primitives κ) (ltk : Octets 16) (ct2 : Bool) : Octets 16 :=
  crossTransportKey prim #v[0x74, 0x6D, 0x70, 0x31] #v[0x6C, 0x65, 0x62, 0x72] ltk ct2

def hexOctet (octet : UInt8) : String :=
  let digit (nibble : Nat) : Char := Char.ofNat (if nibble < 10 then 48 + nibble else 55 + nibble)
  String.ofList [digit (octet.toNat / 16), digit (octet.toNat % 16)]

/-- The octets of an address, the most significant first. -/
def Address.toName (address : Address) : String :=
  ":".intercalate (address.addressBytes.toList.reverse.map hexOctet)

/-- What a session uses of a key store: a store of type `σ` takes the keys under a
    name, or refuses them. -/
abbrev KeyStoreUpdate (σ ε : Type) := σ → String → PairingKeys → Outcome σ ε Unit

/-! ## 2. The key distribution -/

namespace KeyDistributionSession

variable {κ : Type} (prim : Primitives κ)

def peerAddress (session : KeyDistributionSession) : Address :=
  session.peerIdentityAddress.getD session.config.peerAddress

def key (session : KeyDistributionSession) (value : Octets 16) : Key where
  value := value.toList
  authenticated := session.config.authenticated
  ediv := none
  rand := none
  signCounter := none

def legacyKey (session : KeyDistributionSession) (value : Octets 16) (ediv : UInt16)
    (rand : Octets 8) : Key :=
  { session.key value with ediv := some ediv, rand := some rand.toList }

def ownLegacyKey (session : KeyDistributionSession) : Option Key :=
  if session.config.localFlags.contains .encryptionKey then
    some (session.legacyKey session.config.localLtk session.config.localKeys.ediv
      session.config.localKeys.rand)
  else none

def peerLegacyKey (session : KeyDistributionSession) : Option Key :=
  match session.peerLtk, session.peerEdiv, session.peerRand with
  | some ltk, some ediv, some rand => some (session.legacyKey ltk ediv rand)
  | _, _, _ => none

def pairingKeys (session : KeyDistributionSession) : Option PairingKeys :=
  if session.state ≠ .complete then none
  else
    let config := session.config
    let keys : PairingKeys :=
      { addressType := some session.peerAddress.addressType
        irk := session.peerIrk.map session.key
        csrk := session.peerCsrk.map session.key }
    let keys :=
      if config.localFlags.contains .signingKey then
        { keys with
          localCsrk := some { session.key config.localKeys.csrk with signCounter := some 0 } }
      else keys
    let keys :=
      if config.secureConnections then { keys with ltk := some (session.key config.pairingLtk) }
      else
        match config.role with
        | .initiator =>
          { keys with ltkPeripheral := session.ownLegacyKey, ltkCentral := session.peerLegacyKey }
        | .responder =>
          { keys with ltkCentral := session.ownLegacyKey, ltkPeripheral := session.peerLegacyKey }
    let keys :=
      if config.secureConnections && config.localFlags.contains .linkKey then
        { keys with
          linkKey := some (session.key (deriveLinkKey prim config.pairingLtk config.ct2)) }
      else keys
    some keys

/-- Whether the keys were stored; nothing is, before the distribution is complete. -/
def storeBond {σ ε : Type} (session : KeyDistributionSession) (update : KeyStoreUpdate σ ε)
    (store : σ) : Outcome σ ε Bool :=
  match session.pairingKeys prim with
  | none => .ok store false
  | some keys => (update store session.peerAddress.toName keys).andThen fun store () =>
    .ok store true

end KeyDistributionSession

/-! ## 3. The sessions -/

section Sessions

variable {κ : Type} (prim : Primitives κ)

def ScPairingSession.pairingKeys (s : ScPairingSession κ) : Option PairingKeys :=
  s.distribution.bind (·.pairingKeys prim)

def ScPairingSession.storeBond {σ ε : Type} (s : ScPairingSession κ)
    (update : KeyStoreUpdate σ ε) (store : σ) : Outcome σ ε Bool :=
  if !s.outcome.any (·.bonding) then .ok store false
  else
    match s.distribution with
    | some distribution => distribution.storeBond prim update store
    | none => .ok store false

def LegacyPairingSession.pairingKeys (s : LegacyPairingSession κ) : Option PairingKeys :=
  s.distribution.bind (·.pairingKeys prim)

def LegacyPairingSession.storeBond {σ ε : Type} (s : LegacyPairingSession κ)
    (update : KeyStoreUpdate σ ε) (store : σ) : Outcome σ ε Bool :=
  if !s.outcome.any (·.bonding) then .ok store false
  else
    match s.distribution with
    | some distribution => distribution.storeBond prim update store
    | none => .ok store false

end Sessions

end Bumble.Smp
