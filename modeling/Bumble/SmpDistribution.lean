import Bumble.SmpPairing

/-!
# Key distribution (`bumble-smp/src/distribution.rs`)

The phase after the link is encrypted: the responder sends the keys it agreed to
send, then the initiator sends its own.
-/

namespace Bumble.Smp

structure LocalKeyMaterial where
  ltk : Octets 16
  ediv : UInt16
  rand : Octets 8
  irk : Octets 16
  identityAddress : Address
  csrk : Octets 16
deriving DecidableEq, Repr

theorem rand_position_lt (i : Fin 8) : i.val + 2 < 16 := by omega

/-- Fresh key material from the next four values of `random_128`. -/
def LocalKeyMaterial.generate (random128 : Nat → Octets 16) (drawn : Nat)
    (identityAddress : Address) : LocalKeyMaterial :=
  let metadata := random128 (drawn + 3)
  { ltk := random128 drawn
    ediv := u16FromLe (metadata.get 0) (metadata.get 1)
    rand := Vector.ofFn fun i => metadata.get ⟨i.val + 2, rand_position_lt i⟩
    irk := random128 (drawn + 1)
    identityAddress
    csrk := random128 (drawn + 2) }

inductive KeyDistributionState where
  | waitEncryption
  | distributing
  | complete
  | failed
deriving DecidableEq, Repr

inductive DistributionKind where
  | encryptionInformation
  | masterIdentification
  | identityInformation
  | identityAddressInformation
  | signingInformation
deriving DecidableEq, Repr

structure KeyDistributionConfig where
  role : PairingRole
  secureConnections : Bool
  ct2 : Bool
  authenticated : Bool
  maximumEncryptionKeySize : UInt8
  pairingLtk : Octets 16
  initiatorKeys : KeyDistribution
  responderKeys : KeyDistribution
  localKeys : LocalKeyMaterial
  peerAddress : Address
deriving DecidableEq, Repr

namespace KeyDistributionConfig

def localFlags (config : KeyDistributionConfig) : KeyDistribution :=
  match config.role with
  | .initiator => config.initiatorKeys
  | .responder => config.responderKeys

def peerFlags (config : KeyDistributionConfig) : KeyDistribution :=
  match config.role with
  | .initiator => config.responderKeys
  | .responder => config.initiatorKeys

def localLtk (config : KeyDistributionConfig) : Octets 16 :=
  truncateKey config.localKeys.ltk config.maximumEncryptionKeySize

/-- The PDUs that carry the local keys, in the order they are sent. -/
def localDistribution (config : KeyDistributionConfig) : List SmpPdu :=
  (if !config.secureConnections && config.localFlags.contains .encryptionKey then
    [.encryptionInformation config.localLtk,
      .masterIdentification config.localKeys.ediv config.localKeys.rand] else []) ++
  (if config.localFlags.contains .identityKey then
    [.identityInformation config.localKeys.irk,
      .identityAddressInformation config.localKeys.identityAddress.addressType
        config.localKeys.identityAddress.addressBytes] else []) ++
  (if config.localFlags.contains .signingKey then
    [.signingInformation config.localKeys.csrk] else [])

end KeyDistributionConfig

def expectedDistributions (secureConnections : Bool) (flags : KeyDistribution) :
    List DistributionKind :=
  (if !secureConnections && flags.contains .encryptionKey then
    [.encryptionInformation, .masterIdentification] else []) ++
  (if flags.contains .identityKey then
    [.identityInformation, .identityAddressInformation] else []) ++
  (if flags.contains .signingKey then [.signingInformation] else [])

structure KeyDistributionSession where
  config : KeyDistributionConfig
  state : KeyDistributionState
  outbound : List SmpPdu
  expected : List DistributionKind
  localSent : Bool
  peerLtk : Option (Octets 16)
  peerEdiv : Option UInt16
  peerRand : Option (Octets 8)
  peerIrk : Option (Octets 16)
  peerIdentityAddress : Option Address
  peerCsrk : Option (Octets 16)
  failure : Option PairingFailureReason
deriving DecidableEq, Repr

namespace KeyDistributionSession

def new (config : KeyDistributionConfig) : KeyDistributionSession where
  config := config
  state := .waitEncryption
  outbound := []
  expected := expectedDistributions config.secureConnections config.peerFlags
  localSent := false
  peerLtk := none
  peerEdiv := none
  peerRand := none
  peerIrk := none
  peerIdentityAddress := none
  peerCsrk := none
  failure := none

def fail (session : KeyDistributionSession) (reason : PairingFailureReason) :
    KeyDistributionSession :=
  { session with
    failure := some reason
    state := .failed
    outbound := session.outbound ++ [.pairingFailed reason.value] }

def distributeLocalKeys (session : KeyDistributionSession) : KeyDistributionSession :=
  if session.localSent then session
  else
    { session with
      outbound := session.outbound ++ session.config.localDistribution, localSent := true }

def peerDistributionComplete (session : KeyDistributionSession) : KeyDistributionSession :=
  let session :=
    if session.config.role = .initiator ∧ !session.localSent then session.distributeLocalKeys
    else session
  { session with state := .complete }

def markEncrypted (session : KeyDistributionSession) : KeyDistributionSession :=
  if session.state ≠ .waitEncryption then session
  else
    let session := { session with state := .distributing }
    let session :=
      if session.config.role = .responder then session.distributeLocalKeys else session
    if session.expected.isEmpty then session.peerDistributionComplete else session

def kindOf : SmpPdu → Option DistributionKind
  | .encryptionInformation _ => some .encryptionInformation
  | .masterIdentification _ _ => some .masterIdentification
  | .identityInformation _ => some .identityInformation
  | .identityAddressInformation _ _ => some .identityAddressInformation
  | .signingInformation _ => some .signingInformation
  | _ => none

def record (session : KeyDistributionSession) : SmpPdu → KeyDistributionSession
  | .encryptionInformation longTermKey => { session with peerLtk := some longTermKey }
  | .masterIdentification ediv rand =>
    { session with peerEdiv := some ediv, peerRand := some rand }
  | .identityInformation identityResolvingKey =>
    { session with peerIrk := some identityResolvingKey }
  | .identityAddressInformation addrType bdAddr =>
    { session with peerIdentityAddress := some ⟨bdAddr, addrType⟩ }
  | .signingInformation signatureKey => { session with peerCsrk := some signatureKey }
  | _ => session

def process (session : KeyDistributionSession) (pdu : SmpPdu) : KeyDistributionSession :=
  if session.state = .failed then session
  else if session.state ≠ .distributing then session.fail .unspecifiedReason
  else
    match pdu with
    | .pairingFailed reason =>
      { session with failure := pairingFailureFromU8 reason, state := .failed }
    | pdu =>
      match kindOf pdu with
      | none => session.fail .unspecifiedReason
      | some kind =>
        if kind ∈ session.expected then
          let session := session.record pdu
          -- the first occurrence of the kind is removed
          let session := { session with expected := session.expected.erase kind }
          if session.expected.isEmpty then session.peerDistributionComplete else session
        else session.fail .unspecifiedReason

def pollOutbound (session : KeyDistributionSession) :
    Option (SmpPdu × KeyDistributionSession) :=
  match session.outbound with
  | [] => none
  | pdu :: outbound => some (pdu, { session with outbound })

end KeyDistributionSession

end Bumble.Smp
