import Bumble.ProfileReader

/-!
# Broadcast Audio Scan Service (`bumble-profiles/src/bass.rs`)

The operations of the control point and the receive state.  Their octets are a format: whether
the code is there depends on the encryption, and the subgroups are counted.
-/

namespace Bumble.Bass

open OctetReader Profiles
open Profiles.Reader (exact_u8 exact_u16 exact_u24 exact_u32 exact_array exact_take finish_iff)
open Smp (Address Octets)

/-! ## 1. Subgroups -/

structure SubgroupInfo where
  bisSync : UInt32
  metadata : Bytes
deriving DecidableEq, Repr

def encodeSubgroup (subgroup : SubgroupInfo) : Except Error Bytes := do
  let metadata ← lengthPrefixed (.invalidValue "BASS subgroup metadata exceeds 255 bytes")
    subgroup.metadata
  pure (u32ToLe subgroup.bisSync ++ metadata)

def encodeSubgroups (subgroups : List SubgroupInfo) : Except Error Bytes :=
  counted (.invalidValue "BASS has over 255 subgroups") encodeSubgroup subgroups

namespace Reader

export Profiles.Reader (u8 u16 u24 u32 array finish)

def address (size : Nat) (name : String) : OctetReader Error Address := do
  let addressType ← u8 size s!"{name} type"
  let bytes ← array size 6 name
  pure ⟨bytes, addressType⟩

def metadata (size : Nat) : OctetReader Error Bytes := do
  let metadataLength ← u8 size "subgroup metadata length"
  Profiles.Reader.take size metadataLength.toNat "subgroup metadata"

def subgroup (size : Nat) : OctetReader Error SubgroupInfo := do
  let bisSync ← u32 size "BIS sync"
  let metadata ← metadata size
  pure ⟨bisSync, metadata⟩

def subgroups (size : Nat) : OctetReader Error (List SubgroupInfo) := do
  let count ← u8 size "subgroup count"
  replicate (subgroup size) count.toNat

end Reader

/-! ## 2. Operations -/

inductive ControlPointOperation where
  | remoteScanStopped
  | remoteScanStarted
  | addSource (advertiserAddress : Address) (advertisingSid : UInt8) (broadcastId : UInt32)
      (paSync : UInt8) (paInterval : UInt16) (subgroups : List SubgroupInfo)
  | modifySource (sourceId paSync : UInt8) (paInterval : UInt16) (subgroups : List SubgroupInfo)
  | setBroadcastCode (sourceId : UInt8) (broadcastCode : Octets 16)
  | removeSource (sourceId : UInt8)
deriving DecidableEq, Repr

namespace ControlPointOperation

def opcode : ControlPointOperation → UInt8
  | remoteScanStopped => 0x00
  | remoteScanStarted => 0x01
  | addSource .. => 0x02
  | modifySource .. => 0x03
  | setBroadcastCode .. => 0x04
  | removeSource _ => 0x05

def parameters : ControlPointOperation → Except Error Bytes
  | remoteScanStopped | remoteScanStarted => .ok []
  | addSource advertiserAddress advertisingSid broadcastId paSync paInterval subgroups => do
    requireU24 "broadcast ID" broadcastId
    let subgroups ← encodeSubgroups subgroups
    pure ([advertiserAddress.addressType] ++ (advertiserAddress.addressBytes.toList ++
      ([advertisingSid] ++
        (u24ToLe broadcastId ++ ([paSync] ++ (u16ToLe paInterval ++ subgroups))))))
  | modifySource sourceId paSync paInterval subgroups => do
    let subgroups ← encodeSubgroups subgroups
    pure ([sourceId] ++ ([paSync] ++ (u16ToLe paInterval ++ subgroups)))
  | setBroadcastCode sourceId broadcastCode => .ok ([sourceId] ++ broadcastCode.toList)
  | removeSource sourceId => .ok [sourceId]

def toBytes (operation : ControlPointOperation) : Except Error Bytes := do
  let parameters ← operation.parameters
  pure ([operation.opcode] ++ parameters)

def readParameters (size : Nat) (opcode : UInt8) : OctetReader Error ControlPointOperation :=
  if opcode = 0x00 then pure remoteScanStopped
  else if opcode = 0x01 then pure remoteScanStarted
  else if opcode = 0x02 then do
    let advertiserAddress ← Reader.address size "advertiser address"
    let advertisingSid ← Reader.u8 size "advertising SID"
    let broadcastId ← Reader.u24 size "broadcast ID"
    let paSync ← Reader.u8 size "PA sync"
    let paInterval ← Reader.u16 size "PA interval"
    let subgroups ← Reader.subgroups size
    pure (addSource advertiserAddress advertisingSid broadcastId paSync paInterval subgroups)
  else if opcode = 0x03 then do
    let sourceId ← Reader.u8 size "source ID"
    let paSync ← Reader.u8 size "PA sync"
    let paInterval ← Reader.u16 size "PA interval"
    let subgroups ← Reader.subgroups size
    pure (modifySource sourceId paSync paInterval subgroups)
  else if opcode = 0x04 then do
    let sourceId ← Reader.u8 size "source ID"
    let broadcastCode ← Reader.array size 16 "broadcast code"
    pure (setBroadcastCode sourceId broadcastCode)
  else if opcode = 0x05 then do
    let sourceId ← Reader.u8 size "source ID"
    pure (removeSource sourceId)
  else fail (.invalidValue s!"unknown BASS opcode 0x{hexUpper 2 opcode.toNat}")

def fromBytes (data : Bytes) : Except Error ControlPointOperation :=
  Reader.finish (do
    let opcode ← Reader.u8 data.length "BASS opcode"
    readParameters data.length opcode) "BASS control-point operation" data

end ControlPointOperation

/-! ## 3. The receive state -/

def badCodeEncryption : UInt8 := 0x03

structure BroadcastReceiveState where
  sourceId : UInt8
  sourceAddress : Address
  sourceAdvSid : UInt8
  broadcastId : UInt32
  paSyncState : UInt8
  bigEncryption : UInt8
  badCode : Option (Octets 16)
  subgroups : List SubgroupInfo
deriving DecidableEq, Repr

namespace BroadcastReceiveState

/-- The code, which stands there exactly if the encryption says so. -/
def encodeBadCode (bigEncryption : UInt8) (badCode : Option (Octets 16)) : Except Error Bytes :=
  match badCode with
  | none =>
    if bigEncryption = badCodeEncryption then
      .error (.invalidValue "BAD_CODE receive state omits its 16-byte code")
    else .ok []
  | some code =>
    if bigEncryption ≠ badCodeEncryption then
      .error (.invalidValue "broadcast code is only valid for BAD_CODE receive state")
    else .ok code.toList

def toBytes (state : BroadcastReceiveState) : Except Error Bytes := do
  requireU24 "broadcast ID" state.broadcastId
  let badCode ← encodeBadCode state.bigEncryption state.badCode
  let subgroups ← encodeSubgroups state.subgroups
  pure ([state.sourceId] ++ ([state.sourceAddress.addressType] ++
    (state.sourceAddress.addressBytes.toList ++ ([state.sourceAdvSid] ++
      (u24ToLe state.broadcastId ++ ([state.paSyncState] ++ ([state.bigEncryption] ++
        (badCode ++ subgroups))))))))

def readBadCode (size : Nat) (bigEncryption : UInt8) : OctetReader Error (Option (Octets 16)) :=
  if bigEncryption = badCodeEncryption then do
    let code ← Reader.array size 16 "bad broadcast code"
    pure (some code)
  else pure none

def reader (size : Nat) : OctetReader Error BroadcastReceiveState := do
  let sourceId ← Reader.u8 size "source ID"
  let sourceAddress ← Reader.address size "source address"
  let sourceAdvSid ← Reader.u8 size "source advertising SID"
  let broadcastId ← Reader.u24 size "broadcast ID"
  let paSyncState ← Reader.u8 size "PA sync state"
  let bigEncryption ← Reader.u8 size "BIG encryption"
  let badCode ← readBadCode size bigEncryption
  let subgroups ← Reader.subgroups size
  pure ⟨sourceId, sourceAddress, sourceAdvSid, broadcastId, paSyncState, bigEncryption, badCode,
    subgroups⟩

def fromBytes (data : Bytes) : Except Error BroadcastReceiveState :=
  Reader.finish (reader data.length) "broadcast receive state" data

end BroadcastReceiveState

/-! ## 4. The formats -/

theorem exact_address (size : Nat) (name : String) :
    Exact (Reader.address size name) fun address octets =>
      octets = [address.addressType] ++ address.addressBytes.toList := by
  refine ((exact_u8 size _).bind fun addressType => (exact_array size name 6).map _).congr ?_
  intro address octets
  constructor
  · rintro ⟨addressType, _, _, rfl, ⟨bytes, rfl, rfl⟩, rfl⟩
    rfl
  · rintro rfl
    exact ⟨address.addressType, _, _, rfl, ⟨address.addressBytes, rfl, rfl⟩, rfl⟩

theorem exact_subgroup (size : Nat) :
    Exact (Reader.subgroup size) fun subgroup octets => encodeSubgroup subgroup = .ok octets := by
  have hmetadata : Exact (Reader.metadata size) LengthPrefixed :=
    exact_lengthPrefixed (exact_u8 size _) fun count => exact_take size _ count
  refine ((exact_u32 size _).bind fun bisSync => hmetadata.map _).congr ?_
  intro subgroup octets
  rw [encodeSubgroup, bind_eq_ok_iff]
  simp only [lengthPrefixed_eq_ok]
  constructor
  · rintro ⟨bisSync, _, _, rfl, ⟨metadata, hmetadata, rfl⟩, rfl⟩
    exact ⟨_, hmetadata, rfl⟩
  · rintro ⟨metadata, hmetadata, hoctets⟩
    cases hoctets
    exact ⟨subgroup.bisSync, _, metadata, rfl, ⟨subgroup.metadata, hmetadata, rfl⟩, rfl⟩

theorem exact_subgroups (size : Nat) :
    Exact (Reader.subgroups size) fun subgroups octets =>
      encodeSubgroups subgroups = .ok octets := by
  refine (exact_counted (exact_u8 size _) (exact_subgroup size)).congr ?_
  intro subgroups octets
  exact counted_eq_ok.symm

namespace ControlPointOperation

/-- What stands for an operation behind its opcode. -/
def Stands (opcode : UInt8) (operation : ControlPointOperation) (octets : Bytes) : Prop :=
  operation.opcode = opcode ∧ operation.parameters = .ok octets

theorem exact_addSource (size : Nat) :
    Exact (do
      let advertiserAddress ← Reader.address size "advertiser address"
      let advertisingSid ← Reader.u8 size "advertising SID"
      let broadcastId ← Reader.u24 size "broadcast ID"
      let paSync ← Reader.u8 size "PA sync"
      let paInterval ← Reader.u16 size "PA interval"
      let subgroups ← Reader.subgroups size
      pure (addSource advertiserAddress advertisingSid broadcastId paSync paInterval subgroups))
      (Stands 0x02) := by
  refine ((exact_address size _).bind fun advertiserAddress => (exact_u8 size _).bind
    fun advertisingSid => (exact_u24 size _).bind fun broadcastId => (exact_u8 size _).bind
    fun paSync => (exact_u16 size _).bind fun paInterval => (exact_subgroups size).map _).congr ?_
  intro operation octets
  constructor
  · rintro ⟨advertiserAddress, _, _, rfl, ⟨advertisingSid, _, _, rfl, ⟨broadcastId, _, _,
      ⟨hbroadcast, rfl⟩, ⟨paSync, _, _, rfl, ⟨paInterval, _, _, rfl, ⟨subgroups, hsubgroups, rfl⟩,
      rfl⟩, rfl⟩, rfl⟩, rfl⟩, rfl⟩
    refine ⟨rfl, ?_⟩
    rw [parameters, requireU24_eq_ok.mpr hbroadcast, hsubgroups]
    rfl
  · rintro ⟨hopcode, hparameters⟩
    cases operation with
    | addSource advertiserAddress advertisingSid broadcastId paSync paInterval subgroups =>
      obtain ⟨⟨⟩, hbroadcast, hparameters⟩ := except_bind_eq_ok hparameters
      obtain ⟨encoded, hsubgroups, hparameters⟩ := except_bind_eq_ok hparameters
      cases hparameters
      exact ⟨advertiserAddress, _, _, rfl, ⟨advertisingSid, _, _, rfl, ⟨broadcastId, _, _,
        ⟨requireU24_eq_ok.mp hbroadcast, rfl⟩, ⟨paSync, _, _, rfl, ⟨paInterval, _, _, rfl,
        ⟨subgroups, hsubgroups, rfl⟩, rfl⟩, rfl⟩, rfl⟩, rfl⟩, rfl⟩
    | _ => cases hopcode

theorem exact_modifySource (size : Nat) :
    Exact (do
      let sourceId ← Reader.u8 size "source ID"
      let paSync ← Reader.u8 size "PA sync"
      let paInterval ← Reader.u16 size "PA interval"
      let subgroups ← Reader.subgroups size
      pure (modifySource sourceId paSync paInterval subgroups)) (Stands 0x03) := by
  refine ((exact_u8 size _).bind fun sourceId => (exact_u8 size _).bind fun paSync =>
    (exact_u16 size _).bind fun paInterval => (exact_subgroups size).map _).congr ?_
  intro operation octets
  constructor
  · rintro ⟨sourceId, _, _, rfl, ⟨paSync, _, _, rfl, ⟨paInterval, _, _, rfl,
      ⟨subgroups, hsubgroups, rfl⟩, rfl⟩, rfl⟩, rfl⟩
    refine ⟨rfl, ?_⟩
    rw [parameters, hsubgroups]
    rfl
  · rintro ⟨hopcode, hparameters⟩
    cases operation with
    | modifySource sourceId paSync paInterval subgroups =>
      obtain ⟨encoded, hsubgroups, hparameters⟩ := except_bind_eq_ok hparameters
      cases hparameters
      exact ⟨sourceId, _, _, rfl, ⟨paSync, _, _, rfl, ⟨paInterval, _, _, rfl,
        ⟨subgroups, hsubgroups, rfl⟩, rfl⟩, rfl⟩, rfl⟩
    | _ => cases hopcode

theorem exact_setBroadcastCode (size : Nat) :
    Exact (do
      let sourceId ← Reader.u8 size "source ID"
      let broadcastCode ← Reader.array size 16 "broadcast code"
      pure (setBroadcastCode sourceId broadcastCode)) (Stands 0x04) := by
  refine ((exact_u8 size _).bind fun sourceId => (exact_array size _ 16).map _).congr ?_
  intro operation octets
  constructor
  · rintro ⟨sourceId, _, _, rfl, ⟨broadcastCode, rfl, rfl⟩, rfl⟩
    exact ⟨rfl, rfl⟩
  · rintro ⟨hopcode, hparameters⟩
    cases operation with
    | setBroadcastCode sourceId broadcastCode =>
      cases hparameters
      exact ⟨sourceId, _, _, rfl, ⟨broadcastCode, rfl, rfl⟩, rfl⟩
    | _ => cases hopcode

theorem exact_removeSource (size : Nat) :
    Exact (do
      let sourceId ← Reader.u8 size "source ID"
      pure (removeSource sourceId)) (Stands 0x05) := by
  refine ((exact_u8 size _).map _).congr ?_
  intro operation octets
  constructor
  · rintro ⟨sourceId, rfl, rfl⟩
    exact ⟨rfl, rfl⟩
  · rintro ⟨hopcode, hparameters⟩
    cases operation with
    | removeSource sourceId =>
      cases hparameters
      exact ⟨sourceId, rfl, rfl⟩
    | _ => cases hopcode

theorem exact_readParameters (size : Nat) (opcode : UInt8) :
    Exact (readParameters size opcode) (Stands opcode) := by
  unfold readParameters
  split
  · next heq =>
    refine (exact_pure _).congr fun operation octets => ⟨?_, ?_⟩
    · rintro ⟨rfl, rfl⟩
      exact ⟨heq.symm, rfl⟩
    · rintro ⟨hopcode, hparameters⟩
      rw [heq] at hopcode
      cases operation <;> cases hopcode
      cases hparameters
      exact ⟨rfl, rfl⟩
  split
  · next heq =>
    refine (exact_pure _).congr fun operation octets => ⟨?_, ?_⟩
    · rintro ⟨rfl, rfl⟩
      exact ⟨heq.symm, rfl⟩
    · rintro ⟨hopcode, hparameters⟩
      rw [heq] at hopcode
      cases operation <;> cases hopcode
      cases hparameters
      exact ⟨rfl, rfl⟩
  split
  · next heq => exact heq ▸ exact_addSource size
  split
  · next heq => exact heq ▸ exact_modifySource size
  split
  · next heq => exact heq ▸ exact_setBroadcastCode size
  split
  · next heq => exact heq ▸ exact_removeSource size
  · next hstopped hstarted hadd hmodify hcode hremove =>
    refine (exact_fail _).congr fun operation octets => ⟨False.elim, ?_⟩
    rintro ⟨rfl, -⟩
    cases operation with
    | remoteScanStopped => exact hstopped rfl
    | remoteScanStarted => exact hstarted rfl
    | addSource => exact hadd rfl
    | modifySource => exact hmodify rfl
    | setBroadcastCode => exact hcode rfl
    | removeSource => exact hremove rfl

/-- **Operations.**  The octets that are read as an operation are those it is written as. -/
theorem fromBytes_iff (data : Bytes) (operation : ControlPointOperation) :
    fromBytes data = .ok operation ↔ operation.toBytes = .ok data := by
  have hexact := (exact_u8 data.length "BASS opcode").bind (exact_readParameters data.length)
  rw [fromBytes, finish_iff _ hexact, toBytes, bind_eq_ok_iff]
  constructor
  · rintro ⟨opcode, _, parameters, rfl, ⟨rfl, hparameters⟩, rfl⟩
    exact ⟨parameters, hparameters, rfl⟩
  · rintro ⟨parameters, hparameters, hdata⟩
    cases hdata
    exact ⟨operation.opcode, _, parameters, rfl, ⟨rfl, hparameters⟩, rfl⟩

end ControlPointOperation

namespace BroadcastReceiveState

theorem exact_readBadCode (size : Nat) (bigEncryption : UInt8) :
    Exact (readBadCode size bigEncryption) fun badCode octets =>
      encodeBadCode bigEncryption badCode = .ok octets := by
  unfold readBadCode
  split
  · next heq =>
    refine ((exact_array size _ 16).map _).congr fun badCode octets => ⟨?_, ?_⟩
    · rintro ⟨code, rfl, rfl⟩
      exact if_neg (not_not_intro heq)
    · intro hencode
      cases badCode with
      | none =>
        rw [encodeBadCode, if_pos heq] at hencode
        cases hencode
      | some code =>
        rw [encodeBadCode, if_neg (not_not_intro heq)] at hencode
        cases hencode
        exact ⟨code, rfl, rfl⟩
  · next hne =>
    refine (exact_pure _).congr fun badCode octets => ⟨?_, ?_⟩
    · rintro ⟨rfl, rfl⟩
      exact if_neg hne
    · intro hencode
      cases badCode with
      | none =>
        rw [encodeBadCode, if_neg hne] at hencode
        cases hencode
        exact ⟨rfl, rfl⟩
      | some code =>
        rw [encodeBadCode, if_pos hne] at hencode
        cases hencode

theorem exact_reader (size : Nat) :
    Exact (reader size) fun state octets => state.toBytes = .ok octets := by
  refine ((exact_u8 size _).bind fun sourceId => (exact_address size _).bind
    fun sourceAddress => (exact_u8 size _).bind fun sourceAdvSid => (exact_u24 size _).bind
    fun broadcastId => (exact_u8 size _).bind fun paSyncState => (exact_u8 size _).bind
    fun bigEncryption => (exact_readBadCode size bigEncryption).bind
    fun badCode => (exact_subgroups size).map _).congr ?_
  intro state octets
  constructor
  · rintro ⟨sourceId, _, _, rfl, ⟨sourceAddress, _, _, rfl, ⟨sourceAdvSid, _, _, rfl,
      ⟨broadcastId, _, _, ⟨hbroadcast, rfl⟩, ⟨paSyncState, _, _, rfl, ⟨bigEncryption, _, _, rfl,
      ⟨badCode, _, _, hcode, ⟨subgroups, hsubgroups, rfl⟩, rfl⟩, rfl⟩, rfl⟩, rfl⟩, rfl⟩, rfl⟩, rfl⟩
    rw [toBytes, requireU24_eq_ok.mpr hbroadcast, hcode, hsubgroups]
    rfl
  · intro hbytes
    obtain ⟨⟨⟩, hbroadcast, hbytes⟩ := except_bind_eq_ok hbytes
    obtain ⟨code, hcode, hbytes⟩ := except_bind_eq_ok hbytes
    obtain ⟨encoded, hsubgroups, hbytes⟩ := except_bind_eq_ok hbytes
    cases hbytes
    exact ⟨state.sourceId, _, _, rfl, ⟨state.sourceAddress, _, _, rfl,
      ⟨state.sourceAdvSid, _, _, rfl, ⟨state.broadcastId, _, _,
      ⟨requireU24_eq_ok.mp hbroadcast, rfl⟩, ⟨state.paSyncState, _, _, rfl,
      ⟨state.bigEncryption, _, _, rfl, ⟨state.badCode, code, encoded, hcode,
      ⟨state.subgroups, hsubgroups, rfl⟩, rfl⟩, rfl⟩, rfl⟩, rfl⟩, rfl⟩, rfl⟩, rfl⟩

theorem fromBytes_iff (data : Bytes) (state : BroadcastReceiveState) :
    fromBytes data = .ok state ↔ state.toBytes = .ok data := by
  rw [fromBytes, finish_iff _ (exact_reader data.length)]

theorem badCode_of_toBytes {state : BroadcastReceiveState} {octets : Bytes}
    (hbytes : state.toBytes = .ok octets) :
    state.badCode.isSome ↔ state.bigEncryption = badCodeEncryption := by
  obtain ⟨⟨⟩, -, hbytes⟩ := except_bind_eq_ok hbytes
  obtain ⟨code, hcode, -⟩ := except_bind_eq_ok hbytes
  unfold encodeBadCode at hcode
  split at hcode
  · next hnone =>
    split at hcode
    · cases hcode
    · next hne =>
      rw [hnone]
      exact ⟨nofun, fun heq => absurd heq hne⟩
  · next hsome =>
    split at hcode
    · cases hcode
    · next heq =>
      rw [hsome]
      exact ⟨fun _ => not_not.mp heq, fun _ => rfl⟩

end BroadcastReceiveState

/-- **The wire models of BASS.**  What is accepted is written again as the same octets, what is
    written is read again as the same value, and a receive state has a code exactly if its
    encryption is the one for a bad code. -/
theorem bass_codecs_inverse :
    (∀ (data : Bytes) (operation : ControlPointOperation),
      ControlPointOperation.fromBytes data = .ok operation ↔ operation.toBytes = .ok data) ∧
    (∀ (data : Bytes) (state : BroadcastReceiveState),
      BroadcastReceiveState.fromBytes data = .ok state ↔ state.toBytes = .ok data) ∧
    ∀ (data : Bytes) (state : BroadcastReceiveState),
      BroadcastReceiveState.fromBytes data = .ok state →
        (state.badCode.isSome ↔ state.bigEncryption = badCodeEncryption) := by
  refine ⟨ControlPointOperation.fromBytes_iff, BroadcastReceiveState.fromBytes_iff, ?_⟩
  intro data state hread
  exact BroadcastReceiveState.badCode_of_toBytes
    ((BroadcastReceiveState.fromBytes_iff data state).mp hread)

/-- A receive state with a bad code and two subgroups, one with metadata. -/
def badCodeState : BroadcastReceiveState where
  sourceId := 1
  sourceAddress := ⟨#v[1, 2, 3, 4, 5, 6], 0⟩
  sourceAdvSid := 2
  broadcastId := 0x030201
  paSyncState := 2
  bigEncryption := badCodeEncryption
  badCode := some (Vector.replicate 16 0xAA)
  subgroups := [⟨1, [2, 4]⟩, ⟨0xFFFFFFFF, []⟩]

def badCodeOctets : Bytes :=
  [1, 0, 1, 2, 3, 4, 5, 6, 2, 1, 2, 3, 2, 3] ++ List.replicate 16 0xAA ++
    [2, 1, 0, 0, 0, 2, 2, 4, 0xFF, 0xFF, 0xFF, 0xFF, 0]

theorem badCodeState_read :
    badCodeState.toBytes = .ok badCodeOctets ∧
      (badCodeState.badCode.isSome ↔ badCodeState.bigEncryption = badCodeEncryption) := by
  have hread : BroadcastReceiveState.fromBytes badCodeOctets = .ok badCodeState := by decide
  obtain ⟨-, hstates, hcoded⟩ := bass_codecs_inverse
  exact ⟨(hstates _ _).mp hread, hcoded _ _ hread⟩

end Bumble.Bass
