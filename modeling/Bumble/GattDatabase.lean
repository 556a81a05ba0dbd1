import Bumble.AttPdu
import Bumble.OrderedMap
import Bumble.Outcome

/-!
# The attribute database of a GATT server (`bumble-gatt/src/lib.rs`)

The definitions of services are laid out twice: once to know where each service
begins and ends, and once to make the attributes.  The attributes of every server
stand in the order of their handles.
-/

namespace Bumble.Gatt

/-! ## 1. Permissions -/

def attInvalidPduError : UInt8 := 0x04
def attReadNotPermittedError : UInt8 := 0x02
def attWriteNotPermittedError : UInt8 := 0x03
def attInsufficientAuthenticationError : UInt8 := 0x05
def attRequestNotSupportedError : UInt8 := 0x06
def attInvalidOffsetError : UInt8 := 0x07
def attInsufficientAuthorizationError : UInt8 := 0x08
def attAttributeNotFoundError : UInt8 := 0x0A
def attAttributeNotLongError : UInt8 := 0x0B
def attInsufficientEncryptionError : UInt8 := 0x0F

namespace Permissions

def readable : UInt8 := 0x01
def writeable : UInt8 := 0x02
def readRequiresEncryption : UInt8 := 0x04
def writeRequiresEncryption : UInt8 := 0x08
def readRequiresAuthentication : UInt8 := 0x10
def writeRequiresAuthentication : UInt8 := 0x20
def readRequiresAuthorization : UInt8 := 0x40
def writeRequiresAuthorization : UInt8 := 0x80

end Permissions

namespace Properties

def notify : UInt8 := 0x10
def indicate : UInt8 := 0x20

end Properties

/-- What a bearer's link offers when a request arrives on it. -/
structure AccessContext where
  bearerId : UInt64
  encrypted : Bool
  authenticated : Bool
  authorized : Bool
deriving DecidableEq, Repr

/-- The bits of one kind of access, and the error when none of them is set. -/
structure AccessBits where
  allowed : UInt8
  encryption : UInt8
  authentication : UInt8
  authorization : UInt8
  notPermitted : UInt8

/-- Some bit of `permissions` is among `bits`. -/
def hasAny (permissions bits : UInt8) : Bool := permissions &&& bits != 0

def checkAccess (bits : AccessBits) (permissions : UInt8) (context : AccessContext) :
    Except UInt8 Unit :=
  if !hasAny permissions
      (bits.allowed ||| bits.encryption ||| bits.authentication ||| bits.authorization) then
    .error bits.notPermitted
  else if hasAny permissions bits.encryption && !context.encrypted then
    .error attInsufficientEncryptionError
  else if hasAny permissions bits.authentication && !context.authenticated then
    .error attInsufficientAuthenticationError
  else if hasAny permissions bits.authorization && !context.authorized then
    .error attInsufficientAuthorizationError
  else .ok ()

def checkReadAccess : UInt8 → AccessContext → Except UInt8 Unit :=
  checkAccess ⟨Permissions.readable, Permissions.readRequiresEncryption,
    Permissions.readRequiresAuthentication, Permissions.readRequiresAuthorization,
    attReadNotPermittedError⟩

def checkWriteAccess : UInt8 → AccessContext → Except UInt8 Unit :=
  checkAccess ⟨Permissions.writeable, Permissions.writeRequiresEncryption,
    Permissions.writeRequiresAuthentication, Permissions.writeRequiresAuthorization,
    attWriteNotPermittedError⟩

/-! ## 2. Attributes -/

/-- What answers for a value: the server's own map of subscriptions, or callbacks. -/
inductive DynamicValue where
  | cccd (valueHandle : UInt16)
  | callbacks (read : Option (AccessContext → Except UInt8 Bytes))
      (write : Option (AccessContext → Bytes → Except UInt8 Unit))

structure Attribute where
  handle : UInt16
  typeUuid : Uuid
  /-- For a service declaration the last handle of the group, otherwise the own handle. -/
  endGroupHandle : UInt16
  permissions : UInt8
  value : Bytes
  dynamicValue : Option DynamicValue

/-- Client Characteristic Configuration bits by bearer and value handle. -/
abbrev Subscriptions := UInt64 → UInt16 → Option UInt16

/-- The reads of a `cccd_value`. -/
def Subscriptions.bits (subscriptions : Subscriptions) (bearerId : UInt64) (valueHandle : UInt16) :
    UInt16 := (subscriptions bearerId valueHandle).getD 0

def Subscriptions.put (subscriptions : Subscriptions) (bearerId : UInt64) (valueHandle : UInt16)
    (bits : Option UInt16) : Subscriptions :=
  fun bearer handle =>
    if bearer = bearerId ∧ handle = valueHandle then bits else subscriptions bearer handle

def DynamicValue.read (subscriptions : Subscriptions) (context : AccessContext) :
    DynamicValue → Except UInt8 Bytes
  | cccd valueHandle => .ok (u16ToLe (subscriptions.bits context.bearerId valueHandle))
  | callbacks (some read) _ => read context
  | callbacks none _ => .error attReadNotPermittedError

/-- A write; a configuration that has not two octets is accepted and forgotten. -/
def DynamicValue.write (subscriptions : Subscriptions) (context : AccessContext) (value : Bytes) :
    DynamicValue → Except UInt8 Subscriptions
  | cccd valueHandle =>
    match value with
    | [low, high] =>
      let bits := u16FromLe low high
      .ok (subscriptions.put context.bearerId valueHandle (if bits = 0 then none else some bits))
    | _ => .ok subscriptions
  | callbacks _ (some write) => (write context value).map fun _ => subscriptions
  | callbacks _ none => .error attWriteNotPermittedError

def Attribute.readValue (subscriptions : Subscriptions) (context : AccessContext)
    (attr : Attribute) : Except UInt8 Bytes :=
  match attr.dynamicValue with
  | some dynamic => dynamic.read subscriptions context
  | none => .ok attr.value

/-! ## 3. Definitions -/

structure DescriptorDefinition where
  uuid : Uuid
  permissions : UInt8
  value : Bytes

structure CharacteristicDefinition where
  uuid : Uuid
  properties : UInt8
  permissions : UInt8
  value : Bytes
  descriptors : List DescriptorDefinition

structure ServiceDefinition where
  uuid : Uuid
  isPrimary : Bool
  includedServices : List Nat
  characteristics : List CharacteristicDefinition

inductive DatabaseError where
  | invalidIncludedService (service included : Nat)
  | unknownAttribute (handle : UInt16)
  | tooManyAttributes
deriving DecidableEq, Repr

def gattPrimaryServiceUuid : Uuid := .from16Bits 0x2800
def gattSecondaryServiceUuid : Uuid := .from16Bits 0x2801
def gattIncludeUuid : Uuid := .from16Bits 0x2802
def gattCharacteristicUuid : Uuid := .from16Bits 0x2803
def gattClientCharacteristicConfigurationUuid : Uuid := .from16Bits 0x2902

/-- A notifying or indicating characteristic without a configuration descriptor gets one. -/
def CharacteristicDefinition.addsCccd (characteristic : CharacteristicDefinition) : Bool :=
  hasAny characteristic.properties (Properties.notify ||| Properties.indicate) &&
    !characteristic.descriptors.any fun descriptor =>
      descriptor.uuid.same gattClientCharacteristicConfigurationUuid

structure Layout where
  start : UInt16
  last : UInt16

def ServiceDefinition.count (service : ServiceDefinition) : Nat :=
  1 + service.includedServices.length + (service.characteristics.map fun characteristic =>
    2 + characteristic.descriptors.length + characteristic.addsCccd.toNat).sum

/-- The layouts of the services from `nextHandle` on. -/
def layoutsFrom : Nat → List ServiceDefinition → Except DatabaseError (List Layout)
  | _, [] => .ok []
  | nextHandle, service :: services => do
    let last := nextHandle + (service.count - 1)
    if last > 65535 then throw .tooManyAttributes
    let layouts ← layoutsFrom (last + 1) services
    return ⟨UInt16.ofNat nextHandle, UInt16.ofNat last⟩ :: layouts

/-- The first inclusion of a service that does not exist. -/
def missingInclusion (services : List ServiceDefinition) : Option DatabaseError :=
  (services.zipIdx.flatMap fun (service, index) =>
    service.includedServices.map fun included => (index, included)).findSome?
      fun (index, included) =>
      if included ≥ services.length then some (.invalidIncludedService index included) else none

def declaration (handle : Nat) (typeUuid : Uuid) (endGroupHandle : UInt16) (value : Bytes) :
    Attribute where
  handle := UInt16.ofNat handle
  typeUuid := typeUuid
  endGroupHandle := endGroupHandle
  permissions := Permissions.readable
  value := value
  dynamicValue := none

def includeAttribute (services : List ServiceDefinition) (layouts : List Layout) (handle : Nat)
    (included : Nat) : Attribute :=
  let layout := layouts.getD included ⟨0, 0⟩
  let uuid := (services[included]?.map fun service => service.uuid.toBytes false).getD []
  declaration handle gattIncludeUuid (UInt16.ofNat handle)
    (u16ToLe layout.start ++ u16ToLe layout.last ++ if uuid.length = 2 then uuid else [])

def descriptorAttribute (valueHandle : UInt16) (handle : Nat) (descriptor : DescriptorDefinition) :
    Attribute where
  handle := UInt16.ofNat handle
  typeUuid := descriptor.uuid
  endGroupHandle := UInt16.ofNat handle
  permissions := descriptor.permissions
  value := descriptor.value
  dynamicValue :=
    if descriptor.uuid.same gattClientCharacteristicConfigurationUuid then some (.cccd valueHandle)
    else none

def cccdAttribute (valueHandle : UInt16) (handle : Nat) : Attribute where
  handle := UInt16.ofNat handle
  typeUuid := gattClientCharacteristicConfigurationUuid
  endGroupHandle := UInt16.ofNat handle
  permissions := Permissions.readable ||| Permissions.writeable
  value := [0, 0]
  dynamicValue := some (.cccd valueHandle)

/-- The attributes of a list of parts, each with the handles that follow those of the parts
    before it. -/
def placeAll {α : Type} (place : Nat → α → List Attribute) : Nat → List α → List Attribute
  | _, [] => []
  | handle, part :: parts =>
    let attributes := place handle part
    attributes ++ placeAll place (handle + attributes.length) parts

def characteristicAttributes (handle : Nat) (characteristic : CharacteristicDefinition) :
    List Attribute :=
  let valueHandle := UInt16.ofNat (handle + 1)
  let descriptors := placeAll (fun handle descriptor =>
    [descriptorAttribute valueHandle handle descriptor]) (handle + 2) characteristic.descriptors
  declaration handle gattCharacteristicUuid (UInt16.ofNat handle)
      (characteristic.properties :: (u16ToLe valueHandle ++ characteristic.uuid.toBytes false)) ::
    { handle := valueHandle, typeUuid := characteristic.uuid, endGroupHandle := valueHandle,
      permissions := characteristic.permissions, value := characteristic.value,
      dynamicValue := none } ::
    (descriptors ++
      if characteristic.addsCccd then [cccdAttribute valueHandle (handle + 2 + descriptors.length)]
      else [])

def serviceAttributes (services : List ServiceDefinition) (layouts : List Layout) (handle : Nat)
    (part : ServiceDefinition × Layout) : List Attribute :=
  let (service, layout) := part
  let includes := placeAll
    (fun handle included => [includeAttribute services layouts handle included])
    (handle + 1) service.includedServices
  declaration handle
    (if service.isPrimary then gattPrimaryServiceUuid else gattSecondaryServiceUuid)
      layout.last (service.uuid.toBytes false) ::
    (includes ++ placeAll characteristicAttributes (handle + 1 + includes.length)
      service.characteristics)

/-! ## 4. The order of the handles -/

/-- The handles of the attributes count up from `handle`. -/
def Sequential (handle : Nat) (attributes : List Attribute) : Prop :=
  attributes.map Attribute.handle = (List.range' handle attributes.length).map UInt16.ofNat

theorem sequential_nil (handle : Nat) : Sequential handle [] := rfl

theorem Sequential.append {handle : Nat} {first later : List Attribute}
    (hfirst : Sequential handle first) (hlater : Sequential (handle + first.length) later) :
    Sequential handle (first ++ later) := by
  rw [Sequential, List.map_append, hfirst, hlater, List.length_append, ← List.map_append,
    List.range'_append_1]

theorem sequential_singleton {handle : Nat} {attr : Attribute}
    (hattr : attr.handle = UInt16.ofNat handle) : Sequential handle [attr] :=
  congrArg (fun first => [first]) hattr

theorem Sequential.cons {handle : Nat} {attr : Attribute} {attributes : List Attribute}
    (hattr : attr.handle = UInt16.ofNat handle) (hlater : Sequential (handle + 1) attributes) :
    Sequential handle (attr :: attributes) :=
  (sequential_singleton hattr).append hlater

theorem sequential_placeAll {α : Type} {place : Nat → α → List Attribute}
    (hplace : ∀ handle part, Sequential handle (place handle part)) (parts : List α) :
    ∀ handle, Sequential handle (placeAll place handle parts) := by
  induction parts with
  | nil => exact sequential_nil
  | cons part parts ih =>
    intro handle
    exact (hplace handle part).append (ih _)

theorem length_placeAll {α : Type} {place : Nat → α → List Attribute} {size : α → Nat}
    (hsize : ∀ handle part, (place handle part).length = size part) (parts : List α) :
    ∀ handle, (placeAll place handle parts).length = (parts.map size).sum := by
  induction parts with
  | nil =>
    intro handle
    rfl
  | cons part parts ih =>
    intro handle
    rw [placeAll, List.length_append, hsize, ih, List.map_cons, List.sum_cons]

theorem length_placeAll_singleton {α : Type} (place : Nat → α → Attribute) (parts : List α)
    (handle : Nat) : (placeAll (fun handle part => [place handle part]) handle parts).length =
      parts.length := by
  rw [@length_placeAll α _ (fun _ => 1) (fun _ _ => rfl)]
  simp

theorem sequential_characteristic (handle : Nat) (characteristic : CharacteristicDefinition) :
    Sequential handle (characteristicAttributes handle characteristic) := by
  refine Sequential.cons rfl (Sequential.cons rfl (Sequential.append ?_ ?_))
  · exact sequential_placeAll (fun handle descriptor => sequential_singleton rfl) _ _
  · split
    · exact sequential_singleton rfl
    · exact sequential_nil _

theorem length_characteristic (handle : Nat) (characteristic : CharacteristicDefinition) :
    (characteristicAttributes handle characteristic).length =
      2 + characteristic.descriptors.length + characteristic.addsCccd.toNat := by
  rw [characteristicAttributes]
  rw [List.length_cons, List.length_cons, List.length_append, length_placeAll_singleton]
  cases characteristic.addsCccd <;> simp <;> omega

theorem sequential_service (services : List ServiceDefinition) (layouts : List Layout)
    (handle : Nat) (part : ServiceDefinition × Layout) :
    Sequential handle (serviceAttributes services layouts handle part) := by
  refine Sequential.cons rfl (Sequential.append ?_ ?_)
  · exact sequential_placeAll (fun handle included => sequential_singleton rfl) _ _
  · exact sequential_placeAll sequential_characteristic _ _

theorem length_service (services : List ServiceDefinition) (layouts : List Layout) (handle : Nat)
    (part : ServiceDefinition × Layout) :
    (serviceAttributes services layouts handle part).length = part.1.count := by
  rw [serviceAttributes, ServiceDefinition.count]
  rw [List.length_cons, List.length_append, length_placeAll_singleton,
    length_placeAll length_characteristic]
  omega

theorem layoutsFrom_bounded (services : List ServiceDefinition) : ∀ {nextHandle : Nat}
    {layouts : List Layout}, layoutsFrom nextHandle services = .ok layouts → nextHandle ≤ 65536 →
    layouts.length = services.length ∧
      nextHandle + (services.map ServiceDefinition.count).sum ≤ 65536 := by
  induction services with
  | nil =>
    intro nextHandle layouts hlayouts hnext
    cases hlayouts
    exact ⟨rfl, hnext⟩
  | cons service services ih =>
    intro nextHandle layouts hlayouts hnext
    rw [layoutsFrom] at hlayouts
    dsimp only at hlayouts
    split at hlayouts
    next => cases hlayouts
    next hfits =>
      obtain ⟨later, hlater, hlayouts⟩ := except_bind_eq_ok hlayouts
      cases hlayouts
      have hcount : 1 ≤ service.count := by
        rw [ServiceDefinition.count]
        omega
      obtain ⟨hlength, hsum⟩ := ih hlater (by omega)
      rw [List.length_cons, List.length_cons, hlength, List.map_cons, List.sum_cons]
      exact ⟨rfl, by omega⟩

/-- The attributes of the services, from the handle 1 on. -/
def attributesOf (services : List ServiceDefinition) (layouts : List Layout) : List Attribute :=
  placeAll (serviceAttributes services layouts) 1 (services.zip layouts)

/-- **The database is in handle order.** -/
theorem attributesOf_ascending {services : List ServiceDefinition} {layouts : List Layout}
    (hlayouts : layoutsFrom 1 services = .ok layouts) :
    (attributesOf services layouts).Pairwise fun first second => first.handle < second.handle := by
  obtain ⟨hlength, hsum⟩ := layoutsFrom_bounded services hlayouts (by decide)
  have hsequential := sequential_placeAll (sequential_service services layouts)
    (services.zip layouts) 1
  have hcount : (attributesOf services layouts).length =
      (services.map ServiceDefinition.count).sum := by
    rw [attributesOf, length_placeAll (length_service services layouts)]
    have hzip : (services.zip layouts).map (fun part => part.1.count) =
        ((services.zip layouts).map Prod.fst).map ServiceDefinition.count := by
      rw [List.map_map]
      rfl
    rw [hzip, List.map_fst_zip (Nat.le_of_eq hlength.symm)]
  change Sequential 1 (attributesOf services layouts) at hsequential
  rw [← List.pairwise_map (f := Attribute.handle) (R := (· < ·)), hsequential, List.pairwise_map]
  refine (List.pairwise_lt_range' 1).imp_of_mem ?_
  intro first second hfirst hsecond hlt
  rw [List.mem_range'_1] at hfirst hsecond
  rw [UInt16.lt_iff_toNat_lt, UInt16.toNat_ofNat_of_lt', UInt16.toNat_ofNat_of_lt']
  · exact hlt
  · exact Nat.lt_of_lt_of_le (by omega) (Nat.le_refl 65536)
  · exact Nat.lt_of_lt_of_le (by omega) (Nat.le_refl 65536)

/-! ## 5. Servers -/

structure SignedWriteVerifier where
  csrk : Vector UInt8 16
  lastCounter : Option UInt32
deriving DecidableEq

structure GattServer where
  attributes : List Attribute
  mtu : UInt16
  negotiatedMtus : Std.ExtTreeMap UInt64 UInt16
  /-- Queued writes by bearer: the handle, the offset and the part. -/
  preparedWrites : Std.ExtTreeMap UInt64 (List (UInt16 × UInt16 × Bytes))
  subscriptions : Subscriptions
  signedWriteVerifier : Option SignedWriteVerifier
  ascending : attributes.Pairwise fun first second => first.handle < second.handle

def attDefaultMtu : UInt16 := 23

def GattServer.fromDefinitions (services : List ServiceDefinition) :
    Except DatabaseError GattServer :=
  match hlayouts : layoutsFrom 1 services with
  | .error error => .error error
  | .ok layouts =>
    match missingInclusion services with
    | some error => .error error
    | none => .ok {
        attributes := attributesOf services layouts
        mtu := attDefaultMtu
        negotiatedMtus := ∅
        preparedWrites := ∅
        subscriptions := fun _ _ => none
        signedWriteVerifier := none
        ascending := attributesOf_ascending hlayouts }

end Bumble.Gatt
