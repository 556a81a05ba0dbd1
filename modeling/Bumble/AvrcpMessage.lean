import Bumble.AvcFrame
import Bumble.Chunks
import Bumble.Outcome

/-!
# AVRCP commands and events (`bumble-avrcp/src/{lib,command,event}.rs`)

The typed commands and notification events with their parameter codecs.  The open
integer types of the source are the integers themselves, with their constants.
-/

namespace Bumble.Avrcp

/-! ## 1. Identifiers and errors -/

def avrcpPid : UInt16 := 0x110E
def bluetoothSigCompanyId : UInt32 := 0x001958

abbrev PduId := UInt8

namespace PduId

@[match_pattern] def getCapabilities : PduId := 0x10
@[match_pattern] def listPlayerApplicationSettingAttributes : PduId := 0x11
@[match_pattern] def listPlayerApplicationSettingValues : PduId := 0x12
@[match_pattern] def getCurrentPlayerApplicationSettingValue : PduId := 0x13
@[match_pattern] def setPlayerApplicationSettingValue : PduId := 0x14
@[match_pattern] def getPlayerApplicationSettingAttributeText : PduId := 0x15
@[match_pattern] def getPlayerApplicationSettingValueText : PduId := 0x16
@[match_pattern] def informDisplayableCharacterSet : PduId := 0x17
@[match_pattern] def informBatteryStatusOfCt : PduId := 0x18
@[match_pattern] def getElementAttributes : PduId := 0x20
@[match_pattern] def getPlayStatus : PduId := 0x30
@[match_pattern] def registerNotification : PduId := 0x31
@[match_pattern] def setAbsoluteVolume : PduId := 0x50
@[match_pattern] def setAddressedPlayer : PduId := 0x60
@[match_pattern] def setBrowsedPlayer : PduId := 0x70
@[match_pattern] def getFolderItems : PduId := 0x71
@[match_pattern] def changePath : PduId := 0x72
@[match_pattern] def getItemAttributes : PduId := 0x73
@[match_pattern] def playItem : PduId := 0x74
@[match_pattern] def getTotalNumberOfItems : PduId := 0x75
@[match_pattern] def search : PduId := 0x80
@[match_pattern] def addToNowPlaying : PduId := 0x90

end PduId

inductive Error where
  | truncated (text : String)
  | lengthMismatch (declared actual : Nat)
  | parametersTooLong
  | invalidFragmentSize
  | wrongCompanyId (companyId : UInt32)
  | wrongPid (pid : UInt16)
  | notVendorDependent
  | invalidField (text : String)
  | trailingBytes (count : Nat)
  | noTransactionLabels
  | notPending (label : UInt8)
  | interleavedPdu
  | wrongFrameKind
  | mismatchedResponse (expected actual : PduId)
  | avc (error : Avc.Error)
deriving DecidableEq, Repr

abbrev CapabilityId := UInt8

@[match_pattern] def CapabilityId.companyId : CapabilityId := 0x02
@[match_pattern] def CapabilityId.eventsSupported : CapabilityId := 0x03

abbrev ApplicationSettingAttributeId := UInt8
abbrev ApplicationSettingValue := UInt8
abbrev CharacterSetId := UInt16
abbrev MediaAttributeId := UInt32
abbrev BatteryStatus := UInt8
abbrev Scope := UInt8
abbrev Direction := UInt8
abbrev PlayStatus := UInt8

def PlayStatus.stopped : PlayStatus := 0x00

abbrev EventId := UInt8

namespace EventId

@[match_pattern] def playbackStatusChanged : EventId := 0x01
@[match_pattern] def trackChanged : EventId := 0x02
@[match_pattern] def playbackPosChanged : EventId := 0x05
@[match_pattern] def playerApplicationSettingChanged : EventId := 0x08
@[match_pattern] def nowPlayingContentChanged : EventId := 0x09
@[match_pattern] def availablePlayersChanged : EventId := 0x0A
@[match_pattern] def addressedPlayerChanged : EventId := 0x0B
@[match_pattern] def uidsChanged : EventId := 0x0C
@[match_pattern] def volumeChanged : EventId := 0x0D

end EventId

structure PlayerApplicationSetting where
  attributeId : ApplicationSettingAttributeId
  value : ApplicationSettingValue
deriving DecidableEq, Repr

def PlayerApplicationSetting.toBytes (setting : PlayerApplicationSetting) : Bytes :=
  [setting.attributeId, setting.value]

/-! ## 2. Fields shared by commands and responses -/

def pushCountU8 (count : Nat) (field : String) : Except Error Bytes :=
  if count < 256 then .ok [UInt8.ofNat count] else .error (.invalidField field)

def pushCountU16 (count : Nat) (field : String) : Except Error Bytes :=
  if count < 65536 then .ok (u16ToBe (UInt16.ofNat count)) else .error (.invalidField field)

namespace Cursor

open OctetReader

variable {α : Type} (short : Error)

def countedU8 (reader : OctetReader Error α) : OctetReader Error (List α) := do
  let count ← u8 short
  replicate reader count.toNat

def countedU16 (reader : OctetReader Error α) : OctetReader Error (List α) := do
  let count ← u16Be short
  replicate reader count.toNat

def countedU8s : OctetReader Error Bytes := do
  let count ← u8 short
  take short count.toNat

def text (length : Nat) : OctetReader Error String :=
  string short (.invalidField "AVRCP UTF-8 string") length

def stringU8 : OctetReader Error String := do
  let length ← u8 short
  text short length.toNat

def stringU16 : OctetReader Error String := do
  let length ← u16Be short
  text short length.toNat

def setting : OctetReader Error PlayerApplicationSetting := do
  let attributeId ← u8 short
  let value ← u8 short
  pure ⟨attributeId, value⟩

end Cursor

/-! ## 3. Commands -/

inductive Command where
  | getCapabilities (capabilityId : CapabilityId)
  | listPlayerApplicationSettingAttributes
  | listPlayerApplicationSettingValues (attributeId : ApplicationSettingAttributeId)
  | getCurrentPlayerApplicationSettingValue (attributes : List ApplicationSettingAttributeId)
  | setPlayerApplicationSettingValue (settings : List PlayerApplicationSetting)
  | getPlayerApplicationSettingAttributeText (attributes : List ApplicationSettingAttributeId)
  | getPlayerApplicationSettingValueText (attributeId : ApplicationSettingAttributeId)
      (values : List ApplicationSettingValue)
  | informDisplayableCharacterSet (characterSetIds : List CharacterSetId)
  | informBatteryStatusOfCt (batteryStatus : BatteryStatus)
  | getElementAttributes (identifier : UInt64) (attributeIds : List MediaAttributeId)
  | getPlayStatus
  | registerNotification (eventId : EventId) (playbackInterval : UInt32)
  | setAbsoluteVolume (volume : UInt8)
  | setAddressedPlayer (playerId : UInt16)
  | setBrowsedPlayer (playerId : UInt16)
  | getFolderItems (scope : Scope) (startItem endItem : UInt32)
      (attributes : List MediaAttributeId)
  | changePath (uidCounter : UInt16) (direction : Direction) (folderUid : UInt64)
  | getItemAttributes (scope : Scope) (uid : UInt64) (uidCounter : UInt16)
      (attributes : List MediaAttributeId)
  | playItem (scope : Scope) (uid : UInt64) (uidCounter : UInt16)
  | getTotalNumberOfItems (scope : Scope)
  | search (characterSetId : CharacterSetId) (searchString : String)
  | addToNowPlaying (scope : Scope) (uid : UInt64) (uidCounter : UInt16)
  | unknown (pduId : PduId) (parameters : Bytes)
deriving DecidableEq, Repr

namespace Command

open OctetReader

def pduId : Command → PduId
  | getCapabilities _ => PduId.getCapabilities
  | listPlayerApplicationSettingAttributes => PduId.listPlayerApplicationSettingAttributes
  | listPlayerApplicationSettingValues _ => PduId.listPlayerApplicationSettingValues
  | getCurrentPlayerApplicationSettingValue _ => PduId.getCurrentPlayerApplicationSettingValue
  | setPlayerApplicationSettingValue _ => PduId.setPlayerApplicationSettingValue
  | getPlayerApplicationSettingAttributeText _ => PduId.getPlayerApplicationSettingAttributeText
  | getPlayerApplicationSettingValueText _ _ => PduId.getPlayerApplicationSettingValueText
  | informDisplayableCharacterSet _ => PduId.informDisplayableCharacterSet
  | informBatteryStatusOfCt _ => PduId.informBatteryStatusOfCt
  | getElementAttributes _ _ => PduId.getElementAttributes
  | getPlayStatus => PduId.getPlayStatus
  | registerNotification _ _ => PduId.registerNotification
  | setAbsoluteVolume _ => PduId.setAbsoluteVolume
  | setAddressedPlayer _ => PduId.setAddressedPlayer
  | setBrowsedPlayer _ => PduId.setBrowsedPlayer
  | getFolderItems _ _ _ _ => PduId.getFolderItems
  | changePath _ _ _ => PduId.changePath
  | getItemAttributes _ _ _ _ => PduId.getItemAttributes
  | playItem _ _ _ => PduId.playItem
  | getTotalNumberOfItems _ => PduId.getTotalNumberOfItems
  | search _ _ => PduId.search
  | addToNowPlaying _ _ _ => PduId.addToNowPlaying
  | unknown pduId _ => pduId

def pushCount (count : Nat) : Except Error Bytes := pushCountU8 count "AVRCP list count"

/-- The parameters of `PlayItem` and `AddToNowPlaying`. -/
def itemBytes (scope : Scope) (uid : UInt64) (uidCounter : UInt16) : Bytes :=
  scope :: (u64ToBe uid ++ u16ToBe uidCounter)

def toParameters : Command → Except Error Bytes
  | getCapabilities capabilityId => .ok [capabilityId]
  | listPlayerApplicationSettingAttributes => .ok []
  | getPlayStatus => .ok []
  | listPlayerApplicationSettingValues attributeId => .ok [attributeId]
  | getCurrentPlayerApplicationSettingValue attributes => do
    pure ((← pushCount attributes.length) ++ attributes)
  | getPlayerApplicationSettingAttributeText attributes => do
    pure ((← pushCount attributes.length) ++ attributes)
  | setPlayerApplicationSettingValue settings => do
    pure ((← pushCount settings.length) ++ settings.flatMap PlayerApplicationSetting.toBytes)
  | getPlayerApplicationSettingValueText attributeId values => do
    pure (attributeId :: ((← pushCount values.length) ++ values))
  | informDisplayableCharacterSet characterSetIds => do
    pure ((← pushCount characterSetIds.length) ++ characterSetIds.flatMap u16ToBe)
  | informBatteryStatusOfCt batteryStatus => .ok [batteryStatus]
  | getElementAttributes identifier attributeIds => do
    pure (u64ToBe identifier ++ ((← pushCount attributeIds.length) ++ attributeIds.flatMap u32ToBe))
  | registerNotification eventId playbackInterval => .ok (eventId :: u32ToBe playbackInterval)
  | setAbsoluteVolume volume => .ok [volume]
  | setAddressedPlayer playerId => .ok (u16ToBe playerId)
  | setBrowsedPlayer playerId => .ok (u16ToBe playerId)
  | getFolderItems scope startItem endItem attributes => do
    pure (scope :: (u32ToBe startItem ++ (u32ToBe endItem
      ++ ((← pushCount attributes.length) ++ attributes.flatMap u32ToBe))))
  | changePath uidCounter direction folderUid =>
    .ok (u16ToBe uidCounter ++ direction :: u64ToBe folderUid)
  | getItemAttributes scope uid uidCounter attributes => do
    -- the list is little-endian, unlike those of the other commands
    pure (scope :: (u64ToBe uid ++ (u16ToBe uidCounter
      ++ ((← pushCount attributes.length) ++ attributes.flatMap u32ToLe))))
  | playItem scope uid uidCounter => .ok (itemBytes scope uid uidCounter)
  | addToNowPlaying scope uid uidCounter => .ok (itemBytes scope uid uidCounter)
  | getTotalNumberOfItems scope => .ok [scope]
  | search characterSetId searchString => do
    let encoded := stringBytes searchString
    pure (u16ToBe characterSetId
      ++ ((← pushCountU16 encoded.length "AVRCP search string") ++ encoded))
  | unknown _ parameters => .ok parameters

def short : Error := .truncated "AVRCP command parameters"

def reader : PduId → OctetReader Error Command
  | PduId.getCapabilities => do
    pure (getCapabilities (← u8 short))
  | PduId.listPlayerApplicationSettingAttributes => pure listPlayerApplicationSettingAttributes
  | PduId.listPlayerApplicationSettingValues => do
    pure (listPlayerApplicationSettingValues (← u8 short))
  | PduId.getCurrentPlayerApplicationSettingValue => do
    pure (getCurrentPlayerApplicationSettingValue (← Cursor.countedU8s short))
  | PduId.setPlayerApplicationSettingValue => do
    pure (setPlayerApplicationSettingValue (← Cursor.countedU8 short (Cursor.setting short)))
  | PduId.getPlayerApplicationSettingAttributeText => do
    pure (getPlayerApplicationSettingAttributeText (← Cursor.countedU8s short))
  | PduId.getPlayerApplicationSettingValueText => do
    let attributeId ← u8 short
    pure (getPlayerApplicationSettingValueText attributeId (← Cursor.countedU8s short))
  | PduId.informDisplayableCharacterSet => do
    pure (informDisplayableCharacterSet (← Cursor.countedU8 short (u16Be short)))
  | PduId.informBatteryStatusOfCt => do
    pure (informBatteryStatusOfCt (← u8 short))
  | PduId.getElementAttributes => do
    let identifier ← u64Be short
    pure (getElementAttributes identifier (← Cursor.countedU8 short (u32Be short)))
  | PduId.getPlayStatus => pure getPlayStatus
  | PduId.registerNotification => do
    let eventId ← u8 short
    pure (registerNotification eventId (← u32Be short))
  | PduId.setAbsoluteVolume => do
    pure (setAbsoluteVolume (← u8 short))
  | PduId.setAddressedPlayer => do
    pure (setAddressedPlayer (← u16Be short))
  | PduId.setBrowsedPlayer => do
    pure (setBrowsedPlayer (← u16Be short))
  | PduId.getFolderItems => do
    let scope ← u8 short
    let startItem ← u32Be short
    let endItem ← u32Be short
    pure (getFolderItems scope startItem endItem (← Cursor.countedU8 short (u32Be short)))
  | PduId.changePath => do
    let uidCounter ← u16Be short
    let direction ← u8 short
    pure (changePath uidCounter direction (← u64Be short))
  | PduId.getItemAttributes => do
    let scope ← u8 short
    let uid ← u64Be short
    let uidCounter ← u16Be short
    pure (getItemAttributes scope uid uidCounter (← Cursor.countedU8 short (u32Le short)))
  | PduId.playItem => do
    let scope ← u8 short
    let uid ← u64Be short
    pure (playItem scope uid (← u16Be short))
  | PduId.getTotalNumberOfItems => do
    pure (getTotalNumberOfItems (← u8 short))
  | PduId.search => do
    let characterSetId ← u16Be short
    pure (search characterSetId (← Cursor.stringU16 short))
  | PduId.addToNowPlaying => do
    let scope ← u8 short
    let uid ← u64Be short
    pure (addToNowPlaying scope uid (← u16Be short))
  | pduId => do
    pure (unknown pduId (← rest))

def fromParameters (pduId : PduId) (parameters : Bytes) : Except Error Command :=
  (reader pduId).run .trailingBytes parameters

end Command

/-! ## 4. Notification events -/

inductive Event where
  | playbackStatusChanged (playStatus : PlayStatus)
  | playbackPositionChanged (playbackPosition : UInt32)
  | trackChanged (uid : UInt64)
  | playerApplicationSettingChanged (settings : List PlayerApplicationSetting)
  | nowPlayingContentChanged
  | availablePlayersChanged
  | addressedPlayerChanged (playerId uidCounter : UInt16)
  | uidsChanged (uidCounter : UInt16)
  | volumeChanged (volume : UInt8)
  | unknown (eventId : EventId) (data : Bytes)
deriving DecidableEq, Repr

namespace Event

def noTrack : UInt64 := 0xFFFFFFFFFFFFFFFF

def eventId : Event → EventId
  | playbackStatusChanged _ => EventId.playbackStatusChanged
  | playbackPositionChanged _ => EventId.playbackPosChanged
  | trackChanged _ => EventId.trackChanged
  | playerApplicationSettingChanged _ => EventId.playerApplicationSettingChanged
  | nowPlayingContentChanged => EventId.nowPlayingContentChanged
  | availablePlayersChanged => EventId.availablePlayersChanged
  | addressedPlayerChanged _ _ => EventId.addressedPlayerChanged
  | uidsChanged _ => EventId.uidsChanged
  | volumeChanged _ => EventId.volumeChanged
  | unknown eventId _ => eventId

def dataBytes : Event → Except Error Bytes
  | playbackStatusChanged playStatus => .ok [playStatus]
  | playbackPositionChanged playbackPosition => .ok (u32ToBe playbackPosition)
  | trackChanged uid => .ok (u64ToBe uid)
  | playerApplicationSettingChanged settings => do
    pure ((← pushCountU8 settings.length "AVRCP event setting count")
      ++ settings.flatMap PlayerApplicationSetting.toBytes)
  | nowPlayingContentChanged => .ok []
  | availablePlayersChanged => .ok []
  | addressedPlayerChanged playerId uidCounter => .ok (u16ToBe playerId ++ u16ToBe uidCounter)
  | uidsChanged uidCounter => .ok (u16ToBe uidCounter)
  | volumeChanged volume => .ok [volume]
  | unknown _ data => .ok data

def toBytes (event : Event) : Except Error Bytes := do
  pure (event.eventId :: (← event.dataBytes))

def exact (data : Bytes) (length : Nat) : Except Error Bytes :=
  if data.length < length then .error (.truncated "AVRCP event parameters")
  else if data.length > length then .error (.trailingBytes (data.length - length))
  else .ok data

def one (data : Bytes) : Except Error UInt8 := do
  pure ((← exact data 1).headD 0)

/-- The settings that a list of octets holds, two octets each. -/
def settingsOf (entries : Bytes) : List PlayerApplicationSetting :=
  (chunks 2 entries).map fun entry => ⟨entry.headD 0, (entry.drop 1).headD 0⟩

/-- The event with the given id, from what follows the id. -/
def fromData (eventId : EventId) (data : Bytes) : Except Error Event :=
  match eventId with
  | EventId.playbackStatusChanged => do
    pure (playbackStatusChanged (← one data))
  | EventId.playbackPosChanged => do
    pure (playbackPositionChanged (UInt32.ofNat (beToNat (← exact data 4))))
  | EventId.trackChanged => do
    pure (trackChanged (UInt64.ofNat (beToNat (← exact data 8))))
  | EventId.playerApplicationSettingChanged =>
    match data with
    | [] => .error (.truncated "AVRCP event setting count")
    | count :: entries => do
      pure (playerApplicationSettingChanged (settingsOf (← exact entries (count.toNat * 2))))
  | EventId.nowPlayingContentChanged => do
    let _ ← exact data 0
    pure nowPlayingContentChanged
  | EventId.availablePlayersChanged => do
    let _ ← exact data 0
    pure availablePlayersChanged
  | EventId.addressedPlayerChanged => do
    let data ← exact data 4
    pure (addressedPlayerChanged (UInt16.ofNat (beToNat (data.take 2)))
      (UInt16.ofNat (beToNat (data.drop 2))))
  | EventId.uidsChanged => do
    pure (uidsChanged (UInt16.ofNat (beToNat (← exact data 2))))
  | EventId.volumeChanged => do
    pure (volumeChanged (← one data))
  | eventId => .ok (unknown eventId data)

def fromBytes : Bytes → Except Error Event
  | [] => .error (.truncated "AVRCP event ID")
  | eventId :: data => fromData eventId data

end Event

end Bumble.Avrcp
