import Bumble.AvrcpMessage

/-!
# AVRCP responses (`bumble-avrcp/src/response.rs`)

The typed responses with their parameter codec, the browseable items among them.
-/

namespace Bumble.Avrcp

abbrev StatusCode := UInt8

def StatusCode.invalidCommand : StatusCode := 0x00
def StatusCode.invalidParameter : StatusCode := 0x01
def StatusCode.operationCompleted : StatusCode := 0x04

abbrev BrowseableItemType := UInt8

@[match_pattern] def BrowseableItemType.mediaPlayer : BrowseableItemType := 0x01
@[match_pattern] def BrowseableItemType.folder : BrowseableItemType := 0x02
@[match_pattern] def BrowseableItemType.mediaElement : BrowseableItemType := 0x03

abbrev MajorPlayerType := UInt8
abbrev PlayerSubType := UInt32
abbrev PlayerFeatures := BitVec 128
abbrev FolderType := UInt8
abbrev Playable := UInt8
abbrev MediaType := UInt8

inductive Capability where
  | companyId (companyId : UInt32)
  | event (eventId : EventId)
  | raw (bytes : Bytes)
deriving DecidableEq, Repr

structure MediaAttribute where
  attributeId : MediaAttributeId
  characterSetId : CharacterSetId
  value : String
deriving DecidableEq, Repr

structure AttributeText where
  attributeId : ApplicationSettingAttributeId
  characterSetId : CharacterSetId
  text : String
deriving DecidableEq, Repr

structure ValueText where
  value : ApplicationSettingValue
  characterSetId : CharacterSetId
  text : String
deriving DecidableEq, Repr

inductive BrowseableItem where
  | mediaPlayer (playerId : UInt16) (majorPlayerType : MajorPlayerType)
      (playerSubType : PlayerSubType) (playStatus : PlayStatus) (featureBitmask : PlayerFeatures)
      (characterSetId : CharacterSetId) (displayableName : String)
  | folder (folderUid : UInt64) (folderType : FolderType) (isPlayable : Playable)
      (characterSetId : CharacterSetId) (displayableName : String)
  | mediaElement (mediaElementUid : UInt64) (mediaType : MediaType)
      (characterSetId : CharacterSetId) (displayableName : String)
      (attributes : List MediaAttribute)
  | unknown (itemType : BrowseableItemType) (data : Bytes)
deriving DecidableEq, Repr

/-! ## 1. Texts and attributes -/

/-- The concatenation of encoded entries, or the first error. -/
def encodeAll {α : Type} (encode : α → Except Error Bytes) (entries : List α) :
    Except Error Bytes := do
  pure (← entries.mapM encode).flatten

def pushStringU8 (value : String) : Except Error Bytes := do
  pure ((← pushCountU8 (stringBytes value).length "AVRCP one-byte string length")
    ++ stringBytes value)

def pushStringU16 (value : String) : Except Error Bytes := do
  pure ((← pushCountU16 (stringBytes value).length "AVRCP string length") ++ stringBytes value)

def encodeMediaAttribute (entry : MediaAttribute) : Except Error Bytes := do
  pure (u32ToBe entry.attributeId ++ (u16ToBe entry.characterSetId
    ++ (← pushStringU16 entry.value)))

def encodeAttributeText (entry : AttributeText) : Except Error Bytes := do
  pure (entry.attributeId :: (u16ToBe entry.characterSetId ++ (← pushStringU8 entry.text)))

def encodeValueText (entry : ValueText) : Except Error Bytes := do
  pure (entry.value :: (u16ToBe entry.characterSetId ++ (← pushStringU8 entry.text)))

/-- What a reader of a response returns at the end of its octets. -/
def responseShort : Error := .truncated "AVRCP response parameters"

section Readers

open OctetReader

def parseMediaAttribute : OctetReader Error MediaAttribute := do
  let attributeId ← u32Be responseShort
  let characterSetId ← u16Be responseShort
  pure ⟨attributeId, characterSetId, ← Cursor.stringU16 responseShort⟩

def parseAttributeText : OctetReader Error AttributeText := do
  let attributeId ← u8 responseShort
  let characterSetId ← u16Be responseShort
  pure ⟨attributeId, characterSetId, ← Cursor.stringU8 responseShort⟩

def parseValueText : OctetReader Error ValueText := do
  let value ← u8 responseShort
  let characterSetId ← u16Be responseShort
  pure ⟨value, characterSetId, ← Cursor.stringU8 responseShort⟩

end Readers

/-! ## 2. Browseable items -/

namespace BrowseableItem

open OctetReader

def itemType : BrowseableItem → BrowseableItemType
  | mediaPlayer _ _ _ _ _ _ _ => BrowseableItemType.mediaPlayer
  | folder _ _ _ _ _ => BrowseableItemType.folder
  | mediaElement _ _ _ _ _ => BrowseableItemType.mediaElement
  | unknown itemType _ => itemType

def payloadBytes : BrowseableItem → Except Error Bytes
  | mediaPlayer playerId majorPlayerType playerSubType playStatus featureBitmask characterSetId
      displayableName => do
    pure (u16ToBe playerId ++ majorPlayerType :: (u32ToLe playerSubType ++ playStatus
      :: (u128ToLe featureBitmask ++ (u16ToBe characterSetId
      ++ (← pushStringU16 displayableName)))))
  | folder folderUid folderType isPlayable characterSetId displayableName => do
    pure (u64ToBe folderUid ++ folderType :: isPlayable
      :: (u16ToBe characterSetId ++ (← pushStringU16 displayableName)))
  | mediaElement mediaElementUid mediaType characterSetId displayableName attributes => do
    let name ← pushStringU16 displayableName
    let count ← pushCountU8 attributes.length "AVRCP media attribute count"
    let entries ← encodeAll encodeMediaAttribute attributes
    pure (u64ToBe mediaElementUid ++ mediaType
      :: (u16ToBe characterSetId ++ (name ++ (count ++ entries))))
  | unknown _ data => .ok data

def toBytes (item : BrowseableItem) : Except Error Bytes := do
  let payload ← item.payloadBytes
  let length ← pushCountU16 payload.length "AVRCP browseable item length"
  pure (item.itemType :: (length ++ payload))

def payloadReader : BrowseableItemType → OctetReader Error BrowseableItem
  | BrowseableItemType.mediaPlayer => do
    let playerId ← u16Be responseShort
    let majorPlayerType ← u8 responseShort
    let playerSubType ← u32Le responseShort
    let playStatus ← u8 responseShort
    let featureBitmask ← u128Le responseShort
    let characterSetId ← u16Be responseShort
    pure (mediaPlayer playerId majorPlayerType playerSubType playStatus featureBitmask
      characterSetId (← Cursor.stringU16 responseShort))
  | BrowseableItemType.folder => do
    let folderUid ← u64Be responseShort
    let folderType ← u8 responseShort
    let isPlayable ← u8 responseShort
    let characterSetId ← u16Be responseShort
    pure (folder folderUid folderType isPlayable characterSetId
      (← Cursor.stringU16 responseShort))
  | BrowseableItemType.mediaElement => do
    let mediaElementUid ← u64Be responseShort
    let mediaType ← u8 responseShort
    let characterSetId ← u16Be responseShort
    let displayableName ← Cursor.stringU16 responseShort
    pure (mediaElement mediaElementUid mediaType characterSetId displayableName
      (← Cursor.countedU8 responseShort parseMediaAttribute))
  | itemType => do
    pure (unknown itemType (← rest))

def parse : OctetReader Error BrowseableItem := do
  let itemType ← u8 responseShort
  let length ← u16Be responseShort
  let payload ← take responseShort length.toNat
  lift ((payloadReader itemType).run .trailingBytes payload)

end BrowseableItem

/-! ## 3. Responses -/

inductive Response where
  | rejected (pduId : PduId) (status : StatusCode)
  | notImplemented (pduId : PduId) (parameters : Bytes)
  | getCapabilities (capabilityId : CapabilityId) (capabilities : List Capability)
  | listPlayerApplicationSettingAttributes (attributes : List ApplicationSettingAttributeId)
  | listPlayerApplicationSettingValues (values : List ApplicationSettingValue)
  | getCurrentPlayerApplicationSettingValue (settings : List PlayerApplicationSetting)
  | setPlayerApplicationSettingValue
  | getPlayerApplicationSettingAttributeText (entries : List AttributeText)
  | getPlayerApplicationSettingValueText (entries : List ValueText)
  | informDisplayableCharacterSet
  | informBatteryStatusOfCt
  | getPlayStatus (songLength songPosition : UInt32) (playStatus : PlayStatus)
  | getElementAttributes (attributes : List MediaAttribute)
  | setAbsoluteVolume (volume : UInt8)
  | registerNotification (event : Event)
  | setAddressedPlayer (status : StatusCode)
  | setBrowsedPlayer (status : StatusCode) (uidCounter : UInt16) (numberOfItems : UInt32)
      (characterSetId : CharacterSetId) (folderNames : List String)
  | getFolderItems (status : StatusCode) (uidCounter : UInt16) (items : List BrowseableItem)
  | changePath (status : StatusCode) (numberOfItems : UInt32)
  | getItemAttributes (status : StatusCode) (attributes : List MediaAttribute)
  | getTotalNumberOfItems (status : StatusCode) (uidCounter : UInt16) (numberOfItems : UInt32)
  | search (status : StatusCode) (uidCounter : UInt16) (numberOfItems : UInt32)
  | playItem (status : StatusCode)
  | addToNowPlaying (status : StatusCode)
  | unknown (pduId : PduId) (parameters : Bytes)
deriving DecidableEq, Repr

namespace Response

open OctetReader

def unavailable : UInt32 := 0xFFFFFFFF

def pduId : Response → PduId
  | rejected pduId _ => pduId
  | notImplemented pduId _ => pduId
  | unknown pduId _ => pduId
  | getCapabilities _ _ => PduId.getCapabilities
  | listPlayerApplicationSettingAttributes _ => PduId.listPlayerApplicationSettingAttributes
  | listPlayerApplicationSettingValues _ => PduId.listPlayerApplicationSettingValues
  | getCurrentPlayerApplicationSettingValue _ => PduId.getCurrentPlayerApplicationSettingValue
  | setPlayerApplicationSettingValue => PduId.setPlayerApplicationSettingValue
  | getPlayerApplicationSettingAttributeText _ => PduId.getPlayerApplicationSettingAttributeText
  | getPlayerApplicationSettingValueText _ => PduId.getPlayerApplicationSettingValueText
  | informDisplayableCharacterSet => PduId.informDisplayableCharacterSet
  | informBatteryStatusOfCt => PduId.informBatteryStatusOfCt
  | getPlayStatus _ _ _ => PduId.getPlayStatus
  | getElementAttributes _ => PduId.getElementAttributes
  | setAbsoluteVolume _ => PduId.setAbsoluteVolume
  | registerNotification _ => PduId.registerNotification
  | setAddressedPlayer _ => PduId.setAddressedPlayer
  | setBrowsedPlayer _ _ _ _ _ => PduId.setBrowsedPlayer
  | getFolderItems _ _ _ => PduId.getFolderItems
  | changePath _ _ => PduId.changePath
  | getItemAttributes _ _ => PduId.getItemAttributes
  | getTotalNumberOfItems _ _ _ => PduId.getTotalNumberOfItems
  | search _ _ _ => PduId.search
  | playItem _ => PduId.playItem
  | addToNowPlaying _ => PduId.addToNowPlaying

def capabilityBytes : Capability → Except Error Bytes
  | .companyId companyId =>
    if companyId > 0xFFFFFF then .error (.invalidField "AVRCP company ID")
    else .ok ((u32ToBe companyId).drop 1)
  | .event eventId => .ok [eventId]
  | .raw bytes => .ok bytes

def countedBytes {α : Type} (field : String) (encode : α → Except Error Bytes)
    (entries : List α) : Except Error Bytes := do
  let count ← pushCountU8 entries.length field
  pure (count ++ (← encodeAll encode entries))

def countedOctets (field : String) (octets : Bytes) : Except Error Bytes := do
  pure ((← pushCountU8 octets.length field) ++ octets)

/-- The parameters of `GetTotalNumberOfItems` and `Search`. -/
def itemCountBytes (status : StatusCode) (uidCounter : UInt16) (numberOfItems : UInt32) : Bytes :=
  status :: (u16ToBe uidCounter ++ u32ToBe numberOfItems)

def toParameters : Response → Except Error Bytes
  | rejected _ status => .ok [status]
  | notImplemented _ parameters => .ok parameters
  | unknown _ parameters => .ok parameters
  | getCapabilities capabilityId capabilities => do
    pure (capabilityId :: (← countedBytes "AVRCP capability count" capabilityBytes capabilities))
  | listPlayerApplicationSettingAttributes attributes =>
    countedOctets "AVRCP attribute count" attributes
  | listPlayerApplicationSettingValues values => countedOctets "AVRCP value count" values
  | getCurrentPlayerApplicationSettingValue settings => do
    pure ((← pushCountU8 settings.length "AVRCP setting count")
      ++ settings.flatMap PlayerApplicationSetting.toBytes)
  | setPlayerApplicationSettingValue => .ok []
  | informDisplayableCharacterSet => .ok []
  | informBatteryStatusOfCt => .ok []
  | getPlayerApplicationSettingAttributeText entries =>
    countedBytes "AVRCP attribute text count" encodeAttributeText entries
  | getPlayerApplicationSettingValueText entries =>
    countedBytes "AVRCP value text count" encodeValueText entries
  | getPlayStatus songLength songPosition playStatus =>
    .ok (u32ToBe songLength ++ (u32ToBe songPosition ++ [playStatus]))
  | getElementAttributes attributes =>
    countedBytes "AVRCP media attribute count" encodeMediaAttribute attributes
  | setAbsoluteVolume volume => .ok [volume]
  | registerNotification event => event.toBytes
  | setAddressedPlayer status => .ok [status]
  | playItem status => .ok [status]
  | addToNowPlaying status => .ok [status]
  | setBrowsedPlayer status uidCounter numberOfItems characterSetId folderNames => do
    pure (status :: (u16ToBe uidCounter ++ (u32ToBe numberOfItems ++ (u16ToBe characterSetId
      ++ (← countedBytes "AVRCP folder count" pushStringU16 folderNames)))))
  | getFolderItems status uidCounter items => do
    let count ← pushCountU16 items.length "AVRCP item count"
    pure (status :: (u16ToBe uidCounter
      ++ (count ++ (← encodeAll BrowseableItem.toBytes items))))
  | changePath status numberOfItems => .ok (status :: u32ToBe numberOfItems)
  | getItemAttributes status attributes => do
    pure (status :: (← countedBytes "AVRCP attribute count" encodeMediaAttribute attributes))
  | getTotalNumberOfItems status uidCounter numberOfItems =>
    .ok (itemCountBytes status uidCounter numberOfItems)
  | search status uidCounter numberOfItems =>
    .ok (itemCountBytes status uidCounter numberOfItems)

def parseCapabilities (capabilityId : CapabilityId) (count : Nat) (remaining : Bytes) :
    Except Error (List Capability) :=
  if capabilityId = CapabilityId.eventsSupported then
    if remaining.length ≠ count then .error (.lengthMismatch count remaining.length)
    else .ok (remaining.map .event)
  else if count = 0 then
    if remaining ≠ [] then .error (.trailingBytes remaining.length) else .ok []
  else if remaining.length % count ≠ 0 then .error (.invalidField "AVRCP capability size")
  else
    let size := remaining.length / count
    if size = 0 then .error (.invalidField "AVRCP capability size")
    else
      .ok ((chunks size remaining).map fun chunk =>
        if capabilityId = CapabilityId.companyId ∧ size = 3 then
          .companyId (UInt32.ofNat (beToNat (0 :: chunk)))
        else .raw chunk)

def reader : PduId → OctetReader Error Response
  | PduId.getCapabilities => do
    let capabilityId ← u8 responseShort
    let count ← u8 responseShort
    let remaining ← rest
    pure (getCapabilities capabilityId
      (← lift (parseCapabilities capabilityId count.toNat remaining)))
  | PduId.listPlayerApplicationSettingAttributes => do
    pure (listPlayerApplicationSettingAttributes (← Cursor.countedU8s responseShort))
  | PduId.listPlayerApplicationSettingValues => do
    pure (listPlayerApplicationSettingValues (← Cursor.countedU8s responseShort))
  | PduId.getCurrentPlayerApplicationSettingValue => do
    pure (getCurrentPlayerApplicationSettingValue
      (← Cursor.countedU8 responseShort (Cursor.setting responseShort)))
  | PduId.setPlayerApplicationSettingValue => pure setPlayerApplicationSettingValue
  | PduId.getPlayerApplicationSettingAttributeText => do
    pure (getPlayerApplicationSettingAttributeText
      (← Cursor.countedU8 responseShort parseAttributeText))
  | PduId.getPlayerApplicationSettingValueText => do
    pure (getPlayerApplicationSettingValueText (← Cursor.countedU8 responseShort parseValueText))
  | PduId.informDisplayableCharacterSet => pure informDisplayableCharacterSet
  | PduId.informBatteryStatusOfCt => pure informBatteryStatusOfCt
  | PduId.getPlayStatus => do
    let songLength ← u32Be responseShort
    let songPosition ← u32Be responseShort
    pure (getPlayStatus songLength songPosition (← u8 responseShort))
  | PduId.getElementAttributes => do
    pure (getElementAttributes (← Cursor.countedU8 responseShort parseMediaAttribute))
  | PduId.setAbsoluteVolume => do
    pure (setAbsoluteVolume (← u8 responseShort))
  | PduId.registerNotification => do
    let remaining ← rest
    pure (registerNotification (← lift (Event.fromBytes remaining)))
  | PduId.setAddressedPlayer => do
    pure (setAddressedPlayer (← u8 responseShort))
  | PduId.setBrowsedPlayer => do
    let status ← u8 responseShort
    let uidCounter ← u16Be responseShort
    let numberOfItems ← u32Be responseShort
    let characterSetId ← u16Be responseShort
    pure (setBrowsedPlayer status uidCounter numberOfItems characterSetId
      (← Cursor.countedU8 responseShort (Cursor.stringU16 responseShort)))
  | PduId.getFolderItems => do
    let status ← u8 responseShort
    let uidCounter ← u16Be responseShort
    pure (getFolderItems status uidCounter
      (← Cursor.countedU16 responseShort BrowseableItem.parse))
  | PduId.changePath => do
    let status ← u8 responseShort
    pure (changePath status (← u32Be responseShort))
  | PduId.getItemAttributes => do
    let status ← u8 responseShort
    pure (getItemAttributes status (← Cursor.countedU8 responseShort parseMediaAttribute))
  | PduId.getTotalNumberOfItems => do
    let status ← u8 responseShort
    let uidCounter ← u16Be responseShort
    pure (getTotalNumberOfItems status uidCounter (← u32Be responseShort))
  | PduId.search => do
    let status ← u8 responseShort
    let uidCounter ← u16Be responseShort
    pure (search status uidCounter (← u32Be responseShort))
  | PduId.playItem => do
    pure (playItem (← u8 responseShort))
  | PduId.addToNowPlaying => do
    pure (addToNowPlaying (← u8 responseShort))
  | pduId => do
    pure (unknown pduId (← rest))

def fromParameters (pduId : PduId) (parameters : Bytes) : Except Error Response :=
  (reader pduId).run .trailingBytes parameters

end Response

end Bumble.Avrcp
