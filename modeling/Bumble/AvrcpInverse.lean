import Bumble.AvrcpReencoding

/-!
# The parameter codecs of AVRCP are inverse to each other

Every response that is encoded is decoded again from its parameters, items and texts
included.  Two kinds are not decoded from parameters at all: a rejection and an answer
that a command is not implemented are told by the response code of the frame.
-/

namespace Bumble.Avrcp

open OctetReader

/-! ## 1. Lists of records -/

theorem encodeAll_eq_ok {α : Type} {encode : α → Except Error Bytes} {values : List α}
    {bytes : Bytes} (hall : encodeAll encode values = .ok bytes) :
    ∃ pieces : List Bytes,
      List.Forall₂ (fun value piece => encode value = .ok piece) values pieces ∧
        bytes = pieces.flatten := by
  obtain ⟨pieces, hpieces, hall⟩ := except_bind_eq_ok hall
  cases hall
  exact ⟨pieces, except_mapM_eq_ok hpieces, rfl⟩

theorem reads_replicate_pieces {α : Type} {reader : OctetReader Error α} {values : List α}
    {pieces : List Bytes}
    (hall : List.Forall₂ (fun value piece => Reads reader piece value) values pieces) :
    Reads (replicate reader values.length) pieces.flatten values := by
  induction hall with
  | nil => exact reads_pure []
  | cons hfirst _ ih =>
    rw [List.flatten_cons]
    exact hfirst.bind (ih.last (reads_pure _))

section Counted

variable {α : Type} {reader : OctetReader Error α} {encode : α → Except Error Bytes}
variable {values : List α} {bytes : Bytes} {field : String}

theorem forall₂_reads {pieces : List Bytes}
    (hreads : ∀ value ∈ values, ∀ piece, encode value = .ok piece → Reads reader piece value)
    (hall : List.Forall₂ (fun value piece => encode value = .ok piece) values pieces) :
    List.Forall₂ (fun value piece => Reads reader piece value) values pieces := by
  induction hall with
  | nil => exact .nil
  | cons hfirst _ ih =>
    refine .cons (hreads _ (.head _) _ hfirst) (ih ?_)
    intro other hother
    exact hreads other (.tail _ hother)

theorem reads_countedBytes
    (hreads : ∀ value ∈ values, ∀ piece, encode value = .ok piece → Reads reader piece value)
    (hbytes : Response.countedBytes field encode values = .ok bytes) :
    Reads (Cursor.countedU8 responseShort reader) bytes values := by
  obtain ⟨count, hcount, hbytes⟩ := except_bind_eq_ok hbytes
  obtain ⟨encoded, hencoded, hbytes⟩ := except_bind_eq_ok hbytes
  cases hbytes
  obtain ⟨pieces, hpieces, rfl⟩ := encodeAll_eq_ok hencoded
  obtain ⟨rfl, hlength⟩ := pushCountU8_eq_ok hcount
  apply (reads_u8 responseShort (UInt8.ofNat values.length)).bind
  rw [hlength]
  exact reads_replicate_pieces (forall₂_reads hreads hpieces)

end Counted

/-! ## 2. Texts and attributes -/

theorem reads_stringU16_pushed {text : String} {piece : Bytes}
    (hpiece : pushStringU16 text = .ok piece) :
    Reads (Cursor.stringU16 responseShort) piece text := by
  obtain ⟨count, hcount, hpiece⟩ := except_bind_eq_ok hpiece
  cases hpiece
  exact Cursor.reads_stringU16 responseShort text hcount

theorem reads_stringU8_pushed {text : String} {piece : Bytes}
    (hpiece : pushStringU8 text = .ok piece) :
    Reads (Cursor.stringU8 responseShort) piece text := by
  obtain ⟨count, hcount, hpiece⟩ := except_bind_eq_ok hpiece
  cases hpiece
  obtain ⟨rfl, hlength⟩ := pushCountU8_eq_ok hcount
  apply (reads_u8 responseShort (UInt8.ofNat (stringBytes text).length)).bind
  rw [hlength]
  exact reads_string responseShort _ text

theorem reads_mediaAttribute {entry : MediaAttribute} {piece : Bytes}
    (hpiece : encodeMediaAttribute entry = .ok piece) : Reads parseMediaAttribute piece entry := by
  obtain ⟨text, htext, hpiece⟩ := except_bind_eq_ok hpiece
  cases hpiece
  exact (reads_u32Be responseShort entry.attributeId).bind
    ((reads_u16Be responseShort entry.characterSetId).bind
      ((reads_stringU16_pushed htext).map _))

theorem reads_attributeText {entry : AttributeText} {piece : Bytes}
    (hpiece : encodeAttributeText entry = .ok piece) : Reads parseAttributeText piece entry := by
  obtain ⟨text, htext, hpiece⟩ := except_bind_eq_ok hpiece
  cases hpiece
  exact (reads_u8 responseShort entry.attributeId).bind
    ((reads_u16Be responseShort entry.characterSetId).bind ((reads_stringU8_pushed htext).map _))

theorem reads_valueText {entry : ValueText} {piece : Bytes}
    (hpiece : encodeValueText entry = .ok piece) : Reads parseValueText piece entry := by
  obtain ⟨text, htext, hpiece⟩ := except_bind_eq_ok hpiece
  cases hpiece
  exact (reads_u8 responseShort entry.value).bind
    ((reads_u16Be responseShort entry.characterSetId).bind ((reads_stringU8_pushed htext).map _))

/-! ## 3. Browseable items -/

theorem reads_octet {β : Type} {next : UInt8 → OctetReader Error β} {octet : UInt8}
    {later : Bytes} {result : β} (hnext : Reads (next octet) later result) :
    Reads (u8 responseShort >>= next) (octet :: later) result :=
  (reads_u8 responseShort octet).bind hnext

theorem reads_u128Le (value : BitVec 128) :
    Reads (u128Le responseShort) (u128ToLe value) value := by
  apply reads_decoded responseShort ((List.length_reverse).trans (length_natToBe 16 value.toNat))
  rw [List.reverse_reverse, beToNat_natToBe 16 value.isLt]
  rw [BitVec.ofNat_toNat, BitVec.setWidth_eq]

namespace BrowseableItem

/-- Not an unknown item with the type of a known one. -/
def Typed : BrowseableItem → Prop
  | unknown itemType _ => itemType ∉
      [BrowseableItemType.mediaPlayer, BrowseableItemType.folder, BrowseableItemType.mediaElement]
  | _ => True

/-- A typed browseable item reads back from its payload. -/
theorem payloadReader_payloadBytes {item : BrowseableItem} (htyped : item.Typed) {payload : Bytes}
    (hpayload : item.payloadBytes = .ok payload) :
    (payloadReader item.itemType).run .trailingBytes payload = .ok item := by
  cases item with
  | mediaPlayer playerId majorPlayerType playerSubType playStatus featureBitmask characterSetId
      displayableName =>
    obtain ⟨text, htext, hpayload⟩ := except_bind_eq_ok hpayload
    cases hpayload
    apply Reads.run
    apply (reads_u16Be responseShort playerId).bind
    apply reads_octet
    apply (reads_u32Le responseShort playerSubType).bind
    apply reads_octet
    apply (reads_u128Le featureBitmask).bind
    apply (reads_u16Be responseShort characterSetId).bind
    exact (reads_stringU16_pushed htext).map _
  | folder folderUid folderType isPlayable characterSetId displayableName =>
    obtain ⟨text, htext, hpayload⟩ := except_bind_eq_ok hpayload
    cases hpayload
    apply Reads.run
    apply (reads_u64Be responseShort folderUid).bind
    apply reads_octet
    apply reads_octet
    apply (reads_u16Be responseShort characterSetId).bind
    exact (reads_stringU16_pushed htext).map _
  | mediaElement mediaElementUid mediaType characterSetId displayableName attributes =>
    obtain ⟨text, htext, hpayload⟩ := except_bind_eq_ok hpayload
    obtain ⟨count, hcount, hpayload⟩ := except_bind_eq_ok hpayload
    obtain ⟨entries, hentries, hpayload⟩ := except_bind_eq_ok hpayload
    cases hpayload
    have hcounted : Response.countedBytes "AVRCP media attribute count"
      encodeMediaAttribute attributes =
        .ok (count ++ entries) := by
      rw [Response.countedBytes, hcount, hentries]
      rfl
    have hattributes := reads_countedBytes (fun _ _ _ => reads_mediaAttribute) hcounted
    apply Reads.run
    apply (reads_u64Be responseShort mediaElementUid).bind
    apply reads_octet
    apply (reads_u16Be responseShort characterSetId).bind
    apply (reads_stringU16_pushed htext).bind
    exact hattributes.map _
  | unknown itemType data =>
    cases hpayload
    have hreader : payloadReader itemType = (do pure (unknown itemType (← rest))) := by
      unfold payloadReader
      split
      all_goals first | exact absurd (by decide) htyped | rfl
    change (payloadReader itemType).run _ _ = _
    rw [hreader]
    rfl

theorem reads_parse {item : BrowseableItem} (htyped : item.Typed) {piece : Bytes}
    (hpiece : item.toBytes = .ok piece) : Reads parse piece item := by
  obtain ⟨payload, hpayload, hpiece⟩ := except_bind_eq_ok hpiece
  obtain ⟨length, hlength, hpiece⟩ := except_bind_eq_ok hpiece
  cases hpiece
  obtain ⟨rfl, hcount⟩ := pushCountU16_eq_ok hlength
  have hrun := payloadReader_payloadBytes htyped hpayload
  apply (reads_u8 responseShort item.itemType).bind
  apply (reads_u16Be responseShort (UInt16.ofNat payload.length)).bind
  rw [hcount]
  apply (reads_take responseShort payload).last
  intro later
  rw [hrun]
  rfl

end BrowseableItem

/-! ## 4. Events -/

namespace Event

def typedEventIds : List EventId :=
  [EventId.playbackStatusChanged, EventId.playbackPosChanged, EventId.trackChanged,
    EventId.playerApplicationSettingChanged, EventId.nowPlayingContentChanged,
    EventId.availablePlayersChanged, EventId.addressedPlayerChanged, EventId.uidsChanged,
    EventId.volumeChanged]

/-- Not an unknown event with the id of a known one. -/
def Typed : Event → Prop
  | unknown eventId _ => eventId ∉ typedEventIds
  | _ => True

theorem fromBytes_of_typed {event : Event} (htyped : event.Typed) {bytes : Bytes}
    (hbytes : event.toBytes = .ok bytes) : fromBytes bytes = .ok event := by
  cases event with
  | unknown eventId data =>
    cases hbytes
    change fromData eventId data = _
    unfold fromData
    split
    all_goals first | exact absurd (by decide) htyped | rfl
  | _ =>
    refine fromBytes_toBytes ?_ hbytes
    trivial

end Event

/-! ## 5. Responses -/

namespace Response

/-- Capabilities of the kind that their id implies; without a kind of their own they are octets,
    of one length. -/
def OfKind (capabilityId : CapabilityId) (capabilities : List Capability) : Prop :=
  if capabilityId = CapabilityId.eventsSupported then
    ∃ eventIds : List EventId, capabilities = eventIds.map .event
  else if capabilityId = CapabilityId.companyId then
    ∃ companyIds : List UInt32, capabilities = companyIds.map .companyId
  else
    ∃ size, 0 < size ∧ ∃ pieces : List Bytes, (∀ piece ∈ pieces, piece.length = size) ∧
      capabilities = pieces.map .raw

/-- The responses that are told from all others by their parameters. -/
def Typed : Response → Prop
  | rejected _ _ => False
  | notImplemented _ _ => False
  | getCapabilities capabilityId capabilities => OfKind capabilityId capabilities
  | registerNotification event => event.Typed
  | getFolderItems _ _ items => ∀ item ∈ items, item.Typed
  | unknown pduId _ => pduId ∉ Command.typedPduIds
  | _ => True

theorem parseCapabilities_raw {capabilityId : CapabilityId} {size : Nat} {pieces : List Bytes}
    (hevents : capabilityId ≠ CapabilityId.eventsSupported)
    (hcompany : capabilityId ≠ CapabilityId.companyId) (hsize : 0 < size)
    (hpieces : ∀ piece ∈ pieces, piece.length = size) :
    parseCapabilities capabilityId pieces.length pieces.flatten = .ok (pieces.map .raw) := by
  have hlength : pieces.flatten.length = size * pieces.length := by
    rw [List.length_flatten, List.map_congr_left hpieces, List.map_const', List.sum_replicate,
      smul_eq_mul, Nat.mul_comm]
  rw [parseCapabilities, if_neg hevents]
  by_cases hempty : pieces = []
  · subst hempty
    rfl
  · have hpositive : 0 < pieces.length := List.length_pos_iff.mpr hempty
    rw [if_neg hpositive.ne', hlength, if_neg (by rw [Nat.mul_mod_left]; simp)]
    dsimp only
    rw [Nat.mul_div_cancel _ hpositive, if_neg hsize.ne', chunks_of_flatten hsize hpieces]
    congr 1
    apply List.map_congr_left
    intro piece _
    rw [if_neg (fun hboth => hcompany hboth.1)]

theorem encodeAll_raw (pieces : List Bytes) :
    encodeAll capabilityBytes (pieces.map .raw) = .ok pieces.flatten := by
  apply encodeAll_of_forall₂
  rw [List.forall₂_map_left_iff, List.forall₂_same]
  intro piece _
  rfl

theorem reader_untyped {pduId : PduId} (huntyped : pduId ∉ Command.typedPduIds) :
    reader pduId = (do pure (unknown pduId (← rest))) := by
  unfold reader
  split
  all_goals first | exact absurd (by decide) huntyped | rfl

theorem fromParameters_raw {capabilityId : CapabilityId} {size : Nat} {pieces : List Bytes}
    (hevents : capabilityId ≠ CapabilityId.eventsSupported)
    (hcompany : capabilityId ≠ CapabilityId.companyId) (hsize : 0 < size)
    (hpieces : ∀ piece ∈ pieces, piece.length = size) {parameters : Bytes}
    (hparameters : (getCapabilities capabilityId (pieces.map .raw)).toParameters = .ok parameters) :
    fromParameters PduId.getCapabilities parameters =
      .ok (getCapabilities capabilityId (pieces.map .raw)) := by
  obtain ⟨counted, hcounted, hparameters⟩ := except_bind_eq_ok hparameters
  cases hparameters
  obtain ⟨count, hcount, hcounted⟩ := except_bind_eq_ok hcounted
  obtain ⟨rfl, hlength⟩ := pushCountU8_eq_ok hcount
  rw [encodeAll_raw] at hcounted
  cases hcounted
  have hparse := parseCapabilities_raw hevents hcompany hsize hpieces
  rw [List.length_map] at hlength
  rw [← hlength] at hparse
  exact (reads_u8 responseShort capabilityId).bind_run
    ((reads_u8 responseShort (UInt8.ofNat (pieces.map Capability.raw).length)).bind_run
      (run_rest (by rwa [List.length_map]) (getCapabilities capabilityId) _))

/-- **Responses are decoded again.** -/
theorem fromParameters_of_typed {response : Response} (htyped : response.Typed)
    {parameters : Bytes} (hparameters : response.toParameters = .ok parameters) :
    fromParameters response.pduId parameters = .ok response := by
  cases response with
  | rejected => exact htyped.elim
  | notImplemented => exact htyped.elim
  | getCapabilities capabilityId capabilities =>
    change OfKind capabilityId capabilities at htyped
    rw [OfKind] at htyped
    split at htyped
    · next hevents =>
      subst hevents
      obtain ⟨eventIds, rfl⟩ := htyped
      exact fromParameters_toParameters (.events eventIds) hparameters
    · next hevents =>
      split at htyped
      · next hcompany =>
        subst hcompany
        obtain ⟨companyIds, rfl⟩ := htyped
        exact fromParameters_toParameters (.companyIds companyIds) hparameters
      · next hcompany =>
        obtain ⟨size, hsize, pieces, hpieces, rfl⟩ := htyped
        exact fromParameters_raw hevents hcompany hsize hpieces hparameters
  | listPlayerApplicationSettingAttributes attributes =>
    exact fromParameters_toParameters (.attributes attributes) hparameters
  | listPlayerApplicationSettingValues values =>
    exact fromParameters_toParameters (.values values) hparameters
  | getCurrentPlayerApplicationSettingValue settings =>
    exact fromParameters_toParameters (.settings settings) hparameters
  | setPlayerApplicationSettingValue => exact fromParameters_toParameters .settingsSet hparameters
  | getPlayerApplicationSettingAttributeText entries =>
    have hentries := reads_countedBytes (fun _ _ _ => reads_attributeText) hparameters
    exact (hentries.map getPlayerApplicationSettingAttributeText).run _
  | getPlayerApplicationSettingValueText entries =>
    have hentries := reads_countedBytes (fun _ _ _ => reads_valueText) hparameters
    exact (hentries.map getPlayerApplicationSettingValueText).run _
  | informDisplayableCharacterSet | informBatteryStatusOfCt =>
    cases hparameters
    rfl
  | getPlayStatus songLength songPosition playStatus =>
    exact fromParameters_toParameters (.playStatus songLength songPosition playStatus) hparameters
  | getElementAttributes attributes =>
    have hattributes := reads_countedBytes (fun _ _ _ => reads_mediaAttribute) hparameters
    exact (hattributes.map getElementAttributes).run _
  | setAbsoluteVolume volume => exact fromParameters_toParameters (.volume volume) hparameters
  | registerNotification event =>
    exact run_rest (Event.fromBytes_of_typed htyped hparameters) registerNotification _
  | setAddressedPlayer status =>
    cases hparameters
    exact ((reads_u8 responseShort status).map setAddressedPlayer).run _
  | setBrowsedPlayer status uidCounter numberOfItems characterSetId folderNames =>
    obtain ⟨names, hnames, hparameters⟩ := except_bind_eq_ok hparameters
    cases hparameters
    have hfolders := reads_countedBytes (fun _ _ _ => reads_stringU16_pushed) hnames
    apply Reads.run
    apply reads_octet
    apply (reads_u16Be responseShort uidCounter).bind
    apply (reads_u32Be responseShort numberOfItems).bind
    apply (reads_u16Be responseShort characterSetId).bind
    exact hfolders.map _
  | getFolderItems status uidCounter items =>
    obtain ⟨count, hcount, hparameters⟩ := except_bind_eq_ok hparameters
    obtain ⟨encoded, hencoded, hparameters⟩ := except_bind_eq_ok hparameters
    cases hparameters
    obtain ⟨pieces, hpieces, rfl⟩ := encodeAll_eq_ok hencoded
    obtain ⟨rfl, hlength⟩ := pushCountU16_eq_ok hcount
    have hitems : Reads (Cursor.countedU16 responseShort BrowseableItem.parse)
        (u16ToBe (UInt16.ofNat items.length) ++ pieces.flatten) items := by
      apply (reads_u16Be responseShort (UInt16.ofNat items.length)).bind
      rw [hlength]
      exact reads_replicate_pieces
        (forall₂_reads (fun item hitem _ => BrowseableItem.reads_parse (htyped item hitem)) hpieces)
    apply Reads.run
    apply reads_octet
    apply (reads_u16Be responseShort uidCounter).bind
    exact hitems.map _
  | changePath status numberOfItems =>
    cases hparameters
    apply Reads.run
    apply reads_octet
    exact (reads_u32Be responseShort numberOfItems).map _
  | getItemAttributes status attributes =>
    obtain ⟨counted, hcounted, hparameters⟩ := except_bind_eq_ok hparameters
    cases hparameters
    have hattributes := reads_countedBytes (fun _ _ _ => reads_mediaAttribute) hcounted
    apply Reads.run
    apply reads_octet
    exact hattributes.map _
  | getTotalNumberOfItems status uidCounter numberOfItems
  | search status uidCounter numberOfItems =>
    cases hparameters
    apply Reads.run
    apply reads_octet
    apply (reads_u16Be responseShort uidCounter).bind
    exact (reads_u32Be responseShort numberOfItems).map _
  | playItem status => exact fromParameters_toParameters (.itemPlayed status) hparameters
  | addToNowPlaying status =>
    cases hparameters
    exact ((reads_u8 responseShort status).map addToNowPlaying).run _
  | unknown pduId parameters =>
    cases hparameters
    change (reader pduId).run _ _ = _
    rw [reader_untyped htyped]
    rfl

end Response

/-! ## 6. Both directions -/

/-- **The parameter codecs are inverse to each other.**  What has been decoded is encoded as the
    octets it came from, and what has been encoded is decoded again, if its kind is one that
    parameters tell. -/
theorem parameter_codecs_inverse (pduId : PduId) (bytes : Bytes) :
    (∀ command, Command.fromParameters pduId bytes = .ok command →
      command.pduId = pduId ∧ command.toParameters = .ok bytes) ∧
    (∀ response, Response.fromParameters pduId bytes = .ok response →
      response.pduId = pduId ∧ response.toParameters = .ok bytes) ∧
    (∀ event, Event.fromBytes bytes = .ok event → event.toBytes = .ok bytes) ∧
    (∀ command : Command, command.Typed → command.toParameters = .ok bytes →
      Command.fromParameters command.pduId bytes = .ok command) ∧
    (∀ response : Response, response.Typed → response.toParameters = .ok bytes →
      Response.fromParameters response.pduId bytes = .ok response) ∧
    (∀ event : Event, event.Typed → event.toBytes = .ok bytes →
      Event.fromBytes bytes = .ok event) :=
  ⟨fun _ => Command.toParameters_fromParameters, fun _ => Response.toParameters_fromParameters,
    fun _ => Event.toBytes_fromBytes,
    fun _ htyped hparameters => Command.fromParameters_toParameters htyped hparameters,
    fun _ htyped hparameters => Response.fromParameters_of_typed htyped hparameters,
    fun _ htyped hbytes => Event.fromBytes_of_typed htyped hbytes⟩

/-- A rejection is decoded as the answer of its id, an unsupported command as a typed answer, and
    octets of two lengths are cut at the wrong places. -/
theorem untyped_responses_changed :
    (∃ bytes, (Response.rejected PduId.playItem 0x01).toParameters = .ok bytes ∧
      Response.fromParameters PduId.playItem bytes ≠ .ok (.rejected PduId.playItem 0x01)) ∧
    (∃ bytes, (Response.notImplemented PduId.playItem [0x01]).toParameters = .ok bytes ∧
      Response.fromParameters PduId.playItem bytes ≠
        .ok (.notImplemented PduId.playItem [0x01])) ∧
    ∃ bytes, (Response.getCapabilities 0x07 [.raw [1], .raw [2, 3, 4]]).toParameters = .ok bytes ∧
      Response.fromParameters PduId.getCapabilities bytes ≠
        .ok (.getCapabilities 0x07 [.raw [1], .raw [2, 3, 4]]) := by
  refine ⟨⟨_, rfl, ?_⟩, ⟨_, rfl, ?_⟩, ⟨_, rfl, ?_⟩⟩ <;> decide

end Bumble.Avrcp
