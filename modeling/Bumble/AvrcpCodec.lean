import Bumble.AvrcpResponse

/-!
# The parameter codecs of AVRCP give the messages back

Every command that encodes is decoded from its parameters, unless it is an unknown one that
carries the id of a command with a type of its own; so are the responses and events
that a target sends on its own account.
-/

namespace Bumble.Avrcp

open OctetReader

/-! ## 1. Fields -/

theorem pushCountU8_eq_ok {count : Nat} {field : String} {bytes : Bytes}
    (hpush : pushCountU8 count field = .ok bytes) :
    bytes = [UInt8.ofNat count] ∧ (UInt8.ofNat count).toNat = count := by
  rw [pushCountU8] at hpush
  split at hpush
  · next hcount =>
    cases hpush
    refine ⟨rfl, ?_⟩
    rw [UInt8.toNat_ofNat']
    exact Nat.mod_eq_of_lt hcount
  · cases hpush

theorem pushCountU16_eq_ok {count : Nat} {field : String} {bytes : Bytes}
    (hpush : pushCountU16 count field = .ok bytes) :
    bytes = u16ToBe (UInt16.ofNat count) ∧ (UInt16.ofNat count).toNat = count := by
  rw [pushCountU16] at hpush
  split at hpush
  · next hcount =>
    cases hpush
    refine ⟨rfl, ?_⟩
    rw [UInt16.toNat_ofNat']
    exact Nat.mod_eq_of_lt hcount
  · cases hpush

namespace Cursor

variable {α : Type} (short : Error) {count : Bytes} {field : String}

theorem reads_countedU8s (octets : Bytes) (hcount : pushCountU8 octets.length field = .ok count) :
    Reads (countedU8s short) (count ++ octets) octets := by
  obtain ⟨rfl, hlength⟩ := pushCountU8_eq_ok hcount
  apply (reads_u8 short (UInt8.ofNat octets.length)).bind
  rw [hlength]
  exact reads_take short octets

theorem reads_countedU8 {reader : OctetReader Error α} {encode : α → Bytes} (values : List α)
    (hreads : ∀ value ∈ values, Reads reader (encode value) value)
    (hcount : pushCountU8 values.length field = .ok count) :
    Reads (countedU8 short reader) (count ++ values.flatMap encode) values := by
  obtain ⟨rfl, hlength⟩ := pushCountU8_eq_ok hcount
  apply (reads_u8 short (UInt8.ofNat values.length)).bind
  rw [hlength]
  exact reads_replicate values hreads

theorem reads_stringU16 (text : String)
    (hcount : pushCountU16 (stringBytes text).length field = .ok count) :
    Reads (stringU16 short) (count ++ stringBytes text) text := by
  obtain ⟨rfl, hlength⟩ := pushCountU16_eq_ok hcount
  apply (reads_u16Be short (UInt16.ofNat (stringBytes text).length)).bind
  rw [hlength]
  exact reads_string short _ text

theorem reads_setting (setting : PlayerApplicationSetting) :
    Reads (Cursor.setting short) setting.toBytes setting :=
  (reads_u8 short setting.attributeId).bind ((reads_u8 short setting.value).map _)

end Cursor

/-! ## 2. Commands -/

namespace Command

/-- The ids of the commands with a type of their own. -/
def typedPduIds : List PduId :=
  [PduId.getCapabilities, PduId.listPlayerApplicationSettingAttributes,
    PduId.listPlayerApplicationSettingValues, PduId.getCurrentPlayerApplicationSettingValue,
    PduId.setPlayerApplicationSettingValue, PduId.getPlayerApplicationSettingAttributeText,
    PduId.getPlayerApplicationSettingValueText, PduId.informDisplayableCharacterSet,
    PduId.informBatteryStatusOfCt, PduId.getElementAttributes, PduId.getPlayStatus,
    PduId.registerNotification, PduId.setAbsoluteVolume, PduId.setAddressedPlayer,
    PduId.setBrowsedPlayer, PduId.getFolderItems, PduId.changePath, PduId.getItemAttributes,
    PduId.playItem, PduId.getTotalNumberOfItems, PduId.search, PduId.addToNowPlaying]

/-- Not an unknown command with the id of a known one. -/
def Typed : Command → Prop
  | unknown pduId _ => pduId ∉ typedPduIds
  | _ => True

theorem reader_untyped {pduId : PduId} (huntyped : pduId ∉ typedPduIds) :
    reader pduId = (do pure (unknown pduId (← rest))) := by
  unfold reader
  split
  all_goals first | exact absurd (by decide) huntyped | rfl

theorem reads_u32List {count : Bytes} (values : List MediaAttributeId)
    (hcount : pushCount values.length = .ok count) :
    Reads (Cursor.countedU8 short (u32Be short)) (count ++ values.flatMap u32ToBe) values :=
  Cursor.reads_countedU8 short values (fun value _ => reads_u32Be short value) hcount

/-- A typed command reads back from its parameters, one case for each PDU. -/
theorem fromParameters_toParameters {command : Command} (htyped : command.Typed)
    {parameters : Bytes} (hparameters : command.toParameters = .ok parameters) :
    fromParameters command.pduId parameters = .ok command := by
  cases command with
  | listPlayerApplicationSettingAttributes | getPlayStatus =>
    cases hparameters
    rfl
  | getCapabilities octet =>
    cases hparameters
    exact ((reads_u8 short octet).map getCapabilities).run _
  | listPlayerApplicationSettingValues octet =>
    cases hparameters
    exact ((reads_u8 short octet).map listPlayerApplicationSettingValues).run _
  | informBatteryStatusOfCt octet =>
    cases hparameters
    exact ((reads_u8 short octet).map informBatteryStatusOfCt).run _
  | setAbsoluteVolume octet =>
    cases hparameters
    exact ((reads_u8 short octet).map setAbsoluteVolume).run _
  | getTotalNumberOfItems octet =>
    cases hparameters
    exact ((reads_u8 short octet).map getTotalNumberOfItems).run _
  | setAddressedPlayer playerId =>
    cases hparameters
    exact ((reads_u16Be short playerId).map setAddressedPlayer).run _
  | setBrowsedPlayer playerId =>
    cases hparameters
    exact ((reads_u16Be short playerId).map setBrowsedPlayer).run _
  | getCurrentPlayerApplicationSettingValue attributes =>
    obtain ⟨count, hcount, hparameters⟩ := except_bind_eq_ok hparameters
    cases hparameters
    exact ((Cursor.reads_countedU8s short attributes hcount).map
      getCurrentPlayerApplicationSettingValue).run _
  | getPlayerApplicationSettingAttributeText attributes =>
    obtain ⟨count, hcount, hparameters⟩ := except_bind_eq_ok hparameters
    cases hparameters
    exact ((Cursor.reads_countedU8s short attributes hcount).map
      getPlayerApplicationSettingAttributeText).run _
  | setPlayerApplicationSettingValue settings =>
    obtain ⟨count, hcount, hparameters⟩ := except_bind_eq_ok hparameters
    cases hparameters
    have hsettings := Cursor.reads_countedU8 short settings
      (fun setting _ => Cursor.reads_setting short setting) hcount
    exact (hsettings.map setPlayerApplicationSettingValue).run _
  | getPlayerApplicationSettingValueText attributeId values =>
    obtain ⟨count, hcount, hparameters⟩ := except_bind_eq_ok hparameters
    cases hparameters
    exact ((reads_u8 short attributeId).bind ((Cursor.reads_countedU8s short values hcount).map
      (getPlayerApplicationSettingValueText attributeId))).run _
  | informDisplayableCharacterSet characterSetIds =>
    obtain ⟨count, hcount, hparameters⟩ := except_bind_eq_ok hparameters
    cases hparameters
    have hids := Cursor.reads_countedU8 short characterSetIds
      (fun value _ => reads_u16Be short value) hcount
    exact (hids.map informDisplayableCharacterSet).run _
  | getElementAttributes identifier attributeIds =>
    obtain ⟨count, hcount, hparameters⟩ := except_bind_eq_ok hparameters
    cases hparameters
    exact ((reads_u64Be short identifier).bind
      ((reads_u32List attributeIds hcount).map (getElementAttributes identifier))).run _
  | registerNotification eventId playbackInterval =>
    cases hparameters
    exact ((reads_u8 short eventId).bind
      ((reads_u32Be short playbackInterval).map (registerNotification eventId))).run _
  | getFolderItems scope startItem endItem attributes =>
    obtain ⟨count, hcount, hparameters⟩ := except_bind_eq_ok hparameters
    cases hparameters
    exact ((reads_u8 short scope).bind ((reads_u32Be short startItem).bind
      ((reads_u32Be short endItem).bind ((reads_u32List attributes hcount).map
        (getFolderItems scope startItem endItem))))).run _
  | changePath uidCounter direction folderUid =>
    cases hparameters
    exact ((reads_u16Be short uidCounter).bind ((reads_u8 short direction).bind
      ((reads_u64Be short folderUid).map (changePath uidCounter direction)))).run _
  | getItemAttributes scope uid uidCounter attributes =>
    obtain ⟨count, hcount, hparameters⟩ := except_bind_eq_ok hparameters
    cases hparameters
    have hlist := Cursor.reads_countedU8 short attributes
      (fun value _ => reads_u32Le short value) hcount
    exact ((reads_u8 short scope).bind ((reads_u64Be short uid).bind
      ((reads_u16Be short uidCounter).bind
        (hlist.map (getItemAttributes scope uid uidCounter))))).run _
  | playItem scope uid uidCounter =>
    cases hparameters
    exact ((reads_u8 short scope).bind ((reads_u64Be short uid).bind
      ((reads_u16Be short uidCounter).map (playItem scope uid)))).run _
  | addToNowPlaying scope uid uidCounter =>
    cases hparameters
    exact ((reads_u8 short scope).bind ((reads_u64Be short uid).bind
      ((reads_u16Be short uidCounter).map (addToNowPlaying scope uid)))).run _
  | search characterSetId searchString =>
    obtain ⟨count, hcount, hparameters⟩ := except_bind_eq_ok hparameters
    cases hparameters
    exact ((reads_u16Be short characterSetId).bind
      ((Cursor.reads_stringU16 short searchString hcount).map (search characterSetId))).run _
  | unknown pduId bytes =>
    cases hparameters
    change (reader pduId).run _ _ = _
    rw [reader_untyped htyped]
    rfl

end Command

/-! ## 3. Events -/

namespace Event

theorem exact_of_length {data : Bytes} {length : Nat} (hlength : data.length = length) :
    exact data length = .ok data := by
  rw [exact, if_neg (by omega), if_neg (by omega)]

theorem settingsOf_flatMap (settings : List PlayerApplicationSetting) :
    settingsOf (settings.flatMap PlayerApplicationSetting.toBytes) = settings := by
  have hlengths : ∀ piece ∈ settings.map PlayerApplicationSetting.toBytes, piece.length = 2 := by
    intro piece hpiece
    obtain ⟨setting, -, rfl⟩ := List.mem_map.mp hpiece
    rfl
  rw [settingsOf, List.flatMap_def, chunks_of_flatten (by decide) hlengths, List.map_map]
  exact List.map_id settings

theorem length_flatMap_toBytes (settings : List PlayerApplicationSetting) :
    (settings.flatMap PlayerApplicationSetting.toBytes).length = settings.length * 2 := by
  induction settings with
  | nil => rfl
  | cons setting settings ih =>
    rw [List.flatMap_cons, List.length_append, ih, List.length_cons, Nat.succ_mul, Nat.add_comm]
    rfl

def Known : Event → Prop
  | unknown _ _ => False
  | _ => True

theorem fromBytes_toBytes {event : Event} (hknown : event.Known) {bytes : Bytes}
    (hbytes : event.toBytes = .ok bytes) : fromBytes bytes = .ok event := by
  obtain ⟨data, hdata, hbytes⟩ := except_bind_eq_ok hbytes
  cases hbytes
  cases event with
  | playbackStatusChanged octet | volumeChanged octet =>
    cases hdata
    rfl
  | nowPlayingContentChanged | availablePlayersChanged =>
    cases hdata
    rfl
  | playbackPositionChanged playbackPosition =>
    cases hdata
    change Except.ok (playbackPositionChanged
      (UInt32.ofNat (beToNat (natToBe 4 playbackPosition.toNat)))) = _
    rw [beToNat_natToBe 4 playbackPosition.toNat_lt, UInt32.ofNat_toNat]
  | trackChanged uid =>
    cases hdata
    change Except.ok (trackChanged (UInt64.ofNat (beToNat (natToBe 8 uid.toNat)))) = _
    rw [beToNat_natToBe 8 uid.toNat_lt, UInt64.ofNat_toNat]
  | uidsChanged uidCounter =>
    cases hdata
    change Except.ok (uidsChanged (UInt16.ofNat (beToNat (natToBe 2 uidCounter.toNat)))) = _
    rw [beToNat_natToBe 2 uidCounter.toNat_lt, UInt16.ofNat_toNat]
  | addressedPlayerChanged playerId uidCounter =>
    cases hdata
    change Except.ok (addressedPlayerChanged (UInt16.ofNat (beToNat (natToBe 2 playerId.toNat)))
      (UInt16.ofNat (beToNat (natToBe 2 uidCounter.toNat)))) = _
    rw [beToNat_natToBe 2 playerId.toNat_lt, beToNat_natToBe 2 uidCounter.toNat_lt,
      UInt16.ofNat_toNat, UInt16.ofNat_toNat]
  | playerApplicationSettingChanged settings =>
    obtain ⟨count, hcount, hdata⟩ := except_bind_eq_ok hdata
    cases hdata
    obtain ⟨rfl, hlength⟩ := pushCountU8_eq_ok hcount
    change (exact (settings.flatMap PlayerApplicationSetting.toBytes)
      ((UInt8.ofNat settings.length).toNat * 2) >>= fun entries =>
        pure (playerApplicationSettingChanged (settingsOf entries))) = _
    rw [hlength, exact_of_length (length_flatMap_toBytes settings)]
    exact congrArg (fun settings => Except.ok (playerApplicationSettingChanged settings))
      (settingsOf_flatMap settings)
  | unknown eventId data => exact hknown.elim

end Event

/-! ## 4. Responses of a target -/

namespace Response

theorem encodeAll_events (eventIds : List EventId) :
    encodeAll capabilityBytes (eventIds.map .event) = .ok eventIds := by
  have hall : (eventIds.map Capability.event).mapM capabilityBytes =
      .ok ((eventIds.map Capability.event).map fun
        | .event eventId => [eventId]
        | _ => []) := by
    apply except_mapM_of_forall
    intro capability hcapability
    obtain ⟨eventId, -, rfl⟩ := List.mem_map.mp hcapability
    rfl
  rw [encodeAll, hall, List.map_map]
  change Except.ok (eventIds.map fun eventId => [eventId]).flatten = _
  rw [← List.flatMap_def, List.flatMap_singleton']

def companyOctets (companyId : UInt32) : Bytes := (u32ToBe companyId).drop 1

theorem length_companyOctets (companyId : UInt32) : (companyOctets companyId).length = 3 := by
  rw [companyOctets, List.length_drop, u32ToBe, length_natToBe]

theorem companyOctets_decode {companyId : UInt32} (hsmall : ¬ companyId > 0xFFFFFF) :
    UInt32.ofNat (beToNat (0 :: companyOctets companyId)) = companyId := by
  have hbound : companyId.toNat ≤ 0xFFFFFF := UInt32.le_iff_toNat_le.mp (UInt32.not_lt.mp hsmall)
  have hfirst : u32ToBe companyId = 0 :: companyOctets companyId := by
    change UInt8.ofNat (companyId.toNat / 256 / 256 / 256 % 256) :: companyOctets companyId = _
    have hzero : companyId.toNat / 256 / 256 / 256 % 256 = 0 := by omega
    rw [hzero]
    rfl
  rw [← hfirst, u32ToBe, beToNat_natToBe 4 companyId.toNat_lt, UInt32.ofNat_toNat]

theorem encodeAll_companyIds {companyIds : List UInt32} {bytes : Bytes}
    (hall : encodeAll capabilityBytes (companyIds.map .companyId) = .ok bytes) :
    bytes = (companyIds.map companyOctets).flatten ∧
      ∀ companyId ∈ companyIds, ¬ companyId > 0xFFFFFF := by
  obtain ⟨pieces, hpieces, hflat⟩ := except_bind_eq_ok hall
  cases hflat
  have heach := List.forall₂_map_left_iff.mp (except_mapM_eq_ok hpieces)
  clear hpieces hall
  induction heach with
  | nil => exact ⟨rfl, fun companyId hmem => by cases hmem⟩
  | cons hfirst _ ih =>
    rename_i companyId piece companyIds pieces _
    rw [capabilityBytes] at hfirst
    split at hfirst
    · cases hfirst
    · next hsmall =>
      cases hfirst
      refine ⟨?_, ?_⟩
      · rw [List.flatten_cons, List.map_cons, List.flatten_cons, ih.1]
        rfl
      · intro other hother
        rcases List.mem_cons.mp hother with rfl | hother
        · exact hsmall
        · exact ih.2 other hother

theorem parseCapabilities_companyIds {companyIds : List UInt32}
    (hsmall : ∀ companyId ∈ companyIds, ¬ companyId > 0xFFFFFF) :
    parseCapabilities CapabilityId.companyId companyIds.length
      (companyIds.map companyOctets).flatten = .ok (companyIds.map .companyId) := by
  have hlengths : ∀ piece ∈ companyIds.map companyOctets, piece.length = 3 := by
    intro piece hpiece
    obtain ⟨companyId, -, rfl⟩ := List.mem_map.mp hpiece
    exact length_companyOctets companyId
  have hlength : (companyIds.map companyOctets).flatten.length = 3 * companyIds.length := by
    rw [List.length_flatten, List.map_congr_left hlengths, List.map_const', List.sum_replicate,
      List.length_map, smul_eq_mul, Nat.mul_comm]
  rw [parseCapabilities, if_neg (by decide)]
  by_cases hempty : companyIds = []
  · subst hempty
    rfl
  · have hpositive : 0 < companyIds.length := List.length_pos_iff.mpr hempty
    rw [if_neg hpositive.ne', hlength, if_neg (by rw [Nat.mul_mod_left]; simp)]
    dsimp only
    rw [Nat.mul_div_cancel _ hpositive, if_neg (by decide), chunks_of_flatten (by decide) hlengths,
      List.map_map]
    congr 1
    apply List.map_congr_left
    intro companyId hmem
    rw [Function.comp_apply, if_pos ⟨rfl, rfl⟩, companyOctets_decode (hsmall companyId hmem)]

inductive Composed : Response → Prop where
  | events (eventIds : List EventId) :
    Composed (getCapabilities CapabilityId.eventsSupported (eventIds.map .event))
  | companyIds (companyIds : List UInt32) :
    Composed (getCapabilities CapabilityId.companyId (companyIds.map .companyId))
  | volume (volume : UInt8) : Composed (setAbsoluteVolume volume)
  | playStatus (songLength songPosition : UInt32) (playStatus : PlayStatus) :
    Composed (getPlayStatus songLength songPosition playStatus)
  | attributes (attributes : List ApplicationSettingAttributeId) :
    Composed (listPlayerApplicationSettingAttributes attributes)
  | values (values : List ApplicationSettingValue) :
    Composed (listPlayerApplicationSettingValues values)
  | settings (settings : List PlayerApplicationSetting) :
    Composed (getCurrentPlayerApplicationSettingValue settings)
  | settingsSet : Composed setPlayerApplicationSettingValue
  | itemPlayed (status : StatusCode) : Composed (playItem status)
  | notification (event : Event) : event.Known → Composed (registerNotification event)

/-- A composed response reads back from its parameters, one case for each PDU. -/
theorem fromParameters_toParameters {response : Response} (hcomposed : response.Composed)
    {parameters : Bytes} (hparameters : response.toParameters = .ok parameters) :
    fromParameters response.pduId parameters = .ok response := by
  cases hcomposed with
  | events eventIds =>
    obtain ⟨rest, hrest, hparameters⟩ := except_bind_eq_ok hparameters
    cases hparameters
    obtain ⟨count, hcount, hrest⟩ := except_bind_eq_ok hrest
    obtain ⟨rfl, hlength⟩ := pushCountU8_eq_ok hcount
    rw [encodeAll_events] at hrest
    cases hrest
    rw [List.length_map] at hlength
    have hparse : parseCapabilities CapabilityId.eventsSupported
        (UInt8.ofNat (eventIds.map Capability.event).length).toNat eventIds =
        .ok (eventIds.map .event) := by
      rw [parseCapabilities, if_pos rfl, List.length_map, hlength, if_neg (by simp)]
    exact (reads_u8 responseShort CapabilityId.eventsSupported).bind_run
      ((reads_u8 responseShort (UInt8.ofNat (eventIds.map Capability.event).length)).bind_run
        (run_rest hparse (getCapabilities CapabilityId.eventsSupported) _))
  | companyIds companyIds =>
    obtain ⟨rest, hrest, hparameters⟩ := except_bind_eq_ok hparameters
    cases hparameters
    obtain ⟨count, hcount, hrest⟩ := except_bind_eq_ok hrest
    obtain ⟨rfl, hlength⟩ := pushCountU8_eq_ok hcount
    obtain ⟨bytes, hbytes, hrest⟩ := except_bind_eq_ok hrest
    cases hrest
    obtain ⟨rfl, hsmall⟩ := encodeAll_companyIds hbytes
    rw [List.length_map] at hlength
    have hparse : parseCapabilities CapabilityId.companyId
        (UInt8.ofNat (companyIds.map Capability.companyId).length).toNat
        (companyIds.map companyOctets).flatten = .ok (companyIds.map .companyId) := by
      rw [List.length_map, hlength]
      exact parseCapabilities_companyIds hsmall
    exact (reads_u8 responseShort CapabilityId.companyId).bind_run
      ((reads_u8 responseShort (UInt8.ofNat (companyIds.map Capability.companyId).length)).bind_run
        (run_rest hparse (getCapabilities CapabilityId.companyId) _))
  | volume volume =>
    cases hparameters
    exact ((reads_u8 responseShort volume).map setAbsoluteVolume).run _
  | playStatus songLength songPosition playStatus =>
    cases hparameters
    exact ((reads_u32Be responseShort songLength).bind ((reads_u32Be responseShort
      songPosition).bind ((reads_u8 responseShort playStatus).map
        (getPlayStatus songLength songPosition)))).run _
  | attributes attributes =>
    obtain ⟨count, hcount, hparameters⟩ := except_bind_eq_ok hparameters
    cases hparameters
    exact ((Cursor.reads_countedU8s responseShort attributes hcount).map
      listPlayerApplicationSettingAttributes).run _
  | values values =>
    obtain ⟨count, hcount, hparameters⟩ := except_bind_eq_ok hparameters
    cases hparameters
    exact ((Cursor.reads_countedU8s responseShort values hcount).map
      listPlayerApplicationSettingValues).run _
  | settings settings =>
    obtain ⟨count, hcount, hparameters⟩ := except_bind_eq_ok hparameters
    cases hparameters
    have hsettings := Cursor.reads_countedU8 responseShort settings
      (fun setting _ => Cursor.reads_setting responseShort setting) hcount
    exact (hsettings.map getCurrentPlayerApplicationSettingValue).run _
  | settingsSet =>
    cases hparameters
    rfl
  | itemPlayed status =>
    cases hparameters
    exact ((reads_u8 responseShort status).map playItem).run _
  | notification event hknown =>
    have hevent := Event.fromBytes_toBytes hknown hparameters
    exact run_rest hevent registerNotification _

end Response

end Bumble.Avrcp
