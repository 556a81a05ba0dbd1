import Bumble.AvrcpCodec
import Bumble.ReaderInversion

/-!
# Parameters that are accepted are written again

A command, an event or a response that has been decoded is encoded as exactly the octets it
was decoded from: the readers use up their input, at each level of nesting, and what
they read has one encoding.
-/

namespace Bumble.Avrcp

open OctetReader

variable {short : Error} {bytes later : Bytes}

/-! ## 1. Fields -/

theorem pushCountU8_toNat (count : UInt8) (field : String) :
    pushCountU8 count.toNat field = .ok [count] := by
  rw [pushCountU8, if_pos count.toNat_lt, UInt8.ofNat_toNat]

theorem pushCountU16_toNat (count : UInt16) (field : String) :
    pushCountU16 count.toNat field = .ok (u16ToBe count) := by
  rw [pushCountU16, if_pos count.toNat_lt, UInt16.ofNat_toNat]

namespace Cursor

theorem countedU8s_eq_ok (field : String) {octets : Bytes}
    (hread : countedU8s short bytes = .ok (octets, later)) :
    ∃ count, pushCountU8 octets.length field = .ok count ∧ bytes = count ++ octets ++ later := by
  obtain ⟨count, middle, hcount, hread⟩ := bind_eq_ok hread
  obtain ⟨rfl, hlength⟩ := take_eq_ok hread
  refine ⟨[count], ?_, u8_eq_ok hcount⟩
  rw [hlength, pushCountU8_toNat]

section Lists

variable {α : Type} {reader : OctetReader Error α} {stands : α → Bytes → Prop} {values : List α}

theorem countedU8_eq_ok (field : String) (htakes : Takes reader stands)
    (hread : countedU8 short reader bytes = .ok (values, later)) :
    ∃ count pieces, pushCountU8 values.length field = .ok count ∧
      List.Forall₂ stands values pieces ∧ bytes = count ++ (pieces.flatten ++ later) := by
  obtain ⟨count, middle, hcount, hread⟩ := bind_eq_ok hread
  obtain ⟨hlength, pieces, hpieces, rfl⟩ := replicate_eq_ok htakes count.toNat hread
  refine ⟨[count], pieces, ?_, hpieces, u8_eq_ok hcount⟩
  rw [hlength, pushCountU8_toNat]

theorem countedU16_eq_ok (field : String) (htakes : Takes reader stands)
    (hread : countedU16 short reader bytes = .ok (values, later)) :
    ∃ count pieces, pushCountU16 values.length field = .ok count ∧
      List.Forall₂ stands values pieces ∧ bytes = count ++ (pieces.flatten ++ later) := by
  obtain ⟨count, middle, hcount, hread⟩ := bind_eq_ok hread
  obtain ⟨hlength, pieces, hpieces, rfl⟩ := replicate_eq_ok htakes count.toNat hread
  refine ⟨u16ToBe count, pieces, ?_, hpieces, u16Be_eq_ok hcount⟩
  rw [hlength, pushCountU16_toNat]

theorem countedU8_total (field : String) {encode : α → Bytes}
    (htakes : ∀ {bytes value later}, reader bytes = .ok (value, later) →
      bytes = encode value ++ later)
    (hread : countedU8 short reader bytes = .ok (values, later)) :
    ∃ count, pushCountU8 values.length field = .ok count ∧
      bytes = count ++ values.flatMap encode ++ later := by
  have hstands : Takes reader fun value piece => piece = encode value :=
    fun hvalue => ⟨_, rfl, htakes hvalue⟩
  obtain ⟨count, pieces, hcount, hpieces, rfl⟩ := countedU8_eq_ok field hstands hread
  rw [flatten_of_forall₂ hpieces, ← List.append_assoc]
  exact ⟨count, hcount, rfl⟩

end Lists

theorem stringU16_eq_ok (field : String) {text : String}
    (hread : stringU16 short bytes = .ok (text, later)) :
    ∃ count, pushCountU16 (stringBytes text).length field = .ok count ∧
      bytes = count ++ stringBytes text ++ later := by
  obtain ⟨count, middle, hcount, hread⟩ := bind_eq_ok hread
  obtain ⟨rfl, hlength⟩ := string_eq_ok hread
  refine ⟨u16ToBe count, ?_, ?_⟩
  · rw [hlength, pushCountU16_toNat]
  · rw [List.append_assoc]
    exact u16Be_eq_ok hcount

theorem stringU8_eq_ok (field : String) {text : String}
    (hread : stringU8 short bytes = .ok (text, later)) :
    ∃ count, pushCountU8 (stringBytes text).length field = .ok count ∧
      bytes = count ++ stringBytes text ++ later := by
  obtain ⟨count, middle, hcount, hread⟩ := bind_eq_ok hread
  obtain ⟨rfl, hlength⟩ := string_eq_ok hread
  refine ⟨[count], ?_, u8_eq_ok hcount⟩
  rw [hlength, pushCountU8_toNat]

theorem setting_eq_ok {setting : PlayerApplicationSetting}
    (hread : Cursor.setting short bytes = .ok (setting, later)) :
    bytes = setting.toBytes ++ later := by
  obtain ⟨attributeId, middle, hattribute, hread⟩ := bind_eq_ok hread
  obtain ⟨value, last, hvalue, hread⟩ := bind_eq_ok hread
  cases hread
  rw [u8_eq_ok hattribute, u8_eq_ok hvalue]
  rfl

end Cursor

/-! ## 2. Commands -/

namespace Command

theorem toParameters_of_list {count : Bytes} {value : Except Error Bytes} {f : Bytes → Bytes}
    (hcount : value = .ok count) :
    (do pure (f (← value)) : Except Error Bytes) = .ok (f count) := by
  rw [hcount]
  rfl

/-- **Commands.** -/
theorem toParameters_fromParameters {pduId : PduId} {parameters : Bytes} {command : Command}
    (hparse : fromParameters pduId parameters = .ok command) :
    command.pduId = pduId ∧ command.toParameters = .ok parameters := by
  have hread := run_eq_ok hparse
  unfold reader at hread
  split at hread
  -- one octet
  case h_1 | h_3 | h_9 | h_13 | h_20 =>
    obtain ⟨octet, later, hoctet, hread⟩ := bind_eq_ok hread
    cases hread
    cases u8_eq_ok hoctet
    exact ⟨rfl, rfl⟩
  -- nothing
  case h_2 | h_11 =>
    cases hread
    exact ⟨rfl, rfl⟩
  -- a list of octets
  case h_4 | h_6 =>
    obtain ⟨octets, later, hoctets, hread⟩ := bind_eq_ok hread
    cases hread
    obtain ⟨count, hcount, rfl⟩ := Cursor.countedU8s_eq_ok "AVRCP list count" hoctets
    rw [List.append_nil]
    exact ⟨rfl, toParameters_of_list hcount⟩
  case h_5 =>
    obtain ⟨settings, later, hsettings, hread⟩ := bind_eq_ok hread
    cases hread
    obtain ⟨count, hcount, rfl⟩ := Cursor.countedU8_total "AVRCP list count"
      Cursor.setting_eq_ok hsettings
    rw [List.append_nil]
    exact ⟨rfl, toParameters_of_list hcount⟩
  case h_7 =>
    obtain ⟨attributeId, middle, hattribute, hread⟩ := bind_eq_ok hread
    obtain ⟨values, later, hvalues, hread⟩ := bind_eq_ok hread
    cases hread
    cases u8_eq_ok hattribute
    obtain ⟨count, hcount, rfl⟩ := Cursor.countedU8s_eq_ok "AVRCP list count" hvalues
    rw [List.append_nil]
    exact ⟨rfl, toParameters_of_list hcount⟩
  case h_8 =>
    obtain ⟨characterSetIds, later, hids, hread⟩ := bind_eq_ok hread
    cases hread
    obtain ⟨count, hcount, rfl⟩ := Cursor.countedU8_total "AVRCP list count" u16Be_eq_ok hids
    rw [List.append_nil]
    exact ⟨rfl, toParameters_of_list hcount⟩
  case h_10 =>
    obtain ⟨identifier, middle, hidentifier, hread⟩ := bind_eq_ok hread
    obtain ⟨attributeIds, later, hids, hread⟩ := bind_eq_ok hread
    cases hread
    obtain ⟨count, hcount, rfl⟩ := Cursor.countedU8_total "AVRCP list count" u32Be_eq_ok hids
    cases u64Be_eq_ok hidentifier
    rw [List.append_nil]
    exact ⟨rfl, toParameters_of_list hcount⟩
  case h_12 =>
    obtain ⟨eventId, middle, hevent, hread⟩ := bind_eq_ok hread
    obtain ⟨playbackInterval, later, hinterval, hread⟩ := bind_eq_ok hread
    cases hread
    rw [u8_eq_ok hevent, u32Be_eq_ok hinterval, List.append_nil]
    exact ⟨rfl, rfl⟩
  -- two octets
  case h_14 | h_15 =>
    obtain ⟨playerId, later, hplayer, hread⟩ := bind_eq_ok hread
    cases hread
    rw [u16Be_eq_ok hplayer, List.append_nil]
    exact ⟨rfl, rfl⟩
  case h_16 =>
    obtain ⟨scope, middle, hscope, hread⟩ := bind_eq_ok hread
    obtain ⟨startItem, middle', hstart, hread⟩ := bind_eq_ok hread
    obtain ⟨endItem, last, hend, hread⟩ := bind_eq_ok hread
    obtain ⟨attributes, later, hattributes, hread⟩ := bind_eq_ok hread
    cases hread
    obtain ⟨count, hcount, rfl⟩ :=
      Cursor.countedU8_total "AVRCP list count" u32Be_eq_ok hattributes
    rw [u8_eq_ok hscope, u32Be_eq_ok hstart, u32Be_eq_ok hend, List.append_nil]
    exact ⟨rfl, toParameters_of_list hcount⟩
  case h_17 =>
    obtain ⟨uidCounter, middle, hcounter, hread⟩ := bind_eq_ok hread
    obtain ⟨direction, last, hdirection, hread⟩ := bind_eq_ok hread
    obtain ⟨folderUid, later, hfolder, hread⟩ := bind_eq_ok hread
    cases hread
    rw [u16Be_eq_ok hcounter, u8_eq_ok hdirection, u64Be_eq_ok hfolder, List.append_nil]
    exact ⟨rfl, rfl⟩
  case h_18 =>
    obtain ⟨scope, middle, hscope, hread⟩ := bind_eq_ok hread
    obtain ⟨uid, middle', huid, hread⟩ := bind_eq_ok hread
    obtain ⟨uidCounter, last, hcounter, hread⟩ := bind_eq_ok hread
    obtain ⟨attributes, later, hattributes, hread⟩ := bind_eq_ok hread
    cases hread
    obtain ⟨count, hcount, rfl⟩ :=
      Cursor.countedU8_total "AVRCP list count" u32Le_eq_ok hattributes
    rw [u8_eq_ok hscope, u64Be_eq_ok huid, u16Be_eq_ok hcounter, List.append_nil]
    exact ⟨rfl, toParameters_of_list hcount⟩
  -- an item
  case h_19 | h_22 =>
    obtain ⟨scope, middle, hscope, hread⟩ := bind_eq_ok hread
    obtain ⟨uid, last, huid, hread⟩ := bind_eq_ok hread
    obtain ⟨uidCounter, later, hcounter, hread⟩ := bind_eq_ok hread
    cases hread
    rw [u8_eq_ok hscope, u64Be_eq_ok huid, u16Be_eq_ok hcounter, List.append_nil]
    exact ⟨rfl, rfl⟩
  case h_21 =>
    obtain ⟨characterSetId, middle, hid, hread⟩ := bind_eq_ok hread
    obtain ⟨text, later, htext, hread⟩ := bind_eq_ok hread
    cases hread
    obtain ⟨count, hcount, rfl⟩ := Cursor.stringU16_eq_ok "AVRCP search string" htext
    rw [u16Be_eq_ok hid, List.append_nil]
    exact ⟨rfl, toParameters_of_list hcount⟩
  -- any other id
  case h_23 =>
    cases hread
    exact ⟨rfl, rfl⟩

end Command

/-! ## 3. Events -/

namespace Event

theorem exact_eq_ok {data octets : Bytes} {length : Nat} (hexact : exact data length = .ok octets) :
    octets = data ∧ data.length = length := by
  rw [exact] at hexact
  split at hexact
  · cases hexact
  · split at hexact
    · cases hexact
    · cases hexact
      exact ⟨rfl, by omega⟩

theorem one_eq_ok {data : Bytes} {octet : UInt8} (hone : one data = .ok octet) :
    data = [octet] := by
  obtain ⟨octets, hexact, hone⟩ := except_bind_eq_ok hone
  obtain ⟨rfl, hlength⟩ := exact_eq_ok hexact
  obtain ⟨octet', rfl⟩ := List.length_eq_one_iff.mp hlength
  cases hone
  rfl

theorem u16ToBe_beToNat {octets : Bytes} (hlength : octets.length = 2) :
    u16ToBe (UInt16.ofNat (beToNat octets)) = octets :=
  natToBe_of_length hlength
    (UInt16.toNat_ofNat_of_lt' (by simpa using beToNat_lt_of_length hlength))

theorem flatMap_settingsOf {entries : Bytes} {count : Nat} (hlength : entries.length = count * 2) :
    (settingsOf entries).length = count ∧
      (settingsOf entries).flatMap PlayerApplicationSetting.toBytes = entries := by
  obtain ⟨pieces, hcount, hpieces, rfl⟩ := exists_pieces 2 count hlength
  rw [settingsOf, chunks_of_flatten (by decide) hpieces]
  refine ⟨by rw [List.length_map, hcount], ?_⟩
  rw [List.flatMap_map, List.flatMap_def]
  congr 1
  conv_rhs => rw [← List.map_id pieces]
  apply List.map_congr_left
  intro piece hpiece
  obtain ⟨first, second, rfl⟩ := List.length_eq_two.mp (hpieces piece hpiece)
  rfl

/-- **Events.** -/
theorem toBytes_fromBytes {event : Event} (hparse : fromBytes bytes = .ok event) :
    event.toBytes = .ok bytes := by
  cases bytes with
  | nil => cases hparse
  | cons eventId data =>
    change fromData eventId data = .ok event at hparse
    unfold fromData at hparse
    split at hparse
    case h_1 | h_9 =>
      obtain ⟨octet, hone, hparse⟩ := except_bind_eq_ok hparse
      cases hparse
      cases one_eq_ok hone
      rfl
    case h_2 =>
      obtain ⟨octets, hexact, hparse⟩ := except_bind_eq_ok hparse
      cases hparse
      obtain ⟨rfl, hlength⟩ := exact_eq_ok hexact
      change Except.ok (_ :: natToBe 4 _) = _
      rw [natToBe_of_length hlength
        (UInt32.toNat_ofNat_of_lt' (by simpa using beToNat_lt_of_length hlength))]
      rfl
    case h_3 =>
      obtain ⟨octets, hexact, hparse⟩ := except_bind_eq_ok hparse
      cases hparse
      obtain ⟨rfl, hlength⟩ := exact_eq_ok hexact
      change Except.ok (_ :: natToBe 8 _) = _
      rw [natToBe_of_length hlength
        (UInt64.toNat_ofNat_of_lt' (by simpa using beToNat_lt_of_length hlength))]
      rfl
    case h_4 =>
      split at hparse
      · cases hparse
      · next count entries =>
        obtain ⟨octets, hexact, hparse⟩ := except_bind_eq_ok hparse
        cases hparse
        obtain ⟨rfl, hlength⟩ := exact_eq_ok hexact
        obtain ⟨hcount, hflat⟩ := flatMap_settingsOf hlength
        have hdata : (playerApplicationSettingChanged (settingsOf octets)).dataBytes =
            .ok (count :: octets) := by
          rw [dataBytes, hcount, pushCountU8_toNat, hflat]
          rfl
        rw [toBytes, hdata]
        rfl
    case h_5 | h_6 =>
      obtain ⟨octets, hexact, hparse⟩ := except_bind_eq_ok hparse
      cases hparse
      obtain ⟨rfl, hlength⟩ := exact_eq_ok hexact
      rw [List.eq_nil_of_length_eq_zero hlength]
      rfl
    case h_7 =>
      obtain ⟨octets, hexact, hparse⟩ := except_bind_eq_ok hparse
      cases hparse
      obtain ⟨rfl, hlength⟩ := exact_eq_ok hexact
      change Except.ok (_ :: (u16ToBe _ ++ u16ToBe _)) = _
      rw [u16ToBe_beToNat (by rw [List.length_take]; omega),
        u16ToBe_beToNat (by rw [List.length_drop]; omega), List.take_append_drop]
      rfl
    case h_8 =>
      obtain ⟨octets, hexact, hparse⟩ := except_bind_eq_ok hparse
      cases hparse
      obtain ⟨rfl, hlength⟩ := exact_eq_ok hexact
      change Except.ok (_ :: u16ToBe _) = _
      rw [u16ToBe_beToNat hlength]
      rfl
    case h_10 =>
      cases hparse
      rfl

end Event

/-! ## 4. Browseable items -/

theorem pushStringU16_eq {text : String} {count : Bytes}
    (hcount : pushCountU16 (stringBytes text).length "AVRCP string length" = .ok count) :
    pushStringU16 text = .ok (count ++ stringBytes text) := by
  rw [pushStringU16, hcount]
  rfl

theorem takes_stringU16 : Takes (Cursor.stringU16 short)
    fun text piece => pushStringU16 text = .ok piece := by
  intro bytes text later hread
  obtain ⟨count, hcount, rfl⟩ := Cursor.stringU16_eq_ok "AVRCP string length" hread
  exact ⟨_, pushStringU16_eq hcount, rfl⟩

theorem takes_stringU8 : Takes (Cursor.stringU8 short)
    fun text piece => pushStringU8 text = .ok piece := by
  intro bytes text later hread
  obtain ⟨count, hcount, rfl⟩ := Cursor.stringU8_eq_ok "AVRCP one-byte string length" hread
  refine ⟨count ++ stringBytes text, ?_, rfl⟩
  change pushStringU8 text = _
  rw [pushStringU8, hcount]
  rfl

theorem takes_mediaAttribute : Takes parseMediaAttribute
    fun entry piece => encodeMediaAttribute entry = .ok piece := by
  intro bytes entry later hread
  obtain ⟨attributeId, middle, hattribute, hread⟩ := bind_eq_ok hread
  obtain ⟨characterSetId, middle', hset, hread⟩ := bind_eq_ok hread
  obtain ⟨text, last, htext, hread⟩ := bind_eq_ok hread
  cases hread
  obtain ⟨piece, hpiece, rfl⟩ := takes_stringU16 htext
  refine ⟨u32ToBe attributeId ++ (u16ToBe characterSetId ++ piece), ?_, ?_⟩
  · change encodeMediaAttribute ⟨attributeId, characterSetId, text⟩ = _
    rw [encodeMediaAttribute, hpiece]
    rfl
  · rw [u32Be_eq_ok hattribute, u16Be_eq_ok hset, List.append_assoc, List.append_assoc]

theorem takes_attributeText : Takes parseAttributeText
    fun entry piece => encodeAttributeText entry = .ok piece := by
  intro bytes entry later hread
  obtain ⟨attributeId, middle, hattribute, hread⟩ := bind_eq_ok hread
  obtain ⟨characterSetId, middle', hset, hread⟩ := bind_eq_ok hread
  obtain ⟨text, last, htext, hread⟩ := bind_eq_ok hread
  cases hread
  obtain ⟨piece, hpiece, rfl⟩ := takes_stringU8 htext
  refine ⟨attributeId :: (u16ToBe characterSetId ++ piece), ?_, ?_⟩
  · change encodeAttributeText ⟨attributeId, characterSetId, text⟩ = _
    rw [encodeAttributeText, hpiece]
    rfl
  · rw [u8_eq_ok hattribute, u16Be_eq_ok hset, List.cons_append, List.append_assoc]

theorem takes_valueText : Takes parseValueText
    fun entry piece => encodeValueText entry = .ok piece := by
  intro bytes entry later hread
  obtain ⟨value, middle, hvalue, hread⟩ := bind_eq_ok hread
  obtain ⟨characterSetId, middle', hset, hread⟩ := bind_eq_ok hread
  obtain ⟨text, last, htext, hread⟩ := bind_eq_ok hread
  cases hread
  obtain ⟨piece, hpiece, rfl⟩ := takes_stringU8 htext
  refine ⟨value :: (u16ToBe characterSetId ++ piece), ?_, ?_⟩
  · change encodeValueText ⟨value, characterSetId, text⟩ = _
    rw [encodeValueText, hpiece]
    rfl
  · rw [u8_eq_ok hvalue, u16Be_eq_ok hset, List.cons_append, List.append_assoc]

theorem encodeAll_of_forall₂ {α : Type} {encode : α → Except Error Bytes} {values : List α}
    {pieces : List Bytes}
    (hall : List.Forall₂ (fun value piece => encode value = .ok piece) values pieces) :
    encodeAll encode values = .ok pieces.flatten := by
  rw [encodeAll, mapM_of_forall₂ hall]
  rfl

namespace BrowseableItem

/-- A browseable item that was read encodes back to the same payload. -/
theorem payloadBytes_payloadReader {itemType : BrowseableItemType} {payload : Bytes}
    {item : BrowseableItem} (hread : payloadReader itemType payload = .ok (item, [])) :
    item.itemType = itemType ∧ item.payloadBytes = .ok payload := by
  unfold payloadReader at hread
  split at hread
  case h_1 =>
    obtain ⟨playerId, bytes₁, hplayer, hread⟩ := bind_eq_ok hread
    obtain ⟨majorPlayerType, bytes₂, hmajor, hread⟩ := bind_eq_ok hread
    obtain ⟨playerSubType, bytes₃, hsub, hread⟩ := bind_eq_ok hread
    obtain ⟨playStatus, bytes₄, hstatus, hread⟩ := bind_eq_ok hread
    obtain ⟨featureBitmask, bytes₅, hfeatures, hread⟩ := bind_eq_ok hread
    obtain ⟨characterSetId, bytes₆, hset, hread⟩ := bind_eq_ok hread
    obtain ⟨displayableName, bytes₇, hname, hread⟩ := bind_eq_ok hread
    cases hread
    obtain ⟨piece, hpiece, rfl⟩ := takes_stringU16 hname
    rw [u16Be_eq_ok hplayer, u8_eq_ok hmajor, u32Le_eq_ok hsub, u8_eq_ok hstatus,
      u128Le_eq_ok hfeatures, u16Be_eq_ok hset, List.append_nil]
    refine ⟨rfl, ?_⟩
    rw [payloadBytes, hpiece]
    rfl
  case h_2 =>
    obtain ⟨folderUid, bytes₁, huid, hread⟩ := bind_eq_ok hread
    obtain ⟨folderType, bytes₂, htype, hread⟩ := bind_eq_ok hread
    obtain ⟨isPlayable, bytes₃, hplayable, hread⟩ := bind_eq_ok hread
    obtain ⟨characterSetId, bytes₄, hset, hread⟩ := bind_eq_ok hread
    obtain ⟨displayableName, bytes₅, hname, hread⟩ := bind_eq_ok hread
    cases hread
    obtain ⟨piece, hpiece, rfl⟩ := takes_stringU16 hname
    rw [u64Be_eq_ok huid, u8_eq_ok htype, u8_eq_ok hplayable, u16Be_eq_ok hset, List.append_nil]
    refine ⟨rfl, ?_⟩
    rw [payloadBytes, hpiece]
    rfl
  case h_3 =>
    obtain ⟨mediaElementUid, bytes₁, huid, hread⟩ := bind_eq_ok hread
    obtain ⟨mediaType, bytes₂, htype, hread⟩ := bind_eq_ok hread
    obtain ⟨characterSetId, bytes₃, hset, hread⟩ := bind_eq_ok hread
    obtain ⟨displayableName, bytes₄, hname, hread⟩ := bind_eq_ok hread
    obtain ⟨attributes, bytes₅, hattributes, hread⟩ := bind_eq_ok hread
    cases hread
    obtain ⟨piece, hpiece, rfl⟩ := takes_stringU16 hname
    obtain ⟨count, pieces, hcount, hpieces, rfl⟩ :=
      Cursor.countedU8_eq_ok "AVRCP media attribute count" takes_mediaAttribute hattributes
    rw [u64Be_eq_ok huid, u8_eq_ok htype, u16Be_eq_ok hset, List.append_nil]
    refine ⟨rfl, ?_⟩
    rw [payloadBytes, hpiece, hcount, encodeAll_of_forall₂ hpieces]
    rfl
  case h_4 =>
    cases hread
    exact ⟨rfl, rfl⟩

theorem takes_parse : Takes parse fun item piece => item.toBytes = .ok piece := by
  intro bytes item later hread
  obtain ⟨itemType, bytes₁, htype, hread⟩ := bind_eq_ok hread
  obtain ⟨length, bytes₂, hlength, hread⟩ := bind_eq_ok hread
  obtain ⟨payload, bytes₃, hpayload, hread⟩ := bind_eq_ok hread
  obtain ⟨hrun, rfl⟩ := lift_eq_ok hread
  obtain ⟨hitem, hbytes⟩ := payloadBytes_payloadReader (run_eq_ok hrun)
  obtain ⟨rfl, hcount⟩ := take_eq_ok hpayload
  refine ⟨itemType :: (u16ToBe length ++ payload), ?_, ?_⟩
  · change item.toBytes = _
    rw [toBytes, hbytes]
    change (do pure (item.itemType :: ((← pushCountU16 payload.length _) ++ payload))) = _
    rw [hcount, pushCountU16_toNat, hitem]
    rfl
  · rw [u8_eq_ok htype, u16Be_eq_ok hlength, List.cons_append, List.append_assoc]

end BrowseableItem

/-! ## 5. Responses -/

namespace Response

theorem capabilityBytes_companyId {chunk : Bytes} (hlength : chunk.length = 3) :
    capabilityBytes (.companyId (UInt32.ofNat (beToNat (0 :: chunk)))) = .ok chunk := by
  have hfour : (0 :: chunk).length = 4 := congrArg Nat.succ hlength
  have hvalue : beToNat (0 :: chunk) = beToNat chunk := by simp [beToNat]
  have hsmall : beToNat chunk < 256 ^ 3 := beToNat_lt_of_length hlength
  have hword : (UInt32.ofNat (beToNat (0 :: chunk))).toNat = beToNat (0 :: chunk) :=
    UInt32.toNat_ofNat_of_lt' (by simpa using beToNat_lt_of_length hfour)
  have hbound : ¬ UInt32.ofNat (beToNat (0 :: chunk)) > 0xFFFFFF := by
    apply UInt32.not_lt.mpr
    apply UInt32.le_iff_toNat_le.mpr
    rw [hword, hvalue]
    change _ ≤ 0xFFFFFF
    omega
  rw [capabilityBytes, if_neg hbound, u32ToBe, natToBe_of_length hfour hword]
  rfl

/-- Capabilities that were read encode back to the same octets. -/
theorem countedBytes_parseCapabilities {capabilityId : CapabilityId} {count : UInt8}
    {remaining : Bytes} {capabilities : List Capability} (field : String)
    (hparse : parseCapabilities capabilityId count.toNat remaining = .ok capabilities) :
    countedBytes field capabilityBytes capabilities = .ok (count :: remaining) := by
  suffices hboth : capabilities.length = count.toNat ∧
      encodeAll capabilityBytes capabilities = .ok remaining by
    rw [countedBytes, hboth.1, pushCountU8_toNat, hboth.2]
    rfl
  rw [parseCapabilities] at hparse
  split at hparse
  · split at hparse
    · cases hparse
    · next hlength =>
      cases hparse
      exact ⟨by rw [List.length_map]; omega, encodeAll_events remaining⟩
  · split at hparse
    · next hzero =>
      split at hparse
      · cases hparse
      · next hempty =>
        cases hparse
        refine ⟨hzero.symm, ?_⟩
        rw [not_not.mp hempty]
        rfl
    · next hpositive =>
      split at hparse
      · cases hparse
      · next hmultiple =>
        dsimp only at hparse
        split at hparse
        · cases hparse
        · next hsize =>
          cases hparse
          have hlength : remaining.length = count.toNat * (remaining.length / count.toNat) :=
            (Nat.mul_div_cancel' (Nat.dvd_of_mod_eq_zero (not_not.mp hmultiple))).symm
          obtain ⟨pieces, hcount, hpieces, hflatten⟩ := exists_pieces _ _ hlength
          have hchunks : chunks (remaining.length / count.toNat) remaining = pieces := by
            have hpositiveSize : 0 < remaining.length / count.toNat := Nat.pos_of_ne_zero hsize
            have hchunks := chunks_of_flatten hpositiveSize hpieces
            rwa [hflatten] at hchunks
          rw [hchunks]
          refine ⟨by rw [List.length_map, hcount], ?_⟩
          conv_rhs => rw [← hflatten]
          apply encodeAll_of_forall₂
          rw [List.forall₂_map_left_iff, List.forall₂_same]
          intro piece hpiece
          split
          · next hcompany =>
            exact capabilityBytes_companyId ((hpieces piece hpiece).trans hcompany.2)
          · rfl

theorem countedBytes_of_forall₂ {α : Type} {field : String} {encode : α → Except Error Bytes}
    {values : List α} {count : Bytes} {pieces : List Bytes}
    (hcount : pushCountU8 values.length field = .ok count)
    (hpieces : List.Forall₂ (fun value piece => encode value = .ok piece) values pieces) :
    countedBytes field encode values = .ok (count ++ pieces.flatten) := by
  rw [countedBytes, hcount, encodeAll_of_forall₂ hpieces]
  rfl

/-- **Responses.** -/
theorem toParameters_fromParameters {pduId : PduId} {parameters : Bytes} {response : Response}
    (hparse : fromParameters pduId parameters = .ok response) :
    response.pduId = pduId ∧ response.toParameters = .ok parameters := by
  have hread := run_eq_ok hparse
  unfold reader at hread
  split at hread
  case h_1 =>
    obtain ⟨capabilityId, bytes₁, hid, hread⟩ := bind_eq_ok hread
    obtain ⟨count, bytes₂, hcount, hread⟩ := bind_eq_ok hread
    obtain ⟨remaining, bytes₃, hrest, hread⟩ := bind_eq_ok hread
    obtain ⟨capabilities, bytes₄, hlift, hread⟩ := bind_eq_ok hread
    cases hread
    obtain ⟨rfl, rfl⟩ := rest_eq_ok hrest
    obtain ⟨hcapabilities, -⟩ := lift_eq_ok hlift
    cases u8_eq_ok hcount
    cases u8_eq_ok hid
    refine ⟨rfl, ?_⟩
    rw [toParameters, countedBytes_parseCapabilities _ hcapabilities]
    rfl
  -- a list of octets
  case h_2 =>
    obtain ⟨octets, later, hoctets, hread⟩ := bind_eq_ok hread
    cases hread
    obtain ⟨count, hcount, rfl⟩ := Cursor.countedU8s_eq_ok "AVRCP attribute count" hoctets
    rw [List.append_nil]
    exact ⟨rfl, Command.toParameters_of_list hcount⟩
  case h_3 =>
    obtain ⟨octets, later, hoctets, hread⟩ := bind_eq_ok hread
    cases hread
    obtain ⟨count, hcount, rfl⟩ := Cursor.countedU8s_eq_ok "AVRCP value count" hoctets
    rw [List.append_nil]
    exact ⟨rfl, Command.toParameters_of_list hcount⟩
  case h_4 =>
    obtain ⟨settings, later, hsettings, hread⟩ := bind_eq_ok hread
    cases hread
    obtain ⟨count, hcount, rfl⟩ := Cursor.countedU8_total "AVRCP setting count"
      Cursor.setting_eq_ok hsettings
    rw [List.append_nil]
    exact ⟨rfl, Command.toParameters_of_list hcount⟩
  -- nothing
  case h_5 | h_8 | h_9 =>
    cases hread
    exact ⟨rfl, rfl⟩
  -- a list of records
  case h_6 =>
    obtain ⟨entries, later, hentries, hread⟩ := bind_eq_ok hread
    cases hread
    obtain ⟨count, pieces, hcount, hpieces, rfl⟩ :=
      Cursor.countedU8_eq_ok "AVRCP attribute text count" takes_attributeText hentries
    rw [List.append_nil]
    exact ⟨rfl, countedBytes_of_forall₂ hcount hpieces⟩
  case h_7 =>
    obtain ⟨entries, later, hentries, hread⟩ := bind_eq_ok hread
    cases hread
    obtain ⟨count, pieces, hcount, hpieces, rfl⟩ :=
      Cursor.countedU8_eq_ok "AVRCP value text count" takes_valueText hentries
    rw [List.append_nil]
    exact ⟨rfl, countedBytes_of_forall₂ hcount hpieces⟩
  case h_10 =>
    obtain ⟨songLength, bytes₁, hlength, hread⟩ := bind_eq_ok hread
    obtain ⟨songPosition, bytes₂, hposition, hread⟩ := bind_eq_ok hread
    obtain ⟨playStatus, bytes₃, hstatus, hread⟩ := bind_eq_ok hread
    cases hread
    rw [u32Be_eq_ok hlength, u32Be_eq_ok hposition, u8_eq_ok hstatus]
    exact ⟨rfl, rfl⟩
  case h_11 =>
    obtain ⟨attributes, later, hattributes, hread⟩ := bind_eq_ok hread
    cases hread
    obtain ⟨count, pieces, hcount, hpieces, rfl⟩ :=
      Cursor.countedU8_eq_ok "AVRCP media attribute count" takes_mediaAttribute hattributes
    rw [List.append_nil]
    exact ⟨rfl, countedBytes_of_forall₂ hcount hpieces⟩
  -- one octet
  case h_12 | h_14 | h_21 | h_22 =>
    obtain ⟨octet, later, hoctet, hread⟩ := bind_eq_ok hread
    cases hread
    cases u8_eq_ok hoctet
    exact ⟨rfl, rfl⟩
  case h_13 =>
    obtain ⟨remaining, bytes₁, hrest, hread⟩ := bind_eq_ok hread
    obtain ⟨event, bytes₂, hlift, hread⟩ := bind_eq_ok hread
    cases hread
    obtain ⟨rfl, rfl⟩ := rest_eq_ok hrest
    obtain ⟨hevent, -⟩ := lift_eq_ok hlift
    exact ⟨rfl, Event.toBytes_fromBytes hevent⟩
  case h_15 =>
    obtain ⟨status, bytes₁, hstatus, hread⟩ := bind_eq_ok hread
    obtain ⟨uidCounter, bytes₂, hcounter, hread⟩ := bind_eq_ok hread
    obtain ⟨numberOfItems, bytes₃, hitems, hread⟩ := bind_eq_ok hread
    obtain ⟨characterSetId, bytes₄, hset, hread⟩ := bind_eq_ok hread
    obtain ⟨folderNames, bytes₅, hnames, hread⟩ := bind_eq_ok hread
    cases hread
    obtain ⟨count, pieces, hcount, hpieces, rfl⟩ :=
      Cursor.countedU8_eq_ok "AVRCP folder count" takes_stringU16 hnames
    rw [u8_eq_ok hstatus, u16Be_eq_ok hcounter, u32Be_eq_ok hitems, u16Be_eq_ok hset,
      List.append_nil]
    exact ⟨rfl, Command.toParameters_of_list (countedBytes_of_forall₂ hcount hpieces)⟩
  case h_16 =>
    obtain ⟨status, bytes₁, hstatus, hread⟩ := bind_eq_ok hread
    obtain ⟨uidCounter, bytes₂, hcounter, hread⟩ := bind_eq_ok hread
    obtain ⟨items, bytes₃, hitems, hread⟩ := bind_eq_ok hread
    cases hread
    obtain ⟨count, pieces, hcount, hpieces, rfl⟩ :=
      Cursor.countedU16_eq_ok "AVRCP item count" BrowseableItem.takes_parse hitems
    rw [u8_eq_ok hstatus, u16Be_eq_ok hcounter, List.append_nil]
    refine ⟨rfl, ?_⟩
    rw [toParameters, hcount, encodeAll_of_forall₂ hpieces]
    rfl
  case h_17 =>
    obtain ⟨status, bytes₁, hstatus, hread⟩ := bind_eq_ok hread
    obtain ⟨numberOfItems, bytes₂, hitems, hread⟩ := bind_eq_ok hread
    cases hread
    rw [u8_eq_ok hstatus, u32Be_eq_ok hitems, List.append_nil]
    exact ⟨rfl, rfl⟩
  case h_18 =>
    obtain ⟨status, bytes₁, hstatus, hread⟩ := bind_eq_ok hread
    obtain ⟨attributes, bytes₂, hattributes, hread⟩ := bind_eq_ok hread
    cases hread
    obtain ⟨count, pieces, hcount, hpieces, rfl⟩ :=
      Cursor.countedU8_eq_ok "AVRCP attribute count" takes_mediaAttribute hattributes
    rw [u8_eq_ok hstatus, List.append_nil]
    exact ⟨rfl, Command.toParameters_of_list (countedBytes_of_forall₂ hcount hpieces)⟩
  case h_19 | h_20 =>
    obtain ⟨status, bytes₁, hstatus, hread⟩ := bind_eq_ok hread
    obtain ⟨uidCounter, bytes₂, hcounter, hread⟩ := bind_eq_ok hread
    obtain ⟨numberOfItems, bytes₃, hitems, hread⟩ := bind_eq_ok hread
    cases hread
    rw [u8_eq_ok hstatus, u16Be_eq_ok hcounter, u32Be_eq_ok hitems, List.append_nil]
    exact ⟨rfl, rfl⟩
  -- any other id
  case h_23 =>
    cases hread
    exact ⟨rfl, rfl⟩

end Response

end Bumble.Avrcp
