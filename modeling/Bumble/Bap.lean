import Bumble.AdvertisingData
import Bumble.LeAudio

/-!
# Announcements of the Basic Audio Profile (`bumble-profiles/src/bap.rs`)

An announcement has subgroups, a subgroup has broadcast streams, and each of them a codec
configuration of tagged entries.  It is advertised as the service data of one advertising
structure, whose length octet wraps.
-/

namespace Bumble.Bap

open OctetReader Profiles LeAudio
open Profiles.Reader (exact_u8 exact_u24 exact_codingFormat exact_lengthPrefixed finish_iff)
open Hci (CodingFormat)

def audioStreamControlService : UInt16 := 0x184E
def basicAudioAnnouncementService : UInt16 := 0x1851

/-- The advertising structure type of service data behind a UUID of 16 bits. -/
def serviceData : UInt8 := 0x16

/-! ## 1. Codec configurations -/

structure CodecSpecificConfiguration where
  samplingFrequency : Option UInt8
  frameDuration : Option UInt8
  audioChannelAllocation : Option UInt32
  octetsPerCodecFrame : Option UInt16
  codecFramesPerSdu : Option UInt8
deriving DecidableEq, Repr

/-- A tag and its value; an entry that was parsed is not empty. -/
def ltvEntry (piece : Bytes) : Except Error (UInt8 × Bytes) := .ok (piece.headD 0, piece.tail)

def parseLtv (data : Bytes) : Except Error (List (UInt8 × Bytes)) :=
  LengthEntries.parse (fun _ => .invalidValue "zero-length LTV entry")
    (fun offset => .invalidValue s!"truncated LTV entry at offset {offset}") ltvEntry
      data.length data

def requireLtvLength (tag : UInt8) (value : Bytes) (expected : Nat) : Except Error Unit :=
  if value.length ≠ expected then
    .error (.invalidValue
      s!"LTV tag 0x{hexUpper 2 tag.toNat} has {value.length} value bytes, expected {expected}")
  else .ok ()

namespace CodecSpecificConfiguration

def default : CodecSpecificConfiguration := ⟨none, none, none, none, none⟩

/-- What an entry changes; tags that are not known are skipped. -/
def apply (configuration : CodecSpecificConfiguration) (entry : UInt8 × Bytes) :
    Except Error CodecSpecificConfiguration :=
  let (tag, value) := entry
  match tag with
  | 0x01 => do
    requireLtvLength tag value 1
    pure { configuration with samplingFrequency := some (value.headD 0) }
  | 0x02 => do
    requireLtvLength tag value 1
    pure { configuration with frameDuration := some (value.headD 0) }
  | 0x03 => do
    requireLtvLength tag value 4
    pure { configuration with audioChannelAllocation := some (leOf value) }
  | 0x04 => do
    requireLtvLength tag value 2
    pure { configuration with octetsPerCodecFrame := some (le16Of value) }
  | 0x05 => do
    requireLtvLength tag value 1
    pure { configuration with codecFramesPerSdu := some (value.headD 0) }
  | _ => .ok configuration

def fromBytes (data : Bytes) : Except Error CodecSpecificConfiguration := do
  let entries ← parseLtv data
  entries.foldlM apply default

def field {α : Type} (value : Option α) (encode : α → Bytes) : Bytes :=
  match value with
  | some value => encode value
  | none => []

def toBytes (configuration : CodecSpecificConfiguration) : Bytes :=
  field configuration.samplingFrequency (fun frequency => [2, 0x01, frequency]) ++
  field configuration.frameDuration (fun duration => [2, 0x02, duration]) ++
  field configuration.audioChannelAllocation (fun location => [5, 0x03] ++ u32ToLe location) ++
  field configuration.octetsPerCodecFrame (fun octets => [3, 0x04] ++ u16ToLe octets) ++
  field configuration.codecFramesPerSdu (fun frames => [2, 0x05, frames])

end CodecSpecificConfiguration

/-! ## 2. Announcements -/

structure BasicAudioBis where
  index : UInt8
  codecSpecificConfiguration : CodecSpecificConfiguration
deriving DecidableEq, Repr

structure BasicAudioSubgroup where
  codecId : CodingFormat
  codecSpecificConfiguration : CodecSpecificConfiguration
  metadata : Metadata
  bis : List BasicAudioBis
deriving DecidableEq, Repr

structure BasicAudioAnnouncement where
  presentationDelay : UInt32
  subgroups : List BasicAudioSubgroup
deriving DecidableEq, Repr

def BasicAudioBis.read (size : Nat) : OctetReader Error BasicAudioBis := do
  let index ← Profiles.Reader.u8 size "BIS index"
  let configuration ← Profiles.Reader.lengthPrefixed size "BIS codec configuration"
  let codecSpecificConfiguration ← lift (CodecSpecificConfiguration.fromBytes configuration)
  pure ⟨index, codecSpecificConfiguration⟩

def BasicAudioBis.toBytes (bis : BasicAudioBis) : Except Error Bytes := do
  let configuration ← pushLengthPrefixed bis.codecSpecificConfiguration.toBytes
    "BIS codec configuration"
  pure ([bis.index] ++ configuration)

namespace BasicAudioSubgroup

def noBis {α : Type} (subgroupIndex : Nat) : Except Error α :=
  .error (.invalidValue s!"basic audio subgroup {subgroupIndex} contains no BIS")

def read (size subgroupIndex : Nat) : OctetReader Error BasicAudioSubgroup := do
  let bisCount ← Profiles.Reader.u8 size "BIS count"
  let codecId ← Profiles.Reader.codingFormat size "codec ID"
  let configuration ← Profiles.Reader.lengthPrefixed size "codec configuration"
  let codecSpecificConfiguration ← lift (CodecSpecificConfiguration.fromBytes configuration)
  let entries ← Profiles.Reader.lengthPrefixed size "subgroup metadata"
  let metadata ← lift (Metadata.fromBytes entries)
  let bis ← replicate (BasicAudioBis.read size) bisCount.toNat
  if bis.isEmpty then lift (noBis subgroupIndex)
  else pure ⟨codecId, codecSpecificConfiguration, metadata, bis⟩

def toBytes (subgroup : BasicAudioSubgroup) (subgroupIndex : Nat) : Except Error Bytes :=
  if 255 < subgroup.bis.length then
    .error (.invalidValue s!"basic audio subgroup {subgroupIndex} has over 255 BIS entries")
  else if subgroup.bis.length = 0 then noBis subgroupIndex
  else do
    let configuration ← pushLengthPrefixed subgroup.codecSpecificConfiguration.toBytes
      "subgroup codec configuration"
    let entries ← subgroup.metadata.toBytes
    let metadata ← pushLengthPrefixed entries "subgroup metadata"
    let bis ← subgroup.bis.mapM BasicAudioBis.toBytes
    pure ([UInt8.ofNat subgroup.bis.length] ++ (subgroup.codecId.toBytes ++
      (configuration ++ (metadata ++ bis.flatten))))

end BasicAudioSubgroup

/-- `service_data_advertising`: one structure with the service and the data. -/
def serviceDataAdvertising (service : UInt16) (data : Bytes) : Bytes :=
  AdvertisingData.toBytes ⟨[(serviceData, u16ToLe service ++ data)]⟩

namespace BasicAudioAnnouncement

def reader (size : Nat) : OctetReader Error BasicAudioAnnouncement := do
  let presentationDelay ← Profiles.Reader.u24 size "presentation delay"
  let subgroupCount ← Profiles.Reader.u8 size "subgroup count"
  let subgroups ← replicateFrom (BasicAudioSubgroup.read size) 0 subgroupCount.toNat
  pure ⟨presentationDelay, subgroups⟩

def fromBytes (data : Bytes) : Except Error BasicAudioAnnouncement :=
  Profiles.Reader.finish (reader data.length) "basic audio announcement" data

def toBytes (announcement : BasicAudioAnnouncement) : Except Error Bytes := do
  requireU24 "presentation delay" announcement.presentationDelay
  if 255 < announcement.subgroups.length then
    .error (.invalidValue "basic audio announcement has over 255 subgroups")
  else do
    let subgroups ← announcement.subgroups.zipIdx.mapM fun (subgroup, subgroupIndex) =>
      subgroup.toBytes subgroupIndex
    pure (u24ToLe announcement.presentationDelay ++
      ([UInt8.ofNat announcement.subgroups.length] ++ subgroups.flatten))

def advertisingData (announcement : BasicAudioAnnouncement) : Except Error Bytes := do
  let data ← announcement.toBytes
  pure (serviceDataAdvertising basicAudioAnnouncementService data)

end BasicAudioAnnouncement

structure UnicastServerAdvertisingData where
  announcementType : UInt8
  availableAudioContexts : UInt16
  metadata : Bytes
deriving DecidableEq, Repr

namespace UnicastServerAdvertisingData

def payload (data : UnicastServerAdvertisingData) : Bytes :=
  [data.announcementType] ++ u32ToLe data.availableAudioContexts.toUInt32 ++
    [UInt8.ofNat data.metadata.length] ++ data.metadata

def toBytes (data : UnicastServerAdvertisingData) : Except Error Bytes :=
  if 255 < data.metadata.length then .error (.invalidValue "unicast metadata exceeds 255 bytes")
  else .ok (serviceDataAdvertising audioStreamControlService data.payload)

end UnicastServerAdvertisingData

/-! ## 3. Sizes -/

def CodecSpecificConfiguration.size (configuration : CodecSpecificConfiguration) : Nat :=
  (if configuration.samplingFrequency.isSome then 3 else 0) +
  (if configuration.frameDuration.isSome then 3 else 0) +
  (if configuration.audioChannelAllocation.isSome then 6 else 0) +
  (if configuration.octetsPerCodecFrame.isSome then 4 else 0) +
  (if configuration.codecFramesPerSdu.isSome then 3 else 0)

def metadataSize (metadata : Metadata) : Nat :=
  (metadata.entries.map fun entry => entry.data.length + 2).sum

def BasicAudioBis.size (bis : BasicAudioBis) : Nat := bis.codecSpecificConfiguration.size + 2

def BasicAudioSubgroup.size (subgroup : BasicAudioSubgroup) : Nat :=
  8 + subgroup.codecSpecificConfiguration.size + metadataSize subgroup.metadata +
    (subgroup.bis.map BasicAudioBis.size).sum

/-- The number of octets an announcement is written as. -/
def BasicAudioAnnouncement.size (announcement : BasicAudioAnnouncement) : Nat :=
  4 + (announcement.subgroups.map BasicAudioSubgroup.size).sum

theorem length_flatten_of_mapM {α : Type} {encode : α → Except Error Bytes} {size : α → Nat}
    (hsize : ∀ value octets, encode value = .ok octets → octets.length = size value)
    {values : List α} {pieces : List Bytes} (hpieces : values.mapM encode = .ok pieces) :
    pieces.flatten.length = (values.map size).sum := by
  have hall := except_mapM_eq_ok hpieces
  clear hpieces
  induction hall with
  | nil => rfl
  | cons hfirst _ ih =>
    rw [List.flatten_cons, List.length_append, List.map_cons, List.sum_cons, ih, hsize _ _ hfirst]

theorem length_pushed {octets bytes : Bytes} {name : String}
    (hpush : pushLengthPrefixed octets name = .ok bytes) : bytes.length = octets.length + 1 := by
  rw [(pushLengthPrefixed_eq_ok.mp hpush).2, List.length_cons]

theorem CodecSpecificConfiguration.length_toBytes (configuration : CodecSpecificConfiguration) :
    configuration.toBytes.length = configuration.size := by
  obtain ⟨_ | frequency, _ | duration, _ | location, _ | octets, _ | frames⟩ :=
    configuration <;> rfl

theorem length_metadata {metadata : Metadata} {octets : Bytes}
    (hmetadata : metadata.toBytes = .ok octets) : octets.length = metadataSize metadata := by
  obtain ⟨pieces, hpieces, heq⟩ := except_bind_eq_ok hmetadata
  cases heq
  refine length_flatten_of_mapM ?_ hpieces
  intro entry octets hentry
  obtain ⟨_, rfl, -, rfl⟩ := (entry.toBytes_iff octets).mp hentry
  rfl

theorem BasicAudioBis.length_toBytes {bis : BasicAudioBis} {octets : Bytes}
    (hbis : bis.toBytes = .ok octets) : octets.length = bis.size := by
  obtain ⟨configuration, hconfiguration, heq⟩ := except_bind_eq_ok hbis
  cases heq
  rw [List.length_append, length_pushed hconfiguration,
    CodecSpecificConfiguration.length_toBytes, size, List.length_singleton]
  omega

theorem BasicAudioSubgroup.length_toBytes {subgroup : BasicAudioSubgroup} {subgroupIndex : Nat}
    {octets : Bytes} (hsubgroup : subgroup.toBytes subgroupIndex = .ok octets) :
    octets.length = subgroup.size := by
  rw [toBytes] at hsubgroup
  split at hsubgroup
  · cases hsubgroup
  split at hsubgroup
  · cases hsubgroup
  obtain ⟨configuration, hconfiguration, hsubgroup⟩ := except_bind_eq_ok hsubgroup
  obtain ⟨entries, hentries, hsubgroup⟩ := except_bind_eq_ok hsubgroup
  obtain ⟨metadata, hmetadata, hsubgroup⟩ := except_bind_eq_ok hsubgroup
  obtain ⟨bis, hbis, heq⟩ := except_bind_eq_ok hsubgroup
  cases heq
  have hstreams := length_flatten_of_mapM (fun bis _ => bis.length_toBytes) hbis
  simp only [List.length_append, length_pushed hconfiguration,
    CodecSpecificConfiguration.length_toBytes, length_pushed hmetadata,
    length_metadata hentries, hstreams, CodingFormat.length_toBytes, List.length_singleton, size]
  omega

theorem BasicAudioAnnouncement.length_toBytes {announcement : BasicAudioAnnouncement}
    {octets : Bytes} (hannouncement : announcement.toBytes = .ok octets) :
    octets.length = announcement.size := by
  obtain ⟨⟨⟩, hdelay, hannouncement⟩ := except_bind_eq_ok hannouncement
  split at hannouncement
  · cases hannouncement
  obtain ⟨subgroups, hsubgroups, heq⟩ := except_bind_eq_ok hannouncement
  cases heq
  have hlength := @length_flatten_of_mapM _ _ (fun entry : BasicAudioSubgroup × Nat => entry.1.size)
    (fun entry _ => BasicAudioSubgroup.length_toBytes) _ _ hsubgroups
  have hsum : announcement.subgroups.zipIdx.map (fun entry => entry.1.size) =
      announcement.subgroups.map BasicAudioSubgroup.size := by
    conv_rhs => rw [← List.zipIdx_map_fst 0 announcement.subgroups, List.map_map]
    rfl
  rw [hsum] at hlength
  have hu24 : (u24ToLe announcement.presentationDelay).length = 3 := rfl
  rw [List.length_append, List.length_append, hlength, hu24, size, List.length_singleton]
  omega

/-! ## 4. The codec -/

theorem ltvEntry_iff (entry : UInt8 × Bytes) (piece : Bytes) (hpiece : 0 < piece.length) :
    ltvEntry piece = .ok entry ↔ piece = entry.1 :: entry.2 := by
  cases piece with
  | nil => exact absurd hpiece (Nat.lt_irrefl 0)
  | cons tag value =>
    rw [ltvEntry, Except.ok.injEq, List.cons.injEq]
    constructor
    · rintro rfl
      exact ⟨rfl, rfl⟩
    · rintro ⟨htag, hvalue⟩
      exact Prod.ext htag hvalue

namespace CodecSpecificConfiguration

def entries (configuration : CodecSpecificConfiguration) : List (UInt8 × Bytes) :=
  (configuration.samplingFrequency.map fun frequency => (0x01, [frequency])).toList ++
  (configuration.frameDuration.map fun duration => (0x02, [duration])).toList ++
  (configuration.audioChannelAllocation.map fun location => (0x03, u32ToLe location)).toList ++
  (configuration.octetsPerCodecFrame.map fun octets => (0x04, u16ToLe octets)).toList ++
  (configuration.codecFramesPerSdu.map fun frames => (0x05, [frames])).toList

theorem length_entries {configuration : CodecSpecificConfiguration} {entry : UInt8 × Bytes}
    (hmem : entry ∈ configuration.entries) : entry.2.length ≤ 4 := by
  simp only [entries, List.mem_append, Option.mem_toList, Option.map_eq_some_iff] at hmem
  rcases hmem with (((⟨frequency, -, rfl⟩ | ⟨duration, -, rfl⟩) | ⟨location, -, rfl⟩) |
    ⟨octets, -, rfl⟩) | ⟨frames, -, rfl⟩
  · exact Nat.le_of_ble_eq_true rfl
  · exact Nat.le_of_ble_eq_true rfl
  · exact Nat.le_of_ble_eq_true rfl
  · exact Nat.le_of_ble_eq_true rfl
  · exact Nat.le_of_ble_eq_true rfl

theorem parseLtv_toBytes (configuration : CodecSpecificConfiguration) :
    parseLtv configuration.toBytes = .ok configuration.entries := by
  refine (LengthEntries.parse_iff ltvEntry_iff).mpr
    ⟨configuration.entries.map fun entry => entry.1 :: entry.2, forall₂_encode.mpr rfl, ?_, ?_⟩
  · intro piece hmem
    obtain ⟨entry, hentry, rfl⟩ := List.mem_map.mp hmem
    have hlength := length_entries hentry
    rw [List.length_cons]
    omega
  · obtain ⟨_ | frequency, _ | duration, _ | location, _ | octets, _ | frames⟩ :=
      configuration <;> rfl

theorem apply_entries (configuration : CodecSpecificConfiguration) :
    configuration.entries.foldlM apply default = .ok
      { configuration with
        audioChannelAllocation := configuration.audioChannelAllocation.map fun location =>
          leOf (u32ToLe location)
        octetsPerCodecFrame := configuration.octetsPerCodecFrame.map fun octets =>
          le16Of (u16ToLe octets) } := by
  obtain ⟨_ | frequency, _ | duration, _ | location, _ | octets, _ | frames⟩ :=
    configuration <;> rfl

theorem fromBytes_toBytes (configuration : CodecSpecificConfiguration) :
    fromBytes configuration.toBytes = .ok configuration := by
  have hlocation : (fun location => leOf (u32ToLe location)) = id := funext leOf_u32ToLe
  have hoctets : (fun octets => le16Of (u16ToLe octets)) = id := funext u16FromLe_toLe
  rw [fromBytes, parseLtv_toBytes]
  refine (apply_entries configuration).trans ?_
  rw [hlocation, hoctets, Option.map_id, Option.map_id]
  rfl

end CodecSpecificConfiguration

/-! ### Formats

Several octets may stand for a configuration, whose entries may be in any order. -/

/-- Octets behind their length that are decoded as a value. -/
def Decoded {α : Type} (decode : Bytes → Except Error α) (value : α) (octets : Bytes) : Prop :=
  ∃ piece, LengthPrefixed piece octets ∧ decode piece = .ok value

theorem exact_decoded {α : Type} (size : Nat) (name : String) (decode : Bytes → Except Error α) :
    Exact (do
      let piece ← Profiles.Reader.lengthPrefixed size name
      lift (decode piece)) (Decoded decode) := by
  refine ((exact_lengthPrefixed size name).bind fun piece => exact_lift (decode piece)).congr ?_
  intro value octets
  constructor
  · rintro ⟨piece, prefixed, _, hprefixed, ⟨hvalue, rfl⟩, rfl⟩
    exact ⟨piece, (List.append_nil prefixed).symm ▸ hprefixed, hvalue⟩
  · rintro ⟨piece, hprefixed, hvalue⟩
    exact ⟨piece, octets, [], hprefixed, ⟨hvalue, rfl⟩, (List.append_nil octets).symm⟩

def BasicAudioBis.Stands (bis : BasicAudioBis) (octets : Bytes) : Prop :=
  ∃ configuration, Decoded CodecSpecificConfiguration.fromBytes bis.codecSpecificConfiguration
    configuration ∧ octets = [bis.index] ++ configuration

theorem BasicAudioBis.exact_read (size : Nat) : Exact (read size) Stands := by
  have hexact := (exact_u8 size "BIS index").bind fun index =>
    (exact_decoded size "BIS codec configuration" CodecSpecificConfiguration.fromBytes).map
      (BasicAudioBis.mk index)
  simp only [OctetReader.bind_assoc] at hexact
  refine hexact.congr ?_
  intro bis octets
  constructor
  · rintro ⟨index, _, configuration, rfl, ⟨value, hvalue, rfl⟩, rfl⟩
    exact ⟨configuration, hvalue, rfl⟩
  · rintro ⟨configuration, hvalue, rfl⟩
    exact ⟨bis.index, _, configuration, rfl, ⟨_, hvalue, rfl⟩, rfl⟩

namespace BasicAudioSubgroup

structure Parts where
  configuration : Bytes
  metadata : Bytes
  bis : List Bytes

structure Parts.Of (parts : Parts) (subgroup : BasicAudioSubgroup) : Prop where
  configuration : Decoded CodecSpecificConfiguration.fromBytes subgroup.codecSpecificConfiguration
    parts.configuration
  metadata : Decoded Metadata.fromBytes subgroup.metadata parts.metadata
  bis : List.Forall₂ BasicAudioBis.Stands subgroup.bis parts.bis
  nonempty : subgroup.bis ≠ []
  few : subgroup.bis.length < 256

def Stands (subgroup : BasicAudioSubgroup) (octets : Bytes) : Prop :=
  ∃ parts : Parts, parts.Of subgroup ∧
    octets = [UInt8.ofNat subgroup.bis.length] ++ (subgroup.codecId.toBytes ++
      (parts.configuration ++ (parts.metadata ++ parts.bis.flatten)))

theorem exact_read (size subgroupIndex : Nat) : Exact (read size subgroupIndex) Stands := by
  have hlast : ∀ codecId configuration metadata (bis : List BasicAudioBis),
      Exact (if bis.isEmpty then lift (noBis subgroupIndex)
          else pure (BasicAudioSubgroup.mk codecId configuration metadata bis))
        fun result octets => bis ≠ [] ∧
          Nothing ⟨codecId, configuration, metadata, bis⟩ result octets := by
    intro codecId configuration metadata bis
    cases bis with
    | nil =>
      refine (exact_lift _).congr fun result octets => ⟨?_, ?_⟩
      · rintro ⟨hfail, -⟩
        cases hfail
      · rintro ⟨hne, -⟩
        exact absurd rfl hne
    | cons bis later =>
      refine (exact_pure _).congr fun result octets => ⟨?_, ?_⟩
      · exact fun hresult => ⟨List.cons_ne_nil _ _, hresult⟩
      · exact And.right
  have hexact := (exact_u8 size "BIS count").bind fun bisCount =>
    (exact_codingFormat size "codec ID").bind fun codecId =>
    (exact_decoded size "codec configuration" CodecSpecificConfiguration.fromBytes).bind
    fun configuration => (exact_decoded size "subgroup metadata" Metadata.fromBytes).bind
    fun metadata => (exact_replicate (BasicAudioBis.exact_read size) bisCount.toNat).bind
    fun bis => hlast codecId configuration metadata bis
  simp only [OctetReader.bind_assoc] at hexact
  refine hexact.congr ?_
  intro subgroup octets
  constructor
  · rintro ⟨bisCount, _, _, rfl, ⟨codecId, _, _, rfl, ⟨configuration, first, _, hconfiguration,
      ⟨metadata, second, _, hmetadata, ⟨bis, _, _, ⟨hlength, pieces, hpieces, rfl⟩,
      ⟨hne, rfl, rfl⟩, rfl⟩, rfl⟩, rfl⟩, rfl⟩, rfl⟩
    refine ⟨⟨first, second, pieces⟩, ⟨hconfiguration, hmetadata, hpieces, hne, ?_⟩, ?_⟩
    · rw [hlength]
      exact bisCount.toNat_lt
    · rw [hlength, UInt8.ofNat_toNat, List.append_nil]
  · rintro ⟨⟨first, second, pieces⟩, hparts, rfl⟩
    exact ⟨_, _, _, rfl, ⟨_, _, _, rfl, ⟨_, first, _, hparts.configuration,
      ⟨_, second, _, hparts.metadata, ⟨_, _, [],
      ⟨(UInt8.toNat_ofNat_of_lt' hparts.few).symm, pieces, hparts.bis, rfl⟩,
      ⟨hparts.nonempty, rfl, rfl⟩, (List.append_nil _).symm⟩, rfl⟩, rfl⟩, rfl⟩, rfl⟩

end BasicAudioSubgroup

namespace BasicAudioAnnouncement

def Stands (announcement : BasicAudioAnnouncement) (octets : Bytes) : Prop :=
  announcement.presentationDelay.toNat < 0x1000000 ∧
    ∃ subgroups, Counted BasicAudioSubgroup.Stands announcement.subgroups subgroups ∧
      octets = u24ToLe announcement.presentationDelay ++ subgroups

theorem exact_reader (size : Nat) : Exact (reader size) Stands := by
  have hexact := (exact_u24 size "presentation delay").bind fun delay =>
    (((exact_u8 size "subgroup count").bind fun count =>
      exact_replicateFrom (BasicAudioSubgroup.exact_read size) 0 count.toNat).congr
        fun _ _ => then_pieces).map (BasicAudioAnnouncement.mk delay)
  simp only [OctetReader.bind_assoc] at hexact
  refine hexact.congr ?_
  intro announcement octets
  constructor
  · rintro ⟨delay, _, later, ⟨hdelay, rfl⟩, ⟨subgroups, hsubgroups, rfl⟩, rfl⟩
    exact ⟨hdelay, later, hsubgroups, rfl⟩
  · rintro ⟨hdelay, later, hsubgroups, rfl⟩
    exact ⟨_, _, later, ⟨hdelay, rfl⟩, ⟨_, hsubgroups, rfl⟩, rfl⟩

theorem fromBytes_iff {data : Bytes} {announcement : BasicAudioAnnouncement} :
    fromBytes data = .ok announcement ↔ announcement.Stands data := by
  rw [fromBytes, finish_iff _ (exact_reader data.length)]

end BasicAudioAnnouncement

/-! ### Encoders -/

theorem decoded_of_push {configuration : CodecSpecificConfiguration} {octets : Bytes}
    {name : String}
    (hpush : pushLengthPrefixed configuration.toBytes name = .ok octets) :
    Decoded CodecSpecificConfiguration.fromBytes configuration octets :=
  ⟨_, pushLengthPrefixed_eq_ok.mp hpush, configuration.fromBytes_toBytes⟩

theorem BasicAudioBis.stands_of_toBytes {bis : BasicAudioBis} {octets : Bytes}
    (hbis : bis.toBytes = .ok octets) : bis.Stands octets := by
  obtain ⟨configuration, hconfiguration, heq⟩ := except_bind_eq_ok hbis
  cases heq
  exact ⟨configuration, decoded_of_push hconfiguration, rfl⟩

theorem BasicAudioSubgroup.stands_of_toBytes {subgroup : BasicAudioSubgroup} {subgroupIndex : Nat}
    {octets : Bytes} (hsubgroup : subgroup.toBytes subgroupIndex = .ok octets) :
    subgroup.Stands octets := by
  rw [toBytes] at hsubgroup
  split at hsubgroup
  · cases hsubgroup
  next hmany =>
  split at hsubgroup
  · cases hsubgroup
  next hnone =>
  obtain ⟨configuration, hconfiguration, hsubgroup⟩ := except_bind_eq_ok hsubgroup
  obtain ⟨entries, hentries, hsubgroup⟩ := except_bind_eq_ok hsubgroup
  obtain ⟨metadata, hmetadata, hsubgroup⟩ := except_bind_eq_ok hsubgroup
  obtain ⟨bis, hbis, heq⟩ := except_bind_eq_ok hsubgroup
  cases heq
  refine ⟨⟨configuration, metadata, bis⟩, ⟨decoded_of_push hconfiguration, ?_, ?_, ?_, ?_⟩, rfl⟩
  · exact ⟨entries, pushLengthPrefixed_eq_ok.mp hmetadata, Metadata.fromBytes_iff.mpr hentries⟩
  · exact (forall₂_iff_mapM.mpr hbis).imp fun bis octets => BasicAudioBis.stands_of_toBytes
  · exact fun hempty => hnone (congrArg List.length hempty)
  · exact Nat.lt_succ_of_le (Nat.le_of_not_lt hmany)

theorem BasicAudioAnnouncement.stands_of_toBytes {announcement : BasicAudioAnnouncement}
    {octets : Bytes} (hannouncement : announcement.toBytes = .ok octets) :
    announcement.Stands octets := by
  obtain ⟨⟨⟩, hdelay, hannouncement⟩ := except_bind_eq_ok hannouncement
  split at hannouncement
  · cases hannouncement
  next hmany =>
  obtain ⟨subgroups, hsubgroups, heq⟩ := except_bind_eq_ok hannouncement
  cases heq
  refine ⟨requireU24_eq_ok.mp hdelay, _, ⟨Nat.lt_succ_of_le (Nat.le_of_not_lt hmany), subgroups, ?_,
    rfl⟩, rfl⟩
  have hall := (forall₂_iff_mapM.mpr hsubgroups).imp
    fun entry octets => BasicAudioSubgroup.stands_of_toBytes
  have hfirst := List.forall₂_map_left_iff.mpr hall
  rwa [List.zipIdx_map_fst] at hfirst

/-! ## 5. Advertising -/

/-- An announcement comes back from its advertising data. -/
def BasicAudioAnnouncement.Survives (announcement : BasicAudioAnnouncement) (advertised : Bytes) :
    Prop :=
  ∃ value, AdvertisingData.fromBytes advertised = some ⟨[(serviceData, value)]⟩ ∧
    BasicAudioAnnouncement.fromBytes (value.drop 2) = .ok announcement

/-- The single structure carries a service and all its data. -/
def Carried (service : UInt16) (data advertised : Bytes) : Prop :=
  AdvertisingData.fromBytes advertised = some ⟨[(serviceData, u16ToLe service ++ data)]⟩

theorem carried_of_short (service : UInt16) {data : Bytes} (hshort : data.length ≤ 252) :
    Carried service data (serviceDataAdvertising service data) := by
  have hvalue : AdvertisingData.Short ⟨[(serviceData, u16ToLe service ++ data)]⟩ := by
    intro entry hmem
    rw [List.mem_singleton.mp hmem, List.length_append]
    exact Nat.add_le_add_left hshort 2
  have hlist := AdvertisingData.structures_toBytes hvalue []
  rw [List.append_nil, @AdvertisingData.structures_short [] (by decide), List.append_nil] at hlist
  rw [Carried, AdvertisingData.fromBytes_eq, serviceDataAdvertising, hlist]

theorem parsed_serviceData {service : UInt16}
    (hservice : (u16ToLe service).head? ≠ some serviceData)
    {data parsed : Bytes}
    (hparsed : AdvertisingData.fromBytes (serviceDataAdvertising service data) =
      some ⟨[(serviceData, parsed)]⟩) :
    ∃ later, u16ToLe service ++ data = parsed ++ later ∧ (later = [] → data.length ≤ 252) := by
  have hfirst : (u16ToLe service ++ data).head? ≠ some serviceData := hservice
  obtain ⟨later, heq, hlater⟩ := AdvertisingData.parsed_single (by decide) hfirst hparsed
  refine ⟨later, heq, fun hnil => ?_⟩
  have hlength := hlater hnil
  have hservice : (u16ToLe service).length = 2 := rfl
  rw [List.length_append, hservice] at hlength
  omega

theorem carried_iff {service : UInt16} (hservice : (u16ToLe service).head? ≠ some serviceData)
    {data : Bytes} :
    Carried service data (serviceDataAdvertising service data) ↔ data.length ≤ 252 := by
  refine ⟨?_, carried_of_short service⟩
  intro hcarried
  obtain ⟨later, heq, hlater⟩ := parsed_serviceData hservice hcarried
  exact hlater (List.self_eq_append_right.mp heq)

/-- The octets of an announcement that is cut short are not those of it: none of the octets of
    announcements go on with others. -/
theorem BasicAudioAnnouncement.survives_iff_short {announcement : BasicAudioAnnouncement}
    {advertised : Bytes} (hadvertised : announcement.advertisingData = .ok advertised) :
    announcement.Survives advertised ↔ announcement.size ≤ 252 := by
  obtain ⟨data, hdata, heq⟩ := except_bind_eq_ok hadvertised
  cases heq
  have hstands := stands_of_toBytes hdata
  rw [← length_toBytes hdata]
  constructor
  · rintro ⟨parsed, hparsed, hread⟩
    obtain ⟨later, hvalue, hlater⟩ := parsed_serviceData (by decide) hparsed
    have hcut : data = parsed.drop 2 ++ later.drop (2 - parsed.length) :=
      (congrArg (List.drop 2) hvalue).trans List.drop_append
    rw [hcut] at hstands
    obtain ⟨-, hnone⟩ := (exact_reader 0).prefix_free (fromBytes_iff.mp hread) hstands
    by_cases hlong : 2 ≤ parsed.length
    · rw [Nat.sub_eq_zero_of_le hlong, List.drop_zero] at hnone
      exact hlater hnone
    · rw [hcut, hnone, List.append_nil, List.length_drop]
      omega
  · intro hshort
    exact ⟨_, carried_of_short _ hshort, fromBytes_iff.mpr hstands⟩

theorem UnicastServerAdvertisingData.length_payload (data : UnicastServerAdvertisingData) :
    data.payload.length = data.metadata.length + 6 := by
  rw [payload, List.length_append, Nat.add_comm]
  rfl

theorem UnicastServerAdvertisingData.carried_iff {data : UnicastServerAdvertisingData}
    {advertised : Bytes} (hadvertised : data.toBytes = .ok advertised) :
    Carried audioStreamControlService data.payload advertised ↔ data.metadata.length ≤ 246 := by
  rw [toBytes] at hadvertised
  split at hadvertised
  · cases hadvertised
  cases hadvertised
  rw [Bap.carried_iff (by decide), length_payload]
  omega

/-- **Announcements in advertising data.**  Of what is advertised without an error, an announcement
    comes back exactly if it has no more than 252 octets, and the data of a unicast server is whole
    exactly if its metadata has no more than 246: with the service and the type, that is what the
    length octet of the structure can count. -/
theorem announcements_advertised_iff (announcement : BasicAudioAnnouncement) (advertised : Bytes)
    (hadvertised : announcement.advertisingData = .ok advertised)
    (unicast : UnicastServerAdvertisingData) (unicastAdvertised : Bytes)
    (hunicast : unicast.toBytes = .ok unicastAdvertised) :
    (announcement.Survives advertised ↔ announcement.size ≤ 252) ∧
      (Carried audioStreamControlService unicast.payload unicastAdvertised ↔
        unicast.metadata.length ≤ 246) :=
  ⟨BasicAudioAnnouncement.survives_iff_short hadvertised,
    UnicastServerAdvertisingData.carried_iff hunicast⟩

/-- One subgroup with one stream, and metadata of one entry. -/
def announcementWith (text : Bytes) : BasicAudioAnnouncement where
  presentationDelay := 40000
  subgroups := [{
    codecId := ⟨0x06, 0, 0⟩
    codecSpecificConfiguration := ⟨none, none, none, none, none⟩
    metadata := ⟨[⟨0x03, text⟩]⟩
    bis := [⟨1, ⟨some 8, some 1, some 1, some 100, none⟩⟩] }]

theorem short_announcement_survives :
    ∃ advertised, (announcementWith [0x41]).advertisingData = .ok advertised ∧
      (announcementWith [0x41]).Survives advertised ∧
      Carried audioStreamControlService (UnicastServerAdvertisingData.payload ⟨1, 4, []⟩)
        [9, 0x16, 0x4E, 0x18, 1, 4, 0, 0, 0, 0] := by
  have hboth := announcements_advertised_iff (announcementWith [0x41]) _ rfl ⟨1, 4, []⟩ _ rfl
  exact ⟨_, rfl, hboth.1.mpr (by decide), hboth.2.mpr (by decide)⟩

/-- A program info of 237 octets makes the structure so long that its length octet is smaller than
    its parts. -/
theorem long_announcement_lost :
    ∃ advertised, (announcementWith (List.replicate 237 0)).advertisingData = .ok advertised ∧
      ¬ (announcementWith (List.replicate 237 0)).Survives advertised := by
  have hok : (announcementWith (List.replicate 237 0)).advertisingData.isOk = true := by
    set_option maxRecDepth 30000 in decide
  cases hadvertised : (announcementWith (List.replicate 237 0)).advertisingData with
  | error error =>
    rw [hadvertised] at hok
    cases hok
  | ok advertised =>
    refine ⟨advertised, rfl, fun hsurvives => ?_⟩
    have hsize := (BasicAudioAnnouncement.survives_iff_short hadvertised).mp hsurvives
    exact absurd hsize (by set_option maxRecDepth 30000 in decide)

end Bumble.Bap
