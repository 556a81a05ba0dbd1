import Bumble.CheckedRun
import Bumble.ExactReader

/-!
# Realtek firmware (`bumble-drivers/src/rtk.rs`)

The parser of firmware images and the fragments of a download.  Every place the parser looks at
comes from the file; `Run` says where the code would fault.
-/

namespace Bumble.Rtk

open Run
open OctetReader (le16Of leOf)

inductive Error where
  | invalidFirmware (text : String)
deriving DecidableEq, Repr

/-! ## 1. The image -/

/-- `Realtech`. -/
def epatchSignature : Bytes := [0x52, 0x65, 0x61, 0x6C, 0x74, 0x65, 0x63, 0x68]

def extensionSignature : Bytes := [0x51, 0x04, 0xFD, 0x77]

def headerSize : Nat := 14

structure Patch where
  chipId : UInt16
  payload : Bytes
  svnVersion : UInt32
deriving DecidableEq, Repr

structure Firmware where
  projectId : UInt8
  version : UInt32
  patches : List Patch
deriving DecidableEq, Repr

def invalid {α : Type} (text : String) : Run Error α := failed (.invalidFirmware text)

def readU16 (bytes : Bytes) (offset : Nat) : Run Error UInt16 := do
  let last ← add offset 2
  let value ← okOrElse (get bytes offset last) (.invalidFirmware "truncated Realtek u16 field")
  let value ← expectArray 2 value
  pure (le16Of value)

def readU32 (bytes : Bytes) (offset : Nat) : Run Error UInt32 := do
  let last ← add offset 4
  let value ← okOrElse (get bytes offset last) (.invalidFirmware "truncated Realtek u32 field")
  let value ← expectArray 4 value
  pure (leOf value)

/-- One pass over the extension section, backwards from an offset. -/
def extensionPass (bytes : Bytes) (extensionOffset : Nat) : Run Error (Flow Nat (Option UInt8)) :=
  if headerSize + 2 ≤ extensionOffset then do
    let lengthOffset ← sub extensionOffset 2
    let length ← index bytes lengthOffset
    let opcodeOffset ← sub extensionOffset 1
    let opcode ← index bytes opcodeOffset
    let extensionOffset ← sub extensionOffset 2
    if opcode = 0xFF then pure (.done none)
    else if length = 0 then invalid "Realtek extension contains a zero-length instruction"
    else if extensionOffset < length.toNat then
      invalid "Realtek extension instruction runs before the header"
    else if opcode = 0 ∧ length = 1 then do
      let projectOffset ← sub extensionOffset 1
      let projectId ← index bytes projectOffset
      pure (.done (some projectId))
    else do
      let extensionOffset ← sub extensionOffset length.toNat
      pure (.next extensionOffset)
  else pure (.done none)

def readPatch (bytes : Bytes) (version : UInt32)
    (chipIdsOffset patchLengthsOffset patchOffsetsOffset : Nat)
    (entry : Nat) : Run Error Patch := do
  let words ← mul 2 entry
  let doubles ← mul 4 entry
  let chipIdOffset ← add chipIdsOffset words
  let chipId ← readU16 bytes chipIdOffset
  let lengthOffset ← add patchLengthsOffset words
  let patchLength ← readU16 bytes lengthOffset
  let offsetOffset ← add patchOffsetsOffset doubles
  let patchOffset ← readU32 bytes offsetOffset
  let patchEnd ← okOrElse (checkedAdd patchOffset.toNat patchLength.toNat)
    (.invalidFirmware "Realtek patch length overflow")
  if patchLength.toNat < 8 ∨ bytes.length < patchEnd then
    invalid "Realtek firmware patch is truncated"
  else do
    let svnOffset ← sub patchEnd 8
    let svnVersion ← readU32 bytes svnOffset
    let payloadEnd ← sub patchEnd 4
    let payload ← slice bytes patchOffset.toNat payloadEnd
    pure { chipId, payload := payload ++ u32ToLe version, svnVersion }

def Firmware.parse (bytes : Bytes) : Run Error Firmware :=
  if ¬ epatchSignature.isPrefixOf bytes then
    invalid "Realtek firmware does not start with epatch signature"
  else if ¬ extensionSignature.isSuffixOf bytes then
    invalid "Realtek firmware does not end with extension signature"
  else if bytes.length < headerSize then
    invalid "Realtek firmware is shorter than its header"
  else do
    let extensionOffset ← sub bytes.length extensionSignature.length
    let projectId ← loop (extensionPass bytes) (bytes.length + 1) extensionOffset
    let projectId ← okOrElse projectId (.invalidFirmware "Realtek firmware project ID not found")
    let version ← slice bytes 8 12
    let version ← expectArray 4 version
    let patchCount ← slice bytes 12 14
    let patchCount ← expectArray 2 patchCount
    let tables ← okOrElse (checkedMul (le16Of patchCount).toNat 8)
      (.invalidFirmware "Realtek patch table length overflow")
    let tablesEnd ← okOrElse (checkedAdd headerSize tables)
      (.invalidFirmware "Realtek patch table overflow")
    if bytes.length < tablesEnd then invalid "Realtek firmware patch tables are truncated"
    else do
      let words ← mul 2 (le16Of patchCount).toNat
      let patchLengthsOffset ← add headerSize words
      let doubles ← mul 4 (le16Of patchCount).toNat
      let patchOffsetsOffset ← add headerSize doubles
      let patches ← (List.range (le16Of patchCount).toNat).mapM
        (readPatch bytes (leOf version) headerSize patchLengthsOffset patchOffsetsOffset)
      pure { projectId, version := leOf version, patches }

/-! ## 2. The tables of an image -/

/-- The octets at an offset, as many as asked for. -/
def octetsAt (bytes : Bytes) (offset count : Nat) : Bytes := (bytes.drop offset).take count

def headerVersion (bytes : Bytes) : UInt32 := leOf (octetsAt bytes 8 4)

def headerPatchCount (bytes : Bytes) : Nat := (le16Of (octetsAt bytes 12 2)).toNat

/-- The three tables are one behind the other: the chips, the lengths and the offsets. -/
structure Entry where
  chipId : UInt16
  length : Nat
  offset : Nat

def entry (bytes : Bytes) (place : Nat) : Entry where
  chipId := le16Of (octetsAt bytes (14 + 2 * place) 2)
  length := (le16Of (octetsAt bytes (14 + 2 * headerPatchCount bytes + 2 * place) 2)).toNat
  offset := (leOf (octetsAt bytes (14 + 4 * headerPatchCount bytes + 4 * place) 4)).toNat

def Entry.octets (bytes : Bytes) (entry : Entry) : Bytes := octetsAt bytes entry.offset entry.length

/-- A patch that holds the octets of an entry, all in the file, with the version for the last
    four. -/
structure Entry.Carried (bytes : Bytes) (version : UInt32) (entry : Entry) (patch : Patch) :
    Prop where
  chipId : patch.chipId = entry.chipId
  inside : (entry.octets bytes).length = entry.length
  long : 8 ≤ entry.length
  payload : patch.payload = (entry.octets bytes).take (entry.length - 4) ++ u32ToLe version
  svnVersion : patch.svnVersion = leOf (octetsAt (entry.octets bytes) (entry.length - 8) 4)

structure Firmware.Carries (bytes : Bytes) (firmware : Firmware) : Prop where
  version : firmware.version = headerVersion bytes
  count : firmware.patches.length = headerPatchCount bytes
  patches : ∀ (place : Nat) (patch : Patch), firmware.patches[place]? = some patch →
    (entry bytes place).Carried bytes firmware.version patch

/-! ## 3. The parser is safe -/

/-- **One field**: it is there and decoded, or its error is answered. -/
theorem safe_readField {α : Type} (bytes : Bytes) (decode : Bytes → α) (error : Error)
    {offset width : Nat} (hoffset : offset + width ≤ usizeMax) :
    Safe (do
      let last ← add offset width
      let value ← okOrElse (get bytes offset last) error
      let value ← expectArray width value
      pure (decode value))
      fun value => value = decode (octetsAt bytes offset width) := by
  refine (safe_add hoffset).bind ?_
  rintro last rfl
  refine (safe_okOrElse fun found hfound => hfound).bind fun value hget => ?_
  have hlength : value.length = width := by
    rw [length_get hget]
    omega
  refine (safe_expectArray hlength).bind ?_
  rintro found rfl
  obtain ⟨-, rfl⟩ := get_eq_some.mp hget
  refine safe_pure ?_
  rw [octetsAt, Nat.add_sub_cancel_left]

theorem safe_readU16 (bytes : Bytes) {offset : Nat} (hoffset : offset + 2 ≤ usizeMax) :
    Safe (readU16 bytes offset) fun value => value = le16Of (octetsAt bytes offset 2) :=
  safe_readField bytes le16Of _ hoffset

theorem safe_readU32 (bytes : Bytes) {offset : Nat} (hoffset : offset + 4 ≤ usizeMax) :
    Safe (readU32 bytes offset) fun value => value = leOf (octetsAt bytes offset 4) :=
  safe_readField bytes leOf _ hoffset

theorem safe_extensionPass {bytes : Bytes} {extensionOffset : Nat}
    (hinside : extensionOffset ≤ bytes.length) :
    Safe (extensionPass bytes extensionOffset)
      (Advances (fun offset => offset ≤ bytes.length) id (fun _ => True) extensionOffset) := by
  rw [extensionPass]
  split
  · next hheader =>
    have hheader : 16 ≤ extensionOffset := hheader
    refine (safe_sub (by omega)).bind ?_
    rintro lengthOffset rfl
    refine (safe_index (by omega)).bind fun length _ => ?_
    refine (safe_sub (by omega)).bind ?_
    rintro opcodeOffset rfl
    refine (safe_index (by omega)).bind fun opcode _ => ?_
    refine (safe_sub (by omega)).bind ?_
    rintro lowered rfl
    split
    · exact safe_pure trivial
    refine safe_guard fun _ => safe_guard fun hbefore => ?_
    split
    · refine (safe_sub (by omega)).bind ?_
      rintro projectOffset rfl
      refine (safe_index (by omega)).bind fun projectId _ => ?_
      exact safe_pure trivial
    · refine (safe_sub (Nat.le_of_not_lt hbefore)).bind ?_
      rintro lowered rfl
      refine safe_pure ⟨?_, ?_⟩
      · exact (Nat.sub_le _ _).trans ((Nat.sub_le _ _).trans hinside)
      · exact Nat.lt_of_le_of_lt (Nat.sub_le _ _) (Nat.sub_lt (by omega) (by decide))
  · exact safe_pure trivial

theorem length_octetsAt {bytes : Bytes} {offset count : Nat}
    (hinside : offset + count ≤ bytes.length) :
    (octetsAt bytes offset count).length = count := by
  rw [octetsAt, List.length_take, List.length_drop]
  omega

theorem octetsAt_octetsAt {bytes : Bytes} {offset count skipped taken : Nat}
    (hfits : skipped + taken ≤ count) :
    octetsAt (octetsAt bytes offset count) skipped taken =
      octetsAt bytes (offset + skipped) taken := by
  rw [octetsAt, octetsAt, octetsAt, List.drop_take, List.drop_drop, List.take_take,
    Nat.min_eq_left (by omega)]

/-- A patch of the table is read without a fault and is what its entry states. -/
theorem safe_readPatch {bytes : Bytes} (version : UInt32) {place : Nat}
    (hplace : place < headerPatchCount bytes) :
    Safe (readPatch bytes version 14 (14 + 2 * headerPatchCount bytes)
        (14 + 4 * headerPatchCount bytes) place)
      ((entry bytes place).Carried bytes version) := by
  have hcount : headerPatchCount bytes < 65536 := UInt16.toNat_lt _
  have hmax : usizeMax = 18446744073709551615 := rfl
  refine (safe_mul (by omega)).bind ?_
  rintro words rfl
  refine (safe_mul (by omega)).bind ?_
  rintro doubles rfl
  refine (safe_add (by omega)).bind ?_
  rintro chipIdOffset rfl
  refine (safe_readU16 bytes (by omega)).bind ?_
  rintro chipId rfl
  refine (safe_add (by omega)).bind ?_
  rintro lengthOffset rfl
  refine (safe_readU16 bytes (by omega)).bind fun patchLength hlength => ?_
  refine (safe_add (by omega)).bind ?_
  rintro offsetOffset rfl
  refine (safe_readU32 bytes (by omega)).bind fun patchOffset hoffset => ?_
  refine (safe_okOrElse fun found hfound => hfound).bind fun patchEnd hend => ?_
  have hend : patchEnd = patchOffset.toNat + patchLength.toNat ∧ patchEnd ≤ usizeMax := by
    rw [checkedAdd] at hend
    split at hend
    · next hfits =>
      cases hend
      exact ⟨rfl, hfits⟩
    · cases hend
  obtain ⟨hend, hfits⟩ := hend
  refine safe_guard fun hcut => ?_
  rw [not_or, Nat.not_lt, Nat.not_lt] at hcut
  obtain ⟨hlong, hinside⟩ := hcut
  refine (safe_sub (by omega)).bind ?_
  rintro svnOffset rfl
  refine (safe_readU32 bytes (by omega)).bind ?_
  rintro svnVersion rfl
  refine (safe_sub (by omega)).bind ?_
  rintro payloadEnd rfl
  refine (safe_slice (by omega) (by omega)).bind ?_
  rintro payload rfl
  have hentryLength : (entry bytes place).length = patchLength.toNat := by rw [hlength]; rfl
  have hentryOffset : (entry bytes place).offset = patchOffset.toNat := by rw [hoffset]; rfl
  have hwhole : patchOffset.toNat + patchLength.toNat ≤ bytes.length := by omega
  refine safe_pure ⟨rfl, ?_, ?_, ?_, ?_⟩
  · rw [Entry.octets, hentryOffset, hentryLength, length_octetsAt hwhole]
  · rwa [hentryLength]
  · have hcut : patchEnd - 4 - patchOffset.toNat = patchLength.toNat - 4 := by omega
    refine congrArg (fun octets => octets ++ u32ToLe version) ?_
    rw [Entry.octets, hentryOffset, hentryLength, octetsAt, List.take_take,
      Nat.min_eq_left (Nat.sub_le _ _), hcut]
  · rw [Entry.octets, hentryOffset, hentryLength, octetsAt_octetsAt (by omega),
      show patchEnd - 8 = patchOffset.toNat + (patchLength.toNat - 8) by omega]

/-- The parser never faults, and what it accepts it has read out of the image. -/
theorem safe_parse (bytes : Bytes) : Safe (Firmware.parse bytes) (Firmware.Carries bytes) := by
  rw [Firmware.parse]
  refine safe_guard fun _ => safe_guard fun _ => safe_guard fun hheader => ?_
  have hheader : 14 ≤ bytes.length := Nat.le_of_not_lt hheader
  have hmax : usizeMax = 18446744073709551615 := rfl
  refine (safe_sub (Nat.le_trans (by decide) hheader)).bind ?_
  rintro extensionOffset rfl
  refine (Safe.loop (fun offset hinside => safe_extensionPass hinside) (Nat.sub_le _ _)
    (Nat.lt_succ_of_le (Nat.sub_le _ _))).bind fun projectId _ => ?_
  refine (safe_okOrElse fun found hfound => hfound).bind fun projectId _ => ?_
  refine (safe_slice (by decide) (by omega)).bind ?_
  rintro _ rfl
  refine (safe_expectArray (length_octetsAt (by omega))).bind ?_
  rintro _ rfl
  refine (safe_slice (by decide) hheader).bind ?_
  rintro _ rfl
  refine (safe_expectArray (length_octetsAt hheader)).bind ?_
  rintro _ rfl
  have hcount : (le16Of (octetsAt bytes 12 2)).toNat < 65536 := UInt16.toNat_lt _
  refine (safe_okOrElse fun found hfound => hfound).bind fun tables _ => ?_
  refine (safe_okOrElse fun found hfound => hfound).bind fun tablesEnd _ => ?_
  refine safe_guard fun _ => ?_
  refine (safe_mul (by omega)).bind ?_
  rintro words rfl
  refine (safe_add (by rw [headerSize]; omega)).bind ?_
  rintro patchLengthsOffset rfl
  refine (safe_mul (by omega)).bind ?_
  rintro doubles rfl
  refine (safe_add (by rw [headerSize]; omega)).bind ?_
  rintro patchOffsetsOffset rfl
  refine (Safe.mapM fun place hplace => safe_readPatch _ (List.mem_range.mp hplace)).bind
    fun patches hpatches => ?_
  have hlength := hpatches.length_eq
  rw [List.length_range] at hlength
  refine safe_pure ⟨rfl, hlength.symm, ?_⟩
  intro place patch hpatch
  obtain ⟨hplace, rfl⟩ := List.getElem?_eq_some_iff.mp hpatch
  have hbound : place < (List.range (headerPatchCount bytes)).length := by
    rw [List.length_range, hlength]
    exact hplace
  have hcarried := hpatches.get hbound hplace
  rw [List.get_eq_getElem, List.getElem_range] at hcarried
  exact hcarried

/-! ## 4. Downloads -/

def fragmentLength : Nat := 252

structure DownloadFragment where
  index : UInt8
  payload : Bytes
deriving DecidableEq, Repr

def fragmentAt (payload : Bytes) (fragmentCount fragmentIndex : Nat) :
    Run Error DownloadFragment := do
  -- the seven bits wrap, and the last fragment adds the mark of the end
  let index := UInt8.ofNat (fragmentIndex &&& 0x7F)
  let index := if fragmentIndex + 1 = fragmentCount then index ||| 0x80 else index
  let offset := fragmentIndex * fragmentLength
  let piece ← slice payload offset (min (offset + fragmentLength) payload.length)
  pure { index, payload := piece }

def downloadFragments (payload : Bytes) : Run Error (List DownloadFragment) :=
  let fragmentCount := (payload.length + fragmentLength - 1) / fragmentLength
  (List.range fragmentCount).mapM (fragmentAt payload fragmentCount)

def placedFragment (payload : Bytes) (fragmentCount fragmentIndex : Nat) : DownloadFragment where
  index :=
    let index := UInt8.ofNat (fragmentIndex &&& 0x7F)
    if fragmentIndex + 1 = fragmentCount then index ||| 0x80 else index
  payload := octetsAt payload (fragmentIndex * fragmentLength) fragmentLength

theorem fragmentAt_eq {payload : Bytes} (fragmentCount : Nat) {fragmentIndex : Nat}
    (hplace : fragmentIndex * fragmentLength < payload.length) :
    fragmentAt payload fragmentCount fragmentIndex =
      .ok (placedFragment payload fragmentCount fragmentIndex) := by
  have hrange : fragmentIndex * fragmentLength ≤
      min (fragmentIndex * fragmentLength + fragmentLength) payload.length := by omega
  rw [fragmentAt, slice, Run.get, if_pos ⟨hrange, Nat.min_le_right _ _⟩]
  have hpiece : octetsAt payload (fragmentIndex * fragmentLength) fragmentLength =
      (payload.drop (fragmentIndex * fragmentLength)).take
        (min (fragmentIndex * fragmentLength + fragmentLength) payload.length -
          fragmentIndex * fragmentLength) := by
    refine List.take_eq_take_iff.mpr ?_
    rw [List.length_drop]
    omega
  rw [placedFragment, hpiece]
  rfl

theorem place_lt_iff {payload : Bytes} {place : Nat} :
    place < (payload.length + fragmentLength - 1) / fragmentLength ↔
      place * fragmentLength < payload.length := by
  rw [fragmentLength]
  omega

theorem downloadFragments_eq (payload : Bytes) :
    downloadFragments payload =
      .ok ((List.range ((payload.length + fragmentLength - 1) / fragmentLength)).map
        (placedFragment payload ((payload.length + fragmentLength - 1) / fragmentLength))) := by
  refine except_mapM_of_forall ?_
  intro place hplace
  exact fragmentAt_eq _ (place_lt_iff.mp (List.mem_range.mp hplace))

theorem flatMap_octetsAt (payload : Bytes) (size count : Nat) :
    (List.range count).flatMap (fun place => octetsAt payload (place * size) size) =
      payload.take (count * size) := by
  induction count with
  | zero => rw [List.range_zero, List.flatMap_nil, Nat.zero_mul, List.take_zero]
  | succ count ih =>
    rw [List.range_succ, List.flatMap_append, ih, List.flatMap_singleton, octetsAt, Nat.succ_mul,
      List.take_add]

theorem length_placedFragment {payload : Bytes} (fragmentCount : Nat) {place : Nat}
    (hplace : place * fragmentLength < payload.length) :
    1 ≤ (placedFragment payload fragmentCount place).payload.length ∧
      (placedFragment payload fragmentCount place).payload.length ≤ fragmentLength := by
  rw [placedFragment, octetsAt, List.length_take, List.length_drop, fragmentLength] at *
  omega

theorem wrapped_index (fragmentIndex : Nat) :
    (UInt8.ofNat (fragmentIndex &&& 0x7F)).toNat = fragmentIndex % 128 := by
  have hmask : fragmentIndex &&& 0x7F = fragmentIndex % 128 := Nat.and_two_pow_sub_one_eq_mod _ 7
  rw [hmask]
  exact UInt8.toNat_ofNat_of_lt' (Nat.lt_trans (Nat.mod_lt _ (by decide)) (by decide))

theorem marked_octet : ∀ octet : UInt8, octet.toNat < 128 →
    (octet &&& 0x7F = octet ∧ octet &&& 0x80 ≠ 0x80) ∧
      ((octet ||| 0x80) &&& 0x7F = octet ∧ (octet ||| 0x80) &&& 0x80 = 0x80) := by
  refine forall_octet_lt ?_
  decide

theorem index_placedFragment (payload : Bytes) (fragmentCount place : Nat) :
    ((placedFragment payload fragmentCount place).index &&& 0x7F).toNat = place % 128 ∧
      ((placedFragment payload fragmentCount place).index &&& 0x80 = 0x80 ↔
        place + 1 = fragmentCount) := by
  have hwrapped := wrapped_index place
  have hlow : (UInt8.ofNat (place &&& 0x7F)).toNat < 128 := by
    rw [hwrapped]
    exact Nat.mod_lt _ (by decide)
  obtain ⟨⟨hplain, hunmarked⟩, hmarked, hmark⟩ := marked_octet _ hlow
  rw [placedFragment, ← hwrapped]
  by_cases hlast : place + 1 = fragmentCount
  · simp only [hlast, if_true, hmarked, hmark, and_self]
  · simp only [hlast, if_false, hplain, hunmarked, and_self]

/-- **Realtek firmware.**  For every image the parser ends without a fault, and the patches it
    returns are those of the tables, each with the octets of its entry but for the version in the
    last four.  For every payload the fragments of a download make it up, and each has its index
    modulo 128 beside the mark that is on the last alone. -/
theorem firmware_lossless (bytes payload : Bytes) :
    (Firmware.parse bytes ≠ .error .fault ∧ Firmware.parse bytes ≠ .error .endless ∧
      ∀ firmware, Firmware.parse bytes = .ok firmware → firmware.Carries bytes) ∧
    ∃ fragments, downloadFragments payload = .ok fragments ∧
      (fragments.flatMap fun fragment => fragment.payload) = payload ∧
      ∀ (place : Nat) (fragment : DownloadFragment), fragments[place]? = some fragment →
        (1 ≤ fragment.payload.length ∧ fragment.payload.length ≤ 252) ∧
        (fragment.index &&& 0x7F).toNat = place % 128 ∧
        (fragment.index &&& 0x80 = 0x80 ↔ place + 1 = fragments.length) := by
  have hparse := safe_parse bytes
  refine ⟨⟨hparse.ne_fault, hparse.ne_endless, fun firmware hfirmware => hparse.value hfirmware⟩,
    _, downloadFragments_eq payload, ?_, ?_⟩
  · rw [List.flatMap_map]
    refine (flatMap_octetsAt payload fragmentLength _).trans (List.take_of_length_le ?_)
    rw [fragmentLength]
    omega
  · intro place fragment hfragment
    rw [List.getElem?_map] at hfragment
    obtain ⟨found, hfound, rfl⟩ := Option.map_eq_some_iff.mp hfragment
    obtain ⟨hplace, rfl⟩ := List.getElem?_eq_some_iff.mp hfound
    rw [List.length_range] at hplace
    rw [List.getElem_range, List.length_map, List.length_range]
    obtain ⟨hindex, hlast⟩ := index_placedFragment payload
      ((payload.length + fragmentLength - 1) / fragmentLength) place
    exact ⟨length_placedFragment _ (place_lt_iff.mp hplace), hindex, hlast⟩

/-- An image of one patch, with the octets from the front of the file. -/
def smallImage : Bytes :=
  epatchSignature ++ [0x04, 0x03, 0x02, 0x01, 0x01, 0x00] ++ [0x01, 0x00] ++ [0x09, 0x00] ++
    [0x00, 0x00, 0x00, 0x00] ++ [0x0E, 0x01, 0x00] ++ extensionSignature

theorem smallImage_lossless :
    ∃ firmware, Firmware.parse smallImage = .ok firmware ∧ firmware.Carries smallImage ∧
      firmware.patches.map Patch.payload =
        [[0x52, 0x65, 0x61, 0x6C, 0x74, 0x04, 0x03, 0x02, 0x01]] := by
  have hparse : Firmware.parse smallImage = .ok ⟨0x0E, 0x01020304,
      [⟨1, [0x52, 0x65, 0x61, 0x6C, 0x74, 0x04, 0x03, 0x02, 0x01], 0x746C6165⟩]⟩ := by decide
  exact ⟨_, hparse, (firmware_lossless smallImage []).1.2.2 _ hparse, rfl⟩

end Bumble.Rtk
