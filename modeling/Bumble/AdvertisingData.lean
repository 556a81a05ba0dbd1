import Bumble.OctetReader

/-!
# Advertising data (`bumble/src/advertising_data.rs`)

An advertising structure is a length octet, which counts the type behind it, the type and a
value.  The parser reads with offsets into the data; an access outside of it, on which the
program stops, is `none` here.
-/

namespace Bumble

/-- The structures in order, each a type and a value. -/
structure AdvertisingData where
  adStructures : List (UInt8 × Bytes)
deriving DecidableEq, Repr

namespace AdvertisingData

/-! ## 1. The codec -/

def new : AdvertisingData := ⟨[]⟩

/-- `data[start..end]`. -/
def slice (data : Bytes) (start stop : Nat) : Option Bytes :=
  if start ≤ stop ∧ stop ≤ data.length then some ((data.take stop).drop start) else none

/-- The value of a structure whose length counts from its type, as far as there is data. -/
def valueAt (data : Bytes) (offset length : Nat) : Option Bytes :=
  let start := offset + 1
  let stop := min (offset + length) data.length
  if start ≤ stop then slice data start stop else some []

/-- The loop of `append`, from an offset on. -/
def appendLoop (data : Bytes) (offset : Nat) (ad : AdvertisingData) : Option AdvertisingData :=
  if offset + 1 < data.length then do
    let length ← data[offset]?
    if length > 0 then
      let adType ← data[offset + 1]?
      let value ← valueAt data (offset + 1) length.toNat
      appendLoop data (offset + 1 + length.toNat) ⟨ad.adStructures ++ [(adType, value)]⟩
    else appendLoop data (offset + 1 + length.toNat) ad
  else some ad
termination_by data.length - offset

def append (ad : AdvertisingData) (data : Bytes) : Option AdvertisingData := appendLoop data 0 ad

def fromBytes (data : Bytes) : Option AdvertisingData := new.append data

def toBytes (ad : AdvertisingData) : Bytes :=
  ad.adStructures.flatMap fun (adType, value) => UInt8.ofNat (value.length + 1) :: adType :: value

/-! ## 2. The structures of the octets that are left -/

def structures : Bytes → List (UInt8 × Bytes)
  | length :: adType :: rest =>
    if length > 0 then
      (adType, rest.take (length.toNat - 1)) :: structures (rest.drop (length.toNat - 1))
    else structures (adType :: rest)
  | _ => []
termination_by data => data.length
decreasing_by
  · simp only [List.length_drop, List.length_cons]
    omega
  · exact Nat.lt_succ_self _

theorem structures_cons {length : UInt8} (hlength : length > 0) (adType : UInt8) (rest : Bytes) :
    structures (length :: adType :: rest) =
      (adType, rest.take (length.toNat - 1)) :: structures (rest.drop (length.toNat - 1)) := by
  rw [structures, if_pos hlength]

theorem structures_zero (adType : UInt8) (rest : Bytes) :
    structures (0 :: adType :: rest) = structures (adType :: rest) := by
  rw [structures, if_neg (by decide)]

theorem structures_short {data : Bytes} (hshort : data.length < 2) : structures data = [] := by
  rw [structures]
  intro length adType rest heq
  rw [heq] at hshort
  simp only [List.length_cons] at hshort
  omega

theorem valueAt_eq {data : Bytes} {offset length : Nat} (hoffset : offset < data.length)
    (hlength : 0 < length) :
    valueAt data offset length = some ((data.drop (offset + 1)).take (length - 1)) := by
  have hstart : offset + 1 ≤ min (offset + length) data.length := by omega
  have hslice : offset + 1 ≤ min (offset + length) data.length ∧
      min (offset + length) data.length ≤ data.length := ⟨hstart, Nat.min_le_right _ _⟩
  have htake : data.take (min (offset + length) data.length) = data.take (offset + length) := by
    rw [← List.take_take, List.take_length]
  rw [valueAt, if_pos hstart, slice, if_pos hslice, htake, List.drop_take, Nat.add_sub_add_left]

/-- **The loop finds the structures of the data behind its offset.** -/
theorem appendLoop_eq (data : Bytes) (offset : Nat) (ad : AdvertisingData) :
    appendLoop data offset ad = some ⟨ad.adStructures ++ structures (data.drop offset)⟩ := by
  induction hleft : data.length - offset using Nat.strong_induction_on generalizing offset ad with
  | _ left ih =>
    rw [appendLoop]
    split
    · next hmore =>
      have hlengthAt : data[offset]? = some data[offset] := List.getElem?_eq_getElem (by omega)
      have htypeAt : data[offset + 1]? = some data[offset + 1] := List.getElem?_eq_getElem hmore
      have hdrop : data.drop offset =
          data[offset] :: data[offset + 1] :: data.drop (offset + 2) := by
        rw [List.drop_eq_getElem_cons (by omega), List.drop_eq_getElem_cons hmore]
      rw [hlengthAt, hdrop, htypeAt]
      change (if data[offset] > 0 then _ else _) = _
      by_cases hlength : data[offset] > 0
      · have hpos : 0 < data[offset].toNat := UInt8.lt_iff_toNat_lt.mp hlength
        rw [if_pos hlength, valueAt_eq hmore hpos, structures_cons hlength]
        change appendLoop data (offset + 1 + data[offset].toNat) _ = _
        rw [ih _ (by omega) _ _ rfl, List.drop_drop, List.append_assoc,
          show offset + 2 + (data[offset].toNat - 1) = offset + 1 + data[offset].toNat by omega]
        rfl
      · have hzero : data[offset] = 0 :=
          UInt8.toNat_inj.mp (Nat.le_zero.mp (UInt8.le_iff_toNat_le.mp (UInt8.not_lt.mp hlength)))
        rw [if_neg hlength, hzero, structures_zero]
        change appendLoop data (offset + 1) ad = _
        rw [ih _ (by omega) _ _ rfl, List.drop_eq_getElem_cons hmore]
    · next hdone =>
      have hshort : (data.drop offset).length < 2 := by
        rw [List.length_drop]
        omega
      rw [structures_short hshort, List.append_nil]

theorem append_eq (ad : AdvertisingData) (data : Bytes) :
    ad.append data = some ⟨ad.adStructures ++ structures data⟩ := appendLoop_eq data 0 ad

theorem fromBytes_eq (data : Bytes) : fromBytes data = some ⟨structures data⟩ := append_eq new data

/-! ## 3. Round trips -/

def Short (ad : AdvertisingData) : Prop := ∀ entry ∈ ad.adStructures, entry.2.length ≤ 254

theorem structures_toBytes {list : List (UInt8 × Bytes)} (hshort : Short ⟨list⟩) (later : Bytes) :
    structures (toBytes ⟨list⟩ ++ later) = list ++ structures later := by
  induction list with
  | nil => rfl
  | cons entry list ih =>
    obtain ⟨adType, value⟩ := entry
    have hvalue : value.length ≤ 254 := hshort (adType, value) List.mem_cons_self
    have hlength : (UInt8.ofNat (value.length + 1)).toNat = value.length + 1 :=
      UInt8.toNat_ofNat_of_lt' (show value.length + 1 < 256 by omega)
    have hpos : UInt8.ofNat (value.length + 1) > 0 := by
      refine UInt8.lt_iff_toNat_lt.mpr ?_
      rw [hlength]
      exact Nat.succ_pos _
    have hbytes : toBytes ⟨(adType, value) :: list⟩ ++ later =
        UInt8.ofNat (value.length + 1) :: adType :: (value ++ (toBytes ⟨list⟩ ++ later)) := by
      rw [toBytes, List.flatMap_cons, List.append_assoc]
      rfl
    rw [hbytes, structures_cons hpos, hlength, Nat.add_sub_cancel, List.take_left' rfl,
      List.drop_left' rfl, ih fun other hmem => hshort other (List.mem_cons_of_mem _ hmem)]
    rfl

theorem short_structures (data : Bytes) : Short ⟨structures data⟩ := by
  induction data using structures.induct with
  | case1 length adType rest hlength ih =>
    intro entry hmem
    rw [structures_cons hlength] at hmem
    rcases List.mem_cons.mp hmem with rfl | hmem
    · have hlt := length.toNat_lt
      refine Nat.le_trans (List.length_take_le _ _) ?_
      omega
    · exact ih entry hmem
  | case2 length adType rest hlength ih =>
    intro entry hmem
    rw [structures, if_neg hlength] at hmem
    exact ih entry hmem
  | case3 data hshort =>
    intro entry hmem
    rw [structures] at hmem
    · cases hmem
    · exact hshort

/-- A value too long for the length octet in front of it is cut short.  Where the octet is zero
    the parser looks for the length behind it, in the type, and finds the type in the value. -/
theorem parsed_single {adType : UInt8} {value parsed : Bytes} (htype : adType > 0)
    (hfirst : value.head? ≠ some adType)
    (hparsed : fromBytes (toBytes ⟨[(adType, value)]⟩) = some ⟨[(adType, parsed)]⟩) :
    ∃ later, value = parsed ++ later ∧ (later = [] → value.length ≤ 254) := by
  rw [fromBytes_eq, toBytes, List.flatMap_singleton, Option.some.injEq, mk.injEq] at hparsed
  change structures (UInt8.ofNat (value.length + 1) :: adType :: value) = _ at hparsed
  by_cases hlength : UInt8.ofNat (value.length + 1) > 0
  · rw [structures_cons hlength, List.cons.injEq] at hparsed
    obtain ⟨⟨⟩⟩ := hparsed
    refine ⟨_, (List.take_append_drop ((UInt8.ofNat (value.length + 1)).toNat - 1) value).symm, ?_⟩
    intro hdrop
    have hshort := List.drop_eq_nil_iff.mp hdrop
    have hlt := (UInt8.ofNat (value.length + 1)).toNat_lt
    omega
  · have hzero : UInt8.ofNat (value.length + 1) = 0 :=
      UInt8.toNat_inj.mp (Nat.le_zero.mp (UInt8.le_iff_toNat_le.mp (UInt8.not_lt.mp hlength)))
    rw [hzero, structures_zero] at hparsed
    cases value with
    | nil => exact absurd hzero (by decide)
    | cons first value =>
      rw [structures_cons htype, List.cons.injEq, Prod.mk.injEq] at hparsed
      exact absurd (congrArg some hparsed.1.1) hfirst

/-- **The codec of advertising data.**  Structures with values of at most 254 octets are parsed
    again, and data appended to them is parsed as it is behind them; any data is parsed without
    an access outside of it, and what is parsed is parsed again from its octets. -/
theorem advertising_data_codec {ad : AdvertisingData} (hshort : ad.Short) (more data : Bytes) :
    fromBytes ad.toBytes = some ad ∧
      (fromBytes ad.toBytes).bind (·.append more) = fromBytes (ad.toBytes ++ more) ∧
      ∃ parsed, fromBytes data = some parsed ∧ fromBytes parsed.toBytes = some parsed := by
  have hcodec : ∀ {ad : AdvertisingData}, ad.Short → fromBytes ad.toBytes = some ad := by
    rintro ⟨list⟩ hshort
    have hlist := structures_toBytes hshort []
    rw [List.append_nil, @structures_short [] (by decide), List.append_nil] at hlist
    rw [fromBytes_eq, hlist]
  refine ⟨hcodec hshort, ?_, ⟨structures data⟩, fromBytes_eq data, hcodec (short_structures data)⟩
  rw [hcodec hshort, fromBytes_eq]
  obtain ⟨list⟩ := ad
  rw [structures_toBytes hshort]
  exact append_eq ⟨list⟩ more

/-- A name and flags, and data whose last structure claims more than there is. -/
theorem name_and_flags_parsed :
    fromBytes (toBytes ⟨[(0x09, [0x41, 0x42]), (0x01, [])]⟩) =
        some ⟨[(0x09, [0x41, 0x42]), (0x01, [])]⟩ ∧
      (fromBytes (toBytes ⟨[(0x09, [0x41, 0x42]), (0x01, [])]⟩)).bind (·.append [0, 2, 0x0A]) =
        fromBytes (toBytes ⟨[(0x09, [0x41, 0x42]), (0x01, [])]⟩ ++ [0, 2, 0x0A]) ∧
      ∃ parsed, fromBytes [0, 0, 9, 0xFF, 1] = some parsed ∧
        fromBytes parsed.toBytes = some parsed :=
  advertising_data_codec (by
    intro entry hmem
    rcases List.mem_cons.mp hmem with rfl | hmem
    · decide
    · rw [List.mem_singleton.mp hmem]
      decide) [0, 2, 0x0A] [0, 0, 9, 0xFF, 1]

end AdvertisingData

end Bumble
