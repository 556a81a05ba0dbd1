import Bumble.ReaderInversion

/-!
# Exact readers

A format says which octets stand for which value.  A reader is exact for it when it reads
octets of the format as the value they stand for, whatever is behind them, and reads nothing
else.  A format may have several octets for a value; an encoder is one that has one at most.
-/

namespace Bumble.OctetReader

variable {ε α β γ : Type}

structure Exact (reader : OctetReader ε α) (stands : α → Bytes → Prop) : Prop where
  reads : ∀ {value : α} {octets : Bytes}, stands value octets → Reads reader octets value
  takes : Takes reader stands

/-! ## 1. Formats -/

/-- The octets of a first part and of a second that depends on it. -/
def Then (first : α → Bytes → Prop) (second : α → β → Bytes → Prop) (result : β) (octets : Bytes) :
    Prop :=
  ∃ value front later, first value front ∧ second value result later ∧ octets = front ++ later

def Nothing (value result : α) (octets : Bytes) : Prop := result = value ∧ octets = []

/-- As many pieces as there are values, one after the other. -/
def Pieces (stands : α → Bytes → Prop) (count : Nat) (values : List α) (octets : Bytes) : Prop :=
  values.length = count ∧ ∃ pieces, List.Forall₂ stands values pieces ∧ octets = pieces.flatten

/-! ## 2. Readers -/

section Readers

variable {reader : OctetReader ε α} {stands : α → Bytes → Prop}

theorem Exact.congr {stands' : α → Bytes → Prop} (hexact : Exact reader stands)
    (hiff : ∀ value octets, stands value octets ↔ stands' value octets) : Exact reader stands' := by
  refine ⟨?_, ?_⟩
  · intro value octets hstands
    exact hexact.reads ((hiff value octets).mpr hstands)
  · intro bytes value later hread
    obtain ⟨front, hstands, hbytes⟩ := hexact.takes hread
    exact ⟨front, (hiff value front).mp hstands, hbytes⟩

theorem Exact.bind {next : α → OctetReader ε β} {standsNext : α → β → Bytes → Prop}
    (hexact : Exact reader stands) (hnext : ∀ value, Exact (next value) (standsNext value)) :
    Exact (reader >>= next) (Then stands standsNext) := by
  refine ⟨?_, ?_⟩
  · rintro result octets ⟨value, front, later, hfront, hlater, rfl⟩
    exact (hexact.reads hfront).bind ((hnext value).reads hlater)
  · intro bytes result later hread
    obtain ⟨value, middle, hfirst, hrest⟩ := bind_eq_ok hread
    obtain ⟨front, hfront, rfl⟩ := hexact.takes hfirst
    obtain ⟨behind, hbehind, rfl⟩ := (hnext value).takes hrest
    exact ⟨front ++ behind, ⟨value, front, behind, hfront, hbehind, rfl⟩,
      (List.append_assoc front behind later).symm⟩

theorem exact_pure (value : α) : Exact (pure value : OctetReader ε α) (Nothing value) := by
  refine ⟨?_, ?_⟩
  · rintro result octets ⟨rfl, rfl⟩
    exact reads_pure result
  · intro bytes result later hread
    cases hread
    exact ⟨[], ⟨rfl, rfl⟩, rfl⟩

theorem Exact.map (hexact : Exact reader stands) (f : α → β) :
    Exact (do
      let value ← reader
      pure (f value)) fun result octets => ∃ value, stands value octets ∧ result = f value := by
  refine (hexact.bind fun value => exact_pure (f value)).congr ?_
  intro result octets
  constructor
  · rintro ⟨value, front, later, hfront, ⟨rfl, rfl⟩, rfl⟩
    exact ⟨value, (List.append_nil front).symm ▸ hfront, rfl⟩
  · rintro ⟨value, hstands, rfl⟩
    exact ⟨value, octets, [], hstands, ⟨rfl, rfl⟩, (List.append_nil octets).symm⟩

theorem bind_assoc (first : OctetReader ε α) (middle : α → OctetReader ε β)
    (last : β → OctetReader ε γ) :
    ((first >>= middle) >>= last) = first >>= fun value => middle value >>= last := by
  funext bytes
  simp only [bind_apply]
  cases first bytes <;> rfl

theorem exact_fail (error : ε) : Exact (fail error : OctetReader ε α) fun _ _ => False := by
  refine ⟨fun hstands => hstands.elim, ?_⟩
  intro bytes value later hread
  cases hread

theorem exact_lift (result : Except ε α) :
    Exact (lift result) fun value octets => result = .ok value ∧ octets = [] := by
  refine ⟨?_, ?_⟩
  · rintro value octets ⟨rfl, rfl⟩ later
    rfl
  · intro bytes value later hread
    obtain ⟨hresult, rfl⟩ := lift_eq_ok hread
    exact ⟨[], ⟨hresult, rfl⟩, rfl⟩

theorem exact_replicate (hexact : Exact reader stands) (count : Nat) :
    Exact (replicate reader count) (Pieces stands count) := by
  refine ⟨?_, ?_⟩
  · rintro values octets ⟨rfl, pieces, hpieces, rfl⟩
    induction hpieces with
    | nil => exact reads_pure []
    | cons hfirst _ ih =>
      rw [List.flatten_cons]
      exact (hexact.reads hfirst).bind (ih.last (reads_pure _))
  · intro bytes values later hread
    obtain ⟨hlength, pieces, hpieces, hbytes⟩ := replicate_eq_ok hexact.takes count hread
    exact ⟨pieces.flatten, ⟨hlength, pieces, hpieces, rfl⟩, hbytes⟩

/-- Readers at consecutive indices, so many from the first. -/
def replicateFrom (reader : Nat → OctetReader ε α) : Nat → Nat → OctetReader ε (List α)
  | _, 0 => pure []
  | index, count + 1 => do
    let value ← reader index
    let values ← replicateFrom reader (index + 1) count
    pure (value :: values)

theorem exact_replicateFrom {reader : Nat → OctetReader ε α}
    (hexact : ∀ index, Exact (reader index) stands) (index count : Nat) :
    Exact (replicateFrom reader index count) (Pieces stands count) := by
  induction count generalizing index with
  | zero =>
    refine (exact_pure []).congr fun values octets => ⟨?_, ?_⟩
    · rintro ⟨rfl, rfl⟩
      exact ⟨rfl, [], .nil, rfl⟩
    · rintro ⟨hlength, pieces, hpieces, rfl⟩
      cases List.length_eq_zero_iff.mp hlength
      cases hpieces
      exact ⟨rfl, rfl⟩
  | succ count ih =>
    refine ((hexact index).bind fun value => (ih (index + 1)).map _).congr
      fun values octets => ⟨?_, ?_⟩
    · rintro ⟨value, front, _, hvalue, ⟨later, ⟨rfl, pieces, hpieces, rfl⟩, rfl⟩, rfl⟩
      exact ⟨rfl, front :: pieces, .cons hvalue hpieces, rfl⟩
    · rintro ⟨hlength, pieces, hpieces, rfl⟩
      cases hpieces with
      | nil => cases hlength
      | @cons value piece values pieces hvalue hpieces =>
        exact ⟨value, piece, _, hvalue,
          ⟨values, ⟨Nat.succ.inj hlength, pieces, hpieces, rfl⟩, rfl⟩, rfl⟩

theorem Exact.run_iff (hexact : Exact reader stands) {trailing : Nat → ε} {bytes : Bytes}
    {value : α} : reader.run trailing bytes = .ok value ↔ stands value bytes := by
  constructor
  · intro hrun
    obtain ⟨front, hstands, hbytes⟩ := hexact.takes (run_eq_ok hrun)
    rw [List.append_nil] at hbytes
    exact hbytes ▸ hstands
  · exact fun hstands => (hexact.reads hstands).run trailing

theorem Exact.prefix_free (hexact : Exact reader stands) {value other : α} {octets later : Bytes}
    (hvalue : stands value octets) (hother : stands other (octets ++ later)) :
    other = value ∧ later = [] := by
  have hread := hexact.reads hvalue later
  have hwhole := hexact.reads hother []
  rw [List.append_nil, hread] at hwhole
  cases hwhole
  exact ⟨rfl, rfl⟩

end Readers

/-! ## 3. Fields -/

def Raw (count : Nat) (octets bytes : Bytes) : Prop := bytes = octets ∧ octets.length = count

/-- The next octets; the error says where they are missing. -/
def takeAt (short : Bytes → ε) (count : Nat) : OctetReader ε Bytes :=
  fun bytes => take (short bytes) count bytes

theorem exact_takeAt (short : Bytes → ε) (count : Nat) :
    Exact (takeAt short count) (Raw count) := by
  refine ⟨?_, ?_⟩
  · rintro octets bytes ⟨rfl, rfl⟩ later
    exact reads_take (short (bytes ++ later)) bytes later
  · intro bytes octets later hread
    obtain ⟨hbytes, hlength⟩ := take_eq_ok hread
    exact ⟨octets, ⟨rfl, hlength⟩, hbytes⟩

section Fields

variable {reader : OctetReader ε Bytes} {count : Nat}

theorem Exact.decoded {decode : Bytes → α} {encode : α → Bytes} {fits : α → Prop}
    (hexact : Exact reader (Raw count)) (hlength : ∀ value, (encode value).length = count)
    (hdecode : ∀ value, fits value → decode (encode value) = value)
    (hencode : ∀ octets : Bytes, octets.length = count →
      encode (decode octets) = octets ∧ fits (decode octets)) :
    Exact (do
      let octets ← reader
      pure (decode octets)) fun value octets => fits value ∧ octets = encode value := by
  refine (hexact.map decode).congr ?_
  intro value octets
  constructor
  · rintro ⟨octets', ⟨rfl, hoctets⟩, rfl⟩
    obtain ⟨heq, hfits⟩ := hencode octets hoctets
    exact ⟨hfits, heq.symm⟩
  · rintro ⟨hfits, rfl⟩
    exact ⟨encode value, ⟨rfl, hlength value⟩, (hdecode value hfits).symm⟩

theorem Exact.decoded_all {decode : Bytes → α} {encode : α → Bytes}
    (hexact : Exact reader (Raw count)) (hlength : ∀ value, (encode value).length = count)
    (hdecode : ∀ value, decode (encode value) = value)
    (hencode : ∀ octets : Bytes, octets.length = count → encode (decode octets) = octets) :
    Exact (do
      let octets ← reader
      pure (decode octets)) fun value octets => octets = encode value := by
  refine (hexact.decoded hlength (fun value (_ : True) => hdecode value)
    fun octets hoctets => ⟨hencode octets hoctets, trivial⟩).congr ?_
  exact fun value octets => iff_of_eq (true_and _)

theorem Exact.u8 (hexact : Exact reader (Raw 1)) :
    Exact (do
      let octets ← reader
      pure (octets.headD 0)) fun octet octets => octets = [octet] := by
  refine hexact.decoded_all (fun value => rfl) (fun value => rfl) ?_
  intro octets hlength
  obtain ⟨octet, rfl⟩ := List.length_eq_one_iff.mp hlength
  rfl

def le16Of (octets : Bytes) : UInt16 := u16FromLe (octets.getD 0 0) (octets.getD 1 0)

theorem Exact.u16Le (hexact : Exact reader (Raw 2)) :
    Exact (do
      let octets ← reader
      pure (le16Of octets)) fun value octets => octets = u16ToLe value := by
  refine hexact.decoded_all (fun value => rfl) u16FromLe_toLe ?_
  intro octets hlength
  obtain ⟨low, high, rfl⟩ := List.length_eq_two.mp hlength
  exact u16ToLe_fromLe low high

def leOf (octets : Bytes) : UInt32 := UInt32.ofNat (beToNat octets.reverse)

theorem leOf_u32ToLe (value : UInt32) : leOf (u32ToLe value) = value := by
  rw [leOf, u32ToLe_eq, List.reverse_reverse, u32ToBe, beToNat_natToBe 4 value.toNat_lt]
  exact UInt32.ofNat_toNat

theorem Exact.u32Le (hexact : Exact reader (Raw 4)) :
    Exact (do
      let octets ← reader
      pure (leOf octets)) fun value octets => octets = u32ToLe value := by
  refine hexact.decoded_all (fun value => ?_) leOf_u32ToLe fun octets => u32ToLe_beToNat
  rw [u32ToLe, List.length_map, List.length_range]

/-- The three lower octets of a word, the lowest first. -/
def u24ToLe (value : UInt32) : Bytes := (u32ToLe value).take 3

theorem u24ToLe_eq (value : UInt32) : u24ToLe value = (natToBe 3 value.toNat).reverse := by
  simp [u24ToLe, u32ToLe, natToBe, List.range_succ, Nat.div_div_eq_div_mul]

theorem Exact.u24Le (hexact : Exact reader (Raw 3)) :
    Exact (do
      let octets ← reader
      pure (leOf octets)) fun value octets =>
        value.toNat < 0x1000000 ∧ octets = u24ToLe value := by
  refine hexact.decoded (fun value => ?_) (fun value hvalue => ?_) (fun octets hlength => ?_)
  · rw [u24ToLe_eq, List.length_reverse, length_natToBe]
  · rw [leOf, u24ToLe_eq, List.reverse_reverse, beToNat_natToBe 3 hvalue]
    exact UInt32.ofNat_toNat
  · have hreverse : octets.reverse.length = 3 := List.length_reverse.trans hlength
    have hlt : beToNat octets.reverse < 0x1000000 := beToNat_lt_of_length hreverse
    have hnumber : (leOf octets).toNat = beToNat octets.reverse :=
      UInt32.toNat_ofNat_of_lt' (Nat.lt_trans hlt (by decide))
    refine ⟨?_, ?_⟩
    · rw [u24ToLe_eq, natToBe_of_length hreverse hnumber, List.reverse_reverse]
    · rw [hnumber]
      exact hlt

def vectorOf (count : Nat) (octets : Bytes) : Vector UInt8 count :=
  Vector.ofFn fun index => octets.getD index.val 0

theorem Exact.vector (hexact : Exact reader (Raw count)) :
    Exact (do
      let octets ← reader
      pure (vectorOf count octets)) fun value octets => octets = value.toList := by
  refine hexact.decoded_all (fun value => value.length_toList) (fun value => ?_) ?_
  · refine Vector.ext fun index hindex => ?_
    have hlength : index < value.toList.length := by rwa [value.length_toList]
    rw [vectorOf, Vector.getElem_ofFn, List.getD_eq_getElem?_getD, List.getElem?_eq_getElem hlength,
      Option.getD_some, Vector.getElem_toList]
  · intro octets hlength
    refine List.ext_getElem ?_ ?_
    · rw [Vector.length_toList, hlength]
    · intro index hfirst hsecond
      rw [Vector.getElem_toList]
      change (Vector.ofFn fun place : Fin count => octets.getD place.val 0)[index] = _
      rw [Vector.getElem_ofFn, List.getD_eq_getElem?_getD, List.getElem?_eq_getElem hsecond,
        Option.getD_some]

end Fields

/-! ## 4. Lengths and counts -/

/-- The octets of a value behind the number of them. -/
def LengthPrefixed (octets bytes : Bytes) : Prop :=
  octets.length < 256 ∧ bytes = UInt8.ofNat octets.length :: octets

theorem exact_lengthPrefixed {first : OctetReader ε UInt8} {behind : Nat → OctetReader ε Bytes}
    (hfirst : Exact first fun octet octets => octets = [octet])
    (hbehind : ∀ count, Exact (behind count) (Raw count)) :
    Exact (do
      let length ← first
      behind length.toNat) LengthPrefixed := by
  refine (hfirst.bind fun length => hbehind length.toNat).congr ?_
  intro octets bytes
  constructor
  · rintro ⟨length, front, later, rfl, ⟨rfl, hlength⟩, rfl⟩
    refine ⟨?_, ?_⟩
    · rw [hlength]
      exact length.toNat_lt
    · rw [hlength, UInt8.ofNat_toNat]
      rfl
  · rintro ⟨hlength, rfl⟩
    exact ⟨UInt8.ofNat octets.length, [_], octets, rfl,
      ⟨rfl, (UInt8.toNat_ofNat_of_lt' hlength).symm⟩, rfl⟩

def Counted (stands : α → Bytes → Prop) (values : List α) (octets : Bytes) : Prop :=
  values.length < 256 ∧ ∃ pieces, List.Forall₂ stands values pieces ∧
    octets = UInt8.ofNat values.length :: pieces.flatten

theorem then_pieces {stands : α → Bytes → Prop} {values : List α} {octets : Bytes} :
    Then (fun octet octets => octets = [octet])
      (fun count : UInt8 => Pieces stands count.toNat) values
        octets ↔ Counted stands values octets := by
  constructor
  · rintro ⟨count, front, later, rfl, ⟨hlength, pieces, hpieces, rfl⟩, rfl⟩
    refine ⟨?_, pieces, hpieces, ?_⟩
    · rw [hlength]
      exact count.toNat_lt
    · rw [hlength, UInt8.ofNat_toNat]
      rfl
  · rintro ⟨hlength, pieces, hpieces, rfl⟩
    exact ⟨UInt8.ofNat values.length, [_], pieces.flatten, rfl,
      ⟨(UInt8.toNat_ofNat_of_lt' hlength).symm, pieces, hpieces, rfl⟩, rfl⟩

theorem exact_counted {first : OctetReader ε UInt8} {reader : OctetReader ε α}
    {stands : α → Bytes → Prop} (hfirst : Exact first fun octet octets => octets = [octet])
    (hexact : Exact reader stands) :
    Exact (do
      let count ← first
      replicate reader count.toNat) (Counted stands) :=
  (hfirst.bind fun count => exact_replicate hexact count.toNat).congr fun _ _ => then_pieces

theorem exact_countedMap {first : OctetReader ε UInt8} {reader : OctetReader ε α}
    {stands : α → Bytes → Prop} (hfirst : Exact first fun octet octets => octets = [octet])
    (hexact : Exact reader stands) (make : List α → β) :
    Exact (do
      let count ← first
      let values ← replicate reader count.toNat
      pure (make values)) fun result octets =>
        ∃ values, Counted stands values octets ∧ result = make values := by
  have hmap := (exact_counted hfirst hexact).map make
  rwa [bind_assoc] at hmap

/-- Octets whose number fits in an octet, behind it. -/
def lengthPrefixed {ε' : Type} (tooLong : ε') (octets : Bytes) : Except ε' Bytes :=
  if octets.length < 256 then .ok (UInt8.ofNat octets.length :: octets) else .error tooLong

theorem lengthPrefixed_eq_ok {ε' : Type} {tooLong : ε'} {octets bytes : Bytes} :
    lengthPrefixed tooLong octets = .ok bytes ↔ LengthPrefixed octets bytes := by
  rw [lengthPrefixed, LengthPrefixed]
  split
  · next hlength =>
    rw [Except.ok.injEq, eq_comm]
    exact ⟨fun heq => ⟨hlength, heq⟩, And.right⟩
  · next hlength => exact ⟨nofun, fun hboth => absurd hboth.1 hlength⟩

theorem forall₂_iff_mapM {ε' : Type} {encode : α → Except ε' Bytes} {values : List α}
    {pieces : List Bytes} :
    List.Forall₂ (fun value piece => encode value = .ok piece) values pieces ↔
      values.mapM encode = .ok pieces :=
  ⟨mapM_of_forall₂, except_mapM_eq_ok⟩

/-- The values whose number fits in an octet, behind it. -/
def counted {ε' : Type} (tooMany : ε') (encode : α → Except ε' Bytes) (values : List α) :
    Except ε' Bytes :=
  if values.length < 256 then do
    let pieces ← values.mapM encode
    pure (UInt8.ofNat values.length :: pieces.flatten)
  else .error tooMany

theorem counted_eq_ok {ε' : Type} {tooMany : ε'} {encode : α → Except ε' Bytes} {values : List α}
    {bytes : Bytes} : counted tooMany encode values = .ok bytes ↔
      Counted (fun value piece => encode value = .ok piece) values bytes := by
  rw [counted, Counted]
  simp only [forall₂_iff_mapM]
  split
  · next hlength =>
    constructor
    · intro heq
      obtain ⟨pieces, hpieces, heq⟩ := except_bind_eq_ok heq
      cases heq
      exact ⟨hlength, pieces, hpieces, rfl⟩
    · rintro ⟨-, pieces, hpieces, rfl⟩
      rw [hpieces]
      rfl
  · next hlength => exact ⟨nofun, fun hboth => absurd hboth.1 hlength⟩

theorem forall₂_encode {encode : α → Bytes} {values : List α} {pieces : List Bytes} :
    List.Forall₂ (fun value piece => piece = encode value) values pieces ↔
      pieces = values.map encode := by
  constructor
  · intro hall
    induction hall with
    | nil => rfl
    | cons hfirst _ ih => rw [hfirst, ih, List.map_cons]
  · rintro rfl
    induction values with
    | nil => exact .nil
    | cons value values ih => exact .cons rfl ih

end Bumble.OctetReader
