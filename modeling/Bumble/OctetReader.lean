import Bumble.ByteOrder

/-!
# Reading fields from a byte string

A reader consumes the front of a byte string and may fail.  `Reads` says that a
reader takes exactly the given octets and returns the given value, whatever
follows them; it composes along `>>=`, so the round trip of a record is assembled
from those of its fields.
-/

namespace Bumble

/-! ## 1. Numbers in big-endian order -/

/-- The last `count` octets of a number, most significant first. -/
def natToBe : Nat → Nat → Bytes
  | 0, _ => []
  | count + 1, value => natToBe count (value / 256) ++ [UInt8.ofNat (value % 256)]

def beToNat (bytes : Bytes) : Nat :=
  bytes.foldl (fun value octet => value * 256 + octet.toNat) 0

@[simp] theorem length_natToBe (count : Nat) : ∀ value, (natToBe count value).length = count := by
  induction count with
  | zero =>
    intro value
    rfl
  | succ count ih =>
    intro value
    rw [natToBe, List.length_append, ih]
    rfl

theorem beToNat_natToBe (count : Nat) : ∀ {value : Nat}, value < 256 ^ count →
    beToNat (natToBe count value) = value := by
  induction count with
  | zero =>
    intro value hvalue
    exact (Nat.lt_one_iff.mp hvalue).symm
  | succ count ih =>
    intro value hvalue
    have hquotient : value / 256 < 256 ^ count := by
      rw [Nat.div_lt_iff_lt_mul (by decide), ← Nat.pow_succ]
      exact hvalue
    have hhigh := ih hquotient
    rw [beToNat] at hhigh
    rw [natToBe, beToNat, List.foldl_append, hhigh]
    simp only [List.foldl_cons, List.foldl_nil, UInt8.toNat_ofNat']
    omega

theorem beToNat_append (bytes : Bytes) (octet : UInt8) :
    beToNat (bytes ++ [octet]) = beToNat bytes * 256 + octet.toNat := by
  rw [beToNat, List.foldl_append]
  rfl

theorem natToBe_beToNat (bytes : Bytes) : natToBe bytes.length (beToNat bytes) = bytes := by
  induction bytes using List.reverseRecOn with
  | nil => rfl
  | append_singleton bytes octet ih =>
    have hoctet : octet.toNat < 256 := octet.toNat_lt
    rw [List.length_append, List.length_singleton, natToBe, beToNat_append,
      show (beToNat bytes * 256 + octet.toNat) / 256 = beToNat bytes by omega,
      show (beToNat bytes * 256 + octet.toNat) % 256 = octet.toNat by omega, ih,
      UInt8.ofNat_toNat]

theorem beToNat_lt (bytes : Bytes) : beToNat bytes < 256 ^ bytes.length := by
  induction bytes using List.reverseRecOn with
  | nil => simp [beToNat]
  | append_singleton bytes octet ih =>
    have hoctet : octet.toNat < 256 := octet.toNat_lt
    rw [List.length_append, List.length_singleton, beToNat_append, Nat.pow_succ]
    omega

def u16ToBe (value : UInt16) : Bytes := natToBe 2 value.toNat
def u32ToBe (value : UInt32) : Bytes := natToBe 4 value.toNat
def u64ToBe (value : UInt64) : Bytes := natToBe 8 value.toNat
def u128ToLe (value : BitVec 128) : Bytes := (natToBe 16 value.toNat).reverse

/-! ## 2. Strings -/

def stringBytes (text : String) : Bytes := text.toByteArray.data.toList

/-- The string with the given octets, if they are well formed. -/
def stringFromUtf8 (bytes : Bytes) : Option String :=
  if hvalid : (ByteArray.mk bytes.toArray).IsValidUTF8 then
    some (String.fromUTF8 (ByteArray.mk bytes.toArray) hvalid)
  else none

theorem stringFromUtf8_bytes (text : String) : stringFromUtf8 (stringBytes text) = some text := by
  have hbytes : ByteArray.mk (stringBytes text).toArray = text.toByteArray := rfl
  rw [stringFromUtf8, dif_pos (by rw [hbytes]; exact text.isValidUTF8)]
  rfl

theorem stringBytes_of_fromUtf8 {bytes : Bytes} {text : String}
    (htext : stringFromUtf8 bytes = some text) : stringBytes text = bytes := by
  unfold stringFromUtf8 at htext
  split at htext
  · obtain rfl := Option.some.inj htext
    rfl
  · cases htext

theorem stringBytes_append (first second : String) :
    stringBytes (first ++ second) = stringBytes first ++ stringBytes second := by
  simp [stringBytes, String.toByteArray_append]

/-- `str::is_char_boundary`, on the octets of a string. -/
def isCharBoundary (text : Bytes) (index : Nat) : Bool :=
  index == 0 || index == text.length ||
    match text[index]? with
    | some octet => octet &&& 0xC0 != 0x80
    | none => false

/-! ## 3. Laws of reading -/

/-- `Reads reader bytes value` says that a reader takes exactly `bytes` and returns
    `value`; it goes along with the sequencing of readers. -/
structure ReadLaws (m : Type → Type) [Monad m]
    (Reads : ∀ {α : Type}, m α → Bytes → α → Prop) : Prop where
  pure : ∀ {α : Type} (value : α), Reads (Pure.pure value) [] value
  bind : ∀ {α β : Type} {first : m α} {next : α → m β} {bytes later : Bytes} {value : α}
    {result : β}, Reads first bytes value → Reads (next value) later result →
    Reads (first >>= next) (bytes ++ later) result

namespace ReadLaws

variable {m : Type → Type} [Monad m] {Reads : ∀ {α : Type}, m α → Bytes → α → Prop} {α β : Type}

theorem last (laws : ReadLaws m Reads) {first : m α} {next : α → m β} {bytes : Bytes}
    {value : α} {result : β} (hfirst : Reads first bytes value)
    (hnext : Reads (next value) [] result) : Reads (first >>= next) bytes result := by
  have hall := laws.bind hfirst hnext
  rwa [List.append_nil] at hall

/-- A reader that is repeated reads the values one after the other. -/
theorem repeated (laws : ReadLaws m Reads) {reader : m α} {many : Nat → m (List α)}
    (hzero : many 0 = Pure.pure [])
    (hsucc : ∀ count, many (count + 1) = do
      let value ← reader
      let values ← many count
      Pure.pure (value :: values))
    {encode : α → Bytes} (values : List α)
    (hreads : ∀ value ∈ values, Reads reader (encode value) value) :
    Reads (many values.length) (values.flatMap encode) values := by
  induction values with
  | nil =>
    rw [List.length_nil, hzero]
    exact laws.pure []
  | cons value values ih =>
    have hrest := ih fun other hother => hreads other (List.mem_cons_of_mem _ hother)
    rw [List.length_cons, hsucc]
    apply laws.bind (hreads value List.mem_cons_self)
    exact laws.last hrest (laws.pure _)

end ReadLaws

/-! ## 4. Readers -/

/-- A reader of a value with errors `ε`. -/
abbrev OctetReader (ε α : Type) := Bytes → Except ε (α × Bytes)

namespace OctetReader

variable {ε α β : Type}

instance : Monad (OctetReader ε) where
  pure value := fun bytes => .ok (value, bytes)
  bind first next := fun bytes =>
    match first bytes with
    | .ok (value, rest) => next value rest
    | .error error => .error error

/-- The next `count` octets. -/
def take (short : ε) (count : Nat) : OctetReader ε Bytes := fun bytes =>
  if count ≤ bytes.length then .ok (bytes.take count, bytes.drop count) else .error short

def fail (error : ε) : OctetReader ε α := fun _ => .error error

/-- A value that was computed from what has been read. -/
def lift (value : Except ε α) : OctetReader ε α :=
  fun bytes => value.map fun value => (value, bytes)

def u8 (short : ε) : OctetReader ε UInt8 := do
  let octets ← take short 1
  pure (octets.headD 0)

def u16Be (short : ε) : OctetReader ε UInt16 := do
  let octets ← take short 2
  pure (UInt16.ofNat (beToNat octets))

def u32Be (short : ε) : OctetReader ε UInt32 := do
  let octets ← take short 4
  pure (UInt32.ofNat (beToNat octets))

def u32Le (short : ε) : OctetReader ε UInt32 := do
  let octets ← take short 4
  pure (UInt32.ofNat (beToNat octets.reverse))

def u64Be (short : ε) : OctetReader ε UInt64 := do
  let octets ← take short 8
  pure (UInt64.ofNat (beToNat octets))

def u128Le (short : ε) : OctetReader ε (BitVec 128) := do
  let octets ← take short 16
  pure (BitVec.ofNat 128 (beToNat octets.reverse))

def rest : OctetReader ε Bytes := fun bytes => .ok (bytes, [])

def replicate (reader : OctetReader ε α) : Nat → OctetReader ε (List α)
  | 0 => pure []
  | count + 1 => do
    let value ← reader
    let values ← replicate reader count
    pure (value :: values)

/-- A string of `count` octets. -/
def string (short invalid : ε) (count : Nat) : OctetReader ε String := do
  let octets ← take short count
  match stringFromUtf8 octets with
  | some text => pure text
  | none => fail invalid

def run (reader : OctetReader ε α) (trailing : Nat → ε) (bytes : Bytes) : Except ε α :=
  match reader bytes with
  | .ok (value, []) => .ok value
  | .ok (_, rest) => .error (trailing rest.length)
  | .error error => .error error

/-! ## 5. What a reader takes -/

/-- The reader takes exactly `bytes` and returns `value`. -/
def Reads (reader : OctetReader ε α) (bytes : Bytes) (value : α) : Prop :=
  ∀ later, reader (bytes ++ later) = .ok (value, later)

theorem Reads.run {reader : OctetReader ε α} {bytes : Bytes} {value : α}
    (hreads : Reads reader bytes value) (trailing : Nat → ε) :
    reader.run trailing bytes = .ok value := by
  have hall := hreads []
  rw [List.append_nil] at hall
  rw [OctetReader.run, hall]

theorem reads_pure (value : α) : Reads (pure value : OctetReader ε α) [] value :=
  fun _ => rfl

theorem Reads.bind {first : OctetReader ε α} {next : α → OctetReader ε β} {bytes later : Bytes}
    {value : α} {result : β} (hfirst : Reads first bytes value)
    (hnext : Reads (next value) later result) : Reads (first >>= next) (bytes ++ later) result := by
  intro remaining
  rw [List.append_assoc]
  change (match first (bytes ++ (later ++ remaining)) with
    | .ok (value, rest) => next value rest
    | .error error => .error error) = _
  rw [hfirst (later ++ remaining)]
  exact hnext remaining

theorem laws : ReadLaws (OctetReader ε) Reads where
  pure := reads_pure
  bind := Reads.bind

theorem Reads.last {first : OctetReader ε α} {next : α → OctetReader ε β} {bytes : Bytes}
    {value : α} {result : β} (hfirst : Reads first bytes value)
    (hnext : Reads (next value) [] result) : Reads (first >>= next) bytes result :=
  laws.last hfirst hnext

theorem Reads.bind_run {first : OctetReader ε α} {next : α → OctetReader ε β}
    {trailing : Nat → ε} {bytes later : Bytes} {value : α} {result : β}
    (hfirst : Reads first bytes value) (hnext : (next value).run trailing later = .ok result) :
    (first >>= next).run trailing (bytes ++ later) = .ok result := by
  have hboth : (first >>= next) (bytes ++ later) = next value later := by
    change (match first (bytes ++ later) with
      | .ok (value, rest) => next value rest
      | .error error => .error error) = _
    rw [hfirst later]
  rw [OctetReader.run, hboth]
  exact hnext

theorem run_rest {decode : Bytes → Except ε α} {bytes : Bytes} {value : α}
    (hdecode : decode bytes = .ok value) (f : α → β) (trailing : Nat → ε) :
    OctetReader.run (do
      let remaining ← rest
      pure (f (← lift (decode remaining)))) trailing bytes = .ok (f value) := by
  have hread : (lift (decode bytes) : OctetReader ε α) [] = .ok (value, []) := by
    rw [lift, hdecode]
    rfl
  have hall : (do
      let remaining ← rest
      pure (f (← lift (decode remaining))) : OctetReader ε β) bytes = .ok (f value, []) := by
    change (match (lift (decode bytes) : OctetReader ε α) [] with
      | .ok (value, rest) => Except.ok (f value, rest)
      | .error error => Except.error error) = _
    rw [hread]
  rw [OctetReader.run, hall]

theorem Reads.map {first : OctetReader ε α} {bytes : Bytes} {value : α}
    (hfirst : Reads first bytes value) (f : α → β) :
    Reads (do
      let value ← first
      pure (f value)) bytes (f value) :=
  hfirst.last (reads_pure (f value))

theorem reads_take (short : ε) (bytes : Bytes) : Reads (take short bytes.length) bytes bytes := by
  intro later
  rw [take, if_pos (by simp), List.take_left, List.drop_left]

theorem reads_decoded (short : ε) {decode : Bytes → α} {bytes : Bytes} {count : Nat} {value : α}
    (hlength : bytes.length = count) (hdecode : decode bytes = value) :
    Reads (do
      let octets ← take short count
      pure (decode octets)) bytes value := by
  subst hlength
  subst hdecode
  exact Reads.last (reads_take short bytes) (fun _ => rfl)

theorem reads_u8 (short : ε) (octet : UInt8) : Reads (u8 short) [octet] octet :=
  reads_decoded short rfl rfl

theorem reads_u16Be (short : ε) (value : UInt16) :
    Reads (u16Be short) (u16ToBe value) value := by
  apply reads_decoded short (length_natToBe 2 value.toNat)
  rw [beToNat_natToBe 2 value.toNat_lt]
  exact UInt16.ofNat_toNat

theorem reads_u32Be (short : ε) (value : UInt32) :
    Reads (u32Be short) (u32ToBe value) value := by
  apply reads_decoded short (length_natToBe 4 value.toNat)
  rw [beToNat_natToBe 4 value.toNat_lt]
  exact UInt32.ofNat_toNat

theorem reads_u64Be (short : ε) (value : UInt64) :
    Reads (u64Be short) (u64ToBe value) value := by
  apply reads_decoded short (length_natToBe 8 value.toNat)
  rw [beToNat_natToBe 8 value.toNat_lt]
  exact UInt64.ofNat_toNat

theorem u32ToLe_eq (value : UInt32) : u32ToLe value = (u32ToBe value).reverse := by
  simp [u32ToLe, u32ToBe, natToBe, List.range_succ, Nat.div_div_eq_div_mul]

theorem u32ToLe_beToNat {bytes : Bytes} (hlength : bytes.length = 4) :
    u32ToLe (UInt32.ofNat (beToNat bytes.reverse)) = bytes := by
  have hreverse : bytes.reverse.length = 4 := List.length_reverse.trans hlength
  have hlt := beToNat_lt bytes.reverse
  rw [hreverse] at hlt
  rw [u32ToLe_eq, u32ToBe, UInt32.toNat_ofNat_of_lt' (by simpa using hlt), ← hreverse,
    natToBe_beToNat, List.reverse_reverse]

theorem reads_u32Le (short : ε) (value : UInt32) : Reads (u32Le short) (u32ToLe value) value := by
  rw [u32ToLe_eq]
  apply reads_decoded short ((List.length_reverse).trans (length_natToBe 4 value.toNat))
  rw [List.reverse_reverse, beToNat_natToBe 4 value.toNat_lt]
  exact UInt32.ofNat_toNat

theorem reads_string (short invalid : ε) (text : String) :
    Reads (string short invalid (stringBytes text).length) (stringBytes text) text := by
  apply (reads_take short (stringBytes text)).last
  rw [stringFromUtf8_bytes]
  exact reads_pure text

theorem reads_replicate {reader : OctetReader ε α} {encode : α → Bytes} (values : List α)
    (hreads : ∀ value ∈ values, Reads reader (encode value) value) :
    Reads (replicate reader values.length) (values.flatMap encode) values :=
  laws.repeated rfl (fun _ => rfl) values hreads

end OctetReader

end Bumble
