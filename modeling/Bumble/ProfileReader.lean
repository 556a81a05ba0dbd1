import Bumble.HciCursor
import Bumble.SmpPairing

/-!
# Readers and writers of the audio profiles (`bumble-profiles/src/bass.rs`, `ascs.rs`, `bap.rs`)

The files have a reader of their own each, written alike, and the same helpers to write.  A
reader knows the size of its data, which is how its errors name an offset.
-/

namespace Bumble.Profiles

open OctetReader

inductive Error where
  | invalidValue (message : String)
deriving DecidableEq, Repr

/-- A number in upper-case hexadecimal, with zeros up to a width. -/
def hexUpper (width value : Nat) : String :=
  let digits := (Nat.toDigits 16 value).map Char.toUpper
  String.ofList (List.replicate (width - digits.length) '0' ++ digits)

/-! ## 1. The reader -/

namespace Reader

def take (size length : Nat) (name : String) : OctetReader Error Bytes :=
  takeAt (fun left => .invalidValue
    s!"truncated {name} at offset {size - left.length}: need {length} bytes") length

def u8 (size : Nat) (name : String) : OctetReader Error UInt8 := do
  let octets ← take size 1 name
  pure (octets.headD 0)

def u16 (size : Nat) (name : String) : OctetReader Error UInt16 := do
  let octets ← take size 2 name
  pure (le16Of octets)

def u24 (size : Nat) (name : String) : OctetReader Error UInt32 := do
  let octets ← take size 3 name
  pure (leOf octets)

def u32 (size : Nat) (name : String) : OctetReader Error UInt32 := do
  let octets ← take size 4 name
  pure (leOf octets)

/-- `take(count)` into an array. -/
def array (size count : Nat) (name : String) : OctetReader Error (Vector UInt8 count) := do
  let octets ← take size count name
  pure (vectorOf count octets)

def lengthPrefixed (size : Nat) (name : String) : OctetReader Error Bytes := do
  let length ← u8 size s!"{name} length"
  take size length.toNat name

/-- `CodingFormat::from_bytes`, with its error as a text. -/
def codingFormat (size : Nat) (name : String) : OctetReader Error Hci.CodingFormat := do
  let octets ← take size 5 name
  lift (match Hci.CodingFormat.fromBytes octets with
    | .ok format => .ok format
    | .error (.invalidPacket message) => .error (.invalidValue s!"invalid packet: {message}"))

/-- The end of a reader that has to use up its data. -/
def finish {α : Type} (reader : OctetReader Error α) (name : String) (data : Bytes) :
    Except Error α :=
  reader.run (fun count => .invalidValue s!"{name} has {count} trailing bytes") data

variable (size : Nat) (name : String)

theorem exact_take (count : Nat) : Exact (take size count name) (Raw count) := exact_takeAt _ count

theorem exact_u8 : Exact (u8 size name) fun octet octets => octets = [octet] :=
  (exact_take size name 1).u8

theorem exact_u16 : Exact (u16 size name) fun value octets => octets = u16ToLe value :=
  (exact_take size name 2).u16Le

theorem exact_u24 : Exact (u24 size name) fun value octets =>
    value.toNat < 0x1000000 ∧ octets = u24ToLe value :=
  (exact_take size name 3).u24Le

theorem exact_u32 : Exact (u32 size name) fun value octets => octets = u32ToLe value :=
  (exact_take size name 4).u32Le

theorem exact_array (count : Nat) :
    Exact (array size count name) fun value octets => octets = value.toList :=
  (exact_take size name count).vector

theorem exact_lengthPrefixed : Exact (lengthPrefixed size name) LengthPrefixed :=
  OctetReader.exact_lengthPrefixed (exact_u8 size _) (exact_take size name)

theorem exact_codingFormat :
    Exact (codingFormat size name) fun format octets => octets = format.toBytes := by
  refine ((exact_take size _ 5).bind fun octets => exact_lift _).congr ?_
  intro format bytes
  constructor
  · rintro ⟨octets, _, _, ⟨rfl, hlength⟩, ⟨hformat, rfl⟩, rfl⟩
    rw [List.append_nil]
    refine Hci.CodingFormat.fromBytes_iff.mp ?_
    split at hformat
    · next heq =>
      cases hformat
      exact heq
    · cases hformat
  · rintro rfl
    refine ⟨format.toBytes, _, [], ⟨rfl, rfl⟩, ⟨?_, rfl⟩, (List.append_nil _).symm⟩
    rw [Hci.CodingFormat.fromBytes_iff.mpr rfl]

theorem finish_iff {α : Type} {reader : OctetReader Error α} {stands : α → Bytes → Prop}
    (hexact : Exact reader stands) {data : Bytes} {value : α} :
    finish reader name data = .ok value ↔ stands value data := by
  rw [finish]
  exact hexact.run_iff

end Reader

/-! ## 2. Writers -/

def requireU24 (name : String) (value : UInt32) : Except Error Unit :=
  if value.toNat > 0x00FFFFFF then
    .error (.invalidValue s!"{name} 0x{hexUpper 8 value.toNat} exceeds 24 bits")
  else .ok ()

def pushLengthPrefixed (data : Bytes) (name : String) : Except Error Bytes :=
  OctetReader.lengthPrefixed (.invalidValue s!"{name} exceeds 255 bytes") data

theorem requireU24_eq_ok {name : String} {value : UInt32} :
    requireU24 name value = .ok () ↔ value.toNat < 0x1000000 := by
  rw [requireU24]
  split
  · next hlarge => exact ⟨nofun, fun hsmall => absurd hlarge (by omega)⟩
  · next hsmall => exact ⟨fun _ => by omega, fun _ => rfl⟩

theorem exists_requireU24_eq_ok {name : String} {value : UInt32} :
    (∃ done, requireU24 name value = .ok done) ↔ value.toNat < 0x1000000 := by
  rw [← requireU24_eq_ok]
  constructor
  · rintro ⟨⟨⟩, hrequire⟩
    exact hrequire
  · exact fun hrequire => ⟨(), hrequire⟩

theorem pushLengthPrefixed_eq_ok {data bytes : Bytes} {name : String} :
    pushLengthPrefixed data name = .ok bytes ↔ LengthPrefixed data bytes :=
  lengthPrefixed_eq_ok

theorem bind_eq_ok_iff {α β : Type} {first : Except Error α} {next : α → Except Error β}
    {value : β} :
    (first >>= next) = .ok value ↔ ∃ middle, first = .ok middle ∧ next middle = .ok value := by
  constructor
  · exact except_bind_eq_ok
  · rintro ⟨middle, hfirst, hnext⟩
    rw [hfirst]
    exact hnext

end Bumble.Profiles
