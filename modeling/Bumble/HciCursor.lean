import Bumble.ExactReader
import Bumble.HciDataPackets

/-!
# Fields of HCI packets (`bumble-hci/src/lib.rs`, `command.rs`)

The reader of HCI parameters, over what is left of its data.  Its position, which its errors name,
is what the data has had in front.
-/

namespace Bumble.Hci

open OctetReader

namespace Cursor

def take (size n : Nat) : OctetReader Error Bytes :=
  takeAt (fun left => .invalidPacket
    s!"unexpected end of data: need {n} at offset {size - left.length}, have {size}") n

def u8 (size : Nat) : OctetReader Error UInt8 := do
  let octets ← take size 1
  pure (octets.headD 0)

def u16Le (size : Nat) : OctetReader Error UInt16 := do
  let octets ← take size 2
  pure (le16Of octets)

variable (size : Nat)

theorem exact_take (n : Nat) : Exact (take size n) (Raw n) := exact_takeAt _ n

theorem exact_u8 : Exact (u8 size) fun octet octets => octets = [octet] := (exact_take size 1).u8

theorem exact_u16Le : Exact (u16Le size) fun value octets => octets = u16ToLe value :=
  (exact_take size 2).u16Le

end Cursor

/-! ## Coding formats -/

structure CodingFormat where
  codingFormat : UInt8
  companyId : UInt16
  vendorSpecificCodecId : UInt16
deriving DecidableEq, Repr

namespace CodingFormat

def toBytes (format : CodingFormat) : Bytes :=
  [format.codingFormat] ++ (u16ToLe format.companyId ++ u16ToLe format.vendorSpecificCodecId)

def read (size : Nat) : OctetReader Error CodingFormat := do
  let codingFormat ← Cursor.u8 size
  let companyId ← Cursor.u16Le size
  let vendorSpecificCodecId ← Cursor.u16Le size
  pure ⟨codingFormat, companyId, vendorSpecificCodecId⟩

def fromBytes (data : Bytes) : Except Error CodingFormat :=
  if data.length ≠ 5 then
    .error (.invalidPacket s!"coding format has length {data.length}, expected 5")
  else (read data.length data).map Prod.fst

theorem length_toBytes (format : CodingFormat) : format.toBytes.length = 5 := rfl

theorem exact_read (size : Nat) :
    Exact (read size) fun format octets => octets = format.toBytes := by
  refine ((Cursor.exact_u8 size).bind fun codingFormat => (Cursor.exact_u16Le size).bind
    fun companyId => (Cursor.exact_u16Le size).map _).congr fun format octets => ⟨?_, ?_⟩
  · rintro ⟨codingFormat, _, _, rfl, ⟨companyId, _, _, rfl, ⟨vendor, rfl, rfl⟩, rfl⟩, rfl⟩
    rfl
  · rintro rfl
    exact ⟨format.codingFormat, _, _, rfl, ⟨format.companyId, _, _, rfl,
      ⟨format.vendorSpecificCodecId, rfl, rfl⟩, rfl⟩, rfl⟩

theorem fromBytes_iff {data : Bytes} {format : CodingFormat} :
    fromBytes data = .ok format ↔ data = format.toBytes := by
  constructor
  · intro hread
    rw [fromBytes] at hread
    split at hread
    · cases hread
    · next hlength =>
      cases hdata : read data.length data with
      | error error =>
        rw [hdata] at hread
        cases hread
      | ok found =>
        obtain ⟨value, later⟩ := found
        rw [hdata] at hread
        cases hread
        obtain ⟨front, rfl, hbytes⟩ := (exact_read data.length).takes hdata
        have hcount := congrArg List.length hbytes
        rw [List.length_append, length_toBytes, not_not.mp hlength] at hcount
        have hlater : later = [] := List.length_eq_zero_iff.mp (by omega)
        rw [hbytes, hlater, List.append_nil]
  · rintro rfl
    have hread := @(exact_read format.toBytes.length).reads format _ rfl []
    rw [List.append_nil] at hread
    rw [fromBytes, if_neg (by rw [length_toBytes]; exact not_not_intro rfl), hread]
    rfl

end CodingFormat

end Bumble.Hci
