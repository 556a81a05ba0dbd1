import Bumble.LengthEntries
import Bumble.ProfileReader

/-!
# Metadata of LE Audio (`bumble-profiles/src/le_audio.rs`)

Tagged entries, each behind its length.
-/

namespace Bumble.LeAudio

open OctetReader Profiles

structure MetadataEntry where
  tag : UInt8
  data : Bytes
deriving DecidableEq, Repr

def MetadataEntry.fromValueBytes : Bytes → Except Error MetadataEntry
  | [] => .error (.invalidValue "metadata entry omits its tag")
  | tag :: data => .ok ⟨tag, data⟩

def MetadataEntry.toBytes (entry : MetadataEntry) : Except Error Bytes :=
  if entry.data.length + 1 < 256 then
    .ok ([UInt8.ofNat (entry.data.length + 1), entry.tag] ++ entry.data)
  else .error (.invalidValue "metadata entry exceeds 254 data bytes")

structure Metadata where
  entries : List MetadataEntry
deriving DecidableEq, Repr

namespace Metadata

def fromBytes (data : Bytes) : Except Error Metadata := do
  let entries ← LengthEntries.parse
    (fun offset => .invalidValue s!"zero-length metadata entry at offset {offset}")
    (fun offset => .invalidValue s!"truncated metadata entry at offset {offset}")
    MetadataEntry.fromValueBytes data.length data
  pure ⟨entries⟩

def toBytes (metadata : Metadata) : Except Error Bytes := do
  let pieces ← metadata.entries.mapM MetadataEntry.toBytes
  pure pieces.flatten

end Metadata

namespace MetadataEntry

def Stands (entry : MetadataEntry) (piece : Bytes) : Prop := piece = entry.tag :: entry.data

theorem fromValueBytes_iff (entry : MetadataEntry) (piece : Bytes) :
    fromValueBytes piece = .ok entry ↔ entry.Stands piece := by
  rw [Stands]
  cases piece with
  | nil => exact ⟨nofun, nofun⟩
  | cons tag data =>
    rw [fromValueBytes, Except.ok.injEq, List.cons.injEq]
    constructor
    · rintro rfl
      exact ⟨rfl, rfl⟩
    · rintro ⟨rfl, rfl⟩
      rfl

theorem toBytes_iff (entry : MetadataEntry) (octets : Bytes) :
    entry.toBytes = .ok octets ↔ LengthEntries.Delimited Stands entry octets := by
  rw [toBytes]
  split
  · next hlength =>
    rw [Except.ok.injEq, eq_comm]
    constructor
    · rintro rfl
      exact ⟨_, rfl, ⟨Nat.succ_pos _, hlength⟩, rfl⟩
    · rintro ⟨_, rfl, -, rfl⟩
      rfl
  · next hlength =>
    refine ⟨nofun, ?_⟩
    rintro ⟨_, rfl, ⟨-, hshort⟩, -⟩
    exact absurd hshort hlength

end MetadataEntry

/-- **Metadata.**  The octets that are read as metadata are those it is written as. -/
theorem Metadata.fromBytes_iff {data : Bytes} {metadata : Metadata} :
    fromBytes data = .ok metadata ↔ metadata.toBytes = .ok data := by
  rw [fromBytes, toBytes, bind_eq_ok_iff, bind_eq_ok_iff]
  simp only [LengthEntries.parse_iff_mapM (fun entry piece _ => entry.fromValueBytes_iff piece)
    MetadataEntry.toBytes_iff]
  constructor
  · rintro ⟨entries, ⟨pieces, hpieces, rfl⟩, hentries⟩
    cases hentries
    exact ⟨pieces, hpieces, rfl⟩
  · rintro ⟨pieces, hpieces, hdata⟩
    cases hdata
    exact ⟨metadata.entries, ⟨pieces, hpieces, rfl⟩, rfl⟩

end Bumble.LeAudio
