import Bumble.OctetReader
import Bumble.PacketFraming

/-!
# BTSnoop files (`bumble-transport/src/snoop.rs`)

A file is a header of sixteen octets and records, each with a header of 24 octets in front of
its packet.  The reader takes the type of a packet without a type octet from two bits of the
flags.
-/

namespace Bumble.Transport

inductive SnoopError where
  | io
  | invalidSpec (message : String)
  | unsupported (message : String)
  | packetTooLarge (size : Nat)
deriving DecidableEq, Repr

inductive SnoopDirection where
  | hostToController
  | controllerToHost
deriving DecidableEq, Repr

def SnoopDirection.code : SnoopDirection → UInt32
  | hostToController => 0
  | controllerToHost => 1

inductive SnoopDataLinkType where
  | h1
  | h4
  | hciBscp
  | h5
deriving DecidableEq, Repr

namespace SnoopDataLinkType

def code : SnoopDataLinkType → UInt32
  | h1 => 1001
  | h4 => 1002
  | hciBscp => 1003
  | h5 => 1004

def tryFrom (value : UInt32) : Except SnoopError SnoopDataLinkType :=
  if value = 1001 then .ok h1
  else if value = 1002 then .ok h4
  else if value = 1003 then .ok hciBscp
  else if value = 1004 then .ok h5
  else .error (.invalidSpec s!"unsupported BTSnoop data link type {value}")

end SnoopDataLinkType

/-- `btsnoop` and a zero octet. -/
def btsnoopIdentificationPattern : Bytes := [0x62, 0x74, 0x73, 0x6E, 0x6F, 0x6F, 0x70, 0x00]
def btsnoopVersion : UInt32 := 1

structure BtSnoopRecord where
  originalLength : UInt32
  includedLength : UInt32
  packetFlags : UInt32
  cumulativeDrops : UInt32
  timestamp : UInt64
  packetBytes : Bytes
deriving DecidableEq, Repr

def BtSnoopRecord.direction (record : BtSnoopRecord) : SnoopDirection :=
  if record.packetFlags &&& 1 = 0 then .hostToController else .controllerToHost

/-! ## 1. The reader -/

structure BtSnoopReader where
  input : Bytes
  version : UInt32
  dataLinkType : SnoopDataLinkType
deriving DecidableEq, Repr

namespace BtSnoopReader

def new (input : Bytes) : Except SnoopError BtSnoopReader :=
  if input.length < 16 then .error .io
  else
    let header := input.take 16
    if header.take 8 ≠ btsnoopIdentificationPattern then
      .error (.invalidSpec "not a valid BTSnoop file: unexpected identification pattern")
    else do
      let version := UInt32.ofNat (beToNat ((header.drop 8).take 4))
      let dataLinkType ← SnoopDataLinkType.tryFrom
        (UInt32.ofNat (beToNat ((header.drop 12).take 4)))
      if dataLinkType = .h1 ∨ dataLinkType = .h4 then
        pure ⟨input.drop 16, version, dataLinkType⟩
      else .error (.unsupported s!"BTSnoop data link type {dataLinkType.code}")

def typeOfFlags (packetFlags : UInt32) : UInt8 :=
  if packetFlags &&& 2 ≠ 0 then
    if packetFlags &&& 1 ≠ 0 then hciEventPacket else hciCommandPacket
  else hciAclDataPacket

/-- The next record, with the reader behind it, or nothing at the end of the file. -/
def readRecord (reader : BtSnoopReader) :
    Except SnoopError (Option (BtSnoopRecord × BtSnoopReader)) :=
  if reader.input = [] then .ok none
  else if reader.input.length < 24 then .error .io
  else
    let header := reader.input.take 24
    let input := reader.input.drop 24
    let includedLength := UInt32.ofNat (beToNat ((header.drop 4).take 4))
    let packetFlags := UInt32.ofNat (beToNat ((header.drop 8).take 4))
    if includedLength.toNat > maxHciPacketSize then
      .error (.packetTooLarge includedLength.toNat)
    else if input.length < includedLength.toNat then .error .io
    else
      let packetBytes := input.take includedLength.toNat
      .ok (some (
        { originalLength := UInt32.ofNat (beToNat (header.take 4))
          includedLength := includedLength
          packetFlags := packetFlags
          cumulativeDrops := UInt32.ofNat (beToNat ((header.drop 12).take 4))
          timestamp := UInt64.ofNat (beToNat ((header.drop 16).take 8))
          packetBytes :=
            if reader.dataLinkType = .h1 then typeOfFlags packetFlags :: packetBytes
            else packetBytes },
        { reader with input := input.drop includedLength.toNat }))

def ReadsAll : BtSnoopReader → List BtSnoopRecord → Prop
  | reader, [] => reader.readRecord = .ok none
  | reader, record :: records =>
    ∃ next, reader.readRecord = .ok (some (record, next)) ∧ ReadsAll next records

theorem ReadsAll.unique {reader : BtSnoopReader} {records others : List BtSnoopRecord}
    (hrecords : ReadsAll reader records) (hothers : ReadsAll reader others) : records = others := by
  induction records generalizing reader others with
  | nil =>
    rcases others with _ | ⟨other, others⟩
    · rfl
    · obtain ⟨next, hnext, -⟩ := hothers
      rw [ReadsAll, hnext] at hrecords
      cases hrecords
  | cons record records ih =>
    obtain ⟨next, hnext, hlater⟩ := hrecords
    rcases others with _ | ⟨other, others⟩
    · rw [ReadsAll, hnext] at hothers
      cases hothers
    · obtain ⟨next', hnext', hlater'⟩ := hothers
      rw [hnext] at hnext'
      cases hnext'
      rw [ih hlater hlater']

end BtSnoopReader

/-! ## 2. The writer -/

structure BtSnooper where
  output : Bytes
deriving DecidableEq, Repr

namespace BtSnooper

def new (output : Bytes) : BtSnooper :=
  ⟨output ++ btsnoopIdentificationPattern ++ u32ToBe btsnoopVersion ++
    u32ToBe SnoopDataLinkType.h4.code⟩

def flagsOf (packetType : UInt8) (direction : SnoopDirection) : UInt32 :=
  if packetType = hciEventPacket ∨ packetType = hciCommandPacket then direction.code ||| 0x10
  else direction.code

def snoopAtTimestamp (snooper : BtSnooper) (hciPacket : Bytes) (direction : SnoopDirection)
    (timestamp : UInt64) : Except SnoopError BtSnooper :=
  match hciPacket with
  | [] => .error (.invalidSpec "cannot snoop an empty HCI packet")
  | packetType :: _ =>
    if hciPacket.length ≥ UInt32.size then .error (.packetTooLarge hciPacket.length)
    else
      let length := UInt32.ofNat hciPacket.length
      .ok ⟨snooper.output ++ u32ToBe length ++ u32ToBe length ++
        u32ToBe (flagsOf packetType direction) ++ u32ToBe 0 ++ u64ToBe timestamp ++ hciPacket⟩

end BtSnooper

structure Snooped where
  hciPacket : Bytes
  direction : SnoopDirection
  timestamp : UInt64
deriving DecidableEq, Repr

def snoopAll (snooper : BtSnooper) (packets : List Snooped) : Except SnoopError BtSnooper :=
  packets.foldlM (fun snooper packet =>
    snooper.snoopAtTimestamp packet.hciPacket packet.direction packet.timestamp) snooper

/-! ## 3. Records of packets -/

def recordOf (packet : Snooped) : BtSnoopRecord where
  originalLength := UInt32.ofNat packet.hciPacket.length
  includedLength := UInt32.ofNat packet.hciPacket.length
  packetFlags := BtSnooper.flagsOf (packet.hciPacket.headD 0) packet.direction
  cumulativeDrops := 0
  timestamp := packet.timestamp
  packetBytes := packet.hciPacket

def recordBytes (packet : Snooped) : Bytes :=
  u32ToBe (UInt32.ofNat packet.hciPacket.length) ++
    (u32ToBe (UInt32.ofNat packet.hciPacket.length) ++
      (u32ToBe (BtSnooper.flagsOf (packet.hciPacket.headD 0) packet.direction) ++
        (u32ToBe 0 ++ (u64ToBe packet.timestamp ++ packet.hciPacket))))

def Snoopable (packet : Snooped) : Prop :=
  packet.hciPacket ≠ [] ∧ packet.hciPacket.length ≤ maxHciPacketSize

theorem snoopAtTimestamp_eq (snooper : BtSnooper) {packet : Snooped} (hpacket : Snoopable packet) :
    snooper.snoopAtTimestamp packet.hciPacket packet.direction packet.timestamp =
      .ok ⟨snooper.output ++ recordBytes packet⟩ := by
  obtain ⟨octets, direction, timestamp⟩ := packet
  obtain ⟨hne, hsize⟩ := hpacket
  rcases octets with _ | ⟨packetType, octets⟩
  · exact absurd rfl hne
  · have hcount : ¬ (packetType :: octets).length ≥ UInt32.size := by
      refine Nat.not_le.mpr (Nat.lt_of_le_of_lt hsize ?_)
      decide
    rw [BtSnooper.snoopAtTimestamp, if_neg hcount]
    simp only [recordBytes, List.append_assoc, List.headD_cons]

theorem snoopAll_eq (packets : List Snooped) (hpackets : ∀ packet ∈ packets, Snoopable packet)
    (snooper : BtSnooper) :
    snoopAll snooper packets = .ok ⟨snooper.output ++ packets.flatMap recordBytes⟩ := by
  induction packets generalizing snooper with
  | nil =>
    rw [List.flatMap_nil, List.append_nil]
    rfl
  | cons packet packets ih =>
    rw [snoopAll, List.foldlM_cons,
      snoopAtTimestamp_eq snooper (hpackets packet List.mem_cons_self)]
    refine (ih (fun other hmem => hpackets other (List.mem_cons_of_mem _ hmem)) _).trans ?_
    rw [List.flatMap_cons, List.append_assoc]

theorem new_written (later : Bytes) :
    BtSnoopReader.new ((BtSnooper.new []).output ++ later) = .ok ⟨later, 1, .h4⟩ := by
  have hlength : (BtSnooper.new []).output.length = 16 := rfl
  have hfits : ¬ ((BtSnooper.new []).output ++ later).length < 16 := by
    rw [List.length_append, hlength]
    omega
  rw [BtSnoopReader.new, if_neg hfits, List.take_left' hlength, List.drop_left' hlength]
  rfl

theorem ofNat_u32ToBe (value : UInt32) : UInt32.ofNat (beToNat (u32ToBe value)) = value := by
  rw [u32ToBe, beToNat_natToBe 4 value.toNat_lt, UInt32.ofNat_toNat]

theorem ofNat_u64ToBe (value : UInt64) : UInt64.ofNat (beToNat (u64ToBe value)) = value := by
  rw [u64ToBe, beToNat_natToBe 8 value.toNat_lt, UInt64.ofNat_toNat]

/-- A written record is read back and what follows it is left. -/
theorem readRecord_recordBytes {packet : Snooped} (hpacket : Snoopable packet) (later : Bytes) :
    BtSnoopReader.readRecord ⟨recordBytes packet ++ later, 1, .h4⟩ =
      .ok (some (recordOf packet, ⟨later, 1, .h4⟩)) := by
  have hsize := hpacket.2
  have hword : ∀ value : UInt32, (u32ToBe value).length = 4 := fun value => length_natToBe 4 _
  have hlong : (u64ToBe packet.timestamp).length = 8 := length_natToBe 8 _
  have hcount : (UInt32.ofNat packet.hciPacket.length).toNat = packet.hciPacket.length := by
    refine UInt32.toNat_ofNat_of_lt' (Nat.lt_of_le_of_lt hsize ?_)
    decide
  generalize hflags : BtSnooper.flagsOf (packet.hciPacket.headD 0) packet.direction = flags
  generalize hheader : u32ToBe (UInt32.ofNat packet.hciPacket.length) ++
    (u32ToBe (UInt32.ofNat packet.hciPacket.length) ++ (u32ToBe flags ++
      (u32ToBe 0 ++ u64ToBe packet.timestamp))) = header
  have hbytes : recordBytes packet ++ later = header ++ (packet.hciPacket ++ later) := by
    rw [recordBytes, hflags, ← hheader]
    simp only [List.append_assoc]
  have hlength : header.length = 24 := by
    rw [← hheader]
    simp only [List.length_append, hword, hlong]
  have hnext : header.drop 4 = u32ToBe (UInt32.ofNat packet.hciPacket.length) ++ (u32ToBe flags ++
      (u32ToBe 0 ++ u64ToBe packet.timestamp)) := by
    rw [← hheader, List.drop_left' (hword _)]
  have hthird : header.drop 8 = u32ToBe flags ++ (u32ToBe 0 ++ u64ToBe packet.timestamp) := by
    rw [show 8 = 4 + 4 from rfl, ← List.drop_drop, hnext, List.drop_left' (hword _)]
  have hfourth : header.drop 12 = u32ToBe 0 ++ u64ToBe packet.timestamp := by
    rw [show 12 = 8 + 4 from rfl, ← List.drop_drop, hthird, List.drop_left' (hword _)]
  have hlast : header.drop 16 = u64ToBe packet.timestamp := by
    rw [show 16 = 12 + 4 from rfl, ← List.drop_drop, hfourth, List.drop_left' (hword _)]
  have hfirst : header.take 4 = u32ToBe (UInt32.ofNat packet.hciPacket.length) := by
    rw [← hheader, List.take_left' (hword _)]
  have hne : ¬ header ++ (packet.hciPacket ++ later) = [] := by
    intro hnil
    rw [List.append_eq_nil_iff.mp hnil |>.1] at hlength
    cases hlength
  have hfits : ¬ (header ++ (packet.hciPacket ++ later)).length < 24 := by
    rw [List.length_append, hlength]
    omega
  have hsmall : ¬ packet.hciPacket.length > maxHciPacketSize := Nat.not_lt.mpr hsize
  have hbody : ¬ (packet.hciPacket ++ later).length < packet.hciPacket.length := by
    rw [List.length_append]
    omega
  rw [BtSnoopReader.readRecord]
  dsimp only
  rw [hbytes, if_neg hne, if_neg hfits, List.take_left' hlength, List.drop_left' hlength, hnext,
    hthird, hfourth, hlast, hfirst, List.take_left' (hword _), List.take_left' (hword _),
    List.take_left' (hword _), List.take_of_length_le (Nat.le_of_eq hlong), ofNat_u32ToBe,
    ofNat_u32ToBe, ofNat_u32ToBe, ofNat_u64ToBe, hcount, if_neg hsmall, if_neg hbody,
    List.take_left' rfl, List.drop_left' rfl, recordOf, hflags]
  rfl

theorem readsAll_records (packets : List Snooped)
    (hpackets : ∀ packet ∈ packets, Snoopable packet) :
    BtSnoopReader.ReadsAll ⟨packets.flatMap recordBytes, 1, .h4⟩ (packets.map recordOf) := by
  induction packets with
  | nil => exact rfl
  | cons packet packets ih =>
    refine ⟨⟨packets.flatMap recordBytes, 1, .h4⟩, ?_,
      ih fun other hmem => hpackets other (List.mem_cons_of_mem _ hmem)⟩
    rw [List.flatMap_cons]
    exact readRecord_recordBytes (hpackets packet List.mem_cons_self) _

/-! ## 4. Files -/

def snoopedOf (record : BtSnoopRecord) : Snooped :=
  ⟨record.packetBytes, record.direction, record.timestamp⟩

theorem direction_flagsOf (packetType : UInt8) (direction : SnoopDirection) :
    (if BtSnooper.flagsOf packetType direction &&& 1 = 0 then SnoopDirection.hostToController
      else .controllerToHost) = direction := by
  rw [BtSnooper.flagsOf]
  cases direction <;> split <;> rfl

theorem snoopedOf_recordOf (packet : Snooped) : snoopedOf (recordOf packet) = packet := by
  rw [snoopedOf, BtSnoopRecord.direction, recordOf, direction_flagsOf]

/-- **Files are read back.**  What is written of packets is read with their octets, directions
    and timestamps, up to the end of the file. -/
theorem snooped_read {packets : List Snooped} (hpackets : ∀ packet ∈ packets, Snoopable packet) :
    ∃ snooper reader, snoopAll (BtSnooper.new []) packets = .ok snooper ∧
      BtSnoopReader.new snooper.output = .ok reader ∧ reader.ReadsAll (packets.map recordOf) ∧
      (packets.map recordOf).map snoopedOf = packets := by
  refine ⟨_, _, snoopAll_eq packets hpackets _, new_written _,
    readsAll_records packets hpackets, ?_⟩
  rw [List.map_map]
  exact (List.map_congr_left fun packet _ => snoopedOf_recordOf packet).trans (List.map_id packets)

def CommandOrEvent (hciPacket : Bytes) : Prop :=
  hciPacket.head? = some hciCommandPacket ∨ hciPacket.head? = some hciEventPacket

/-- The flag that the reader tests says whether the packet is a command or an event. -/
def BtSnoopRecord.Flagged (record : BtSnoopRecord) : Prop :=
  record.packetFlags &&& 2 ≠ 0 ↔ CommandOrEvent record.packetBytes

theorem flagsOf_second_bit (packetType : UInt8) (direction : SnoopDirection) :
    BtSnooper.flagsOf packetType direction &&& 2 = 0 := by
  rw [BtSnooper.flagsOf]
  cases direction <;> split <;> rfl

theorem flagged_recordOf (packet : Snooped) :
    (recordOf packet).Flagged ↔ ¬ CommandOrEvent packet.hciPacket := by
  have hflags : (recordOf packet).packetFlags &&& 2 = 0 := flagsOf_second_bit _ _
  rw [BtSnoopRecord.Flagged, hflags]
  exact ⟨fun hiff hpacket => hiff.mpr hpacket rfl,
    fun hpacket => ⟨fun hne => absurd rfl hne, fun hcontra => absurd hcontra hpacket⟩⟩

theorem data_of_flagged {packets : List Snooped} (hpackets : ∀ packet ∈ packets, Snoopable packet)
    {snooper : BtSnooper} {reader : BtSnoopReader} {records : List BtSnoopRecord}
    (hwritten : snoopAll (BtSnooper.new []) packets = .ok snooper)
    (hreader : BtSnoopReader.new snooper.output = .ok reader) (hreads : reader.ReadsAll records)
    (hflagged : ∀ record ∈ records, record.Flagged) :
    ∀ packet ∈ packets, ¬ CommandOrEvent packet.hciPacket := by
  obtain ⟨snooper', reader', hwritten', hreader', hreads', -⟩ := snooped_read hpackets
  obtain rfl := Except.ok.inj (hwritten'.symm.trans hwritten)
  obtain rfl := Except.ok.inj (hreader'.symm.trans hreader)
  rw [← hreads'.unique hreads] at hflagged
  intro packet hmem
  exact (flagged_recordOf packet).mp (hflagged _ (List.mem_map_of_mem hmem))

/-- **BTSnoop files.**  What is written is read back with flags that classify every packet as its
    type octet does, if and only if no packet is a command or an event. -/
theorem snoop_iff {packets : List Snooped} (hpackets : ∀ packet ∈ packets, Snoopable packet) :
    (∃ snooper reader records, snoopAll (BtSnooper.new []) packets = .ok snooper ∧
        BtSnoopReader.new snooper.output = .ok reader ∧ reader.ReadsAll records ∧
        records.map snoopedOf = packets ∧ ∀ record ∈ records, record.Flagged) ↔
      ∀ packet ∈ packets, ¬ CommandOrEvent packet.hciPacket := by
  constructor
  · rintro ⟨snooper, reader, records, hwritten, hreader, hreads, -, hflagged⟩
    exact data_of_flagged hpackets hwritten hreader hreads hflagged
  · intro hdata
    obtain ⟨snooper, reader, hwritten, hreader, hreads, hpacketsBack⟩ := snooped_read hpackets
    refine ⟨snooper, reader, _, hwritten, hreader, hreads, hpacketsBack, ?_⟩
    intro record hmem
    obtain ⟨packet, hpacket, rfl⟩ := List.mem_map.mp hmem
    exact (flagged_recordOf packet).mpr (hdata packet hpacket)

/-- An ACL packet in each direction. -/
theorem acl_flagged :
    (∃ snooper reader records, snoopAll (BtSnooper.new [])
          [⟨[2, 0, 0], .hostToController, 7⟩, ⟨[2], .controllerToHost, 8⟩] = .ok snooper ∧
        BtSnoopReader.new snooper.output = .ok reader ∧ reader.ReadsAll records ∧
        records.map snoopedOf =
          [⟨[2, 0, 0], .hostToController, 7⟩, ⟨[2], .controllerToHost, 8⟩] ∧
        ∀ record ∈ records, record.Flagged) ↔
      ∀ packet ∈ ([⟨[2, 0, 0], .hostToController, 7⟩, ⟨[2], .controllerToHost, 8⟩] :
        List Snooped), ¬ CommandOrEvent packet.hciPacket := by
  refine snoop_iff ?_
  intro packet hmem
  rcases List.mem_cons.mp hmem with rfl | hmem
  · exact ⟨by decide, by decide⟩
  · rw [List.mem_singleton.mp hmem]
    exact ⟨by decide, by decide⟩

/-- A reset command, which is flagged as data. -/
theorem command_unflagged :
    ∃ packets : List Snooped, (∀ packet ∈ packets, Snoopable packet) ∧
      ¬ ∃ snooper reader records, snoopAll (BtSnooper.new []) packets = .ok snooper ∧
        BtSnoopReader.new snooper.output = .ok reader ∧ reader.ReadsAll records ∧
        records.map snoopedOf = packets ∧ ∀ record ∈ records, record.Flagged := by
  have hpacket : ∀ packet ∈ ([⟨[1, 3, 0x0C, 0], .hostToController, 0⟩] : List Snooped),
      Snoopable packet := by
    intro packet hmem
    rw [List.mem_singleton.mp hmem]
    exact ⟨by decide, by decide⟩
  refine ⟨_, hpacket, ?_⟩
  rintro ⟨snooper, reader, records, hwritten, hreader, hreads, -, hflagged⟩
  exact data_of_flagged hpacket hwritten hreader hreads hflagged _ List.mem_cons_self (.inl rfl)

end Bumble.Transport
