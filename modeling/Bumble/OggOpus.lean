import Bumble.SbcMedia

/-!
# Opus packets in Ogg pages (`bumble-a2dp/src/media.rs`)

The parser goes through the segments of the pages of the first logical stream; a segment of
less than 255 octets ends a packet.  The pages of other streams are passed over.
-/

namespace Bumble.A2dp

inductive OpusChannelMode where
  | mono
  | stereo
  | dualMono
deriving DecidableEq, Repr

structure OpusPacket where
  channelMode : OpusChannelMode
  durationMs : UInt16
  samplingFrequency : UInt32
  payload : Bytes
deriving DecidableEq, Repr

/-- The variables of `parse_ogg_opus`. -/
structure OggParser where
  selectedSerial : Option UInt32
  expectedPageSequence : UInt32
  logicalPacket : Bytes
  logicalPacketCount : Nat
  channelMode : OpusChannelMode
  packets : List OpusPacket
deriving DecidableEq, Repr

def opusHead : Bytes := [0x4F, 0x70, 0x75, 0x73, 0x48, 0x65, 0x61, 0x64]
def opusTags : Bytes := [0x4F, 0x70, 0x75, 0x73, 0x54, 0x61, 0x67, 0x73]
def oggCapture : Bytes := [0x4F, 0x67, 0x67, 0x53]

namespace OggParser

def new : OggParser := ⟨none, 0, [], 0, .stereo, []⟩

def channelModeOf (head : Bytes) : OpusChannelMode :=
  if head.getD 9 0 = 1 then .mono else .stereo

/-- The end of a packet: the first two are headers. -/
def endPacket (state : OggParser) : Except Error OggParser :=
  let state := { state with logicalPacketCount := state.logicalPacketCount + 1 }
  match state.logicalPacketCount with
  | 1 =>
    if state.logicalPacket.length < 10 ∨ state.logicalPacket.take 8 ≠ opusHead then
      .error (.invalid "Opus identification header")
    else
      .ok { state with
        channelMode := channelModeOf state.logicalPacket
        logicalPacket := [] }
  | 2 =>
    if state.logicalPacket.length < 8 ∨ state.logicalPacket.take 8 ≠ opusTags then
      .error (.invalid "Opus comment header")
    else .ok { state with logicalPacket := [] }
  | _ =>
    .ok { state with
      packets := state.packets ++ [⟨state.channelMode, 20, 48000, state.logicalPacket⟩]
      logicalPacket := [] }

def segment (state : OggParser) (lacing : UInt8) (octets : Bytes) : Except Error OggParser :=
  let state := { state with logicalPacket := state.logicalPacket ++ octets }
  if lacing < 255 then state.endPacket else .ok state

/-- The segments of a page, whose sizes are in its table. -/
def segments (selected : Bool) : List UInt8 → OggParser → Bytes → Except Error (OggParser × Bytes)
  | [], state, data => .ok (state, data)
  | lacing :: table, state, data =>
    if data.length < lacing.toNat then .error (.truncated "Ogg segment data")
    else if selected then do
      let state ← state.segment lacing (data.take lacing.toNat)
      segments selected table state (data.drop lacing.toNat)
    else segments selected table state (data.drop lacing.toNat)

/-- The header of a page: a first page selects its stream, and the pages of that have to be
    numbered one by one. -/
def beginPage (state : OggParser) (headerType : UInt8) (serial pageSequence : UInt32) :
    Except Error (OggParser × Bool) :=
  let state :=
    if headerType &&& 0x02 ≠ 0 ∧ state.selectedSerial = none then
      { state with selectedSerial := some serial, expectedPageSequence := pageSequence }
    else state
  if state.selectedSerial = some serial then
    if pageSequence ≠ state.expectedPageSequence then .error (.invalid "Ogg page sequence")
    else
      .ok ({ state with
        expectedPageSequence := pageSequence + 1
        logicalPacket := if headerType &&& 0x01 = 0 then [] else state.logicalPacket }, true)
  else .ok (state, false)

def page (state : OggParser) (data : Bytes) : Except Error (OggParser × Bytes) :=
  if data.length < 27 then .error (.truncated "Ogg page header")
  else
    let header := data.take 27
    let data := data.drop 27
    if header.take 4 ≠ oggCapture then .error (.invalid "Ogg capture pattern")
    else if header.getD 4 0 ≠ 0 then .error (.invalid "Ogg version")
    else
      let serial := UInt32.ofNat (beToNat ((header.drop 14).take 4).reverse)
      let pageSequence := UInt32.ofNat (beToNat ((header.drop 18).take 4).reverse)
      let segmentCount := (header.getD 26 0).toNat
      if data.length < segmentCount then .error (.truncated "Ogg segment table")
      else do
        let (state, selected) ← state.beginPage (header.getD 5 0) serial pageSequence
        segments selected (data.take segmentCount) state (data.drop segmentCount)

def pages : Nat → OggParser → Bytes → Except Error OggParser
  | 0, state, _ => .ok state
  | rounds + 1, state, data =>
    if data.isEmpty then .ok state
    else do
      let (state, data) ← state.page data
      pages rounds state data

end OggParser

def parseOggOpus (data : Bytes) : Except Error (List OpusPacket) := do
  let state ← OggParser.pages data.length OggParser.new data
  if state.logicalPacket ≠ [] then .error (.truncated "continued Ogg packet")
  else pure state.packets

/-! ## 1. Pages -/

structure OggPage where
  headerType : UInt8
  granule : Bytes
  serial : UInt32
  sequence : UInt32
  checksum : Bytes
  segments : List Bytes
  granule_length : granule.length = 8
  checksum_length : checksum.length = 4
  segments_length : segments.length ≤ 255
  segment_length : ∀ octets ∈ segments, octets.length ≤ 255

namespace OggPage

def table (page : OggPage) : Bytes := page.segments.map fun octets => UInt8.ofNat octets.length

def toBytes (page : OggPage) : Bytes :=
  oggCapture ++ ([0, page.headerType] ++ (page.granule ++ (u32ToLe page.serial ++
    (u32ToLe page.sequence ++ (page.checksum ++ (UInt8.ofNat page.segments.length ::
      (page.table ++ page.segments.flatten)))))))

end OggPage

/-- The lacing segments of a packet: as many of 255 octets as go into it, and a shorter one. -/
def lacingSegments (packet : Bytes) : List Bytes :=
  if packet.length < 255 then [packet] else packet.take 255 :: lacingSegments (packet.drop 255)
termination_by packet.length
decreasing_by
  rw [List.length_drop]
  omega

/-- The segment in front is a full one, so that its packet goes on. -/
def InsidePacket (before : List Bytes) : Prop :=
  ∃ octets, before.getLast? = some octets ∧ octets.length = 255

/-- The pages of a stream of one serial, among pages of others, that carry `segments` behind
    those of the pages before. -/
inductive Paged (serial : UInt32) :
    UInt32 → List Bytes → List OggPage → List Bytes → Prop where
  | nil (sequence : UInt32) (before : List Bytes) : Paged serial sequence before [] []
  | foreign {sequence : UInt32} {before : List Bytes} {page : OggPage} {later : List OggPage}
      {segments : List Bytes} (hserial : page.serial ≠ serial)
      (hlater : Paged serial sequence before later segments) :
      Paged serial sequence before (page :: later) segments
  | own {sequence : UInt32} {before : List Bytes} {page : OggPage} {later : List OggPage}
      {segments : List Bytes} (hserial : page.serial = serial)
      (hsequence : page.sequence = sequence)
      (hcontinued : page.headerType &&& 0x01 ≠ 0 ↔ InsidePacket before)
      (hlater : Paged serial (sequence + 1) (before ++ page.segments) later segments) :
      Paged serial sequence before (page :: later) (page.segments ++ segments)

/-! ## 2. Packets from segments -/

/-- The packets that segments end, and the octets of the one that they do not. -/
structure Gathered where
  complete : List Bytes
  unfinished : Bytes

def gatherNext (gathered : Gathered) (octets : Bytes) : Gathered :=
  if octets.length < 255 then ⟨gathered.complete ++ [gathered.unfinished ++ octets], []⟩
  else ⟨gathered.complete, gathered.unfinished ++ octets⟩

def gather (segments : List Bytes) : Gathered := segments.foldl gatherNext ⟨[], []⟩

theorem gather_append (before segments : List Bytes) :
    gather (before ++ segments) = segments.foldl gatherNext (gather before) :=
  List.foldl_append

theorem complete_extends (segments : List Bytes) (gathered : Gathered) :
    gathered.complete <+: (segments.foldl gatherNext gathered).complete := by
  induction segments generalizing gathered with
  | nil => exact List.prefix_rfl
  | cons octets segments ih =>
    refine List.IsPrefix.trans ?_ (ih (gatherNext gathered octets))
    rw [gatherNext]
    split
    · exact List.prefix_append _ _
    · exact List.prefix_rfl

theorem unfinished_outside {before : List Bytes} (hbounded : ∀ octets ∈ before, octets.length ≤ 255)
    (houtside : ¬ InsidePacket before) : (gather before).unfinished = [] := by
  rcases List.eq_nil_or_concat' before with rfl | ⟨front, octets, rfl⟩
  · rfl
  · have hlast : octets.length ≠ 255 := by
      intro hfull
      exact houtside ⟨octets, List.getLast?_concat, hfull⟩
    have hle := hbounded octets (List.mem_append_right _ (List.mem_singleton_self _))
    have hshort : octets.length < 255 := by omega
    rw [gather_append, List.foldl_cons, List.foldl_nil, gatherNext, if_pos hshort]

theorem foldl_lacingSegments (packet : Bytes) (gathered : Gathered) :
    (lacingSegments packet).foldl gatherNext gathered =
      ⟨gathered.complete ++ [gathered.unfinished ++ packet], []⟩ := by
  induction packet using lacingSegments.induct generalizing gathered with
  | case1 packet hshort =>
    rw [lacingSegments, if_pos hshort, List.foldl_cons, List.foldl_nil, gatherNext, if_pos hshort]
  | case2 packet hlong ih =>
    have hfull : ¬ (packet.take 255).length < 255 := by
      rw [List.length_take]
      omega
    rw [lacingSegments, if_neg hlong, List.foldl_cons, ih, gatherNext, if_neg hfull,
      List.append_assoc, List.take_append_drop]

theorem foldl_packets (packets : List Bytes) (complete : List Bytes) :
    (packets.flatMap lacingSegments).foldl gatherNext ⟨complete, []⟩ =
      ⟨complete ++ packets, []⟩ := by
  induction packets generalizing complete with
  | nil => simp only [List.flatMap_nil, List.foldl_nil, List.append_nil]
  | cons packet packets ih =>
    rw [List.flatMap_cons, List.foldl_append, foldl_lacingSegments, ih, List.append_assoc]
    rfl

theorem gather_packets (packets : List Bytes) :
    gather (packets.flatMap lacingSegments) = ⟨packets, []⟩ :=
  foldl_packets packets []

/-! ## 3. The parser on the segments of its stream -/

/-- The packets of a stream start with the two headers, as far as they have come. -/
def Headed (packets : List Bytes) : Prop :=
  (∀ head, packets[0]? = some head → 10 ≤ head.length ∧ head.take 8 = opusHead) ∧
    ∀ tags, packets[1]? = some tags → 8 ≤ tags.length ∧ tags.take 8 = opusTags

theorem Headed.of_front {front packets : List Bytes} (hheaded : Headed packets)
    (hfront : front <+: packets) : Headed front := by
  obtain ⟨later, rfl⟩ := hfront
  have hkept : ∀ {position : Nat} {packet : Bytes}, front[position]? = some packet →
      (front ++ later)[position]? = some packet := by
    intro position packet hpacket
    obtain ⟨hlt, -⟩ := List.getElem?_eq_some_iff.mp hpacket
    rw [List.getElem?_append_left hlt, hpacket]
  exact ⟨fun head hhead => hheaded.1 head (hkept hhead),
    fun tags htags => hheaded.2 tags (hkept htags)⟩

/-- What a stream of packets stands for: all but the two headers, in the mode of the first. -/
def opusPackets (packets : List Bytes) : List OpusPacket :=
  match packets with
  | head :: _ :: later => later.map fun payload =>
    ⟨OggParser.channelModeOf head, 20, 48000, payload⟩
  | _ => []

namespace OggParser

/-- The parser has what the segments so far carry. -/
structure Holds (state : OggParser) (gathered : Gathered) : Prop where
  count : state.logicalPacketCount = gathered.complete.length
  unfinished : state.logicalPacket = gathered.unfinished
  mode : ∀ head, gathered.complete[0]? = some head → state.channelMode = channelModeOf head
  packets : state.packets = opusPackets gathered.complete

theorem endPacket_holds {state : OggParser} {complete : List Bytes}
    (hholds : Holds state ⟨complete, state.logicalPacket⟩)
    (hheaded : Headed (complete ++ [state.logicalPacket])) :
    ∃ state', state.endPacket = .ok state' ∧ Holds state' ⟨complete ++ [state.logicalPacket], []⟩ ∧
      state'.selectedSerial = state.selectedSerial ∧
      state'.expectedPageSequence = state.expectedPageSequence := by
  obtain ⟨hcount, -, hmode, hpackets⟩ := hholds
  dsimp only at hcount hmode hpackets
  unfold endPacket
  dsimp only
  split
  · next hone =>
    have hnone : complete = [] := List.length_eq_zero_iff.mp (by omega)
    subst hnone
    obtain ⟨hlength, hhead⟩ := hheaded.1 _ rfl
    have hvalid : ¬ (state.logicalPacket.length < 10 ∨ state.logicalPacket.take 8 ≠ opusHead) :=
      not_or.mpr ⟨Nat.not_lt.mpr hlength, not_not.mpr hhead⟩
    rw [if_neg hvalid]
    refine ⟨_, rfl, ⟨hone, rfl, ?_, hpackets⟩, rfl, rfl⟩
    rintro head ⟨⟩
    rfl
  · next htwo =>
    obtain ⟨head, rfl⟩ := List.length_eq_one_iff.mp (show complete.length = 1 by omega)
    obtain ⟨hlength, htags⟩ := hheaded.2 _ rfl
    have hvalid : ¬ (state.logicalPacket.length < 8 ∨ state.logicalPacket.take 8 ≠ opusTags) :=
      not_or.mpr ⟨Nat.not_lt.mpr hlength, not_not.mpr htags⟩
    rw [if_neg hvalid]
    exact ⟨_, rfl, ⟨htwo, rfl, hmode, hpackets⟩, rfl, rfl⟩
  · next hone htwo =>
    rcases complete with _ | ⟨head, _ | ⟨tags, later⟩⟩
    · exact absurd (congrArg (· + 1) hcount) hone
    · exact absurd (congrArg (· + 1) hcount) htwo
    · refine ⟨_, rfl, ⟨?_, rfl, hmode, ?_⟩, rfl, rfl⟩
      · dsimp only
        rw [hcount, List.length_append, List.length_singleton]
      · dsimp only
        rw [hpackets, hmode head rfl]
        simp only [opusPackets, List.cons_append, List.map_append, List.map_cons, List.map_nil]

theorem segment_holds {state : OggParser} {gathered : Gathered} (hholds : Holds state gathered)
    {octets : Bytes} (hle : octets.length ≤ 255)
    (hheaded : Headed (gatherNext gathered octets).complete) :
    ∃ state', state.segment (UInt8.ofNat octets.length) octets = .ok state' ∧
      Holds state' (gatherNext gathered octets) ∧
      state'.selectedSerial = state.selectedSerial ∧
      state'.expectedPageSequence = state.expectedPageSequence := by
  have hlacing : UInt8.ofNat octets.length < 255 ↔ octets.length < 255 := by
    rw [UInt8.lt_iff_toNat_lt, UInt8.toNat_ofNat_of_lt' (Nat.lt_succ_of_le hle)]
    rfl
  obtain ⟨hcount, hunfinished, hmode, hpackets⟩ := hholds
  rw [segment]
  rw [gatherNext] at hheaded ⊢
  split at hheaded
  · next hshort =>
    rw [if_pos (hlacing.mpr hshort), if_pos hshort, ← hunfinished]
    rw [← hunfinished] at hheaded
    exact @endPacket_holds { state with logicalPacket := state.logicalPacket ++ octets } _
      ⟨hcount, rfl, hmode, hpackets⟩ hheaded
  · next hfull =>
    rw [if_neg (mt hlacing.mp hfull), if_neg hfull]
    exact ⟨_, rfl, ⟨hcount, congrArg (· ++ octets) hunfinished, hmode, hpackets⟩, rfl, rfl⟩

theorem segments_holds (table : List Bytes) (hbounded : ∀ octets ∈ table, octets.length ≤ 255)
    (later : Bytes) {state : OggParser} {gathered : Gathered} (hholds : Holds state gathered)
    (hheaded : Headed (table.foldl gatherNext gathered).complete) :
    ∃ state', segments true (table.map fun octets => UInt8.ofNat octets.length) state
        (table.flatten ++ later) = .ok (state', later) ∧
      Holds state' (table.foldl gatherNext gathered) ∧
      state'.selectedSerial = state.selectedSerial ∧
      state'.expectedPageSequence = state.expectedPageSequence := by
  induction table generalizing state gathered with
  | nil => exact ⟨state, rfl, hholds, rfl, rfl⟩
  | cons octets table ih =>
    have hle := hbounded octets List.mem_cons_self
    have hlacing : (UInt8.ofNat octets.length).toNat = octets.length :=
      UInt8.toNat_ofNat_of_lt' (Nat.lt_succ_of_le hle)
    obtain ⟨next, hnext, hnextHolds, hserial, hsequence⟩ :=
      segment_holds hholds hle (hheaded.of_front (complete_extends table _))
    obtain ⟨state', hrest, hrestHolds, hserial', hsequence'⟩ :=
      ih (fun octets hmem => hbounded octets (List.mem_cons_of_mem _ hmem)) hnextHolds hheaded
    refine ⟨state', ?_, hrestHolds, hserial'.trans hserial, hsequence'.trans hsequence⟩
    have hfits : ¬ (octets ++ (table.flatten ++ later)).length < octets.length := by
      rw [List.length_append]
      omega
    rw [List.map_cons, segments, List.flatten_cons, List.append_assoc, hlacing, if_neg hfits,
      if_pos rfl, List.take_left' rfl, List.drop_left' rfl, hnext]
    exact hrest

theorem segments_foreign (table : List Bytes) (hbounded : ∀ octets ∈ table, octets.length ≤ 255)
    (later : Bytes) (state : OggParser) :
    segments false (table.map fun octets => UInt8.ofNat octets.length) state
      (table.flatten ++ later) = .ok (state, later) := by
  induction table with
  | nil => rfl
  | cons octets table ih =>
    have hlacing : (UInt8.ofNat octets.length).toNat = octets.length :=
      UInt8.toNat_ofNat_of_lt' (Nat.lt_succ_of_le (hbounded octets List.mem_cons_self))
    have hfits : ¬ (octets ++ (table.flatten ++ later)).length < octets.length := by
      rw [List.length_append]
      omega
    rw [List.map_cons, segments, List.flatten_cons, List.append_assoc, hlacing, if_neg hfits,
      if_neg Bool.false_ne_true, List.drop_left' rfl]
    exact ih fun octets hmem => hbounded octets (List.mem_cons_of_mem _ hmem)

/-- A written page is begun and its segments are taken, whatever follows it. -/
theorem page_toBytes (page : OggPage) (later : Bytes) (state : OggParser) :
    state.page (page.toBytes ++ later) =
      (state.beginPage page.headerType page.serial page.sequence).bind fun (state, selected) =>
        segments selected page.table state (page.segments.flatten ++ later) := by
  have hgranule := page.granule_length
  have hchecksum := page.checksum_length
  have hserial : (u32ToLe page.serial).length = 4 := rfl
  have hsequence : (u32ToLe page.sequence).length = 4 := rfl
  have hread : ∀ word : UInt32, UInt32.ofNat (beToNat (u32ToLe word).reverse) = word := by
    intro word
    rw [OctetReader.u32ToLe_eq, List.reverse_reverse, u32ToBe, beToNat_natToBe 4 word.toNat_lt,
      UInt32.ofNat_toNat]
  have hcount : (UInt8.ofNat page.segments.length).toNat = page.table.length := by
    rw [UInt8.toNat_ofNat_of_lt' (Nat.lt_succ_of_le page.segments_length), OggPage.table,
      List.length_map]
  -- the seven fields of the header
  generalize hheader : oggCapture ++ ([0, page.headerType] ++ (page.granule ++
    (u32ToLe page.serial ++ (u32ToLe page.sequence ++ (page.checksum ++
      [UInt8.ofNat page.segments.length]))))) = header
  have hlength : header.length = 27 := by
    rw [← hheader]
    simp only [List.length_append, hgranule, hserial, hsequence, hchecksum]
    rfl
  have hbytes : page.toBytes ++ later =
      header ++ (page.table ++ (page.segments.flatten ++ later)) := by
    rw [← hheader, OggPage.toBytes]
    simp only [List.append_assoc, List.cons_append, List.nil_append]
  have hcapture : header.take 4 = oggCapture := by
    rw [← hheader]
    rfl
  have hversion : header.getD 4 0 = 0 := by
    rw [← hheader]
    rfl
  have htype : header.getD 5 0 = page.headerType := by
    rw [← hheader]
    rfl
  have hafter : header.drop 14 = u32ToLe page.serial ++ (u32ToLe page.sequence ++
      (page.checksum ++ [UInt8.ofNat page.segments.length])) := by
    rw [← hheader, ← List.append_assoc, ← List.append_assoc]
    refine List.drop_left' ?_
    simp only [List.length_append, hgranule]
    rfl
  have hnext : header.drop 18 = u32ToLe page.sequence ++
      (page.checksum ++ [UInt8.ofNat page.segments.length]) := by
    rw [show 18 = 14 + 4 from rfl, ← List.drop_drop, hafter, List.drop_left' hserial]
  have hlast : header.getD 26 0 = UInt8.ofNat page.segments.length := by
    have hdrop : header.drop 26 = [UInt8.ofNat page.segments.length] := by
      rw [show 26 = 18 + 8 from rfl, ← List.drop_drop, hnext, ← List.append_assoc]
      refine List.drop_left' ?_
      rw [List.length_append, hsequence, hchecksum]
    rw [List.getD_eq_getElem?_getD, ← List.head?_drop, hdrop]
    rfl
  have hfits : ¬ (header ++ (page.table ++ (page.segments.flatten ++ later))).length < 27 := by
    rw [List.length_append, hlength]
    omega
  have htable : ¬ (page.table ++ (page.segments.flatten ++ later)).length < page.table.length := by
    rw [List.length_append]
    omega
  rw [hbytes, OggParser.page, if_neg hfits]
  dsimp only
  rw [List.take_left' hlength, List.drop_left' hlength, hcapture, hversion, hafter, hnext, hlast,
    htype, hcount, List.take_left' hserial, List.take_left' hsequence, hread, hread,
    if_neg (not_not.mpr rfl), if_neg (not_not.mpr rfl), if_neg htable, List.take_left' rfl,
    List.drop_left' rfl]
  rfl

theorem page_own {state : OggParser} {before : List Bytes} {page : OggPage}
    (hserial : state.selectedSerial = some page.serial)
    (hsequence : state.expectedPageSequence = page.sequence)
    (hbounded : ∀ octets ∈ before, octets.length ≤ 255)
    (hcontinued : page.headerType &&& 0x01 ≠ 0 ↔ InsidePacket before)
    (hholds : Holds state (gather before))
    (hheaded : Headed (gather (before ++ page.segments)).complete) (later : Bytes) :
    ∃ state', state.page (page.toBytes ++ later) = .ok (state', later) ∧
      Holds state' (gather (before ++ page.segments)) ∧
      state'.selectedSerial = some page.serial ∧
      state'.expectedPageSequence = page.sequence + 1 := by
  rw [gather_append] at hheaded ⊢
  obtain ⟨hcount, hunfinished, hmode, hpackets⟩ := hholds
  let begun : OggParser :=
    { state with
      expectedPageSequence := page.sequence + 1
      logicalPacket := if page.headerType &&& 0x01 = 0 then [] else state.logicalPacket }
  have hbegin : state.beginPage page.headerType page.serial page.sequence = .ok (begun, true) := by
    have hselected : ¬ (page.headerType &&& 0x02 ≠ 0 ∧ state.selectedSerial = none) := by
      rintro ⟨-, hnone⟩
      rw [hserial] at hnone
      cases hnone
    rw [beginPage]
    rw [if_neg hselected, if_pos hserial, hsequence, if_neg (not_not.mpr rfl)]
  have hbegun : Holds begun (gather before) := by
    refine ⟨hcount, ?_, hmode, hpackets⟩
    by_cases hflag : page.headerType &&& 0x01 = 0
    · have houtside : ¬ InsidePacket before := fun hinside => hcontinued.mpr hinside hflag
      exact (if_pos hflag).trans (unfinished_outside hbounded houtside).symm
    · exact (if_neg hflag).trans hunfinished
  obtain ⟨state', hsegments, hholds', hserial', hsequence'⟩ :=
    segments_holds page.segments page.segment_length later hbegun hheaded
  refine ⟨state', ?_, hholds', hserial'.trans hserial, hsequence'⟩
  rw [page_toBytes, hbegin]
  exact hsegments

theorem page_foreign {state : OggParser} {serial : UInt32} {page : OggPage}
    (hserial : state.selectedSerial = some serial) (hforeign : page.serial ≠ serial)
    (later : Bytes) : state.page (page.toBytes ++ later) = .ok (state, later) := by
  have hbegin : state.beginPage page.headerType page.serial page.sequence =
      .ok (state, false) := by
    have hselected : ¬ (page.headerType &&& 0x02 ≠ 0 ∧ state.selectedSerial = none) := by
      rintro ⟨-, hnone⟩
      rw [hserial] at hnone
      cases hnone
    have hother : ¬ state.selectedSerial = some page.serial := by
      rw [hserial]
      rintro ⟨⟩
      exact hforeign rfl
    rw [beginPage]
    rw [if_neg hselected, if_neg hother]
  rw [page_toBytes, hbegin]
  exact segments_foreign page.segments page.segment_length later state

theorem toBytes_isEmpty (page : OggPage) (later : Bytes) :
    (page.toBytes ++ later).isEmpty = false := rfl

/-- Pages in sequence gather their segments across the page boundaries. -/
theorem pages_holds {serial sequence : UInt32} {before segments : List Bytes}
    {stream : List OggPage} (hpaged : Paged serial sequence before stream segments) :
    ∀ {state : OggParser} {rounds : Nat}, stream.length ≤ rounds →
      state.selectedSerial = some serial → state.expectedPageSequence = sequence →
      (∀ octets ∈ before, octets.length ≤ 255) → Holds state (gather before) →
      Headed (gather (before ++ segments)).complete →
      ∃ state', pages rounds state (stream.flatMap OggPage.toBytes) = .ok state' ∧
        Holds state' (gather (before ++ segments)) := by
  induction hpaged with
  | nil sequence before =>
    intro state rounds _ _ _ _ hholds _
    refine ⟨state, ?_, by rwa [List.append_nil]⟩
    cases rounds <;> rfl
  | @foreign sequence before page later segments hforeign hlater ih =>
    intro state rounds hrounds hserial hsequence hbounded hholds hheaded
    rcases rounds with _ | rounds
    · exact absurd hrounds (Nat.not_succ_le_zero _)
    · obtain ⟨state', hpages, hholds'⟩ := ih (Nat.le_of_succ_le_succ hrounds) hserial hsequence
        hbounded hholds hheaded
      refine ⟨state', ?_, hholds'⟩
      rw [List.flatMap_cons, pages, toBytes_isEmpty, if_neg Bool.false_ne_true,
        page_foreign hserial hforeign]
      exact hpages
  | @own sequence before page later segments hown hpage hcontinued hlater ih =>
    intro state rounds hrounds hserial hsequence hbounded hholds hheaded
    rcases rounds with _ | rounds
    · exact absurd hrounds (Nat.not_succ_le_zero _)
    · rw [← List.append_assoc] at hheaded ⊢
      have hheadedPage : Headed (gather (before ++ page.segments)).complete := by
        rw [gather_append (before ++ page.segments)] at hheaded
        exact hheaded.of_front (complete_extends segments _)
      obtain ⟨next, hnext, hnextHolds, hnextSerial, hnextSequence⟩ :=
        page_own (hserial.trans (congrArg some hown.symm)) (hsequence.trans hpage.symm) hbounded
          hcontinued hholds hheadedPage (later.flatMap OggPage.toBytes)
      have hboundedNext : ∀ octets ∈ before ++ page.segments, octets.length ≤ 255 := by
        intro octets hmem
        rcases List.mem_append.mp hmem with hmem | hmem
        · exact hbounded octets hmem
        · exact page.segment_length octets hmem
      obtain ⟨state', hpages, hholds'⟩ := ih (Nat.le_of_succ_le_succ hrounds)
        (hnextSerial.trans (congrArg some hown)) (hnextSequence.trans (congrArg (· + 1) hpage))
        hboundedNext hnextHolds hheaded
      refine ⟨state', ?_, hholds'⟩
      rw [List.flatMap_cons, pages, toBytes_isEmpty, if_neg Bool.false_ne_true, hnext]
      exact hpages

theorem page_first {page : OggPage} (hfirst : page.headerType &&& 0x02 ≠ 0)
    (hcontinued : page.headerType &&& 0x01 ≠ 0 ↔ InsidePacket [])
    (hheaded : Headed (gather page.segments).complete) (later : Bytes) :
    ∃ state', new.page (page.toBytes ++ later) = .ok (state', later) ∧
      Holds state' (gather page.segments) ∧
      state'.selectedSerial = some page.serial ∧
      state'.expectedPageSequence = page.sequence + 1 := by
  have hselected : page.headerType &&& 0x02 ≠ 0 ∧ new.selectedSerial = none := ⟨hfirst, rfl⟩
  have hshown : new.page (page.toBytes ++ later) =
      { new with
        selectedSerial := some page.serial
        expectedPageSequence := page.sequence }.page (page.toBytes ++ later) := by
    have hagain : ¬ (page.headerType &&& 0x02 ≠ 0 ∧ some page.serial = none) := by
      rintro ⟨-, ⟨⟩⟩
    rw [page_toBytes, page_toBytes, beginPage, beginPage, if_pos hselected, if_neg hagain]
  rw [hshown]
  refine page_own rfl rfl ?_ hcontinued ⟨rfl, rfl, ?_, rfl⟩ hheaded later
  · rintro octets ⟨⟩
  · rintro head ⟨⟩

end OggParser

theorem length_toBytes_pos (page : OggPage) : 0 < page.toBytes.length := Nat.succ_pos _

theorem length_le_octets (stream : List OggPage) :
    stream.length ≤ (stream.flatMap OggPage.toBytes).length := by
  induction stream with
  | nil => exact Nat.le_refl _
  | cons page later ih =>
    have hpos := length_toBytes_pos page
    rw [List.flatMap_cons, List.length_append, List.length_cons]
    omega

/-! ## 4. Page boundaries -/

/-- **Page boundaries are transparent.**  However the segments of the packets are cut into pages
    of one serial, and whatever pages of other serials stand between those, the packets behind
    the two headers are returned. -/
theorem page_boundaries_transparent {head tags : Bytes} (hhead : head.take 8 = opusHead)
    (hversion : 10 ≤ head.length) (htags : tags.take 8 = opusTags) (payloads : List Bytes)
    {first : OggPage} {later : List OggPage} (hfirst : first.headerType &&& 0x02 ≠ 0)
    (hpaged : Paged first.serial first.sequence [] (first :: later)
      ((head :: tags :: payloads).flatMap lacingSegments)) :
    parseOggOpus ((first :: later).flatMap OggPage.toBytes) =
      .ok (payloads.map fun payload => ⟨OggParser.channelModeOf head, 20, 48000, payload⟩) := by
  have hheaded : Headed (head :: tags :: payloads) := by
    constructor
    · rintro _ ⟨⟩
      exact ⟨hversion, hhead⟩
    · rintro _ ⟨⟩
      refine ⟨?_, htags⟩
      have hlength := congrArg List.length htags
      rw [List.length_take] at hlength
      exact Nat.le_of_not_lt fun hlt => by
        rw [Nat.min_eq_right (Nat.le_of_lt hlt)] at hlength
        exact absurd hlength (Nat.ne_of_lt hlt)
  have hgathered := gather_packets (head :: tags :: payloads)
  generalize (head :: tags :: payloads).flatMap lacingSegments = all at hpaged hgathered
  cases hpaged with
  | foreign hforeign _ => exact absurd rfl hforeign
  | @own _ _ _ _ segments _ _ hcontinued hlater =>
    rw [gather_append] at hgathered
    have hheadedPage : Headed (gather first.segments).complete := by
      refine hheaded.of_front ?_
      have hfront := complete_extends segments (gather first.segments)
      rwa [hgathered] at hfront
    obtain ⟨state, hpage, hholds, hserial, hsequence⟩ :=
      OggParser.page_first hfirst hcontinued hheadedPage (later.flatMap OggPage.toBytes)
    have hbounded : ∀ octets ∈ [] ++ first.segments, octets.length ≤ 255 := first.segment_length
    have hgatheredAll : gather ([] ++ first.segments ++ segments) =
        ⟨head :: tags :: payloads, []⟩ := (gather_append first.segments segments).trans hgathered
    obtain ⟨rounds, hrounds⟩ := Nat.exists_eq_add_one_of_ne_zero (Nat.ne_of_gt
      (Nat.lt_of_lt_of_le (Nat.succ_pos _) (length_le_octets (first :: later))))
    have hfuel : later.length ≤ rounds := by
      have hle := length_le_octets (first :: later)
      rw [hrounds, List.length_cons] at hle
      omega
    obtain ⟨state', hpages, hholds'⟩ := OggParser.pages_holds hlater hfuel hserial hsequence
      hbounded hholds (by rw [hgatheredAll]; exact hheaded)
    rw [hgatheredAll] at hholds'
    have hall : OggParser.pages ((first :: later).flatMap OggPage.toBytes).length OggParser.new
        ((first :: later).flatMap OggPage.toBytes) = .ok state' := by
      rw [hrounds, List.flatMap_cons, OggParser.pages, OggParser.toBytes_isEmpty,
        if_neg Bool.false_ne_true, hpage]
      exact hpages
    rw [parseOggOpus, hall]
    change (if state'.logicalPacket ≠ [] then _ else pure state'.packets) = _
    rw [if_neg (not_not.mpr hholds'.unfinished), hholds'.packets]
    rfl

theorem length_longComment : (opusTags ++ List.replicate 247 0).length = 255 := by
  rw [List.length_append, List.length_replicate]
  rfl

theorem longComment_segments :
    ∀ octets ∈ [opusHead ++ [1, 1], opusTags ++ List.replicate 247 0], octets.length ≤ 255 := by
  intro octets hmem
  rcases List.mem_cons.mp hmem with rfl | hmem
  · exact Nat.le_of_ble_eq_true rfl
  · rw [List.mem_singleton.mp hmem, length_longComment]

/-- A comment header that goes on on the second page, behind a page of another stream. -/
theorem split_comment_read :
    let head := opusHead ++ [1, 1]
    let tags := opusTags ++ List.replicate 247 0
    let first : OggPage := ⟨0x02, List.replicate 8 0, 7, 0xFFFFFFFF, List.replicate 4 0,
      [head, tags], rfl, rfl, Nat.le_of_ble_eq_true rfl, longComment_segments⟩
    let other : OggPage := ⟨0x02, List.replicate 8 0, 8, 0, List.replicate 4 0, [[1, 2]], rfl, rfl,
      by decide, by decide⟩
    let last : OggPage :=
      ⟨0x01, List.replicate 8 0, 7, 0, List.replicate 4 0, [[], [5, 6]], rfl, rfl,
      by decide, by decide⟩
    parseOggOpus ([first, other, last].flatMap OggPage.toBytes) =
      .ok [⟨.mono, 20, 48000, [5, 6]⟩] := by
  intro head tags first other last
  have hinside : InsidePacket [head, tags] := ⟨tags, rfl, length_longComment⟩
  have hpaged : Paged 7 0xFFFFFFFF [] [first, other, last]
      ([head, tags] ++ ([[], [5, 6]] ++ [])) := by
    refine .own rfl rfl ?_ (.foreign (by decide) (.own rfl rfl ?_ (.nil _ _)))
    · refine ⟨fun hflag => absurd (show (0x02 : UInt8) &&& 0x01 = 0 by decide) hflag, ?_⟩
      rintro ⟨octets, ⟨⟩, -⟩
    · exact ⟨fun _ => hinside, fun _ => by decide⟩
  have hlacing : [head, tags, [5, 6]].flatMap lacingSegments =
      [head, tags] ++ ([[], [5, 6]] ++ []) := by
    have hfull : tags.length = 255 := length_longComment
    have htags : lacingSegments tags = [tags, []] := by
      rw [lacingSegments, if_neg (by rw [hfull]; decide), List.take_of_length_le (by rw [hfull]),
        List.drop_of_length_le (by rw [hfull]), lacingSegments, if_pos (by decide)]
    rw [List.flatMap_cons, List.flatMap_cons, htags, lacingSegments, if_pos (by decide),
      List.flatMap_cons, lacingSegments, if_pos (by decide)]
    rfl
  rw [← hlacing] at hpaged
  exact @page_boundaries_transparent head tags rfl (Nat.le_of_ble_eq_true rfl) rfl [[5, 6]] first
    [other, last] (show (0x02 : UInt8) &&& 0x02 ≠ 0 by decide) hpaged

end Bumble.A2dp
