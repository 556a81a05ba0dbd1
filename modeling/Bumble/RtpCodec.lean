import Bumble.RtpPacket
import Bumble.Outcome

/-!
# The RTP packet codec

The contributing sources, the header extension and the padding are each counted in a field;
the words of an extension in one of 16 bits, which is the only count that does not fit every
packet that is written.
-/

namespace Bumble.Rtp.MediaPacket

/-! ## 1. What is accepted -/

theorem length_wordsBe (count : Nat) : ∀ bytes : Bytes, (wordsBe count bytes).length = count := by
  induction count with
  | zero =>
    intro bytes
    rfl
  | succ count ih =>
    intro bytes
    rw [wordsBe, List.length_cons, ih]

/-- The octets of a header extension, its profile and length counted. -/
def extensionSize (extension : Option HeaderExtension) : Nat :=
  match extension with
  | some extension => 4 + extension.data.length
  | none => 0

/-- The regions of a packet, of the sizes that its count fields declare, are one behind the
    other and are all of its octets. -/
structure Regions (data : Bytes) (packet : MediaPacket) : Prop where
  regions : ∃ header csrc extension padding : Bytes,
    data = header ++ csrc ++ extension ++ packet.payload ++ padding ∧
    header.length = 12 ∧ csrc.length = 4 * packet.csrcList.length ∧
    extension.length = extensionSize packet.extension ∧
    padding.length = packet.paddingLen.toNat
  flags : ∃ first, data.head? = some first ∧ packet.csrcList.length = (first &&& 0x0F).toNat ∧
    packet.extension.isSome = (first &&& 0x10 != 0) ∧
    (packet.paddingLen != 0) = (first &&& 0x20 != 0)
  words : ∀ extension, packet.extension = some extension →
    ∃ words : UInt16, extension.data.length = 4 * words.toNat ∧
      words.toNat = beToNat ((data.drop (12 + packet.csrcList.length * 4 + 2)).take 2)
  padding : packet.paddingLen ≠ 0 → data.getLast? = some packet.paddingLen

theorem parseCsrc_eq_ok {data : Bytes} {count csrcEnd : Nat} {csrcList : List UInt32}
    (hparse : parseCsrc data count = .ok (csrcList, csrcEnd)) :
    csrcList.length = count ∧ csrcEnd = 12 + count * 4 ∧ csrcEnd ≤ data.length := by
  simp only [parseCsrc] at hparse
  split at hparse
  · cases hparse
  · next hlength =>
    cases hparse
    exact ⟨length_wordsBe _ _, rfl, Nat.le_of_not_lt hlength⟩

theorem parseExtension_eq_ok {data : Bytes} {hasExtension : Bool} {start payloadStart : Nat}
    {extension : Option HeaderExtension} (hstart : start ≤ data.length)
    (hparse : parseExtension data hasExtension start = .ok (extension, payloadStart)) :
    payloadStart ≤ data.length ∧
      payloadStart = start + extensionSize extension ∧ extension.isSome = hasExtension ∧
      ∀ found, extension = some found → ∃ words : UInt16, found.data.length = 4 * words.toNat ∧
        words.toNat = beToNat ((data.drop (start + 2)).take 2) := by
  simp only [parseExtension] at hparse
  split at hparse
  · next hflag =>
    split at hparse
    · cases hparse
    · split at hparse
      · cases hparse
      · next hlength =>
        have hwords : beToNat ((data.drop (start + 2)).take 2) < 65536 := by
          have hlt := beToNat_lt ((data.drop (start + 2)).take 2)
          have hle : 256 ^ ((data.drop (start + 2)).take 2).length ≤ 256 ^ 2 :=
            Nat.pow_le_pow_right (by decide) (List.length_take_le _ _)
          omega
        have hcount : ((data.drop (start + 4)).take
            (beToNat ((data.drop (start + 2)).take 2) * 4)).length =
            beToNat ((data.drop (start + 2)).take 2) * 4 := by
          rw [List.length_take, List.length_drop]
          omega
        cases hparse
        refine ⟨Nat.le_of_not_lt hlength, ?_, hflag.symm, ?_⟩
        · rw [extensionSize, hcount, Nat.add_assoc]
        · rintro found ⟨⟩
          refine ⟨UInt16.ofNat (beToNat ((data.drop (start + 2)).take 2)), ?_⟩
          rw [UInt16.toNat_ofNat_of_lt' hwords]
          exact ⟨hcount.trans (Nat.mul_comm _ _), rfl⟩
  · next hflag =>
    cases hparse
    refine ⟨hstart, rfl, (Bool.eq_false_iff.mpr hflag).symm, ?_⟩
    rintro found ⟨⟩

theorem parsePadding_eq_ok {data : Bytes} {hasPadding : Bool} {payloadStart : Nat}
    {paddingLen : UInt8} (hparse : parsePadding data hasPadding payloadStart = .ok paddingLen) :
    paddingLen.toNat ≤ data.length - payloadStart ∧ (paddingLen != 0) = hasPadding ∧
      (paddingLen ≠ 0 → data.getLast? = some paddingLen) := by
  rw [parsePadding] at hparse
  split at hparse
  · next hflag =>
    split at hparse
    · next last hlast =>
      split at hparse
      · cases hparse
      · next hlength =>
        cases hparse
        obtain ⟨hzero, hle⟩ := not_or.mp hlength
        exact ⟨Nat.le_of_not_lt hle, (bne_iff_ne.mpr hzero).trans hflag.symm, fun _ => hlast⟩
    · cases hparse
  · next hflag =>
    cases hparse
    exact ⟨Nat.zero_le _, (Bool.eq_false_iff.mpr hflag).symm, fun hne => absurd rfl hne⟩

theorem regions_of_fromBytes {data : Bytes} {packet : MediaPacket}
    (hparse : fromBytes data = .ok packet) : Regions data packet := by
  unfold fromBytes at hparse
  split at hparse
  · next first second s0 s1 t0 t1 t2 t3 r0 r1 r2 r3 later =>
    obtain ⟨⟨csrcList, csrcEnd⟩, hcsrc, hparse⟩ := except_bind_eq_ok hparse
    obtain ⟨⟨extension, payloadStart⟩, hextension, hparse⟩ := except_bind_eq_ok hparse
    obtain ⟨paddingLen, hpadding, hparse⟩ := except_bind_eq_ok hparse
    cases hparse
    generalize hdata : first :: second :: s0 :: s1 :: t0 :: t1 :: t2 :: t3 :: r0 :: r1 ::
      r2 :: r3 ::
      later = data at hcsrc hextension hpadding
    obtain ⟨hcount, hcsrcEnd, hfits⟩ := parseCsrc_eq_ok hcsrc
    obtain ⟨hstart, hpayload, hsome, hwords⟩ := parseExtension_eq_ok hfits hextension
    obtain ⟨hend, hpadded, hlast⟩ := parsePadding_eq_ok hpadding
    have hpiece : ∀ {low high : Nat}, low ≤ high →
        data.take low ++ (data.take high).drop low = data.take high := by
      intro low high hle
      rw [← Nat.min_eq_left hle, ← List.take_take, Nat.min_eq_left hle, List.take_append_drop]
    refine ⟨⟨data.take 12, (data.take csrcEnd).drop 12, (data.take payloadStart).drop csrcEnd,
      data.drop (data.length - paddingLen.toNat), ?_, ?_, ?_, ?_, ?_⟩, ?_, ?_, hlast⟩
    · dsimp only
      rw [hpiece (by omega), hpiece (by omega), hpiece (by omega), List.take_append_drop]
    · rw [List.length_take]
      omega
    · rw [List.length_drop, List.length_take]
      dsimp only
      omega
    · rw [List.length_drop, List.length_take, Nat.min_eq_left hstart, hpayload,
        Nat.add_sub_cancel_left]
    · rw [List.length_drop]
      dsimp only
      omega
    · exact ⟨first, by rw [← hdata]; rfl, hcount, hsome, hpadded⟩
    · rw [hcsrcEnd, ← hcount] at hwords
      exact hwords
  · cases hparse

/-! ## 2. What is written is read -/

theorem wordsBe_flatMap (words : List UInt32) (later : Bytes) :
    wordsBe words.length (words.flatMap u32ToBe ++ later) = words := by
  induction words with
  | nil => rfl
  | cons word words ih =>
    have hlength : (u32ToBe word).length = 4 := length_natToBe 4 _
    rw [List.flatMap_cons, List.append_assoc, List.length_cons, wordsBe,
      List.take_left' hlength, List.drop_left' hlength, ih, u32ToBe,
      beToNat_natToBe 4 word.toNat_lt, UInt32.ofNat_toNat]

theorem length_words (words : List UInt32) :
    (words.flatMap u32ToBe).length = words.length * 4 := by
  induction words with
  | nil => rfl
  | cons word words ih =>
    rw [List.flatMap_cons, List.length_append, ih, u32ToBe, length_natToBe, List.length_cons]
    omega

theorem parseCsrc_append {header : Bytes} (hheader : header.length = 12) (csrcList : List UInt32)
    (later : Bytes) :
    parseCsrc (header ++ (csrcList.flatMap u32ToBe ++ later)) csrcList.length =
      .ok (csrcList, 12 + csrcList.length * 4) := by
  have hfits : ¬ (header ++ (csrcList.flatMap u32ToBe ++ later)).length <
      12 + csrcList.length * 4 := by
    rw [List.length_append, List.length_append, length_words]
    omega
  simp only [parseCsrc]
  rw [if_neg hfits, List.drop_left' hheader, wordsBe_flatMap]

/-- The extensions whose words the length field counts. -/
def Counted (extension : Option HeaderExtension) : Prop :=
  ∀ found, extension = some found → found.data.length < 262144

theorem parseExtension_append {front : Bytes} {start : Nat} (hfront : front.length = start)
    {extension : Option HeaderExtension} (hcounted : Counted extension)
    (haligned : ∀ found, extension = some found → found.data.length % 4 = 0) (later : Bytes) :
    parseExtension (front ++ (extensionBytes extension ++ later)) extension.isSome start =
      .ok (extension, start + (extensionBytes extension).length) := by
  cases extension with
  | none => rfl
  | some extension =>
    have hsmall := hcounted extension rfl
    have hwhole := haligned extension rfl
    have hprofile : (u16ToBe extension.profile).length = 2 := length_natToBe 2 _
    have hwords : (UInt16.ofNat (extension.data.length / 4)).toNat = extension.data.length / 4 :=
      UInt16.toNat_ofNat_of_lt' (show extension.data.length / 4 < 65536 by omega)
    have hcount : (u16ToBe (UInt16.ofNat (extension.data.length / 4))).length = 2 :=
      length_natToBe 2 _
    have hread : ∀ word : UInt16, beToNat (u16ToBe word) = word.toNat :=
      fun word => beToNat_natToBe 2 word.toNat_lt
    have hdata : extension.data.length / 4 * 4 = extension.data.length := by omega
    generalize hwhole' : front ++ (extensionBytes (some extension) ++ later) = whole
    have hstart : whole.drop start = extensionBytes (some extension) ++ later := by
      rw [← hwhole', List.drop_left' hfront]
    have hlength : whole.length = start + (4 + extension.data.length + later.length) := by
      rw [← hwhole', extensionBytes]
      simp only [List.length_append, hfront, hprofile, hcount]
      omega
    have hafter : whole.drop (start + 2) =
        u16ToBe (UInt16.ofNat (extension.data.length / 4)) ++ (extension.data ++ later) := by
      rw [← List.drop_drop, hstart, extensionBytes, List.append_assoc, List.drop_left' hprofile,
        List.append_assoc]
    have hlast : whole.drop (start + 4) = extension.data ++ later := by
      rw [show start + 4 = start + 2 + 2 from rfl, ← List.drop_drop, hafter,
        List.drop_left' hcount]
    have htotal : (extensionBytes (some extension)).length = 4 + extension.data.length := by
      rw [extensionBytes, List.length_append, List.length_append, hprofile, hcount]
      omega
    have hheader : ¬ whole.length < start + 4 := by omega
    have hfits : ¬ whole.length < start + 4 + extension.data.length := by omega
    simp only [parseExtension, Option.isSome_some, if_true]
    rw [hafter, hstart, hlast, List.take_left' hcount, hread, hwords, hdata, extensionBytes,
      List.append_assoc, List.take_left' hprofile, hread, UInt16.ofNat_toNat,
      List.take_left' rfl, if_neg hheader, if_neg hfits, ← extensionBytes, htotal, Nat.add_assoc]

theorem parsePadding_append (paddingLen : UInt8) {front : Bytes} {start : Nat}
    (hstart : start ≤ front.length) :
    parsePadding (front ++ paddingBytes paddingLen) (paddingLen != 0) start = .ok paddingLen := by
  by_cases hzero : paddingLen = 0
  · subst hzero
    rfl
  · have hpos : paddingLen.toNat ≠ 0 := fun heq => hzero (UInt8.toNat_inj.mp heq)
    have hlast : (front ++ paddingBytes paddingLen).getLast? = some paddingLen := by
      rw [paddingBytes, if_pos hzero, ← List.append_assoc, List.getLast?_concat]
    have hlength : (front ++ paddingBytes paddingLen).length =
        front.length + paddingLen.toNat := by
      rw [paddingBytes, if_pos hzero, List.length_append, List.length_append,
        List.length_replicate, List.length_singleton]
      omega
    have hfits : ¬ (paddingLen = 0 ∨
        paddingLen.toNat > (front ++ paddingBytes paddingLen).length - start) := by
      rintro (heq | hlong)
      · exact hzero heq
      · omega
    rw [parsePadding, if_pos (bne_iff_ne.mpr hzero), hlast]
    exact if_neg hfits

theorem length_paddingBytes (paddingLen : UInt8) :
    (paddingBytes paddingLen).length = paddingLen.toNat := by
  rw [paddingBytes]
  split
  · next hzero =>
    have hpos : paddingLen.toNat ≠ 0 := fun heq => hzero (UInt8.toNat_inj.mp heq)
    rw [List.length_append, List.length_replicate, List.length_singleton]
    omega
  · next hzero =>
    rw [of_not_not hzero]
    rfl

theorem first_octet {version : UInt8} (hversion : version ≤ 3) (padded extended : Bool)
    {count : Nat} (hcount : count ≤ 15) :
    let octet := version <<< 6 ||| boolOctet padded <<< 5 ||| boolOctet extended <<< 4 |||
      UInt8.ofNat count
    octet >>> 6 = version ∧ (octet &&& 0x20 != 0) = padded ∧ (octet &&& 0x10 != 0) = extended ∧
      (octet &&& 0x0F).toNat = count := by
  have hall : ∀ version : Fin 4, ∀ padded extended : Bool, ∀ count : Fin 16,
      let octet := UInt8.ofNat version <<< 6 ||| boolOctet padded <<< 5 |||
        boolOctet extended <<< 4 ||| UInt8.ofNat count
      octet >>> 6 = UInt8.ofNat version ∧ (octet &&& 0x20 != 0) = padded ∧
        (octet &&& 0x10 != 0) = extended ∧ (octet &&& 0x0F).toNat = count := by
    decide
  have hsmall : version.toNat < 4 := Nat.lt_succ_of_le (UInt8.le_iff_toNat_le.mp hversion)
  have hoctet := hall ⟨version.toNat, hsmall⟩ padded extended ⟨count, Nat.lt_succ_of_le hcount⟩
  rw [UInt8.ofNat_toNat] at hoctet
  exact hoctet

theorem second_octet {payloadType : UInt8} (htype : payloadType ≤ 0x7F) (marker : Bool) :
    ((boolOctet marker <<< 7 ||| payloadType) &&& 0x80 != 0) = marker ∧
      (boolOctet marker <<< 7 ||| payloadType) &&& 0x7F = payloadType := by
  revert payloadType marker
  set_option maxRecDepth 30000 in decide

theorem toBytes_eq_ok {packet : MediaPacket} {bytes : Bytes} (hbytes : packet.toBytes = .ok bytes) :
    packet.csrcList.length ≤ 15 ∧ packet.payloadType ≤ 0x7F ∧ packet.version ≤ 3 ∧
      (∀ found, packet.extension = some found → found.data.length % 4 = 0) ∧
      bytes = (packet.version <<< 6 ||| boolOctet (packet.paddingLen != 0) <<< 5 |||
          boolOctet packet.extension.isSome <<< 4 ||| UInt8.ofNat packet.csrcList.length) ::
        (boolOctet packet.marker <<< 7 ||| packet.payloadType) ::
        (u16ToBe packet.sequenceNumber ++ u32ToBe packet.timestamp ++ u32ToBe packet.ssrc ++
          packet.csrcList.flatMap u32ToBe ++ extensionBytes packet.extension ++
          packet.payload ++ paddingBytes packet.paddingLen) := by
  rw [toBytes] at hbytes
  split at hbytes
  · cases hbytes
  · next hcount =>
    split at hbytes
    · cases hbytes
    · next hfields =>
      obtain ⟨htype, hversion⟩ := not_or.mp hfields
      split at hbytes
      · cases hbytes
      · next haligned =>
        cases hbytes
        refine ⟨Nat.le_of_not_lt hcount, UInt8.not_lt.mp htype, UInt8.not_lt.mp hversion, ?_, rfl⟩
        intro found hfound
        by_contra hword
        refine haligned ?_
        rw [hfound]
        exact decide_eq_true hword

theorem fromBytes_of_parts {first second s0 s1 t0 t1 t2 t3 r0 r1 r2 r3 : UInt8} {later : Bytes}
    {csrcList : List UInt32} {csrcEnd payloadStart : Nat} {extension : Option HeaderExtension}
    {paddingLen : UInt8} {data : Bytes}
    (hdata : data = first :: second :: s0 :: s1 :: t0 :: t1 :: t2 :: t3 :: r0 :: r1 :: r2 :: r3 ::
      later)
    (hcsrc : parseCsrc data (first &&& 0x0F).toNat = .ok (csrcList, csrcEnd))
    (hextension : parseExtension data (first &&& 0x10 != 0) csrcEnd =
      .ok (extension, payloadStart))
    (hpadding : parsePadding data (first &&& 0x20 != 0) payloadStart = .ok paddingLen) :
    fromBytes data = .ok
      { version := first >>> 6
        marker := second &&& 0x80 != 0
        payloadType := second &&& 0x7F
        sequenceNumber := UInt16.ofNat (beToNat [s0, s1])
        timestamp := UInt32.ofNat (beToNat [t0, t1, t2, t3])
        ssrc := UInt32.ofNat (beToNat [r0, r1, r2, r3])
        csrcList := csrcList
        extension := extension
        payload := (data.take (data.length - paddingLen.toNat)).drop payloadStart
        paddingLen := paddingLen } := by
  subst hdata
  simp only [fromBytes]
  rw [hcsrc]
  change (parseExtension _ _ csrcEnd).bind _ = _
  rw [hextension]
  change (parsePadding _ _ payloadStart).bind _ = _
  rw [hpadding]
  rfl

/-- A packet whose extension counts its words reads back. -/
theorem fromBytes_toBytes {packet : MediaPacket} {bytes : Bytes}
    (hbytes : packet.toBytes = .ok bytes) (hcounted : Counted packet.extension) :
    fromBytes bytes = .ok packet := by
  obtain ⟨hcount, htype, hversion, haligned, rfl⟩ := toBytes_eq_ok hbytes
  obtain ⟨hshift, hpadded, hextended, hcsrc⟩ :=
    first_octet hversion (packet.paddingLen != 0) packet.extension.isSome hcount
  obtain ⟨hmarker, hseven⟩ := second_octet htype packet.marker
  generalize packet.version <<< 6 ||| boolOctet (packet.paddingLen != 0) <<< 5 |||
    boolOctet packet.extension.isSome <<< 4 ||| UInt8.ofNat packet.csrcList.length = first
    at hshift hpadded hextended hcsrc ⊢
  generalize boolOctet packet.marker <<< 7 ||| packet.payloadType = second at hmarker hseven ⊢
  obtain ⟨s0, s1, hsequence⟩ := List.length_eq_two.mp
    (show (u16ToBe packet.sequenceNumber).length = 2 from length_natToBe 2 _)
  obtain ⟨t0, t1, t2, t3, htimestamp⟩ := List.length_eq_four.mp
    (show (u32ToBe packet.timestamp).length = 4 from length_natToBe 4 _)
  obtain ⟨r0, r1, r2, r3, hssrc⟩ := List.length_eq_four.mp
    (show (u32ToBe packet.ssrc).length = 4 from length_natToBe 4 _)
  have hsequenceNumber : UInt16.ofNat (beToNat [s0, s1]) = packet.sequenceNumber := by
    rw [← hsequence, u16ToBe, beToNat_natToBe 2 packet.sequenceNumber.toNat_lt, UInt16.ofNat_toNat]
  have htime : UInt32.ofNat (beToNat [t0, t1, t2, t3]) = packet.timestamp := by
    rw [← htimestamp, u32ToBe, beToNat_natToBe 4 packet.timestamp.toNat_lt, UInt32.ofNat_toNat]
  have hsource : UInt32.ofNat (beToNat [r0, r1, r2, r3]) = packet.ssrc := by
    rw [← hssrc, u32ToBe, beToNat_natToBe 4 packet.ssrc.toNat_lt, UInt32.ofNat_toNat]
  rw [hsequence, htimestamp, hssrc]
  -- the regions behind the header, each with what stands in front of it
  have hheader : [first, second, s0, s1, t0, t1, t2, t3, r0, r1, r2, r3].length = 12 := rfl
  generalize hfixed : [first, second, s0, s1, t0, t1, t2, t3, r0, r1, r2, r3] = header at hheader
  generalize hdata : first :: second :: ([s0, s1] ++ [t0, t1, t2, t3] ++ [r0, r1, r2, r3] ++
    packet.csrcList.flatMap u32ToBe ++ extensionBytes packet.extension ++ packet.payload ++
    paddingBytes packet.paddingLen) = data
  have hsplit : data = header ++ (packet.csrcList.flatMap u32ToBe ++
      (extensionBytes packet.extension ++ (packet.payload ++ paddingBytes packet.paddingLen))) := by
    rw [← hdata, ← hfixed]
    simp only [List.append_assoc, List.cons_append, List.nil_append]
  have hwhole : data = header ++ packet.csrcList.flatMap u32ToBe ++
      extensionBytes packet.extension ++ packet.payload ++ paddingBytes packet.paddingLen := by
    rw [hsplit]
    simp only [List.append_assoc]
  have hparsedCsrc : parseCsrc data (first &&& 0x0F).toNat =
      .ok (packet.csrcList, 12 + packet.csrcList.length * 4) := by
    rw [hsplit, hcsrc]
    exact parseCsrc_append hheader packet.csrcList _
  have hcsrcEnd : (header ++ packet.csrcList.flatMap u32ToBe).length =
      12 + packet.csrcList.length * 4 := by
    rw [List.length_append, hheader, length_words]
  have hparsedExtension := parseExtension_append hcsrcEnd hcounted haligned
    (packet.payload ++ paddingBytes packet.paddingLen)
  rw [List.append_assoc header, ← hsplit, ← hextended] at hparsedExtension
  have hpayloadStart : (header ++ packet.csrcList.flatMap u32ToBe ++
      extensionBytes packet.extension).length =
      12 + packet.csrcList.length * 4 + (extensionBytes packet.extension).length := by
    rw [List.length_append, hcsrcEnd]
  have hpayloadEnd : (header ++ packet.csrcList.flatMap u32ToBe ++
      extensionBytes packet.extension ++ packet.payload).length =
      data.length - packet.paddingLen.toNat := by
    have hlength := congrArg List.length hwhole
    rw [List.length_append, length_paddingBytes] at hlength
    omega
  have hparsedPadding := @parsePadding_append packet.paddingLen
    (header ++ packet.csrcList.flatMap u32ToBe ++ extensionBytes packet.extension ++
      packet.payload)
    (12 + packet.csrcList.length * 4 + (extensionBytes packet.extension).length) (by
      rw [List.length_append, hpayloadStart]
      exact Nat.le_add_right _ _)
  have hpayload : (data.take (data.length - packet.paddingLen.toNat)).drop
      (12 + packet.csrcList.length * 4 + (extensionBytes packet.extension).length) =
      packet.payload := by
    rw [← hpayloadEnd, hwhole, List.take_left' rfl, List.drop_left' hpayloadStart]
  rw [← hwhole, ← hpadded] at hparsedPadding
  rw [fromBytes_of_parts (hsplit.trans (congrArg (· ++ _) hfixed.symm)) hparsedCsrc
    hparsedExtension hparsedPadding,
    hshift, hmarker, hseven, hsequenceNumber, htime, hsource, hpayload]

/-! ## 3. The codec -/

/-- **The codec of packets.**  A packet that is written is read back, and whatever is accepted
    has its regions one behind the other, if and only if the header extension, if the packet has
    one, is of fewer than 262144 octets. -/
theorem rtp_codec_iff {packet : MediaPacket} {bytes : Bytes}
    (hbytes : packet.toBytes = .ok bytes) :
    (fromBytes bytes = .ok packet ∧
        ∀ data parsed, fromBytes data = .ok parsed → Regions data parsed) ↔
      Counted packet.extension := by
  constructor
  · rintro ⟨hread, -⟩ found hfound
    obtain ⟨words, hwords, -⟩ := (regions_of_fromBytes hread).words found hfound
    have hlt := words.toNat_lt
    omega
  · intro hcounted
    exact ⟨fromBytes_toBytes hbytes hcounted, fun _ _ hparse => regions_of_fromBytes hparse⟩

/-- Two contributing sources, an extension of one word and three octets of padding. -/
theorem extended_padded_read :
    (fromBytes [0xB2, 0x80, 0, 7, 0, 0, 0, 1, 0, 0, 0, 2, 0, 0, 0, 3, 0, 0, 0, 4, 0xBE, 0xDE, 0, 1,
        9, 9, 9, 9, 5, 6, 0, 0, 3] =
        .ok ⟨2, true, 0, 7, 1, 2, [3, 4], some ⟨0xBEDE, [9, 9, 9, 9]⟩, [5, 6], 3⟩ ∧
        ∀ data parsed, fromBytes data = .ok parsed → Regions data parsed) ↔
      Counted (some ⟨0xBEDE, [9, 9, 9, 9]⟩) :=
  @rtp_codec_iff ⟨2, true, 0, 7, 1, 2, [3, 4], some ⟨0xBEDE, [9, 9, 9, 9]⟩, [5, 6], 3⟩ _ rfl

theorem lost_of_length {octets : Bytes} (hlength : octets.length = 262144) :
    ∃ bytes, toBytes ⟨2, false, 0, 0, 0, 0, [], some ⟨0, octets⟩, [], 0⟩ = .ok bytes ∧
      fromBytes bytes ≠ .ok ⟨2, false, 0, 0, 0, 0, [], some ⟨0, octets⟩, [], 0⟩ := by
  have haligned : ¬ (decide (octets.length % 4 ≠ 0)) = true := by
    rw [hlength]
    decide
  have hcount : ¬ (0 : Nat) > 15 := by decide
  have hfields : ¬ ((0 : UInt8) > 0x7F ∨ (2 : UInt8) > 3) := by decide
  refine ⟨_, (if_neg hcount).trans ((if_neg hfields).trans (if_neg haligned)), ?_⟩
  intro hread
  obtain ⟨words, hwords, -⟩ := (regions_of_fromBytes hread).words _ rfl
  have hlt := words.toNat_lt
  dsimp only at hwords
  omega

/-- An extension of 65536 words, whose length is written as zero. -/
theorem long_extension_lost :
    ∃ packet bytes, toBytes packet = .ok bytes ∧ fromBytes bytes ≠ .ok packet :=
  ⟨_, lost_of_length (List.length_replicate (a := (0 : UInt8)))⟩

end Bumble.Rtp.MediaPacket
