import Bumble.AacCodecs
import Bumble.AacMedia

/-!
# The two ways to an AAC element

Both bit writers write the same bits, and octets are known from the bits that they hold; the
reader takes them back one field after the other.
-/

namespace Bumble.Codecs

/-! ## 1. What is read -/

namespace BitReader

variable {α β : Type}

/-- The reader takes exactly these bits, wherever they stand, and returns the value. -/
def Reads (reader : BitReader α) (bits : List Bool) (value : α) : Prop :=
  ∀ (data : Bytes) (before after : List Bool), bitsOf data = before ++ (bits ++ after) →
    reader data before.length = .ok (value, before.length + bits.length)

/-- The reader makes the value from the bits in front of the zeros of the last octet. -/
def Ends (reader : BitReader α) (bits : List Bool) (value : α) : Prop :=
  ∀ (data : Bytes) (before : List Bool) (zeros : Nat), zeros < 8 →
    bitsOf data = before ++ (bits ++ List.replicate zeros false) →
    ∃ position, reader data before.length = .ok (value, position)

theorem reads_pure (value : α) : Reads (pure value) [] value :=
  fun _ _ _ _ => rfl

theorem Reads.bind {first : BitReader α} {next : α → BitReader β} {bits later : List Bool}
    {value : α} {result : β} (hfirst : Reads first bits value)
    (hnext : Reads (next value) later result) : Reads (first >>= next) (bits ++ later) result := by
  intro data before after hdata
  rw [List.append_assoc] at hdata
  have htail := hnext data (before ++ bits) after (by rw [List.append_assoc]; exact hdata)
  rw [List.length_append] at htail
  rw [List.length_append, ← Nat.add_assoc, ← htail]
  change (first data before.length).bind _ = _
  rw [hfirst data before (later ++ after) hdata]
  rfl

theorem Reads.ends {first : BitReader α} {next : α → BitReader β} {bits later : List Bool}
    {value : α} {result : β} (hfirst : Reads first bits value)
    (hnext : Ends (next value) later result) : Ends (first >>= next) (bits ++ later) result := by
  intro data before zeros hzeros hdata
  rw [List.append_assoc] at hdata
  obtain ⟨position, htail⟩ := hnext data (before ++ bits) zeros hzeros
    (by rw [List.append_assoc]; exact hdata)
  rw [List.length_append] at htail
  refine ⟨position, ?_⟩
  change (first data before.length).bind _ = _
  rw [hfirst data before _ hdata]
  exact htail

theorem Reads.last {first : BitReader α} {next : α → BitReader β} {bits : List Bool} {value : α}
    {result : β} (hfirst : Reads first bits value) (hnext : Reads (next value) [] result) :
    Reads (first >>= next) bits result := by
  have hall := hfirst.bind hnext
  rwa [List.append_nil] at hall

theorem Reads.skip {first : BitReader α} {next : α → BitReader β} {bits : List Bool}
    {value : α} {result : β} (hfirst : Reads first [] value)
    (hnext : Reads (next value) bits result) : Reads (first >>= next) bits result :=
  hfirst.bind hnext

theorem Reads.skipEnds {first : BitReader α} {next : α → BitReader β} {bits : List Bool}
    {value : α} {result : β} (hfirst : Reads first [] value)
    (hnext : Ends (next value) bits result) : Ends (first >>= next) bits result :=
  hfirst.ends hnext

theorem Reads.lastEnds {first : BitReader α} {next : α → BitReader β} {bits : List Bool}
    {value : α} {result : β} (hfirst : Reads first bits value)
    (hnext : Ends (next value) [] result) : Ends (first >>= next) bits result := by
  have hall := hfirst.ends hnext
  rwa [List.append_nil] at hall

theorem bitAt_of_bits {data : Bytes} {before after : List Bool} {count value : Nat}
    (hdata : bitsOf data = before ++ (natBits count value ++ after)) {place : Nat}
    (hplace : place < count) :
    bitAt data (before.length + place) = value.testBit (count - 1 - place) := by
  have hlength := congrArg List.length hdata
  rw [length_bitsOf, List.length_append, List.length_append, length_natBits] at hlength
  have hget := getElem?_bitsOf data (show before.length + place < 8 * data.length by omega)
  rw [hdata, List.getElem?_append_right (Nat.le_add_right _ _), Nat.add_sub_cancel_left,
    List.getElem?_append_left (by rw [length_natBits]; exact hplace),
    getElem?_natBits count value hplace] at hget
  exact (Option.some.inj hget).symm

theorem toNat_shift_or {acc : UInt32} (hacc : acc.toNat < 2 ^ 31) (bit : Bool) :
    (acc <<< 1 ||| if bit then 1 else 0).toNat = 2 * acc.toNat + bit.toNat := by
  have hor := Nat.two_pow_add_eq_or_of_lt (show bit.toNat < 2 ^ 1 by cases bit <;> decide) acc.toNat
  have hshift : (acc <<< 1).toNat = 2 ^ 1 * acc.toNat := by
    rw [UInt32.toNat_shiftLeft]
    change acc.toNat <<< 1 % 2 ^ 32 = _
    rw [Nat.shiftLeft_eq]
    omega
  have hbit : (if bit then (1 : UInt32) else 0).toNat = bit.toNat := by cases bit <;> rfl
  rw [UInt32.toNat_or, hshift, hbit, ← hor]

theorem readLoop_eq (data : Bytes) (value : Nat) (hvalue : value < 2 ^ 32) (count : Nat) :
    ∀ {position : Nat} {acc : UInt32}, acc.toNat = value / 2 ^ count →
      (∀ place < count, bitAt data (position + place) = value.testBit (count - 1 - place)) →
      readLoop data count position acc = UInt32.ofNat value := by
  induction count with
  | zero =>
    intro position acc hacc hbits
    rw [Nat.pow_zero, Nat.div_one] at hacc
    rw [readLoop, ← hacc, UInt32.ofNat_toNat]
  | succ count ih =>
    intro position acc hacc hbits
    have hfirst := hbits 0 (Nat.succ_pos _)
    rw [Nat.add_zero, Nat.add_sub_cancel, Nat.sub_zero] at hfirst
    have hhalf : value / 2 ^ (count + 1) = value / 2 ^ count / 2 := by
      rw [Nat.pow_succ, Nat.div_div_eq_div_mul]
    have hsmall : value / 2 ^ count < 2 ^ 32 :=
      Nat.lt_of_le_of_lt (Nat.div_le_self _ _) hvalue
    have hbit : (value.testBit count).toNat = value / 2 ^ count % 2 := by
      rw [Nat.testBit_eq_decide_div_mod_eq]
      rcases Nat.mod_two_eq_zero_or_one (value / 2 ^ count) with hmod | hmod <;> rw [hmod] <;> rfl
    rw [readLoop]
    apply ih
    · rw [toNat_shift_or (by rw [hacc, hhalf]; omega), hfirst, hbit, hacc, hhalf]
      omega
    · intro place hplace
      rw [Nat.add_assoc, Nat.add_comm 1, hbits (place + 1) (Nat.succ_lt_succ hplace)]
      congr 1
      omega

theorem reads_read {count value : Nat} (hcount : count ≤ 32) (hvalue : value < 2 ^ count) :
    Reads (read count) (natBits count value) (UInt32.ofNat value) := by
  intro data before after hdata
  have hlength := congrArg List.length hdata
  rw [length_bitsOf, List.length_append, List.length_append, length_natBits] at hlength
  have hloop := @readLoop_eq data value
    (Nat.lt_of_lt_of_le hvalue (Nat.pow_le_pow_right (by decide) hcount)) count before.length 0
    (Nat.div_eq_of_lt hvalue).symm
    fun place hplace => bitAt_of_bits hdata hplace
  rw [read, if_neg (Nat.not_lt.mpr hcount), if_neg (by omega), hloop, length_natBits]

theorem reads_readU8 {count : Nat} {value : UInt8} (hcount : count ≤ 32)
    (hvalue : value.toNat < 2 ^ count) :
    Reads (readU8 count) (natBits count value.toNat) value := by
  have hlt : value.toNat < 2 ^ 32 := Nat.lt_trans value.toNat_lt (by decide)
  have hoctet : UInt8.ofNat (UInt32.ofNat value.toNat).toNat = value := by
    rw [UInt32.toNat_ofNat_of_lt' hlt, UInt8.ofNat_toNat]
  apply (reads_read hcount hvalue).last
  rw [hoctet]
  exact reads_pure value

theorem reads_readOctets (payload : Bytes) :
    Reads (readOctets payload.length) (bitsOf payload) payload := by
  induction payload with
  | nil => exact reads_pure []
  | cons octet payload ih =>
    rw [bitsOf_cons]
    apply (reads_readU8 (by decide) octet.toNat_lt).bind
    apply ih.last
    exact reads_pure (octet :: payload)

theorem reads_readBytes (payload : Bytes) :
    Reads (readBytes payload.length) (bitsOf payload) payload := by
  intro data before after hdata
  have hlength := congrArg List.length hdata
  rw [length_bitsOf, List.length_append, List.length_append, length_bitsOf] at hlength
  rw [readBytes, if_neg (by omega)]
  split
  · next haligned =>
    have hsplit := bitsOf_append (data.take (before.length / 8)) (data.drop (before.length / 8))
    rw [List.take_append_drop, hdata] at hsplit
    have hfront : before.length = (bitsOf (data.take (before.length / 8))).length := by
      rw [length_bitsOf, List.length_take]
      omega
    obtain ⟨-, hback⟩ := List.append_inj hsplit hfront
    have hagain := bitsOf_append ((data.drop (before.length / 8)).take payload.length)
      ((data.drop (before.length / 8)).drop payload.length)
    rw [List.take_append_drop, ← hback] at hagain
    have hcount : ((data.drop (before.length / 8)).take payload.length).length =
        payload.length := by
      rw [List.length_take, List.length_drop]
      omega
    obtain ⟨hpayload, -⟩ := List.append_inj hagain (by rw [length_bitsOf, length_bitsOf, hcount])
    rw [bytes_of_bits hcount hpayload.symm, length_bitsOf, Nat.mul_comm]
  · exact reads_readOctets payload data before after hdata

theorem alignLoop_ok {data : Bytes} (rounds : Nat) : ∀ {position : Nat},
    position ≤ data.length * 8 → data.length * 8 < position + 8 →
    ∃ last, alignLoop rounds data position = .ok ((), last) := by
  induction rounds with
  | zero =>
    intro position hle hlt
    exact ⟨position, rfl⟩
  | succ rounds ih =>
    intro position hle hlt
    by_cases haligned : position % 8 ≠ 0
    · obtain ⟨last, hlast⟩ := @ih (position + 1) (by omega) (by omega)
      refine ⟨last, ?_⟩
      have hread : read 1 data position = .ok (readLoop data 1 position 0, position + 1) := by
        rw [read, if_neg (by decide), if_neg (by omega)]
      change (if position % 8 ≠ 0 then (do
        let _ ← read 1
        alignLoop rounds : BitReader Unit) else pure ()) data position = _
      rw [if_pos haligned]
      change (read 1 data position).bind _ = _
      rw [hread]
      exact hlast
    · refine ⟨position, ?_⟩
      change (if position % 8 ≠ 0 then (do
        let _ ← read 1
        alignLoop rounds : BitReader Unit) else pure ()) data position = _
      rw [if_neg haligned]
      rfl

theorem ends_align (value : α) : Ends (do
    align
    pure value) [] value := by
  intro data before zeros hzeros hdata
  have hlength := congrArg List.length hdata
  rw [length_bitsOf, List.length_append, List.nil_append, List.length_replicate] at hlength
  obtain ⟨last, hlast⟩ := @alignLoop_ok data 7 before.length (by omega) (by omega)
  refine ⟨last, ?_⟩
  change (alignLoop 7 data before.length).bind _ = _
  rw [hlast]
  rfl

end BitReader

/-! ## 2. What is written -/

def BitWriter.Holds (writer : BitWriter) (bits : List Bool) : Prop :=
  HoldsBits writer.bytes writer.bitCount bits

theorem BitWriter.holds_writeBit {writer : BitWriter} {bits : List Bool}
    (hholds : writer.Holds bits) (bit : Bool) : (writer.writeBit bit).Holds (bits ++ [bit]) := by
  have hlength := HoldsBits.length hholds
  have hpush := HoldsBits.push hholds bit
  -- the last octet is the one at the position
  have hindex : (if writer.bitCount % 8 = 0 then writer.bytes ++ [0] else writer.bytes).length - 1 =
      writer.bitCount / 8 := by
    split
    · rw [List.length_append, List.length_singleton]
      omega
    · omega
  rw [Holds, writeBit]
  dsimp only
  rw [hindex]
  exact hpush

theorem BitWriter.holds_writeLoop (value : UInt32) (count : Nat) : ∀ {writer : BitWriter}
    {bits : List Bool}, writer.Holds bits →
    (writeLoop value count writer).Holds (bits ++ natBits count value.toNat) := by
  induction count with
  | zero =>
    intro writer bits hholds
    rw [natBits, List.append_nil]
    exact hholds
  | succ count ih =>
    intro writer bits hholds
    have hrest := ih (holds_writeBit hholds (value.toNat.testBit count))
    rw [List.append_assoc] at hrest
    exact hrest

namespace WriteBits

/-- The action writes these bits behind any others. -/
def Emits (action : WriteBits Unit) (bits : List Bool) : Prop :=
  ∀ (writer : BitWriter) (before : List Bool), writer.Holds before →
    ∃ after, action writer = .ok ((), after) ∧ after.Holds (before ++ bits)

theorem emits_pure : Emits (pure ()) [] := by
  intro writer before hholds
  exact ⟨writer, rfl, by rw [List.append_nil]; exact hholds⟩

theorem Emits.bind {first next : WriteBits Unit} {bits later : List Bool}
    (hfirst : Emits first bits) (hnext : Emits next later) :
    Emits (first >>= fun _ => next) (bits ++ later) := by
  intro writer before hholds
  obtain ⟨middle, hmiddle, hholds⟩ := hfirst writer before hholds
  obtain ⟨after, hafter, hholds⟩ := hnext middle (before ++ bits) hholds
  refine ⟨after, ?_, by rw [← List.append_assoc]; exact hholds⟩
  change (first writer).bind _ = _
  rw [hmiddle]
  exact hafter

theorem emits_write {value : UInt32} {count : Nat} (hcount : count ≤ 32)
    (hvalue : value.toNat < 2 ^ count) : Emits (write value count) (natBits count value.toNat) := by
  intro writer before hholds
  refine ⟨_, ?_, BitWriter.holds_writeLoop value count hholds⟩
  rw [write, if_neg (Nat.not_lt.mpr hcount), if_neg (by omega)]

theorem emits_writeBytes (payload : Bytes) : Emits (writeBytes payload) (bitsOf payload) := by
  induction payload with
  | nil => exact emits_pure
  | cons octet payload ih =>
    have hoctet : octet.toUInt32.toNat = octet.toNat := UInt8.toNat_toUInt32 octet
    have hwrite := @emits_write octet.toUInt32 8 (by decide) (by rw [hoctet]; exact octet.toNat_lt)
    rw [hoctet] at hwrite
    rw [bitsOf_cons]
    exact hwrite.bind ih

end WriteBits

/-! ## 3. The bits of a simple element -/

/-- The size of a payload: octets of 255 and a smaller one. -/
def slotLengthBits (length : Nat) : List Bool :=
  if length > 255 then natBits 8 255 ++ slotLengthBits (length - 255)
  else natBits 8 length ++ if length = 255 then natBits 8 0 else []
termination_by length

def decoderBits (index channels : Nat) : List Bool :=
  natBits 5 2 ++ (natBits 4 index ++ (natBits 4 channels ++
    (natBits 1 0 ++ (natBits 1 0 ++ natBits 1 0))))

/-- The configuration of a stream of one program, one layer and no other data. -/
def streamBits (index channels : Nat) : List Bool :=
  natBits 1 0 ++ (natBits 1 1 ++ (natBits 6 0 ++ (natBits 4 0 ++ (natBits 3 0 ++
    (decoderBits index channels ++
      (natBits 3 0 ++ (natBits 8 0 ++ (natBits 1 0 ++ natBits 1 0))))))))

def latmBits (index channels : Nat) (payload : Bytes) : List Bool :=
  natBits 1 0 ++ (streamBits index channels ++ (slotLengthBits payload.length ++ bitsOf payload))

open WriteBits in
theorem emits_writeSlotLength (length : Nat) :
    Emits (AudioMuxElement.writeSlotLength length) (slotLengthBits length) := by
  induction length using Nat.strong_induction_on with
  | _ length ih =>
    rw [AudioMuxElement.writeSlotLength, slotLengthBits]
    split
    · next hlarge =>
      exact (@emits_write 255 8 (by decide) (by decide)).bind (ih (length - 255) (by omega))
    · next hsmall =>
      have hlength : (UInt32.ofNat length).toNat = length :=
        UInt32.toNat_ofNat_of_lt' (Nat.lt_of_le_of_lt (Nat.le_of_not_lt hsmall) (by decide))
      have hwrite := @emits_write (UInt32.ofNat length) 8 (by decide) (by rw [hlength]; omega)
      rw [hlength] at hwrite
      apply hwrite.bind
      split
      · exact emits_write (by decide) (by decide)
      · exact emits_pure

def simpleConfig (index : UInt8) (frequency : UInt32) (channels : UInt8) : AudioSpecificConfig where
  audioObjectType := 2
  samplingFrequencyIndex := index
  samplingFrequency := frequency
  channelConfiguration := channels
  gaSpecificConfig := ⟨2⟩
  sbrPresentFlag := false
  psPresentFlag := false
  extensionAudioObjectType := 0
  extensionSamplingFrequencyIndex := 0
  extensionSamplingFrequency := 0
  extensionChannelConfiguration := 0

/-- An index of the table with its frequency, and one to seven channels. -/
structure Simple (index : UInt8) (frequency : UInt32) (channels : UInt8) : Prop where
  known : index.toNat < 13
  listed : AudioSpecificConfig.samplingFrequencies[index.toNat]? = some frequency
  counted : 1 ≤ channels.toNat ∧ channels.toNat ≤ 7

variable {index : UInt8} {frequency : UInt32} {channels : UInt8}

open WriteBits in
theorem emits_config (hsimple : Simple index frequency channels) :
    Emits (simpleConfig index frequency channels).toBits
      (decoderBits index.toNat channels.toNat) := by
  have hindex : index.toUInt32.toNat = index.toNat := UInt8.toNat_toUInt32 _
  have hchannels : channels.toUInt32.toNat = channels.toNat := UInt8.toNat_toUInt32 _
  have hsmall : ¬ (simpleConfig index frequency channels).samplingFrequencyIndex ≥ 15 := by
    have hbound := hsimple.known
    intro hge
    have hle : 15 ≤ index.toNat := UInt8.le_iff_toNat_le.mp hge
    omega
  have hsecond := @emits_write index.toUInt32 4 (by decide)
    (by rw [hindex]; exact Nat.lt_trans hsimple.known (by decide))
  have hthird := @emits_write channels.toUInt32 4 (by decide)
    (by rw [hchannels]; exact Nat.lt_of_le_of_lt hsimple.counted.2 (by decide))
  rw [hindex] at hsecond
  rw [hchannels] at hthird
  rw [AudioSpecificConfig.toBits, if_neg hsmall, if_neg fun hother => hother.2 rfl]
  apply (@emits_write 2 5 (by decide) (by decide)).bind
  apply hsecond.bind
  apply hthird.bind
  rw [GaSpecificConfig.toBits, if_neg fun hother => hother.2 rfl]
  apply (@emits_write 0 1 (by decide) (by decide)).bind
  apply (@emits_write 0 1 (by decide) (by decide)).bind
  exact @emits_write 0 1 (by decide) (by decide)

open WriteBits in
theorem emits_element (hsimple : Simple index frequency channels) (payload : Bytes) :
    Emits (AudioMuxElement.toBits ⟨⟨false, 0, simpleConfig index frequency channels⟩, payload⟩)
      (latmBits index.toNat channels.toNat payload) := by
  apply (@emits_write 0 1 (by decide) (by decide)).bind
  apply Emits.bind
  · apply (@emits_write 0 1 (by decide) (by decide)).bind
    apply (@emits_write 1 1 (by decide) (by decide)).bind
    apply (@emits_write 0 6 (by decide) (by decide)).bind
    apply (@emits_write 0 4 (by decide) (by decide)).bind
    apply (@emits_write 0 3 (by decide) (by decide)).bind
    apply (emits_config hsimple).bind
    apply (@emits_write 0 3 (by decide) (by decide)).bind
    apply (@emits_write 0 8 (by decide) (by decide)).bind
    apply (@emits_write 0 1 (by decide) (by decide)).bind
    exact @emits_write 0 1 (by decide) (by decide)
  · exact (emits_writeSlotLength payload.length).bind (emits_writeBytes payload)

/-! ## 4. The simple element is read again -/

open BitReader in
theorem reads_slotLength (length : Nat) : ∀ {rounds acc : Nat},
    (slotLengthBits length).length ≤ 8 * rounds →
    Reads (AudioMuxElement.slotLengthLoop rounds acc) (slotLengthBits length) (acc + length) := by
  induction length using Nat.strong_induction_on with
  | _ length ih =>
    intro rounds acc hrounds
    rw [slotLengthBits] at hrounds ⊢
    split at hrounds
    · next hlarge =>
      rw [List.length_append, length_natBits] at hrounds
      obtain ⟨rounds, rfl⟩ : ∃ more, rounds = more + 1 := ⟨rounds - 1, by omega⟩
      have hlater := @ih (length - 255) (by omega) rounds (acc + 255) (by omega)
      rw [show acc + 255 + (length - 255) = acc + length by omega] at hlater
      rw [AudioMuxElement.slotLengthLoop, if_pos hlarge]
      apply (@reads_read 8 255 (by decide) (by decide)).bind
      exact hlater
    · next hsmall =>
      rw [List.length_append, length_natBits] at hrounds
      obtain ⟨rounds, rfl⟩ : ∃ more, rounds = more + 1 := ⟨rounds - 1, by omega⟩
      rw [AudioMuxElement.slotLengthLoop, if_neg hsmall]
      apply (@reads_read 8 length (by decide) (by omega)).bind
      split at hrounds
      · next hfull =>
        subst hfull
        rw [length_natBits] at hrounds
        obtain ⟨rounds, rfl⟩ : ∃ more, rounds = more + 1 := ⟨rounds - 1, by omega⟩
        rw [if_pos rfl, if_neg (by decide), AudioMuxElement.slotLengthLoop]
        apply (@reads_read 8 0 (by decide) (by decide)).last
        rw [if_pos (by decide)]
        exact reads_pure (acc + 255 + 0)
      · next hrest =>
        have hvalue : (UInt32.ofNat length).toNat = length :=
          UInt32.toNat_ofNat_of_lt' (Nat.lt_of_le_of_lt (Nat.le_of_not_lt hsmall) (by decide))
        have hother : UInt32.ofNat length ≠ 255 := by
          intro hsame
          rw [hsame] at hvalue
          exact hrest hvalue.symm
        rw [if_neg hrest, if_pos hother, hvalue]
        exact reads_pure (acc + length)

open BitReader in
theorem reads_readSlotLength (length : Nat) :
    Reads AudioMuxElement.readSlotLength (slotLengthBits length) length := by
  intro data before after hdata
  have hlength := congrArg List.length hdata
  rw [length_bitsOf, List.length_append, List.length_append] at hlength
  have hloop := @reads_slotLength length (data.length + 1) 0 (by omega) data before after hdata
  rw [Nat.zero_add] at hloop
  exact hloop

open BitReader in
theorem reads_gaConfig (hchannels : channels ≠ 0) :
    Reads (GaSpecificConfig.fromBits channels 2)
      (natBits 1 0 ++ (natBits 1 0 ++ natBits 1 0)) ⟨2⟩ := by
  have haccept : Reads (rejectIf (channels = 0) (.unsupported "program_config_element")) [] () := by
    rw [rejectIf, decide_eq_false hchannels]
    exact reads_pure ()
  apply (@reads_read 1 0 (by decide) (by decide)).bind
  apply (@reads_read 1 0 (by decide) (by decide)).bind
  apply (reads_pure ()).skip
  apply (@reads_read 1 0 (by decide) (by decide)).last
  apply haccept.skip
  exact reads_pure _

open BitReader in
theorem reads_config (hsimple : Simple index frequency channels) :
    Reads AudioSpecificConfig.fromBits (decoderBits index.toNat channels.toNat)
      (simpleConfig index frequency channels) := by
  have hindex : index ≠ 0x0F := by
    rintro rfl
    exact absurd hsimple.known (by decide)
  have hchannels : channels ≠ 0 := by
    rintro rfl
    exact absurd hsimple.counted.1 (by decide)
  have hfrequency : Reads (AudioSpecificConfig.readSamplingFrequency index) [] frequency := by
    rw [AudioSpecificConfig.readSamplingFrequency, if_neg hindex, hsimple.listed]
    exact reads_pure _
  have hobject : Reads AudioSpecificConfig.readAudioObjectType (natBits 5 2) 2 := by
    apply (@reads_readU8 5 2 (by decide) (by decide)).last
    exact reads_pure 2
  have hplain : Reads (AudioSpecificConfig.readExtension 2) [] ⟨2, false, false, 0, 0, 0, 0⟩ :=
    reads_pure _
  have hsupported : Reads (rejectIf ((2 : UInt8) ∉ AudioSpecificConfig.supportedObjectTypes)
      (.unsupported "audio object type")) [] () := reads_pure ()
  apply hobject.bind
  apply (@reads_readU8 4 index (by decide) (Nat.lt_trans hsimple.known (by decide))).bind
  apply hfrequency.skip
  apply (@reads_readU8 4 channels (by decide)
    (Nat.lt_of_le_of_lt hsimple.counted.2 (by decide))).bind
  apply hplain.skip
  apply hsupported.skip
  apply (reads_gaConfig hchannels).last
  exact reads_pure _

open BitReader in
theorem reads_stream (hsimple : Simple index frequency channels) :
    Reads StreamMuxConfig.fromBits (streamBits index.toNat channels.toNat)
      ⟨false, 0, simpleConfig index frequency channels⟩ := by
  have hframe : Reads StreamMuxConfig.readFrameLengthType (natBits 3 0 ++ natBits 8 0) () := by
    apply (@reads_read 3 0 (by decide) (by decide)).bind
    apply (@reads_read 8 0 (by decide) (by decide)).last
    exact reads_pure ()
  have hconfig := reads_config hsimple
  apply (@reads_read 1 0 (by decide) (by decide)).bind
  apply (reads_pure ()).skip
  apply (@reads_read 1 1 (by decide) (by decide)).bind
  apply (@reads_read 6 0 (by decide) (by decide)).bind
  apply (@reads_read 4 0 (by decide) (by decide)).bind
  apply (reads_pure ()).skip
  apply (@reads_read 3 0 (by decide) (by decide)).bind
  apply (reads_pure ()).skip
  apply hconfig.bind
  rw [← List.append_assoc]
  apply hframe.bind
  apply (@reads_read 1 0 (by decide) (by decide)).bind
  apply (reads_pure 0).skip
  apply (@reads_read 1 0 (by decide) (by decide)).last
  apply (reads_pure ()).skip
  exact reads_pure _

open BitReader in
theorem ends_element (hsimple : Simple index frequency channels) (payload : Bytes) :
    Ends AudioMuxElement.fromBits (latmBits index.toNat channels.toNat payload)
      ⟨⟨false, 0, simpleConfig index frequency channels⟩, payload⟩ := by
  apply (@reads_read 1 0 (by decide) (by decide)).ends
  apply (reads_pure ()).skipEnds
  apply (reads_stream hsimple).ends
  apply (reads_readSlotLength payload.length).ends
  apply (reads_readBytes payload).lastEnds
  exact ends_align _

end Bumble.Codecs

/-! ## 5. The other writer -/

namespace Bumble.A2dp

open Codecs (slotLengthBits latmBits decoderBits streamBits)

namespace BitWriter

def Holds (writer : BitWriter) (bits : List Bool) : Prop :=
  HoldsBits writer.bytes writer.bitLen bits

theorem holds_write (value : UInt32) (count : Nat) : ∀ {writer : BitWriter} {bits : List Bool},
    writer.Holds bits → (writer.write value count).Holds (bits ++ natBits count value.toNat) := by
  induction count with
  | zero =>
    intro writer bits hholds
    rw [natBits, List.append_nil]
    exact hholds
  | succ count ih =>
    intro writer bits hholds
    have hpush : (writer.writeBit (value.toNat.testBit count)).Holds _ :=
      HoldsBits.push hholds (value.toNat.testBit count)
    have hrest := ih hpush
    rw [List.append_assoc] at hrest
    exact hrest

theorem holds_writeBytes (payload : Bytes) : ∀ {writer : BitWriter} {bits : List Bool},
    writer.Holds bits → (writer.writeBytes payload).Holds (bits ++ bitsOf payload) := by
  induction payload with
  | nil =>
    intro writer bits hholds
    rw [bitsOf, List.flatMap_nil, List.append_nil]
    exact hholds
  | cons octet payload ih =>
    intro writer bits hholds
    have hoctet := holds_write octet.toUInt32 8 hholds
    rw [UInt8.toNat_toUInt32] at hoctet
    have hrest := ih hoctet
    rw [List.append_assoc, ← bitsOf_cons] at hrest
    exact hrest

theorem holds_writeLength (length : Nat) : ∀ {writer : BitWriter} {bits : List Bool},
    writer.Holds bits → (writer.writeLength length).Holds (bits ++ slotLengthBits length) := by
  induction length using Nat.strong_induction_on with
  | _ length ih =>
    intro writer bits hholds
    rw [writeLength, slotLengthBits]
    split
    · next hlarge =>
      have hrest := ih (length - 255) (by omega) (holds_write 255 8 hholds)
      rw [List.append_assoc] at hrest
      exact hrest
    · next hsmall =>
      have hlength : (UInt32.ofNat length).toNat = length :=
        UInt32.toNat_ofNat_of_lt' (Nat.lt_of_le_of_lt (Nat.le_of_not_lt hsmall) (by decide))
      have hwrite := holds_write (UInt32.ofNat length) 8 hholds
      rw [hlength] at hwrite
      rw [← List.append_assoc]
      dsimp only
      split
      · exact holds_write 0 8 hwrite
      · rw [List.append_nil]
        exact hwrite

end BitWriter

theorem simpleAacLatm_holds {frame : AacFrame} {index : Nat}
    (hindex : adtsAacSamplingFrequencies.idxOf? frame.samplingFrequency = some index)
    (hsmall : index < 2 ^ 32) :
    ∃ writer : BitWriter, simpleAacLatm frame = .ok writer.bytes ∧
      writer.Holds (latmBits index frame.channelConfiguration.toNat frame.payload) := by
  refine ⟨_, by rw [simpleAacLatm, hindex], ?_⟩
  have hvalue : (UInt32.ofNat index).toNat = index := UInt32.toNat_ofNat_of_lt' hsmall
  have hchannels : frame.channelConfiguration.toUInt32.toNat = frame.channelConfiguration.toNat :=
    UInt8.toNat_toUInt32 _
  have hall : BitWriter.new.Holds [] := holdsBits_nil
  have hall := BitWriter.holds_write 0 1 hall
  have hall := BitWriter.holds_write 0 1 hall
  have hall := BitWriter.holds_write 1 1 hall
  have hall := BitWriter.holds_write 0 6 hall
  have hall := BitWriter.holds_write 0 4 hall
  have hall := BitWriter.holds_write 0 3 hall
  have hall := BitWriter.holds_write 2 5 hall
  have hall := BitWriter.holds_write (UInt32.ofNat index) 4 hall
  have hall := BitWriter.holds_write frame.channelConfiguration.toUInt32 4 hall
  have hall := BitWriter.holds_write 0 1 hall
  have hall := BitWriter.holds_write 0 1 hall
  have hall := BitWriter.holds_write 0 1 hall
  have hall := BitWriter.holds_write 0 3 hall
  have hall := BitWriter.holds_write 0 8 hall
  have hall := BitWriter.holds_write 0 1 hall
  have hall := BitWriter.holds_write 0 1 hall
  have hall := BitWriter.holds_writeBytes frame.payload
    (BitWriter.holds_writeLength frame.payload.length hall)
  rw [hvalue, hchannels] at hall
  simp only [List.append_assoc, List.nil_append] at hall
  simp only [latmBits, streamBits, decoderBits, List.append_assoc]
  exact hall

/-! ## 6. ADTS -/

/-- The third and the fourth octet of an ADTS header. -/
def adtsFlags (index channels : UInt8) : UInt8 := (0x40 : UInt8) ||| index <<< 2 ||| channels >>> 2

def adtsHigh (channels : UInt8) (high : Nat) : UInt8 := (channels &&& 3) <<< 6 ||| UInt8.ofNat high

theorem adts_fields {index channels : UInt8} (hindex : index.toNat < 13)
    (hchannels : channels.toNat < 8) {high : Nat} (hhigh : high < 4) :
    adtsFlags index channels >>> 2 &&& 0x0F = index ∧
      (adtsFlags index channels &&& 1) <<< 2 ||| adtsHigh channels high >>> 6 = channels ∧
      adtsHigh channels high &&& 3 = UInt8.ofNat high := by
  have hall : ∀ index : Fin 13, ∀ channels : Fin 8, ∀ high : Fin 4,
      adtsFlags (UInt8.ofNat index) (UInt8.ofNat channels) >>> 2 &&& 0x0F = UInt8.ofNat index ∧
      (adtsFlags (UInt8.ofNat index) (UInt8.ofNat channels) &&& 1) <<< 2 |||
        adtsHigh (UInt8.ofNat channels) high >>> 6 = UInt8.ofNat channels ∧
      adtsHigh (UInt8.ofNat channels) high &&& 3 = UInt8.ofNat high := by
    decide
  have hone := hall ⟨index.toNat, hindex⟩ ⟨channels.toNat, hchannels⟩ ⟨high, hhigh⟩
  rwa [UInt8.ofNat_toNat, UInt8.ofNat_toNat] at hone

theorem adts_low {low : Nat} (hlow : low < 8) :
    (UInt8.ofNat (low * 32) ||| 0x1F) >>> 5 = UInt8.ofNat low := by
  have hall : ∀ low : Fin 8, (UInt8.ofNat (low.val * 32) ||| 0x1F) >>> 5 = UInt8.ofNat low.val := by
    decide
  exact hall ⟨low, hlow⟩

theorem or_parts (high : Nat) {middle low : Nat} (hmiddle : middle < 256) (hlow : low < 8) :
    high * 2048 ||| middle * 8 ||| low = high * 2048 + middle * 8 + low := by
  have hfirst := Nat.two_pow_add_eq_or_of_lt (show middle * 8 < 2 ^ 11 by omega) high
  have hsecond := Nat.two_pow_add_eq_or_of_lt (show low < 2 ^ 3 by omega) (high * 256 + middle)
  rw [show high * 2048 = 2 ^ 11 * high by omega, ← hfirst,
    show 2 ^ 11 * high + middle * 8 = 2 ^ 3 * (high * 256 + middle) by omega, ← hsecond]

theorem frameLength_eq {size : Nat} (hsize : size ≤ 0x1FFF) {first third : UInt8}
    (hfirst : first &&& 3 = UInt8.ofNat (size / 2048))
    (hthird : third >>> 5 = UInt8.ofNat (size % 8)) :
    AacFrame.frameLength first (UInt8.ofNat (size / 8 % 256)) third = size := by
  rw [AacFrame.frameLength, hfirst, hthird, UInt8.toNat_ofNat', UInt8.toNat_ofNat',
    UInt8.toNat_ofNat', or_parts _ (by omega) (by omega)]
  omega

theorem fromBits_flags {index channels : UInt8} (hindex : index.toNat < 13)
    (hchannels : channels.toNat < 8) :
    AacProfile.fromBits (adtsFlags index channels >>> 6) = .lowComplexity := by
  have hall : ∀ index : Fin 13, ∀ channels : Fin 8,
      AacProfile.fromBits (adtsFlags (UInt8.ofNat index) (UInt8.ofNat channels) >>> 6) =
        .lowComplexity := by
    decide
  have hone := hall ⟨index.toNat, hindex⟩ ⟨channels.toNat, hchannels⟩
  rwa [UInt8.ofNat_toNat, UInt8.ofNat_toNat] at hone

theorem listed_frequency {index : UInt8} {frequency : UInt32} (hindex : index.toNat < 13)
    (hlisted : Codecs.AudioSpecificConfig.samplingFrequencies[index.toNat]? = some frequency) :
    adtsAacSamplingFrequencies.getD index.toNat 0 = frequency ∧ frequency ≠ 0 := by
  have hall : ∀ index : Fin 13, adtsAacSamplingFrequencies.getD index 0 =
      Codecs.AudioSpecificConfig.samplingFrequencies.getD index 0 ∧
      Codecs.AudioSpecificConfig.samplingFrequencies.getD index 0 ≠ 0 := by
    decide
  have hone := hall ⟨index.toNat, hindex⟩
  have hvalue : Codecs.AudioSpecificConfig.samplingFrequencies.getD index.toNat 0 = frequency := by
    rw [List.getD_eq_getElem?_getD, hlisted]
    rfl
  dsimp only at hone
  rwa [hvalue] at hone

theorem frequency_index {frequency : UInt32} (hfrequency : frequency ∈ adtsAacSamplingFrequencies)
    (hreal : frequency ≠ 0) :
    ∃ index < 13, Codecs.AudioSpecificConfig.samplingFrequencies[index]? = some frequency ∧
      Codecs.AudioSpecificConfig.samplingFrequencies.idxOf? frequency = some index ∧
      adtsAacSamplingFrequencies.idxOf? frequency = some index := by
  have hall : ∀ index : Fin 13,
      Codecs.AudioSpecificConfig.samplingFrequencies[index.val]? =
        some (adtsAacSamplingFrequencies.getD index 0) ∧
      Codecs.AudioSpecificConfig.samplingFrequencies.idxOf?
        (adtsAacSamplingFrequencies.getD index 0) = some index.val ∧
      adtsAacSamplingFrequencies.idxOf? (adtsAacSamplingFrequencies.getD index 0) =
        some index.val := by
    decide
  obtain ⟨index, hindex, rfl⟩ := List.getElem_of_mem hfrequency
  have hvalue : adtsAacSamplingFrequencies.getD index 0 = adtsAacSamplingFrequencies[index] :=
    (List.getElem_eq_getD 0).symm
  by_cases hsmall : index < 13
  · have hone := hall ⟨index, hsmall⟩
    dsimp only at hone
    rw [hvalue] at hone
    exact ⟨index, hsmall, hone⟩
  · have hreserved : ∀ index : Fin 16, ¬ index.val < 13 →
        adtsAacSamplingFrequencies.getD index 0 = 0 := by
      decide
    exact absurd (hvalue.symm.trans (hreserved ⟨index, hindex⟩ hsmall)) hreal

open Codecs in
theorem parse_toAdts {index channels : UInt8} {frequency : UInt32}
    (hsimple : Simple index frequency channels) {payload : Bytes}
    (hpayload : payload.length ≤ 8184) :
    ∃ adts, AacAudioRtpPacket.toAdts
      ⟨⟨⟨false, 0, simpleConfig index frequency channels⟩, payload⟩⟩ =
        .ok adts ∧
      AacFrame.parse adts = .ok (⟨.lowComplexity, frequency, channels, payload⟩, adts.length) := by
  have hchannels : channels.toNat < 8 := Nat.lt_of_le_of_lt hsimple.counted.2 (by decide)
  have hhigh : (payload.length + 7) / 2048 < 4 := by omega
  obtain ⟨hindex, hcount, hlength⟩ := adts_fields hsimple.known hchannels hhigh
  have hthird : (UInt8.ofNat ((payload.length + 7) * 32 % 256) ||| 0x1F) >>> 5 =
      UInt8.ofNat ((payload.length + 7) % 8) := by
    rw [show (payload.length + 7) * 32 % 256 = (payload.length + 7) % 8 * 32 by omega]
    exact adts_low (Nat.mod_lt _ (by decide))
  have hsize := frameLength_eq (show payload.length + 7 ≤ 0x1FFF by omega) hlength hthird
  refine ⟨[0xFF, 0xF1, adtsFlags index channels, adtsHigh channels ((payload.length + 7) / 2048),
    UInt8.ofNat ((payload.length + 7) / 8 % 256),
    UInt8.ofNat ((payload.length + 7) * 32 % 256) ||| 0x1F, 0xFC] ++ payload, ?_, ?_⟩
  · rw [AacAudioRtpPacket.toAdts]
    exact if_neg (show ¬ payload.length + 7 > 0x1FFF by omega)
  · have hdata : ([0xFF, 0xF1, adtsFlags index channels,
        adtsHigh channels ((payload.length + 7) / 2048),
        UInt8.ofNat ((payload.length + 7) / 8 % 256),
        UInt8.ofNat ((payload.length + 7) * 32 % 256) ||| 0x1F, 0xFC] ++ payload).length =
        payload.length + 7 := by
      rw [List.length_append, Nat.add_comm]
      rfl
    obtain ⟨hlisted, hreal⟩ := listed_frequency hsimple.known hsimple.listed
    rw [AacFrame.parse.eq_def]
    simp only [List.cons_append, List.nil_append] at hdata ⊢
    rw [if_neg (by decide), if_neg (by decide), hindex, hlisted, if_neg hreal, hsize, hcount,
      fromBits_flags hsimple.known hchannels, if_neg (by omega), if_neg (by omega),
      List.take_of_length_le (le_of_eq hdata), hdata]
    rfl

open Codecs in
/-- **The ways to an AAC element agree.**  For every access unit, sampling frequency of the table
    and one to seven channels the two writers write the same octets, which are read as the same
    configuration and access unit; and if these fit an ADTS frame, that is parsed as them too. -/
theorem aac_paths_agree (frame : AacFrame)
    (hfrequency : frame.samplingFrequency ∈ adtsAacSamplingFrequencies)
    (hreal : frame.samplingFrequency ≠ 0)
    (hchannels : 1 ≤ frame.channelConfiguration ∧ frame.channelConfiguration ≤ 7) :
    ∃ packet bytes,
      AacAudioRtpPacket.forSimpleAac frame.samplingFrequency frame.channelConfiguration
        frame.payload = .ok packet ∧
      packet.toBytes = .ok bytes ∧ simpleAacLatm frame = .ok bytes ∧
      AacAudioRtpPacket.fromBytes bytes = .ok packet ∧
      (frame.payload.length ≤ 8184 → ∃ adts parsed, packet.toAdts = .ok adts ∧
        AacFrame.parse adts = .ok (parsed, adts.length) ∧ parsed.payload = frame.payload ∧
        parsed.samplingFrequency = frame.samplingFrequency ∧
        parsed.channelConfiguration = frame.channelConfiguration) := by
  obtain ⟨index, hsmall, hlisted, hfirst, hsecond⟩ := frequency_index hfrequency hreal
  have hindex : (UInt8.ofNat index).toNat = index :=
    UInt8.toNat_ofNat_of_lt' (Nat.lt_trans hsmall (by decide))
  have hsimple : Simple (UInt8.ofNat index) frame.samplingFrequency frame.channelConfiguration := by
    refine ⟨by rw [hindex]; exact hsmall, by rw [hindex]; exact hlisted, ?_, ?_⟩
    · exact UInt8.le_iff_toNat_le.mp hchannels.1
    · exact UInt8.le_iff_toNat_le.mp hchannels.2
  obtain ⟨writer, hwritten, hholds⟩ := emits_element hsimple frame.payload Codecs.BitWriter.new []
    holdsBits_nil
  obtain ⟨other, hother, hotherHolds⟩ := simpleAacLatm_holds hsecond
    (Nat.lt_trans hsmall (by decide))
  rw [hindex, List.nil_append] at hholds
  have hsame : writer.bytes = other.bytes := HoldsBits.unique hholds hotherHolds
  refine ⟨⟨⟨⟨false, 0, simpleConfig (UInt8.ofNat index) frame.samplingFrequency
    frame.channelConfiguration⟩, frame.payload⟩⟩, writer.bytes, ?_, ?_, ?_, ?_, ?_⟩
  · rw [AacAudioRtpPacket.forSimpleAac, AudioSpecificConfig.forSimpleAac, hfirst]
    rfl
  · rw [AacAudioRtpPacket.toBytes]
    change (AudioMuxElement.toBits _ Codecs.BitWriter.new).bind _ = _
    rw [hwritten]
    rfl
  · rw [hsame]
    exact hother
  · obtain ⟨zeros, hzeros, hbits⟩ := hholds.bits
    have hends := ends_element hsimple frame.payload
    rw [hindex] at hends
    obtain ⟨position, hread⟩ := hends writer.bytes [] zeros hzeros hbits
    rw [AacAudioRtpPacket.fromBytes]
    change (AudioMuxElement.fromBits writer.bytes ([] : List Bool).length).bind _ = _
    rw [hread]
    rfl
  · intro hpayload
    obtain ⟨adts, hadts, hparse⟩ := parse_toAdts hsimple hpayload
    exact ⟨adts, _, hadts, hparse, rfl, rfl, rfl⟩

/-- An access unit of one octet. -/
theorem one_octet_agrees : ∃ packet bytes,
    Codecs.AacAudioRtpPacket.forSimpleAac 44100 2 [0xA5] = .ok packet ∧
      packet.toBytes = .ok bytes ∧ simpleAacLatm ⟨.main, 44100, 2, [0xA5]⟩ = .ok bytes ∧
      Codecs.AacAudioRtpPacket.fromBytes bytes = .ok packet := by
  obtain ⟨packet, bytes, hpacket, hbytes, hother, hread, -⟩ :=
    aac_paths_agree ⟨.main, 44100, 2, [0xA5]⟩ (by decide) (by decide) (by decide)
  exact ⟨packet, bytes, hpacket, hbytes, hother, hread⟩

end Bumble.A2dp
