import Bumble.RfcommFcs

/-!
# Frames and their check sequence (`bumble-rfcomm/src/lib.rs`)

A frame that a constructor builds is read back from its octets, whatever its
information and however long the length field is.  The check sequence is recomputed
from the fields that were read: an octet that differs is noticed as far as the
fields have all of its bits.
-/

namespace Bumble.Rfcomm

/-! ## 1. The check sequence -/

def crcStep (result byte : UInt8) : UInt8 := crcTable.getD (result ^^^ byte).toNat 0

theorem crcTable_injective {first second : UInt8}
    (heq : crcTable.getD first.toNat 0 = crcTable.getD second.toNat 0) : first = second := by
  have hshifts := congrArg UInt8.toBitVec heq
  rw [crcTable_eq_shifts, crcTable_eq_shifts] at hshifts
  exact UInt8.toBitVec_inj.mp (ShiftRegister.shifts_injective (by decide) 8 hshifts)

theorem crcStep_left_injective {first second byte : UInt8}
    (heq : crcStep first byte = crcStep second byte) : first = second :=
  (UInt8.xor_left_inj byte).mp (crcTable_injective heq)

theorem crcStep_right_injective {result first second : UInt8}
    (heq : crcStep result first = crcStep result second) : first = second :=
  (UInt8.xor_right_inj result).mp (crcTable_injective heq)

theorem foldl_crcStep_injective (buffer : Bytes) : ∀ {first second : UInt8},
    buffer.foldl crcStep first = buffer.foldl crcStep second → first = second := by
  induction buffer with
  | nil => exact id
  | cons byte buffer ih =>
    intro first second heq
    exact crcStep_left_injective (ih heq)

/-- **One octet.**  Buffers that differ in one octet have different check sequences. -/
theorem computeFcs_injective (before after : Bytes) {first second : UInt8}
    (heq : computeFcs (before ++ first :: after) = computeFcs (before ++ second :: after)) :
    first = second := by
  have hfold : (before ++ first :: after).foldl crcStep 0xFF =
      (before ++ second :: after).foldl crcStep 0xFF := (UInt8.sub_right_inj 0xFF).mp heq
  rw [List.foldl_append, List.foldl_append] at hfold
  exact crcStep_right_injective (foldl_crcStep_injective after hfold)

/-! ## 2. Reading -/

/-- The octets of a length, which says in its lowest bit whether it has one octet. -/
def lengthOctets (length : Nat) : Bytes :=
  if length > 0x7F then
    [UInt8.ofNat ((length &&& 0x7F) <<< 1), UInt8.ofNat ((length >>> 7) &&& 0xFF)]
  else [UInt8.ofNat ((length <<< 1) ||| 1)]

namespace RfcommFrame

/-- The frame that is read from the two header octets and the information, given its type. -/
def readAs (frameType : FrameType) (address control : UInt8) (information : Bytes) :
    RfcommFrame where
  frameType := frameType
  cR := (address >>> 1) &&& 1 ≠ 0
  dlci := (address >>> 2) &&& 0x3F
  pF := (control >>> 4) &&& 1 ≠ 0
  information := information
  withCredits := false

def covered (frameType : FrameType) (address control : UInt8) (information : Bytes) : Bytes :=
  [address ||| 1, control] ++
    (if frameType = .uih then [] else lengthOctets information.length)

theorem lengthField_of_withCredits {frame : RfcommFrame}
    (hcredits : frame.withCredits = true → frame.information ≠ []) :
    frame.lengthField =
      .ok (lengthOctets (frame.information.length - frame.withCredits.toNat)) := by
  have hsome : ¬ (frame.withCredits ∧ frame.information.length = 0) := by
    rintro ⟨hset, hnone⟩
    exact hcredits hset (List.length_eq_zero_iff.mp hnone)
  rw [lengthField, if_neg hsome, lengthOctets, apply_ite Except.ok]

theorem address_readAs (frameType : FrameType) (address control : UInt8) (information : Bytes) :
    (readAs frameType address control information).address = address ||| 1 := by
  refine forall_octet_lt (P := fun address =>
    (readAs frameType address control information).address = address ||| 1)
    ?_ address address.toNat_lt
  change ∀ value : Fin 256, (((UInt8.ofNat value >>> 2) &&& 0x3F) <<< 2) |||
    ((decide ((UInt8.ofNat value >>> 1) &&& 1 ≠ 0)).toUInt8 <<< 1) ||| 1 = UInt8.ofNat value ||| 1
  set_option maxRecDepth 30000 in decide

theorem control_readAs {frameType : FrameType} {control : UInt8}
    (htype : FrameType.fromCode (control &&& 0xEF) = .ok frameType) (address : UInt8)
    (information : Bytes) : (readAs frameType address control information).control = control := by
  revert htype
  refine forall_octet_lt (P := fun control =>
    FrameType.fromCode (control &&& 0xEF) = .ok frameType →
      (readAs frameType address control information).control = control)
    ?_ control control.toNat_lt
  change ∀ value : Fin 256, FrameType.fromCode (UInt8.ofNat value &&& 0xEF) = .ok frameType →
    frameType.value ||| ((decide ((UInt8.ofNat value >>> 4) &&& 1 ≠ 0)).toUInt8 <<< 4) =
      UInt8.ofNat value
  cases frameType <;> set_option maxRecDepth 30000 in decide

theorem fcs_readAs {frameType : FrameType} {control : UInt8}
    (htype : FrameType.fromCode (control &&& 0xEF) = .ok frameType) (address : UInt8)
    (information : Bytes) : (readAs frameType address control information).fcs =
      .ok (computeFcs (covered frameType address control information)) := by
  rw [fcs, address_readAs, control_readAs htype, covered]
  change (if frameType = .uih then _ else _) = _
  split
  next => rfl
  next =>
    rw [lengthField_of_withCredits (fun hset => absurd hset Bool.false_ne_true)]
    rfl

/-- The end of `from_bytes`. -/
def checked (frame : RfcommFrame) (sequence : UInt8) : Except Error RfcommFrame := do
  let expected ← frame.fcs
  if expected ≠ sequence then
    .error (.invalidPacket
      s!"fcs mismatch: got {hexOctet sequence}, expected {hexOctet expected}")
  else return frame

theorem checked_readAs_eq_ok_iff {frameType : FrameType} {control : UInt8}
    (htype : FrameType.fromCode (control &&& 0xEF) = .ok frameType) {address sequence : UInt8}
    {information : Bytes} {frame : RfcommFrame} :
    checked (readAs frameType address control information) sequence = .ok frame ↔
      computeFcs (covered frameType address control information) = sequence ∧
        readAs frameType address control information = frame := by
  rw [checked, fcs_readAs htype]
  dsimp only [bind, Except.bind]
  split
  next hne =>
    apply iff_of_false
    · intro hread
      cases hread
    · rintro ⟨hsame, -⟩
      exact hne hsame
  next hsame =>
    rw [not_not] at hsame
    constructor
    · intro hread
      exact ⟨hsame, Except.ok.inj hread⟩
    · rintro ⟨-, hframe⟩
      exact congrArg Except.ok hframe

theorem fromBytes_of_information {address control length octet : UInt8}
    {rest information : Bytes} {frame : RfcommFrame}
    (hinformation : (length &&& 1 ≠ 0 ∧ (octet :: rest).dropLast = information) ∨
      (¬ length &&& 1 ≠ 0 ∧ rest ≠ [] ∧ rest.dropLast = information)) :
    fromBytes (address :: control :: length :: octet :: rest) = .ok frame ↔
      ∃ frameType, FrameType.fromCode (control &&& 0xEF) = .ok frameType ∧
        computeFcs (covered frameType address control information) = rest.getLastD octet ∧
        readAs frameType address control information = frame := by
  rw [fromBytes]
  cases htype : FrameType.fromCode (control &&& 0xEF) with
  | error error =>
    apply iff_of_false
    · intro hread
      cases hread
    · rintro ⟨frameType, hok, -⟩
      cases hok
  | ok frameType =>
    dsimp only [bind, Except.bind]
    have hchecked : (∃ frameType', Except.ok frameType = (.ok frameType' : Except Error FrameType) ∧
        computeFcs (covered frameType' address control information) = rest.getLastD octet ∧
        readAs frameType' address control information = frame) ↔
        checked (readAs frameType address control information) (rest.getLastD octet) =
          .ok frame := by
      rw [checked_readAs_eq_ok_iff htype]
      constructor
      · rintro ⟨_, hsame, hread⟩
        cases hsame
        exact hread
      · intro hread
        exact ⟨frameType, rfl, hread⟩
    rw [hchecked]
    rcases hinformation with ⟨hodd, rfl⟩ | ⟨heven, hrest, rfl⟩
    · rw [if_pos hodd]
      rfl
    · rw [if_neg heven, if_neg (by rwa [List.isEmpty_iff])]
      rfl

theorem lengthOctets_cases (length : Nat) :
    (∃ first, lengthOctets length = [first] ∧ first &&& 1 ≠ 0) ∨
      ∃ first second, lengthOctets length = [first, second] ∧ ¬ first &&& 1 ≠ 0 := by
  rw [lengthOctets]
  split
  next hlong =>
    refine .inr ⟨_, _, rfl, ?_⟩
    rw [not_not]
    apply UInt8.toNat.inj
    rw [UInt8.toNat_and, UInt8.toNat_ofNat', Nat.shiftLeft_eq]
    change _ &&& 2 ^ 1 - 1 = 0
    rw [Nat.and_two_pow_sub_one_eq_mod]
    omega
  next hshort =>
    refine .inl ⟨_, rfl, ?_⟩
    intro heven
    have hbit := congrArg UInt8.toNat heven
    rw [UInt8.toNat_and, UInt8.toNat_ofNat', Nat.shiftLeft_eq, Nat.mul_comm,
      ← Nat.two_pow_add_eq_or_of_lt (by decide)] at hbit
    change _ &&& 2 ^ 1 - 1 = 0 at hbit
    rw [Nat.and_two_pow_sub_one_eq_mod] at hbit
    omega

theorem dropLast_of_append_singleton {front rest : Bytes} {octet last : UInt8}
    (happend : front ++ [last] = octet :: rest) :
    (octet :: rest).dropLast = front ∧ rest.getLastD octet = last := by
  constructor
  · rw [← happend, List.dropLast_concat]
  · have hlast := congrArg List.getLast? happend
    rw [List.getLast?_concat, List.getLast?_cons, Option.some.injEq] at hlast
    rw [List.getLastD_eq_getLast?, hlast]

/-- **Reading.**  Octets with a length field of the right size are read exactly when the control
    octet has a type and the last octet is the check sequence of what was read. -/
theorem fromBytes_eq_ok_iff {address control sequence : UInt8} {length : Nat} {information : Bytes}
    {frame : RfcommFrame} :
    fromBytes (address :: control :: (lengthOctets length ++ (information ++ [sequence]))) =
      .ok frame ↔
      ∃ frameType, FrameType.fromCode (control &&& 0xEF) = .ok frameType ∧
        computeFcs (covered frameType address control information) = sequence ∧
        readAs frameType address control information = frame := by
  obtain ⟨octet, rest, hrest⟩ := List.exists_cons_of_ne_nil
    (List.append_ne_nil_of_right_ne_nil information (List.cons_ne_nil sequence []))
  obtain ⟨hfront, hlast⟩ := dropLast_of_append_singleton hrest
  rcases lengthOctets_cases length with ⟨first, hlength, hodd⟩ | ⟨first, second, hlength, heven⟩
  · rw [hlength, hrest, ← hlast]
    exact fromBytes_of_information (.inl ⟨hodd, hfront⟩)
  · have hbehind : (octet :: rest).getLastD second = sequence := by
      rw [List.getLastD_cons, hlast]
    rw [hlength, hrest, ← hbehind]
    exact fromBytes_of_information (.inr ⟨heven, List.cons_ne_nil _ _, hfront⟩)

/-! ## 3. Frames of the constructors -/

/-- The frames that the constructors build; a credit-bearing one has its credit octet. -/
inductive Built : RfcommFrame → Prop
  | sabm (cR : Bool) (dlci : UInt8) : Built (sabm cR dlci)
  | ua (cR : Bool) (dlci : UInt8) : Built (ua cR dlci)
  | dm (cR : Bool) (dlci : UInt8) : Built (dm cR dlci)
  | disc (cR : Bool) (dlci : UInt8) : Built (disc cR dlci)
  | uih (cR : Bool) (dlci : UInt8) (information : Bytes) (pF : Bool)
      (hcredits : pF = true → information ≠ []) : Built (uih cR dlci information pF)

/-- `PartialEq`: the credit flag is not compared. -/
def Same (frame other : RfcommFrame) : Prop :=
  frame.frameType = other.frameType ∧ frame.cR = other.cR ∧ frame.dlci = other.dlci ∧
    frame.pF = other.pF ∧ frame.information = other.information

structure Formed (frame : RfcommFrame) : Prop where
  credits : frame.withCredits = true → frame.information ≠ []
  control : frame.frameType ≠ .uih → frame.information = [] ∧ frame.withCredits = false

theorem Built.formed {frame : RfcommFrame} (hbuilt : Built frame) : Formed frame := by
  cases hbuilt with
  | sabm cR dlci => exact ⟨fun hset => absurd hset Bool.false_ne_true, fun _ => ⟨rfl, rfl⟩⟩
  | ua cR dlci => exact ⟨fun hset => absurd hset Bool.false_ne_true, fun _ => ⟨rfl, rfl⟩⟩
  | dm cR dlci => exact ⟨fun hset => absurd hset Bool.false_ne_true, fun _ => ⟨rfl, rfl⟩⟩
  | disc cR dlci => exact ⟨fun hset => absurd hset Bool.false_ne_true, fun _ => ⟨rfl, rfl⟩⟩
  | uih cR dlci information pF hcredits => exact ⟨hcredits, fun hne => absurd rfl hne⟩

theorem fcs_of_formed {frame : RfcommFrame} (hformed : frame.Formed)
    (haddress : frame.address ||| 1 = frame.address) :
    frame.fcs = .ok (computeFcs
      (covered frame.frameType frame.address frame.control frame.information)) := by
  rw [fcs, covered, haddress]
  split
  next => rfl
  next hcontrol =>
    obtain ⟨hnone, hclear⟩ := hformed.control hcontrol
    rw [lengthField_of_withCredits hformed.credits, hnone, hclear]
    rfl

/-- The octets of a frame with the given check sequence. -/
def written (frame : RfcommFrame) (sequence : UInt8) : Bytes :=
  frame.address :: frame.control ::
    (lengthOctets (frame.information.length - frame.withCredits.toNat) ++
      (frame.information ++ [sequence]))

theorem address_or_one (frame : RfcommFrame) : frame.address ||| 1 = frame.address := by
  rw [address, UInt8.or_assoc, UInt8.or_self]

theorem toBytes_of_formed {frame : RfcommFrame} (hformed : frame.Formed) :
    frame.toBytes = .ok (frame.written (computeFcs
      (covered frame.frameType frame.address frame.control frame.information))) := by
  rw [toBytes, lengthField_of_withCredits hformed.credits,
    fcs_of_formed hformed (address_or_one frame)]
  change Except.ok _ = _
  rw [written, List.append_assoc, List.append_assoc]
  rfl

theorem fromCode_control (frame : RfcommFrame) :
    FrameType.fromCode (frame.control &&& 0xEF) = .ok frame.frameType := by
  rw [control]
  generalize frame.frameType = frameType
  cases frameType <;> cases frame.pF <;> decide

theorem same_readAs {frame : RfcommFrame} (hdlci : frame.dlci.toNat < 64) :
    Same (readAs frame.frameType frame.address frame.control frame.information) frame := by
  have haddress : ((frame.address >>> 2) &&& 0x3F) = frame.dlci ∧
      decide ((frame.address >>> 1) &&& 1 ≠ 0) = frame.cR := by
    rw [address]
    generalize frame.cR = cR
    refine forall_octet_lt (P := fun dlci =>
      ((((dlci <<< 2) ||| (cR.toUInt8 <<< 1) ||| 1) >>> 2) &&& 0x3F) = dlci ∧
        decide ((((dlci <<< 2) ||| (cR.toUInt8 <<< 1) ||| 1) >>> 1) &&& 1 ≠ 0) = cR)
      ?_ frame.dlci hdlci
    cases cR <;> decide
  have hcontrol : decide ((frame.control >>> 4) &&& 1 ≠ 0) = frame.pF := by
    rw [control]
    generalize frame.frameType = frameType
    cases frameType <;> cases frame.pF <;> decide
  exact ⟨rfl, haddress.2, haddress.1, hcontrol, rfl⟩

/-! ## 4. One changed bit -/

def flipBit (bytes : Bytes) (index bit : Nat) : Bytes :=
  bytes.modify index (· ^^^ 1 <<< UInt8.ofNat bit)

theorem flipped_address_iff {address : UInt8} (haddress : address ||| 1 = address) {bit : Nat}
    (hbit : bit < 8) : (address ^^^ 1 <<< UInt8.ofNat bit) ||| 1 = address ↔ bit = 0 := by
  have hall : ∀ octet : Fin 256, ∀ bit : Fin 8, UInt8.ofNat octet ||| 1 = UInt8.ofNat octet →
      ((UInt8.ofNat octet ^^^ 1 <<< UInt8.ofNat bit) ||| 1 = UInt8.ofNat octet ↔ bit.val = 0) := by
    set_option maxRecDepth 30000 in decide
  have hone := hall ⟨address.toNat, address.toNat_lt⟩ ⟨bit, hbit⟩
  simp only [UInt8.ofNat_toNat] at hone
  exact hone haddress

theorem flipped_ne (octet : UInt8) {bit : Nat} (hbit : bit < 8) :
    octet ^^^ 1 <<< UInt8.ofNat bit ≠ octet := by
  have hone : ∀ bit : Fin 8, (1 : UInt8) <<< UInt8.ofNat bit ≠ 0 := by decide
  intro heq
  exact hone ⟨bit, hbit⟩ ((UInt8.xor_right_inj octet).mp (heq.trans UInt8.xor_zero.symm))

theorem flipped_control {frame : RfcommFrame} {bit : Nat} (hbit : bit < 8) {frameType : FrameType}
    (htype : FrameType.fromCode ((frame.control ^^^ 1 <<< UInt8.ofNat bit) &&& 0xEF) =
      .ok frameType) :
    frameType = .uih ↔ frame.frameType = .uih := by
  have hall : ∀ pF : Bool, ∀ bit : Fin 8,
      (FrameType.fromCode (((frame.frameType.value ||| pF.toUInt8 <<< 4) ^^^ 1 <<< UInt8.ofNat bit)
        &&& 0xEF) = .ok frameType → (frameType = .uih ↔ frame.frameType = .uih)) := by
    generalize frame.frameType = written
    cases written <;> cases frameType <;> decide
  exact hall frame.pF ⟨bit, hbit⟩ htype

theorem modify_last (front : Bytes) (last : UInt8) (f : UInt8 → UInt8) :
    (front ++ [last]).modify ((front ++ [last]).length - 1) f = front ++ [f last] := by
  rw [List.length_append, List.length_singleton, Nat.add_sub_cancel]
  induction front with
  | nil => rfl
  | cons octet front ih =>
    rw [List.cons_append, List.length_cons, List.modify_succ_cons, ih]
    rfl

theorem flipBit_last (frame : RfcommFrame) (sequence : UInt8) (bit : Nat) :
    flipBit (frame.written sequence) ((frame.written sequence).length - 1) bit =
      frame.written (sequence ^^^ 1 <<< UInt8.ofNat bit) := by
  have hsplit : ∀ last, frame.written last = (frame.address :: frame.control ::
      (lengthOctets (frame.information.length - frame.withCredits.toNat) ++ frame.information)) ++
        [last] := by
    intro last
    rw [written, List.cons_append, List.cons_append, List.append_assoc]
  rw [hsplit, hsplit]
  exact modify_last _ sequence _

theorem refused_iff {address control sequence : UInt8} {length : Nat} {information : Bytes} :
    (∃ error, fromBytes (address :: control ::
        (lengthOctets length ++ (information ++ [sequence]))) = .error error) ↔
      ∀ frameType, FrameType.fromCode (control &&& 0xEF) = .ok frameType →
        computeFcs (covered frameType address control information) ≠ sequence := by
  cases hread : fromBytes (address :: control ::
      (lengthOctets length ++ (information ++ [sequence]))) with
  | error error =>
    refine iff_of_true ⟨error, rfl⟩ ?_
    intro frameType htype hsame
    rw [fromBytes_eq_ok_iff.mpr ⟨frameType, htype, hsame, rfl⟩] at hread
    cases hread
  | ok frame =>
    obtain ⟨frameType, htype, hsame, -⟩ := fromBytes_eq_ok_iff.mp hread
    apply iff_of_false
    · rintro ⟨error, herror⟩
      cases herror
    · intro hall
      exact hall frameType htype hsame

/-- The sequence that `to_bytes` writes. -/
def sequence (frame : RfcommFrame) : UInt8 :=
  computeFcs (covered frame.frameType frame.address frame.control frame.information)

theorem refused_address_iff (frame : RfcommFrame) {bit : Nat} (hbit : bit < 8) :
    (∃ error, fromBytes (flipBit (frame.written frame.sequence) 0 bit) = .error error) ↔
      bit ≠ 0 := by
  have haddress := address_or_one frame
  have htype := fromCode_control frame
  refine refused_iff.trans ?_
  rw [ne_eq, ← flipped_address_iff haddress hbit]
  constructor
  · intro hall hsame
    refine hall frame.frameType htype ?_
    rw [covered, hsame, sequence, covered, haddress]
  · intro hne frameType htype' hsame
    obtain rfl := Except.ok.inj (htype.symm.trans htype')
    rw [sequence, covered, covered, haddress] at hsame
    exact hne (computeFcs_injective [] _ hsame)

theorem refused_control (frame : RfcommFrame) {bit : Nat} (hbit : bit < 8) :
    ∃ error, fromBytes (flipBit (frame.written frame.sequence) 1 bit) = .error error := by
  refine refused_iff.mpr ?_
  intro frameType htype hsame
  -- the type may be another one, but the check sequence covers as many octets
  have hcovered := flipped_control hbit htype
  rw [sequence, covered, covered, if_congr hcovered rfl rfl] at hsame
  exact flipped_ne frame.control hbit (computeFcs_injective [frame.address ||| 1] _ hsame)

theorem refused_sequence (frame : RfcommFrame) {bit : Nat} (hbit : bit < 8) :
    ∃ error, fromBytes (flipBit (frame.written frame.sequence)
      ((frame.written frame.sequence).length - 1) bit) = .error error := by
  rw [flipBit_last]
  refine refused_iff.mpr ?_
  intro frameType htype hsame
  obtain rfl := Except.ok.inj ((fromCode_control frame).symm.trans htype)
  exact flipped_ne frame.sequence hbit hsame.symm

/-- **The frame codec.**  A frame that was built is read back, and an encoding with one changed
    bit in its address, its control octet or its check sequence is refused unless it is the
    lowest bit of the address, of which no field is made. -/
theorem frame_codec_iff (frame : RfcommFrame) (hbuilt : Built frame)
    (hdlci : frame.dlci.toNat < 64) :
    ∃ bytes, frame.toBytes = .ok bytes ∧
      (∃ read, fromBytes bytes = .ok read ∧ read.Same frame) ∧
      ∀ index bit, index ∈ [0, 1, bytes.length - 1] → bit < 8 →
        ((∃ error, fromBytes (flipBit bytes index bit) = .error error) ↔
          ¬ (index = 0 ∧ bit = 0)) := by
  have hread : fromBytes (frame.written frame.sequence) =
      .ok (readAs frame.frameType frame.address frame.control frame.information) :=
    fromBytes_eq_ok_iff.mpr ⟨frame.frameType, fromCode_control frame, rfl, rfl⟩
  refine ⟨frame.written frame.sequence, toBytes_of_formed hbuilt.formed,
    ⟨_, hread, same_readAs hdlci⟩, ?_⟩
  intro index bit hindex hbit
  rw [List.mem_cons, List.mem_cons, List.mem_singleton] at hindex
  rcases hindex with rfl | rfl | rfl
  · rw [refused_address_iff frame hbit, not_and]
    exact ⟨fun hne _ => hne, fun hne => hne rfl⟩
  · exact iff_of_true (refused_control frame hbit) (fun hboth => absurd hboth.1 Nat.one_ne_zero)
  · refine iff_of_true (refused_sequence frame hbit) ?_
    rintro ⟨hzero, -⟩
    cases hzero

/-- A frame with a credit and one octet of data. -/
theorem frame_codec_credits :
    Built (uih true 2 [7, 0x41] true) ∧
    ∃ bytes, (uih true 2 [7, 0x41] true).toBytes = .ok bytes ∧
      (∃ read, fromBytes bytes = .ok read ∧ read.Same (uih true 2 [7, 0x41] true)) ∧
      ∀ index bit, index ∈ [0, 1, bytes.length - 1] → bit < 8 →
        ((∃ error, fromBytes (flipBit bytes index bit) = .error error) ↔
          ¬ (index = 0 ∧ bit = 0)) :=
  have hbuilt : Built (uih true 2 [7, 0x41] true) :=
    Built.uih true 2 [7, 0x41] true (fun _ => List.cons_ne_nil _ _)
  ⟨hbuilt, frame_codec_iff _ hbuilt (by decide)⟩

/-- The extension bit of the address is not looked at. -/
theorem extension_bit_ignored :
    (sabm true 2).toBytes = .ok [0x0B, 0x3F, 0x01, 0x59] ∧
      flipBit [0x0B, 0x3F, 0x01, 0x59] 0 0 = [0x0A, 0x3F, 0x01, 0x59] ∧
      fromBytes [0x0A, 0x3F, 0x01, 0x59] = .ok (sabm true 2) := by
  decide

end RfcommFrame

end Bumble.Rfcomm
