import Bumble.L2capFrame

/-!
# Round trips and totality of the signaling codec (`bumble-l2cap/src/lib.rs`)

Reading what was written gives back every frame that the encoder can represent,
and every list of configuration options.  The parser refuses what it cannot read,
with one exception: the PSM, which goes on for as long as its octets are odd, is
shifted out of its 32 bits by the third of them (`OddRun`).
-/

namespace Bumble.L2cap

/-! ## 1. Octets of words -/

theorem le16_cons_cons (low high : UInt8) (rest : Bytes) :
    le16 (low :: high :: rest) 0 = .ok (u16FromLe low high) := rfl

@[simp] theorem le16_u16ToLe (value : UInt16) (rest : Bytes) :
    le16 (u16ToLe value ++ rest) 0 = .ok value := by
  rw [u16ToLe, List.cons_append, List.cons_append, le16_cons_cons, u16FromLe_toLe]

theorem indexByte_append (before data : Bytes) (index : Nat) :
    indexByte (before ++ data) (before.length + index) = indexByte data index := by
  rw [indexByte, List.getElem?_append_right (Nat.le_add_right _ _), Nat.add_sub_cancel_left]
  rfl

theorem le16_append (before data : Bytes) (offset : Nat) :
    le16 (before ++ data) (before.length + offset) = le16 data offset := by
  rw [le16, le16, indexByte_append, Nat.add_assoc, indexByte_append]

@[simp] theorem le16_u16ToLe_append (value : UInt16) (data : Bytes) (offset : Nat) :
    le16 (u16ToLe value ++ data) (offset + 2) = le16 data offset := by
  rw [Nat.add_comm offset 2]
  exact le16_append (u16ToLe value) data offset

@[simp] theorem le16_u16ToLe_last (value : UInt16) : le16 (u16ToLe value) 0 = .ok value := by
  rw [u16ToLe, le16_cons_cons, u16FromLe_toLe]

@[simp] theorem drop_u16ToLe_append (value : UInt16) (data : Bytes) (n : Nat) :
    (u16ToLe value ++ data).drop (n + 2) = data.drop n := rfl

theorem need_of_le {payload : Bytes} {n : Nat} (hlength : n ≤ payload.length) :
    need payload n = .ok () := if_neg (Nat.not_lt.mpr hlength)

theorem cidChunks_flatMap (cids : List UInt16) : cidChunks (cids.flatMap u16ToLe) = cids := by
  induction cids with
  | nil => rfl
  | cons cid cids ih =>
    rw [List.flatMap_cons, u16ToLe, List.cons_append, List.cons_append, List.nil_append, cidChunks,
      u16FromLe_toLe, ih]

@[simp] theorem readCidList_flatMap (cids : List UInt16) :
    readCidList (cids.flatMap u16ToLe) = .ok cids := by
  have heven : (cids.flatMap u16ToLe).length % 2 = 0 := by
    rw [List.length_flatMap]
    simp
  rw [readCidList, if_neg (not_not_intro heven), cidChunks_flatMap]

/-! ## 2. PSMs of two octets -/

theorem or_shift_octets (low high : UInt8) :
    (low.toUInt32 ||| high.toUInt32 <<< 8).toNat = low.toNat + 256 * high.toNat := by
  have hlow := low.toNat_lt
  have hhigh := high.toNat_lt
  rw [UInt32.toNat_or, UInt32.toNat_shiftLeft, UInt8.toNat_toUInt32, UInt8.toNat_toUInt32,
    Nat.or_comm]
  change (high.toNat <<< 8 % 2 ^ 32) ||| low.toNat = _
  rw [Nat.shiftLeft_eq, Nat.mod_eq_of_lt (by omega), Nat.mul_comm,
    ← Nat.two_pow_add_eq_or_of_lt (by omega)]
  omega

theorem serializePsm_of_lt {psm : UInt32} (hpsm : psm.toNat < 65536) :
    serializePsm psm = [UInt8.ofNat (psm.toNat % 256), UInt8.ofNat (psm.toNat / 256)] := by
  have hrest : psm >>> 16 = 0 := by
    apply UInt32.toNat.inj
    rw [UInt32.toNat_shiftRight]
    change psm.toNat >>> 16 = 0
    rw [Nat.shiftRight_eq_div_pow]
    omega
  have hlow : (psm &&& 0xFFFF).toUInt16.toNat = psm.toNat := by
    rw [UInt32.toNat_toUInt16, UInt32.toNat_and]
    change (psm.toNat &&& 2 ^ 16 - 1) % 2 ^ 16 = _
    rw [Nat.and_two_pow_sub_one_eq_mod]
    omega
  rw [serializePsm, hrest, u16ToLe, hlow]
  rfl

theorem parsePsm_even (low high : UInt8) (rest : Bytes) (hhigh : high % 2 = 0) :
    parsePsm (low :: high :: rest) 0 = .ok (2, low.toUInt32 ||| high.toUInt32 <<< 8) := by
  have hodd : ¬ high % 2 = 1 := by rw [hhigh]; decide
  have hlength : ¬ 0 + 2 > (low :: high :: rest).length := by simp
  rw [parsePsm, if_neg hlength]
  change parsePsmLoop (low :: high :: rest) 0 _ 2 _ = _
  rw [parsePsmLoop]
  change (if high % 2 = 1 then _ else _) = _
  rw [if_neg hodd]

theorem octets_of_lt {value : Nat} (hvalue : value < 65536) :
    (UInt8.ofNat (value % 256)).toNat + 256 * (UInt8.ofNat (value / 256)).toNat = value := by
  simp only [UInt8.toNat_ofNat']
  omega

theorem parsePsm_serializePsm {psm : UInt32} (hpsm : psm.toNat < 65536)
    (heven : psm.toNat / 256 % 2 = 0) (rest : Bytes) :
    parsePsm (serializePsm psm ++ rest) 0 = .ok (2, psm) := by
  have hhigh : UInt8.ofNat (psm.toNat / 256) % 2 = 0 := by
    apply UInt8.toNat.inj
    rw [UInt8.toNat_mod, UInt8.toNat_ofNat']
    change psm.toNat / 256 % 2 ^ 8 % 2 = 0
    omega
  rw [serializePsm_of_lt hpsm, List.cons_append, List.cons_append, parsePsm_even _ _ _ hhigh]
  congr 2
  apply UInt32.toNat.inj
  rw [or_shift_octets, octets_of_lt hpsm]

/-! ## 3. Frames -/

def typedCodes : List UInt8 :=
  [Codes.commandReject, Codes.connectionRequest, Codes.connectionResponse,
    Codes.configureRequest, Codes.configureResponse, Codes.disconnectionRequest,
    Codes.disconnectionResponse, Codes.echoRequest, Codes.echoResponse,
    Codes.informationRequest, Codes.informationResponse,
    Codes.connectionParameterUpdateRequest, Codes.connectionParameterUpdateResponse,
    Codes.leCreditBasedConnectionRequest, Codes.leCreditBasedConnectionResponse,
    Codes.leFlowControlCredit, Codes.creditBasedConnectionRequest,
    Codes.creditBasedConnectionResponse, Codes.creditBasedReconfigureRequest,
    Codes.creditBasedReconfigureResponse]

/-- What the wire format can tell from other frames. -/
def ControlFrame.Encodable : ControlFrame → Prop
  | .connectionRequest _ psm _ => psm.toNat ≤ 0xFFFF ∧ psm.toNat / 256 % 2 = 0
  | .generic code _ _ => code ∉ typedCodes
  | _ => True

theorem fromPayload_generic {code : UInt8} (hcode : code ∉ typedCodes) (identifier : UInt8)
    (payload : Bytes) :
    ControlFrame.fromPayload code identifier payload = .ok (.generic code identifier payload) := by
  simp only [typedCodes, List.mem_cons, List.not_mem_nil, or_false, not_or] at hcode
  simp only [ControlFrame.fromPayload, hcode, if_false]

theorem fromPayload_code_connectionRequest (identifier : UInt8) (payload : Bytes) :
    ControlFrame.fromPayload Codes.connectionRequest identifier payload = do
      let (offset, psm) ← parsePsm payload 0
      if offset + 2 > payload.length then
        Except.error (Error.invalidPacket "truncated Connection_Request")
      else
        return ControlFrame.connectionRequest identifier psm (← le16 payload offset) := rfl

theorem fromPayload_connectionRequest (identifier : UInt8) {psm : UInt32}
    (hpsm : psm.toNat < 65536) (heven : psm.toNat / 256 % 2 = 0) (sourceCid : UInt16) :
    ControlFrame.fromPayload Codes.connectionRequest identifier
        (serializePsm psm ++ u16ToLe sourceCid) =
      .ok (.connectionRequest identifier psm sourceCid) := by
  have hlength : (serializePsm psm).length = 2 := by rw [serializePsm_of_lt hpsm]; rfl
  have hsource : le16 (serializePsm psm ++ u16ToLe sourceCid) 2 = .ok sourceCid := by
    have hoffset := le16_append (serializePsm psm) (u16ToLe sourceCid) 0
    rw [hlength] at hoffset
    rw [hoffset, le16_u16ToLe_last]
  rw [fromPayload_code_connectionRequest, parsePsm_serializePsm hpsm heven]
  change (if 2 + 2 > (serializePsm psm ++ u16ToLe sourceCid).length then _ else _) = _
  rw [if_neg (by rw [List.length_append, hlength, length_u16ToLe]; decide), hsource]
  rfl

theorem fromPayload_payload (frame : ControlFrame) (hframe : frame.Encodable) :
    ControlFrame.fromPayload frame.code frame.identifier frame.payload = .ok frame := by
  cases frame with
  | connectionRequest identifier psm sourceCid =>
    obtain ⟨hpsm, heven⟩ := hframe
    exact fromPayload_connectionRequest identifier (by omega) heven sourceCid
  | generic code identifier payload => exact fromPayload_generic hframe identifier payload
  | echoRequest identifier data => rfl
  | echoResponse identifier data => rfl
  | _ =>
    -- the code chooses the branch, and its fields are read one after the other
    simp +decide only [ControlFrame.fromPayload, ControlFrame.code, ControlFrame.identifier,
      ControlFrame.payload, if_true, if_false]
    rw [need_of_le (by simp only [List.length_append, length_u16ToLe]; omega)]
    simp [bind, Except.bind, pure, Except.pure]

theorem fromBytes_append {frame : ControlFrame} (hlength : frame.payload.length ≤ 65535)
    (rest : Bytes) : ControlFrame.fromBytes (frame.toBytes ++ rest) =
      ControlFrame.fromPayload frame.code frame.identifier frame.payload := by
  have hvalue : (UInt16.ofNat frame.payload.length).toNat = frame.payload.length := by
    rw [UInt16.toNat_ofNat']
    omega
  change ControlFrame.fromPayload _ _ ((frame.payload ++ rest).take (u16FromLe _ _).toNat) = _
  rw [u16FromLe_toLe, hvalue, List.take_left]

/-! ## 4. Configuration options -/

/-- `ConfigurationOption::hinted`. -/
def ConfigurationOption.hinted (optionType : UInt8) (value : Bytes) : ConfigurationOption :=
  ⟨optionType &&& 0x7f, true, value⟩

def ConfigurationOption.Built (option : ConfigurationOption) : Prop :=
  ∃ optionType value, option = .new optionType value ∨ option = .hinted optionType value

theorem type_octet (optionType : UInt8) (hint : Bool) :
    ((optionType &&& 0x7f) ||| if hint then 0x80 else 0) &&& 0x7f = optionType &&& 0x7f ∧
      decide (((optionType &&& 0x7f) ||| if hint then 0x80 else 0) &&& 0x80 ≠ 0) = hint := by
  revert hint
  refine forall_octet_lt (P := fun t => ∀ hint : Bool,
    ((t &&& 0x7f) ||| if hint then 0x80 else 0) &&& 0x7f = t &&& 0x7f ∧
      decide (((t &&& 0x7f) ||| if hint then 0x80 else 0) &&& 0x80 ≠ 0) = hint)
    (by set_option maxRecDepth 30000 in decide) optionType optionType.toNat_lt

theorem type_octet_built {option : ConfigurationOption} (hbuilt : option.Built) :
    (option.optionType ||| if option.hint then 0x80 else 0) &&& 0x7f = option.optionType ∧
      decide ((option.optionType ||| if option.hint then 0x80 else 0) &&& 0x80 ≠ 0) =
        option.hint := by
  obtain ⟨optionType, value, rfl | rfl⟩ := hbuilt
  · exact type_octet optionType false
  · exact type_octet optionType true

theorem encode_decode_options (options : List ConfigurationOption)
    (hoptions : ∀ option ∈ options, option.Built ∧ option.value.length ≤ 255) :
    ∃ encoded, encodeConfigurationOptions options = .ok encoded ∧
      ∀ fuel, encoded.length < fuel →
        decodeConfigurationOptionsLoop fuel encoded = .ok options := by
  induction options with
  | nil =>
    refine ⟨[], rfl, ?_⟩
    intro fuel hfuel
    obtain ⟨fuel, rfl⟩ := Nat.exists_eq_add_of_lt hfuel
    rfl
  | cons option options ih =>
    obtain ⟨⟨hbuilt, hlength⟩, hrest⟩ := List.forall_mem_cons.mp hoptions
    obtain ⟨encoded, hencode, hdecode⟩ := ih hrest
    obtain ⟨htype, hhint⟩ := type_octet_built hbuilt
    refine ⟨(option.optionType ||| if option.hint then 0x80 else 0) ::
      UInt8.ofNat option.value.length :: option.value ++ encoded, ?_, ?_⟩
    · rw [encodeConfigurationOptions, if_neg (Nat.not_lt.mpr hlength), hencode]
      rfl
    · intro fuel hfuel
      have hvalue : (UInt8.ofNat option.value.length).toNat = option.value.length := by
        rw [UInt8.toNat_ofNat']
        omega
      obtain ⟨fuel, rfl⟩ : ∃ more, fuel = more + 1 := ⟨fuel - 1, by omega⟩
      have hmore : encoded.length < fuel := by
        simp only [List.length_append, List.length_cons] at hfuel
        omega
      rw [List.cons_append, List.cons_append, decodeConfigurationOptionsLoop, hvalue,
        if_neg (by rw [List.length_append]; omega), List.drop_left, List.take_left,
        hdecode fuel hmore, htype, hhint]
      rfl

theorem decodeLoop_append (fuel : Nat) : ∀ {data : Bytes} {options : List ConfigurationOption},
    decodeConfigurationOptionsLoop fuel data = .ok options → data.length < fuel →
    ∀ {rest : Bytes} {others : List ConfigurationOption},
      (∀ more, rest.length < more → decodeConfigurationOptionsLoop more rest = .ok others) →
      ∀ more, (data ++ rest).length < more →
        decodeConfigurationOptionsLoop more (data ++ rest) = .ok (options ++ others) := by
  induction fuel with
  | zero => exact fun _ hfuel => absurd hfuel (Nat.not_lt_zero _)
  | succ fuel ih =>
    intro data options hdecode hfuel rest others hrest more hmore
    match data with
    | [] =>
      obtain rfl := Except.ok.inj hdecode
      exact hrest more hmore
    | [_] => cases hdecode
    | rawType :: length :: body =>
      rw [decodeConfigurationOptionsLoop] at hdecode
      split at hdecode
      · cases hdecode
      next hlength =>
      have hlength := Nat.le_of_not_lt hlength
      cases htail : decodeConfigurationOptionsLoop fuel (body.drop length.toNat) with
      | error error =>
        rw [htail] at hdecode
        cases hdecode
      | ok tail =>
        rw [htail] at hdecode
        obtain rfl := Except.ok.inj hdecode
        obtain ⟨more, rfl⟩ : ∃ less, more = less + 1 := ⟨more - 1, by omega⟩
        simp only [List.cons_append, List.length_cons] at hfuel hmore
        have hothers := ih htail (by rw [List.length_drop]; omega) hrest more (by
          simp only [List.length_append, List.length_drop] at hmore ⊢
          omega)
        rw [List.cons_append, List.cons_append, decodeConfigurationOptionsLoop,
          if_neg (by rw [List.length_append]; omega), List.drop_append_of_le_length hlength,
          List.take_append_of_le_length hlength, hothers]
        rfl

theorem decodeLoop_of_decode {data : Bytes} {options : List ConfigurationOption}
    (hdecode : decodeConfigurationOptions data = .ok options) (fuel : Nat)
    (hfuel : data.length < fuel) : decodeConfigurationOptionsLoop fuel data = .ok options := by
  have hnil : ∀ more, ([] : Bytes).length < more →
      decodeConfigurationOptionsLoop more [] = .ok [] := by
    intro more hmore
    obtain ⟨more, rfl⟩ : ∃ less, more = less + 1 := ⟨more - 1, by omega⟩
    rfl
  have happend := decodeLoop_append _ hdecode (Nat.lt_succ_self _) hnil fuel (by
    rwa [List.append_nil])
  rwa [List.append_nil, List.append_nil] at happend

theorem decodeConfigurationOptions_append {data rest : Bytes}
    {options others : List ConfigurationOption}
    (hdata : decodeConfigurationOptions data = .ok options)
    (hrest : decodeConfigurationOptions rest = .ok others) :
    decodeConfigurationOptions (data ++ rest) = .ok (options ++ others) :=
  decodeLoop_append _ hdata (Nat.lt_succ_self _) (decodeLoop_of_decode hrest) _ (Nat.lt_succ_self _)

/-- **Round trips.**  A frame that the wire format can tell from others is read back
    from its octets, whatever follows them, and options that the constructors make are
    read back from theirs. -/
theorem signaling_round_trip :
    (∀ (frame : ControlFrame) (rest : Bytes), frame.payload.length ≤ 65535 → frame.Encodable →
      ControlFrame.fromBytes (frame.toBytes ++ rest) = .ok frame) ∧
    ∀ options : List ConfigurationOption,
      (∀ option ∈ options, option.Built ∧ option.value.length ≤ 255) →
      (encodeConfigurationOptions options >>= decodeConfigurationOptions) = .ok options := by
  constructor
  · intro frame rest hlength hframe
    rw [fromBytes_append hlength, fromPayload_payload frame hframe]
  · intro options hoptions
    obtain ⟨encoded, hencode, hdecode⟩ := encode_decode_options options hoptions
    rw [hencode]
    exact hdecode _ (Nat.lt_succ_self _)

/-- A request for the PSM of the service discovery protocol, with an octet behind it, and
    an option with the hint. -/
theorem signaling_round_trip_request :
    ControlFrame.fromBytes ((ControlFrame.connectionRequest 7 0x0001 0x0040).toBytes ++ [0xFF]) =
        .ok (.connectionRequest 7 0x0001 0x0040) ∧
      (encodeConfigurationOptions [.hinted 0x7E [1, 2]] >>= decodeConfigurationOptions) =
        .ok [.hinted 0x7E [1, 2]] := by
  refine ⟨signaling_round_trip.1 _ _ (by decide) ?_, signaling_round_trip.2 _ ?_⟩
  · exact ⟨by decide, by decide⟩
  · intro option hoption
    rw [List.mem_singleton] at hoption
    subst hoption
    exact ⟨⟨0x7E, [1, 2], .inr rfl⟩, by decide⟩

/-! ## 5. Totality -/

def Panics {α : Type} (result : Except Error α) : Prop := ∃ reason, result = .error (.panic reason)

def OddAt (data : Bytes) (index : Nat) : Prop := ∃ octet, data[index]? = some octet ∧ octet % 2 = 1

/-- After its first octet the PSM has three odd ones, and there is a fifth to read. -/
def OddRun (data : Bytes) (offset : Nat) : Prop :=
  OddAt data (offset + 1) ∧ OddAt data (offset + 2) ∧ OddAt data (offset + 3) ∧
    offset + 4 < data.length

theorem not_panics_ok {α : Type} (value : α) : ¬ Panics (.ok value : Except Error α) := by
  rintro ⟨reason, hreason⟩
  cases hreason

theorem not_panics_invalid {α : Type} (message : String) :
    ¬ Panics (.error (.invalidPacket message) : Except Error α) := by
  rintro ⟨reason, hreason⟩
  cases hreason

theorem not_panics_bind {α β : Type} {result : Except Error α} {next : α → Except Error β}
    (hresult : ¬ Panics result) (hnext : ∀ value, result = .ok value → ¬ Panics (next value)) :
    ¬ Panics (result >>= next) := by
  cases result with
  | ok value => exact hnext value rfl
  | error error =>
    rintro ⟨reason, hreason⟩
    exact hresult ⟨reason, congrArg Except.error (Except.error.inj hreason)⟩

theorem indexByte_of_lt {data : Bytes} {index : Nat} (hindex : index < data.length) :
    ∃ byte, indexByte data index = .ok byte := by
  rw [indexByte, List.getElem?_eq_getElem hindex]
  exact ⟨_, rfl⟩

theorem lt_of_indexByte {data : Bytes} {index : Nat} {byte : UInt8}
    (hbyte : indexByte data index = .ok byte) : index < data.length := by
  by_contra hlength
  rw [indexByte, List.getElem?_eq_none (Nat.le_of_not_lt hlength)] at hbyte
  cases hbyte

theorem le16_of_le {data : Bytes} {offset : Nat} (hoffset : offset + 2 ≤ data.length) :
    ∃ value, le16 data offset = .ok value := by
  obtain ⟨low, hlow⟩ := indexByte_of_lt (show offset < data.length by omega)
  obtain ⟨high, hhigh⟩ := indexByte_of_lt (show offset + 1 < data.length by omega)
  rw [le16, hlow, hhigh]
  exact ⟨_, rfl⟩

theorem oddAt_iff {data : Bytes} {index : Nat} {octet : UInt8}
    (hoctet : indexByte data index = .ok octet) : OddAt data index ↔ octet % 2 = 1 := by
  have hget : data[index]? = some octet := by
    unfold indexByte at hoctet
    split at hoctet
    · next byte hbyte => rw [hbyte, Except.ok.inj hoctet]
    · cases hoctet
  constructor
  · rintro ⟨other, hother, hodd⟩
    rw [hget] at hother
    rw [Option.some.inj hother]
    exact hodd
  · exact fun hodd => ⟨octet, hget, hodd⟩

theorem panics_round_iff {data : Bytes} {offset n : Nat} (fuel : Nat) (psm : UInt32)
    (hlast : offset + n < data.length) :
    Panics (parsePsmLoop data offset (fuel + 1) (n + 1) psm) ↔
      OddAt data (offset + n) ∧ ∃ next, indexByte data (offset + (n + 1)) = .ok next ∧
        (4 ≤ n + 1 ∨ Panics (parsePsmLoop data offset fuel (n + 2)
          (psm ||| next.toUInt32 <<< UInt32.ofNat (8 * (n + 1))))) := by
  obtain ⟨last, hbyte⟩ := indexByte_of_lt hlast
  rw [oddAt_iff hbyte, parsePsmLoop, Nat.add_succ_sub_one, hbyte]
  change Panics (if last % 2 = 1 then _ else _) ↔ _
  by_cases hodd : last % 2 = 1
  · rw [if_pos hodd]
    by_cases hend : offset + (n + 1) ≥ data.length
    · rw [if_pos hend]
      refine iff_of_false (not_panics_invalid _) ?_
      rintro ⟨-, next, hnext, -⟩
      rw [indexByte, List.getElem?_eq_none hend] at hnext
      cases hnext
    · obtain ⟨next, hnext⟩ := indexByte_of_lt (Nat.lt_of_not_le hend)
      rw [if_neg hend, hnext]
      change Panics (if 8 * (n + 1) ≥ 32 then _ else _) ↔ _
      by_cases hshift : 8 * (n + 1) ≥ 32
      · rw [if_pos hshift]
        refine iff_of_true ⟨_, rfl⟩ ⟨hodd, next, rfl, .inl (by omega)⟩
      · rw [if_neg hshift]
        constructor
        · exact fun hpanics => ⟨hodd, next, rfl, .inr hpanics⟩
        · rintro ⟨-, other, hother, hround | hpanics⟩
          · omega
          · rw [Except.ok.inj hother]
            exact hpanics
  · rw [if_neg hodd]
    exact iff_of_false (not_panics_ok _) (fun h => hodd h.1)

/-- **The PSM.**  Reading it panics exactly at an odd run. -/
theorem parsePsm_panics_iff (data : Bytes) (offset : Nat) :
    Panics (parsePsm data offset) ↔ OddRun data offset := by
  unfold parsePsm
  by_cases hshort : offset + 2 > data.length
  · rw [if_pos hshort]
    refine iff_of_false (not_panics_invalid _) ?_
    rintro ⟨-, -, -, hlength⟩
    omega
  · obtain ⟨low, hlow⟩ := indexByte_of_lt (show offset < data.length by omega)
    obtain ⟨high, hhigh⟩ := indexByte_of_lt (show offset + 1 < data.length by omega)
    obtain ⟨fuel, hfuel⟩ : ∃ fuel, data.length + 1 = fuel + 3 := ⟨data.length - 2, by omega⟩
    rw [if_neg hshort, hlow, hhigh, hfuel]
    change Panics (parsePsmLoop data offset (fuel + 2 + 1) (1 + 1) _) ↔ _
    rw [panics_round_iff _ _ (by omega)]
    constructor
    · rintro ⟨hsecond, third, hthird, hround | hpanics⟩
      · omega
      · have hlength := lt_of_indexByte hthird
        rw [panics_round_iff _ _ hlength] at hpanics
        obtain ⟨hodd, fourth, hfourth, hround | hpanics⟩ := hpanics
        · omega
        · have hlength := lt_of_indexByte hfourth
          rw [panics_round_iff _ _ hlength] at hpanics
          obtain ⟨hodd', fifth, hfifth, -⟩ := hpanics
          exact ⟨hsecond, hodd, hodd', lt_of_indexByte hfifth⟩
    · rintro ⟨hsecond, hthird, hfourth, hlength⟩
      obtain ⟨third, hget⟩ := indexByte_of_lt (show offset + (1 + 1) < data.length by omega)
      refine ⟨hsecond, third, hget, .inr ?_⟩
      rw [panics_round_iff _ _ (by omega)]
      obtain ⟨fourth, hget⟩ := indexByte_of_lt (show offset + (2 + 1) < data.length by omega)
      refine ⟨hthird, fourth, hget, .inr ?_⟩
      rw [panics_round_iff _ _ (by omega)]
      obtain ⟨fifth, hget⟩ := indexByte_of_lt (show offset + (3 + 1) < data.length by omega)
      exact ⟨hfourth, fifth, hget, .inl (by omega)⟩

theorem not_panics_ite {β : Type} {condition : Prop} [Decidable condition]
    {result other : Except Error β} (hresult : ¬ Panics result) (hother : ¬ Panics other) :
    ¬ Panics (if condition then result else other) := by
  split
  · exact hresult
  · exact hother

theorem not_panics_need {β : Type} {payload : Bytes} {n : Nat} {next : Unit → Except Error β}
    (hnext : n ≤ payload.length → ¬ Panics (next ())) : ¬ Panics (need payload n >>= next) := by
  unfold need
  split
  · exact not_panics_bind (not_panics_invalid _) fun _ h => nomatch h
  · next hlength => exact hnext (Nat.le_of_not_lt hlength)

theorem not_panics_le16 {β : Type} {payload : Bytes} {offset : Nat}
    {next : UInt16 → Except Error β} (hoffset : offset + 2 ≤ payload.length)
    (hnext : ∀ value, ¬ Panics (next value)) : ¬ Panics (le16 payload offset >>= next) := by
  obtain ⟨value, hvalue⟩ := le16_of_le hoffset
  rw [hvalue]
  exact hnext value

theorem not_panics_readCidList (data : Bytes) : ¬ Panics (readCidList data) := by
  unfold readCidList
  split
  · exact not_panics_invalid _
  · exact not_panics_ok _

theorem fromPayload_not_panics {code : UInt8} (hcode : code ≠ Codes.connectionRequest)
    (identifier : UInt8) (payload : Bytes) :
    ¬ Panics (ControlFrame.fromPayload code identifier payload) := by
  unfold ControlFrame.fromPayload
  rw [if_neg hcode]
  repeat' first
    | exact not_panics_ok _
    | refine not_panics_ite ?_ ?_
    | refine not_panics_need fun hlength => ?_
    | refine not_panics_le16 (by omega) fun _ => ?_
    | refine not_panics_bind (not_panics_readCidList _) fun _ _ => ?_

theorem fromPayload_panics_iff (code identifier : UInt8) (payload : Bytes) :
    Panics (ControlFrame.fromPayload code identifier payload) ↔
      code = Codes.connectionRequest ∧ OddRun payload 0 := by
  by_cases hcode : code = Codes.connectionRequest
  · subst hcode
    rw [← parsePsm_panics_iff]
    change Panics (parsePsm payload 0 >>= _) ↔ _
    constructor
    · intro hpanics
      refine ⟨rfl, ?_⟩
      by_contra hpsm
      refine not_panics_bind hpsm ?_ hpanics
      rintro ⟨offset, psm⟩ -
      dsimp only
      split
      · exact not_panics_invalid _
      · exact not_panics_le16 (by omega) fun _ => not_panics_ok _
    · rintro ⟨-, reason, hreason⟩
      rw [hreason]
      exact ⟨reason, rfl⟩
  · exact iff_of_false (fromPayload_not_panics hcode identifier payload) (fun h => hcode h.1)

/-- **Totality.**  Reading a PSM does not panic exactly when there is no odd run at its
    offset, and reading a frame does not panic exactly when it is no Connection Request
    whose payload, cut at the length field, begins with one. -/
theorem signaling_total_iff (data pdu : Bytes) (offset : Nat) :
    (¬ Panics (parsePsm data offset) ↔ ¬ OddRun data offset) ∧
    (¬ Panics (ControlFrame.fromBytes pdu) ↔
      ∀ identifier l0 l1 rest, pdu = Codes.connectionRequest :: identifier :: l0 :: l1 :: rest →
        ¬ OddRun (rest.take (u16FromLe l0 l1).toNat) 0) := by
  constructor
  · exact not_congr (parsePsm_panics_iff data offset)
  · unfold ControlFrame.fromBytes
    split
    · next code identifier l0 l1 rest =>
      rw [fromPayload_panics_iff, not_and]
      constructor
      · intro hnone identifier' l0' l1' rest' hpdu
        injection hpdu with hcode hpdu
        injection hpdu with _ hpdu
        injection hpdu with hl0 hpdu
        injection hpdu with hl1 hrest
        rw [← hl0, ← hl1, ← hrest]
        exact hnone hcode
      · rintro hall rfl
        exact hall identifier l0 l1 rest rfl
    · next hshort =>
      refine iff_of_true (not_panics_invalid _) ?_
      intro identifier l0 l1 rest hpdu
      exact (hshort _ _ _ _ _ hpdu).elim

/-- Five odd octets are shifted out of the PSM. -/
theorem signaling_not_total :
    Panics (parsePsm [1, 1, 1, 1, 1] 0) ∧
      Panics (ControlFrame.fromBytes [0x02, 0x01, 0x05, 0x00, 1, 1, 1, 1, 1]) :=
  ⟨⟨"attempt to shift left with overflow", by decide⟩,
    ⟨"attempt to shift left with overflow", by decide⟩⟩

end Bumble.L2cap
