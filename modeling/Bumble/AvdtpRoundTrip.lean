import Bumble.AvdtpFraming

/-!
# AVDTP fragmentation is undone by reassembly

The payload codec gives every well-formed message back, and the assembler puts the
packets of a message together from any state it was left in.
-/

namespace Bumble.Avdtp

/-! ## 1. Bit fields -/

theorem seid_shift (value : UInt8) (hvalue : value.toNat < 64) : seid value >>> 2 = value :=
  forall_octet_lt (P := fun value => seid value >>> 2 = value) (by decide) value hvalue

theorem packetHeader_fields (packetType : PacketType) (messageType : MessageType)
    (transactionLabel : UInt8) (hlabel : transactionLabel.toNat < 16) :
    packetHeader transactionLabel packetType messageType >>> 4 = transactionLabel ∧
    PacketType.fromBits (packetHeader transactionLabel packetType messageType >>> 2) =
      packetType ∧
    MessageType.fromBits (packetHeader transactionLabel packetType messageType) = messageType := by
  refine forall_octet_lt (P := fun label =>
    packetHeader label packetType messageType >>> 4 = label ∧
    PacketType.fromBits (packetHeader label packetType messageType >>> 2) = packetType ∧
    MessageType.fromBits (packetHeader label packetType messageType) = messageType)
    ?_ transactionLabel hlabel
  cases packetType <;> cases messageType <;> decide

theorem u16FromLe_bytes (value : UInt16) :
    u16FromLe value.toUInt8 (value >>> 8).toUInt8 = value := by
  have hvalue : value.toNat < 65536 := value.toNat_lt
  apply UInt16.toNat.inj
  have hshift : (8 : UInt16).toNat % 16 = 8 := rfl
  simp only [u16FromLe, UInt16.toNat_ofNat', UInt16.toNat_toUInt8, UInt16.toNat_shiftRight,
    Nat.shiftRight_eq_div_pow, hshift]
  omega

/-! ## 2. Endpoint descriptors and capabilities -/

structure EndpointInfo.InRange (info : EndpointInfo) : Prop where
  seid : info.seid.toNat < 64
  mediaType : info.mediaType.value.toNat < 16
  endpointType : info.endpointType.value.toNat < 2

theorem endpoint_seid_fields (inUse : Bool) (seid : UInt8) (hseid : seid.toNat < 64) :
    ((seid <<< 2) ||| (inUse.toUInt8 <<< 1)) >>> 2 = seid ∧
      decide (((seid <<< 2) ||| (inUse.toUInt8 <<< 1)) &&& 0x02 ≠ 0) = inUse := by
  refine forall_octet_lt (P := fun seid =>
    ((seid <<< 2) ||| (inUse.toUInt8 <<< 1)) >>> 2 = seid ∧
    decide (((seid <<< 2) ||| (inUse.toUInt8 <<< 1)) &&& 0x02 ≠ 0) = inUse) ?_ seid hseid
  cases inUse <;> decide

theorem endpoint_type_fields (mediaType endpointType : UInt8) (hmedia : mediaType.toNat < 16)
    (htype : endpointType.toNat < 2) :
    ((mediaType <<< 4) ||| (endpointType <<< 3)) >>> 4 = mediaType ∧
      (((mediaType <<< 4) ||| (endpointType <<< 3)) >>> 3) &&& 1 = endpointType := by
  refine forall_octet_lt (P := fun endpointType => ∀ mediaType : UInt8, mediaType.toNat < 16 →
    ((mediaType <<< 4) ||| (endpointType <<< 3)) >>> 4 = mediaType ∧
    (((mediaType <<< 4) ||| (endpointType <<< 3)) >>> 3) &&& 1 = endpointType) ?_
    endpointType htype mediaType hmedia
  intro endpointType
  apply forall_octet_lt
  revert endpointType
  decide

theorem EndpointInfo.fromBytes_toBytes {info : EndpointInfo} (hrange : info.InRange) :
    fromBytes info.toBytes = .ok info := by
  obtain ⟨seid, inUse, ⟨mediaType⟩, ⟨endpointType⟩⟩ := info
  obtain ⟨hseid, hmedia, htype⟩ := hrange
  have hfirst := endpoint_seid_fields inUse seid hseid
  have hsecond := endpoint_type_fields mediaType endpointType hmedia htype
  simp only [toBytes, fromBytes, hfirst.1, hfirst.2, hsecond.1, hsecond.2]

theorem parseEndpoints_toBytes (endpoints : List EndpointInfo)
    (hrange : ∀ info ∈ endpoints, info.InRange) :
    Message.parseEndpoints (endpoints.flatMap EndpointInfo.toBytes) = .ok endpoints := by
  induction endpoints with
  | nil => rfl
  | cons info endpoints ih =>
    have hinfo := EndpointInfo.fromBytes_toBytes (hrange info List.mem_cons_self)
    have hrest := ih fun other hother => hrange other (List.mem_cons_of_mem _ hother)
    rw [List.flatMap_cons, EndpointInfo.toBytes] at *
    simp only [List.cons_append, List.nil_append, Message.parseEndpoints, hinfo, hrest]
    rfl

theorem length_flatMap_toBytes (endpoints : List EndpointInfo) :
    (endpoints.flatMap EndpointInfo.toBytes).length % 2 = 0 := by
  induction endpoints with
  | nil => rfl
  | cons info endpoints ih =>
    rw [List.flatMap_cons, List.length_append, EndpointInfo.toBytes]
    simp only [List.length_cons, List.length_nil]
    omega

namespace ServiceCapabilities

/-- Not a codec capability in the form of another one. -/
def Plain : ServiceCapabilities → Prop
  | mediaCodec .. => True
  | other category _ => category ≠ .mediaCodec

theorem parseOne_data {capability : ServiceCapabilities} (hplain : capability.Plain) :
    parseOne capability.category capability.data = .ok capability := by
  cases capability with
  | mediaCodec mediaType mediaCodecType mediaCodecInformation => rfl
  | other category data => exact if_neg hplain

theorem parseAll_serializeAll (capabilities : List ServiceCapabilities) :
    ∀ {bytes : Bytes}, (∀ capability ∈ capabilities, capability.Plain) →
    serializeAll capabilities = .ok bytes → parseAll bytes = .ok capabilities := by
  induction capabilities with
  | nil =>
    intro bytes _ hserialize
    cases hserialize
    rw [parseAll]
  | cons capability rest ih =>
    intro bytes hplain hserialize
    rw [serializeAll] at hserialize
    split at hserialize
    · next hlength =>
      cases hrest : serializeAll rest with
      | error error =>
        rw [hrest] at hserialize
        cases hserialize
      | ok payload =>
        rw [hrest] at hserialize
        cases hserialize
        have hone := parseOne_data (hplain capability List.mem_cons_self)
        have hlater := ih (fun other hother => hplain other (List.mem_cons_of_mem _ hother)) hrest
        have hlen : (UInt8.ofNat capability.data.length).toNat = capability.data.length := by
          rw [UInt8.toNat_ofNat']
          exact Nat.mod_eq_of_lt hlength
        rw [List.cons_append, List.cons_append, parseAll, hlen, if_pos (by simp), List.take_left,
          List.drop_left, hone, hlater]
        rfl
    · cases hserialize

theorem serializeAll_error {capabilities : List ServiceCapabilities} {error : Error}
    (hserialize : serializeAll capabilities = .error error) :
    ∃ capability ∈ capabilities, 255 < capability.data.length := by
  induction capabilities with
  | nil => cases hserialize
  | cons capability rest ih =>
    rw [serializeAll] at hserialize
    split at hserialize
    · cases hrest : serializeAll rest with
      | error fault =>
        rw [hrest] at hserialize
        cases hserialize
        obtain ⟨long, hmem, hlong⟩ := ih hrest
        exact ⟨long, List.mem_cons_of_mem _ hmem, hlong⟩
      | ok payload =>
        rw [hrest] at hserialize
        cases hserialize
    · next hlength => exact ⟨capability, List.mem_cons_self, by omega⟩

end ServiceCapabilities

/-! ## 3. Payloads -/

namespace Message

/-- The stream endpoint identifiers a message carries by themselves. -/
def seids : Message → List UInt8
  | getCapabilitiesCommand acpSeid | getAllCapabilitiesCommand acpSeid
  | getConfigurationCommand acpSeid | openCommand acpSeid | closeCommand acpSeid
  | abortCommand acpSeid | reconfigureCommand acpSeid _ | startReject acpSeid _
  | suspendReject acpSeid _ | securityControlCommand acpSeid _
  | delayReportCommand acpSeid _ => [acpSeid]
  | setConfigurationCommand acpSeid intSeid _ => [acpSeid, intSeid]
  | startCommand acpSeids | suspendCommand acpSeids => acpSeids
  | _ => []

def endpoints : Message → List EndpointInfo
  | discoverResponse endpoints => endpoints
  | _ => []

def capabilities : Message → List ServiceCapabilities
  | getCapabilitiesResponse capabilities | getAllCapabilitiesResponse capabilities
  | getConfigurationResponse capabilities | setConfigurationCommand _ _ capabilities
  | reconfigureCommand _ capabilities => capabilities
  | _ => []

/-- Only `Unknown` messages have this signal and type. -/
def Untyped (signal : SignalIdentifier) (type : MessageType) : Prop :=
  ∀ message : Message, message.signalIdentifier = signal → message.messageType = type →
    ∃ payload, message = .unknown signal type payload

/-- The values of a message fit the fields they are sent in, and it is written with the
    variant its signal and type have. -/
structure WellFormed (message : Message) : Prop where
  seids : ∀ seid ∈ message.seids, seid.toNat < 64
  endpoints : ∀ info ∈ message.endpoints, info.InRange
  capabilities : ∀ capability ∈ message.capabilities, capability.Plain
  unknown : ∀ signal type payload, message = .unknown signal type payload →
    Untyped signal type ∧ type ≠ .generalReject

theorem Untyped.ne {signal : SignalIdentifier} {type : MessageType}
    (huntyped : Untyped signal type) (message : Message) (htype : message.messageType = type)
    (hknown : ∀ signal type payload, message ≠ .unknown signal type payload) :
    signal ≠ message.signalIdentifier := by
  intro hsignal
  obtain ⟨payload, hmessage⟩ := huntyped message hsignal.symm htype
  exact hknown _ _ _ hmessage

/-- A pair of signal and type without a parser of its own stays octets. -/
theorem parse_untyped {signal : SignalIdentifier} {type : MessageType}
    (huntyped : Untyped signal type) (htype : type ≠ .generalReject) (payload : Bytes) :
    parse signal type payload = .ok (.unknown signal type payload) := by
  cases type with
  | generalReject => exact absurd rfl htype
  | command =>
    have h1 := huntyped.ne .discoverCommand rfl (by simp)
    have h2 := huntyped.ne (.getCapabilitiesCommand 0) rfl (by simp)
    have h3 := huntyped.ne (.getAllCapabilitiesCommand 0) rfl (by simp)
    have h4 := huntyped.ne (.setConfigurationCommand 0 0 []) rfl (by simp)
    have h5 := huntyped.ne (.getConfigurationCommand 0) rfl (by simp)
    have h6 := huntyped.ne (.reconfigureCommand 0 []) rfl (by simp)
    have h7 := huntyped.ne (.openCommand 0) rfl (by simp)
    have h8 := huntyped.ne (.startCommand []) rfl (by simp)
    have h9 := huntyped.ne (.closeCommand 0) rfl (by simp)
    have h10 := huntyped.ne (.suspendCommand []) rfl (by simp)
    have h11 := huntyped.ne (.abortCommand 0) rfl (by simp)
    have h12 := huntyped.ne (.securityControlCommand 0 []) rfl (by simp)
    have h13 := huntyped.ne (.delayReportCommand 0 0) rfl (by simp)
    simp only [signalIdentifier] at *
    simp only [parse, parseCommand, h1, h2, h3, h4, h5, h6, h7, h8, h9, h10, h11, h12,
      h13, if_false]
  | responseAccept =>
    have h1 := huntyped.ne (.discoverResponse []) rfl (by simp)
    have h2 := huntyped.ne (.getCapabilitiesResponse []) rfl (by simp)
    have h3 := huntyped.ne (.getAllCapabilitiesResponse []) rfl (by simp)
    have h4 := huntyped.ne .setConfigurationResponse rfl (by simp)
    have h5 := huntyped.ne (.getConfigurationResponse []) rfl (by simp)
    have h6 := huntyped.ne .reconfigureResponse rfl (by simp)
    have h7 := huntyped.ne .openResponse rfl (by simp)
    have h8 := huntyped.ne .startResponse rfl (by simp)
    have h9 := huntyped.ne .closeResponse rfl (by simp)
    have h10 := huntyped.ne .suspendResponse rfl (by simp)
    have h11 := huntyped.ne .abortResponse rfl (by simp)
    have h12 := huntyped.ne .securityControlResponse rfl (by simp)
    have h13 := huntyped.ne .delayReportResponse rfl (by simp)
    simp only [signalIdentifier] at *
    simp only [parse, parseAccept, h1, h2, h3, h4, h5, h6, h7, h8, h9, h10, h11, h12, h13, if_false]
  | responseReject =>
    have h2 := huntyped.ne (.getCapabilitiesReject ⟨0⟩) rfl (by simp)
    have h3 := huntyped.ne (.getAllCapabilitiesReject ⟨0⟩) rfl (by simp)
    have h4 := huntyped.ne (.setConfigurationReject ⟨0⟩ ⟨0⟩) rfl (by simp)
    have h5 := huntyped.ne (.getConfigurationReject ⟨0⟩) rfl (by simp)
    have h6 := huntyped.ne (.reconfigureReject ⟨0⟩ ⟨0⟩) rfl (by simp)
    have h7 := huntyped.ne (.openReject ⟨0⟩) rfl (by simp)
    have h8 := huntyped.ne (.startReject 0 ⟨0⟩) rfl (by simp)
    have h9 := huntyped.ne (.closeReject ⟨0⟩) rfl (by simp)
    have h10 := huntyped.ne (.suspendReject 0 ⟨0⟩) rfl (by simp)
    have h12 := huntyped.ne (.securityControlReject ⟨0⟩) rfl (by simp)
    have h13 := huntyped.ne (.delayReportReject ⟨0⟩) rfl (by simp)
    simp only [signalIdentifier] at *
    simp only [parse, parseReject, h2, h3, h4, h5, h6, h7, h8, h9, h10, h12, h13, if_false]

theorem map_seid_shift (acpSeids : List UInt8) (hseids : ∀ seid ∈ acpSeids, seid.toNat < 64) :
    (acpSeids.map seid).map (fun value : UInt8 => value >>> 2) = acpSeids := by
  rw [List.map_map]
  conv_rhs => rw [← List.map_id acpSeids]
  apply List.map_congr_left
  intro value hvalue
  exact seid_shift value (hseids value hvalue)

/-- Every well-formed message reads back from its payload. -/
theorem parse_payload {message : Message} (hwell : message.WellFormed) {payload : Bytes}
    (hpayload : message.payload = .ok payload) :
    parse message.signalIdentifier message.messageType payload = .ok message := by
  have hseids := hwell.seids
  have hcapabilities := hwell.capabilities
  cases message with
  | discoverResponse endpoints =>
    cases hpayload
    have hparse := parseEndpoints_toBytes endpoints hwell.endpoints
    have hlength := length_flatMap_toBytes endpoints
    change parseAccept .discover _ = _
    simp only [parseAccept, hlength, ne_eq, not_true_eq_false, if_true, if_false, hparse]
    rfl
  | getCapabilitiesCommand acpSeid | getAllCapabilitiesCommand acpSeid
  | getConfigurationCommand acpSeid | openCommand acpSeid | closeCommand acpSeid
  | abortCommand acpSeid =>
    cases hpayload
    have hshift := seid_shift acpSeid (hseids acpSeid List.mem_cons_self)
    conv_rhs => rw [← hshift]
    rfl
  | getCapabilitiesResponse capabilities | getAllCapabilitiesResponse capabilities
  | getConfigurationResponse capabilities =>
    have hparse := ServiceCapabilities.parseAll_serializeAll capabilities hcapabilities hpayload
    change (ServiceCapabilities.parseAll payload).map _ = _
    rw [hparse]
    rfl
  | setConfigurationCommand acpSeid intSeid capabilities =>
    obtain ⟨bytes, hbytes, hpayload⟩ := except_bind_eq_ok hpayload
    cases hpayload
    have hparse := ServiceCapabilities.parseAll_serializeAll capabilities hcapabilities hbytes
    change (ServiceCapabilities.parseAll bytes).map _ = _
    rw [hparse, seid_shift acpSeid (hseids acpSeid List.mem_cons_self),
      seid_shift intSeid (hseids intSeid (by simp [seids]))]
    rfl
  | reconfigureCommand acpSeid capabilities =>
    obtain ⟨bytes, hbytes, hpayload⟩ := except_bind_eq_ok hpayload
    cases hpayload
    have hparse := ServiceCapabilities.parseAll_serializeAll capabilities hcapabilities hbytes
    change (ServiceCapabilities.parseAll bytes).map _ = _
    rw [hparse, seid_shift acpSeid (hseids acpSeid List.mem_cons_self)]
    rfl
  | startCommand acpSeids =>
    cases hpayload
    exact congrArg (fun seids => Except.ok (startCommand seids)) (map_seid_shift acpSeids hseids)
  | suspendCommand acpSeids =>
    cases hpayload
    exact congrArg (fun seids => Except.ok (suspendCommand seids)) (map_seid_shift acpSeids hseids)
  | startReject acpSeid errorCode | suspendReject acpSeid errorCode
  | securityControlCommand acpSeid data =>
    cases hpayload
    have hshift := seid_shift acpSeid (hseids acpSeid List.mem_cons_self)
    conv_rhs => rw [← hshift]
    rfl
  | delayReportCommand acpSeid delay =>
    cases hpayload
    have hshift := seid_shift acpSeid (hseids acpSeid List.mem_cons_self)
    conv_rhs => rw [← hshift, ← u16FromLe_bytes delay]
    rfl
  | unknown signal type bytes =>
    cases hpayload
    obtain ⟨huntyped, htype⟩ := hwell.unknown signal type _ rfl
    exact parse_untyped huntyped htype _
  | _ =>
    cases hpayload
    rfl

end Message

/-! ## 4. Reassembly -/

theorem continuationPdus_last (transactionLabel : UInt8) (messageType : MessageType)
    (chunk : Bytes) : continuationPdus transactionLabel messageType [chunk] =
      [packetHeader transactionLabel .end messageType :: chunk] := rfl

theorem continuationPdus_cons (transactionLabel : UInt8) (messageType : MessageType)
    (chunk next : Bytes) (rest : List Bytes) :
    continuationPdus transactionLabel messageType (chunk :: next :: rest) =
      (packetHeader transactionLabel .continue messageType :: chunk)
        :: continuationPdus transactionLabel messageType (next :: rest) := by
  simp [continuationPdus, List.mapIdx_cons]

namespace MessageAssembler

theorem push_continue {label : UInt8} (hlabel : label.toNat < 16) (type : MessageType)
    (pending : PendingMessage) (fragment : Bytes) :
    push ⟨some pending⟩ (packetHeader label .continue type :: fragment) =
      pushContinuation pending label type false fragment := by
  obtain ⟨hshift, hpacket, hmessage⟩ := packetHeader_fields .continue type label hlabel
  simp only [push, hshift, hpacket, hmessage]

theorem push_end {label : UInt8} (hlabel : label.toNat < 16) (type : MessageType)
    (pending : PendingMessage) (fragment : Bytes) :
    push ⟨some pending⟩ (packetHeader label .end type :: fragment) =
      pushContinuation pending label type true fragment := by
  obtain ⟨hshift, hpacket, hmessage⟩ := packetHeader_fields .end type label hlabel
  simp only [push, hshift, hpacket, hmessage]

/-- The continuations of a message complete it at the last of them. -/
theorem pushAll_continuations {message : Message} (chunks : List Bytes) (hchunks : chunks ≠ []) :
    ∀ pending : PendingMessage, pending.transactionLabel.toNat < 16 →
    pending.receivedPackets.toNat + chunks.length = pending.expectedPackets.toNat →
    Message.parse pending.signalIdentifier pending.messageType
      (pending.payload ++ chunks.flatten) = .ok message →
    pushAll ⟨some pending⟩
        (continuationPdus pending.transactionLabel pending.messageType chunks) =
      List.replicate (chunks.length - 1) (.ok none) ++
        [.ok (some (pending.transactionLabel, message))] := by
  induction chunks with
  | nil => exact absurd rfl hchunks
  | cons chunk rest ih =>
    intro pending hlabel hcount hparse
    have hexpected := pending.expectedPackets.toNat_lt
    rw [List.length_cons] at hcount
    have hreceived : (saturatingSucc pending.receivedPackets).toNat =
        pending.receivedPackets.toNat + 1 := saturatingSucc_toNat (by omega)
    have hroom : ¬ saturatingSucc pending.receivedPackets > pending.expectedPackets := by
      rw [gt_iff_lt, UInt8.lt_iff_toNat_lt, hreceived]
      omega
    cases rest with
    | nil =>
      have hlast : saturatingSucc pending.receivedPackets = pending.expectedPackets := by
        apply UInt8.toNat.inj
        rw [hreceived]
        exact hcount
      rw [List.flatten_cons, List.flatten_nil, List.append_nil] at hparse
      rw [continuationPdus_last, pushAll, push_end hlabel, pushContinuation]
      simp [pushAll, hlast, hparse]
    | cons next rest =>
      rw [continuationPdus_cons, pushAll, push_continue hlabel, pushContinuation]
      simp only [ne_eq, not_true_eq_false, or_self, if_false, hroom, Bool.false_eq_true,
        Outcome.ok_result, Outcome.ok_state]
      have hnext : (saturatingSucc pending.receivedPackets).toNat + (next :: rest).length =
          pending.expectedPackets.toNat := by omega
      have hpayload : pending.payload ++ chunk ++ (next :: rest).flatten =
          pending.payload ++ (chunk :: next :: rest).flatten := by
        rw [List.append_assoc, ← List.flatten_cons]
      rw [← hpayload] at hparse
      have hlater := ih (by simp) { pending with
        receivedPackets := saturatingSucc pending.receivedPackets
        payload := pending.payload ++ chunk } hlabel hnext hparse
      rw [hlater]
      rfl

theorem push_single {label : UInt8} (hlabel : label.toNat < 16) {type : MessageType}
    {signal : UInt8} {payload : Bytes} {message : Message}
    (hparse : Message.parse ⟨signal &&& 0x3F⟩ type payload = .ok message)
    (assembler : MessageAssembler) :
    assembler.push (packetHeader label .single type :: signal :: payload) =
      .ok ⟨none⟩ (some (label, message)) := by
  obtain ⟨hshift, hpacket, hmessage⟩ := packetHeader_fields .single type label hlabel
  simp only [push, hshift, hpacket, hmessage, hparse]

theorem push_start {label : UInt8} (hlabel : label.toNat < 16) (type : MessageType)
    (signal count : UInt8) (hcount : ¬ count < 2) (payload : Bytes)
    (assembler : MessageAssembler) :
    assembler.push (packetHeader label .start type :: signal :: count :: payload) =
      .ok ⟨some ⟨label, type, ⟨signal &&& 0x3F⟩, count, 1, payload⟩⟩ none := by
  obtain ⟨hshift, hpacket, hmessage⟩ := packetHeader_fields .start type label hlabel
  simp only [push, hshift, hpacket, hmessage, hcount, if_false]

end MessageAssembler

/-! ## 5. Whole messages -/

namespace Message

theorem masked_signal {message : Message} (hsignal : message.signalIdentifier.value.toNat < 64) :
    (⟨message.signalIdentifier.value &&& 0x3F⟩ : SignalIdentifier) = message.signalIdentifier := by
  have hmask : message.signalIdentifier.value &&& 0x3F = message.signalIdentifier.value :=
    forall_octet_lt (P := fun value => value &&& 0x3F = value) (by decide) _ hsignal
  rw [hmask]

theorem masked_twice (value : UInt8) : (value &&& 0x3F) &&& 0x3F = value &&& 0x3F := by
  rw [UInt8.and_assoc, UInt8.and_self]

theorem length_continuationPdus {label : UInt8} {type : MessageType} {size : Nat}
    {chunks : List Bytes} (hchunks : ∀ chunk ∈ chunks, chunk.length ≤ size) :
    ∀ pdu ∈ continuationPdus label type chunks, pdu.length ≤ size + 1 := by
  intro pdu hpdu
  obtain ⟨index, hindex, rfl⟩ := List.mem_mapIdx.mp hpdu
  exact Nat.succ_le_succ (hchunks _ (List.getElem_mem hindex))

theorem pushAll_fragments {message : Message} {label : UInt8} (hlabel : label.toNat < 16)
    {payload : Bytes} {start size : Nat} (hsize : 0 < size) (hstart : start < payload.length)
    (hcount : 1 + (payload.length - start + size - 1) / size < 256)
    (hparse : parse ⟨message.signalIdentifier.value &&& 0x3F &&& 0x3F⟩ message.messageType payload =
      .ok message) (assembler : MessageAssembler) :
    assembler.pushAll ((packetHeader label .start message.messageType
          :: (message.signalIdentifier.value &&& 0x3F)
          :: UInt8.ofNat (1 + (payload.length - start + size - 1) / size) :: payload.take start)
        :: continuationPdus label message.messageType (chunks size (payload.drop start))) =
      List.replicate (chunks size (payload.drop start)).length (.ok none) ++
        [.ok (some (label, message))] := by
  have hlength : (chunks size (payload.drop start)).length =
      (payload.length - start + size - 1) / size := by
    rw [length_chunks hsize, List.length_drop]
  have hpieces : 0 < (payload.length - start + size - 1) / size := Nat.div_pos (by omega) hsize
  have hne : chunks size (payload.drop start) ≠ [] := by
    rw [← List.length_pos_iff, hlength]
    exact hpieces
  have hpackets : (UInt8.ofNat (1 + (payload.length - start + size - 1) / size)).toNat =
      1 + (payload.length - start + size - 1) / size := by
    rw [UInt8.toNat_ofNat']
    exact Nat.mod_eq_of_lt hcount
  have htwo : ¬ UInt8.ofNat (1 + (payload.length - start + size - 1) / size) < 2 := by
    rw [UInt8.lt_iff_toNat_lt, hpackets]
    exact Nat.not_lt.mpr (Nat.succ_le_of_lt (Nat.lt_add_of_pos_right hpieces))
  have hwhole : payload.take start ++ (chunks size (payload.drop start)).flatten = payload := by
    rw [flatten_chunks hsize, List.take_append_drop]
  rw [← hwhole] at hparse
  have hlater := MessageAssembler.pushAll_continuations _ hne
    ⟨label, message.messageType, ⟨message.signalIdentifier.value &&& 0x3F &&& 0x3F⟩,
      UInt8.ofNat (1 + (payload.length - start + size - 1) / size), 1, payload.take start⟩
    hlabel (by rw [hpackets, hlength]; rfl) hparse
  rw [MessageAssembler.pushAll, MessageAssembler.push_start hlabel _ _ _ htwo, Outcome.ok_state,
    hlater, Outcome.ok_result, ← List.cons_append, ← List.replicate_succ,
    Nat.sub_add_cancel (List.length_pos_iff.mpr hne)]

/-- The PDUs of a message fit the MTU, and the last of them completes it. -/
theorem pushAll_encodePdus {message : Message} (hwell : message.WellFormed)
    (hsignal : message.signalIdentifier.value.toNat < 64) {label : UInt8} {mtu : Nat}
    {pdus : List Bytes} (hencode : message.encodePdus label mtu = .ok pdus)
    (assembler : MessageAssembler) :
    (∀ pdu ∈ pdus, pdu.length ≤ mtu) ∧
    assembler.pushAll pdus =
      List.replicate (pdus.length - 1) (.ok none) ++ [.ok (some (label, message))] := by
  rw [encodePdus] at hencode
  split at hencode
  · cases hencode
  · next hrange =>
    obtain ⟨payload, hpayload, hencode⟩ := except_bind_eq_ok hencode
    have hlabel : label.toNat < 16 := by
      have hle : ¬ label > 0x0F := fun h => hrange (.inl h)
      rw [gt_iff_lt, UInt8.lt_iff_toNat_lt] at hle
      exact Nat.lt_of_not_le fun h => hle (Nat.lt_of_lt_of_le (by decide) h)
    have hparse := parse_payload hwell hpayload
    rw [← masked_signal hsignal, ← masked_twice] at hparse
    dsimp only at hencode
    split at hencode
    · next hfits =>
      cases hencode
      refine ⟨?_, ?_⟩
      · intro pdu hpdu
        rw [List.mem_singleton.mp hpdu]
        exact hfits
      rw [MessageAssembler.pushAll, MessageAssembler.push_single hlabel hparse]
      rfl
    · next hlong =>
      split at hencode
      · cases hencode
      · next hcapacity =>
        split at hencode
        · next hcount =>
          cases hencode
          refine ⟨?_, ?_⟩
          · intro pdu hpdu
            rcases List.mem_cons.mp hpdu with rfl | hpdu
            · simp only [List.length_cons, List.length_take]
              omega
            · have hle := length_continuationPdus (chunksLoop_length _ _) pdu hpdu
              omega
          · have hcontinued : (continuationPdus label message.messageType
                (chunks (mtu - 1) (payload.drop (mtu - 3)))).length =
                (chunks (mtu - 1) (payload.drop (mtu - 3))).length := List.length_mapIdx
            rw [pushAll_fragments hlabel (by omega) (by omega) hcount hparse, List.length_cons,
              hcontinued, Nat.add_sub_cancel]
        · cases hencode

inductive NotEncodable (message : Message) (label : UInt8) (mtu : Nat) : Prop
  | label (hlabel : 15 < label.toNat)
  | mtu (hmtu : mtu < 3)
  | noRoom (hmtu : mtu = 3) (payload : Bytes) (hpayload : message.payload = .ok payload)
    (hlong : 1 < payload.length)
  | capability (capability : ServiceCapabilities) (hmem : capability ∈ message.capabilities)
    (hlong : 255 < capability.data.length)
  | packets (payload : Bytes) (hpayload : message.payload = .ok payload)
    (hlong : (mtu - 3) + 254 * (mtu - 1) < payload.length)

theorem payload_error {message : Message} {error : Error}
    (hpayload : message.payload = .error error) :
    ∃ capability ∈ message.capabilities, 255 < capability.data.length := by
  cases message with
  | getCapabilitiesResponse capabilities | getAllCapabilitiesResponse capabilities
  | getConfigurationResponse capabilities =>
    exact ServiceCapabilities.serializeAll_error hpayload
  | setConfigurationCommand acpSeid intSeid capabilities
  | reconfigureCommand acpSeid capabilities =>
    rcases except_bind_eq_error hpayload with hserialize | ⟨bytes, -, hpure⟩
    · exact ServiceCapabilities.serializeAll_error hserialize
    · cases hpure
  | _ => cases hpayload

theorem encodePdus_error {message : Message} {label : UInt8} {mtu : Nat} {error : Error}
    (hencode : message.encodePdus label mtu = .error error) : message.NotEncodable label mtu := by
  rw [encodePdus] at hencode
  split at hencode
  · next hrange =>
    rcases hrange with hlabel | hmtu
    · rw [gt_iff_lt, UInt8.lt_iff_toNat_lt] at hlabel
      exact .label hlabel
    · exact .mtu hmtu
  · next hrange =>
    have hmtu : ¬ mtu < 3 := fun h => hrange (.inr h)
    rcases except_bind_eq_error hencode with hpayload | ⟨payload, hpayload, hencode⟩
    · obtain ⟨capability, hmem, hlong⟩ := payload_error hpayload
      exact .capability capability hmem hlong
    · dsimp only at hencode
      split at hencode
      · cases hencode
      · next hlong =>
        split at hencode
        · exact .noRoom (by omega) payload hpayload (by omega)
        · next hcapacity =>
          split at hencode
          · cases hencode
          · next hcount =>
            apply NotEncodable.packets payload hpayload
            -- 255 pieces or more after the start packet leave at least 254 full ones
            have hpieces : 255 ≤ (payload.length - (mtu - 3) + (mtu - 1) - 1) / (mtu - 1) := by
              omega
            rw [Nat.le_div_iff_mul_le (by omega)] at hpieces
            omega

/-- **Fragmentation is undone by reassembly.**  Whatever the assembler held before, the
    packets of a well-formed message fit the MTU and give nothing until the last one
    gives the message with its label; and only a label or MTU out of range, a long
    capability or too many packets keep a message from being encoded. -/
theorem encodePdus_reassembled (message : Message) (hwell : message.WellFormed)
    (hsignal : message.signalIdentifier.value.toNat < 64) (label : UInt8) (mtu : Nat)
    (assembler : MessageAssembler) :
    (∀ pdus, message.encodePdus label mtu = .ok pdus →
      (∀ pdu ∈ pdus, pdu.length ≤ mtu) ∧
      assembler.pushAll pdus =
        List.replicate (pdus.length - 1) (.ok none) ++ [.ok (some (label, message))]) ∧
    (∀ error, message.encodePdus label mtu = .error error → message.NotEncodable label mtu) :=
  ⟨fun _ hencode => pushAll_encodePdus hwell hsignal hencode assembler,
    fun _ hencode => encodePdus_error hencode⟩

theorem start_reassembled :
    (∀ pdu ∈ [[0x54, 0x07, 0x03, 0x04, 0x08], [0x58, 0x0C, 0x10, 0x14, 0x18], [0x5C, 0x1C]],
      List.length (α := UInt8) pdu ≤ 5) ∧
    (MessageAssembler.mk (some ⟨5, .command, ⟨6⟩, 2, 1, []⟩)).pushAll
        [[0x54, 0x07, 0x03, 0x04, 0x08], [0x58, 0x0C, 0x10, 0x14, 0x18], [0x5C, 0x1C]] =
      [.ok none, .ok none, .ok (some (5, .startCommand [1, 2, 3, 4, 5, 6, 7]))] := by
  refine (encodePdus_reassembled (.startCommand [1, 2, 3, 4, 5, 6, 7]) ?_ (by decide) 5 5 _).1 _ rfl
  constructor
  · set_option maxRecDepth 30000 in decide
  · intro info hinfo
    cases hinfo
  · intro capability hcapability
    cases hcapability
  · intro signal type payload hunknown
    cases hunknown

/-- A signal identifier of more than six bits is cut: the message comes back as another. -/
theorem long_signal_cut :
    WellFormed (.unknown ⟨0x41⟩ .command []) ∧
    encodePdus (.unknown ⟨0x41⟩ .command []) 0 48 = .ok [[0x00, 0x01]] ∧
    (MessageAssembler.mk none).pushAll [[0x00, 0x01]] = [.ok (some (0, .discoverCommand))] := by
  refine ⟨?_, rfl, rfl⟩
  constructor
  · intro seid hseid
    cases hseid
  · intro info hinfo
    cases hinfo
  · intro capability hcapability
    cases hcapability
  · intro signal type payload hunknown
    obtain ⟨rfl, rfl, rfl⟩ := Message.unknown.inj hunknown
    refine ⟨?_, by decide⟩
    intro message hsignal htype
    cases message with
    | unknown signal type payload =>
      obtain rfl : signal = ⟨0x41⟩ := hsignal
      obtain rfl : type = .command := htype
      exact ⟨payload, rfl⟩
    | _ => cases hsignal

end Message

end Bumble.Avdtp
