import Bumble.AclFragments

/-!
# Reassembly undoes fragmentation

A start packet throws away whatever the assembler had before, so what a list of
fragments returns does not depend on it.  The pieces then add up to the PDU, and
the last one completes it.  With pieces of one octet the start does not hold the
length and the assembler refuses it, and every continuation after it.
-/

namespace Bumble.Hci

open AclDataPacketAssembler

/-! ## 1. Packets of pieces -/

def continuationPacket (connectionHandle : UInt16) (bcFlag : UInt8) (data : Bytes) :
    AclDataPacket :=
  fragmentPacket connectionHandle bcFlag false 1 data

section Packets

variable {connectionHandle : UInt16} {bcFlag : UInt8} {flushable : Bool}

theorem mapIdx_fragmentPacket (first : Bytes) (rest : List Bytes) :
    (first :: rest).mapIdx (fragmentPacket connectionHandle bcFlag flushable) =
      fragmentPacket connectionHandle bcFlag flushable 0 first ::
        rest.map (continuationPacket connectionHandle bcFlag) := by
  rw [List.mapIdx_cons]
  congr 1
  apply List.ext_getElem?
  intro index
  rw [List.getElem?_mapIdx, List.getElem?_map]
  rfl

theorem length_word {data : Bytes} (hdata : data.length ≤ 65535) :
    (UInt16.ofNat data.length).toNat = data.length := by
  rw [UInt16.toNat_ofNat']
  exact Nat.mod_eq_of_lt (Nat.lt_succ_of_le hdata)

theorem startFlag_cases (flushable : Bool) :
    startFlag flushable = hciAclPbFirstNonFlushable ∨
      startFlag flushable = hciAclPbFirstFlushable := by
  cases flushable
  · exact .inl rfl
  · exact .inr rfl

attribute [local grind =] feed

theorem feed_start (assembler : AclDataPacketAssembler) {data : Bytes} (hdata : data.length ≤ 65535)
    (hlength : 2 ≤ data.length) :
    assembler.feed (fragmentPacket connectionHandle bcFlag flushable 0 data) =
      (⟨some connectionHandle, data, some (declaredLength data)⟩ :
        AclDataPacketAssembler).complete (declaredLength data) := by
  simp only [feed, fragmentPacket, length_word hdata, ne_eq, not_true_eq_false, if_true, if_false]
  rw [if_pos (startFlag_cases flushable), if_neg (Nat.not_lt.mpr hlength)]

theorem feed_short_start (assembler : AclDataPacketAssembler) {data : Bytes}
    (hlength : data.length < 2) :
    ∃ error, assembler.feed (fragmentPacket connectionHandle bcFlag flushable 0 data) =
      .fail .new error := by
  have hdata : data.length ≤ 65535 := by omega
  simp only [feed, fragmentPacket, length_word hdata, ne_eq, not_true_eq_false, if_true, if_false]
  rw [if_pos (startFlag_cases flushable), if_pos hlength]
  exact ⟨_, rfl⟩

theorem feed_continuation {current data : Bytes} {expected : Nat} (hdata : data.length ≤ 65535) :
    (⟨some connectionHandle, current, some expected⟩ : AclDataPacketAssembler).feed
        (continuationPacket connectionHandle bcFlag data) =
      (⟨some connectionHandle, current ++ data, some expected⟩ :
        AclDataPacketAssembler).complete expected := by
  simp [feed, continuationPacket, fragmentPacket, length_word hdata, hciAclPbContinuation,
    hciAclPbFirstNonFlushable, hciAclPbFirstFlushable]

theorem feed_stray (connectionHandle : UInt16) (bcFlag : UInt8) (data : Bytes) :
    ∃ error, AclDataPacketAssembler.new.feed (continuationPacket connectionHandle bcFlag data) =
      .fail .new error := by
  rw [feed]
  split
  · exact ⟨_, rfl⟩
  · simp [continuationPacket, fragmentPacket, hciAclPbContinuation, hciAclPbFirstNonFlushable,
      hciAclPbFirstFlushable, new]

theorem complete_unfinished {current : Bytes} {expected : Nat} (hless : current.length < expected)
    (handle length : Option _) :
    (⟨handle, current, length⟩ : AclDataPacketAssembler).complete expected =
      .ok ⟨handle, current, length⟩ none := by
  rw [complete, if_pos hless]

theorem complete_whole {current : Bytes} {expected : Nat} (hwhole : current.length = expected)
    (handle : Option UInt16) (length : Option Nat) :
    (⟨handle, current, length⟩ : AclDataPacketAssembler).complete expected =
      .ok .new (some current) := by
  rw [complete, if_neg (Nat.not_lt.mpr hwhole.ge), if_neg (Nat.not_lt.mpr hwhole.le)]
  rfl

theorem feedAll_append (packets more : List AclDataPacket) :
    ∀ (assembler : AclDataPacketAssembler),
      assembler.feedAll (packets ++ more) =
        (((assembler.feedAll packets).1.feedAll more).1,
          (assembler.feedAll packets).2 ++ ((assembler.feedAll packets).1.feedAll more).2) := by
  induction packets with
  | nil =>
    intro assembler
    rfl
  | cons packet packets ih =>
    intro assembler
    simp only [List.cons_append, feedAll, ih]

theorem feedAll_continuations (expected : Nat) (pieces : List Bytes)
    (hpieces : ∀ piece ∈ pieces, piece.length ≤ 65535) : ∀ (current : Bytes),
    current.length + pieces.flatten.length < expected →
    (⟨some connectionHandle, current, some expected⟩ : AclDataPacketAssembler).feedAll
        (pieces.map (continuationPacket connectionHandle bcFlag)) =
      (⟨some connectionHandle, current ++ pieces.flatten, some expected⟩,
        List.replicate pieces.length (.ok none)) := by
  induction pieces with
  | nil =>
    intro current _
    simp [feedAll]
  | cons piece pieces ih =>
    intro current hless
    rw [List.flatten_cons, List.length_append] at hless
    have hpiece := hpieces piece List.mem_cons_self
    have hcurrent : (current ++ piece).length < expected := by
      rw [List.length_append]
      omega
    have hrest : (current ++ piece).length + pieces.flatten.length < expected := by
      rw [List.length_append]
      omega
    simp only [List.map_cons, feedAll, feed_continuation hpiece, complete_unfinished hcurrent,
      Outcome.ok_state, Outcome.ok_result]
    rw [ih (fun other hother => hpieces other (List.mem_cons_of_mem _ hother)) _ hrest]
    simp [List.replicate_succ]

theorem feedAll_stray (pieces : List Bytes) :
    (AclDataPacketAssembler.new.feedAll
      (pieces.map (continuationPacket connectionHandle bcFlag))).1 = .new ∧
    ∀ result ∈ (AclDataPacketAssembler.new.feedAll
      (pieces.map (continuationPacket connectionHandle bcFlag))).2, ∃ error,
        result = .error error := by
  induction pieces with
  | nil => exact ⟨rfl, List.forall_mem_nil _⟩
  | cons piece pieces ih =>
    obtain ⟨error, hfeed⟩ := feed_stray connectionHandle bcFlag piece
    simp only [List.map_cons, feedAll, hfeed, Outcome.fail_state, Outcome.fail_result]
    refine ⟨ih.1, ?_⟩
    intro result hresult
    rcases List.mem_cons.mp hresult with rfl | hresult
    · exact ⟨error, rfl⟩
    · exact ih.2 result hresult

end Packets

/-! ## 2. Fragments of one PDU -/

/-- The fragments in order return nothing before the last of them and the PDU
    then, and leave the assembler idle. -/
def RoundTrips (assembler : AclDataPacketAssembler) (packets : List AclDataPacket) (pdu : Bytes) :
    Prop :=
  assembler.feedAll packets =
    (.new, List.replicate (packets.length - 1) (.ok none) ++ [.ok (some pdu)])

/-- What `fragment_l2cap_pdu` returns: the pieces of a PDU of the declared
    length, none of them empty or too long for its packet. -/
structure Fragmented (connectionHandle : UInt16) (bcFlag : UInt8) (maxFragmentSize : Nat)
    (pdu : Bytes) (flushable : Bool) (packets : List AclDataPacket) (first : Bytes)
    (rest : List Bytes) : Prop where
  made : packets = fragmentPacket connectionHandle bcFlag flushable 0 first ::
    rest.map (continuationPacket connectionHandle bcFlag)
  start : first = pdu.take maxFragmentSize
  whole : first ++ rest.flatten = pdu
  length : 4 ≤ pdu.length
  declared : declaredLength pdu = pdu.length
  positive : 0 < maxFragmentSize
  firstShort : first.length ≤ 65535
  short : ∀ piece ∈ rest, piece.length ≤ 65535
  nonempty : ∀ piece ∈ rest, piece ≠ []

section Fragments

variable {connectionHandle : UInt16} {bcFlag : UInt8} {maxFragmentSize : Nat} {pdu : Bytes}
  {flushable : Bool} {packets : List AclDataPacket} {first : Bytes} {rest : List Bytes}

theorem fragmented_of_ok
    (hfragment : fragmentL2capPdu connectionHandle bcFlag maxFragmentSize pdu flushable =
      .ok packets) :
    ∃ first rest,
      Fragmented connectionHandle bcFlag maxFragmentSize pdu flushable packets first rest := by
  rw [fragmentL2capPdu] at hfragment
  split at hfragment
  · cases hfragment
  next hsize =>
  split at hfragment
  · cases hfragment
  next hlength =>
  split at hfragment
  · cases hfragment
  next hdeclared =>
  have hpositive : 0 < maxFragmentSize := by omega
  have hpdu : pdu ≠ [] := by
    rintro rfl
    exact hlength (by decide)
  obtain ⟨rest, hchunks⟩ := chunks_first maxFragmentSize hpdu
  have hshort : ∀ piece ∈ chunks maxFragmentSize pdu, piece.length ≤ 65535 := by
    intro piece hpiece
    have hpiece := chunksLoop_length maxFragmentSize pdu.length piece hpiece
    omega
  have hnonempty : ∀ piece ∈ chunks maxFragmentSize pdu, piece ≠ [] :=
    chunksLoop_ne_nil hpositive pdu.length
  have hflatten := flatten_chunks hpositive pdu
  rw [hchunks] at hfragment hshort hnonempty hflatten
  cases hfragment
  refine ⟨pdu.take maxFragmentSize, rest, mapIdx_fragmentPacket _ rest, rfl, hflatten, by omega,
    not_not.mp hdeclared, hpositive, hshort _ List.mem_cons_self, ?_, ?_⟩
  · exact fun piece hpiece => hshort piece (List.mem_cons_of_mem _ hpiece)
  · exact fun piece hpiece => hnonempty piece (List.mem_cons_of_mem _ hpiece)

theorem declaredLength_take {size : Nat} (hsize : 2 ≤ size) (pdu : Bytes) :
    declaredLength (pdu.take size) = declaredLength pdu := by
  have hget : ∀ index < 2, (pdu.take size).getD index 0 = pdu.getD index 0 := by
    intro index hindex
    rw [List.getD_eq_getElem?_getD, List.getD_eq_getElem?_getD, List.getElem?_take_of_lt (by omega)]
  rw [declaredLength, declaredLength, hget 0 (by decide), hget 1 (by decide)]

theorem Fragmented.header
    (hfragmented : Fragmented connectionHandle bcFlag maxFragmentSize pdu flushable
      packets first rest)
    (hsize : 2 ≤ maxFragmentSize) : 2 ≤ first.length ∧ declaredLength first = pdu.length := by
  have hpdu := hfragmented.length
  constructor
  · rw [hfragmented.start, List.length_take]
    omega
  · rw [hfragmented.start, declaredLength_take hsize, hfragmented.declared]

theorem length_flatten_take (hnonempty : ∀ piece ∈ rest, piece ≠ []) {count : Nat}
    (hcount : count < rest.length) : (rest.take count).flatten.length < rest.flatten.length := by
  have hsplit : rest.flatten = (rest.take count).flatten ++ (rest.drop count).flatten := by
    rw [← List.flatten_append, List.take_append_drop]
  obtain ⟨piece, hdrop⟩ : ∃ piece, rest.drop count = piece :: rest.drop (count + 1) :=
    ⟨_, List.drop_eq_getElem_cons hcount⟩
  have hpiece : piece ≠ [] := by
    apply hnonempty
    apply List.mem_of_mem_drop
    rw [hdrop]
    exact List.mem_cons_self
  have hlength := List.length_pos_iff.mpr hpiece
  rw [hsplit, hdrop, List.length_append, List.flatten_cons, List.length_append]
  omega

/-- **A part of the fragments.**  It returns nothing. -/
theorem Fragmented.part
    (hfragmented : Fragmented connectionHandle bcFlag maxFragmentSize pdu flushable
      packets first rest)
    (hsize : 2 ≤ maxFragmentSize) (assembler : AclDataPacketAssembler) {count : Nat}
    (hcount : count < rest.length) :
    assembler.feedAll (packets.take (count + 1)) =
      (⟨some connectionHandle, first ++ (rest.take count).flatten, some pdu.length⟩,
        List.replicate (count + 1) (.ok none)) := by
  obtain ⟨hlength, hdeclared⟩ := hfragmented.header hsize
  have hless : first.length + (rest.take count).flatten.length < pdu.length := by
    have hwhole := congrArg List.length hfragmented.whole
    have hpart := length_flatten_take hfragmented.nonempty hcount
    rw [List.length_append] at hwhole
    omega
  rw [hfragmented.made, List.take_succ_cons, ← List.map_take]
  simp only [feedAll, feed_start assembler hfragmented.firstShort hlength, hdeclared]
  rw [complete_unfinished (by omega)]
  simp only [Outcome.ok_state, Outcome.ok_result]
  rw [feedAll_continuations pdu.length (rest.take count)
    (fun piece hpiece => hfragmented.short piece (List.mem_of_mem_take hpiece)) first hless]
  rw [List.length_take_of_le hcount.le, List.replicate_succ]

/-- **All fragments.** -/
theorem Fragmented.roundTrips
    (hfragmented : Fragmented connectionHandle bcFlag maxFragmentSize pdu flushable
      packets first rest)
    (hsize : 2 ≤ maxFragmentSize) (assembler : AclDataPacketAssembler) :
    RoundTrips assembler packets pdu := by
  rw [RoundTrips]
  rcases List.eq_nil_or_concat' rest with hnil | ⟨earlier, last, hrest⟩
  · obtain ⟨hlength, hdeclared⟩ := hfragmented.header hsize
    have hfirst : first = pdu := by
      have hwhole := hfragmented.whole
      rw [hnil, List.flatten_nil, List.append_nil] at hwhole
      exact hwhole
    rw [hfragmented.made, hnil]
    simp only [List.map_nil, feedAll, feed_start assembler hfragmented.firstShort hlength]
    rw [complete_whole (by rw [hdeclared, hfirst]), hfirst]
    rfl
  · have hcount : earlier.length < rest.length := by
      rw [hrest, List.length_append, List.length_singleton]
      omega
    have hpart := hfragmented.part hsize assembler hcount
    have hsplit : packets = packets.take (earlier.length + 1) ++
        [continuationPacket connectionHandle bcFlag last] := by
      rw [hfragmented.made, hrest]
      simp
    have htake : rest.take earlier.length = earlier := by
      rw [hrest]
      simp
    have hlast : last.length ≤ 65535 := by
      apply hfragmented.short
      rw [hrest]
      exact List.mem_append_right _ List.mem_cons_self
    have hwhole : first ++ earlier.flatten ++ last = pdu := by
      have hwhole := hfragmented.whole
      rw [hrest, List.flatten_append, List.flatten_singleton, ← List.append_assoc] at hwhole
      exact hwhole
    have hlength : packets.length - 1 = earlier.length + 1 := by
      rw [hfragmented.made, List.length_cons, List.length_map, hrest, List.length_append,
        List.length_singleton]
      omega
    rw [hlength, hsplit, feedAll_append, hpart, htake]
    simp only [feedAll, feed_continuation hlast]
    rw [complete_whole (by rw [hwhole]), hwhole]
    rfl

/-- **Fragments of one octet** are refused. -/
theorem Fragmented.refused
    (hfragmented : Fragmented connectionHandle bcFlag maxFragmentSize pdu flushable
      packets first rest)
    (hsize : maxFragmentSize = 1) (assembler : AclDataPacketAssembler) (count : Nat) :
    ∀ result ∈ (assembler.feedAll (packets.take count)).2, ∃ error, result = .error error := by
  have hshort : first.length < 2 := by
    rw [hfragmented.start, hsize, List.length_take]
    omega
  cases count with
  | zero => exact List.forall_mem_nil _
  | succ count =>
    obtain ⟨error, hfeed⟩ : ∃ error, assembler.feed
        (fragmentPacket connectionHandle bcFlag flushable 0 first) = .fail .new error :=
      feed_short_start assembler hshort
    rw [hfragmented.made, List.take_succ_cons, ← List.map_take]
    simp only [feedAll, hfeed, Outcome.fail_state, Outcome.fail_result]
    intro result hresult
    rcases List.mem_cons.mp hresult with rfl | hresult
    · exact ⟨error, rfl⟩
    · exact (feedAll_stray (rest.take count)).2 result hresult

end Fragments

/-! ## 3. Streams -/

/-- A PDU that is sent in fragments, of which only the first `fed` arrive before
    the next PDU starts. -/
structure Transfer where
  bcFlag : UInt8
  maxFragmentSize : Nat
  pdu : Bytes
  flushable : Bool
  fed : Nat

/-- The fragments of the PDU; a refused PDU has none. -/
def Transfer.fragments (connectionHandle : UInt16) (transfer : Transfer) : List AclDataPacket :=
  match fragmentL2capPdu connectionHandle transfer.bcFlag transfer.maxFragmentSize transfer.pdu
    transfer.flushable with
  | .ok packets => packets
  | .error _ => []

/-- The PDU was accepted and all its fragments are fed. -/
def Transfer.complete (connectionHandle : UInt16) (transfer : Transfer) : Bool :=
  !(transfer.fragments connectionHandle).isEmpty &&
    (transfer.fragments connectionHandle).length ≤ transfer.fed

def streamPackets (connectionHandle : UInt16) (transfers : List Transfer) : List AclDataPacket :=
  transfers.flatMap fun transfer => (transfer.fragments connectionHandle).take transfer.fed

def returnedPdus (results : List (Except Error (Option Bytes))) : List Bytes :=
  results.filterMap fun result => result.toOption.join

section Streams

variable {connectionHandle : UInt16}

theorem returnedPdus_nothing {results : List (Except Error (Option Bytes))}
    (hresults : ∀ result ∈ results, result.toOption.join = none) : returnedPdus results = [] := by
  rw [returnedPdus, List.filterMap_eq_nil_iff]
  exact hresults

/-- A transfer returns its PDU where it is complete and its fragments are not single octets. -/
theorem returned_transfer (assembler : AclDataPacketAssembler) (transfer : Transfer) :
    returnedPdus (assembler.feedAll
        ((transfer.fragments connectionHandle).take transfer.fed)).2 =
      if transfer.complete connectionHandle = true ∧
        transfer.maxFragmentSize ≠ 1 then [transfer.pdu]
      else [] := by
  cases hfragment : fragmentL2capPdu connectionHandle transfer.bcFlag transfer.maxFragmentSize
      transfer.pdu transfer.flushable with
  | error error => simp [Transfer.complete, Transfer.fragments, hfragment, feedAll, returnedPdus]
  | ok packets =>
    have hfragments : transfer.fragments connectionHandle = packets := by
      simp [Transfer.fragments, hfragment]
    obtain ⟨first, rest, hfragmented⟩ := fragmented_of_ok hfragment
    have hlength : packets.length = rest.length + 1 := by
      rw [hfragmented.made, List.length_cons, List.length_map]
    have hcomplete : transfer.complete connectionHandle = true ↔ packets.length ≤ transfer.fed := by
      have hnonempty : packets ≠ [] := List.ne_nil_of_length_eq_add_one hlength
      simp [Transfer.complete, hfragments, hnonempty]
    rw [hfragments]
    by_cases hone : transfer.maxFragmentSize = 1
    · rw [if_neg fun hboth => hboth.2 hone]
      apply returnedPdus_nothing
      intro result hresult
      obtain ⟨error, rfl⟩ := hfragmented.refused hone assembler transfer.fed result hresult
      rfl
    have hsize : 2 ≤ transfer.maxFragmentSize := by
      have := hfragmented.positive
      omega
    by_cases hall : packets.length ≤ transfer.fed
    · rw [if_pos ⟨hcomplete.mpr hall, hone⟩, List.take_of_length_le hall,
        hfragmented.roundTrips hsize assembler]
      simp [returnedPdus, Except.toOption]
    · rw [if_neg fun hboth => hall (hcomplete.mp hboth.1)]
      apply returnedPdus_nothing
      intro result hresult
      cases hfed : transfer.fed with
      | zero =>
        rw [hfed] at hresult
        cases hresult
      | succ count =>
        rw [hfed] at hresult hall
        rw [hfragmented.part hsize assembler (by omega : count < rest.length)] at hresult
        rw [List.eq_of_mem_replicate hresult]
        rfl

theorem returned_stream (transfers : List Transfer) : ∀ (assembler : AclDataPacketAssembler),
    returnedPdus (assembler.feedAll (streamPackets connectionHandle transfers)).2 =
      (transfers.filter fun transfer =>
        transfer.complete connectionHandle && transfer.maxFragmentSize ≠ 1).map Transfer.pdu := by
  induction transfers with
  | nil =>
    intro assembler
    rfl
  | cons transfer transfers ih =>
    intro assembler
    have happend : ∀ first second : List (Except Error (Option Bytes)),
        returnedPdus (first ++ second) = returnedPdus first ++ returnedPdus second := by
      intro first second
      exact List.filterMap_append
    have hpackets : streamPackets connectionHandle (transfer :: transfers) =
        (transfer.fragments connectionHandle).take transfer.fed ++
          streamPackets connectionHandle transfers := rfl
    rw [hpackets, feedAll_append, happend, returned_transfer, ih, List.filter_cons]
    simp only [Bool.and_eq_true, decide_eq_true_eq]
    split
    · rfl
    · rfl

end Streams

/-- **Reassembly undoes fragmentation** unless the pieces have one octet.  For
    every accepted PDU and every prior state of the assembler, and for every
    stream of PDUs of which any number of fragments arrive. -/
theorem reassembly_iff (connectionHandle : UInt16) (assembler : AclDataPacketAssembler) :
    (∀ (bcFlag : UInt8) (maxFragmentSize : Nat) (pdu : Bytes) (flushable : Bool)
      (packets : List AclDataPacket),
      fragmentL2capPdu connectionHandle bcFlag maxFragmentSize pdu flushable = .ok packets →
      (RoundTrips assembler packets pdu ↔ maxFragmentSize ≠ 1)) ∧
    (∀ transfers : List Transfer,
      returnedPdus (assembler.feedAll (streamPackets connectionHandle transfers)).2 =
          (transfers.filter (Transfer.complete connectionHandle)).map Transfer.pdu ↔
        ∀ transfer ∈ transfers, transfer.complete connectionHandle = true →
          transfer.maxFragmentSize ≠ 1) := by
  constructor
  · intro bcFlag maxFragmentSize pdu flushable packets hfragment
    obtain ⟨first, rest, hfragmented⟩ := fragmented_of_ok hfragment
    constructor
    · rintro hround rfl
      have hlast : (Except.ok (some pdu) : Except Error (Option Bytes)) ∈
          (assembler.feedAll (packets.take packets.length)).2 := by
        rw [List.take_length, hround]
        exact List.mem_append_right _ List.mem_cons_self
      obtain ⟨error, herror⟩ := hfragmented.refused rfl assembler packets.length _ hlast
      cases herror
    · intro hone
      have hpositive := hfragmented.positive
      exact hfragmented.roundTrips (by omega) assembler
  · intro transfers
    have hfilter : (transfers.filter fun transfer =>
        transfer.complete connectionHandle && transfer.maxFragmentSize ≠ 1) =
        (transfers.filter (Transfer.complete connectionHandle)).filter
          fun transfer => transfer.maxFragmentSize ≠ 1 := by
      rw [List.filter_filter]
      congr 1
      funext transfer
      exact Bool.and_comm _ _
    rw [returned_stream, hfilter]
    constructor
    · intro hsame transfer hmem hcomplete
      have hlength := congrArg List.length hsame
      rw [List.length_map, List.length_map, List.length_filter_eq_length_iff] at hlength
      exact of_decide_eq_true (hlength transfer (List.mem_filter.mpr ⟨hmem, hcomplete⟩))
    · intro hsizes
      rw [List.filter_eq_self.mpr]
      intro transfer hmem
      obtain ⟨hmem, hcomplete⟩ := List.mem_filter.mp hmem
      exact decide_eq_true (hsizes transfer hmem hcomplete)

/-- Two pieces of two octets reach an assembler that had begun another PDU. -/
theorem two_octets_round_trip :
    RoundTrips ⟨some 7, [9, 9], some 20⟩
      [⟨1, 0, 0, 2, [0, 0]⟩, ⟨1, 1, 0, 2, [4, 0]⟩] [0, 0, 4, 0] :=
  ((reassembly_iff 1 _).1 0 2 [0, 0, 4, 0] false _ rfl).mpr (by decide)

/-- A PDU with no payload, cut into single octets, is accepted and then refused. -/
theorem single_octets_refused :
    ∃ packets, fragmentL2capPdu 1 0 1 [0, 0, 4, 0] false = .ok packets ∧
      ¬ RoundTrips .new packets [0, 0, 4, 0] := by
  refine ⟨_, rfl, ?_⟩
  rw [RoundTrips]
  decide

end Bumble.Hci
