import Bumble.ErtmEngineCalls

/-!
# Segmentation and reassembly of SDUs

`send_sdu` cuts an SDU into segments and numbers them; `accept_information`
puts the segments of one SDU together again.  `segmentsOf` is the cutting
without the numbering, `stampFrom` the numbering, and `acceptAll` the receiver
that is given every segment once and in order.

`carries_segments` is what the two owe each other: given any beginning of the
segments of a list of SDUs, the receiver has accepted every segment and has
completed a beginning of the list.
-/

namespace Bumble.Ertm

open Bumble.L2cap (Error)

/-! ## 1. Segments and their numbers -/

/-- The sequence number of the frame with this index in its stream. -/
def number (index : Nat) : UInt8 := UInt8.ofNat (index % 64)

@[simp] theorem toNat_number (index : Nat) : (number index).toNat = index % 64 := by
  simp only [number, UInt8.toNat_ofNat']
  omega

theorem number_lt (index : Nat) : number index < 64 := by
  rw [UInt8.lt_iff_toNat_lt, toNat_number]
  exact Nat.mod_lt _ (by decide)

theorem number_inj {index other : Nat} : number index = number other ↔ index % 64 = other % 64 := by
  rw [← UInt8.toNat_inj, toNat_number, toNat_number]

theorem sequenceAdd_number (index : Nat) : sequenceAdd (number index) 1 = number (index + 1) := by
  apply UInt8.toNat.inj
  simp only [sequenceAdd, ertmSequenceModulus, UInt8.toNat_mod, UInt8.toNat_add, toNat_number]
  change (index % 64 + 1) % 256 % 64 = (index + 1) % 64
  omega

theorem sequenceDistance_number {first last : Nat} (hle : first ≤ last) :
    (sequenceDistance (number first) (number last)).toNat = (last - first) % 64 := by
  simp only [sequenceDistance, ertmSequenceModulus, UInt8.toNat_mod, UInt8.toNat_sub,
    UInt8.toNat_add, toNat_number]
  change (256 - first % 64 + (last % 64 + 64) % 256) % 256 % 64 = (last - first) % 64
  omega

/-- An information frame without its sequence number. -/
structure Segment where
  payload : Bytes
  sar : SegmentationAndReassembly
  sduLength : Option UInt16
deriving DecidableEq, Repr

def Segment.body (segment : Segment) : Bytes :=
  sduLengthBytes segment.sduLength ++ segment.payload

def Segment.stamp (segment : Segment) (index : Nat) : PendingFrame :=
  ⟨segment.payload, number index, segment.sar, segment.sduLength⟩

/-- The segments of the chunks from `index` on. -/
def chunkSegments (mps sduLength : Nat) : Nat → List Bytes → List Segment
  | _, [] => []
  | index, chunk :: rest =>
    let sar := ErtmEngine.chunkSar mps sduLength index chunk
    ⟨chunk, sar, if sar = .start then some (UInt16.ofNat sduLength) else none⟩ ::
      chunkSegments mps sduLength (index + 1) rest

/-- The segments `send_sdu` makes of an SDU. -/
def segmentsOf (mps : Nat) (sdu : Bytes) : List Segment :=
  if sdu.length ≤ mps then [⟨sdu, .unsegmented, none⟩]
  else chunkSegments mps sdu.length 0 (chunks mps sdu)

/-- Number a list of segments from `first` on. -/
def stampFrom : Nat → List Segment → List PendingFrame
  | _, [] => []
  | first, segment :: rest => segment.stamp first :: stampFrom (first + 1) rest

@[simp] theorem length_stampFrom (first : Nat) (segments : List Segment) :
    (stampFrom first segments).length = segments.length := by
  induction segments generalizing first with
  | nil => rfl
  | cons segment rest ih => simp [stampFrom, ih]

theorem stampFrom_append (first : Nat) (segments more : List Segment) :
    stampFrom first (segments ++ more) =
      stampFrom first segments ++ stampFrom (first + segments.length) more := by
  induction segments generalizing first with
  | nil => simp [stampFrom]
  | cons segment rest ih =>
    simp only [List.cons_append, stampFrom, ih, List.length_cons]
    rw [Nat.add_right_comm, Nat.add_assoc first]

theorem getElem?_stampFrom (first index : Nat) (segments : List Segment) :
    (stampFrom first segments)[index]? =
      segments[index]?.map fun segment => segment.stamp (first + index) := by
  induction segments generalizing first index with
  | nil => simp [stampFrom]
  | cons segment rest ih =>
    cases index with
    | zero => simp [stampFrom]
    | succ index =>
      simp only [stampFrom, List.getElem?_cons_succ, ih]
      rw [Nat.add_right_comm, Nat.add_assoc first]

namespace ErtmEngine

/-- The engine after the segments have been queued, numbered from `first` on. -/
def queueSegments (engine : ErtmEngine) (first : Nat) (segments : List Segment) : ErtmEngine :=
  { engine with
    pending := engine.pending ++ stampFrom first segments
    nextTxSeq := number (first + segments.length) }

theorem queueChunks_eq (mps sduLength : Nat) (pieces : List Bytes) :
    ∀ (index first : Nat) (engine : ErtmEngine), engine.nextTxSeq = number first →
      queueChunks mps sduLength index pieces engine =
        engine.queueSegments first (chunkSegments mps sduLength index pieces) := by
  induction pieces with
  | nil =>
    intro index first engine hnext
    simp only [queueChunks, queueSegments, chunkSegments, stampFrom, List.append_nil,
      List.length_nil, Nat.add_zero, ← hnext]
  | cons chunk rest ih =>
    intro index first engine hnext
    rw [queueChunks, ih (index + 1) (first + 1) _ (by
      simp only [queueFrame, hnext]
      exact sequenceAdd_number first)]
    simp only [queueSegments, queueFrame, chunkSegments, stampFrom, Segment.stamp, hnext,
      List.append_assoc, List.singleton_append, List.length_cons]
    rw [Nat.add_right_comm, Nat.add_assoc first]

/-- `send_sdu` on an active engine: refuse what exceeds the peer's MTU, else
    queue the segments and fill the window. -/
theorem sendSdu_eq {engine : ErtmEngine} (hactive : ¬ engine.failed = true) {first : Nat}
    (hnext : engine.nextTxSeq = number first) (sdu : Bytes) :
    engine.sendSdu sdu =
      if sdu.length > engine.config.peerMtu.toNat then
        .fail engine (.invalidPacket s!"SDU exceeds peer MTU {engine.config.peerMtu.toNat}")
      else
        (engine.queueSegments first
          (segmentsOf engine.config.peerMps.toNat sdu)).processOutput := by
  unfold sendSdu
  rw [ensureActive_active hactive]
  dsimp only
  split
  · rfl
  · next hfits =>
    have hshort : ¬ sdu.length ≥ 65536 := by
      have := engine.config.peerMtu.toNat_lt
      omega
    simp only [hshort, if_false]
    unfold segmentsOf
    split
    · simp only [queueFrame, queueSegments, stampFrom, Segment.stamp, hnext,
        sequenceAdd_number, List.length_singleton]
    · rw [queueChunks_eq _ _ _ 0 first engine hnext]

/-! ## 2. The receiver -/

/-- The receiver given a list of segments in order. -/
def acceptAll (engine : ErtmEngine) : List Segment → EngineCall Unit
  | [] => .ok engine ()
  | segment :: rest =>
    (engine.acceptInformation segment.sar segment.body).andThen fun engine _ =>
      engine.acceptAll rest

theorem acceptAll_append (engine : ErtmEngine) (segments more : List Segment) :
    engine.acceptAll (segments ++ more) =
      (engine.acceptAll segments).andThen fun engine _ => engine.acceptAll more := by
  induction segments generalizing engine with
  | nil => rfl
  | cons segment rest ih =>
    simp only [List.cons_append, acceptAll]
    cases hresult : (engine.acceptInformation segment.sar segment.body).result with
    | ok value => simp only [Outcome.andThen, hresult, ih]
    | error error => simp only [Outcome.andThen, hresult, Outcome.fail]

def InputIdle (engine : ErtmEngine) : Prop :=
  engine.inputSdu = [] ∧ engine.inputSduLength = none

theorem chunksLoop_cons (mps : Nat) {fuel : Nat} {rest : Bytes} (hrest : rest ≠ [])
    (hfuel : rest.length ≤ fuel) : ∃ fuel', fuel = fuel' + 1 ∧
      chunksLoop mps fuel rest = rest.take mps :: chunksLoop mps fuel' (rest.drop mps) := by
  cases rest with
  | nil => exact absurd rfl hrest
  | cons value rest =>
    cases fuel with
    | zero => simp at hfuel
    | succ fuel => exact ⟨fuel, rfl, rfl⟩

/-- **The tail of a segmented SDU.**  With `index` chunks received, the segments
    of the rest are accepted one by one, and only the last completes the SDU. -/
theorem acceptAll_chunkSegments {mps sduLength : Nat} (hmps : 0 < mps) :
    ∀ (fuel : Nat) (rest : Bytes) (index : Nat) (engine : ErtmEngine), rest ≠ [] →
      rest.length ≤ fuel → 1 ≤ index → engine.inputSduLength = some sduLength →
      engine.inputSdu.length = index * mps → index * mps + rest.length = sduLength →
      let segments := chunkSegments mps sduLength index (chunksLoop mps fuel rest)
      engine.acceptAll segments = .ok
        { engine with
          received := engine.received ++ [engine.inputSdu ++ rest]
          inputSdu := []
          inputSduLength := none } () ∧
      ∀ first, first <+: segments → first = segments ∨
        ∃ state, engine.acceptAll first = .ok state () ∧ state.received = engine.received := by
  intro fuel
  induction fuel with
  | zero =>
    intro rest index engine hrest hfuel
    exact absurd (List.length_eq_zero_iff.mp (Nat.le_zero.mp hfuel)) hrest
  | succ fuel ih =>
    intro rest index engine hrest hfuel hindex hlength hinput htotal
    obtain ⟨_, hsucc, hchunks⟩ := chunksLoop_cons mps hrest hfuel
    obtain rfl : fuel = _ := Nat.succ.inj hsucc
    have hzero : ¬ index = 0 := by omega
    by_cases hlast : rest.length ≤ mps
    · -- the last chunk ends the SDU
      have hnil : rest.drop mps = [] := List.drop_eq_nil_of_le hlast
      have hempty : chunksLoop mps fuel ([] : Bytes) = [] := by cases fuel <;> rfl
      have hend : chunkSar mps sduLength index rest = .end_ := by
        simp only [chunkSar, hzero, if_false, htotal, if_true]
      have hwhole : engine.acceptAll [⟨rest, .end_, none⟩] = .ok
          { engine with
            received := engine.received ++ [engine.inputSdu ++ rest]
            inputSdu := []
            inputSduLength := none } () := by
        have hfits : (engine.inputSdu ++ rest).length = sduLength := by
          rw [List.length_append, hinput, htotal]
        simp [acceptAll, acceptInformation, Segment.body, sduLengthBytes, hlength, hfits]
      simp only [hchunks, hnil, hempty, chunkSegments, List.take_of_length_le hlast, hend]
      refine ⟨hwhole, ?_⟩
      intro first hfirst
      rcases List.prefix_cons_iff.mp hfirst with rfl | ⟨more, rfl, hmore⟩
      · exact Or.inr ⟨engine, rfl, rfl⟩
      · rw [List.prefix_nil.mp hmore]
        exact Or.inl rfl
    · -- a chunk in the middle leaves the SDU unfinished
      have htake : (rest.take mps).length = mps := List.length_take_of_le (by omega)
      have hdrop : (rest.drop mps).length = rest.length - mps := List.length_drop
      have hmore : rest.drop mps ≠ [] := by
        intro hnil
        rw [hnil] at hdrop
        simp only [List.length_nil] at hdrop
        omega
      have hmiddle : chunkSar mps sduLength index (rest.take mps) = .continuation := by
        simp only [chunkSar, hzero, if_false, htake]
        rw [if_neg (by omega)]
      have hstep : (engine.acceptInformation .continuation (rest.take mps)) = .ok
          { engine with inputSdu := engine.inputSdu ++ rest.take mps } () := by
        have hpartial : ¬ (engine.inputSdu ++ rest.take mps).length ≥ sduLength := by
          rw [List.length_append, hinput, htake]
          omega
        simp only [acceptInformation, checkPartialLength, hlength, hpartial, if_false]
      obtain ⟨hwhole, hparts⟩ := ih (rest.drop mps) (index + 1)
        { engine with inputSdu := engine.inputSdu ++ rest.take mps } hmore (by omega) (by omega)
        hlength (by
          simp only [List.length_append, hinput, htake]
          rw [Nat.add_mul, Nat.one_mul])
        (by
          rw [hdrop, Nat.add_mul]
          omega)
      simp only [hchunks, chunkSegments, hmiddle, acceptAll, Segment.body, sduLengthBytes,
        List.nil_append, hstep, Outcome.ok_andThen, reduceCtorEq, if_false]
      refine ⟨?_, ?_⟩
      · rw [hwhole, List.append_assoc, List.take_append_drop]
      · intro first hfirst
        rcases List.prefix_cons_iff.mp hfirst with rfl | ⟨later, rfl, hlater⟩
        · exact Or.inr ⟨engine, rfl, rfl⟩
        · simp only [acceptAll, Segment.body, sduLengthBytes, List.nil_append, hstep,
            Outcome.ok_andThen]
          exact (hparts later hlater).imp_left fun heq => by rw [heq]

/-- **A segmented SDU** is accepted by a receiver that has started none. -/
theorem acceptAll_segmented {mps : Nat} {engine : ErtmEngine} {sdu : Bytes} (hmps : 0 < mps)
    (hidle : engine.InputIdle) (hlong : mps < sdu.length) (hlimit : sdu.length < 65536)
    (hfits : sdu.length ≤ engine.config.localMtu.toNat) :
    let segments := chunkSegments mps sdu.length 0 (chunks mps sdu)
    engine.acceptAll segments =
      .ok { engine with received := engine.received ++ [sdu] } () ∧
    ∀ first, first <+: segments → first = segments ∨
      ∃ state, engine.acceptAll first = .ok state () ∧ state.received = engine.received := by
  obtain ⟨hinput, hlength⟩ := hidle
  have hsdu : sdu ≠ [] := by
    rintro rfl
    simp at hlong
  obtain ⟨fuel, hfuel, hchunks⟩ := chunksLoop_cons mps hsdu (Nat.le_refl _)
  have htake : (sdu.take mps).length = mps := List.length_take_of_le (by omega)
  have hdrop : (sdu.drop mps).length = sdu.length - mps := List.length_drop
  have hmore : sdu.drop mps ≠ [] := by
    intro hnil
    rw [hnil] at hdrop
    simp only [List.length_nil] at hdrop
    omega
  have hsize : (UInt16.ofNat sdu.length).toNat = sdu.length := by
    rw [UInt16.toNat_ofNat']
    exact Nat.mod_eq_of_lt hlimit
  have hword : (u16FromLe (UInt8.ofNat (sdu.length % 256))
      (UInt8.ofNat (sdu.length / 256))).toNat = sdu.length := by
    have := u16FromLe_toLe (UInt16.ofNat sdu.length)
    rw [hsize] at this
    rw [this, hsize]
  have hstep : engine.acceptInformation .start
      (u16ToLe (UInt16.ofNat sdu.length) ++ sdu.take mps) = .ok
      { engine with
        inputSduLength := some sdu.length
        inputSdu := sdu.take mps } () := by
    have hpartial : ¬ (sdu.take mps).length ≥ sdu.length := by omega
    have hmtu : ¬ sdu.length > engine.config.localMtu.toNat := by omega
    simp only [acceptInformation, u16ToLe, List.cons_append, List.nil_append, inputActive, hinput,
      hlength, List.isEmpty_nil, Bool.not_true, Option.isSome_none, Bool.or_self,
      Bool.false_eq_true, if_false, hsize, hword, hmtu, checkPartialLength, hpartial]
  obtain ⟨hwhole, hparts⟩ := acceptAll_chunkSegments hmps fuel (sdu.drop mps) 1
    { engine with inputSduLength := some sdu.length, inputSdu := sdu.take mps } hmore (by omega)
    (Nat.le_refl _) rfl (by rw [htake, Nat.one_mul]) (by omega)
  simp only [chunks, hchunks, chunkSegments, chunkSar, if_true, acceptAll, Segment.body,
    sduLengthBytes, hstep, Outcome.ok_andThen]
  refine ⟨?_, ?_⟩
  · rw [hwhole, List.take_append_drop, hinput, hlength]
  · intro first hfirst
    rcases List.prefix_cons_iff.mp hfirst with rfl | ⟨later, rfl, hlater⟩
    · exact Or.inr ⟨engine, rfl, rfl⟩
    · simp only [acceptAll, Segment.body, sduLengthBytes, hstep, Outcome.ok_andThen]
      exact (hparts later hlater).imp_left fun heq => by rw [heq]

/-! ## 3. Streams of SDUs -/

/-- The segments carry the SDUs to a receiver that has started none: all of
    them complete the SDUs, and a beginning of them a beginning of the SDUs. -/
structure Carries (config : ErtmConfig) (segments : List Segment) (sdus : List Bytes) : Prop where
  whole : ∀ engine : ErtmEngine, engine.config = config → engine.InputIdle →
    engine.acceptAll segments = .ok { engine with received := engine.received ++ sdus } ()
  parts : ∀ engine : ErtmEngine, engine.config = config → engine.InputIdle →
    ∀ first, first <+: segments → ∃ state done, engine.acceptAll first = .ok state () ∧
      done <+: sdus ∧ state.received = engine.received ++ done

namespace Carries

variable {config : ErtmConfig} {segments more : List Segment} {sdus others : List Bytes}

theorem nil : Carries config [] [] where
  whole engine _ _ := by simp [acceptAll]
  parts engine _ _ first hfirst := by
    rw [List.prefix_nil.mp hfirst]
    exact ⟨engine, [], rfl, List.prefix_rfl, (List.append_nil _).symm⟩

theorem append (h : Carries config segments sdus) (h' : Carries config more others) :
    Carries config (segments ++ more) (sdus ++ others) where
  whole engine hconfig hidle := by
    rw [acceptAll_append, h.whole engine hconfig hidle, Outcome.ok_andThen,
      h'.whole { engine with received := engine.received ++ sdus } hconfig hidle,
      List.append_assoc]
  parts engine hconfig hidle first hfirst := by
    rcases List.prefix_or_prefix_of_prefix hfirst (List.prefix_append segments more) with
      hinside | ⟨later, rfl⟩
    · obtain ⟨state, done, hstate, hdone, hreceived⟩ := h.parts engine hconfig hidle first hinside
      exact ⟨state, done, hstate, hdone.trans (List.prefix_append _ _), hreceived⟩
    · have hlater := (List.prefix_append_right_inj segments).mp hfirst
      rw [acceptAll_append, h.whole engine hconfig hidle, Outcome.ok_andThen]
      obtain ⟨state, done, hstate, hdone, hreceived⟩ := h'.parts
        { engine with received := engine.received ++ sdus } hconfig hidle later hlater
      refine ⟨state, sdus ++ done, hstate, (List.prefix_append_right_inj _).mpr hdone, ?_⟩
      rw [hreceived, List.append_assoc]

theorem sdu {mps : Nat} {sdu : Bytes} (hmps : 0 < mps)
    (hfits : sdu.length ≤ config.localMtu.toNat) : Carries config (segmentsOf mps sdu) [sdu] := by
  have hlimit : sdu.length < 65536 := hfits.trans_lt config.localMtu.toNat_lt
  unfold segmentsOf
  split
  · have hone : ∀ engine : ErtmEngine, engine.config = config → engine.InputIdle →
        engine.acceptAll [⟨sdu, .unsegmented, none⟩] =
          .ok { engine with received := engine.received ++ [sdu] } () := by
      rintro engine rfl ⟨hinput, hlength⟩
      have hmtu : ¬ sdu.length > engine.config.localMtu.toNat := by omega
      simp [acceptAll, acceptInformation, Segment.body, sduLengthBytes, inputActive, hinput,
        hlength, hmtu]
    refine ⟨hone, ?_⟩
    intro engine hconfig hidle first hfirst
    rcases List.prefix_cons_iff.mp hfirst with rfl | ⟨later, rfl, hlater⟩
    · exact ⟨engine, [], rfl, List.nil_prefix, (List.append_nil _).symm⟩
    · rw [List.prefix_nil.mp hlater]
      exact ⟨_, [sdu], hone engine hconfig hidle, List.prefix_rfl, rfl⟩
  · next hlong =>
    have hcases := fun (engine : ErtmEngine) (hconfig : engine.config = config)
      (hidle : engine.InputIdle) => acceptAll_segmented hmps hidle (Nat.lt_of_not_le hlong) hlimit
        (hconfig ▸ hfits)
    refine ⟨fun engine hconfig hidle => (hcases engine hconfig hidle).1, ?_⟩
    intro engine hconfig hidle first hfirst
    rcases (hcases engine hconfig hidle).2 first hfirst with rfl | ⟨state, hstate, hreceived⟩
    · exact ⟨_, [sdu], (hcases engine hconfig hidle).1, List.prefix_rfl, rfl⟩
    · exact ⟨state, [], hstate, List.nil_prefix, by rw [hreceived, List.append_nil]⟩

end Carries

/-- **Reassembly inverts segmentation** on every stream of SDUs within the
    receiver's MTU, whatever size the sender cuts them to. -/
theorem carries_segments {config : ErtmConfig} {mps : Nat} (hmps : 0 < mps) (sdus : List Bytes)
    (hfits : ∀ sdu ∈ sdus, sdu.length ≤ config.localMtu.toNat) :
    Carries config (sdus.flatMap (segmentsOf mps)) sdus := by
  induction sdus with
  | nil => exact Carries.nil
  | cons sdu rest ih =>
    have hrest := ih fun other hother => hfits other (List.mem_cons_of_mem _ hother)
    exact (Carries.sdu hmps (hfits sdu (List.mem_cons_self ..))).append hrest

end ErtmEngine

end Bumble.Ertm
