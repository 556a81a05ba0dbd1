import Bumble.RfcommCalls

/-!
# Where RFCOMM frames make the multiplexer panic

Indexing and checked arithmetic end a call of the source with a panic.  Here
the handlers of `on_pdu` are written once more with these ends: a value when
they complete, the panic when they do not.  A frame that completes does what
the multiplexer's model says, and the frames that do not are of three kinds: a
credit frame without its octet, a grant that runs over the sixteen bits of the
credit count, and one that makes a DLC without room in its frames send data
behind a grant.
-/

namespace Bumble.Rfcomm

/-! ## 1. Handlers with their panics -/

inductive Panic where
  | indexOutOfBounds
  | addOverflow
  | subOverflow
deriving DecidableEq, Repr

def checkedAdd (value delta : UInt16) : Except Panic UInt16 :=
  if value.toNat + delta.toNat < 65536 then .ok (value + delta) else .error .addOverflow

def checkedSub (value delta : UInt16) : Except Panic UInt16 :=
  if delta ≤ value then .ok (value - delta) else .error .subOverflow

namespace Dlc

def tryRxCreditsNeeded (dlc : Dlc) : Except Panic UInt16 :=
  if !dlc.readingPaused ∧ dlc.rxCredits ≤ dlc.rxCreditsThreshold then
    checkedSub dlc.rxMaxCredits dlc.rxCredits
  else .ok 0

def tryTakeData (dlc : Dlc) (length : Nat) : Except Panic (Bytes × Dlc) := do
  let take := min length dlc.txBuffer.length
  let txCredits ← checkedSub dlc.txCredits 1
  return (dlc.txBuffer.take take, { dlc with txBuffer := dlc.txBuffer.drop take, txCredits })

/-- One round of the loop of `process_tx`. -/
def tryRound (dlc : Dlc) (needed : UInt16) : Except Panic DlcCall :=
  if needed > 0 then do
    let rxCredits ← checkedAdd dlc.rxCredits needed
    let dlc := { dlc with rxCredits }
    if dlc.canSendData then
      -- `self.mtu - 1`
      if dlc.mtu = 0 then .error .subOverflow
      else
        let (data, dlc) ← dlc.tryTakeData (dlc.mtu - 1)
        return (dlc, [.uih dlc.cR dlc.dlci (needed.toUInt8 :: data) true])
    else return (dlc, [.uih dlc.cR dlc.dlci [needed.toUInt8] true])
  else do
    let (data, dlc) ← dlc.tryTakeData dlc.mtu
    return (dlc, [.uih dlc.cR dlc.dlci data false])

/-- The loop; every round after a grant takes a credit. -/
def tryProcessTxLoop : Nat → UInt16 → Dlc → Except Panic DlcCall
  | 0, _, dlc => .ok (dlc, [])
  | fuel + 1, needed, dlc =>
    if dlc.canSendData ∨ needed > 0 then do
      let (sent, frames) ← dlc.tryRound needed
      let (last, rest) ← tryProcessTxLoop fuel 0 sent
      return (last, frames ++ rest)
    else .ok (dlc, [])

def tryProcessTx (dlc : Dlc) : Except Panic DlcCall := do
  let needed ← dlc.tryRxCreditsNeeded
  tryProcessTxLoop (dlc.txCredits.toNat + 1) needed dlc

def tryTakePacket (dlc : Dlc) (data : Bytes) : Except Panic Dlc :=
  if data.isEmpty then .ok dlc
  else do
    let rxPackets := (if dlc.rxPackets.length = rfcommDefaultRxQueueSize then dlc.rxPackets.drop 1
      else dlc.rxPackets) ++ [data]
    let rxCredits ← if dlc.rxCredits > 0 then checkedSub dlc.rxCredits 1 else .ok dlc.rxCredits
    return { dlc with rxPackets, rxCredits }

def tryTakeUih (dlc : Dlc) (frame : RfcommFrame) : Except Panic Dlc :=
  if frame.pF then
    match frame.information with
    | [] => .error .indexOutOfBounds
    | credits :: data => do
      let txCredits ← checkedAdd dlc.txCredits credits.toUInt16
      { dlc with txCredits }.tryTakePacket data
  else dlc.tryTakePacket frame.information

def tryOnUih (dlc : Dlc) (frame : RfcommFrame) : Except Panic DlcCall := do
  let dlc ← dlc.tryTakeUih frame
  dlc.tryProcessTx

def tryOnFrame (dlc : Dlc) (frame : RfcommFrame) : Except Panic (DlcCall × DlcUpcall) :=
  match frame.frameType with
  | .uih => do
    let call ← dlc.tryOnUih frame
    return (call, .none)
  -- the other handlers neither index nor calculate
  | _ => .ok (dlc.onFrame frame)

end Dlc

/-- `on_pdu`, with the panic that ends it. -/
def Multiplexer.tryOnPdu (mux : Multiplexer) (frame : RfcommFrame) : Except Panic Multiplexer :=
  if frame.dlci = 0 then .ok (mux.onControlFrame frame)
  else if frame.frameType = .dm then .ok mux.onDm
  else
    match mux.dlcs[frame.dlci]? with
    | none => .ok mux
    | some dlc => do
      let (call, upcall) ← dlc.tryOnFrame frame
      return (mux.store frame.dlci call).applyUpcall frame.dlci upcall

/-! ## 2. Frames that panic -/

namespace Dlc

/-- A grant without its octet, or more than the credit count can hold. -/
def grantPanics (dlc : Dlc) (frame : RfcommFrame) : Bool :=
  frame.pF && (frame.information.isEmpty ||
    dlc.txCredits.toNat + (frame.information.headD 0).toNat ≥ 65536)

/-- The frame makes the DLC, whose frames have no room at all, send data behind
    a grant of its own. -/
def roomPanics (dlc : Dlc) (frame : RfcommFrame) : Bool :=
  let grant := if frame.pF then (frame.information.headD 0).toNat else 0
  let data := if frame.pF then frame.information.drop 1 else frame.information
  let rxCredits := if data.isEmpty then dlc.rxCredits.toNat else dlc.rxCredits.toNat - 1
  dlc.mtu = 0 && !dlc.txBuffer.isEmpty && dlc.txCredits.toNat + grant > 0 && !dlc.readingPaused &&
    rxCredits ≤ dlc.rxCreditsThreshold.toNat && rxCredits < dlc.rxMaxCredits.toNat

end Dlc

def Multiplexer.panics (mux : Multiplexer) (frame : RfcommFrame) : Bool :=
  frame.dlci ≠ 0 && frame.frameType = .uih &&
    mux.dlcs[frame.dlci]?.any fun dlc => dlc.grantPanics frame || dlc.roomPanics frame

/-! ## 3. The transmit engine -/

namespace Dlc

variable {dlc : Dlc} {needed : UInt16}

theorem tryTakeData_eq (hcan : dlc.canSendData = true) (length : Nat) :
    dlc.tryTakeData length = .ok (dlc.takeData length) := by
  have hcredits : (1 : UInt16) ≤ dlc.txCredits := by
    have hpositive := (canSendData_iff.mp hcan).2
    rw [UInt16.le_iff_toNat_le, UInt16.toNat_one]
    omega
  simp only [tryTakeData, checkedSub, if_pos hcredits, takeData]
  rfl

theorem sendLoop_fuel (fuel : Nat) : ∀ {dlc : Dlc}, dlc.txCredits.toNat ≤ fuel →
    sendLoop fuel dlc = sendLoop dlc.txCredits.toNat dlc := by
  induction fuel with
  | zero =>
    intro dlc hfuel
    rw [Nat.le_zero.mp hfuel]
  | succ fuel ih =>
    intro dlc hfuel
    by_cases hcan : dlc.canSendData = true
    · have hcredits := (canSendData_iff.mp hcan).2
      have hsent : dlc.dataRound.1.txCredits.toNat + 1 = dlc.txCredits.toNat :=
        txCredits_sub hcredits
      have hrest : sendLoop fuel dlc.dataRound.1 =
          sendLoop dlc.dataRound.1.txCredits.toNat dlc.dataRound.1 := ih (by omega)
      rw [← hsent]
      simp only [sendLoop, if_pos hcan, hrest]
    · cases dlc.txCredits.toNat with
      | zero => simp only [sendLoop, if_neg hcan]
      | succ count => simp only [sendLoop, if_neg hcan]

theorem tryProcessTxLoop_data (fuel : Nat) : ∀ (dlc : Dlc),
    tryProcessTxLoop fuel 0 dlc = .ok (sendLoop fuel dlc) := by
  induction fuel with
  | zero =>
    intro dlc
    rfl
  | succ fuel ih =>
    intro dlc
    by_cases hcan : dlc.canSendData = true
    · have hround : dlc.tryRound 0 = .ok dlc.dataRound := by
        simp only [tryRound, tryTakeData_eq hcan]
        rfl
      rw [tryProcessTxLoop, if_pos (.inl hcan), hround, sendLoop, if_pos hcan]
      simp only [bind, Except.bind, ih]
      rfl
    · rw [tryProcessTxLoop, sendLoop, if_neg hcan, if_neg]
      rintro (hdata | hneeded)
      · exact hcan hdata
      · exact absurd hneeded (by decide)

theorem tryRxCreditsNeeded_eq (hlimited : dlc.Limited) :
    dlc.tryRxCreditsNeeded = .ok dlc.rxCreditsNeeded := by
  rw [tryRxCreditsNeeded, rxCreditsNeeded]
  split
  · next hlow =>
    rw [checkedSub, if_pos (UInt16.le_trans hlow.2 hlimited)]
  · rfl

theorem tryRound_grant (hneeded : needed > 0)
    (hsum : dlc.rxCredits.toNat + needed.toNat < 65536) :
    dlc.tryRound needed = if dlc.canSendData = true ∧ dlc.mtu = 0 then .error .subOverflow
      else .ok (dlc.grantRound needed) := by
  have hcan : ({ dlc with rxCredits := dlc.rxCredits + needed } : Dlc).canSendData =
    dlc.canSendData := rfl
  simp only [tryRound, if_pos hneeded, checkedAdd, if_pos hsum, bind, Except.bind, hcan, grantRound]
  by_cases hdata : dlc.canSendData = true
  · by_cases hmtu : dlc.mtu = 0
    · simp only [hdata, hmtu, if_true, and_self]
    · rw [tryTakeData_eq (hcan.trans hdata)]
      simp only [hdata, hmtu, if_true, if_false, and_false, grantRoom]
      rfl
  · rw [if_neg hdata, if_neg hdata, if_neg fun hboth => hdata hboth.1]
    rfl

theorem grantRound_txCredits (dlc : Dlc) (needed : UInt16) :
    (dlc.grantRound needed).1.txCredits.toNat ≤ dlc.txCredits.toNat := by
  simp only [grantRound]
  split
  · next hcan =>
    have hsent : (dlc.txCredits - 1).toNat + 1 = dlc.txCredits.toNat :=
      txCredits_sub (canSendData_iff.mp hcan).2
    simp only [takeData]
    omega
  · exact Nat.le_refl _

theorem tryProcessTx_eq (hlimited : dlc.Limited) :
    dlc.tryProcessTx =
      if dlc.rxCreditsNeeded > 0 ∧ dlc.canSendData = true ∧ dlc.mtu = 0 then .error .subOverflow
      else .ok dlc.processTx := by
  simp only [tryProcessTx, tryRxCreditsNeeded_eq hlimited, bind, Except.bind, processTx]
  by_cases hneeded : dlc.rxCreditsNeeded > 0
  · have hsum : dlc.rxCredits.toNat + dlc.rxCreditsNeeded.toNat < 65536 := by
      rw [(rxCreditsNeeded_positive hlimited hneeded).2]
      exact dlc.rxMaxCredits.toNat_lt
    rw [tryProcessTxLoop, if_pos (.inr hneeded), tryRound_grant hneeded hsum]
    by_cases hroom : dlc.canSendData = true ∧ dlc.mtu = 0
    · rw [if_pos hroom, if_pos ⟨hneeded, hroom⟩]
      rfl
    · rw [if_neg hroom, if_neg fun hall => hroom hall.2, if_pos hneeded]
      simp only [bind, Except.bind, tryProcessTxLoop_data]
      rw [sendLoop_fuel]
      · rfl
      · exact grantRound_txCredits dlc dlc.rxCreditsNeeded
  · rw [if_neg hneeded, if_neg fun hall => hneeded hall.1]
    have hzero : dlc.rxCreditsNeeded = 0 := by
      simpa [UInt16.lt_iff_toNat_lt, ← UInt16.toNat_inj] using hneeded
    rw [hzero, tryProcessTxLoop_data, sendLoop_fuel _ (Nat.le_succ _)]

/-! ## 4. Received frames -/

theorem tryTakePacket_eq (dlc : Dlc) (data : Bytes) :
    dlc.tryTakePacket data = .ok (if data.isEmpty then dlc
      else { dlc with
        rxPackets :=
          (if dlc.rxPackets.length = rfcommDefaultRxQueueSize then dlc.rxPackets.drop 1
            else dlc.rxPackets) ++ [data]
        rxCredits := if dlc.rxCredits > 0 then dlc.rxCredits - 1 else dlc.rxCredits }) := by
  rw [tryTakePacket]
  split
  · rfl
  by_cases hcredits : dlc.rxCredits > 0
  · have hone : (1 : UInt16) ≤ dlc.rxCredits := by
      rw [UInt16.le_iff_toNat_le, UInt16.toNat_one]
      rw [gt_iff_lt, UInt16.lt_iff_toNat_lt] at hcredits
      exact hcredits
    simp only [if_pos hcredits, checkedSub, if_pos hone]
    rfl
  · simp only [if_neg hcredits]
    rfl

theorem tryTakeUih_eq {frame : RfcommFrame} (hgrant : dlc.grantPanics frame = false) :
    dlc.tryTakeUih frame = .ok (dlc.takeUih frame) := by
  rw [tryTakeUih, takeUih]
  cases hpF : frame.pF with
  | false => exact tryTakePacket_eq dlc _
  | true =>
    cases hinformation : frame.information with
    | nil => simp [grantPanics, hpF, hinformation] at hgrant
    | cons credits data =>
      have hsum : dlc.txCredits.toNat + credits.toUInt16.toNat < 65536 := by
        simpa [grantPanics, hpF, hinformation] using hgrant
      simp only [if_true, checkedAdd, if_pos hsum, bind, Except.bind, tryTakePacket_eq]
      rfl

theorem tryTakeUih_panics {frame : RfcommFrame} (hgrant : dlc.grantPanics frame = true) :
    ∃ panic, dlc.tryTakeUih frame = .error panic := by
  rw [grantPanics, Bool.and_eq_true] at hgrant
  obtain ⟨hpF, hgrant⟩ := hgrant
  rw [tryTakeUih, if_pos hpF]
  cases hinformation : frame.information with
  | nil => exact ⟨_, rfl⟩
  | cons credits data =>
    have hsum : ¬ dlc.txCredits.toNat + credits.toUInt16.toNat < 65536 := by
      simpa [hinformation] using hgrant
    simp only [checkedAdd, if_neg hsum]
    exact ⟨_, rfl⟩

theorem takeUih_counts {frame : RfcommFrame} (hgrant : dlc.grantPanics frame = false) :
    (dlc.takeUih frame).txCredits.toNat =
      dlc.txCredits.toNat + (if frame.pF then (frame.information.headD 0).toNat else 0) ∧
    (dlc.takeUih frame).rxCredits.toNat =
      if (if frame.pF then frame.information.drop 1 else frame.information).isEmpty then
        dlc.rxCredits.toNat
      else dlc.rxCredits.toNat - 1 := by
  have hless : (if dlc.rxCredits > 0 then dlc.rxCredits - 1 else dlc.rxCredits).toNat =
      dlc.rxCredits.toNat - 1 := by
    by_cases hcredits : dlc.rxCredits.toNat = 0
    · have hzero : ¬ dlc.rxCredits > 0 := by
        rw [gt_iff_lt, UInt16.lt_iff_toNat_lt, hcredits]
        exact Nat.not_lt_zero _
      rw [if_neg hzero, hcredits]
    · have hone : (1 : UInt16) ≤ dlc.rxCredits := by
        rw [UInt16.le_iff_toNat_le, UInt16.toNat_one]
        exact Nat.pos_of_ne_zero hcredits
      have hpositive : dlc.rxCredits > 0 := by
        rw [gt_iff_lt, UInt16.lt_iff_toNat_lt]
        exact Nat.pos_of_ne_zero hcredits
      rw [if_pos hpositive, UInt16.toNat_sub_of_le _ _ hone, UInt16.toNat_one]
  simp only [takeUih]
  cases hpF : frame.pF with
  | false =>
    simp only [Bool.false_eq_true, if_false, Nat.add_zero]
    split
    · exact ⟨rfl, rfl⟩
    · exact ⟨rfl, hless⟩
  | true =>
    have hsum : dlc.txCredits.toNat + (frame.information.headD 0).toNat < 65536 := by
      simp only [grantPanics, hpF, Bool.true_and, Bool.or_eq_false_iff, decide_eq_false_iff_not,
        not_le] at hgrant
      exact hgrant.2
    have hcredits : (dlc.txCredits + (frame.information.headD 0).toUInt16).toNat =
        dlc.txCredits.toNat + (frame.information.headD 0).toNat := by
      rw [UInt16.toNat_add, UInt8.toNat_toUInt16]
      exact Nat.mod_eq_of_lt hsum
    simp only [if_true]
    split
    · exact ⟨hcredits, rfl⟩
    · exact ⟨hcredits, hless⟩

theorem rxCreditsNeeded_pos_iff (hlimited : dlc.Limited) :
    dlc.rxCreditsNeeded > 0 ↔ dlc.readingPaused = false ∧
      dlc.rxCredits.toNat ≤ dlc.rxCreditsThreshold.toNat ∧
      dlc.rxCredits.toNat < dlc.rxMaxCredits.toNat := by
  rw [rxCreditsNeeded]
  by_cases hlow : (!dlc.readingPaused) = true ∧ dlc.rxCredits ≤ dlc.rxCreditsThreshold
  · have hle : dlc.rxCredits ≤ dlc.rxMaxCredits := UInt16.le_trans hlow.2 hlimited
    rw [if_pos hlow, gt_iff_lt, UInt16.lt_iff_toNat_lt, UInt16.toNat_sub_of_le _ _ hle,
      UInt16.toNat_zero, Nat.sub_pos_iff_lt]
    rw [Bool.not_eq_true', UInt16.le_iff_toNat_le] at hlow
    exact ⟨fun hmax => ⟨hlow.1, hlow.2, hmax⟩, fun hall => hall.2.2⟩
  · rw [if_neg hlow]
    constructor
    · exact fun hzero => absurd hzero (by decide)
    · rintro ⟨hreading, hle, -⟩
      rw [Bool.not_eq_true', UInt16.le_iff_toNat_le] at hlow
      exact absurd ⟨hreading, hle⟩ hlow

theorem roomPanics_iff (hlimited : dlc.Limited) {frame : RfcommFrame}
    (hgrant : dlc.grantPanics frame = false) :
    dlc.roomPanics frame = true ↔ (dlc.takeUih frame).rxCreditsNeeded > 0 ∧
      (dlc.takeUih frame).canSendData = true ∧ (dlc.takeUih frame).mtu = 0 := by
  have hsame := dlc.takeUih_same frame
  obtain ⟨htx, hrx⟩ := takeUih_counts hgrant
  have htaken : (dlc.takeUih frame).Limited := by
    rw [hsame]
    exact hlimited
  have hmtu : (dlc.takeUih frame).mtu = dlc.mtu := by rw [hsame]
  have hbuffer : (dlc.takeUih frame).txBuffer = dlc.txBuffer := by rw [hsame]
  have hpaused : (dlc.takeUih frame).readingPaused = dlc.readingPaused := by rw [hsame]
  have hthreshold : (dlc.takeUih frame).rxCreditsThreshold = dlc.rxCreditsThreshold := by rw [hsame]
  have hmax : (dlc.takeUih frame).rxMaxCredits = dlc.rxMaxCredits := by rw [hsame]
  rw [rxCreditsNeeded_pos_iff htaken, canSendData_iff, hmtu, hbuffer, hpaused,
    hthreshold, hmax, htx,
    hrx]
  simp only [roomPanics, Bool.and_eq_true, decide_eq_true_eq, Bool.not_eq_true',
    List.isEmpty_eq_false_iff, gt_iff_lt, Nat.pos_iff_ne_zero]
  tauto

theorem tryOnUih_eq (hlimited : dlc.Limited) {frame : RfcommFrame}
    (hgrant : dlc.grantPanics frame = false) (hroom : dlc.roomPanics frame = false) :
    dlc.tryOnUih frame = .ok (dlc.onUih frame) := by
  have htaken : (dlc.takeUih frame).Limited := by
    rw [dlc.takeUih_same frame]
    exact hlimited
  simp only [tryOnUih, tryTakeUih_eq hgrant, bind, Except.bind]
  rw [tryProcessTx_eq htaken, if_neg]
  · rfl
  · intro hall
    rw [(roomPanics_iff hlimited hgrant).mpr hall] at hroom
    cases hroom

theorem tryOnUih_panics (hlimited : dlc.Limited) {frame : RfcommFrame}
    (hpanics : (dlc.grantPanics frame || dlc.roomPanics frame) = true) :
    ∃ panic, dlc.tryOnUih frame = .error panic := by
  cases hgrant : dlc.grantPanics frame with
  | true =>
    obtain ⟨panic, htake⟩ := tryTakeUih_panics hgrant
    exact ⟨panic, by rw [tryOnUih, htake]; rfl⟩
  | false =>
    rw [hgrant, Bool.false_or] at hpanics
    have htaken : (dlc.takeUih frame).Limited := by
      rw [dlc.takeUih_same frame]
      exact hlimited
    simp only [tryOnUih, tryTakeUih_eq hgrant, bind, Except.bind]
    rw [tryProcessTx_eq htaken, if_pos ((roomPanics_iff hlimited hgrant).mp hpanics)]
    exact ⟨_, rfl⟩

end Dlc

/-! ## 5. The multiplexer -/

section Multiplexer

variable {mux : Multiplexer} {frame : RfcommFrame}

theorem tryOnPdu_eq (hmux : AllPlaced mux) (hpanics : mux.panics frame = false) :
    mux.tryOnPdu frame = .ok (mux.onPdu frame) := by
  rw [Multiplexer.tryOnPdu, Multiplexer.onPdu]
  by_cases hzero : frame.dlci = 0
  · rw [if_pos hzero, if_pos hzero]
  rw [if_neg hzero, if_neg hzero]
  split
  · rfl
  cases hget : mux.dlcs[frame.dlci]? with
  | none => rfl
  | some dlc =>
    have hframe : dlc.tryOnFrame frame = .ok (dlc.onFrame frame) := by
      rw [Dlc.tryOnFrame]
      split
      · next huih =>
        simp only [Multiplexer.panics, hzero, huih, hget, ne_eq, not_false_eq_true, decide_true,
          Bool.true_and, Option.any_some, Bool.or_eq_false_iff] at hpanics
        rw [Dlc.tryOnUih_eq (hmux frame.dlci dlc hget).limited hpanics.1 hpanics.2,
          Dlc.onFrame, huih]
        rfl
      · rfl
    dsimp only
    rw [hframe]
    rfl

theorem tryOnPdu_panics (hmux : AllPlaced mux) (hpanics : mux.panics frame = true) :
    ∃ panic, mux.tryOnPdu frame = .error panic := by
  simp only [Multiplexer.panics, Bool.and_eq_true, decide_eq_true_eq] at hpanics
  obtain ⟨⟨hzero, huih⟩, hdlc⟩ := hpanics
  obtain ⟨dlc, hget, hdlc⟩ := (Option.any_eq_true ..).mp hdlc
  obtain ⟨panic, hframe⟩ := Dlc.tryOnUih_panics (hmux frame.dlci dlc hget).limited hdlc
  have hdm : frame.frameType ≠ .dm := by
    rw [huih]
    nofun
  rw [Multiplexer.tryOnPdu, if_neg hzero, if_neg hdm, hget]
  simp only [Dlc.tryOnFrame, huih, hframe]
  exact ⟨panic, rfl⟩

end Multiplexer

/-- **Which frames complete.**  In every state that a new multiplexer can reach,
    by any calls and any frames: exactly those that are not of the three kinds. -/
theorem onPdu_completes_iff (role : Role) (peerMtu : UInt16) (ops : List MuxOp)
    (frame : RfcommFrame) :
    (∃ next, ((Multiplexer.new role peerMtu).runOps ops).tryOnPdu frame = .ok next) ↔
      ((Multiplexer.new role peerMtu).runOps ops).panics frame = false := by
  have hmux := allPlaced_run role peerMtu ops
  generalize (Multiplexer.new role peerMtu).runOps ops = mux at hmux ⊢
  constructor
  · rintro ⟨next, hnext⟩
    apply Bool.eq_false_of_not_eq_true
    intro hpanics
    obtain ⟨panic, herror⟩ := tryOnPdu_panics hmux hpanics
    rw [hnext] at herror
    cases herror
  · intro hpanics
    exact ⟨_, tryOnPdu_eq hmux hpanics⟩

def openedByPeer : List MuxOp :=
  [.listen 1 100 7,
    .onPdu (.uih true 0 (makeMcc .pn true (RfcommMccPn.toBytes ⟨2, 0xF0, 7, 0, 100, 0, 7⟩)) false),
    .onPdu (.sabm true 2)]

/-- A UIH frame for the open DLC with the P/F bit and no information. -/
theorem empty_credit_frame_panics :
    ¬ ∀ (role : Role) (peerMtu : UInt16) (ops : List MuxOp) (bytes : Bytes) (frame : RfcommFrame),
      RfcommFrame.fromBytes bytes = .ok frame →
      ∃ next, ((Multiplexer.new role peerMtu).runOps ops).tryOnPdu frame = .ok next := by
  intro hall
  have hbytes : RfcommFrame.fromBytes [0x0B, 0xFF, 0x01, 0x86] =
      .ok ⟨.uih, true, 2, true, [], false⟩ := by decide
  obtain ⟨next, hnext⟩ := hall .responder 1000 openedByPeer _ _ hbytes
  have hpanics : ((Multiplexer.new .responder 1000).runOps openedByPeer).panics
      ⟨.uih, true, 2, true, [], false⟩ = true := by decide
  obtain ⟨panic, herror⟩ := tryOnPdu_panics (allPlaced_run .responder 1000 openedByPeer) hpanics
  rw [hnext] at herror
  cases herror

end Bumble.Rfcomm
