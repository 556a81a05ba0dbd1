import Bumble.RfcommMux

/-!
# The transmit engine of an RFCOMM DLC

`process_tx` takes credits and data out of a DLC and puts them into frames.
What leaves the DLC is what the frames carry, unless a grant does not fit its
octet or leaves no room for the data it is sent with.
-/

namespace Bumble.Rfcomm

/-! ## 1. What a frame carries for a DLC -/

def isUih (dlci : UInt8) (frame : RfcommFrame) : Bool :=
  frame.frameType = .uih && frame.dlci = dlci

def grantOf (dlci : UInt8) (frame : RfcommFrame) : Nat :=
  if isUih dlci frame && frame.pF then (frame.information.headD 0).toNat else 0

/-- The data of a frame of the DLC: what follows the grant. -/
def dataOf (dlci : UInt8) (frame : RfcommFrame) : Bytes :=
  if isUih dlci frame then
    if frame.pF then frame.information.drop 1 else frame.information
  else []

def costOf (dlci : UInt8) (frame : RfcommFrame) : Nat :=
  if (dataOf dlci frame).isEmpty then 0 else 1

/-- The credits carried by grant octets of the frames. -/
def grantsIn (dlci : UInt8) (frames : List RfcommFrame) : Nat := (frames.map (grantOf dlci)).sum

def dataFramesIn (dlci : UInt8) (frames : List RfcommFrame) : Nat :=
  (frames.map (costOf dlci)).sum

def payloadOf (dlci : UInt8) (frames : List RfcommFrame) : Bytes := frames.flatMap (dataOf dlci)

section Frames

variable (dlci : UInt8) (frame : RfcommFrame) (frames rest : List RfcommFrame)

@[simp] theorem grantsIn_nil : grantsIn dlci [] = 0 := rfl
@[simp] theorem dataFramesIn_nil : dataFramesIn dlci [] = 0 := rfl
@[simp] theorem payloadOf_nil : payloadOf dlci [] = [] := rfl

@[simp] theorem grantsIn_cons :
    grantsIn dlci (frame :: frames) = grantOf dlci frame + grantsIn dlci frames := by
  simp [grantsIn]

@[simp] theorem dataFramesIn_cons :
    dataFramesIn dlci (frame :: frames) = costOf dlci frame + dataFramesIn dlci frames := by
  simp [dataFramesIn]

@[simp] theorem payloadOf_cons :
    payloadOf dlci (frame :: frames) = dataOf dlci frame ++ payloadOf dlci frames := by
  simp [payloadOf]

@[simp] theorem grantsIn_append :
    grantsIn dlci (frames ++ rest) = grantsIn dlci frames + grantsIn dlci rest := by
  simp [grantsIn]

@[simp] theorem dataFramesIn_append :
    dataFramesIn dlci (frames ++ rest) = dataFramesIn dlci frames + dataFramesIn dlci rest := by
  simp [dataFramesIn]

@[simp] theorem payloadOf_append :
    payloadOf dlci (frames ++ rest) = payloadOf dlci frames ++ payloadOf dlci rest := by
  simp [payloadOf]

variable {dlci frame}

theorem carries_nothing (hframe : isUih dlci frame = false) :
    grantOf dlci frame = 0 ∧ costOf dlci frame = 0 ∧ dataOf dlci frame = [] := by
  simp [grantOf, costOf, dataOf, hframe]

theorem carry_nothing {frames : List RfcommFrame}
    (hframes : ∀ frame ∈ frames, isUih dlci frame = false) :
    grantsIn dlci frames = 0 ∧ dataFramesIn dlci frames = 0 ∧ payloadOf dlci frames = [] := by
  induction frames with
  | nil => exact ⟨rfl, rfl, rfl⟩
  | cons frame frames ih =>
    obtain ⟨hgrant, hcost, hdata⟩ := carries_nothing (hframes frame List.mem_cons_self)
    obtain ⟨hgrants, hcosts, hdatas⟩ := ih fun other hother =>
      hframes other (List.mem_cons_of_mem _ hother)
    simp [hgrant, hcost, hdata, hgrants, hcosts, hdatas]

end Frames

/-! ## 2. The transmit engine -/

namespace Dlc

/-- The limits that `set_dlc_receive_credits` accepts. -/
def Limited (dlc : Dlc) : Prop := dlc.rxCreditsThreshold ≤ dlc.rxMaxCredits

/-- The grant fits its octet, and data that is sent has room: two octets in a
    frame that also grants, one in any other. -/
def fits (dlc : Dlc) : Bool :=
  dlc.rxCreditsNeeded.toNat ≤ 255 &&
    (!dlc.canSendData || (if dlc.rxCreditsNeeded > 0 then 2 ≤ dlc.mtu else 1 ≤ dlc.mtu))

/-- What a transmission may do: credits and data leave with the frames, and
    nothing else changes. -/
structure Transmits (dlc : Dlc) (call : DlcCall) : Prop where
  rx : call.1.rxCredits.toNat = dlc.rxCredits.toNat + grantsIn dlc.dlci call.2
  tx : call.1.txCredits.toNat + dataFramesIn dlc.dlci call.2 = dlc.txCredits.toNat
  stream : payloadOf dlc.dlci call.2 ++ call.1.txBuffer = dlc.txBuffer
  frames : ∀ frame ∈ call.2, isUih dlc.dlci frame = true ∧
    (frame.pF = true → frame.information ≠ []) ∧ frame.information.length ≤ max dlc.mtu 1
  same : call.1 = { dlc with
    rxCredits := call.1.rxCredits, txCredits := call.1.txCredits, txBuffer := call.1.txBuffer }

theorem Transmits.nil (dlc : Dlc) : Transmits dlc (dlc, []) where
  rx := rfl
  tx := rfl
  stream := rfl
  frames frame hframe := by cases hframe
  same := rfl

theorem Transmits.trans {dlc : Dlc} {first second : DlcCall} (hfirst : Transmits dlc first)
    (hsecond : Transmits first.1 second) : Transmits dlc (second.1, first.2 ++ second.2) := by
  have hdlci : first.1.dlci = dlc.dlci := by rw [hfirst.same]
  have hmtu : first.1.mtu = dlc.mtu := by rw [hfirst.same]
  obtain ⟨hrx, htx, hstream, hframes, hsame⟩ := hsecond
  rw [hdlci] at hrx htx hstream hframes
  constructor
  case rx =>
    rw [hrx, hfirst.rx, grantsIn_append, Nat.add_assoc]
  case tx =>
    have hcredits := hfirst.tx
    simp only [dataFramesIn_append]
    omega
  case stream =>
    rw [payloadOf_append, List.append_assoc, hstream, hfirst.stream]
  case frames =>
    intro frame hframe
    rcases List.mem_append.mp hframe with hframe | hframe
    · exact hfirst.frames frame hframe
    · rw [hmtu] at hframes
      exact hframes frame hframe
  case same =>
    rw [hsame, hfirst.same]

theorem canSendData_iff {dlc : Dlc} :
    dlc.canSendData = true ↔ dlc.txBuffer ≠ [] ∧ dlc.txCredits.toNat ≠ 0 := by
  simp only [canSendData, Bool.and_eq_true, Bool.not_eq_true', List.isEmpty_eq_false_iff,
    decide_eq_true_eq, gt_iff_lt, UInt16.lt_iff_toNat_lt, UInt16.toNat_zero, Nat.pos_iff_ne_zero]

theorem txCredits_sub {dlc : Dlc} (hcredits : dlc.txCredits.toNat ≠ 0) :
    (dlc.txCredits - 1).toNat + 1 = dlc.txCredits.toNat := by
  have hle : (1 : UInt16) ≤ dlc.txCredits := by
    rw [UInt16.le_iff_toNat_le]
    exact Nat.pos_of_ne_zero hcredits
  rw [UInt16.toNat_sub_of_le _ _ hle]
  exact Nat.sub_add_cancel (Nat.pos_of_ne_zero hcredits)

theorem takeData_ne_nil {dlc : Dlc} {length : Nat} (hbuffer : dlc.txBuffer ≠ [])
    (hlength : 1 ≤ length) : (dlc.takeData length).1 ≠ [] := by
  have hpositive := List.length_pos_iff.mpr hbuffer
  apply List.ne_nil_of_length_pos
  simp only [takeData, List.length_take]
  omega

theorem dataRound_transmits {dlc : Dlc} (hcan : dlc.canSendData = true) (hmtu : 1 ≤ dlc.mtu) :
    Transmits dlc dlc.dataRound := by
  obtain ⟨hbuffer, hcredits⟩ := canSendData_iff.mp hcan
  have hdata := takeData_ne_nil hbuffer hmtu
  simp only [takeData] at hdata
  constructor
  case rx => simp [dataRound, takeData, RfcommFrame.uih, grantOf]
  case tx =>
    simp only [dataRound, takeData, RfcommFrame.uih, dataFramesIn_cons, dataFramesIn_nil, costOf,
      dataOf, isUih, decide_true, Bool.and_self, if_true, Bool.false_eq_true, if_false,
      List.isEmpty_iff, hdata]
    exact txCredits_sub hcredits
  case stream => simp [dataRound, takeData, RfcommFrame.uih, dataOf, isUih]
  case frames =>
    intro frame hframe
    rw [dataRound] at hframe
    rw [List.mem_singleton.mp hframe]
    refine ⟨by simp [RfcommFrame.uih, isUih, takeData], by simp [RfcommFrame.uih], ?_⟩
    simp only [RfcommFrame.uih, takeData, List.length_take]
    omega
  case same => rfl

theorem sendLoop_transmits (fuel : Nat) : ∀ {dlc : Dlc},
    (dlc.canSendData = true → 1 ≤ dlc.mtu) → Transmits dlc (sendLoop fuel dlc) := by
  induction fuel with
  | zero =>
    intro dlc _
    exact .nil dlc
  | succ fuel ih =>
    intro dlc hmtu
    simp only [sendLoop]
    by_cases hcan : dlc.canSendData = true
    · rw [if_pos hcan]
      have hround := dataRound_transmits hcan (hmtu hcan)
      exact hround.trans (ih fun _ => hmtu hcan)
    · rw [if_neg hcan]
      exact .nil dlc

theorem sendLoop_drained (fuel : Nat) : ∀ {dlc : Dlc}, dlc.txCredits.toNat ≤ fuel →
    (sendLoop fuel dlc).1.canSendData = false := by
  induction fuel with
  | zero =>
    intro dlc hfuel
    apply Bool.eq_false_of_not_eq_true
    intro hcan
    exact (canSendData_iff.mp hcan).2 (Nat.le_zero.mp hfuel)
  | succ fuel ih =>
    intro dlc hfuel
    simp only [sendLoop]
    by_cases hcan : dlc.canSendData = true
    · rw [if_pos hcan]
      apply ih
      have hcredits := txCredits_sub (canSendData_iff.mp hcan).2
      simp only [dataRound, takeData]
      omega
    · rw [if_neg hcan]
      exact Bool.eq_false_of_not_eq_true hcan

theorem rxCreditsNeeded_positive {dlc : Dlc} (hlimited : dlc.Limited)
    (hneeded : dlc.rxCreditsNeeded > 0) :
    dlc.readingPaused = false ∧
      dlc.rxCredits.toNat + dlc.rxCreditsNeeded.toNat = dlc.rxMaxCredits.toNat := by
  simp only [rxCreditsNeeded] at hneeded ⊢
  by_cases hlow : (!dlc.readingPaused) = true ∧ dlc.rxCredits ≤ dlc.rxCreditsThreshold
  · rw [if_pos hlow] at hneeded ⊢
    have hle : dlc.rxCredits ≤ dlc.rxMaxCredits := UInt16.le_trans hlow.2 hlimited
    rw [UInt16.toNat_sub_of_le _ _ hle]
    rw [UInt16.le_iff_toNat_le] at hle
    exact ⟨by simpa using hlow.1, Nat.add_sub_cancel' hle⟩
  · rw [if_neg hlow] at hneeded
    exact absurd hneeded (by decide)

/-- The credits of a grant leave with the frames that carry it. -/
theorem grantRound_transmits {dlc : Dlc} {needed : UInt16}
    (hsum : dlc.rxCredits.toNat + needed.toNat < 65536) (hoctet : needed.toNat ≤ 255)
    (hmtu : dlc.canSendData = true → 2 ≤ dlc.mtu) : Transmits dlc (dlc.grantRound needed) := by
  have hrx : (dlc.rxCredits + needed).toNat = dlc.rxCredits.toNat + needed.toNat := by
    rw [UInt16.toNat_add]
    exact Nat.mod_eq_of_lt hsum
  have hgrant : needed.toUInt8.toNat = needed.toNat := by
    rw [UInt16.toNat_toUInt8]
    exact Nat.mod_eq_of_lt (by omega)
  simp only [grantRound]
  by_cases hcan : dlc.canSendData = true
  · have hroom : dlc.grantRoom = dlc.mtu - 1 := if_neg (by have := hmtu hcan; omega)
    obtain ⟨hbuffer, hcredits⟩ := canSendData_iff.mp hcan
    have hdata : (dlc.takeData (dlc.mtu - 1)).1 ≠ [] :=
      takeData_ne_nil hbuffer (by have := hmtu hcan; omega)
    have hstart : { dlc with rxCredits := dlc.rxCredits + needed }.canSendData = true := hcan
    simp only [takeData] at hdata
    rw [if_pos hstart]
    simp only [show { dlc with rxCredits := dlc.rxCredits + needed }.grantRoom =
      dlc.mtu - 1 from hroom]
    constructor
    case rx =>
      simp only [takeData, RfcommFrame.uih, grantsIn_cons, grantsIn_nil, grantOf, isUih,
        decide_true, Bool.and_self, if_true, List.headD_cons, hgrant, Nat.add_zero]
      exact hrx
    case tx =>
      simp only [takeData, RfcommFrame.uih, dataFramesIn_cons, dataFramesIn_nil, costOf, dataOf,
        isUih, decide_true, Bool.and_self, if_true, List.drop_succ_cons, List.drop_zero,
        List.isEmpty_iff, hdata, if_false]
      exact txCredits_sub hcredits
    case stream => simp [takeData, RfcommFrame.uih, dataOf, isUih]
    case frames =>
      intro frame hframe
      rw [List.mem_singleton.mp hframe]
      refine ⟨by simp [RfcommFrame.uih, isUih, takeData], by simp [RfcommFrame.uih], ?_⟩
      simp only [RfcommFrame.uih, takeData, List.length_cons, List.length_take]
      have := hmtu hcan
      omega
    case same => rfl
  · have hstart : ¬ { dlc with rxCredits := dlc.rxCredits + needed }.canSendData = true := hcan
    rw [if_neg hstart]
    constructor
    case rx =>
      simp only [RfcommFrame.uih, grantsIn_cons, grantsIn_nil, grantOf, isUih, decide_true,
        Bool.and_self, if_true, List.headD_cons, hgrant, Nat.add_zero]
      exact hrx
    case tx => simp [RfcommFrame.uih, costOf, dataOf, isUih]
    case stream => simp [RfcommFrame.uih, dataOf, isUih]
    case frames =>
      intro frame hframe
      rw [List.mem_singleton.mp hframe]
      refine ⟨by simp [RfcommFrame.uih, isUih], by simp [RfcommFrame.uih], ?_⟩
      simp [RfcommFrame.uih]
    case same => rfl

theorem grantRound_rxCredits (dlc : Dlc) (needed : UInt16) :
    (dlc.grantRound needed).1.rxCredits = dlc.rxCredits + needed := by
  simp only [grantRound]
  split <;> rfl

theorem sendLoop_rxCredits (fuel : Nat) : ∀ (dlc : Dlc),
    (sendLoop fuel dlc).1.rxCredits = dlc.rxCredits := by
  induction fuel with
  | zero =>
    intro dlc
    rfl
  | succ fuel ih =>
    intro dlc
    simp only [sendLoop]
    split
    · exact ih _
    · rfl

theorem rxCreditsNeeded_zero {dlc : Dlc} (hlimited : dlc.Limited)
    (hneeded : ¬ dlc.rxCreditsNeeded > 0) (hreading : dlc.readingPaused = false) :
    dlc.rxCreditsThreshold < dlc.rxCredits ∨ dlc.rxCredits = dlc.rxMaxCredits := by
  by_cases hlow : dlc.rxCredits ≤ dlc.rxCreditsThreshold
  · right
    have hle : dlc.rxCredits ≤ dlc.rxMaxCredits := UInt16.le_trans hlow hlimited
    have hzero : (dlc.rxMaxCredits - dlc.rxCredits).toNat = 0 := by
      simpa [rxCreditsNeeded, hreading, hlow, UInt16.lt_iff_toNat_lt] using hneeded
    rw [UInt16.toNat_sub_of_le _ _ hle] at hzero
    rw [UInt16.le_iff_toNat_le] at hle
    apply UInt16.toNat_inj.mp
    omega
  · exact .inl (UInt16.not_le.mp hlow)

/-- **The transmit engine.**  What it sends is what leaves the ledger, it stops
    for want of data or credits, and it brings the peer's credits above the
    threshold unless reading is paused. -/
theorem processTx_spec {dlc : Dlc} (hlimited : dlc.Limited) (hfits : dlc.fits = true) :
    Transmits dlc dlc.processTx ∧ dlc.processTx.1.canSendData = false ∧
      (dlc.readingPaused = false → dlc.rxCreditsThreshold < dlc.processTx.1.rxCredits ∨
        dlc.processTx.1.rxCredits = dlc.rxMaxCredits) := by
  simp only [fits, Bool.and_eq_true, Bool.or_eq_true, Bool.not_eq_true', decide_eq_true_eq] at hfits
  obtain ⟨hoctet, hroom⟩ := hfits
  simp only [processTx]
  by_cases hneeded : dlc.rxCreditsNeeded > 0
  · obtain ⟨hreading, hsum⟩ := rxCreditsNeeded_positive hlimited hneeded
    have hmax := dlc.rxMaxCredits.toNat_lt
    have hmtu : dlc.canSendData = true → 2 ≤ dlc.mtu := by
      intro hcan
      simpa [hcan, hneeded] using hroom
    have hgrant := grantRound_transmits (by omega) hoctet hmtu
    have hrx := grantRound_rxCredits dlc dlc.rxCreditsNeeded
    rw [if_pos hneeded]
    generalize dlc.grantRound dlc.rxCreditsNeeded = granted at hgrant hrx
    have hgranted : granted.1.canSendData = true → 1 ≤ granted.1.mtu := by
      intro hcan
      have hsame := hgrant.same
      rw [hsame]
      have hbuffer := (canSendData_iff.mp hcan).1
      have hcredits := (canSendData_iff.mp hcan).2
      have hbefore : dlc.canSendData = true := by
        rw [canSendData_iff, ← hgrant.stream, ← hgrant.tx]
        exact ⟨by simp [hbuffer], by omega⟩
      exact (hmtu hbefore).trans' (by decide)
    have hloop := sendLoop_transmits granted.1.txCredits.toNat hgranted
    refine ⟨hgrant.trans hloop, sendLoop_drained _ le_rfl, fun _ => .inr ?_⟩
    rw [sendLoop_rxCredits, hrx]
    apply UInt16.toNat_inj.mp
    rw [UInt16.toNat_add, hsum]
    exact Nat.mod_eq_of_lt hmax
  · rw [if_neg hneeded]
    have hmtu : dlc.canSendData = true → 1 ≤ dlc.mtu := by
      intro hcan
      simpa [hcan, hneeded] using hroom
    refine ⟨sendLoop_transmits dlc.txCredits.toNat hmtu, sendLoop_drained _ le_rfl, ?_⟩
    intro hreading
    rw [sendLoop_rxCredits]
    exact rxCreditsNeeded_zero hlimited hneeded hreading

/-! ### Reception -/

/-- What a data frame does to the credits of its channel, and that it does no more. -/
theorem takeUih_spec {dlc : Dlc} {frame : RfcommFrame} (hframe : isUih dlc.dlci frame = true)
    (hgrant : dlc.txCredits.toNat + grantOf dlc.dlci frame < 65536)
    (hcost : costOf dlc.dlci frame ≤ dlc.rxCredits.toNat) :
    (dlc.takeUih frame).txCredits.toNat = dlc.txCredits.toNat + grantOf dlc.dlci frame ∧
    (dlc.takeUih frame).rxCredits.toNat + costOf dlc.dlci frame = dlc.rxCredits.toNat ∧
    dlc.takeUih frame = { dlc with
      txCredits := (dlc.takeUih frame).txCredits
      rxCredits := (dlc.takeUih frame).rxCredits
      rxPackets := (dlc.takeUih frame).rxPackets } := by
  have htake : ∀ (start : Dlc) (data : Bytes), start.rxCredits = dlc.rxCredits →
      data = dataOf dlc.dlci frame →
      (if data.isEmpty then start else { start with
        rxPackets :=
          (if start.rxPackets.length = rfcommDefaultRxQueueSize then start.rxPackets.drop 1
            else start.rxPackets) ++ [data]
        rxCredits := if start.rxCredits > 0 then start.rxCredits - 1
          else start.rxCredits }).rxCredits.toNat + costOf dlc.dlci frame =
        dlc.rxCredits.toNat := by
    intro start data hstart hdata
    by_cases hempty : data.isEmpty = true
    · rw [if_pos hempty, hstart, costOf, ← hdata, if_pos hempty, Nat.add_zero]
    · rw [if_neg hempty]
      rw [costOf, ← hdata, if_neg hempty] at hcost ⊢
      simp only [hstart]
      have hpositive : dlc.rxCredits > 0 := by
        rw [gt_iff_lt, UInt16.lt_iff_toNat_lt]
        exact hcost
      have hle : (1 : UInt16) ≤ dlc.rxCredits := by
        rw [UInt16.le_iff_toNat_le]
        exact hcost
      rw [if_pos hpositive, UInt16.toNat_sub_of_le _ _ hle]
      exact Nat.sub_add_cancel hcost
  simp only [takeUih]
  by_cases hpF : frame.pF = true
  · have hdata : frame.information.drop 1 = dataOf dlc.dlci frame := by simp [dataOf, hframe, hpF]
    have hoctet : grantOf dlc.dlci frame = (frame.information.headD 0).toNat := by
      simp [grantOf, hframe, hpF]
    simp only [hpF, if_true]
    refine ⟨?_, htake _ _ rfl hdata, ?_⟩
    · have hsum : (dlc.txCredits + (frame.information.headD 0).toUInt16).toNat =
          dlc.txCredits.toNat + grantOf dlc.dlci frame := by
        rw [UInt16.toNat_add, UInt8.toNat_toUInt16, ← hoctet]
        exact Nat.mod_eq_of_lt hgrant
      split <;> exact hsum
    · split <;> rfl
  · have hdata : frame.information = dataOf dlc.dlci frame := by simp [dataOf, hframe, hpF]
    have hnone : grantOf dlc.dlci frame = 0 := by simp [grantOf, hpF]
    simp only [hpF, Bool.false_eq_true, if_false]
    refine ⟨?_, htake _ _ rfl hdata, ?_⟩
    · split <;> simp [hnone]
    · split <;> rfl

end Dlc

/-! ## 3. What never changes -/

namespace Dlc

theorem sendLoop_same (fuel : Nat) : ∀ (dlc : Dlc),
    ((sendLoop fuel dlc).1 = { dlc with
      rxCredits := (sendLoop fuel dlc).1.rxCredits
      txCredits := (sendLoop fuel dlc).1.txCredits
      txBuffer := (sendLoop fuel dlc).1.txBuffer }) ∧
    ∀ frame ∈ (sendLoop fuel dlc).2, isUih dlc.dlci frame = true := by
  induction fuel with
  | zero =>
    intro dlc
    exact ⟨rfl, by simp [sendLoop]⟩
  | succ fuel ih =>
    intro dlc
    simp only [sendLoop]
    by_cases hcan : dlc.canSendData = true
    · rw [if_pos hcan]
      obtain ⟨hsame, hframes⟩ := ih dlc.dataRound.1
      refine ⟨?_, ?_⟩
      · rw [hsame]
        rfl
      · intro frame hframe
        rcases List.mem_append.mp hframe with hframe | hframe
        · rw [dataRound] at hframe
          rw [List.mem_singleton.mp hframe]
          simp [RfcommFrame.uih, isUih, takeData]
        · exact hframes frame hframe
    · rw [if_neg hcan]
      exact ⟨rfl, by simp⟩

theorem processTx_same (dlc : Dlc) :
    (dlc.processTx.1 = { dlc with
      rxCredits := dlc.processTx.1.rxCredits
      txCredits := dlc.processTx.1.txCredits
      txBuffer := dlc.processTx.1.txBuffer }) ∧
    ∀ frame ∈ dlc.processTx.2, isUih dlc.dlci frame = true := by
  simp only [processTx]
  by_cases hneeded : dlc.rxCreditsNeeded > 0
  · rw [if_pos hneeded]
    have hgrant : (dlc.grantRound dlc.rxCreditsNeeded).1 = { dlc with
        rxCredits := (dlc.grantRound dlc.rxCreditsNeeded).1.rxCredits
        txCredits := (dlc.grantRound dlc.rxCreditsNeeded).1.txCredits
        txBuffer := (dlc.grantRound dlc.rxCreditsNeeded).1.txBuffer } := by
      simp only [grantRound]
      split <;> rfl
    have hfirst : ∀ frame ∈ (dlc.grantRound dlc.rxCreditsNeeded).2,
        isUih dlc.dlci frame = true := by
      intro frame hframe
      simp only [grantRound] at hframe
      split at hframe <;>
      · rw [List.mem_singleton.mp hframe]
        simp [RfcommFrame.uih, isUih, takeData]
    generalize dlc.grantRound dlc.rxCreditsNeeded = granted at hgrant hfirst
    obtain ⟨hsame, hframes⟩ := sendLoop_same granted.1.txCredits.toNat granted.1
    have hdlci : granted.1.dlci = dlc.dlci := by rw [hgrant]
    refine ⟨?_, ?_⟩
    · rw [hsame, hgrant]
    · intro frame hframe
      rcases List.mem_append.mp hframe with hframe | hframe
      · exact hfirst frame hframe
      · rw [← hdlci]
        exact hframes frame hframe
  · rw [if_neg hneeded]
    exact sendLoop_same _ _

theorem takeUih_same (dlc : Dlc) (frame : RfcommFrame) :
    dlc.takeUih frame = { dlc with
      txCredits := (dlc.takeUih frame).txCredits
      rxCredits := (dlc.takeUih frame).rxCredits
      rxPackets := (dlc.takeUih frame).rxPackets } := by
  simp only [takeUih]
  split <;> split <;> rfl

end Dlc

end Bumble.Rfcomm
