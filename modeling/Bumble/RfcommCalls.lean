import Bumble.RfcommTransmit

/-!
# The calls of an RFCOMM multiplexer

Everything that can happen to a multiplexer: the calls of its owner and the
frames of its peer, in any order.  Whatever happens, a DLC is stored under its
own DLCI, its credit limits are in order, and none is ever open under DLCI 0,
whose frames belong to the session.
-/

namespace Bumble.Rfcomm

/-! ## 1. Runs of one multiplexer -/

inductive MuxOp where
  | listen (channel : UInt8) (rxMaxFrameSize rxInitialCredits : UInt16)
  | connect
  | openDlc (channel : UInt8) (maxFrameSize initialCredits : UInt16)
  | disconnect
  | disconnectDlc (dlci : UInt8)
  | write (dlci : UInt8) (data : Bytes)
  | setDlcReceiveCredits (dlci : UInt8) (maxCredits threshold : UInt16)
  | setDlcReadingPaused (dlci : UInt8) (paused : Bool)
  | takeRx (dlci : UInt8)
  | onPdu (frame : RfcommFrame)
  | drainOutgoing
  | takeOpened

/-- The multiplexer after a call, whatever the call returns. -/
def MuxOp.apply (mux : Multiplexer) : MuxOp → Multiplexer
  | listen channel rxMaxFrameSize rxInitialCredits =>
    mux.listen channel rxMaxFrameSize rxInitialCredits
  | connect => mux.connect.state
  | openDlc channel maxFrameSize initialCredits =>
    (mux.openDlc channel maxFrameSize initialCredits).state
  | disconnect => mux.disconnect.state
  | disconnectDlc dlci => (mux.disconnectDlc dlci).state
  | write dlci data => (mux.write dlci data).state
  | setDlcReceiveCredits dlci maxCredits threshold =>
    (mux.setDlcReceiveCredits dlci maxCredits threshold).state
  | setDlcReadingPaused dlci paused => (mux.setDlcReadingPaused dlci paused).state
  | takeRx dlci => (mux.takeRx dlci).2
  | onPdu frame => mux.onPdu frame
  | drainOutgoing => mux.drainOutgoing.2
  | takeOpened => mux.takeOpened.2

def Multiplexer.runOps (mux : Multiplexer) (ops : List MuxOp) : Multiplexer :=
  ops.foldl MuxOp.apply mux

/-! ## 2. What holds of every DLC -/

structure Placed (dlci : UInt8) (dlc : Dlc) : Prop where
  own : dlc.dlci = dlci
  limited : dlc.Limited
  zero : dlci = 0 → dlc.state ≠ .connected

def AllPlaced (mux : Multiplexer) : Prop :=
  ∀ (dlci : UInt8) (dlc : Dlc), mux.dlcs[dlci]? = some dlc → Placed dlci dlc

section Placed

variable {mux next : Multiplexer} {dlci : UInt8} {dlc : Dlc}

theorem AllPlaced.store (hmux : AllPlaced mux) {call : DlcCall} (hcall : Placed dlci call.1)
    (hdlcs : next.dlcs = mux.dlcs.insert dlci call.1) : AllPlaced next := by
  intro other found hget
  rw [hdlcs, OrderedMap.getElem?_insert] at hget
  split at hget
  · next hdlci =>
    subst hdlci
    cases hget
    exact hcall
  · exact hmux other found hget

theorem Placed.processTx (hdlc : Placed dlci dlc) : Placed dlci dlc.processTx.1 := by
  rw [dlc.processTx_same.1]
  exact ⟨hdlc.own, hdlc.limited, hdlc.zero⟩

theorem Placed.onUih (hdlc : Placed dlci dlc) (frame : RfcommFrame) :
    Placed dlci (dlc.onUih frame).1 := by
  apply Placed.processTx
  rw [dlc.takeUih_same frame]
  exact ⟨hdlc.own, hdlc.limited, hdlc.zero⟩

theorem placed_new (role : Role) (dlci : UInt8) (txMaxFrameSize txInitialCredits rxInitialCredits
    peerMtu : UInt16) :
    Placed dlci { Dlc.new role dlci txMaxFrameSize txInitialCredits rxInitialCredits peerMtu with
      state := .connecting } where
  own := rfl
  limited := by
    change rfcommDefaultCreditThreshold ≤ rfcommDefaultMaxCredits.toUInt16
    decide
  zero _ := nofun

theorem AllPlaced.onMccPn (hmux : AllPlaced mux) (command : Bool) (pn : RfcommMccPn) :
    AllPlaced (mux.onMccPn command pn) := by
  simp only [Multiplexer.onMccPn]
  split
  · split
    · exact hmux
    split
    · exact hmux.store (placed_new _ _ _ _ _ _) rfl
    · exact hmux
  split
  · split
    · exact hmux
    · exact hmux.store (placed_new _ _ _ _ _ _) rfl
  · exact hmux

theorem AllPlaced.onControlFrame (hmux : AllPlaced mux) (frame : RfcommFrame) :
    AllPlaced (mux.onControlFrame frame) := by
  have huih : AllPlaced (mux.onUihControl frame) := by
    simp only [Multiplexer.onUihControl]
    split
    · exact hmux
    split
    · split
      · exact hmux.onMccPn _ _
      · exact hmux
    split
    · split
      · split <;> exact hmux
      · exact hmux
    · exact hmux
  simp only [Multiplexer.onControlFrame, Multiplexer.onDm]
  split
  · split <;> exact hmux
  · split <;> exact hmux
  · exact hmux
  · split <;> exact hmux
  · exact huih
  · exact hmux

theorem Placed.onFrame (hdlc : Placed dlci dlc) (hdlci : dlci ≠ 0) (frame : RfcommFrame) :
    Placed dlci (dlc.onFrame frame).1.1 := by
  have hstate : ∀ state, Placed dlci { dlc with state } := fun state =>
    ⟨hdlc.own, hdlc.limited, fun hzero => absurd hzero hdlci⟩
  simp only [Dlc.onFrame]
  split
  · simp only [Dlc.onSabm]
    split
    · exact hdlc
    · exact hstate _
  · simp only [Dlc.onUa]
    split
    · exact hstate _
    · exact hstate _
    · exact hdlc
  · exact hdlc
  · exact hdlc.onUih frame
  · exact hdlc
  · exact hdlc

theorem AllPlaced.onPdu (hmux : AllPlaced mux) (frame : RfcommFrame) :
    AllPlaced (mux.onPdu frame) := by
  simp only [Multiplexer.onPdu]
  by_cases hzero : frame.dlci = 0
  · rw [if_pos hzero]
    exact hmux.onControlFrame frame
  rw [if_neg hzero]
  split
  · simp only [Multiplexer.onDm]
    split <;> exact hmux
  split
  · exact hmux
  · next dlc hget =>
    have hstored : AllPlaced (mux.store frame.dlci (dlc.onFrame frame).1) :=
      hmux.store ((hmux frame.dlci dlc hget).onFrame hzero frame) rfl
    cases (dlc.onFrame frame).2 with
    | disconnected =>
      intro other found hfound
      simp only [Multiplexer.applyUpcall, OrderedMap.getElem?_erase] at hfound
      split at hfound
      · cases hfound
      · exact hstored other found hfound
    | _ => exact hstored

/-- **The step.** -/
theorem AllPlaced.step (hmux : AllPlaced mux) (op : MuxOp) : AllPlaced (op.apply mux) := by
  cases op with
  | listen => exact hmux
  | connect =>
    simp only [MuxOp.apply, Multiplexer.connect]
    split <;> exact hmux
  | openDlc =>
    simp only [MuxOp.apply, Multiplexer.openDlc]
    split <;> exact hmux
  | disconnect =>
    simp only [MuxOp.apply, Multiplexer.disconnect]
    split <;> exact hmux
  | disconnectDlc dlci =>
    simp only [MuxOp.apply, Multiplexer.disconnectDlc, Dlc.disconnect]
    split
    · exact hmux
    · next dlc hget =>
      split
      · exact hmux
      · next call hcall =>
        split at hcall
        · cases hcall
        · cases hcall
          have hdlc := hmux dlci dlc hget
          have hleaving : Placed dlci { dlc with state := .disconnecting } :=
            ⟨hdlc.own, hdlc.limited, fun _ => nofun⟩
          exact hmux.store hleaving rfl
  | write dlci data =>
    simp only [MuxOp.apply, Multiplexer.write]
    split
    · exact hmux
    · next dlc hget =>
      have hdlc := hmux dlci dlc hget
      have hwritten : Placed dlci { dlc with txBuffer := dlc.txBuffer ++ data } :=
        ⟨hdlc.own, hdlc.limited, hdlc.zero⟩
      exact hmux.store hwritten.processTx rfl
  | setDlcReceiveCredits dlci maxCredits threshold =>
    simp only [MuxOp.apply, Multiplexer.setDlcReceiveCredits]
    split
    · exact hmux
    · next hlimits =>
      split
      · exact hmux
      · next dlc hget =>
        have hdlc := hmux dlci dlc hget
        refine hmux.store ⟨hdlc.own, ?_, hdlc.zero⟩ rfl
        rw [not_or, UInt16.not_lt] at hlimits
        exact hlimits.2
  | setDlcReadingPaused dlci paused =>
    simp only [MuxOp.apply, Multiplexer.setDlcReadingPaused]
    split
    · exact hmux
    · next dlc hget =>
      have hdlc := hmux dlci dlc hget
      have hpaused : Placed dlci { dlc with readingPaused := paused } :=
        ⟨hdlc.own, hdlc.limited, hdlc.zero⟩
      split
      · exact hmux.store hpaused rfl
      · exact hmux.store hpaused.processTx rfl
  | takeRx dlci =>
    simp only [MuxOp.apply, Multiplexer.takeRx]
    split
    · exact hmux
    · next dlc hget =>
      have hdlc := hmux dlci dlc hget
      exact hmux.store ⟨hdlc.own, hdlc.limited, hdlc.zero⟩ rfl
  | onPdu frame => exact hmux.onPdu frame
  | drainOutgoing => exact hmux
  | takeOpened => exact hmux

end Placed

theorem allPlaced_run (role : Role) (peerMtu : UInt16) (ops : List MuxOp) :
    AllPlaced ((Multiplexer.new role peerMtu).runOps ops) := by
  have hstart : AllPlaced (Multiplexer.new role peerMtu) := by
    intro dlci dlc hget
    simp [Multiplexer.new] at hget
  revert hstart
  generalize Multiplexer.new role peerMtu = mux
  induction ops generalizing mux with
  | nil => exact fun hmux => hmux
  | cons op ops ih => exact fun hmux => ih (op.apply mux) (hmux.step op)

end Bumble.Rfcomm
