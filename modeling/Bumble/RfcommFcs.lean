import Bumble.RfcommFrame
import Bumble.ShiftRegister

/-!
# The check sequence of RFCOMM (`bumble-rfcomm/src/lib.rs`)

The table of `compute_fcs` against the register it stands for, which takes a message bit by bit.
-/

namespace Bumble.Rfcomm

open ShiftRegister

/-- `0xE0`. -/
def fcsPolynomial : BitVec 8 := 0xE0#8

/-- The check of TS 07.10: a register of eight places that starts with ones and is complemented at
    the end. -/
def bitwiseFcs (buffer : Bytes) : UInt8 :=
  UInt8.ofBitVec (~~~ run fcsPolynomial 0xFF#8 (octetBits buffer))

theorem crcTable_eq_shifts (register : UInt8) :
    (crcTable.getD register.toNat 0).toBitVec = shifts fcsPolynomial 8 register.toBitVec := by
  refine forall_octet_lt (P := fun register =>
    (crcTable.getD register.toNat 0).toBitVec = shifts fcsPolynomial 8 register.toBitVec)
    ?_ register register.toNat_lt
  decide +kernel

theorem crcTable_step (result byte : UInt8) :
    (crcTable.getD (result ^^^ byte).toNat 0).toBitVec =
      run fcsPolynomial result.toBitVec (places byte.toBitVec) := by
  rw [crcTable_eq_shifts, run_octet (Nat.le_refl 8), BitVec.setWidth_eq]
  rfl

theorem foldl_crcTable (buffer : Bytes) (result : UInt8) :
    (buffer.foldl (fun result byte => crcTable.getD (result ^^^ byte).toNat 0) result).toBitVec =
      run fcsPolynomial result.toBitVec (octetBits buffer) := by
  induction buffer generalizing result with
  | nil => rfl
  | cons byte buffer ih =>
    rw [List.foldl_cons, ih, crcTable_step, ← run_append]
    rfl

theorem sub_eq_not (result : UInt8) : 0xFF - result = ~~~ result := by
  refine UInt8.toBitVec_inj.mp ?_
  exact BitVec.allOnes_sub_eq_not result.toBitVec

/-- **The table.**  With it the check of every buffer is the bitwise one, and every step of the loop
    is eight steps of the register. -/
theorem computeFcs_eq_bitwise (buffer : Bytes) :
    computeFcs buffer = bitwiseFcs buffer ∧
      ∀ result byte : UInt8, (crcTable.getD (result ^^^ byte).toNat 0).toBitVec =
        run fcsPolynomial result.toBitVec (places byte.toBitVec) := by
  refine ⟨?_, crcTable_step⟩
  have hloop := foldl_crcTable buffer 0xFF
  rw [computeFcs, sub_eq_not, bitwiseFcs]
  refine UInt8.toBitVec_inj.mp ?_
  exact congrArg (~~~ ·) hloop

end Bumble.Rfcomm
