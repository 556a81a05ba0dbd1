import Bumble.L2capCodec
import Bumble.ClassicManager

/-!
# The PSMs that a Connection Request can carry (`bumble-l2cap/src/classic.rs`)

The validator wants every octet of a PSM above the first one even, and the parser
takes an even second octet for the last one.  So the PSMs that the peer reads as they
were meant are the valid ones of two octets.
-/

namespace Bumble.Classic

open Bumble.L2cap (ControlFrame Error parsePsm serializePsm serializePsmRest parsePsm_serializePsm
  parsePsm_even serializePsm_of_lt fromBytes_append fromPayload_connectionRequest)

/-! ## 1. Valid PSMs -/

theorem and_one_toNat (value : UInt32) : (value &&& 1).toNat = value.toNat % 2 := by
  rw [UInt32.toNat_and]
  exact Nat.and_one_is_mod value.toNat

theorem shift_octet_toNat (value : UInt32) : (value >>> 8).toNat = value.toNat / 256 := by
  rw [UInt32.toNat_shiftRight]
  exact Nat.shiftRight_eq_div_pow value.toNat 8

theorem second_octet_even {psm : UInt32} (hvalid : validatePsm psm = .ok ()) :
    psm.toNat / 256 % 2 = 0 := by
  have hoctets : psmOctetsEven 3 (psm >>> 8) = true := by
    unfold validatePsm at hvalid
    split at hvalid
    · cases hvalid
    · split at hvalid
      · next hoctets => exact hoctets
      · cases hvalid
  rw [psmOctetsEven] at hoctets
  rw [← shift_octet_toNat, ← and_one_toNat]
  split at hoctets
  · next hzero =>
    rw [hzero]
    rfl
  · split at hoctets
    · cases hoctets
    · next hzero =>
      rw [not_not.mp hzero]
      rfl

/-! ## 2. Longer PSMs -/

theorem serializePsm_long {psm : UInt32} (hpsm : 65536 ≤ psm.toNat) :
    ∃ low high next rest, serializePsm psm = low :: high :: next :: rest ∧
      high.toNat = psm.toNat / 256 % 256 := by
  have hrest : psm >>> 16 ≠ 0 := by
    intro hzero
    have htoNat := congrArg UInt32.toNat hzero
    rw [UInt32.toNat_shiftRight] at htoNat
    change psm.toNat >>> 16 = 0 at htoNat
    rw [Nat.shiftRight_eq_div_pow] at htoNat
    omega
  have hlow : (psm &&& 0xFFFF).toUInt16.toNat = psm.toNat % 65536 := by
    rw [UInt32.toNat_toUInt16, UInt32.toNat_and]
    change (psm.toNat &&& 2 ^ 16 - 1) % 2 ^ 16 = _
    rw [Nat.and_two_pow_sub_one_eq_mod]
    omega
  have hserial : serializePsm psm = UInt8.ofNat (psm.toNat % 65536 % 256) ::
      UInt8.ofNat (psm.toNat % 65536 / 256) :: (psm >>> 16 &&& 0xFF).toUInt8 ::
        serializePsmRest 3 (psm >>> 16 >>> 8) := by
    rw [serializePsm, u16ToLe, hlow, serializePsmRest, if_neg hrest]
    rfl
  refine ⟨_, _, _, _, hserial, ?_⟩
  rw [UInt8.toNat_ofNat']
  omega

/-! ## 3. What the peer reads -/

/-- The peer reads the request of a call that returns a CID with that PSM and that CID. -/
def RequestRead (manager : ChannelManager) (psm : UInt32) (call : ManagerCall UInt16) : Prop :=
  ∀ sourceCid, call.result = .ok sourceCid → ∃ identifier pdu,
    call.state.outbound = manager.outbound ++ [pdu] ∧
      ControlFrame.fromBytes pdu.payload = .ok (.connectionRequest identifier psm sourceCid)

theorem requestRead_connectWithSpec {psm : UInt32} (hpsm : psm.toNat < 65536)
    (heven : psm.toNat / 256 % 2 = 0) (manager : ChannelManager) (spec : ChannelSpec) :
    RequestRead manager psm (manager.connectWithSpec psm spec) := by
  intro sourceCid hresult
  unfold ChannelManager.connectWithSpec at hresult ⊢
  cases hcid : manager.allocateCid with
  | error error =>
    rw [hcid] at hresult
    cases hresult
  | ok cid =>
    rw [hcid] at hresult
    obtain rfl : cid = sourceCid := Except.ok.inj hresult
    refine ⟨manager.nextIdentifier.1, _, rfl, ?_⟩
    have hlength : (ControlFrame.connectionRequest manager.nextIdentifier.1 psm
      cid).payload.length ≤
        65535 := by
      rw [ControlFrame.payload, serializePsm_of_lt hpsm, List.length_append, length_u16ToLe]
      simp
    have hread := fromBytes_append hlength []
    rw [List.append_nil] at hread
    exact hread.trans (fromPayload_connectionRequest _ hpsm heven cid)

theorem requestRead_fail (manager : ChannelManager) (psm : UInt32) (error : Error) :
    RequestRead manager psm (.fail manager error) := by
  intro sourceCid hresult
  cases hresult

theorem requestRead_connect {psm : UInt32} (hpsm : psm.toNat < 65536)
    (heven : psm.toNat / 256 % 2 = 0) (manager : ChannelManager) (spec : ClassicChannelSpec) :
    RequestRead manager psm (manager.connect psm spec) := by
  unfold ChannelManager.connect
  split
  · exact requestRead_fail manager psm _
  · split
    · exact requestRead_fail manager psm _
    · exact requestRead_connectWithSpec hpsm heven manager _

theorem requestRead_connectErtm {psm : UInt32} (hpsm : psm.toNat < 65536)
    (heven : psm.toNat / 256 % 2 = 0) (manager : ChannelManager) (spec : ErtmChannelSpec) :
    RequestRead manager psm (manager.connectErtm psm spec) := by
  unfold ChannelManager.connectErtm
  split
  · exact requestRead_fail manager psm _
  · split
    · exact requestRead_fail manager psm _
    · exact requestRead_connectWithSpec hpsm heven manager _

/-- **Reachable PSMs.**  A valid PSM is read back from its octets, and from the requests
    that carry it, exactly when it has 16 bits. -/
theorem psm_reached_iff {psm : UInt32} (hvalid : validatePsm psm = .ok ()) :
    ((∀ rest, parsePsm (serializePsm psm ++ rest) 0 = .ok ((serializePsm psm).length, psm)) ∧
      (∀ manager spec, RequestRead manager psm (manager.connect psm spec)) ∧
      ∀ manager spec, RequestRead manager psm (manager.connectErtm psm spec)) ↔
    psm.toNat < 0x10000 := by
  have heven := second_octet_even hvalid
  constructor
  · rintro ⟨hread, -⟩
    by_contra hlong
    obtain ⟨low, high, next, rest, hserial, hhigh⟩ := serializePsm_long (Nat.le_of_not_lt hlong)
    have hstop := hread []
    rw [List.append_nil, hserial, parsePsm_even] at hstop
    · have hlength := congrArg Prod.fst (Except.ok.inj hstop)
      simp only [List.length_cons] at hlength
      omega
    · apply UInt8.toNat.inj
      rw [UInt8.toNat_mod, hhigh]
      change psm.toNat / 256 % 256 % 2 = 0
      omega
  · intro hpsm
    refine ⟨?_, requestRead_connect hpsm heven, requestRead_connectErtm hpsm heven⟩
    intro rest
    rw [parsePsm_serializePsm hpsm heven, serializePsm_of_lt hpsm]
    rfl

/-- The PSM of RFCOMM is reached. -/
theorem rfcomm_psm_reached :
    parsePsm (serializePsm 0x0003 ++ [0x40, 0x00]) 0 = .ok ((serializePsm 0x0003).length, 0x0003) :=
  ((psm_reached_iff (show validatePsm 0x0003 = .ok () by decide)).mpr (by decide)).1 _

/-- A valid PSM of three octets is read as the PSM 1, and its third octet as part of the
    CID. -/
theorem long_psm_not_reached :
    validatePsm 0x400001 = .ok () ∧
      ¬ (∀ rest, parsePsm (serializePsm 0x400001 ++ rest) 0 =
        .ok ((serializePsm 0x400001).length, 0x400001)) ∧
      ControlFrame.fromBytes (ControlFrame.connectionRequest 1 0x400001 0x0040).toBytes =
        .ok (.connectionRequest 1 0x0001 0x4040) := by
  refine ⟨by decide, ?_, by decide⟩
  intro hread
  have hnil := hread []
  revert hnil
  decide

end Bumble.Classic
