import Bumble.AttCodec
import Bumble.GattServer
import Bumble.SmpTestSetup

/-!
# Signed writes (`bumble-att/src/lib.rs`)

The signer gives every command the next counter.  The server accepts a command whose signature
is the one of its own octets and whose counter is above every one that it has accepted, so what
is delivered twice, late or with other octets is left aside.
-/

namespace Bumble.Gatt

open Att

structure SignedWriteSigner where
  csrk : Vector UInt8 16
  nextCounter : UInt32

section Runs

variable (cmac : Cmac)

namespace SignedWriteSigner

/-- A signed command, unless the counter would overflow. -/
def sign (signer : SignedWriteSigner) (attributeHandle : UInt16) (attributeValue : Bytes) :
    Option (AttPdu × SignedWriteSigner) :=
  if signer.nextCounter = 0xFFFFFFFF then none
  else some (.signedWriteCommand attributeHandle attributeValue signer.nextCounter
      (signedWriteSignature cmac signer.csrk attributeHandle attributeValue signer.nextCounter),
    { signer with nextCounter := signer.nextCounter + 1 })

def signAll (signer : SignedWriteSigner) : List (UInt16 × Bytes) → List AttPdu
  | [] => []
  | (attributeHandle, attributeValue) :: writes =>
    match signer.sign cmac attributeHandle attributeValue with
    | some (pdu, signer) => pdu :: signer.signAll writes
    | none => signer.signAll writes

end SignedWriteSigner

def signCounter : AttPdu → UInt32
  | .signedWriteCommand _ _ signCounter _ => signCounter
  | _ => 0

namespace GattServer

def receive (server : GattServer) (delivery : AccessContext × Bytes) : GattServer :=
  match AttPdu.fromBytes delivery.2 with
  | .ok request => (server.onRequestWithContext cmac request delivery.1).1
  | .error _ => server

def receiveAll (server : GattServer) (deliveries : List (AccessContext × Bytes)) : GattServer :=
  deliveries.foldl (receive cmac) server

/-- The signed command in the octets, when the server's verifier accepts it. -/
def accepts (server : GattServer) (octets : Bytes) : Option AttPdu :=
  match AttPdu.fromBytes octets with
  | .ok request =>
    (server.signedWriteVerifier.bind fun verifier => verifier.verify cmac request).map
      fun _ => request
  | .error _ => none

/-- The signed commands that a server accepts, in order. -/
def accepted (server : GattServer) : List (AccessContext × Bytes) → List AttPdu
  | [] => []
  | delivery :: deliveries =>
    (server.accepts cmac delivery.2).toList ++ (server.receive cmac delivery).accepted deliveries

end GattServer

/-- The octets of a signed write whose signature is not the one of its own octets. -/
def Forged (csrk : Vector UInt8 16) (octets : Bytes) : Prop :=
  ∃ handle value counter signature,
    AttPdu.fromBytes octets = .ok (.signedWriteCommand handle value counter signature) ∧
      signature ≠ signedWriteSignature cmac csrk handle value counter

/-- What may arrive while the commands are signed: any of them, in any order, any number of times,
    and forgeries. -/
def Delivered (csrk : Vector UInt8 16) (signed : List AttPdu)
    (deliveries : List (AccessContext × Bytes)) : Prop :=
  ∀ delivery ∈ deliveries,
    (∃ pdu ∈ signed, delivery.2 = pdu.toBytes) ∨ Forged cmac csrk delivery.2

/-- The counter is above the last one that was accepted. -/
def Fresh (last : Option UInt32) (counter : UInt32) : Prop :=
  ∀ before, last = some before → before < counter

/-! ## 1. The verifier -/

theorem difference_eq_zero_iff (actual : List UInt8) : ∀ (expected : List UInt8) (seen : UInt8),
    actual.length = expected.length →
    ((actual.zip expected).foldl
        (fun difference (actual, expected) => difference ||| (actual ^^^ expected)) seen = 0 ↔
      seen = 0 ∧ actual = expected) := by
  induction actual with
  | nil =>
    intro expected seen hlength
    rw [List.eq_nil_of_length_eq_zero hlength.symm]
    simp
  | cons octet actual ih =>
    intro expected seen hlength
    obtain ⟨other, expected, rfl⟩ := List.exists_cons_of_length_eq_add_one hlength.symm
    rw [List.zip_cons_cons, List.foldl_cons, ih expected _ (Nat.succ.inj hlength)]
    simp [and_assoc]

variable {csrk : Vector UInt8 16} {last : Option UInt32} {server : GattServer}

theorem verify_iff {handle : UInt16} {value : Bytes} {counter : UInt32} {signature : Vector UInt8 8}
    {verifier : SignedWriteVerifier} :
    SignedWriteVerifier.verify cmac ⟨csrk, last⟩
        (.signedWriteCommand handle value counter signature) = some verifier ↔
      (Fresh last counter ∧ signature = signedWriteSignature cmac csrk handle value counter) ∧
        verifier = ⟨csrk, some counter⟩ := by
  have hfresh : (last.any fun before => decide (counter ≤ before)) = true ↔
      ¬ Fresh last counter := by
    cases last <;> simp [Fresh]
  have hsame := difference_eq_zero_iff signature.toList
    (signedWriteSignature cmac csrk handle value counter).toList 0 (by simp)
  rw [SignedWriteVerifier.verify]
  split
  · next hstale => simp [hfresh.mp hstale]
  · next hnew =>
    rw [hfresh, not_not] at hnew
    dsimp only
    split
    · next hdiffers =>
      rw [Ne, hsame] at hdiffers
      simp_all [Vector.toList_inj]
    · next hequal =>
      rw [Ne, not_not, hsame, Vector.toList_inj] at hequal
      simp [hnew, hequal.2, eq_comm]

/-! ## 2. One delivery -/

theorem applyCommand_verifier (handle : UInt16) (value : Bytes) (context : AccessContext) :
    (server.applyCommand handle value context).signedWriteVerifier =
      server.signedWriteVerifier := by
  rw [GattServer.applyCommand]
  split
  · rfl
  · next attr _ =>
    rw [GattServer.writeValue]
    split
    · next dynamic _ => cases dynamic.write server.subscriptions context value <;> rfl
    · rfl

/-- A signed write that arrives is accepted and moves the verifier to its counter, or it leaves the
    server as it was. -/
theorem receive_cases {context : AccessContext} {octets : Bytes} {handle : UInt16} {value : Bytes}
    {counter : UInt32} {signature : Vector UInt8 8}
    (hkey : server.signedWriteVerifier = some ⟨csrk, last⟩)
    (hoctets : AttPdu.fromBytes octets = .ok (.signedWriteCommand handle value counter signature)) :
    (Fresh last counter ∧ signature = signedWriteSignature cmac csrk handle value counter ∧
      server.accepts cmac octets = some (.signedWriteCommand handle value counter signature) ∧
      (server.receive cmac (context, octets)).signedWriteVerifier = some ⟨csrk, some counter⟩) ∨
    (¬ (Fresh last counter ∧ signature = signedWriteSignature cmac csrk handle value counter) ∧
      server.accepts cmac octets = none ∧ server.receive cmac (context, octets) = server) := by
  simp only [GattServer.accepts, GattServer.receive, GattServer.onRequestWithContext,
    GattServer.signedWriteCommand, hoctets, hkey, Option.bind_some]
  cases hverify : SignedWriteVerifier.verify cmac ⟨csrk, last⟩
      (.signedWriteCommand handle value counter signature) with
  | some verifier =>
    obtain ⟨⟨hfresh, hsignature⟩, rfl⟩ := (verify_iff cmac).mp hverify
    exact .inl ⟨hfresh, hsignature, rfl, applyCommand_verifier handle value _⟩
  | none =>
    refine .inr ⟨?_, rfl, rfl⟩
    intro hholds
    cases hverify.symm.trans ((verify_iff cmac).mpr ⟨hholds, rfl⟩)

theorem fromBytes_signedWrite (handle : UInt16) (value : Bytes) (counter : UInt32)
    (signature : Vector UInt8 8) :
    AttPdu.fromBytes (AttPdu.signedWriteCommand handle value counter signature).toBytes =
      .ok (.signedWriteCommand handle value counter signature) :=
  AttPdu.signedWrite_payload handle value counter signature

/-- The signature of a command is the one of its own octets, and its counter is not below the
    signer's. -/
def SignedBy (signer : SignedWriteSigner) (pdu : AttPdu) : Prop :=
  ∃ handle value counter, signer.nextCounter ≤ counter ∧
    pdu = .signedWriteCommand handle value counter
      (signedWriteSignature cmac signer.csrk handle value counter)

theorem sign_eq_some {signer later : SignedWriteSigner} {handle : UInt16} {value : Bytes}
    {pdu : AttPdu} (hsign : signer.sign cmac handle value = some (pdu, later)) :
    pdu = .signedWriteCommand handle value signer.nextCounter
        (signedWriteSignature cmac signer.csrk handle value signer.nextCounter) ∧
      later.csrk = signer.csrk ∧ signer.nextCounter < later.nextCounter := by
  rw [SignedWriteSigner.sign] at hsign
  split at hsign
  · cases hsign
  · next hcounter =>
    cases hsign
    refine ⟨rfl, rfl, ?_⟩
    have hlt := signer.nextCounter.toNat_lt
    rw [← UInt32.toNat_inj] at hcounter
    change _ ≠ 4294967295 at hcounter
    rw [UInt32.lt_iff_toNat_lt, UInt32.toNat_add]
    change _ < (_ + 1) % 4294967296
    omega

/-- **The signer.**  Its commands carry their own signatures and ascending counters. -/
theorem signAll_spec (writes : List (UInt16 × Bytes)) : ∀ signer : SignedWriteSigner,
    (∀ pdu ∈ signer.signAll cmac writes, SignedBy cmac signer pdu) ∧
      (signer.signAll cmac writes).Pairwise fun first second =>
        signCounter first < signCounter second := by
  induction writes with
  | nil =>
    intro signer
    exact ⟨fun pdu hpdu => absurd hpdu List.not_mem_nil, .nil⟩
  | cons write writes ih =>
    obtain ⟨handle, value⟩ := write
    intro signer
    rw [SignedWriteSigner.signAll]
    split
    · next pdu later hsign =>
      obtain ⟨rfl, hcsrk, hlater⟩ := sign_eq_some cmac hsign
      obtain ⟨hall, hascending⟩ := ih later
      have hbound : ∀ pdu ∈ later.signAll cmac writes,
          SignedBy cmac signer pdu ∧ signer.nextCounter < signCounter pdu := by
        intro pdu hpdu
        obtain ⟨handle, value, counter, hcounter, rfl⟩ := hall pdu hpdu
        have habove := UInt32.lt_of_lt_of_le hlater hcounter
        exact ⟨⟨handle, value, counter, UInt32.le_of_lt habove, by rw [hcsrk]⟩, habove⟩
      refine ⟨?_, List.pairwise_cons.mpr ⟨fun pdu hpdu => (hbound pdu hpdu).2, hascending⟩⟩
      intro pdu hpdu
      rcases List.mem_cons.mp hpdu with rfl | hpdu
      · exact ⟨handle, value, _, UInt32.le_refl _, rfl⟩
      · exact (hbound pdu hpdu).1
    · exact ih signer

/-! ## 3. Whole runs -/

theorem delivered_cases {signer : SignedWriteSigner} {writes : List (UInt16 × Bytes)}
    {octets : Bytes}
    (hdelivered : (∃ pdu ∈ signer.signAll cmac writes, octets = pdu.toBytes) ∨
      Forged cmac signer.csrk octets) :
    ∃ handle value counter signature,
      AttPdu.fromBytes octets = .ok (.signedWriteCommand handle value counter signature) ∧
      (signature = signedWriteSignature cmac signer.csrk handle value counter →
        .signedWriteCommand handle value counter signature ∈ signer.signAll cmac writes) := by
  rcases hdelivered with ⟨pdu, hpdu, rfl⟩ | ⟨handle, value, counter, signature, hoctets, hforged⟩
  · obtain ⟨handle, value, counter, -, rfl⟩ := (signAll_spec cmac writes signer).1 pdu hpdu
    exact ⟨handle, value, counter, _, fromBytes_signedWrite handle value counter _, fun _ => hpdu⟩
  · exact ⟨handle, value, counter, signature, hoctets, fun hsame => absurd hsame hforged⟩

/-- **Accepted commands.**  They have ascending counters above the last one, and all were signed. -/
theorem accepted_spec (signer : SignedWriteSigner) (writes : List (UInt16 × Bytes))
    (deliveries : List (AccessContext × Bytes)) : ∀ {server : GattServer} {last : Option UInt32},
    server.signedWriteVerifier = some ⟨signer.csrk, last⟩ →
    Delivered cmac signer.csrk (signer.signAll cmac writes) deliveries →
    (∀ pdu ∈ server.accepted cmac deliveries,
        pdu ∈ signer.signAll cmac writes ∧ Fresh last (signCounter pdu)) ∧
      (server.accepted cmac deliveries).Pairwise (fun first second =>
        signCounter first < signCounter second) ∧
      ∃ last', (server.receiveAll cmac deliveries).signedWriteVerifier =
        some ⟨signer.csrk, last'⟩ := by
  induction deliveries with
  | nil =>
    intro server last hkey hdelivered
    exact ⟨fun pdu hpdu => absurd hpdu List.not_mem_nil, .nil, last, hkey⟩
  | cons delivery deliveries ih =>
    obtain ⟨context, octets⟩ := delivery
    intro server last hkey hdelivered
    have hlater : Delivered cmac signer.csrk (signer.signAll cmac writes) deliveries :=
      fun delivery hdelivery => hdelivered delivery (List.mem_cons_of_mem _ hdelivery)
    obtain ⟨handle, value, counter, signature, hoctets, hsigned⟩ :=
      delivered_cases cmac (hdelivered _ List.mem_cons_self)
    rw [GattServer.accepted]
    rcases receive_cases cmac hkey hoctets with
      ⟨hfresh, hsignature, haccepts, hverifier⟩ | ⟨-, haccepts, hsame⟩
    · obtain ⟨hall, hascending, hkept⟩ := ih hverifier hlater
      rw [haccepts, Option.toList_some, List.singleton_append]
      refine ⟨?_, List.pairwise_cons.mpr ⟨?_, hascending⟩, hkept⟩
      · intro pdu hpdu
        rcases List.mem_cons.mp hpdu with rfl | hpdu
        · exact ⟨hsigned hsignature, hfresh⟩
        · obtain ⟨hmem, habove⟩ := hall pdu hpdu
          exact ⟨hmem, fun before hbefore =>
            UInt32.lt_trans (hfresh before hbefore) (habove counter rfl)⟩
      · intro pdu hpdu
        exact (hall pdu hpdu).2 counter rfl
    · obtain ⟨hall, hascending, hkept⟩ := ih hkey hlater
      rw [haccepts, Option.toList_none, List.nil_append]
      dsimp only at hsame ⊢
      rw [GattServer.receiveAll, List.foldl_cons, hsame]
      exact ⟨hall, hascending, hkept⟩

theorem accepted_in_order (csrk : Vector UInt8 16) (contexts : AttPdu → AccessContext)
    (signed : List AttPdu) : ∀ {server : GattServer} {last : Option UInt32},
    server.signedWriteVerifier = some ⟨csrk, last⟩ →
    (∀ pdu ∈ signed, (∃ handle value counter, pdu = .signedWriteCommand handle value counter
      (signedWriteSignature cmac csrk handle value counter)) ∧ Fresh last (signCounter pdu)) →
    signed.Pairwise (fun first second => signCounter first < signCounter second) →
    server.accepted cmac (signed.map fun pdu => (contexts pdu, pdu.toBytes)) = signed := by
  induction signed with
  | nil =>
    intro server last hkey hsigned hascending
    rfl
  | cons pdu signed ih =>
    intro server last hkey hsigned hascending
    obtain ⟨habove, htail⟩ := List.pairwise_cons.mp hascending
    obtain ⟨⟨handle, value, counter, rfl⟩, hfresh⟩ := hsigned _ List.mem_cons_self
    rw [List.map_cons, GattServer.accepted]
    rcases receive_cases cmac hkey (fromBytes_signedWrite handle value counter _) with
      ⟨-, -, haccepts, hverifier⟩ | ⟨hrefused, -⟩
    · rw [haccepts, ih hverifier ?_ htail]
      · rfl
      · intro pdu hpdu
        refine ⟨(hsigned pdu (List.mem_cons_of_mem _ hpdu)).1, ?_⟩
        intro before hbefore
        cases hbefore
        exact habove pdu hpdu
    · exact absurd ⟨hfresh, rfl⟩ hrefused

/-- **Signed writes are accepted at most once and in order.**  When the verifier's last counter is
    below the signer's, whatever of the commands arrives between forgeries is accepted with
    ascending counters, only commands that were signed are, one that is not leaves the server as
    it was, and all of them arriving in order are accepted. -/
theorem signed_writes_once (signer : SignedWriteSigner) (writes : List (UInt16 × Bytes))
    (server : GattServer) (last : Option UInt32)
    (hkey : server.signedWriteVerifier = some ⟨signer.csrk, last⟩)
    (hcounter : Fresh last signer.nextCounter) (deliveries : List (AccessContext × Bytes))
    (hdelivered : Delivered cmac signer.csrk (signer.signAll cmac writes) deliveries)
    (contexts : AttPdu → AccessContext) :
    (server.accepted cmac deliveries).Pairwise
        (fun first second => signCounter first < signCounter second) ∧
      (∀ pdu ∈ server.accepted cmac deliveries, pdu ∈ signer.signAll cmac writes) ∧
      (∀ before delivery after, deliveries = before ++ delivery :: after →
        (server.receiveAll cmac before).accepts cmac delivery.2 = none →
        (server.receiveAll cmac before).receive cmac delivery = server.receiveAll cmac before) ∧
      server.accepted cmac
        ((signer.signAll cmac writes).map fun pdu => (contexts pdu, pdu.toBytes)) =
        signer.signAll cmac writes := by
  obtain ⟨hall, hascending, -⟩ := accepted_spec cmac signer writes deliveries hkey hdelivered
  refine ⟨hascending, fun pdu hpdu => (hall pdu hpdu).1, ?_, ?_⟩
  · rintro before ⟨context, octets⟩ after rfl hrefused
    obtain ⟨-, -, last', hkept⟩ := accepted_spec cmac signer writes before hkey
      fun delivery hdelivery => hdelivered delivery (List.mem_append_left _ hdelivery)
    obtain ⟨handle, value, counter, signature, hoctets, -⟩ := delivered_cases cmac
      (hdelivered (context, octets) (List.mem_append_right _ List.mem_cons_self))
    rcases receive_cases cmac hkept hoctets with ⟨-, -, haccepts, -⟩ | ⟨-, -, hsame⟩
    · cases hrefused.symm.trans haccepts
    · exact hsame
  · obtain ⟨hsigned, hsorted⟩ := signAll_spec cmac writes signer
    refine accepted_in_order cmac signer.csrk contexts _ hkey ?_ hsorted
    intro pdu hpdu
    obtain ⟨handle, value, counter, habove, rfl⟩ := hsigned pdu hpdu
    exact ⟨⟨handle, value, counter, rfl⟩,
      fun before hbefore => UInt32.lt_of_lt_of_le (hcounter before hbefore) habove⟩

end Runs

/-- A server without attributes that has a key for signed writes. -/
def signedServer (last : Option UInt32) : GattServer where
  attributes := []
  mtu := attDefaultMtu
  negotiatedMtus := ∅
  preparedWrites := ∅
  subscriptions := fun _ _ => none
  signedWriteVerifier := some ⟨Vector.replicate 16 0, last⟩
  ascending := .nil

theorem arrives_twice_once :
    let cmac := Smp.aesCmac Smp.testPrimitives
    let signer : SignedWriteSigner := ⟨Vector.replicate 16 0, 6⟩
    let context : AccessContext := ⟨0, false, false, false⟩
    let arrives := (signer.signAll cmac [(1, [0x2A])]).flatMap fun pdu =>
      [(context, pdu.toBytes), (context, pdu.toBytes)]
    ((signedServer (some 5)).accepted cmac arrives).Pairwise fun first second =>
      signCounter first < signCounter second := by
  intro cmac signer context arrives
  refine (signed_writes_once cmac signer [(1, [0x2A])] (signedServer (some 5)) (some 5) rfl ?_
    arrives ?_ fun _ => context).1
  · intro before hbefore
    cases hbefore
    decide
  · intro delivery hdelivery
    obtain ⟨pdu, hpdu, hdelivery⟩ := List.mem_flatMap.mp hdelivery
    rcases List.mem_pair.mp hdelivery with rfl | rfl
    · exact .inl ⟨pdu, hpdu, rfl⟩
    · exact .inl ⟨pdu, hpdu, rfl⟩

theorem first_command_refused : ¬ ∀ (cmac : Cmac) (signer : SignedWriteSigner)
    (writes : List (UInt16 × Bytes)) (server : GattServer) (last : UInt32)
    (contexts : AttPdu → AccessContext),
    server.signedWriteVerifier = some ⟨signer.csrk, some last⟩ → last ≤ signer.nextCounter →
    server.accepted cmac ((signer.signAll cmac writes).map fun pdu => (contexts pdu, pdu.toBytes)) =
      signer.signAll cmac writes := by
  intro hall
  let cmac := Smp.aesCmac Smp.testPrimitives
  let signer : SignedWriteSigner := ⟨Vector.replicate 16 0, 5⟩
  let context : AccessContext := ⟨0, false, false, false⟩
  have haccepted := hall cmac signer [(1, [0x2A])] (signedServer (some 5)) 5 (fun _ => context) rfl
    (UInt32.le_refl 5)
  have hsigned : signer.signAll cmac [(1, [0x2A])] = [.signedWriteCommand 1 [0x2A] 5
      (signedWriteSignature cmac signer.csrk 1 [0x2A] 5)] := by
    rw [SignedWriteSigner.signAll, SignedWriteSigner.sign, if_neg (by decide)]
    rfl
  rw [hsigned, List.map_singleton, GattServer.accepted] at haccepted
  rcases @receive_cases cmac _ _ (signedServer (some 5)) context _ _ _ _ _ rfl
    (fromBytes_signedWrite 1 [0x2A] 5 (signedWriteSignature cmac signer.csrk 1 [0x2A] 5)) with
    ⟨hfresh, -⟩ | ⟨-, hrefused, -⟩
  · exact absurd (hfresh 5 rfl) (by decide)
  · rw [hrefused] at haccepted
    cases haccepted

end Bumble.Gatt
