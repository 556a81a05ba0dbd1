import Bumble.ControllerRuns

/-!
# What a call does with handles

One counter gives every link its handle.  A call gives out as many handles as it
sets up links (`requested`), the next ones of the counter, and every other link
keeps its handle or goes (`Grants`).  There is one lemma for each handler of the
controller, and `step_handled` has them together.
-/

namespace Bumble.Controller

open Bumble.Smp (Address Octets)

/-! ## 1. The handles in use -/

/-- The handles of every kind of link; a link that is not established has handle zero. -/
def allHandles (controller : Controller) : List Nat :=
  controller.connections.map (·.handle) ++ controller.classicConnections.map (·.handle) ++
    controller.synchronousConnections.map (·.handle) ++
    controller.centralCisLinks.map (·.handle) ++ controller.peripheralCisLinks.map (·.handle) ++
    (controller.bigs.flatMap (·.bisLinks)).map (·.handle) ++
    (controller.bigSyncs.flatMap (·.bisLinks)).map (·.handle)

def cisHandles (controller : Controller) : List Nat :=
  (controller.centralCisLinks ++ controller.peripheralCisLinks).map (·.handle)

def requested (controller : Controller) : Call → Nat
  | .command (.leSetCigParameters _ cisId) => cisId.length
  | .command (.leCreateBig big) =>
    if (controller.periodicAdvertising big.advertisingHandle).isSome && !big.refused controller
    then big.numBis.toNat else 0
  | .command (.acceptConnectionRequest bdAddr role) =>
    if role = rolePeripheral && (controller.classicConnectionWith bdAddr).isSome then 1 else 0
  | .command (.enhancedAcceptSynchronousConnectionRequest bdAddr _)
  | .command (.acceptSynchronousConnectionRequest bdAddr) =>
    if (controller.synchronousConnections.find?
      (SynchronousConnection.pendingOf bdAddr)).isSome then 1 else 0
  | .connectAsCentralTo .. => if controller.initiating.isSome then 1 else 0
  | .connectAsPeripheralAt .. => 1
  | .onLlControlPdu sender (.cisReq _ _) =>
    if (controller.connections.find? (·.peerAddress = sender)).isSome then 1 else 0
  | .onClassicPdu sender .accepted =>
    if (controller.classicConnections.find? (Connection.pendingOf sender)).isSome then 1 else 0
  | .onClassicPdu sender .switchAccepted =>
    if (controller.pendingSwitchWith sender).any (·.purpose = .acceptConnection) &&
      (controller.classicConnectionWith sender).isSome then 1 else 0
  | .onClassicPdu sender (.synchronousConnectionAccepted _ _) =>
    if (controller.synchronousConnections.find?
      (SynchronousConnection.pendingOf sender)).isSome then 1 else 0
  | .onPeriodicAdvertisingPdu addressType address advertisingSid info =>
    match controller.awaitedBigSync addressType address advertisingSid with
    | some pending =>
      if pending.validBis info && pending.validCode info then pending.bis.length else 0
    | none => 0
  | _ => 0

/-! ## 2. What a call does with handles -/

/-- A step that gives out the next handles and keeps or drops every other. -/
structure Grants (controller next : Controller) (count : Nat) : Prop where
  counter : next.nextHandle = controller.nextHandle + count
  counted : ∀ handle, handle ≠ 0 → next.allHandles.count handle ≤
    controller.allHandles.count handle +
      (List.range' controller.nextHandle count).count handle
  fresh : ∀ handle, handle ≠ 0 →
    (List.range' controller.nextHandle count).count handle ≤ next.allHandles.count handle
  streams : ∀ handle ∈ next.cisHandles,
    handle ∈ controller.cisHandles ∨ handle ∈ List.range' controller.nextHandle count

section Counting

variable {controller next : Controller}

theorem count_allHandles (handle : Nat) :
    controller.allHandles.count handle =
      (controller.connections.map (·.handle)).count handle +
        (controller.classicConnections.map (·.handle)).count handle +
        (controller.synchronousConnections.map (·.handle)).count handle +
        (controller.centralCisLinks.map (·.handle)).count handle +
        (controller.peripheralCisLinks.map (·.handle)).count handle +
        ((controller.bigs.flatMap (·.bisLinks)).map (·.handle)).count handle +
        ((controller.bigSyncs.flatMap (·.bisLinks)).map (·.handle)).count handle := by
  simp only [allHandles, List.count_append]

theorem Grants.of_part (hcounter : next.nextHandle = controller.nextHandle)
    (hstreams : ∀ handle ∈ next.cisHandles, handle ∈ controller.cisHandles)
    (hcount : ∀ handle, handle ≠ 0 →
      next.allHandles.count handle ≤ controller.allHandles.count handle) :
    Grants controller next 0 where
  counter := hcounter
  counted := hcount
  fresh := fun _ _ => Nat.zero_le _
  streams := fun handle hmem => .inl (hstreams handle hmem)

theorem Grants.of_kept {count : Nat} (hcounter : next.nextHandle = controller.nextHandle + count)
    (hstreams : ∀ handle ∈ next.cisHandles,
      handle ∈ controller.cisHandles ∨ handle ∈ List.range' controller.nextHandle count)
    (kept : Nat → Nat)
    (hkept : ∀ handle, handle ≠ 0 → kept handle ≤ controller.allHandles.count handle)
    (hnext : ∀ handle, handle ≠ 0 → next.allHandles.count handle =
      kept handle + (List.range' controller.nextHandle count).count handle) :
    Grants controller next count where
  counter := hcounter
  counted := by
    intro handle hhandle
    rw [hnext handle hhandle]
    exact Nat.add_le_add_right (hkept handle hhandle) _
  fresh := by
    intro handle hhandle
    rw [hnext handle hhandle]
    exact Nat.le_add_left _ _
  streams := hstreams

theorem Grants.of_added {count : Nat} (hcounter : next.nextHandle = controller.nextHandle + count)
    (hstreams : ∀ handle ∈ next.cisHandles,
      handle ∈ controller.cisHandles ∨ handle ∈ List.range' controller.nextHandle count)
    (hnext : ∀ handle, handle ≠ 0 → next.allHandles.count handle =
      controller.allHandles.count handle +
        (List.range' controller.nextHandle count).count handle) :
    Grants controller next count :=
  .of_kept hcounter hstreams (fun handle => controller.allHandles.count handle)
    (fun _ _ => le_rfl) hnext

theorem count_map_le {α : Type} {f : α → Nat} {items kept : List α} (hkept : kept.Sublist items)
    (handle : Nat) : (kept.map f).count handle ≤ (items.map f).count handle :=
  (hkept.map f).count_le handle

theorem count_flatMap_le {α β : Type} (links : α → List β) (f : β → Nat) {items kept : List α}
    (hkept : kept.Sublist items) (handle : Nat) :
    ((kept.flatMap links).map f).count handle ≤ ((items.flatMap links).map f).count handle :=
  ((hkept.flatMap links).map f).count_le handle

end Counting

/-- What a call that asks for handles comes to: they are given out, or the counter is at
its end. -/
def Handled (controller : Controller) (result : Option Controller) (count : Nat) : Prop :=
  (∃ next, result = some next ∧ Grants controller next count) ∨
    result = none ∧ 0xFFFF < controller.nextHandle + count

theorem handled_of_part {controller next : Controller}
    (hcounter : next.nextHandle = controller.nextHandle)
    (hstreams : ∀ handle ∈ next.cisHandles, handle ∈ controller.cisHandles)
    (hcount : ∀ handle, handle ≠ 0 →
      next.allHandles.count handle ≤ controller.allHandles.count handle) :
    Handled controller (some next) 0 :=
  .inl ⟨next, rfl, .of_part hcounter hstreams hcount⟩

theorem handled_of_count {controller next : Controller}
    (hcounter : next.nextHandle = controller.nextHandle)
    (hstreams : next.cisHandles = controller.cisHandles)
    (hcount : ∀ handle, handle ≠ 0 →
      next.allHandles.count handle ≤ controller.allHandles.count handle) :
    Handled controller (some next) 0 :=
  handled_of_part hcounter (fun _ hmem => hstreams ▸ hmem) hcount

theorem handled_of_eq {controller next : Controller}
    (hcounter : next.nextHandle = controller.nextHandle)
    (hstreams : next.cisHandles = controller.cisHandles)
    (hhandles : next.allHandles = controller.allHandles) : Handled controller (some next) 0 :=
  handled_of_count hcounter hstreams fun handle _ => by rw [hhandles]

theorem Grants.handled {controller next : Controller} {count : Nat}
    (hgrants : Grants controller next count) : Handled controller (some next) count :=
  .inl ⟨next, rfl, hgrants⟩

theorem Handled.congr {controller before : Controller} {result : Option Controller} {count : Nat}
    (hhandled : Handled before result count)
    (hcounter : before.nextHandle = controller.nextHandle)
    (hstreams : before.cisHandles = controller.cisHandles)
    (hhandles : before.allHandles = controller.allHandles) :
    Handled controller result count := by
  rcases hhandled with ⟨next, hnext, hgrants⟩ | ⟨hnone, hfull⟩
  · refine .inl ⟨next, hnext, ?_, ?_, ?_, ?_⟩
    · rw [← hcounter]
      exact hgrants.counter
    · rw [← hcounter, ← hhandles]
      exact hgrants.counted
    · rw [← hcounter]
      exact hgrants.fresh
    · rw [← hcounter, ← hstreams]
      exact hgrants.streams
  · rw [hcounter] at hfull
    exact .inr ⟨hnone, hfull⟩

def advance (controller : Controller) (count : Nat) : Controller :=
  { controller with nextHandle := controller.nextHandle + count }

theorem allocateHandle_cases (controller : Controller) :
    controller.allocateHandle = some (controller.nextHandle, controller.advance 1) ∨
      controller.allocateHandle = none ∧ 0xFFFF < controller.nextHandle + 1 := by
  unfold allocateHandle
  split
  case isTrue hfull =>
    right
    exact ⟨rfl, by omega⟩
  case isFalse => exact .inl rfl

theorem handled_of_allocated {controller next : Controller}
    {granted : Nat × Controller → Option Controller}
    (hnext : granted (controller.nextHandle, controller.advance 1) = some next)
    (hgrants : Grants controller next 1) :
    Handled controller (controller.allocateHandle >>= granted) 1 := by
  rcases allocateHandle_cases controller with hhandle | ⟨hhandle, hfull⟩
  · rw [hhandle]
    exact .inl ⟨next, hnext, hgrants⟩
  · rw [hhandle]
    exact .inr ⟨rfl, hfull⟩

theorem allocateHandles_cases (count : Nat) (controller : Controller) :
    controller.allocateHandles count =
        some (List.range' controller.nextHandle count, controller.advance count) ∨
      controller.allocateHandles count = none ∧ 0xFFFF < controller.nextHandle + count := by
  induction count generalizing controller with
  | zero => exact .inl rfl
  | succ count ih =>
    unfold allocateHandles
    rcases allocateHandle_cases controller with hfirst | ⟨hfirst, hfull⟩
    · rw [hfirst]
      rcases ih (controller.advance 1) with hrest | ⟨hrest, hfull⟩
      · left
        dsimp only [Option.bind_eq_bind, Option.bind_some]
        rw [hrest]
        simp only [Option.bind_some, Option.pure_def, advance, List.range'_succ,
          Nat.add_assoc, Nat.add_comm 1 count]
      · right
        dsimp only [Option.bind_eq_bind, Option.bind_some]
        rw [hrest]
        refine ⟨rfl, ?_⟩
        dsimp only [advance] at hfull
        omega
    · right
      rw [hfirst]
      exact ⟨rfl, by omega⟩

/-! ## 3. One lemma for each kind of call -/

section Calls

variable (controller : Controller)

theorem connectAsCentralTo_handled (linkPeerAddress reportedPeerAddress : Address)
    (reportedPeerAddressType : UInt8) :
    Handled controller
      (controller.connectAsCentralTo linkPeerAddress reportedPeerAddress reportedPeerAddressType)
      (if controller.initiating.isSome then 1 else 0) := by
  unfold connectAsCentralTo
  cases hinitiating : controller.initiating with
  | none => exact handled_of_eq rfl rfl rfl
  | some pending =>
    dsimp only [Option.isSome_some]
    rw [if_pos rfl]
    rcases allocateHandle_cases { controller with initiating := none }
      with hhandle | ⟨hhandle, hfull⟩
    · rw [hhandle]
      refine Grants.handled (Grants.of_added ?_ (fun _ => .inl) ?_)
      · rfl
      · intro handle _
        simp only [count_allHandles, advance, pushConnectionComplete, push, List.map_append,
          List.map_cons, List.map_nil, List.count_append, List.range'_one]
        omega
    · rw [hhandle]
      exact .inr ⟨rfl, hfull⟩

theorem connectAsPeripheralAt_handled (selfAddress centralAddress : Address)
    (centralAddressType : UInt8) :
    Handled controller
      (controller.connectAsPeripheralAt selfAddress centralAddress centralAddressType) 1 := by
  refine handled_of_allocated rfl (Grants.of_added rfl (fun _ => .inl) ?_)
  intro handle _
  simp only [count_allHandles, advance, pushConnectionComplete, push, List.map_append,
    List.map_cons, List.map_nil, List.count_append, List.range'_one]
  omega

theorem onLeCisRequest_handled (aclSelf aclPeer : Address) (aclHandle : Nat)
    (cigId cisId : UInt8) :
    Handled controller (controller.onLeCisRequest aclSelf aclPeer aclHandle cigId cisId) 1 := by
  refine handled_of_allocated rfl (Grants.of_added rfl ?_ ?_)
  · intro handle hmem
    simp only [cisHandles, advance, CisLink.bind, CisLink.configured, push, List.map_append,
      List.map_cons, List.map_nil, List.mem_append, List.range'_one] at hmem ⊢
    rcases hmem with hmem | hmem | hmem
    · exact .inl (.inl hmem)
    · exact .inl (.inr hmem)
    · exact .inr hmem
  · intro handle _
    simp only [count_allHandles, advance, CisLink.bind, CisLink.configured, push,
      List.map_append, List.map_cons, List.map_nil, List.count_append, List.range'_one]
    omega

/-! ### Tables whose links get their handles in one go -/

theorem map_handle_configured (cigId : UInt8) : ∀ {cisIds : List UInt8} {handles : List Nat},
    cisIds.length = handles.length →
    (List.zipWith (CisLink.configured cigId) cisIds handles).map (·.handle) = handles
  | [], [], _ => rfl
  | _ :: _, handle :: _, hlength => by
    rw [List.zipWith_cons_cons, List.map_cons,
      map_handle_configured cigId (Nat.succ.inj hlength)]
    rfl

theorem map_handle_receiverLinks (broadcaster : Address) (advertisingSid : UInt8) :
    ∀ {bis : List UInt8} {handles : List Nat}, bis.length = handles.length →
    (receiverLinks broadcaster advertisingSid bis handles).map (·.handle) = handles
  | [], [], _ => rfl
  | _ :: _, handle :: _, hlength => by
    unfold receiverLinks
    rw [List.zipWith_cons_cons, List.map_cons]
    exact congrArg (handle :: ·)
      (map_handle_receiverLinks broadcaster advertisingSid (Nat.succ.inj hlength))

theorem map_handle_broadcasterLinks (broadcaster : Address) (advertisingSid : UInt8)
    (handles : List Nat) :
    (broadcasterLinks broadcaster advertisingSid handles).map (·.handle) = handles := by
  unfold broadcasterLinks
  rw [List.map_map]
  exact List.zipIdx_map_fst 0 handles

theorem handleSetCigParameters_handled (cigId : UInt8) (cisIds : List UInt8) :
    Handled controller (controller.handleSetCigParameters cigId cisIds) cisIds.length := by
  unfold handleSetCigParameters
  rcases allocateHandles_cases cisIds.length controller with hhandles | ⟨hhandles, hfull⟩
  · rw [hhandles]
    refine (Grants.of_kept rfl ?_ (fun handle =>
      { controller with centralCisLinks :=
          controller.centralCisLinks.filter (·.cigId ≠ cigId) }.allHandles.count handle)
      ?_ ?_).handled
    · intro handle hmem
      simp only [cisHandles, advance, complete, push, List.map_append, List.mem_append,
        map_handle_configured cigId (List.length_range').symm] at hmem ⊢
      rcases hmem with (hmem | hmem) | hmem
      · exact .inl (.inl ((List.filter_sublist.map _).mem hmem))
      · exact .inr hmem
      · exact .inl (.inr hmem)
    · intro handle _
      have hkept := count_map_le (f := fun link : CisLink => link.handle)
        (List.filter_sublist (p := (·.cigId ≠ cigId)) (l := controller.centralCisLinks)) handle
      simp only [count_allHandles]
      omega
    · intro handle _
      simp only [count_allHandles, advance, complete, push, List.map_append, List.count_append,
        map_handle_configured cigId (List.length_range').symm]
      omega
  · rw [hhandles]
    exact .inr ⟨rfl, hfull⟩

theorem handleCreateBig_handled (big : CreateBig) :
    Handled controller (controller.handleCreateBig big)
      (controller.requested (.command (.leCreateBig big))) := by
  unfold handleCreateBig requested
  dsimp only
  cases controller.periodicAdvertising big.advertisingHandle with
  | none =>
    show Handled controller (some _) 0
    exact handled_of_eq rfl rfl rfl
  | some train =>
    dsimp only [Option.isSome_some]
    cases big.refused controller with
    | true =>
      show Handled controller (some _) 0
      exact handled_of_eq rfl rfl rfl
    | false =>
      rw [if_neg Bool.false_ne_true]
      change Handled controller _ big.numBis.toNat
      rcases allocateHandles_cases big.numBis.toNat controller with hhandles | ⟨hhandles, hfull⟩
      · rw [hhandles]
        refine Grants.handled (Grants.of_added ?_ (fun _ => .inl) ?_)
        · rfl
        · intro handle _
          simp only [count_allHandles, advance, commandStatus, push, List.flatMap_append,
            List.flatMap_cons, List.flatMap_nil, List.append_nil, List.map_append,
            List.count_append, map_handle_broadcasterLinks]
          omega
      · rw [hhandles]
        exact .inr ⟨rfl, hfull⟩

theorem tryEstablishBigSync_handled (addressType : UInt8) (address : Address)
    (advertisingSid : UInt8) (info : BigInfo) :
    Handled controller (controller.tryEstablishBigSync addressType address advertisingSid info)
      (controller.requested
        (.onPeriodicAdvertisingPdu addressType address advertisingSid info)) := by
  unfold tryEstablishBigSync requested
  dsimp only
  cases controller.awaitedBigSync addressType address advertisingSid with
  | none =>
    show Handled controller (some _) 0
    exact handled_of_eq rfl rfl rfl
  | some pending =>
    dsimp only
    cases pending.validBis info with
    | false =>
      show Handled controller (some _) 0
      exact handled_of_eq rfl rfl rfl
    | true =>
      cases pending.validCode info with
      | false =>
        show Handled controller (some _) 0
        exact handled_of_eq rfl rfl rfl
      | true =>
        rw [Bool.not_true, if_neg Bool.false_ne_true, if_neg Bool.false_ne_true]
        change Handled controller _ pending.bis.length
        rcases allocateHandles_cases pending.bis.length
          { controller with pendingBigSync := none } with hhandles | ⟨hhandles, hfull⟩
        · rw [hhandles]
          refine Grants.handled (Grants.of_added ?_ (fun _ => .inl) ?_)
          · rfl
          · intro handle _
            simp only [count_allHandles, advance, push, List.flatMap_append, List.flatMap_cons,
              List.flatMap_nil, List.append_nil, List.map_append, List.count_append,
              map_handle_receiverLinks address advertisingSid (List.length_range').symm]
            omega
        · rw [hhandles]
          exact .inr ⟨rfl, hfull⟩

/-! ### Links that get their handle when they are established -/

theorem exists_kept_updateFirst {α : Type} {matching : α → Bool} {change : α → α}
    {items : List α} {found : α} {fresh : Nat} (handleOf : α → Nat)
    (hfind : items.find? matching = some found)
    (hchange : ∀ item, handleOf (change item) = fresh) :
    ∃ kept : List α, kept.Sublist items ∧
      ∀ handle, ((updateFirst matching change items).map handleOf).count handle =
        (kept.map handleOf).count handle + [fresh].count handle := by
  obtain ⟨before, after, hsplit, -, hupdate, -⟩ := exists_split_of_find change hfind
  refine ⟨before ++ after, ?_, ?_⟩
  · rw [hsplit]
    exact List.Sublist.append_left (List.sublist_cons_self _ _) _
  · intro handle
    rw [hupdate, List.map_append, List.map_cons, hchange, List.map_append, List.count_append,
      List.count_append, List.count_cons, List.count_singleton]
    omega

variable {controller} in
theorem Grants.of_classic {next : Controller} {matching : Connection → Bool}
    {change : Connection → Connection} {found : Connection}
    (hfind : controller.classicConnections.find? matching = some found)
    (hchange : ∀ connection, (change connection).handle = controller.nextHandle)
    (hcounter : next.nextHandle = controller.nextHandle + 1)
    (hstreams : next.cisHandles = controller.cisHandles)
    (hnext : next.allHandles = { controller with
      classicConnections :=
        updateFirst matching change controller.classicConnections }.allHandles) :
    Grants controller next 1 := by
  obtain ⟨kept, hkept, hcount⟩ := exists_kept_updateFirst
    (fun connection : Connection => connection.handle) hfind hchange
  refine Grants.of_kept hcounter (fun _ hmem => .inl (hstreams ▸ hmem)) (fun handle =>
    { controller with classicConnections := kept }.allHandles.count handle) ?_ ?_
  · intro handle _
    have hless := count_map_le (f := fun connection : Connection => connection.handle)
      hkept handle
    simp only [count_allHandles]
    omega
  · intro handle _
    have hthis := hcount handle
    rw [hnext]
    simp only [count_allHandles, List.range'_one]
    omega

variable {controller} in
theorem Grants.of_synchronous {next : Controller} {matching : SynchronousConnection → Bool}
    {change : SynchronousConnection → SynchronousConnection} {found : SynchronousConnection}
    (hfind : controller.synchronousConnections.find? matching = some found)
    (hchange : ∀ connection, (change connection).handle = controller.nextHandle)
    (hcounter : next.nextHandle = controller.nextHandle + 1)
    (hstreams : next.cisHandles = controller.cisHandles)
    (hnext : next.allHandles = { controller with
      synchronousConnections :=
        updateFirst matching change controller.synchronousConnections }.allHandles) :
    Grants controller next 1 := by
  obtain ⟨kept, hkept, hcount⟩ := exists_kept_updateFirst
    (fun connection : SynchronousConnection => connection.handle) hfind hchange
  refine Grants.of_kept hcounter (fun _ hmem => .inl (hstreams ▸ hmem)) (fun handle =>
    { controller with synchronousConnections := kept }.allHandles.count handle) ?_ ?_
  · intro handle _
    have hless := count_map_le (f := fun connection : SynchronousConnection => connection.handle)
      hkept handle
    simp only [count_allHandles]
    omega
  · intro handle _
    have hthis := hcount handle
    rw [hnext]
    simp only [count_allHandles, List.range'_one]
    omega

theorem completeClassicAccept_handled (bdAddr : Address) :
    Handled controller (controller.completeClassicAccept bdAddr)
      (if (controller.classicConnectionWith bdAddr).isSome then 1 else 0) := by
  unfold completeClassicAccept
  cases hfind : controller.classicConnectionWith bdAddr with
  | none => exact handled_of_eq rfl rfl rfl
  | some found =>
    dsimp only [Option.isSome_some]
    rw [if_pos rfl]
    exact handled_of_allocated rfl (Grants.of_classic hfind
      (fun _ => rfl : ∀ connection : Connection,
        (connection.withHandle controller.nextHandle).handle = controller.nextHandle) rfl rfl rfl)

theorem onAccepted_handled (sender : Address) :
    Handled controller (controller.onAccepted sender)
      (if (controller.classicConnections.find? (Connection.pendingOf sender)).isSome then 1
        else 0) := by
  unfold onAccepted
  cases hfind : controller.classicConnections.find? (Connection.pendingOf sender) with
  | none => exact handled_of_eq rfl rfl rfl
  | some found =>
    dsimp only [Option.isSome_some]
    rw [if_pos rfl]
    exact handled_of_allocated rfl (Grants.of_classic hfind
      (fun _ => rfl : ∀ connection : Connection,
        (connection.withHandle controller.nextHandle).handle = controller.nextHandle) rfl rfl rfl)

theorem handleAcceptSynchronousConnection_handled (commandOpcode : UInt16) (bdAddr : Address)
    (requestedAirMode : UInt8) :
    Handled controller
      (controller.handleAcceptSynchronousConnection commandOpcode bdAddr requestedAirMode)
      (if (controller.synchronousConnections.find?
        (SynchronousConnection.pendingOf bdAddr)).isSome then 1 else 0) := by
  unfold handleAcceptSynchronousConnection
  cases hfind : controller.synchronousConnections.find?
    (SynchronousConnection.pendingOf bdAddr) with
  | none => exact handled_of_eq rfl rfl rfl
  | some found =>
    dsimp only [Option.isSome_some]
    rw [if_pos rfl]
    exact handled_of_allocated rfl (Grants.of_synchronous hfind
      (fun _ => rfl : ∀ connection : SynchronousConnection,
        { connection with
          handle := controller.nextHandle
          airMode := requestedAirMode }.handle = controller.nextHandle) rfl rfl rfl)

theorem onSynchronousConnectionAccepted_handled (sender : Address) (linkType airMode : UInt8) :
    Handled controller (controller.onSynchronousConnectionAccepted sender linkType airMode)
      (if (controller.synchronousConnections.find?
        (SynchronousConnection.pendingOf sender)).isSome then 1 else 0) := by
  unfold onSynchronousConnectionAccepted
  cases hfind : controller.synchronousConnections.find?
    (SynchronousConnection.pendingOf sender) with
  | none => exact handled_of_eq rfl rfl rfl
  | some found =>
    dsimp only [Option.isSome_some]
    rw [if_pos rfl]
    exact handled_of_allocated rfl (Grants.of_synchronous hfind
      (fun _ => rfl : ∀ connection : SynchronousConnection,
        { connection with
          handle := controller.nextHandle
          linkType := linkType
          airMode := airMode }.handle = controller.nextHandle) rfl rfl rfl)

/-! ### Calls that give out no handle -/

theorem cisHandles_of_peripheral {kept : List CisLink}
    (hkept : kept.Sublist controller.peripheralCisLinks) :
    ∀ handle ∈ { controller with peripheralCisLinks := kept }.cisHandles,
      handle ∈ controller.cisHandles := by
  intro handle hmem
  exact ((List.Sublist.append_left hkept _).map _).mem hmem

theorem cisHandles_of_central {kept : List CisLink}
    (hkept : kept.Sublist controller.centralCisLinks) :
    ∀ handle ∈ { controller with centralCisLinks := kept }.cisHandles,
      handle ∈ controller.cisHandles := by
  intro handle hmem
  exact ((List.Sublist.append_right hkept _).map _).mem hmem

theorem cisHandles_updateCentral {matching : CisLink → Bool} {change : CisLink → CisLink}
    (hchange : ∀ link : CisLink, (change link).handle = link.handle) :
    { controller with
      centralCisLinks :=
        updateFirst matching change controller.centralCisLinks }.cisHandles =
      controller.cisHandles := by
  unfold cisHandles
  rw [List.map_append, List.map_append,
    map_updateFirst (f := fun link : CisLink => link.handle) hchange]

theorem allHandles_updateCentral {matching : CisLink → Bool} {change : CisLink → CisLink}
    (hchange : ∀ link : CisLink, (change link).handle = link.handle) :
    { controller with
      centralCisLinks :=
        updateFirst matching change controller.centralCisLinks }.allHandles =
      controller.allHandles := by
  unfold allHandles
  rw [map_updateFirst (f := fun link : CisLink => link.handle) hchange]

theorem allHandles_updateClassic {matching : Connection → Bool} {change : Connection → Connection}
    (hchange : ∀ connection : Connection, (change connection).handle = connection.handle) :
    { controller with
      classicConnections :=
        updateFirst matching change controller.classicConnections }.allHandles =
      controller.allHandles := by
  unfold allHandles
  rw [map_updateFirst (f := fun connection : Connection => connection.handle) hchange]

theorem count_connections_le {kept : List Connection} (hkept : kept.Sublist controller.connections)
    (handle : Nat) :
    { controller with connections := kept }.allHandles.count handle ≤
      controller.allHandles.count handle := by
  have hless := count_map_le (f := fun connection : Connection => connection.handle) hkept handle
  simp only [count_allHandles]
  omega

theorem count_classic_le {kept : List Connection}
    (hkept : kept.Sublist controller.classicConnections) (handle : Nat) :
    { controller with classicConnections := kept }.allHandles.count handle ≤
      controller.allHandles.count handle := by
  have hless := count_map_le (f := fun connection : Connection => connection.handle) hkept handle
  simp only [count_allHandles]
  omega

theorem count_synchronous_le {kept : List SynchronousConnection}
    (hkept : kept.Sublist controller.synchronousConnections) (handle : Nat) :
    { controller with synchronousConnections := kept }.allHandles.count handle ≤
      controller.allHandles.count handle := by
  have hless := count_map_le (f := fun connection : SynchronousConnection => connection.handle)
    hkept handle
  simp only [count_allHandles]
  omega

theorem count_central_le {kept : List CisLink} (hkept : kept.Sublist controller.centralCisLinks)
    (handle : Nat) :
    { controller with centralCisLinks := kept }.allHandles.count handle ≤
      controller.allHandles.count handle := by
  have hless := count_map_le (f := fun link : CisLink => link.handle) hkept handle
  simp only [count_allHandles]
  omega

theorem count_peripheral_le {kept : List CisLink}
    (hkept : kept.Sublist controller.peripheralCisLinks) (handle : Nat) :
    { controller with peripheralCisLinks := kept }.allHandles.count handle ≤
      controller.allHandles.count handle := by
  have hless := count_map_le (f := fun link : CisLink => link.handle) hkept handle
  simp only [count_allHandles]
  omega

theorem count_bigs_le {kept : List Big} (hkept : kept.Sublist controller.bigs) (handle : Nat) :
    { controller with bigs := kept }.allHandles.count handle ≤
      controller.allHandles.count handle := by
  have hless := count_flatMap_le (fun big : Big => big.bisLinks)
    (fun link : BisLink => link.handle) hkept handle
  simp only [count_allHandles]
  omega

theorem count_bigSyncs_le {kept : List BigSync} (hkept : kept.Sublist controller.bigSyncs)
    (handle : Nat) :
    { controller with bigSyncs := kept }.allHandles.count handle ≤
      controller.allHandles.count handle := by
  have hless := count_flatMap_le (fun sync : BigSync => sync.bisLinks)
    (fun link : BisLink => link.handle) hkept handle
  simp only [count_allHandles]
  omega

theorem map_handle_unbind (selfAddress peerAddress : Address) :
    (controller.centralCisLinks.map fun link =>
      if CisLink.boundTo selfAddress peerAddress link then link.unbind else link).map
        (fun link => link.handle) = controller.centralCisLinks.map (fun link => link.handle) := by
  rw [List.map_map]
  refine List.map_congr_left fun link _ => ?_
  change (if _ then _ else _ : CisLink).handle = _
  split <;> rfl

theorem cisHandles_disconnectCisForAcl (selfAddress peerAddress : Address) :
    ∀ handle ∈ (controller.disconnectCisForAcl selfAddress peerAddress).2.cisHandles,
      handle ∈ controller.cisHandles := by
  intro handle hmem
  unfold disconnectCisForAcl cisHandles at hmem
  unfold cisHandles
  rw [List.map_append, controller.map_handle_unbind] at hmem
  rw [List.map_append]
  exact (List.Sublist.append_left (List.filter_sublist.map _) _).mem hmem

theorem count_disconnectCisForAcl_le (selfAddress peerAddress : Address) (handle : Nat) :
    (controller.disconnectCisForAcl selfAddress peerAddress).2.allHandles.count handle ≤
      controller.allHandles.count handle := by
  have hless := count_map_le (f := fun link : CisLink => link.handle)
    (List.filter_sublist (p := (!CisLink.boundTo selfAddress peerAddress ·))
      (l := controller.peripheralCisLinks)) handle
  unfold disconnectCisForAcl
  simp only [count_allHandles]
  rw [controller.map_handle_unbind]
  omega

theorem count_removeSynchronousForPeer_le (selfAddress peerAddress : Address) (handle : Nat) :
    (controller.removeSynchronousForPeer selfAddress peerAddress).2.allHandles.count handle ≤
      controller.allHandles.count handle :=
  controller.count_synchronous_le List.filter_sublist handle

theorem onLeCisDisconnected_handled (cigId cisId reason : UInt8) :
    Handled controller (some (controller.onLeCisDisconnected cigId cisId reason)) 0 := by
  unfold onLeCisDisconnected
  split
  · exact handled_of_part rfl (controller.cisHandles_of_peripheral List.eraseP_sublist)
      fun handle _ => controller.count_peripheral_le List.eraseP_sublist handle
  · split
    · have hkept : ∀ link : CisLink, link.unbind.handle = link.handle := fun _ => rfl
      exact handled_of_eq rfl (controller.cisHandles_updateCentral hkept)
        (controller.allHandles_updateCentral hkept)
    · exact handled_of_eq rfl rfl rfl

theorem requestDisconnect_handled (handle : Nat) (reason : UInt8) :
    Handled controller (some (controller.requestDisconnect handle reason).2) 0 := by
  unfold requestDisconnect
  dsimp only [commandStatus, push]
  split
  next connection _ =>
    refine handled_of_part rfl (cisHandles_disconnectCisForAcl { controller with
        connections := controller.connections.eraseP (·.handle = handle) }
      connection.selfAddress connection.peerAddress) fun other _ => ?_
    exact (count_disconnectCisForAcl_le { controller with
        connections := controller.connections.eraseP (·.handle = handle) }
      connection.selfAddress connection.peerAddress other).trans
      (controller.count_connections_le List.eraseP_sublist other)
  split
  next connection _ =>
    refine handled_of_count rfl rfl fun other _ => ?_
    exact (count_removeSynchronousForPeer_le { controller with
        classicConnections := controller.classicConnections.eraseP (·.handle = handle) }
      connection.selfAddress connection.peerAddress other).trans
      (controller.count_classic_le List.eraseP_sublist other)
  split
  · exact handled_of_count rfl rfl fun other _ =>
      controller.count_synchronous_le List.eraseP_sublist other
  split
  next link _ =>
    split
    · exact (onLeCisDisconnected_handled _ _ _ _).congr rfl rfl rfl
    · exact handled_of_eq rfl rfl rfl
  · exact handled_of_eq rfl rfl rfl

theorem count_disconnectCisForPeer_le {selfAddress peerAddress : Address} {cigId cisId : UInt8}
    {taken : Nat} {next : Controller}
    (htaken : controller.disconnectCisForPeer selfAddress peerAddress cigId cisId =
      some (taken, next)) :
    next.nextHandle = controller.nextHandle ∧
      (∀ handle, next.allHandles.count handle ≤ controller.allHandles.count handle) ∧
      ∀ handle ∈ next.cisHandles, handle ∈ controller.cisHandles := by
  unfold disconnectCisForPeer at htaken
  dsimp only at htaken
  split at htaken
  · obtain ⟨-, rfl⟩ := Prod.mk.inj (Option.some.inj htaken)
    have hkept : ∀ link : CisLink, link.unbind.handle = link.handle := fun _ => rfl
    refine ⟨rfl, fun handle => ?_, fun handle hmem => ?_⟩
    · rw [controller.allHandles_updateCentral hkept]
    · rwa [controller.cisHandles_updateCentral hkept] at hmem
  · obtain ⟨link, -, htaken⟩ := Option.map_eq_some_iff.mp htaken
    obtain ⟨-, rfl⟩ := Prod.mk.inj htaken
    exact ⟨rfl, controller.count_peripheral_le List.eraseP_sublist,
      controller.cisHandles_of_peripheral List.eraseP_sublist⟩

theorem count_takeDropped_le {selfAddress peerAddress : Address} {kind : ConnectionKind}
    {taken : Nat} {dependent : List Nat} {next : Controller}
    (htaken : controller.takeDropped selfAddress peerAddress kind =
      some (taken, dependent, next)) :
    next.nextHandle = controller.nextHandle ∧
      (∀ handle, next.allHandles.count handle ≤ controller.allHandles.count handle) ∧
      ∀ handle ∈ next.cisHandles, handle ∈ controller.cisHandles := by
  cases kind with
  | leAcl =>
    obtain ⟨connection, -, htaken⟩ := Option.map_eq_some_iff.mp htaken
    obtain ⟨-, htaken⟩ := Prod.mk.inj htaken
    obtain ⟨-, rfl⟩ := Prod.mk.inj htaken
    refine ⟨rfl, fun handle => ?_, cisHandles_disconnectCisForAcl _ selfAddress peerAddress⟩
    exact (count_disconnectCisForAcl_le _ selfAddress peerAddress handle).trans
      (controller.count_connections_le List.eraseP_sublist handle)
  | classicAcl =>
    obtain ⟨connection, -, htaken⟩ := Option.map_eq_some_iff.mp htaken
    obtain ⟨-, htaken⟩ := Prod.mk.inj htaken
    obtain ⟨-, rfl⟩ := Prod.mk.inj htaken
    refine ⟨rfl, fun handle => ?_, fun _ hmem => hmem⟩
    exact (count_removeSynchronousForPeer_le _ selfAddress peerAddress handle).trans
      (controller.count_classic_le List.eraseP_sublist handle)
  | synchronous =>
    obtain ⟨connection, -, htaken⟩ := Option.map_eq_some_iff.mp htaken
    obtain ⟨-, htaken⟩ := Prod.mk.inj htaken
    obtain ⟨-, rfl⟩ := Prod.mk.inj htaken
    exact ⟨rfl, controller.count_synchronous_le List.eraseP_sublist, fun _ hmem => hmem⟩
  | iso cigId cisId =>
    obtain ⟨⟨found, after⟩, hfound, htaken⟩ := Option.map_eq_some_iff.mp htaken
    obtain ⟨-, htaken⟩ := Prod.mk.inj htaken
    obtain ⟨-, rfl⟩ := Prod.mk.inj htaken
    exact count_disconnectCisForPeer_le controller hfound

theorem onPeerDisconnect_handled (selfAddress peerAddress : Address) (kind : ConnectionKind)
    (reason : UInt8) :
    Handled controller (some (controller.onPeerDisconnect selfAddress peerAddress kind reason))
      0 := by
  unfold onPeerDisconnect
  split
  next taken dependent next htaken =>
    obtain ⟨hcounter, hcount, hstreams⟩ := count_takeDropped_le controller htaken
    exact handled_of_part hcounter hstreams fun handle _ => hcount handle
  · exact handled_of_eq rfl rfl rfl

theorem loseBigSyncs_handled (lost : BigSync → Bool) (reason : UInt8) :
    Handled controller (some (controller.loseBigSyncs lost reason)) 0 :=
  handled_of_count rfl rfl fun handle _ => controller.count_bigSyncs_le List.filter_sublist handle

theorem handleCreateCis_handled (handles : List (Nat × Nat)) :
    Handled controller (some (controller.handleCreateCis handles)) 0 := by
  induction handles generalizing controller with
  | nil => exact handled_of_eq rfl rfl rfl
  | cons first rest ih =>
    obtain ⟨cisHandle, aclHandle⟩ := first
    unfold handleCreateCis
    split
    · exact handled_of_eq rfl rfl rfl
    split
    · exact handled_of_eq rfl rfl rfl
    next connection _ _ _ _ =>
      have hkept : ∀ link : CisLink,
          (link.bind connection.selfAddress connection.peerAddress).handle = link.handle :=
        fun _ => rfl
      exact (ih _).congr rfl (controller.cisHandles_updateCentral hkept)
        (controller.allHandles_updateCentral hkept)

theorem handleRejectCisRequest_handled (connectionHandle : Nat) (reason : UInt8) :
    Handled controller (some (controller.handleRejectCisRequest connectionHandle reason)) 0 := by
  unfold handleRejectCisRequest
  split
  · exact handled_of_eq rfl rfl rfl
  split
  · exact handled_of_eq rfl rfl rfl
  · exact handled_of_part rfl (controller.cisHandles_of_peripheral List.eraseP_sublist)
      fun handle _ => controller.count_peripheral_le List.eraseP_sublist handle

theorem handleAcceptCisRequest_handled (connectionHandle : Nat) :
    Handled controller (some (controller.handleAcceptCisRequest connectionHandle)) 0 := by
  unfold handleAcceptCisRequest
  split
  · exact handled_of_eq rfl rfl rfl
  split
  · exact handled_of_eq rfl rfl rfl
  · exact handled_of_eq rfl rfl rfl

theorem handleTerminateBig_handled (bigHandle reason : UInt8) :
    Handled controller (some (controller.handleTerminateBig bigHandle reason)) 0 := by
  unfold handleTerminateBig
  split
  · exact handled_of_eq rfl rfl rfl
  · exact handled_of_count rfl rfl fun handle _ =>
      controller.count_bigs_le List.eraseP_sublist handle

theorem handleBigTerminateSync_handled (bigHandle : UInt8) :
    Handled controller (some (controller.handleBigTerminateSync bigHandle)) 0 := by
  unfold handleBigTerminateSync
  dsimp only
  split
  · exact handled_of_count rfl rfl fun handle _ =>
      controller.count_bigSyncs_le List.filter_sublist handle
  · exact handled_of_count rfl rfl fun handle _ =>
      controller.count_bigSyncs_le List.filter_sublist handle

theorem handlePeriodicAdvertisingTerminateSync_handled (syncHandle : Nat) :
    Handled controller (some (controller.handlePeriodicAdvertisingTerminateSync syncHandle))
      0 := by
  unfold handlePeriodicAdvertisingTerminateSync
  dsimp only
  split
  · exact handled_of_eq rfl rfl rfl
  · exact (loseBigSyncs_handled _ _ _).congr rfl rfl rfl

theorem reset_handled : Handled controller (some controller.reset) 0 :=
  handled_of_part rfl (fun _ hnone => nomatch hnone) fun _ _ => Nat.zero_le _

/-! ### Classic links -/

theorem pushClassicConnection_count (role : Nat) (allowRoleSwitch : Bool) (peer : Address)
    {handle : Nat} (hhandle : handle ≠ 0) :
    (controller.pushClassicConnection role allowRoleSwitch peer).allHandles.count handle =
      controller.allHandles.count handle := by
  have hzero : List.count handle [0] = 0 := List.count_eq_zero.mpr (by simpa using hhandle)
  simp only [count_allHandles, pushClassicConnection, List.map_append, List.map_cons,
    List.map_nil, List.count_append, hzero]
  omega

theorem pushSynchronousConnection_count (connection : SynchronousConnection)
    (hpending : connection.handle = 0) {handle : Nat} (hhandle : handle ≠ 0) :
    { controller with
      synchronousConnections :=
        controller.synchronousConnections ++ [connection] }.allHandles.count handle =
      controller.allHandles.count handle := by
  have hzero : List.count handle [0] = 0 := List.count_eq_zero.mpr (by simpa using hhandle)
  simp only [count_allHandles, List.map_append, List.map_cons, List.map_nil, hpending,
    List.count_append, hzero]
  omega

theorem handleSetupSynchronousConnection_handled (aclHandle : Nat) (linkType airMode : UInt8) :
    Handled controller
      (some (controller.handleSetupSynchronousConnection aclHandle linkType airMode)) 0 := by
  unfold handleSetupSynchronousConnection
  split
  · exact handled_of_eq rfl rfl rfl
  split
  · exact handled_of_eq rfl rfl rfl
  · exact handled_of_count rfl rfl fun handle hhandle =>
      (controller.pushSynchronousConnection_count _ rfl hhandle).le

theorem onSynchronousConnectionReq_handled (sender : Address) (linkType airMode : UInt8) :
    Handled controller
      (some (controller.onSynchronousConnectionReq sender linkType airMode)) 0 := by
  unfold onSynchronousConnectionReq
  split
  · exact handled_of_eq rfl rfl rfl
  · exact handled_of_count rfl rfl fun handle hhandle =>
      (controller.pushSynchronousConnection_count _ rfl hhandle).le

theorem handleAcceptConnectionRequest_handled (bdAddr : Address) (role : Nat) :
    Handled controller (controller.handleAcceptConnectionRequest bdAddr role)
      (controller.requested (.command (.acceptConnectionRequest bdAddr role))) := by
  unfold handleAcceptConnectionRequest requested
  dsimp only
  by_cases hrole : role > rolePeripheral
  · have hnot : decide (role = rolePeripheral) = false := decide_eq_false (by omega)
    rw [if_pos hrole, hnot]
    exact handled_of_eq rfl rfl rfl
  · rw [if_neg hrole]
    cases hfind : controller.classicConnectionWith bdAddr with
    | none =>
      rw [Option.isSome_none, Bool.and_false]
      exact handled_of_eq rfl rfl rfl
    | some connection =>
      dsimp only
      by_cases hcentral : role = roleCentral
      · have hnot : decide (role = rolePeripheral) = false :=
          decide_eq_false (by rw [hcentral]; decide)
        rw [if_pos hcentral, hnot]
        exact handled_of_eq rfl rfl rfl
      · have hperipheral : role = rolePeripheral := by
          unfold roleCentral at hcentral
          unfold rolePeripheral at hrole ⊢
          omega
        rw [if_neg hcentral, decide_eq_true hperipheral, Option.isSome_some, Bool.and_self,
          if_pos rfl]
        have hhandled := (controller.commandStatus hciAcceptConnectionRequestCommand
          hciSuccess).completeClassicAccept_handled bdAddr
        have hsame : (controller.commandStatus hciAcceptConnectionRequestCommand
          hciSuccess).classicConnectionWith bdAddr = some connection := hfind
        rw [hsame, Option.isSome_some, if_pos rfl] at hhandled
        exact hhandled.congr rfl rfl rfl

theorem handleSwitchRole_handled (bdAddr : Address) (role : Nat) :
    Handled controller (some (controller.handleSwitchRole bdAddr role)) 0 := by
  unfold handleSwitchRole
  split
  · exact handled_of_eq rfl rfl rfl
  split
  · exact handled_of_eq rfl rfl rfl
  dsimp only
  split
  · exact handled_of_eq rfl rfl rfl
  · exact handled_of_eq rfl rfl rfl

theorem handleSetClassicEncryption_handled (connectionHandle : Nat) (encryptionEnable : UInt8) :
    Handled controller
      (some (controller.handleSetClassicEncryption connectionHandle encryptionEnable)) 0 := by
  unfold handleSetClassicEncryption
  split
  · exact handled_of_eq rfl rfl rfl
  split
  · exact handled_of_eq rfl rfl rfl
  · exact handled_of_eq rfl rfl rfl

theorem handleRejectSynchronousConnection_handled (bdAddr : Address) (reason : UInt8) :
    Handled controller
      (some (controller.handleRejectSynchronousConnection bdAddr reason)) 0 := by
  unfold handleRejectSynchronousConnection
  split
  · exact handled_of_eq rfl rfl rfl
  · exact handled_of_count rfl rfl fun handle _ =>
      controller.count_synchronous_le List.eraseP_sublist handle

theorem onRejected_handled (sender : Address) (reason : UInt8) :
    Handled controller (some (controller.onRejected sender reason)) 0 := by
  unfold onRejected
  split
  · exact handled_of_eq rfl rfl rfl
  · exact handled_of_count rfl rfl fun handle _ =>
      controller.count_classic_le List.eraseP_sublist handle

theorem onSwitchReq_handled (sender : Address) :
    Handled controller (some (controller.onSwitchReq sender)) 0 := by
  unfold onSwitchReq
  split
  · exact handled_of_eq rfl rfl rfl
  next connection _ =>
    split
    · have hkept : ∀ other : Connection,
          (other.withRole (otherRole connection.role)).handle = other.handle := fun _ => rfl
      exact handled_of_eq rfl rfl (controller.allHandles_updateClassic hkept)
    · exact handled_of_eq rfl rfl rfl

theorem takeRole_handles (peer : Address) (role : Nat) :
    (controller.takeRole peer role).allHandles = controller.allHandles := by
  have hkept : ∀ connection : Connection,
      (connection.withRole role).handle = connection.handle := fun _ => rfl
  exact controller.allHandles_updateClassic hkept

theorem takeRole_isSome (peer other : Address) (role : Nat) :
    ((controller.takeRole peer role).classicConnectionWith other).isSome =
      (controller.classicConnectionWith other).isSome := by
  unfold classicConnectionWith takeRole
  change (List.find? _ (updateFirst _ _ _)).isSome = _
  rw [Bool.eq_iff_iff, List.find?_isSome, List.find?_isSome]
  have hsame : (updateFirst (Connection.ofPeer peer) (Connection.withRole role)
      controller.classicConnections).map Connection.peerAddress =
      controller.classicConnections.map Connection.peerAddress := map_updateFirst fun _ => rfl
  simp only [decide_eq_true_eq]
  rw [← List.mem_map, ← List.mem_map, hsame]

theorem onSwitchAccepted_handled (sender : Address) :
    Handled controller (controller.onSwitchAccepted sender)
      (controller.requested (.onClassicPdu sender .switchAccepted)) := by
  unfold onSwitchAccepted requested
  dsimp only
  cases hpending : controller.pendingSwitchWith sender with
  | none => exact handled_of_eq rfl rfl rfl
  | some pending =>
    obtain ⟨peer, purpose⟩ := pending
    dsimp only [Option.any_some]
    cases purpose with
    | acceptConnection =>
      have hhandled := ((controller.dropPendingSwitch sender).takeRole sender
        roleCentral).completeClassicAccept_handled sender
      rw [takeRole_isSome] at hhandled
      change Handled controller _
        (if (controller.classicConnectionWith sender).isSome then 1 else 0)
      exact hhandled.congr rfl rfl (takeRole_handles _ _ _)
    | switchRoleCommand requestedRole =>
      change Handled controller (some _) 0
      exact handled_of_eq rfl rfl (takeRole_handles (controller.dropPendingSwitch sender) _ _)

theorem onSwitchRejected_handled (sender : Address) (reason : UInt8) :
    Handled controller (some (controller.onSwitchRejected sender reason)) 0 := by
  unfold onSwitchRejected
  split
  · exact handled_of_eq rfl rfl rfl
  dsimp only
  split
  · exact handled_of_count rfl rfl fun handle _ =>
      controller.count_classic_le List.filter_sublist handle
  · exact handled_of_eq rfl rfl rfl

theorem onSynchronousConnectionRejected_handled (sender : Address) (reason : UInt8) :
    Handled controller (some (controller.onSynchronousConnectionRejected sender reason)) 0 := by
  unfold onSynchronousConnectionRejected
  split
  · exact handled_of_eq rfl rfl rfl
  · exact handled_of_count rfl rfl fun handle _ =>
      controller.count_synchronous_le List.eraseP_sublist handle

theorem onSynchronousDetach_handled (sender : Address) (errorCode : UInt8) :
    Handled controller (some (controller.onSynchronousDetach sender errorCode)) 0 := by
  unfold onSynchronousDetach
  split
  · exact handled_of_eq rfl rfl rfl
  · exact handled_of_count rfl rfl fun handle _ =>
      controller.count_synchronous_le List.eraseP_sublist handle

theorem onDetach_handled (sender : Address) (errorCode : UInt8) :
    Handled controller (some (controller.onDetach sender errorCode)) 0 := by
  unfold onDetach
  split
  · exact handled_of_eq rfl rfl rfl
  next connection _ =>
    refine handled_of_count rfl rfl fun handle _ => ?_
    exact (count_removeSynchronousForPeer_le { controller with
        classicConnections := controller.classicConnections.eraseP (Connection.ofPeer sender) }
      connection.selfAddress connection.peerAddress handle).trans
      (controller.count_classic_le List.eraseP_sublist handle)

theorem forConnectionWith_handled (sender : Address) (event : Connection → Event) :
    Handled controller (some (controller.forConnectionWith sender event)) 0 := by
  unfold forConnectionWith
  split
  · exact handled_of_eq rfl rfl rfl
  · exact handled_of_eq rfl rfl rfl

theorem onClassicPdu_handled (sender : Address) (pdu : ClassicPdu) :
    Handled controller (controller.onClassicPdu sender pdu)
      (controller.requested (.onClassicPdu sender pdu)) := by
  cases pdu with
  | hostConnectionReq => exact handled_of_count rfl rfl fun handle hhandle =>
      (controller.pushClassicConnection_count _ _ _ hhandle).le
  | accepted => exact controller.onAccepted_handled sender
  | rejected reason => exact controller.onRejected_handled sender reason
  | switchReq => exact controller.onSwitchReq_handled sender
  | switchAccepted => exact controller.onSwitchAccepted_handled sender
  | switchRejected reason => exact controller.onSwitchRejected_handled sender reason
  | featuresRes features => exact controller.forConnectionWith_handled sender _
  | featuresResExt pageNumber maxPageNumber features =>
    exact controller.forConnectionWith_handled sender _
  | encryptionModeReq enable => exact controller.forConnectionWith_handled sender _
  | synchronousConnectionReq linkType airMode =>
    exact controller.onSynchronousConnectionReq_handled sender linkType airMode
  | synchronousConnectionAccepted linkType airMode =>
    exact controller.onSynchronousConnectionAccepted_handled sender linkType airMode
  | synchronousConnectionRejected reason =>
    exact controller.onSynchronousConnectionRejected_handled sender reason
  | synchronousDetach errorCode => exact controller.onSynchronousDetach_handled sender errorCode
  | detach errorCode => exact controller.onDetach_handled sender errorCode
  | nameReq => exact handled_of_eq rfl rfl rfl
  | nameRes name => exact handled_of_eq rfl rfl rfl
  | featuresReq => exact handled_of_eq rfl rfl rfl
  | featuresReqExt pageNumber features => exact handled_of_eq rfl rfl rfl

theorem handleLeCreateConnection_handled (commandOpcode : UInt16)
    (connection : PendingConnection) :
    Handled controller
      (some (controller.handleLeCreateConnection commandOpcode connection)) 0 := by
  unfold handleLeCreateConnection
  split
  · exact handled_of_eq rfl rfl rfl
  · exact handled_of_eq rfl rfl rfl

theorem handleReadRemote_handled (connectionHandle : Nat) :
    Handled controller (some (controller.handleReadRemoteFeatures connectionHandle)) 0 ∧
    Handled controller (some (controller.handleReadRemoteSupportedFeatures connectionHandle))
      0 ∧
    ∀ pageNumber, Handled controller
      (some (controller.handleReadRemoteExtendedFeatures connectionHandle pageNumber)) 0 := by
  unfold handleReadRemoteFeatures handleReadRemoteSupportedFeatures
    handleReadRemoteExtendedFeatures
  refine ⟨?_, ?_, fun pageNumber => ?_⟩
  · split
    · exact handled_of_eq rfl rfl rfl
    · exact handled_of_eq rfl rfl rfl
  · split
    · exact handled_of_eq rfl rfl rfl
    · exact handled_of_eq rfl rfl rfl
  · split
    · exact handled_of_eq rfl rfl rfl
    · exact handled_of_eq rfl rfl rfl

theorem handleEnableEncryption_handled (connectionHandle : Nat) (randomNumber : Octets 8)
    (encryptedDiversifier : UInt16) (longTermKey : Octets 16) :
    Handled controller (some (controller.handleEnableEncryption connectionHandle randomNumber
      encryptedDiversifier longTermKey)) 0 := by
  unfold handleEnableEncryption
  split
  · exact handled_of_eq rfl rfl rfl
  · exact handled_of_eq rfl rfl rfl

theorem handleBigCreateSync_handled (sync : BigCreateSync) :
    Handled controller (some (controller.handleBigCreateSync sync)) 0 := by
  unfold handleBigCreateSync
  split
  · exact handled_of_eq rfl rfl rfl
  · exact handled_of_eq rfl rfl rfl

theorem onLeCisEstablished_handled (cigId cisId : UInt8) :
    Handled controller (some (controller.onLeCisEstablished cigId cisId)) 0 := by
  unfold onLeCisEstablished
  split
  · exact handled_of_eq rfl rfl rfl
  · exact handled_of_eq rfl rfl rfl

theorem onLeCisEstablishmentFailed_handled (cigId cisId status : UInt8) :
    Handled controller (some (controller.onLeCisEstablishmentFailed cigId cisId status)) 0 := by
  unfold onLeCisEstablishmentFailed
  split
  · exact handled_of_eq rfl rfl rfl
  · exact handled_of_eq rfl rfl rfl

theorem queueLl_handled {next : Controller} {selfAddress peerAddress : Address} {pdu : LlPdu}
    (hhandled : Handled controller (some next) 0) :
    Handled controller (some (next.queueLl selfAddress peerAddress pdu)) 0 := by
  rcases hhandled with ⟨after, hafter, hgrants⟩ | ⟨hnone, -⟩
  · obtain rfl := Option.some.inj hafter
    exact .inl ⟨_, rfl, hgrants.counter, hgrants.counted, hgrants.fresh, hgrants.streams⟩
  · cases hnone

theorem onLlControlPdu_handled (sender : Address) (pdu : LlPdu) :
    Handled controller (controller.onLlControlPdu sender pdu)
      (controller.requested (.onLlControlPdu sender pdu)) := by
  unfold onLlControlPdu
  cases hfind : controller.connections.find? (·.peerAddress = sender) with
  | none =>
    have hnone : controller.requested (.onLlControlPdu sender pdu) = 0 := by
      cases pdu with
      | cisReq cigId cisId =>
        unfold requested
        dsimp only
        rw [hfind]
        rfl
      | _ => rfl
    rw [hnone]
    exact handled_of_eq rfl rfl rfl
  | some connection =>
    cases pdu with
    | cisReq cigId cisId =>
      have hone : controller.requested (.onLlControlPdu sender (.cisReq cigId cisId)) = 1 := by
        unfold requested
        dsimp only
        rw [hfind]
        rfl
      rw [hone]
      exact controller.onLeCisRequest_handled connection.selfAddress sender connection.handle
        cigId cisId
    | cisRsp cigId cisId =>
      exact queueLl_handled controller (controller.onLeCisEstablished_handled cigId cisId)
    | cisInd cigId cisId => exact controller.onLeCisEstablished_handled cigId cisId
    | cisReject cigId cisId errorCode =>
      exact controller.onLeCisEstablishmentFailed_handled cigId cisId errorCode
    | cisTerminateInd cigId cisId errorCode =>
      exact controller.onLeCisDisconnected_handled cigId cisId errorCode
    | terminateInd errorCode =>
      exact controller.onPeerDisconnect_handled connection.selfAddress sender .leAcl errorCode
    | encReq rand ediv ltk => exact handled_of_eq rfl rfl rfl
    | featureReq featureSet => exact handled_of_eq rfl rfl rfl
    | peripheralFeatureReq featureSet => exact handled_of_eq rfl rfl rfl
    | featureRsp featureSet => exact handled_of_eq rfl rfl rfl

/-- A command gets the handles it asks for, or the counter is at its end. -/
theorem handleCommand_handled (command : Command) :
    Handled controller (controller.handleCommand command)
      (controller.requested (.command command)) := by
  cases command with
  | reset => exact controller.reset_handled
  | disconnect connectionHandle reason =>
    exact controller.requestDisconnect_handled connectionHandle reason
  | leCreateConnection commandOpcode connection =>
    exact controller.handleLeCreateConnection_handled commandOpcode connection
  | leCreateConnectionCancel => exact handled_of_eq rfl rfl rfl
  | leEnableEncryption connectionHandle randomNumber encryptedDiversifier longTermKey =>
    exact controller.handleEnableEncryption_handled _ _ _ _
  | leReadRemoteFeatures connectionHandle =>
    exact (controller.handleReadRemote_handled connectionHandle).1
  | lePeriodicAdvertisingTerminateSync syncHandle =>
    exact controller.handlePeriodicAdvertisingTerminateSync_handled syncHandle
  | leSetCigParameters cigId cisId => exact controller.handleSetCigParameters_handled cigId cisId
  | leRemoveCig cigId =>
    exact handled_of_part rfl (controller.cisHandles_of_central List.filter_sublist)
      fun handle _ => controller.count_central_le List.filter_sublist handle
  | leCreateCis cisConnectionHandle aclConnectionHandle =>
    exact controller.handleCreateCis_handled _
  | leAcceptCisRequest connectionHandle =>
    exact controller.handleAcceptCisRequest_handled connectionHandle
  | leRejectCisRequest connectionHandle reason =>
    exact controller.handleRejectCisRequest_handled connectionHandle reason
  | leCreateBig big => exact controller.handleCreateBig_handled big
  | leTerminateBig bigHandle reason =>
    exact controller.handleTerminateBig_handled bigHandle reason
  | leBigCreateSync sync => exact controller.handleBigCreateSync_handled sync
  | leBigTerminateSync bigHandle => exact controller.handleBigTerminateSync_handled bigHandle
  | setConnectionEncryption connectionHandle encryptionEnable =>
    exact controller.handleSetClassicEncryption_handled connectionHandle encryptionEnable
  | createConnection bdAddr allowRoleSwitch =>
    exact handled_of_count rfl rfl fun handle hhandle =>
      (controller.pushClassicConnection_count _ _ _ hhandle).le
  | acceptConnectionRequest bdAddr role =>
    exact controller.handleAcceptConnectionRequest_handled bdAddr role
  | switchRole bdAddr role => exact controller.handleSwitchRole_handled bdAddr role
  | remoteNameRequest bdAddr => exact handled_of_eq rfl rfl rfl
  | readRemoteSupportedFeatures connectionHandle =>
    exact (controller.handleReadRemote_handled connectionHandle).2.1
  | readRemoteExtendedFeatures connectionHandle pageNumber =>
    exact (controller.handleReadRemote_handled connectionHandle).2.2 pageNumber
  | enhancedSetupSynchronousConnection connectionHandle codingFormat =>
    exact controller.handleSetupSynchronousConnection_handled _ _ _
  | enhancedAcceptSynchronousConnectionRequest bdAddr codingFormat =>
    exact controller.handleAcceptSynchronousConnection_handled _ bdAddr _
  | acceptSynchronousConnectionRequest bdAddr =>
    exact controller.handleAcceptSynchronousConnection_handled _ bdAddr _
  | rejectSynchronousConnectionRequest bdAddr reason =>
    exact controller.handleRejectSynchronousConnection_handled bdAddr reason

/-- **What a call does with handles.**  It gives out the next ones of the counter, as many
as it asks for, and panics only when the counter is at its end. -/
theorem step_handled (call : Call) :
    Handled controller (controller.step call) (controller.requested call) := by
  cases call with
  | command command => exact controller.handleCommand_handled command
  | configure settings reports => exact handled_of_eq rfl rfl rfl
  | setClassicAllowRoleSwitch allow => exact handled_of_eq rfl rfl rfl
  | connectAsCentralTo linkPeerAddress reportedPeerAddress reportedPeerAddressType =>
    exact controller.connectAsCentralTo_handled _ _ _
  | connectAsPeripheralAt selfAddress centralAddress centralAddressType =>
    exact controller.connectAsPeripheralAt_handled _ _ _
  | onLlControlPdu sender pdu => exact controller.onLlControlPdu_handled sender pdu
  | onClassicPdu sender pdu => exact controller.onClassicPdu_handled sender pdu
  | onPeerDisconnect selfAddress peerAddress kind reason =>
    exact controller.onPeerDisconnect_handled _ _ _ _
  | onPeriodicAdvertisingPdu addressType address advertisingSid info =>
    exact controller.tryEstablishBigSync_handled _ _ _ _
  | onBigTerminated broadcaster advertisingSid reason =>
    exact controller.loseBigSyncs_handled _ _
  | drainHostEvents => exact handled_of_eq rfl rfl rfl
  | takeOutbound => exact handled_of_eq rfl rfl rfl

end Calls

end Bumble.Controller
