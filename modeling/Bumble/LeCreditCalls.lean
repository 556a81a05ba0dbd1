import Bumble.LeCreditManager

/-!
# What one call of the LE manager does

Closed forms of the helpers that several calls share (the flush of a channel,
the allocation of CIDs, the channels built from a response), and from them one
inversion lemma, `ManagerOp.effect_apply`: every public call and every PDU
either keeps the maps but for one step of some channels, or reserves CIDs, or
opens channels.  Invariants of the manager are read off the effects and never
unfold a handler again.
-/

namespace Bumble.LeCredit

open Bumble.L2cap (Error L2capPdu ControlFrame l2capLeSignalingCid)

/-! ## 1. Opening a channel -/

namespace LeCreditBasedChannel

/-- The channel that `connected` builds from parameters that pass its checks. -/
def fresh (psm sourceCid destinationCid : UInt16) (spec : LeCreditBasedChannelSpec)
    (peerMtu peerMps credits : UInt16) : LeCreditBasedChannel where
  psm := psm
  sourceCid := sourceCid
  destinationCid := destinationCid
  mtu := spec.mtu
  mps := spec.mps
  credits := credits
  peerMtu := peerMtu
  peerMps := peerMps
  peerCredits := spec.maxCredits
  peerMaxCredits := spec.maxCredits
  attMtu := min spec.mtu peerMtu
  state := .connected
  peerCreditThreshold := spec.maxCredits / 2
  outputStream := []
  outputSdu := []
  outboundPdus := []
  inputSdu := []
  inputSduLength := none
  receivedSdus := []
  pendingCreditGrants := []
  readingPaused := false

end LeCreditBasedChannel

theorem validate_ok {spec valid : LeCreditBasedChannelSpec}
    (hvalidate : spec.validate = .ok valid) :
    valid = spec ∧ spec.maxCredits ≠ 0 ∧ validateMtuMps spec.mtu spec.mps = .ok () := by
  by_cases hcredits : spec.maxCredits = 0
  · simp [LeCreditBasedChannelSpec.validate, hcredits] at hvalidate
  by_cases hmtu : spec.mtu < connectionMinMtu
  · simp [LeCreditBasedChannelSpec.validate, hcredits, hmtu] at hvalidate
  by_cases hmps : mpsInRange spec.mps
  · simp only [LeCreditBasedChannelSpec.validate, hcredits, hmtu, hmps, ite_false,
      not_true_eq_false,
      Except.ok.injEq] at hvalidate
    refine ⟨hvalidate.symm, hcredits, ?_⟩
    simp [validateMtuMps, hmtu, hmps]
  · simp [LeCreditBasedChannelSpec.validate, hcredits, hmtu, hmps] at hvalidate

section Connected

variable {psm sourceCid destinationCid peerMtu peerMps credits : UInt16}
  {spec : LeCreditBasedChannelSpec}

theorem connected_of_valid (hspec : spec.validate = .ok spec)
    (hpeer : validateMtuMps peerMtu peerMps = .ok ()) :
    LeCreditBasedChannel.connected psm sourceCid destinationCid spec peerMtu peerMps credits =
      .ok (.fresh psm sourceCid destinationCid spec peerMtu peerMps credits) := by
  by_cases hmtu : peerMtu < connectionMinMtu
  · simp [validateMtuMps, hmtu] at hpeer
  by_cases hmps : mpsInRange peerMps
  · simp only [LeCreditBasedChannel.connected, hspec, hmtu, hmps]
    rfl
  · simp [validateMtuMps, hmtu, hmps] at hpeer

theorem connected_ok {channel : LeCreditBasedChannel}
    (hconnected : LeCreditBasedChannel.connected psm sourceCid destinationCid spec peerMtu peerMps
      credits = .ok channel) :
    spec.validate = .ok spec ∧ validateMtuMps peerMtu peerMps = .ok () ∧
      channel = .fresh psm sourceCid destinationCid spec peerMtu peerMps credits := by
  cases hspec : spec.validate with
  | error error =>
    rw [LeCreditBasedChannel.connected, hspec] at hconnected
    cases hconnected
  | ok valid =>
    obtain ⟨rfl, -, -⟩ := validate_ok hspec
    by_cases hmtu : peerMtu < connectionMinMtu
    · simp [LeCreditBasedChannel.connected, hspec, hmtu, bind, Except.bind] at hconnected
    by_cases hmps : mpsInRange peerMps
    · have hpeer : validateMtuMps peerMtu peerMps = .ok () := by simp [validateMtuMps, hmtu, hmps]
      rw [connected_of_valid hspec hpeer] at hconnected
      cases hconnected
      exact ⟨rfl, hpeer, rfl⟩
    · simp [LeCreditBasedChannel.connected, hspec, hmtu, hmps, bind, Except.bind] at hconnected

end Connected

namespace LeCreditChannelManager

/-- The channels of an enhanced connection, with the CIDs they are stored under. -/
def freshAll (psm : UInt16) (spec : LeCreditBasedChannelSpec) (peerMtu peerMps credits : UInt16)
    (pairs : List (UInt16 × UInt16)) : List (UInt16 × LeCreditBasedChannel) :=
  pairs.map fun pair => (pair.1, .fresh psm pair.1 pair.2 spec peerMtu peerMps credits)

theorem connectAll_ok {psm peerMtu peerMps credits : UInt16} {spec : LeCreditBasedChannelSpec}
    (pairs : List (UInt16 × UInt16)) : ∀ {channels : List LeCreditBasedChannel},
      connectAll psm spec peerMtu peerMps credits pairs = .ok channels →
      channels = pairs.map fun pair =>
        .fresh psm pair.1 pair.2 spec peerMtu peerMps credits := by
  induction pairs with
  | nil =>
    intro channels hall
    cases hall
    rfl
  | cons pair pairs ih =>
    intro channels hall
    obtain ⟨sourceCid, destinationCid⟩ := pair
    simp only [connectAll] at hall
    cases hconnected : LeCreditBasedChannel.connected psm sourceCid destinationCid spec peerMtu
        peerMps credits with
    | error error =>
      rw [hconnected] at hall
      cases hall
    | ok channel =>
      cases hrest : connectAll psm spec peerMtu peerMps credits pairs with
      | error error =>
        rw [hconnected, hrest] at hall
        cases hall
      | ok rest =>
        rw [hconnected, hrest] at hall
        cases hall
        rw [(connected_ok hconnected).2.2, ih hrest]
        rfl

theorem zip_fresh {psm peerMtu peerMps credits : UInt16} {spec : LeCreditBasedChannelSpec}
    {sourceCids destinationCids : List UInt16}
    (hlength : destinationCids.length = sourceCids.length) :
    sourceCids.zip ((sourceCids.zip destinationCids).map fun pair =>
      LeCreditBasedChannel.fresh psm pair.1 pair.2 spec peerMtu peerMps credits) =
    freshAll psm spec peerMtu peerMps credits (sourceCids.zip destinationCids) := by
  induction sourceCids generalizing destinationCids with
  | nil => rfl
  | cons sourceCid sourceCids ih =>
    cases destinationCids with
    | nil => cases hlength
    | cons destinationCid destinationCids =>
      have hrest := ih (Nat.succ.inj hlength)
      simp only [freshAll, List.zip_cons_cons, List.map_cons] at hrest ⊢
      rw [hrest]

theorem getElem?_insertAll_of_notMem {cid : UInt16}
    (created : List (UInt16 × LeCreditBasedChannel)) (hcid : cid ∉ created.map (·.1)) :
    ∀ (channels : Std.ExtTreeMap UInt16 LeCreditBasedChannel),
      (insertAll channels created)[cid]? = channels[cid]? := by
  induction created with
  | nil =>
    intro channels
    rfl
  | cons entry created ih =>
    intro channels
    obtain ⟨other, channel⟩ := entry
    simp only [List.map_cons, List.mem_cons, not_or] at hcid
    rw [insertAll, ih hcid.2, OrderedMap.getElem?_insert, if_neg (Ne.symm hcid.1)]

theorem mem_of_getElem?_insertAll {cid : UInt16} {channel : LeCreditBasedChannel}
    (created : List (UInt16 × LeCreditBasedChannel)) :
    ∀ (channels : Std.ExtTreeMap UInt16 LeCreditBasedChannel),
      (insertAll channels created)[cid]? = some channel →
      (cid, channel) ∈ created ∨ cid ∉ created.map (·.1) ∧ channels[cid]? = some channel := by
  induction created with
  | nil =>
    intro channels hget
    exact .inr ⟨by simp, hget⟩
  | cons entry created ih =>
    intro channels hget
    obtain ⟨other, otherChannel⟩ := entry
    rcases ih (channels.insert other otherChannel) hget with hmem | ⟨hcid, hget⟩
    · exact .inl (List.mem_cons_of_mem _ hmem)
    · rw [OrderedMap.getElem?_insert] at hget
      by_cases heq : other = cid
      · rw [if_pos heq] at hget
        cases hget
        exact .inl (by rw [heq]; exact List.mem_cons_self)
      · rw [if_neg heq] at hget
        refine .inr ⟨?_, hget⟩
        simp only [List.map_cons, List.mem_cons, not_or]
        exact ⟨Ne.symm heq, hcid⟩

/-! ## 2. Allocation -/

theorem allocateCid_ok {manager : LeCreditChannelManager} {cid : UInt16}
    (hallocate : manager.allocateCid = .ok cid) : manager.cidIsReserved cid = false := by
  simp only [allocateCid] at hallocate
  cases hfind : (wordRange dynamicCidRangeStart dynamicCidRangeEnd).find?
      (fun cid => !manager.cidIsReserved cid) with
  | none =>
    rw [hfind] at hallocate
    cases hallocate
  | some found =>
    rw [hfind] at hallocate
    cases hallocate
    simpa using List.find?_some (p := fun cid => !manager.cidIsReserved cid) hfind

theorem nodup_wordRange : (wordRange dynamicCidRangeStart dynamicCidRangeEnd).Nodup := by decide

theorem allocateCids_ok {manager : LeCreditChannelManager} {count : Nat} {cids : List UInt16}
    (hallocate : manager.allocateCids count = .ok cids) :
    cids.length = count ∧ cids.Nodup ∧ ∀ cid ∈ cids, manager.cidIsReserved cid = false := by
  simp only [allocateCids] at hallocate
  by_cases hlength : (((wordRange dynamicCidRangeStart dynamicCidRangeEnd).filter
      (fun cid => !manager.cidIsReserved cid)).take count).length = count
  · rw [if_neg (not_not_intro hlength)] at hallocate
    cases hallocate
    refine ⟨hlength, ?_, ?_⟩
    · exact (nodup_wordRange.filter _).sublist (List.take_sublist _ _)
    · intro cid hmem
      simpa using (List.mem_filter.mp (List.mem_of_mem_take hmem)).2
  · rw [if_pos hlength] at hallocate
    cases hallocate

theorem not_reserved_iff {manager : LeCreditChannelManager} {cid : UInt16} :
    manager.cidIsReserved cid = false ↔
      manager.channels[cid]? = none ∧
      (∀ (identifier : UInt8) (pending : PendingConnection),
        manager.pending[identifier]? = some pending → pending.sourceCid ≠ cid) ∧
      (∀ (identifier : UInt8) (pending : PendingEnhancedConnection),
        manager.pendingEnhanced[identifier]? = some pending → cid ∉ pending.sourceCids) := by
  rw [← Bool.not_eq_true]
  simp only [cidIsReserved, Bool.or_eq_true, OrderedMap.contains_iff, OrderedMap.anyValue_iff,
    decide_eq_true_eq, List.contains_iff_mem, not_or, not_exists, not_and, and_assoc]
  refine and_congr_left fun _ => ?_
  rw [Option.eq_none_iff_forall_ne_some]

theorem destinationInUse_iff {manager : LeCreditChannelManager} {cid : UInt16} :
    manager.destinationInUse cid = true ↔
      ∃ (sourceCid : UInt16) (channel : LeCreditBasedChannel),
        manager.channels[sourceCid]? = some channel ∧ channel.destinationCid = cid := by
  simp only [destinationInUse, OrderedMap.anyValue_iff, decide_eq_true_eq]

/-! ## 3. Calls on one channel -/

/-- The frames in which `queue_grants` announces credits after `identifier`. -/
def announcements (cid : UInt16) : UInt8 → List UInt16 → List L2capPdu
  | _, [] => []
  | identifier, credits :: grants =>
    ⟨l2capLeSignalingCid,
      (ControlFrame.leFlowControlCredit (identifierAfter identifier) cid credits).toBytes⟩ ::
      announcements cid (identifierAfter identifier) grants

theorem queueGrants_eq (cid : UInt16) (grants : List UInt16) :
    ∀ (manager : LeCreditChannelManager), manager.queueGrants cid grants =
      { manager with
        identifier := identifierAfter^[grants.length] manager.identifier
        outbound := manager.outbound ++ announcements cid manager.identifier grants } := by
  induction grants with
  | nil =>
    intro manager
    simp [queueGrants, announcements]
  | cons credits grants ih =>
    intro manager
    simp only [queueGrants, nextIdentifier]
    rw [ih]
    simp [queueControl, announcements]

/-- The channel a call leaves: drained when the call returned normally. -/
def flushed (call : ChannelCall Unit) : LeCreditBasedChannel :=
  match call.result with
  | .ok () => { call.state with outboundPdus := [], pendingCreditGrants := [] }
  | .error _ => call.state

/-- A channel's method and the flush after it, as `send`, `set_reading_paused`,
    the credit frame and a data PDU have it. -/
def callChannel (manager : LeCreditChannelManager) (sourceCid : UInt16)
    (method : LeCreditBasedChannel → ChannelCall Unit) : ManagerCall Unit :=
  (manager.withChannel sourceCid method).andThen fun manager _ => manager.flushChannel sourceCid

section CallChannel

variable {manager : LeCreditChannelManager} {sourceCid : UInt16} {channel : LeCreditBasedChannel}
  {method : LeCreditBasedChannel → ChannelCall Unit}

theorem callChannel_absent (hget : manager.channels[sourceCid]? = none) :
    manager.callChannel sourceCid method = .fail manager (unknownCid sourceCid) := by
  simp only [callChannel, withChannel, hget, Outcome.fail_andThen]

theorem callChannel_refused {error : Error} (hget : manager.channels[sourceCid]? = some channel)
    (hresult : (method channel).result = .error error) :
    manager.callChannel sourceCid method =
      .fail { manager with
        channels := manager.channels.insert sourceCid (flushed (method channel)) } error := by
  simp only [callChannel, withChannel, hget, Outcome.andThen, hresult, flushed]

theorem callChannel_done (hget : manager.channels[sourceCid]? = some channel)
    (hresult : (method channel).result = .ok ()) :
    manager.callChannel sourceCid method =
      .ok { manager with
        channels := manager.channels.insert sourceCid (flushed (method channel))
        identifier :=
          identifierAfter^[(method channel).state.pendingCreditGrants.length] manager.identifier
        outbound := manager.outbound ++
          (method channel).state.outboundPdus.map
            (L2capPdu.mk (method channel).state.destinationCid) ++
          announcements (method channel).state.sourceCid manager.identifier
            (method channel).state.pendingCreditGrants } () := by
  simp only [callChannel, withChannel, hget, Outcome.andThen, hresult, flushChannel,
    OrderedMap.getElem?_insert, if_true, queueGrants_eq, OrderedMap.insert_insert, flushed]

end CallChannel

end LeCreditChannelManager

/-! ## 4. Effects -/

open LeCreditChannelManager

/-- What a signaling frame does to the channels it finds. -/
def frameStep (frame : ControlFrame) (channel next : LeCreditBasedChannel) : Prop :=
  match frame with
  | .leFlowControlCredit _ _ credits => next = flushed (channel.addCredits credits)
  | .creditBasedReconfigureRequest _ mtu mps _ => next = channel.reconfigurePeer mtu mps
  | .creditBasedReconfigureResponse .. => ∃ mtu mps, next = channel.reconfigureLocal mtu mps
  | _ => False

/-- What a call does to the channel stored under `cid`, when it changes it. -/
def ManagerOp.ChannelStep (op : ManagerOp) (cid : UInt16)
    (channel next : LeCreditBasedChannel) : Prop :=
  match op with
  | .channelMut sourceCid op => cid = sourceCid ∧ next = op.apply channel
  | .send _ data => next = flushed (channel.write data)
  | .setReadingPaused _ paused =>
    next = flushed (if paused then channel.pauseReading else channel.resumeReading)
  | .disconnect _ => next = channel.beginDisconnect
  | .processPdu pdu =>
    if pdu.cid = l2capLeSignalingCid then
      ∃ frame, ControlFrame.fromBytes pdu.payload = .ok frame ∧ frameStep frame channel next
    else cid = pdu.cid ∧ next = flushed (channel.receivePdu pdu.payload)
  | _ => False

/-- The identifier and the destination CID of a response that can open a
    channel: successful, with a nonzero CID and parameters in range. -/
def ManagerOp.openedDestination : ManagerOp → Option (UInt8 × UInt16)
  | .processPdu pdu =>
    if pdu.cid = l2capLeSignalingCid then
      match ControlFrame.fromBytes pdu.payload with
      | .ok (.leCreditBasedConnectionResponse identifier destinationCid mtu mps _ result) =>
        if result = leConnectionSuccessful ∧ destinationCid ≠ 0 ∧
            (validateMtuMps mtu mps).isOk then
          some (identifier, destinationCid)
        else none
      | _ => none
    else none
  | _ => none

/-- Every channel of `next` was there before, unchanged or after one step. -/
def Kept (step : UInt16 → LeCreditBasedChannel → LeCreditBasedChannel → Prop)
    (channels next : Std.ExtTreeMap UInt16 LeCreditBasedChannel) : Prop :=
  ∀ (cid : UInt16) (channel' : LeCreditBasedChannel), next[cid]? = some channel' →
    ∃ channel, channels[cid]? = some channel ∧ (channel' = channel ∨ step cid channel channel')

/-- Channels as a connection opens them, with the CIDs they are stored under. -/
structure Opens (created : List (UInt16 × LeCreditBasedChannel)) : Prop where
  own : ∀ entry ∈ created, entry.2.sourceCid = entry.1
  silent : ∀ entry ∈ created, entry.2.pendingCreditGrants = []
  apart : (created.map fun entry => entry.2.destinationCid).Nodup

/-- What a call can do to the channels and to the requests for channels. -/
inductive Effect (op : ManagerOp) (manager next : LeCreditChannelManager) : Prop
  | kept (hchannels : Kept op.ChannelStep manager.channels next.channels)
      (hpending : next.pending = manager.pending)
      (henhanced : next.pendingEnhanced = manager.pendingEnhanced)
  | requested (identifier : UInt8) (request : PendingConnection)
      (hfree : manager.cidIsReserved request.sourceCid = false)
      (hchannels : next.channels = manager.channels)
      (hpending : next.pending = manager.pending.insert identifier request)
      (henhanced : next.pendingEnhanced = manager.pendingEnhanced)
  | requestedAll (identifier : UInt8) (request : PendingEnhancedConnection)
      (hnodup : request.sourceCids.Nodup)
      (hfree : ∀ cid ∈ request.sourceCids, manager.cidIsReserved cid = false)
      (hchannels : next.channels = manager.channels)
      (hpending : next.pending = manager.pending)
      (henhanced : next.pendingEnhanced = manager.pendingEnhanced.insert identifier request)
  | accepted (created : List (UInt16 × LeCreditBasedChannel)) (hopens : Opens created)
      (hnodup : (created.map (·.1)).Nodup)
      (hfree : ∀ entry ∈ created, manager.cidIsReserved entry.1 = false)
      (hunused : ∀ entry ∈ created, manager.destinationInUse entry.2.destinationCid = false)
      (hchannels : next.channels = insertAll manager.channels created)
      (hpending : next.pending = manager.pending)
      (henhanced : next.pendingEnhanced = manager.pendingEnhanced)
  | answered (identifier : UInt8) (request : PendingConnection)
      (created : List (UInt16 × LeCreditBasedChannel)) (hopens : Opens created)
      (hrequest : manager.pending[identifier]? = some request)
      (hcreated : created = [] ∨ ∃ channel, created = [(request.sourceCid, channel)] ∧
        op.openedDestination = some (identifier, channel.destinationCid))
      (hchannels : next.channels = insertAll manager.channels created)
      (hpending : next.pending = manager.pending.erase identifier)
      (henhanced : next.pendingEnhanced = manager.pendingEnhanced)
  | answeredAll (identifier : UInt8) (request : PendingEnhancedConnection)
      (created : List (UInt16 × LeCreditBasedChannel)) (hopens : Opens created)
      (hrequest : manager.pendingEnhanced[identifier]? = some request)
      (hcreated : created = [] ∨ created.map (·.1) = request.sourceCids)
      (hunused : ∀ entry ∈ created, manager.destinationInUse entry.2.destinationCid = false)
      (hchannels : next.channels = insertAll manager.channels created)
      (hpending : next.pending = manager.pending)
      (henhanced : next.pendingEnhanced = manager.pendingEnhanced.erase identifier)

theorem Kept.refl (step : UInt16 → LeCreditBasedChannel → LeCreditBasedChannel → Prop)
    (channels : Std.ExtTreeMap UInt16 LeCreditBasedChannel) : Kept step channels channels := by
  intro cid channel hget
  exact ⟨channel, hget, .inl rfl⟩

theorem Kept.insert {step : UInt16 → LeCreditBasedChannel → LeCreditBasedChannel → Prop}
    {channels : Std.ExtTreeMap UInt16 LeCreditBasedChannel} {cid : UInt16}
    {channel next : LeCreditBasedChannel} (hget : channels[cid]? = some channel)
    (hstep : step cid channel next) : Kept step channels (channels.insert cid next) := by
  intro other channel' hother
  rw [OrderedMap.getElem?_insert] at hother
  by_cases heq : cid = other
  · subst heq
    rw [if_pos rfl] at hother
    cases hother
    exact ⟨channel, hget, .inr hstep⟩
  · rw [if_neg heq] at hother
    exact ⟨channel', hother, .inl rfl⟩

theorem Kept.erase (step : UInt16 → LeCreditBasedChannel → LeCreditBasedChannel → Prop)
    (channels : Std.ExtTreeMap UInt16 LeCreditBasedChannel) (cid : UInt16) :
    Kept step channels (channels.erase cid) := by
  intro other channel hother
  rw [OrderedMap.getElem?_erase] at hother
  by_cases heq : cid = other
  · rw [if_pos heq] at hother
    cases hother
  · rw [if_neg heq] at hother
    exact ⟨channel, hother, .inl rfl⟩

theorem Opens.nil : Opens [] := ⟨by simp, by simp, by simp⟩

theorem opens_freshAll (psm : UInt16) (spec : LeCreditBasedChannelSpec)
    (peerMtu peerMps credits : UInt16) (pairs : List (UInt16 × UInt16))
    (hnodup : (pairs.map (·.2)).Nodup) :
    Opens (freshAll psm spec peerMtu peerMps credits pairs) where
  own := by
    intro entry hentry
    obtain ⟨pair, -, rfl⟩ := List.mem_map.mp hentry
    rfl
  silent := by
    intro entry hentry
    obtain ⟨pair, -, rfl⟩ := List.mem_map.mp hentry
    rfl
  apart := by
    rw [freshAll, List.map_map]
    exact hnodup

section Effects

variable {op : ManagerOp} {manager next : LeCreditChannelManager}

theorem Effect.same (hchannels : next.channels = manager.channels)
    (hpending : next.pending = manager.pending)
    (henhanced : next.pendingEnhanced = manager.pendingEnhanced) : Effect op manager next :=
  .kept (by rw [hchannels]; exact Kept.refl _ _) hpending henhanced

theorem effect_callChannel {sourceCid : UInt16} {method : LeCreditBasedChannel → ChannelCall Unit}
    (hstep : ∀ channel, manager.channels[sourceCid]? = some channel →
      op.ChannelStep sourceCid channel (flushed (method channel))) :
    Effect op manager (manager.callChannel sourceCid method).state := by
  cases hget : manager.channels[sourceCid]? with
  | none =>
    rw [callChannel_absent hget]
    exact .same rfl rfl rfl
  | some channel =>
    cases hresult : (method channel).result with
    | error error =>
      rw [callChannel_refused hget hresult]
      exact .kept (Kept.insert hget (hstep channel hget)) rfl rfl
    | ok value =>
      rw [callChannel_done hget hresult]
      exact .kept (Kept.insert hget (hstep channel hget)) rfl rfl

theorem effect_connect (psm : UInt16) (spec : LeCreditBasedChannelSpec) :
    Effect op manager (manager.connect psm spec).state := by
  simp only [connect]
  split
  · exact .same rfl rfl rfl
  cases spec.validate with
  | error error => exact .same rfl rfl rfl
  | ok valid =>
    cases hallocate : manager.allocateCid with
    | error error => exact .same rfl rfl rfl
    | ok sourceCid =>
      exact .requested _ _ (allocateCid_ok hallocate) rfl rfl rfl

theorem effect_connectEnhanced (psm : UInt16) (spec : LeCreditBasedChannelSpec) (count : Nat) :
    Effect op manager (manager.connectEnhanced psm spec count).state := by
  simp only [connectEnhanced]
  split
  · exact .same rfl rfl rfl
  split
  · exact .same rfl rfl rfl
  cases spec.validate with
  | error error => exact .same rfl rfl rfl
  | ok valid =>
    cases hallocate : manager.allocateCids count with
    | error error => exact .same rfl rfl rfl
    | ok sourceCids =>
      obtain ⟨-, hnodup, hfree⟩ := allocateCids_ok hallocate
      exact .requestedAll _ _ hnodup hfree rfl rfl rfl

theorem effect_reconfigure (sourceCids : List UInt16) (mtu mps : UInt16) :
    Effect op manager (manager.reconfigure sourceCids mtu mps).state := by
  simp only [reconfigure]
  split
  · exact .same rfl rfl rfl
  cases validateMtuMps mtu mps with
  | error error => exact .same rfl rfl rfl
  | ok value =>
    dsimp only
    split
    · exact .same rfl rfl rfl
    cases manager.reconfigureDestinations sourceCids.length mtu mps sourceCids with
    | error error => exact .same rfl rfl rfl
    | ok destinationCids => exact .same rfl rfl rfl

theorem effect_registerServer (spec : LeCreditBasedChannelSpec) :
    Effect op manager (manager.registerServer spec).state := by
  simp only [registerServer]
  split
  · exact .same rfl rfl rfl
  split
  · exact .same rfl rfl rfl
  split <;> exact .same rfl rfl rfl

theorem effect_disconnect (sourceCid : UInt16) :
    Effect (.disconnect sourceCid) manager (manager.disconnect sourceCid).state := by
  simp only [disconnect]
  cases hget : manager.channels[sourceCid]? with
  | none => exact .same rfl rfl rfl
  | some channel =>
    dsimp only
    cases channel.ensureConnected with
    | error error => exact .same rfl rfl rfl
    | ok value => exact .kept (Kept.insert hget rfl) rfl rfl

theorem effect_abort (sourceCid : UInt16) : Effect op manager (manager.abort sourceCid).2 := by
  simp only [abort]
  cases manager.channels[sourceCid]? with
  | none => exact .same rfl rfl rfl
  | some channel =>
    dsimp only
    split
    · exact .kept (Kept.erase _ _ _) rfl rfl
    · exact .same rfl rfl rfl

theorem effect_channelMut (sourceCid : UInt16) (call : ChannelOp) :
    Effect (.channelMut sourceCid call) manager
      { manager with channels := manager.channels.modify sourceCid call.apply } := by
  refine .kept ?_ rfl rfl
  intro cid channel' hget
  rw [OrderedMap.getElem?_modify] at hget
  by_cases heq : sourceCid = cid
  · rw [if_pos heq] at hget
    obtain ⟨channel, hchannel, rfl⟩ := Option.map_eq_some_iff.mp hget
    exact ⟨channel, hchannel, .inr ⟨heq.symm, rfl⟩⟩
  · rw [if_neg heq] at hget
    exact ⟨channel', hget, .inl rfl⟩

/-! ### Signaling -/

theorem effect_onConnectionRequest (identifier : UInt8)
    (psm remoteCid peerMtu peerMps credits : UInt16) :
    Effect op manager
      (manager.onConnectionRequest identifier psm remoteCid peerMtu peerMps credits).state := by
  simp only [onConnectionRequest]
  cases manager.servers[psm]? with
  | none => exact .same rfl rfl rfl
  | some spec =>
    dsimp only
    by_cases hused : manager.destinationInUse remoteCid
    · rw [if_pos hused]
      exact .same rfl rfl rfl
    rw [if_neg hused]
    split
    · exact .same rfl rfl rfl
    cases hallocate : manager.allocateCid with
    | error error => exact .same rfl rfl rfl
    | ok localCid =>
      dsimp only
      cases hconnected : LeCreditBasedChannel.connected psm localCid remoteCid spec peerMtu peerMps
          credits with
      | error error => exact .same rfl rfl rfl
      | ok channel =>
        obtain ⟨-, -, rfl⟩ := connected_ok hconnected
        have hopens := opens_freshAll psm spec peerMtu peerMps credits [(localCid, remoteCid)]
          (List.nodup_singleton remoteCid)
        refine .accepted _ hopens (List.nodup_singleton localCid) ?_ ?_ rfl rfl rfl
        · simpa [freshAll] using allocateCid_ok hallocate
        · simpa [freshAll, LeCreditBasedChannel.fresh] using hused

theorem effect_onConnectionResponse {pdu : L2capPdu} (hcid : pdu.cid = l2capLeSignalingCid)
    {identifier : UInt8} {destinationCid peerMtu peerMps credits result : UInt16}
    (hframe : ControlFrame.fromBytes pdu.payload =
      .ok (.leCreditBasedConnectionResponse identifier destinationCid peerMtu peerMps credits
        result)) :
    Effect (.processPdu pdu) manager
      (manager.onConnectionResponse identifier destinationCid peerMtu peerMps credits
        result).state := by
  simp only [onConnectionResponse]
  cases hrequest : manager.pending[identifier]? with
  | none => exact .same rfl rfl rfl
  | some request =>
    dsimp only
    by_cases hresult : result = leConnectionSuccessful
    · rw [if_neg (not_not_intro hresult)]
      by_cases hzero : destinationCid = 0
      · rw [if_pos hzero]
        exact .answered identifier request [] .nil hrequest (.inl rfl) rfl rfl rfl
      rw [if_neg hzero]
      cases hconnected : LeCreditBasedChannel.connected request.psm request.sourceCid destinationCid
          request.spec peerMtu peerMps credits with
      | error error => exact .answered identifier request [] .nil hrequest (.inl rfl) rfl rfl rfl
      | ok channel =>
        obtain ⟨-, hpeer, rfl⟩ := connected_ok hconnected
        have hopens := opens_freshAll request.psm request.spec peerMtu peerMps credits
          [(request.sourceCid, destinationCid)] (List.nodup_singleton destinationCid)
        refine .answered identifier request _ hopens hrequest (.inr ⟨_, rfl, ?_⟩) rfl rfl rfl
        simp only [ManagerOp.openedDestination, hcid, hframe, hresult, hpeer, if_true]
        exact if_pos ⟨trivial, hzero, rfl⟩
    · rw [if_pos hresult]
      exact .answered identifier request [] .nil hrequest (.inl rfl) rfl rfl rfl

/-- What an enhanced request does to the channels. -/
theorem effect_onEnhancedConnectionRequest (identifier : UInt8)
    (psm peerMtu peerMps credits : UInt16) (remoteCids : List UInt16) :
    Effect op manager
      (manager.onEnhancedConnectionRequest identifier psm peerMtu peerMps credits
        remoteCids).state := by
  simp only [onEnhancedConnectionRequest]
  cases manager.servers[psm]? with
  | none => exact .same rfl rfl rfl
  | some spec =>
    dsimp only
    split
    · exact .same rfl rfl rfl
    by_cases hinvalid : hasDuplicates remoteCids ∨ remoteCids.any (fun cid => !cidInRange cid)
    · rw [if_pos hinvalid]
      exact .same rfl rfl rfl
    rw [if_neg hinvalid]
    by_cases hused : remoteCids.any manager.destinationInUse
    · rw [if_pos hused]
      exact .same rfl rfl rfl
    rw [if_neg hused]
    cases validateMtuMps peerMtu peerMps with
    | error error => exact .same rfl rfl rfl
    | ok value =>
      dsimp only
      cases hallocate : manager.allocateCids remoteCids.length with
      | error error => exact .same rfl rfl rfl
      | ok localCids =>
        dsimp only
        cases hall : connectAll psm spec peerMtu peerMps credits (localCids.zip remoteCids) with
        | error error => exact .same rfl rfl rfl
        | ok channels =>
          obtain ⟨hlength, hnodup, hfree⟩ := allocateCids_ok hallocate
          have hremote : remoteCids.Nodup := by
            simpa [hasDuplicates] using fun hdup => hinvalid (.inl hdup)
          have hcreated : localCids.zip channels =
              freshAll psm spec peerMtu peerMps credits (localCids.zip remoteCids) := by
            rw [connectAll_ok _ hall, zip_fresh hlength.symm]
          have hsources : (freshAll psm spec peerMtu peerMps credits
              (localCids.zip remoteCids)).map (·.1) = localCids := by
            rw [freshAll, List.map_map]
            exact List.map_fst_zip hlength.le
          have hpairs : ((localCids.zip remoteCids).map (·.2)) = remoteCids :=
            List.map_snd_zip hlength.ge
          refine .accepted (freshAll psm spec peerMtu peerMps credits (localCids.zip remoteCids))
            (opens_freshAll _ _ _ _ _ _ (by rw [hpairs]; exact hremote))
            (by rw [hsources]; exact hnodup)
            ?_ ?_ (by rw [← hcreated]; rfl) rfl rfl
          · intro entry hentry
            apply hfree
            rw [← hsources]
            exact List.mem_map_of_mem hentry
          · intro entry hentry
            obtain ⟨pair, hpair, rfl⟩ := List.mem_map.mp hentry
            have hmem : pair.2 ∈ remoteCids := (List.of_mem_zip hpair).2
            apply Bool.eq_false_of_not_eq_true
            intro hin
            exact hused (List.any_eq_true.mpr ⟨pair.2, hmem, hin⟩)

/-- What an enhanced response does to the channels and to the request it answers. -/
theorem effect_onEnhancedConnectionResponse (identifier : UInt8)
    (peerMtu peerMps credits result : UInt16) (destinationCids : List UInt16) :
    Effect op manager
      (manager.onEnhancedConnectionResponse identifier peerMtu peerMps credits result
        destinationCids).state := by
  simp only [onEnhancedConnectionResponse]
  cases hrequest : manager.pendingEnhanced[identifier]? with
  | none => exact .same rfl rfl rfl
  | some request =>
    have hdropped : ∀ {next : LeCreditChannelManager}, next.channels = manager.channels →
        next.pending = manager.pending →
        next.pendingEnhanced = manager.pendingEnhanced.erase identifier →
        Effect op manager next := fun hchannels hpending henhanced =>
      .answeredAll identifier request [] .nil hrequest (.inl rfl) (by simp) hchannels hpending
        henhanced
    dsimp only
    split
    · exact hdropped rfl rfl rfl
    by_cases hlength : destinationCids.length ≠ request.sourceCids.length
    · rw [if_pos hlength]
      exact hdropped rfl rfl rfl
    rw [if_neg hlength]
    cases validateMtuMps peerMtu peerMps with
    | error error => exact hdropped rfl rfl rfl
    | ok value =>
      dsimp only
      split
      · exact hdropped rfl rfl rfl
      next hvalid =>
      cases hall : connectAll request.psm request.spec peerMtu peerMps credits
          (request.sourceCids.zip destinationCids) with
      | error error => exact hdropped rfl rfl rfl
      | ok channels =>
        have hlength : destinationCids.length = request.sourceCids.length := not_not.mp hlength
        have hdestinations : destinationCids.Nodup := by
          simpa [hasDuplicates] using fun hdup => hvalid (.inl hdup)
        have hcreated : request.sourceCids.zip channels =
            freshAll request.psm request.spec peerMtu peerMps credits
              (request.sourceCids.zip destinationCids) := by
          rw [connectAll_ok _ hall, zip_fresh hlength]
        refine .answeredAll identifier request
          (freshAll request.psm request.spec peerMtu peerMps credits
            (request.sourceCids.zip destinationCids))
          (opens_freshAll _ _ _ _ _ _ ?_) hrequest (.inr ?_) ?_ (by rw [← hcreated]; rfl) rfl rfl
        · rw [show (request.sourceCids.zip destinationCids).map (·.2) = destinationCids from
            List.map_snd_zip hlength.le]
          exact hdestinations
        · rw [freshAll, List.map_map]
          exact List.map_fst_zip hlength.ge
        · intro entry hentry
          obtain ⟨pair, hpair, rfl⟩ := List.mem_map.mp hentry
          have hmem : pair.2 ∈ destinationCids := (List.of_mem_zip hpair).2
          have hunused : ¬ (!cidInRange pair.2 || manager.destinationInUse pair.2) = true :=
            fun hin => hvalid (.inr (List.any_eq_true.mpr ⟨pair.2, hmem, hin⟩))
          rw [Bool.or_eq_true, not_or] at hunused
          exact Bool.eq_false_of_not_eq_true hunused.2

/-! ### Reconfiguration, disconnection, credits -/

theorem getElem?_modifyAll (method : LeCreditBasedChannel → LeCreditBasedChannel)
    (cids : List UInt16) (hnodup : cids.Nodup) (cid : UInt16) :
    ∀ (channels : Std.ExtTreeMap UInt16 LeCreditBasedChannel),
      (modifyAll channels method cids)[cid]? =
        if cid ∈ cids then channels[cid]?.map method else channels[cid]? := by
  induction cids with
  | nil =>
    intro channels
    simp [modifyAll]
  | cons first cids ih =>
    intro channels
    rw [List.nodup_cons] at hnodup
    rw [modifyAll, ih hnodup.2, OrderedMap.getElem?_modify]
    by_cases heq : first = cid
    · subst heq
      simp [hnodup.1]
    · simp [heq, Ne.symm heq]

theorem effect_onReconfigureRequest {pdu : L2capPdu} (hcid : pdu.cid = l2capLeSignalingCid)
    {identifier : UInt8} {mtu mps : UInt16} {destinationCids : List UInt16}
    (hframe : ControlFrame.fromBytes pdu.payload =
      .ok (.creditBasedReconfigureRequest identifier mtu mps destinationCids)) :
    Effect (.processPdu pdu) manager
      (manager.onReconfigureRequest identifier mtu mps destinationCids).state := by
  simp only [onReconfigureRequest]
  by_cases hresult :
      manager.reconfigureResult mtu mps destinationCids = creditBasedReconfigurationSuccessful
  · rw [if_pos hresult]
    refine .kept ?_ rfl rfl
    intro cid channel' hget
    have hnodup : destinationCids.Nodup := by
      by_contra hdup
      have hinvalid : hasDuplicates destinationCids = true := by simp [hasDuplicates, hdup]
      simp [reconfigureResult, hinvalid, creditBasedReconfigurationFailedInvalidCids,
        creditBasedReconfigurationSuccessful] at hresult
    change (modifyAll manager.channels _ destinationCids)[cid]? = _ at hget
    rw [getElem?_modifyAll _ _ hnodup] at hget
    by_cases hmem : cid ∈ destinationCids
    · rw [if_pos hmem] at hget
      obtain ⟨channel, hchannel, rfl⟩ := Option.map_eq_some_iff.mp hget
      refine ⟨channel, hchannel, .inr ?_⟩
      simp only [ManagerOp.ChannelStep, if_pos hcid]
      exact ⟨_, hframe, rfl⟩
    · rw [if_neg hmem] at hget
      exact ⟨channel', hget, .inl rfl⟩
  · rw [if_neg hresult]
    exact .same rfl rfl rfl

/-- Reconfiguring again with the same values changes nothing, so the loop takes
    every channel at most one step. -/
theorem kept_reconfigureLocals (mtu mps : UInt16) (cids : List UInt16) :
    ∀ (manager : LeCreditChannelManager),
      Kept (fun _ channel next => next = channel.reconfigureLocal mtu mps) manager.channels
        (manager.reconfigureLocals mtu mps cids).state.channels ∧
      (manager.reconfigureLocals mtu mps cids).state.pending = manager.pending ∧
      (manager.reconfigureLocals mtu mps cids).state.pendingEnhanced =
        manager.pendingEnhanced := by
  induction cids with
  | nil =>
    intro manager
    exact ⟨Kept.refl _ _, rfl, rfl⟩
  | cons first cids ih =>
    intro manager
    simp only [reconfigureLocals]
    cases hget : manager.channels[first]? with
    | none => exact ⟨Kept.refl _ _, rfl, rfl⟩
    | some channel =>
      dsimp only
      obtain ⟨hkept, hpending, henhanced⟩ := ih { manager with
        channels := manager.channels.insert first (channel.reconfigureLocal mtu mps) }
      refine ⟨?_, hpending, henhanced⟩
      intro cid last hlast
      obtain ⟨middle, hmiddle, hsecond⟩ := hkept cid last hlast
      have hinsert : Kept (fun _ channel next => next = channel.reconfigureLocal mtu mps)
          manager.channels (manager.channels.insert first (channel.reconfigureLocal mtu mps)) :=
        Kept.insert hget rfl
      obtain ⟨start, hstart, hfirst⟩ := hinsert cid middle hmiddle
      refine ⟨start, hstart, ?_⟩
      rcases hfirst with rfl | rfl
      · exact hsecond
      · rcases hsecond with rfl | rfl
        · exact .inr rfl
        · exact .inr rfl

theorem effect_onReconfigureResponse {pdu : L2capPdu} (hcid : pdu.cid = l2capLeSignalingCid)
    {identifier : UInt8} {result : UInt16}
    (hframe : ControlFrame.fromBytes pdu.payload =
      .ok (.creditBasedReconfigureResponse identifier result)) :
    Effect (.processPdu pdu) manager (manager.onReconfigureResponse identifier result).state := by
  simp only [onReconfigureResponse]
  cases manager.pendingReconfigurations[identifier]? with
  | none => exact .same rfl rfl rfl
  | some request =>
    dsimp only
    split
    · obtain ⟨hkept, hpending, henhanced⟩ :=
        kept_reconfigureLocals request.mtu request.mps request.sourceCids { manager with
          pendingReconfigurations := manager.pendingReconfigurations.erase identifier
          reconfigurationResults := manager.reconfigurationResults.insert identifier result }
      refine .kept ?_ hpending henhanced
      intro cid channel' hget
      obtain ⟨channel, hchannel, hstep⟩ := hkept cid channel' hget
      refine ⟨channel, hchannel, hstep.imp_right ?_⟩
      intro hlocal
      simp only [ManagerOp.ChannelStep, if_pos hcid]
      exact ⟨_, hframe, request.mtu, request.mps, hlocal⟩
    · exact .same rfl rfl rfl

theorem effect_onDisconnectionRequest (identifier : UInt8) (destinationCid sourceCid : UInt16) :
    Effect op manager
      (manager.onDisconnectionRequest identifier destinationCid sourceCid).state := by
  simp only [onDisconnectionRequest]
  split
  · exact .same rfl rfl rfl
  split
  · exact .same rfl rfl rfl
  · exact .kept (Kept.erase _ _ _) rfl rfl

theorem effect_onDisconnectionResponse (destinationCid sourceCid : UInt16) :
    Effect op manager (manager.onDisconnectionResponse destinationCid sourceCid).state := by
  simp only [onDisconnectionResponse]
  split
  · exact .same rfl rfl rfl
  split
  · exact .same rfl rfl rfl
  · exact .kept (Kept.erase _ _ _) rfl rfl

theorem effect_onFlowControlCredit {pdu : L2capPdu} (hcid : pdu.cid = l2capLeSignalingCid)
    {identifier : UInt8} {cid credits : UInt16}
    (hframe : ControlFrame.fromBytes pdu.payload =
      .ok (.leFlowControlCredit identifier cid credits)) :
    Effect (.processPdu pdu) manager (manager.onFlowControlCredit cid credits).state := by
  simp only [onFlowControlCredit]
  cases manager.findByDestination cid with
  | none => exact .same rfl rfl rfl
  | some sourceCid =>
    apply effect_callChannel
    intro channel _
    simp only [ManagerOp.ChannelStep, if_pos hcid]
    exact ⟨_, hframe, rfl⟩

theorem effect_processPdu (pdu : L2capPdu) :
    Effect (.processPdu pdu) manager (manager.processPdu pdu).state := by
  simp only [processPdu]
  by_cases hcid : pdu.cid = l2capLeSignalingCid
  · rw [if_pos hcid]
    cases hframe : ControlFrame.fromBytes pdu.payload with
    | error error => exact .same rfl rfl rfl
    | ok frame =>
      cases frame with
      | leCreditBasedConnectionRequest => exact effect_onConnectionRequest ..
      | leCreditBasedConnectionResponse => exact effect_onConnectionResponse hcid hframe
      | creditBasedConnectionRequest => exact effect_onEnhancedConnectionRequest ..
      | creditBasedConnectionResponse => exact effect_onEnhancedConnectionResponse ..
      | creditBasedReconfigureRequest => exact effect_onReconfigureRequest hcid hframe
      | creditBasedReconfigureResponse => exact effect_onReconfigureResponse hcid hframe
      | leFlowControlCredit => exact effect_onFlowControlCredit hcid hframe
      | disconnectionRequest => exact effect_onDisconnectionRequest ..
      | disconnectionResponse => exact effect_onDisconnectionResponse ..
      | _ => exact .same rfl rfl rfl
  · rw [if_neg hcid]
    apply effect_callChannel
    intro channel _
    simp only [ManagerOp.ChannelStep, if_neg hcid]
    exact ⟨trivial, trivial⟩

end Effects

/-- **What a call can do.**  Every public call and every PDU, from any state. -/
theorem ManagerOp.effect_apply (op : ManagerOp) (manager : LeCreditChannelManager) :
    Effect op manager (op.apply manager) := by
  cases op with
  | registerServer spec => exact effect_registerServer spec
  | connect psm spec => exact effect_connect psm spec
  | connectEnhanced psm spec count => exact effect_connectEnhanced psm spec count
  | reconfigure sourceCids mtu mps => exact effect_reconfigure sourceCids mtu mps
  | channelMut sourceCid op => exact effect_channelMut sourceCid op
  | send sourceCid data => exact effect_callChannel fun channel _ => rfl
  | setReadingPaused sourceCid paused => exact effect_callChannel fun channel _ => rfl
  | disconnect sourceCid => exact effect_disconnect sourceCid
  | abort sourceCid => exact effect_abort sourceCid
  | processPdu pdu => exact effect_processPdu pdu
  | _ => exact .same rfl rfl rfl

end Bumble.LeCredit
