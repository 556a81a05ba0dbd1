import Bumble.LeCreditCalls

/-!
# The identifiers of the LE manager's requests

One 8-bit counter that skips zero numbers every request, disconnection,
information request and credit grant.  A request is outstanding from the call
that makes it to the response that carries its identifier, and a peer may take
its time.  The ledger of a run keeps the outstanding requests with the count at
which each was made; as long as no request has been outstanding for a whole
round of the counter, its identifier is its own.
-/

namespace Bumble.LeCredit

open Bumble.L2cap (L2capPdu ControlFrame InformationCapabilities l2capLeSignalingCid)
open LeCreditChannelManager

/-! ## 1. Requests and responses -/

inductive Request where
  | connection (pending : PendingConnection)
  | enhanced (pending : PendingEnhancedConnection)
  | reconfiguration (pending : PendingReconfiguration)
deriving DecidableEq, Repr

inductive RequestKind where
  | connection
  | enhanced
  | reconfiguration
deriving DecidableEq, Repr

def Request.kind : Request → RequestKind
  | connection _ => .connection
  | enhanced _ => .enhanced
  | reconfiguration _ => .reconfiguration

/-- The source CIDs a request for channels waits for. -/
def Request.reservedCids : Request → List UInt16
  | connection pending => [pending.sourceCid]
  | enhanced pending => pending.sourceCids
  | reconfiguration _ => []

/-- The request that a response of this kind with this identifier is applied to. -/
def awaiting (manager : LeCreditChannelManager) (kind : RequestKind) (identifier : UInt8) :
    Option Request :=
  match kind with
  | .connection => manager.pending[identifier]?.map .connection
  | .enhanced => manager.pendingEnhanced[identifier]?.map .enhanced
  | .reconfiguration => manager.pendingReconfigurations[identifier]?.map .reconfiguration

/-- The request that a call makes, as its arguments and its result give it. -/
def requestMade (manager : LeCreditChannelManager) : ManagerOp → Option Request
  | .connect psm spec =>
    match (manager.connect psm spec).result with
    | .ok sourceCid => some (.connection ⟨psm, sourceCid, { spec with psm := some psm }⟩)
    | .error _ => none
  | .connectEnhanced psm spec count =>
    match (manager.connectEnhanced psm spec count).result with
    | .ok sourceCids => some (.enhanced ⟨psm, sourceCids, { spec with psm := some psm }⟩)
    | .error _ => none
  | .reconfigure sourceCids mtu mps =>
    match (manager.reconfigure sourceCids mtu mps).result with
    | .ok _ => some (.reconfiguration ⟨sourceCids, mtu, mps⟩)
    | .error _ => none
  | _ => none

/-- The kind and the identifier of the response that a frame is. -/
def responseFrame : ControlFrame → Option (RequestKind × UInt8)
  | .leCreditBasedConnectionResponse identifier .. => some (.connection, identifier)
  | .creditBasedConnectionResponse identifier .. => some (.enhanced, identifier)
  | .creditBasedReconfigureResponse identifier .. => some (.reconfiguration, identifier)
  | _ => none

def responseOf : ManagerOp → Option (RequestKind × UInt8)
  | .processPdu pdu =>
    if pdu.cid = l2capLeSignalingCid then
      match ControlFrame.fromBytes pdu.payload with
      | .ok frame => responseFrame frame
      | .error _ => none
    else none
  | _ => none

/-- The requests after a step: the response's is gone, the new one is there. -/
def requestsAfter (before : RequestKind → UInt8 → Option Request)
    (response : Option (RequestKind × UInt8)) (made : Option (Request × UInt8))
    (kind : RequestKind) (identifier : UInt8) : Option Request :=
  if response = some (kind, identifier) then none
  else
    match made with
    | some (request, newIdentifier) =>
      if request.kind = kind ∧ newIdentifier = identifier then some request
      else before kind identifier
    | none => before kind identifier

/-! ## 2. What a call does to the requests -/

section Requests

variable {manager next : LeCreditChannelManager}

structure SameRequests (manager next : LeCreditChannelManager) : Prop where
  pending : next.pending = manager.pending
  enhanced : next.pendingEnhanced = manager.pendingEnhanced
  reconfigurations : next.pendingReconfigurations = manager.pendingReconfigurations

theorem SameRequests.awaiting (hsame : SameRequests manager next) :
    awaiting next = awaiting manager := by
  funext kind identifier
  cases kind <;>
    simp only [LeCredit.awaiting, hsame.pending, hsame.enhanced, hsame.reconfigurations]

theorem sameRequests_callChannel (sourceCid : UInt16)
    (method : LeCreditBasedChannel → ChannelCall Unit) :
    SameRequests manager (manager.callChannel sourceCid method).state := by
  cases hget : manager.channels[sourceCid]? with
  | none =>
    rw [callChannel_absent hget]
    exact ⟨rfl, rfl, rfl⟩
  | some channel =>
    cases hresult : (method channel).result with
    | error error =>
      rw [callChannel_refused hget hresult]
      exact ⟨rfl, rfl, rfl⟩
    | ok value =>
      rw [callChannel_done hget hresult]
      exact ⟨rfl, rfl, rfl⟩

theorem sameRequests_registerServer (spec : LeCreditBasedChannelSpec) :
    SameRequests manager (manager.registerServer spec).state := by
  simp only [registerServer]
  split
  · exact ⟨rfl, rfl, rfl⟩
  split
  · exact ⟨rfl, rfl, rfl⟩
  split <;> exact ⟨rfl, rfl, rfl⟩

theorem sameRequests_disconnect (sourceCid : UInt16) :
    SameRequests manager (manager.disconnect sourceCid).state := by
  simp only [disconnect]
  split
  · exact ⟨rfl, rfl, rfl⟩
  split <;> exact ⟨rfl, rfl, rfl⟩

theorem sameRequests_abort (sourceCid : UInt16) :
    SameRequests manager (manager.abort sourceCid).2 := by
  simp only [abort]
  split
  · exact ⟨rfl, rfl, rfl⟩
  split <;> exact ⟨rfl, rfl, rfl⟩

theorem sameRequests_onConnectionRequest (identifier : UInt8)
    (psm remoteCid peerMtu peerMps credits : UInt16) :
    SameRequests manager
      (manager.onConnectionRequest identifier psm remoteCid peerMtu peerMps credits).state := by
  simp only [onConnectionRequest]
  split
  · exact ⟨rfl, rfl, rfl⟩
  split
  · exact ⟨rfl, rfl, rfl⟩
  split
  · exact ⟨rfl, rfl, rfl⟩
  split
  · exact ⟨rfl, rfl, rfl⟩
  split <;> exact ⟨rfl, rfl, rfl⟩

theorem sameRequests_onEnhancedConnectionRequest (identifier : UInt8)
    (psm peerMtu peerMps credits : UInt16) (remoteCids : List UInt16) :
    SameRequests manager
      (manager.onEnhancedConnectionRequest identifier psm peerMtu peerMps credits
        remoteCids).state := by
  simp only [onEnhancedConnectionRequest]
  split
  · exact ⟨rfl, rfl, rfl⟩
  split
  · exact ⟨rfl, rfl, rfl⟩
  split
  · exact ⟨rfl, rfl, rfl⟩
  split
  · exact ⟨rfl, rfl, rfl⟩
  split
  · exact ⟨rfl, rfl, rfl⟩
  split
  · exact ⟨rfl, rfl, rfl⟩
  split <;> exact ⟨rfl, rfl, rfl⟩

theorem sameRequests_onReconfigureRequest (identifier : UInt8) (mtu mps : UInt16)
    (destinationCids : List UInt16) :
    SameRequests manager
      (manager.onReconfigureRequest identifier mtu mps destinationCids).state := by
  simp only [onReconfigureRequest]
  split <;> exact ⟨rfl, rfl, rfl⟩

theorem sameRequests_reconfigureLocals (mtu mps : UInt16) (cids : List UInt16) :
    ∀ (manager : LeCreditChannelManager),
      SameRequests manager (manager.reconfigureLocals mtu mps cids).state := by
  induction cids with
  | nil =>
    intro manager
    exact ⟨rfl, rfl, rfl⟩
  | cons cid cids ih =>
    intro manager
    simp only [reconfigureLocals]
    split
    · exact ⟨rfl, rfl, rfl⟩
    · next channel _ =>
      have hrest := ih { manager with
        channels := manager.channels.insert cid (channel.reconfigureLocal mtu mps) }
      exact ⟨hrest.pending, hrest.enhanced, hrest.reconfigurations⟩

theorem sameRequests_onDisconnectionRequest (identifier : UInt8)
    (destinationCid sourceCid : UInt16) :
    SameRequests manager
      (manager.onDisconnectionRequest identifier destinationCid sourceCid).state := by
  simp only [onDisconnectionRequest]
  split
  · exact ⟨rfl, rfl, rfl⟩
  split <;> exact ⟨rfl, rfl, rfl⟩

theorem sameRequests_onDisconnectionResponse (destinationCid sourceCid : UInt16) :
    SameRequests manager
      (manager.onDisconnectionResponse destinationCid sourceCid).state := by
  simp only [onDisconnectionResponse]
  split
  · exact ⟨rfl, rfl, rfl⟩
  split <;> exact ⟨rfl, rfl, rfl⟩

theorem sameRequests_onFlowControlCredit (cid credits : UInt16) :
    SameRequests manager (manager.onFlowControlCredit cid credits).state := by
  simp only [onFlowControlCredit]
  split
  · exact ⟨rfl, rfl, rfl⟩
  · exact sameRequests_callChannel _ _

theorem requestsAfter_absent {kind : RequestKind} {identifier : UInt8}
    (habsent : awaiting manager kind identifier = none) :
    requestsAfter (awaiting manager) (some (kind, identifier)) none = awaiting manager := by
  funext other otherIdentifier
  simp only [requestsAfter]
  split
  · next heq =>
    cases heq
    exact habsent.symm
  · rfl

/-- The manager without the request of a kind under an identifier. -/
def withoutRequest (manager : LeCreditChannelManager) (kind : RequestKind) (identifier : UInt8) :
    LeCreditChannelManager :=
  match kind with
  | .connection => { manager with pending := manager.pending.erase identifier }
  | .enhanced => { manager with pendingEnhanced := manager.pendingEnhanced.erase identifier }
  | .reconfiguration =>
    { manager with
      pendingReconfigurations := manager.pendingReconfigurations.erase identifier }

theorem SameRequests.awaiting_without {kind : RequestKind} {identifier : UInt8}
    (hsame : SameRequests (withoutRequest manager kind identifier) next) :
    LeCredit.awaiting next =
      requestsAfter (LeCredit.awaiting manager) (some (kind, identifier)) none := by
  rw [hsame.awaiting]
  funext other otherIdentifier
  cases kind <;> cases other <;>
    simp only [LeCredit.awaiting, requestsAfter, withoutRequest, OrderedMap.getElem?_erase,
      Option.some.injEq, Prod.mk.injEq, true_and, reduceCtorEq, false_and, if_false]
  all_goals split <;> rfl

theorem awaiting_onConnectionResponse (identifier : UInt8)
    (destinationCid peerMtu peerMps credits result : UInt16) :
    awaiting (manager.onConnectionResponse identifier destinationCid peerMtu peerMps credits
      result).state = requestsAfter (awaiting manager) (some (.connection, identifier)) none := by
  simp only [onConnectionResponse]
  cases hrequest : manager.pending[identifier]? with
  | none =>
    rw [requestsAfter_absent (by simp [awaiting, hrequest])]
    rfl
  | some request =>
    apply SameRequests.awaiting_without
    dsimp only
    split
    · exact ⟨rfl, rfl, rfl⟩
    split
    · exact ⟨rfl, rfl, rfl⟩
    split <;> exact ⟨rfl, rfl, rfl⟩

theorem awaiting_onEnhancedConnectionResponse (identifier : UInt8)
    (peerMtu peerMps credits result : UInt16) (destinationCids : List UInt16) :
    awaiting (manager.onEnhancedConnectionResponse identifier peerMtu peerMps credits result
      destinationCids).state =
      requestsAfter (awaiting manager) (some (.enhanced, identifier)) none := by
  simp only [onEnhancedConnectionResponse]
  cases hrequest : manager.pendingEnhanced[identifier]? with
  | none =>
    rw [requestsAfter_absent (by simp [awaiting, hrequest])]
    rfl
  | some request =>
    apply SameRequests.awaiting_without
    dsimp only
    split
    · exact ⟨rfl, rfl, rfl⟩
    split
    · exact ⟨rfl, rfl, rfl⟩
    split
    · exact ⟨rfl, rfl, rfl⟩
    split
    · exact ⟨rfl, rfl, rfl⟩
    split <;> exact ⟨rfl, rfl, rfl⟩

theorem awaiting_onReconfigureResponse (identifier : UInt8) (result : UInt16) :
    awaiting (manager.onReconfigureResponse identifier result).state =
      requestsAfter (awaiting manager) (some (.reconfiguration, identifier)) none := by
  simp only [onReconfigureResponse]
  cases hrequest : manager.pendingReconfigurations[identifier]? with
  | none =>
    rw [requestsAfter_absent (by simp [awaiting, hrequest])]
    rfl
  | some request =>
    apply SameRequests.awaiting_without
    dsimp only
    split
    · have hsame := sameRequests_reconfigureLocals request.mtu request.mps request.sourceCids
        { manager with
          pendingReconfigurations := manager.pendingReconfigurations.erase identifier
          reconfigurationResults := manager.reconfigurationResults.insert identifier result }
      exact ⟨hsame.pending, hsame.enhanced, hsame.reconfigurations⟩
    · exact ⟨rfl, rfl, rfl⟩

theorem awaiting_processPdu (pdu : L2capPdu) :
    awaiting (manager.processPdu pdu).state =
      requestsAfter (awaiting manager) (responseOf (.processPdu pdu)) none := by
  have hkept : ∀ {next : LeCreditChannelManager}, SameRequests manager next →
      responseOf (.processPdu pdu) = none →
      awaiting next = requestsAfter (awaiting manager) (responseOf (.processPdu pdu)) none := by
    intro next hsame hresponse
    rw [hsame.awaiting, hresponse]
    rfl
  simp only [processPdu]
  by_cases hcid : pdu.cid = l2capLeSignalingCid
  · rw [if_pos hcid]
    cases hframe : ControlFrame.fromBytes pdu.payload with
    | error error => exact hkept ⟨rfl, rfl, rfl⟩ (by simp [responseOf, hcid, hframe])
    | ok frame =>
      have hresponse : responseOf (.processPdu pdu) = responseFrame frame := by
        simp [responseOf, hcid, hframe]
      cases frame with
      | leCreditBasedConnectionResponse =>
        rw [hresponse]
        exact awaiting_onConnectionResponse ..
      | creditBasedConnectionResponse =>
        rw [hresponse]
        exact awaiting_onEnhancedConnectionResponse ..
      | creditBasedReconfigureResponse =>
        rw [hresponse]
        exact awaiting_onReconfigureResponse ..
      | leCreditBasedConnectionRequest =>
        exact hkept (sameRequests_onConnectionRequest ..) hresponse
      | creditBasedConnectionRequest =>
        exact hkept (sameRequests_onEnhancedConnectionRequest ..) hresponse
      | creditBasedReconfigureRequest =>
        exact hkept (sameRequests_onReconfigureRequest ..) hresponse
      | leFlowControlCredit => exact hkept (sameRequests_onFlowControlCredit ..) hresponse
      | disconnectionRequest => exact hkept (sameRequests_onDisconnectionRequest ..) hresponse
      | disconnectionResponse => exact hkept (sameRequests_onDisconnectionResponse ..) hresponse
      | _ => exact hkept ⟨rfl, rfl, rfl⟩ hresponse
  · rw [if_neg hcid]
    exact hkept (sameRequests_callChannel _ _) (by simp [responseOf, hcid])

theorem awaiting_connect (psm : UInt16) (spec : LeCreditBasedChannelSpec) :
    awaiting (manager.connect psm spec).state =
      requestsAfter (awaiting manager) none ((requestMade manager (.connect psm spec)).map
        fun request => (request, identifierAfter manager.identifier)) := by
  simp only [requestMade, connect]
  split
  · rfl
  cases spec.validate with
  | error error => rfl
  | ok valid =>
    cases manager.allocateCid with
    | error error => rfl
    | ok sourceCid =>
      funext kind other
      cases kind with
      | connection =>
        simp only [awaiting, nextIdentifier, queueControl, Outcome.ok_state, Outcome.ok_result,
          OrderedMap.getElem?_insert, requestsAfter, Option.map_some, Request.kind, true_and,
          reduceCtorEq, if_false]
        split <;> rfl
      | enhanced => rfl
      | reconfiguration => rfl

theorem awaiting_connectEnhanced (psm : UInt16) (spec : LeCreditBasedChannelSpec) (count : Nat) :
    awaiting (manager.connectEnhanced psm spec count).state =
      requestsAfter (awaiting manager) none
        ((requestMade manager (.connectEnhanced psm spec count)).map
          fun request => (request, identifierAfter manager.identifier)) := by
  simp only [requestMade, connectEnhanced]
  split
  · rfl
  split
  · rfl
  cases spec.validate with
  | error error => rfl
  | ok valid =>
    cases manager.allocateCids count with
    | error error => rfl
    | ok sourceCids =>
      funext kind other
      cases kind with
      | connection => rfl
      | enhanced =>
        simp only [awaiting, nextIdentifier, queueControl, Outcome.ok_state, Outcome.ok_result,
          OrderedMap.getElem?_insert, requestsAfter, Option.map_some, Request.kind, true_and,
          reduceCtorEq, if_false]
        split <;> rfl
      | reconfiguration => rfl

theorem awaiting_reconfigure (sourceCids : List UInt16) (mtu mps : UInt16) :
    awaiting (manager.reconfigure sourceCids mtu mps).state =
      requestsAfter (awaiting manager) none
        ((requestMade manager (.reconfigure sourceCids mtu mps)).map
          fun request => (request, identifierAfter manager.identifier)) := by
  simp only [requestMade, reconfigure]
  split
  · rfl
  cases validateMtuMps mtu mps with
  | error error => rfl
  | ok value =>
    dsimp only
    split
    · rfl
    cases manager.reconfigureDestinations sourceCids.length mtu mps sourceCids with
    | error error => rfl
    | ok destinationCids =>
      funext kind other
      cases kind with
      | connection => rfl
      | enhanced => rfl
      | reconfiguration =>
        simp only [awaiting, nextIdentifier, queueControl, Outcome.ok_state, Outcome.ok_result,
          OrderedMap.getElem?_insert, requestsAfter, Option.map_some, Request.kind, true_and,
          reduceCtorEq, if_false]
        split <;> rfl

/-- **Requests of one call.**  A call adds the request it makes, under the next
    identifier, and a response removes the one it answers. -/
theorem awaiting_apply (op : ManagerOp) :
    awaiting (op.apply manager) =
      requestsAfter (awaiting manager) (responseOf op) ((requestMade manager op).map
        fun request => (request, identifierAfter manager.identifier)) := by
  cases op with
  | connect psm spec => exact awaiting_connect psm spec
  | connectEnhanced psm spec count => exact awaiting_connectEnhanced psm spec count
  | reconfigure sourceCids mtu mps => exact awaiting_reconfigure sourceCids mtu mps
  | processPdu pdu => exact awaiting_processPdu pdu
  | registerServer spec => exact (sameRequests_registerServer spec).awaiting
  | send sourceCid data => exact (sameRequests_callChannel sourceCid _).awaiting
  | setReadingPaused sourceCid paused => exact (sameRequests_callChannel sourceCid _).awaiting
  | disconnect sourceCid => exact (sameRequests_disconnect sourceCid).awaiting
  | abort sourceCid => exact (sameRequests_abort sourceCid).awaiting
  | _ => rfl

end Requests

/-! ## 3. Identifiers spent -/

/-- The grants that the flush after a channel's method announces. -/
def grantsFlushed (manager : LeCreditChannelManager) (sourceCid : UInt16)
    (method : LeCreditBasedChannel → ChannelCall Unit) : Nat :=
  match manager.channels[sourceCid]? with
  | none => 0
  | some channel =>
    match (method channel).result with
    | .ok () => (method channel).state.pendingCreditGrants.length
    | .error _ => 0

/-- How many times a call takes the next identifier. -/
def identifiersSpent (manager : LeCreditChannelManager) : ManagerOp → Nat
  | .requestInformation _ => 1
  | .connect psm spec => if (manager.connect psm spec).result.isOk then 1 else 0
  | .connectEnhanced psm spec count =>
    if (manager.connectEnhanced psm spec count).result.isOk then 1 else 0
  | .reconfigure sourceCids mtu mps =>
    if (manager.reconfigure sourceCids mtu mps).result.isOk then 1 else 0
  | .disconnect sourceCid => if (manager.disconnect sourceCid).result.isOk then 1 else 0
  | .send sourceCid data => grantsFlushed manager sourceCid (·.write data)
  | .setReadingPaused sourceCid paused =>
    grantsFlushed manager sourceCid fun channel =>
      if paused then channel.pauseReading else channel.resumeReading
  | .processPdu pdu =>
    if pdu.cid = l2capLeSignalingCid then
      match ControlFrame.fromBytes pdu.payload with
      | .ok (.leFlowControlCredit _ cid credits) =>
        match manager.findByDestination cid with
        | some sourceCid => grantsFlushed manager sourceCid (·.addCredits credits)
        | none => 0
      | _ => 0
    else grantsFlushed manager pdu.cid (·.receivePdu pdu.payload)
  | _ => 0

section Identifiers

variable {manager : LeCreditChannelManager}

theorem identifier_callChannel (sourceCid : UInt16)
    (method : LeCreditBasedChannel → ChannelCall Unit) :
    (manager.callChannel sourceCid method).state.identifier =
      identifierAfter^[grantsFlushed manager sourceCid method] manager.identifier := by
  cases hget : manager.channels[sourceCid]? with
  | none =>
    rw [callChannel_absent hget]
    simp [grantsFlushed, hget]
  | some channel =>
    cases hresult : (method channel).result with
    | error error =>
      rw [callChannel_refused hget hresult]
      simp [grantsFlushed, hget, hresult]
    | ok value =>
      rw [callChannel_done hget hresult]
      simp [grantsFlushed, hget, hresult]

theorem identifier_reconfigureLocals (mtu mps : UInt16) (cids : List UInt16) :
    ∀ (manager : LeCreditChannelManager),
      (manager.reconfigureLocals mtu mps cids).state.identifier = manager.identifier := by
  induction cids with
  | nil =>
    intro manager
    rfl
  | cons cid cids ih =>
    intro manager
    simp only [reconfigureLocals]
    split
    · rfl
    · rw [ih]

/-- A PDU moves the identifier on by as many as its answers and grants spend. -/
theorem identifier_processPdu (pdu : L2capPdu) :
    (manager.processPdu pdu).state.identifier =
      identifierAfter^[identifiersSpent manager (.processPdu pdu)] manager.identifier := by
  simp only [processPdu, identifiersSpent]
  by_cases hcid : pdu.cid = l2capLeSignalingCid
  · rw [if_pos hcid, if_pos hcid]
    cases ControlFrame.fromBytes pdu.payload with
    | error error => rfl
    | ok frame =>
      cases frame with
      | leFlowControlCredit identifier cid credits =>
        simp only [processControl, onFlowControlCredit]
        cases manager.findByDestination cid with
        | none => rfl
        | some sourceCid => exact identifier_callChannel sourceCid _
      | leCreditBasedConnectionRequest =>
        simp only [processControl, onConnectionRequest]
        split
        · rfl
        split
        · rfl
        split
        · rfl
        split
        · rfl
        split <;> rfl
      | leCreditBasedConnectionResponse =>
        simp only [processControl, onConnectionResponse]
        split
        · rfl
        split
        · rfl
        split
        · rfl
        split <;> rfl
      | creditBasedConnectionRequest =>
        simp only [processControl, onEnhancedConnectionRequest]
        split
        · rfl
        split
        · rfl
        split
        · rfl
        split
        · rfl
        split
        · rfl
        split
        · rfl
        split <;> rfl
      | creditBasedConnectionResponse =>
        simp only [processControl, onEnhancedConnectionResponse]
        split
        · rfl
        split
        · rfl
        split
        · rfl
        split
        · rfl
        split
        · rfl
        split <;> rfl
      | creditBasedReconfigureRequest =>
        simp only [processControl, onReconfigureRequest]
        split <;> rfl
      | creditBasedReconfigureResponse =>
        simp only [processControl, onReconfigureResponse]
        split
        · rfl
        split
        · exact identifier_reconfigureLocals _ _ _ _
        · rfl
      | disconnectionRequest =>
        simp only [processControl, onDisconnectionRequest]
        split
        · rfl
        split <;> rfl
      | disconnectionResponse =>
        simp only [processControl, onDisconnectionResponse]
        split
        · rfl
        split <;> rfl
      | _ => rfl
  · rw [if_neg hcid, if_neg hcid]
    exact identifier_callChannel pdu.cid _

/-- Every operation moves the identifier on by as many as it spends. -/
theorem identifier_apply (op : ManagerOp) :
    (op.apply manager).identifier =
      identifierAfter^[identifiersSpent manager op] manager.identifier := by
  cases op with
  | processPdu pdu => exact identifier_processPdu pdu
  | send sourceCid data => exact identifier_callChannel sourceCid _
  | setReadingPaused sourceCid paused => exact identifier_callChannel sourceCid _
  | connect psm spec =>
    simp only [ManagerOp.apply, identifiersSpent, connect]
    split
    · rfl
    cases spec.validate with
    | error error => rfl
    | ok valid => cases manager.allocateCid <;> rfl
  | connectEnhanced psm spec count =>
    simp only [ManagerOp.apply, identifiersSpent, connectEnhanced]
    split
    · rfl
    split
    · rfl
    cases spec.validate with
    | error error => rfl
    | ok valid => cases manager.allocateCids count <;> rfl
  | reconfigure sourceCids mtu mps =>
    simp only [ManagerOp.apply, identifiersSpent, reconfigure]
    split
    · rfl
    cases validateMtuMps mtu mps with
    | error error => rfl
    | ok value =>
      dsimp only
      split
      · rfl
      cases manager.reconfigureDestinations sourceCids.length mtu mps sourceCids <;> rfl
  | disconnect sourceCid =>
    simp only [ManagerOp.apply, identifiersSpent, disconnect]
    rcases Option.eq_none_or_eq_some manager.channels[sourceCid]? with hget | ⟨channel, hget⟩
    · simp only [hget]
      rfl
    · simp only [hget]
      cases channel.ensureConnected <;> rfl
  | registerServer spec =>
    simp only [ManagerOp.apply, identifiersSpent, registerServer]
    split
    · rfl
    split
    · rfl
    split <;> rfl
  | abort sourceCid =>
    simp only [ManagerOp.apply, identifiersSpent, abort]
    split
    · rfl
    split <;> rfl
  | _ => rfl

end Identifiers

/-! ## 4. The ledger of a run -/

/-- The identifier that the `count`-th call of `next_identifier` returns. -/
def identifierAt (count : Nat) : UInt8 := identifierAfter^[count] 0

theorem identifierAfter_identifierAt (count : Nat) :
    identifierAfter (identifierAt count) = identifierAt (count + 1) :=
  (Function.iterate_succ_apply' _ _ _).symm

theorem identifierAt_succ (count : Nat) :
    identifierAt (count + 1) = UInt8.ofNat (count % 255 + 1) := by
  induction count with
  | zero => rfl
  | succ count ih =>
    rw [← identifierAfter_identifierAt, ih]
    by_cases hlast : count % 255 = 254
    · have hwrap : (count + 1) % 255 = 0 := by omega
      rw [hlast, hwrap]
      rfl
    · have hmod : (count + 1) % 255 = count % 255 + 1 := by omega
      have hlt : count % 255 + 1 < 255 := by omega
      have hnonzero : UInt8.ofNat (count % 255 + 1) + 1 ≠ 0 := by
        intro hzero
        have htoNat := congrArg UInt8.toNat hzero
        simp [UInt8.toNat_add] at htoNat
        omega
      rw [identifierAfter, if_neg hnonzero, hmod]
      apply UInt8.toNat_inj.mp
      simp

theorem identifierAt_ne {first second : Nat} (hpositive : 1 ≤ first) (hlt : first < second)
    (hround : second < first + 255) : identifierAt first ≠ identifierAt second := by
  obtain ⟨first, rfl⟩ := Nat.exists_eq_add_of_le' hpositive
  obtain ⟨second, rfl⟩ := Nat.exists_eq_add_of_le' (hpositive.trans hlt.le)
  rw [identifierAt_succ, identifierAt_succ]
  intro heq
  have htoNat := congrArg UInt8.toNat heq
  simp only [UInt8.toNat_ofNat'] at htoNat
  omega

/-- A request without its response, its identifier, and the count at which the
    identifier was taken. -/
structure Outstanding where
  request : Request
  identifier : UInt8
  made : Nat
deriving DecidableEq, Repr

/-- A run's manager with the identifiers spent and the requests outstanding. -/
structure Ledger where
  manager : LeCreditChannelManager
  spent : Nat
  outstanding : List Outstanding

namespace Ledger

def start (information : InformationCapabilities) : Ledger :=
  ⟨withInformationCapabilities information, 0, []⟩

/-- The call's request is outstanding from now on; a response settles the
    request of its kind and identifier. -/
def step (ledger : Ledger) (op : ManagerOp) : Ledger where
  manager := op.apply ledger.manager
  spent := ledger.spent + identifiersSpent ledger.manager op
  outstanding :=
    ledger.outstanding.filter
      (fun entry => responseOf op ≠ some (entry.request.kind, entry.identifier)) ++
    match requestMade ledger.manager op with
    | some request =>
      [⟨request, identifierAfter ledger.manager.identifier, ledger.spent + 1⟩]
    | none => []

def run (ledger : Ledger) (ops : List ManagerOp) : Ledger := ops.foldl step ledger

/-- Fewer than 254 identifiers have been spent since each outstanding request. -/
def Timely (ledger : Ledger) : Prop :=
  ∀ entry ∈ ledger.outstanding, ledger.spent < entry.made + 254

instance (ledger : Ledger) : Decidable ledger.Timely :=
  inferInstanceAs (Decidable (∀ entry ∈ ledger.outstanding, _))

/-- Every state of the run is timely, the first and the last included. -/
def TimelyRun : Ledger → List ManagerOp → Prop
  | ledger, [] => ledger.Timely
  | ledger, op :: ops => ledger.Timely ∧ TimelyRun (ledger.step op) ops

instance decidableTimelyRun :
    (ledger : Ledger) → (ops : List ManagerOp) → Decidable (TimelyRun ledger ops)
  | ledger, [] => inferInstanceAs (Decidable ledger.Timely)
  | ledger, op :: ops =>
    have := decidableTimelyRun (ledger.step op) ops
    inferInstanceAs (Decidable (_ ∧ _))

theorem run_manager (ops : List ManagerOp) : ∀ (ledger : Ledger),
    (ledger.run ops).manager = ledger.manager.runOps ops := by
  induction ops with
  | nil =>
    intro ledger
    rfl
  | cons op ops ih =>
    intro ledger
    exact ih (ledger.step op)

/-- **The ledger and the maps.**  The entries are the requests the manager
    awaits, each under the identifier of its count. -/
structure Sound (ledger : Ledger) : Prop where
  counter : ledger.manager.identifier = identifierAt ledger.spent
  numbered : ∀ entry ∈ ledger.outstanding,
    entry.identifier = identifierAt entry.made ∧ 1 ≤ entry.made ∧ entry.made ≤ ledger.spent
  awaited : ∀ entry ∈ ledger.outstanding,
    awaiting ledger.manager entry.request.kind entry.identifier = some entry.request
  complete : ∀ kind identifier request,
    awaiting ledger.manager kind identifier = some request →
      ∃ entry ∈ ledger.outstanding, entry.request = request ∧ request.kind = kind ∧
        entry.identifier = identifier
  distinct : ∀ entry ∈ ledger.outstanding, ∀ other ∈ ledger.outstanding,
    entry.made = other.made → entry = other

theorem sound_start (information : InformationCapabilities) : (start information).Sound where
  counter := rfl
  numbered entry hentry := by cases hentry
  awaited entry hentry := by cases hentry
  complete kind identifier request hawaiting := by
    cases kind <;> simp [awaiting, start, withInformationCapabilities] at hawaiting
  distinct entry hentry := by cases hentry

theorem Sound.identifier_ne {ledger : Ledger} (hsound : ledger.Sound) (htimely : ledger.Timely)
    {entry : Outstanding} (hentry : entry ∈ ledger.outstanding) :
    identifierAfter ledger.manager.identifier ≠ entry.identifier := by
  obtain ⟨hidentifier, hpositive, hle⟩ := hsound.numbered entry hentry
  have hround := htimely entry hentry
  rw [hsound.counter, identifierAfter_identifierAt, hidentifier]
  exact (identifierAt_ne hpositive (by omega) (by omega)).symm

theorem requestMade_some {manager : LeCreditChannelManager} {op : ManagerOp} {request : Request}
    (hmade : requestMade manager op = some request) :
    responseOf op = none ∧ identifiersSpent manager op = 1 := by
  cases op with
  | connect psm spec =>
    refine ⟨rfl, ?_⟩
    simp only [requestMade] at hmade
    cases hresult : (manager.connect psm spec).result with
    | error error => simp [hresult] at hmade
    | ok value => simp [identifiersSpent, hresult, Except.isOk, Except.toBool]
  | connectEnhanced psm spec count =>
    refine ⟨rfl, ?_⟩
    simp only [requestMade] at hmade
    cases hresult : (manager.connectEnhanced psm spec count).result with
    | error error => simp [hresult] at hmade
    | ok value => simp [identifiersSpent, hresult, Except.isOk, Except.toBool]
  | reconfigure sourceCids mtu mps =>
    refine ⟨rfl, ?_⟩
    simp only [requestMade] at hmade
    cases hresult : (manager.reconfigure sourceCids mtu mps).result with
    | error error => simp [hresult] at hmade
    | ok value => simp [identifiersSpent, hresult, Except.isOk, Except.toBool]
  | _ => cases hmade

theorem mem_step {ledger : Ledger} {op : ManagerOp} {entry : Outstanding}
    (hentry : entry ∈ (ledger.step op).outstanding) :
    entry ∈ ledger.outstanding ∧ responseOf op ≠ some (entry.request.kind, entry.identifier) ∨
    ∃ request, requestMade ledger.manager op = some request ∧
      entry = ⟨request, identifierAfter ledger.manager.identifier, ledger.spent + 1⟩ := by
  simp only [step] at hentry
  rcases List.mem_append.mp hentry with hold | hnew
  · left
    simpa using List.mem_filter.mp hold
  · right
    split at hnew
    · next request hmade => exact ⟨request, hmade, List.mem_singleton.mp hnew⟩
    · cases hnew

/-- While no outstanding request is 254 identifiers old, a step keeps the ledger
    sound. -/
theorem Sound.step {ledger : Ledger} (hsound : ledger.Sound) (htimely : ledger.Timely)
    (op : ManagerOp) : (ledger.step op).Sound := by
  constructor
  case counter =>
    change (op.apply ledger.manager).identifier = _
    rw [identifier_apply, hsound.counter, identifierAt, ← Function.iterate_add_apply, Nat.add_comm]
    rfl
  case numbered =>
    intro entry hentry
    rcases mem_step hentry with ⟨hold, -⟩ | ⟨request, hmade, rfl⟩
    · obtain ⟨hidentifier, hpositive, hle⟩ := hsound.numbered entry hold
      exact ⟨hidentifier, hpositive, hle.trans (Nat.le_add_right _ _)⟩
    · refine ⟨?_, Nat.le_add_left _ _, ?_⟩
      · rw [hsound.counter]
        exact identifierAfter_identifierAt _
      · exact Nat.add_le_add_left (requestMade_some hmade).2.ge _
  case awaited =>
    intro entry hentry
    change awaiting (op.apply ledger.manager) _ _ = _
    rw [awaiting_apply]
    simp only [requestsAfter]
    rcases mem_step hentry with ⟨hold, hunanswered⟩ | ⟨request, hmade, rfl⟩
    · rw [if_neg hunanswered]
      -- a new request takes another identifier, so the entry is still the one found
      cases requestMade ledger.manager op with
      | none => exact hsound.awaited entry hold
      | some request =>
        simp only [Option.map_some]
        rw [if_neg fun hboth => hsound.identifier_ne htimely hold hboth.2]
        exact hsound.awaited entry hold
    · simp [(requestMade_some hmade).1, hmade]
  case complete =>
    intro kind identifier request hawaiting
    change awaiting (op.apply ledger.manager) kind identifier = some request at hawaiting
    rw [awaiting_apply] at hawaiting
    simp only [requestsAfter] at hawaiting
    by_cases hresponse : responseOf op = some (kind, identifier)
    · rw [if_pos hresponse] at hawaiting
      cases hawaiting
    rw [if_neg hresponse] at hawaiting
    have hold : awaiting ledger.manager kind identifier = some request →
        ∃ entry ∈ (ledger.step op).outstanding, entry.request = request ∧ request.kind = kind ∧
          entry.identifier = identifier := by
      intro hbefore
      obtain ⟨entry, hentry, hrequest, hkind, hidentifier⟩ :=
        hsound.complete kind identifier request hbefore
      refine ⟨entry, List.mem_append_left _ (List.mem_filter.mpr ⟨hentry, ?_⟩), hrequest, hkind,
        hidentifier⟩
      rw [hrequest, hkind, hidentifier]
      exact decide_eq_true hresponse
    cases hmade : requestMade ledger.manager op with
    | none =>
      rw [hmade] at hawaiting
      exact hold hawaiting
    | some made =>
      simp only [hmade, Option.map_some] at hawaiting
      by_cases hnew : made.kind = kind ∧ identifierAfter ledger.manager.identifier = identifier
      · rw [if_pos hnew] at hawaiting
        cases hawaiting
        refine ⟨⟨request, identifierAfter ledger.manager.identifier, ledger.spent + 1⟩, ?_, rfl,
          hnew.1, hnew.2⟩
        simp [Ledger.step, hmade]
      · rw [if_neg hnew] at hawaiting
        exact hold hawaiting
  case distinct =>
    intro entry hentry other hother hsame
    rcases mem_step hentry with ⟨hold, -⟩ | ⟨request, hmade, rfl⟩ <;>
    rcases mem_step hother with ⟨hotherOld, -⟩ | ⟨otherRequest, hotherMade, rfl⟩
    · exact hsound.distinct entry hold other hotherOld hsame
    · have hle := (hsound.numbered entry hold).2.2
      simp only at hsame
      omega
    · have hle := (hsound.numbered other hotherOld).2.2
      simp only at hsame
      omega
    · rw [hmade] at hotherMade
      cases hotherMade
      rfl

theorem Sound.run (ops : List ManagerOp) : ∀ {ledger : Ledger}, ledger.Sound →
    TimelyRun ledger ops → (ledger.run ops).Sound ∧ (ledger.run ops).Timely := by
  induction ops with
  | nil =>
    intro ledger hsound htimely
    exact ⟨hsound, htimely⟩
  | cons op ops ih =>
    intro ledger hsound htimely
    exact ih (hsound.step htimely.1 op) htimely.2

end Ledger

/-! ## 5. Every run -/

/-- The identifier for a new request is not the key of an outstanding one. -/
def IdentifierFree (manager : LeCreditChannelManager) : Prop :=
  manager.pending.contains manager.nextIdentifier.1 = false ∧
  manager.pendingEnhanced.contains manager.nextIdentifier.1 = false ∧
  manager.pendingReconfigurations.contains manager.nextIdentifier.1 = false

theorem identifierFree_of_awaiting {manager : LeCreditChannelManager}
    (hnone : ∀ kind, awaiting manager kind manager.nextIdentifier.1 = none) :
    IdentifierFree manager := by
  have hconnection := hnone .connection
  have henhanced := hnone .enhanced
  have hreconfiguration := hnone .reconfiguration
  simp only [awaiting, Option.map_eq_none_iff] at hconnection henhanced hreconfiguration
  simp only [IdentifierFree, Std.ExtTreeMap.contains_eq_isSome_getElem?, hconnection, henhanced,
    hreconfiguration, Option.isSome_none, and_self]

theorem reserved_of_awaiting {manager : LeCreditChannelManager} {identifier : UInt8}
    {request : Request} (hawaiting : awaiting manager request.kind identifier = some request)
    {cid : UInt16} (hcid : cid ∈ request.reservedCids) : manager.cidIsReserved cid = true := by
  apply Bool.eq_true_of_not_eq_false
  intro hfree
  obtain ⟨-, hpending, henhanced⟩ := not_reserved_iff.mp hfree
  cases request with
  | connection pending =>
    obtain ⟨found, hfound, heq⟩ := Option.map_eq_some_iff.mp hawaiting
    cases heq
    exact hpending identifier pending hfound (List.mem_singleton.mp hcid).symm
  | enhanced pending =>
    obtain ⟨found, hfound, heq⟩ := Option.map_eq_some_iff.mp hawaiting
    cases heq
    exact henhanced identifier pending hfound hcid
  | reconfiguration pending => cases hcid

/-- **Identifiers and their requests.**  In every state of a run in which no
    request is outstanding for a round of the counter: the next identifier is
    nobody's key; every request stays stored under its own identifier, with its
    source CIDs reserved, until the response to it arrives; and the request a
    response is applied to is the one outstanding request with its identifier. -/
theorem identifiers_not_reused (information : InformationCapabilities) (ops : List ManagerOp)
    (htimely : Ledger.TimelyRun (Ledger.start information) ops) :
    ((Ledger.start information).run ops).manager =
      (withInformationCapabilities information).runOps ops ∧
    IdentifierFree ((withInformationCapabilities information).runOps ops) ∧
    (∀ entry ∈ ((Ledger.start information).run ops).outstanding,
      awaiting ((withInformationCapabilities information).runOps ops) entry.request.kind
        entry.identifier = some entry.request ∧
      ∀ cid ∈ entry.request.reservedCids,
        ((withInformationCapabilities information).runOps ops).cidIsReserved cid = true) ∧
    (∀ kind identifier request,
      awaiting ((withInformationCapabilities information).runOps ops) kind identifier =
        some request →
      ∃ entry ∈ ((Ledger.start information).run ops).outstanding,
        entry.request = request ∧ entry.request.kind = kind ∧ entry.identifier = identifier ∧
        ∀ other ∈ ((Ledger.start information).run ops).outstanding,
          other.identifier = identifier → other = entry) := by
  obtain ⟨hsound, hlast⟩ := Ledger.Sound.run ops (Ledger.sound_start information) htimely
  have hmanager := Ledger.run_manager ops (Ledger.start information)
  change _ = (withInformationCapabilities information).runOps ops at hmanager
  rw [← hmanager]
  generalize (Ledger.start information).run ops = ledger at *
  refine ⟨rfl, ?_, ?_, ?_⟩
  · apply identifierFree_of_awaiting
    intro kind
    apply Option.eq_none_iff_forall_ne_some.mpr
    intro request hawaiting
    obtain ⟨entry, hentry, -, -, hidentifier⟩ := hsound.complete kind _ request hawaiting
    exact hsound.identifier_ne hlast hentry hidentifier.symm
  · intro entry hentry
    have hawaiting := hsound.awaited entry hentry
    exact ⟨hawaiting, fun cid hcid => reserved_of_awaiting hawaiting hcid⟩
  · intro kind identifier request hawaiting
    obtain ⟨entry, hentry, rfl, hkind, rfl⟩ := hsound.complete kind identifier request hawaiting
    refine ⟨entry, hentry, rfl, hkind, rfl, ?_⟩
    intro other hother hsame
    -- entries less than a round old with one identifier have one count
    apply hsound.distinct other hother entry hentry
    obtain ⟨hotherId, hotherPositive, hotherLe⟩ := hsound.numbered other hother
    obtain ⟨hentryId, hentryPositive, hentryLe⟩ := hsound.numbered entry hentry
    have hotherRound := hlast other hother
    have hentryRound := hlast entry hentry
    rw [hotherId, hentryId] at hsame
    by_contra hne
    rcases Nat.lt_or_gt_of_ne hne with hlt | hgt
    · exact identifierAt_ne hotherPositive hlt (by omega) hsame
    · exact identifierAt_ne hentryPositive hgt (by omega) hsame.symm

theorem identifiers_not_reused_two_requests :
    IdentifierFree ((withInformationCapabilities {}).runOps
      [.connect 0x80 {}, .requestInformation 2, .connectEnhanced 0x80 {} 2]) :=
  (identifiers_not_reused {} [.connect 0x80 {}, .requestInformation 2, .connectEnhanced 0x80 {} 2]
    (by decide)).2.1

/-- A connection request waits while 254 information requests are made: the next
    identifier is its own. -/
theorem identifier_reused_after_wrap :
    ¬ ∀ ops, IdentifierFree ((withInformationCapabilities {}).runOps ops) := by
  intro hall
  have hfree := (hall (.connect 0x80 {} :: List.replicate 254 (.requestInformation 2))).1
  have hused : ((withInformationCapabilities {}).runOps
      (.connect 0x80 {} :: List.replicate 254 (.requestInformation 2))).pending.contains
      ((withInformationCapabilities {}).runOps
        (.connect 0x80 {} :: List.replicate 254 (.requestInformation 2))).nextIdentifier.1 =
      true := by
    set_option maxRecDepth 30000 in decide
  rw [hused] at hfree
  cases hfree

end Bumble.LeCredit
