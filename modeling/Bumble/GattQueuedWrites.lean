import Bumble.GattServer

/-!
# Queued writes and bearers (`bumble-gatt/src/lib.rs`)

An execution writes all parts of a bearer's queue or none of them, and what a bearer
has of its own (its MTU, its queue, its configuration bits) is changed by no request of
another one.
-/

namespace Bumble.Gatt

open Att

/-! ## 1. Staged values -/

/-- The parts for one attribute, one after the other over its value. -/
def applyParts (queue : List (UInt16 × UInt16 × Bytes)) (handle : UInt16) (value : Bytes) : Bytes :=
  (queue.filter fun write => write.1 == handle).foldl
    (fun value write => overwrite value write.2.1.toNat write.2.2) value

theorem applyParts_cons (write : UInt16 × UInt16 × Bytes) (queue : List (UInt16 × UInt16 × Bytes))
    (handle : UInt16) (value : Bytes) :
    applyParts (write :: queue) handle value =
      applyParts queue handle
        (if write.1 = handle then overwrite value write.2.1.toNat write.2.2 else value) := by
  rw [applyParts, List.filter_cons]
  by_cases hsame : write.1 = handle
  · rw [if_pos (beq_iff_eq.mpr hsame), if_pos hsame]
    rfl
  · rw [if_neg (fun heq => hsame (beq_iff_eq.mp heq)), if_neg hsame]
    rfl

namespace GattServer

variable {server : GattServer} {context : AccessContext}

theorem stagePart_eq_ok {staged staged' : Std.ExtTreeMap UInt16 Bytes}
    {write : UInt16 × UInt16 × Bytes}
    (hstage : server.stagePart context staged write = .ok staged') :
    ∃ attr value, server.writable context write.1 = .ok attr ∧ attr.dynamicValue = none ∧
      staged[write.1]? = some value ∧ write.2.1.toNat ≤ value.length ∧
      staged' = staged.insert write.1 (overwrite value write.2.1.toNat write.2.2) := by
  obtain ⟨handle, offset, part⟩ := write
  unfold stagePart at hstage
  dsimp only at hstage
  split at hstage
  next => cases hstage
  next attr hattr =>
    split at hstage
    next => cases hstage
    next hstatic =>
      split at hstage
      next => cases hstage
      next value hvalue =>
        split at hstage
        next => cases hstage
        next hoffset =>
          refine ⟨attr, value, hattr, ?_, hvalue, Nat.not_lt.mp hoffset,
            (Except.ok.inj hstage).symm⟩
          rwa [Bool.not_eq_true, Option.isSome_eq_false_iff, Option.isNone_iff_eq_none] at hstatic

/-- **Staging.**  If all parts are staged, each value has had its own parts in order. -/
theorem stageAll_lookup (queue : List (UInt16 × UInt16 × Bytes)) :
    ∀ {staged staged' : Std.ExtTreeMap UInt16 Bytes},
      queue.foldlM (server.stagePart context) staged = .ok staged' →
      ∀ handle, staged'[handle]? = staged[handle]?.map (applyParts queue handle) := by
  induction queue with
  | nil =>
    intro staged staged' hstage handle
    cases hstage
    cases staged[handle]? <;> rfl
  | cons write queue ih =>
    intro staged staged' hstage handle
    rw [List.foldlM_cons] at hstage
    obtain ⟨middle, hfirst, hrest⟩ := except_bind_eq_ok hstage
    obtain ⟨attr, value, -, -, hvalue, -, rfl⟩ := stagePart_eq_ok hfirst
    rw [ih hrest, OrderedMap.getElem?_insert]
    by_cases hsame : write.1 = handle
    · rw [if_pos hsame, ← hsame, hvalue, Option.map_some, Option.map_some, applyParts_cons,
        if_pos rfl]
    · rw [if_neg hsame]
      congr 1
      funext value
      rw [applyParts_cons, if_neg hsame]

theorem staged_copy (attributes : List Attribute) :
    ∀ {staged : Std.ExtTreeMap UInt16 Bytes},
      attributes.Pairwise (fun first second => first.handle < second.handle) →
      ∀ handle, (attributes.foldl (fun staged attr => staged.insert attr.handle attr.value)
        staged)[handle]? =
        ((attributes.find? fun attr => attr.handle == handle).map Attribute.value).or
          staged[handle]? := by
  induction attributes with
  | nil =>
    intro staged _ handle
    rfl
  | cons attr attributes ih =>
    intro staged hascending handle
    obtain ⟨hfirst, hrest⟩ := List.pairwise_cons.mp hascending
    rw [List.foldl_cons, ih hrest, OrderedMap.getElem?_insert, List.find?_cons]
    by_cases hsame : attr.handle = handle
    · have hnone : attributes.find? (fun attr => attr.handle == handle) = none := by
        rw [List.find?_eq_none]
        intro other hother heq
        have hlt := hfirst other hother
        rw [hsame, ← beq_iff_eq.mp heq] at hlt
        exact absurd hlt (UInt16.lt_irrefl _)
      rw [if_pos hsame, beq_iff_eq.mpr hsame, hnone]
      rfl
    · rw [if_neg hsame, beq_eq_false_iff_ne.mpr hsame]

theorem find?_handle_of_mem {attributes : List Attribute}
    (hascending : attributes.Pairwise fun first second => first.handle < second.handle)
    {attr : Attribute} (hattr : attr ∈ attributes) :
    attributes.find? (fun other => other.handle == attr.handle) = some attr := by
  induction attributes with
  | nil => cases hattr
  | cons first attributes ih =>
    obtain ⟨hfirst, hrest⟩ := List.pairwise_cons.mp hascending
    rw [List.find?_cons]
    rcases List.mem_cons.mp hattr with rfl | hlater
    · rw [BEq.rfl]
    · have hne : first.handle ≠ attr.handle := (UInt16.ne_of_lt (hfirst attr hlater))
      rw [beq_eq_false_iff_ne.mpr hne]
      exact ih hrest hlater

/-! ## 2. Executing the queue -/

def queue (server : GattServer) (bearerId : UInt64) : List (UInt16 × UInt16 × Bytes) :=
  server.preparedWrites[bearerId]?.getD []

def cleared (server : GattServer) (bearerId : UInt64) : GattServer :=
  { server with preparedWrites := server.preparedWrites.erase bearerId }

def stagedCopy (server : GattServer) : Std.ExtTreeMap UInt16 Bytes :=
  server.attributes.foldl (fun staged attr => staged.insert attr.handle attr.value) ∅

theorem executeWrites_one : server.executeWrites 1 context =
    match (server.queue context.bearerId).foldlM
      ((server.cleared context.bearerId).stagePart context)
        server.stagedCopy with
    | .error (handle, code) =>
      (server.cleared context.bearerId, error Codes.attExecuteWriteRequest handle code)
    | .ok staged =>
      ((server.cleared context.bearerId).mapAttributes
        (fun attr => { attr with value := staged[attr.handle]?.getD attr.value }) (fun _ => rfl),
        .executeWriteResponse) := by
  rw [executeWrites, if_neg (by decide), if_neg (by decide)]
  rfl

/-- **All.**  An execution that succeeds writes every attribute's parts, in order. -/
theorem executeWrites_success {server' : GattServer}
    (hexecute : server.executeWrites 1 context = (server', .executeWriteResponse)) :
    server'.attributes = server.attributes.map fun attr =>
      { attr with value := applyParts (server.queue context.bearerId) attr.handle attr.value } := by
  rw [executeWrites_one] at hexecute
  cases hstage : (server.queue context.bearerId).foldlM
      ((server.cleared context.bearerId).stagePart context) server.stagedCopy with
  | error failure =>
    rw [hstage] at hexecute
    cases hexecute
  | ok staged =>
    rw [hstage] at hexecute
    cases hexecute
    change server.attributes.map _ = _
    apply List.map_congr_left
    intro attr hattr
    have hcopy := @staged_copy server.attributes ∅ server.ascending attr.handle
    rw [find?_handle_of_mem server.ascending hattr] at hcopy
    have hvalue : server.stagedCopy[attr.handle]? = some attr.value := hcopy
    rw [stageAll_lookup _ hstage attr.handle, hvalue]
    rfl

/-- **Or nothing.**  An execution that is refused or cancelled changes no attribute. -/
theorem executeWrites_otherwise {flags : UInt8}
    (hanswer : flags = 0 ∨ (server.executeWrites flags context).2 ≠ .executeWriteResponse) :
    (server.executeWrites flags context).1.attributes = server.attributes := by
  by_cases hzero : flags = 0
  · rw [executeWrites, if_pos hzero]
  by_cases hone : flags = 1
  · subst hone
    have hrefused := hanswer.resolve_left hzero
    rw [executeWrites_one] at hrefused ⊢
    cases hstage : (server.queue context.bearerId).foldlM
        ((server.cleared context.bearerId).stagePart context) server.stagedCopy with
    | error failure => rfl
    | ok staged =>
      rw [hstage] at hrefused
      exact absurd rfl hrefused
  · rw [executeWrites, if_neg hzero, if_pos hone]

theorem executeWrites_queue {flags : UInt8} (hflags : flags = 0 ∨ flags = 1) :
    (server.executeWrites flags context).1.preparedWrites =
      server.preparedWrites.erase context.bearerId := by
  rcases hflags with rfl | rfl
  · rfl
  · rw [executeWrites_one]
    split <;> rfl

/-! ## 3. Other bearers -/

/-- What a bearer has of its own is the same in both servers, unless it is the given one. -/
structure SameElsewhere (bearerId : UInt64) (server server' : GattServer) : Prop where
  mtus : ∀ other, other ≠ bearerId → server'.negotiatedMtus[other]? = server.negotiatedMtus[other]?
  queues : ∀ other, other ≠ bearerId →
    server'.preparedWrites[other]? = server.preparedWrites[other]?
  subscriptions : ∀ other, other ≠ bearerId →
    server'.subscriptions other = server.subscriptions other

theorem SameElsewhere.refl (bearerId : UInt64) (server : GattServer) :
    SameElsewhere bearerId server server :=
  ⟨fun _ _ => rfl, fun _ _ => rfl, fun _ _ => rfl⟩

theorem write_elsewhere {dynamic : DynamicValue} {subscriptions subscriptions' : Subscriptions}
    {value : Bytes} (hwrite : dynamic.write subscriptions context value = .ok subscriptions')
    {other : UInt64} (hother : other ≠ context.bearerId) :
    subscriptions' other = subscriptions other := by
  unfold DynamicValue.write at hwrite
  split at hwrite
  next valueHandle =>
    split at hwrite
    next low high =>
      cases hwrite
      funext handle
      exact if_neg fun hboth => hother hboth.1
    next =>
      cases hwrite
      rfl
  next write =>
    cases hresult : write context value with
    | error code =>
      rw [hresult] at hwrite
      cases hwrite
    | ok _ =>
      rw [hresult] at hwrite
      cases hwrite
      rfl
  next => cases hwrite

/-- An attribute without its value: what no request changes. -/
def frame (attr : Attribute) : Attribute := { attr with value := [] }

def layout (server : GattServer) : List Attribute := server.attributes.map frame

/-- Values and the bearer's subscriptions apart, the second server is the first. -/
structure OnlyValues (bearerId : UInt64) (server server' : GattServer) : Prop where
  layout : server'.layout = server.layout
  maxMtu : server'.mtu = server.mtu
  mtus : server'.negotiatedMtus = server.negotiatedMtus
  queues : server'.preparedWrites = server.preparedWrites
  subscriptions : ∀ other, other ≠ bearerId →
    server'.subscriptions other = server.subscriptions other

theorem OnlyValues.refl (bearerId : UInt64) (server : GattServer) :
    OnlyValues bearerId server server := ⟨rfl, rfl, rfl, rfl, fun _ _ => rfl⟩

theorem OnlyValues.elsewhere {bearerId : UInt64} {server' : GattServer}
    (hvalues : OnlyValues bearerId server server') : SameElsewhere bearerId server server' := by
  refine ⟨?_, ?_, hvalues.subscriptions⟩
  · intro other _
    rw [hvalues.mtus]
  · intro other _
    rw [hvalues.queues]

theorem OnlyValues.mapAttributes (bearerId : UInt64) (f : Attribute → Attribute)
    (hhandle : ∀ attr, (f attr).handle = attr.handle)
    (hframe : ∀ attr, frame (f attr) = frame attr) :
    OnlyValues bearerId server (server.mapAttributes f hhandle) := by
  refine ⟨?_, rfl, rfl, rfl, fun _ _ => rfl⟩
  change (server.attributes.map f).map frame = server.attributes.map frame
  rw [List.map_map]
  exact List.map_congr_left fun attr _ => hframe attr

theorem onlyValues_writeValue {attr : Attribute} {value : Bytes} {server' : GattServer}
    (hwrite : server.writeValue attr context value = .ok server') :
    OnlyValues context.bearerId server server' := by
  unfold writeValue at hwrite
  split at hwrite
  next dynamic _ =>
    cases hresult : dynamic.write server.subscriptions context value with
    | error code =>
      rw [hresult] at hwrite
      cases hwrite
    | ok subscriptions =>
      rw [hresult] at hwrite
      cases hwrite
      exact ⟨rfl, rfl, rfl, rfl, fun _ hother => write_elsewhere hresult hother⟩
  next =>
    cases hwrite
    refine .mapAttributes _ _ _ ?_
    intro attr
    split <;> rfl

theorem onlyValues_applyCommand (attributeHandle : UInt16) (attributeValue : Bytes) :
    OnlyValues context.bearerId server
      (server.applyCommand attributeHandle attributeValue context) := by
  unfold applyCommand
  split
  next => exact .refl _ _
  next attr _ =>
    cases hwrite : server.writeValue attr context attributeValue with
    | error code => exact .refl _ _
    | ok server' => exact onlyValues_writeValue hwrite

theorem onlyValues_writeRequest (attributeHandle : UInt16) (attributeValue : Bytes) :
    OnlyValues context.bearerId server
      (server.writeRequest attributeHandle attributeValue context).1 := by
  unfold writeRequest
  split
  next => exact .refl _ _
  next attr _ =>
    split
    next server' hwrite => exact onlyValues_writeValue hwrite
    next => exact .refl _ _

theorem onlyValues_signedWriteCommand (cmac : Cmac) (attributeHandle : UInt16)
    (attributeValue : Bytes) (signCounter : UInt32) (signature : Vector UInt8 8) :
    OnlyValues context.bearerId server (server.signedWriteCommand cmac attributeHandle
      attributeValue signCounter signature context).1 := by
  unfold signedWriteCommand
  split
  next verifier _ =>
    have happly := @onlyValues_applyCommand { server with signedWriteVerifier := some verifier }
      { context with authenticated := true } attributeHandle attributeValue
    exact ⟨happly.layout, happly.maxMtu, happly.mtus, happly.queues, happly.subscriptions⟩
  next => exact .refl _ _

theorem sameElsewhere_erase : SameElsewhere context.bearerId server
    (server.cleared context.bearerId) := by
  refine ⟨fun _ _ => rfl, fun other hother => ?_, fun _ _ => rfl⟩
  exact (OrderedMap.getElem?_erase _ _ _).trans (if_neg hother.symm)

theorem sameElsewhere_prepareWriteRequest (attributeHandle valueOffset : UInt16)
    (partAttributeValue : Bytes) :
    SameElsewhere context.bearerId server
      (server.prepareWriteRequest attributeHandle valueOffset partAttributeValue context).1 := by
  unfold prepareWriteRequest
  split
  next => exact .refl _ _
  next attr _ =>
    split
    next => exact .refl _ _
    next =>
      refine ⟨fun _ _ => rfl, fun other hother => ?_, fun _ _ => rfl⟩
      exact (OrderedMap.getElem?_insert _ _ _ _).trans (if_neg hother.symm)

theorem sameElsewhere_executeWrites (flags : UInt8) :
    SameElsewhere context.bearerId server (server.executeWrites flags context).1 := by
  by_cases hzero : flags = 0
  · rw [executeWrites, if_pos hzero]
    exact sameElsewhere_erase
  by_cases hone : flags = 1
  · subst hone
    rw [executeWrites_one]
    have herase := @sameElsewhere_erase server context
    split
    · exact herase
    · exact ⟨herase.mtus, herase.queues, herase.subscriptions⟩
  · rw [executeWrites, if_neg hzero, if_pos hone]
    exact .refl _ _

theorem sameElsewhere_exchangeMtuRequest (clientRxMtu : UInt16) :
    SameElsewhere context.bearerId server (server.exchangeMtuRequest clientRxMtu context).1 := by
  refine ⟨fun other hother => ?_, fun _ _ => rfl, fun _ _ => rfl⟩
  exact (OrderedMap.getElem?_insert _ _ _ _).trans (if_neg hother.symm)

/-- **Isolation.**  A request leaves what the other bearers have as it is. -/
theorem onRequest_elsewhere (cmac : Cmac) (request : AttPdu) :
    SameElsewhere context.bearerId server
      (server.onRequestWithContext cmac request context).1 := by
  cases request with
  | exchangeMtuRequest clientRxMtu => exact sameElsewhere_exchangeMtuRequest clientRxMtu
  | writeRequest attributeHandle attributeValue =>
    exact (onlyValues_writeRequest attributeHandle attributeValue).elsewhere
  | writeCommand attributeHandle attributeValue =>
    exact (onlyValues_applyCommand attributeHandle attributeValue).elsewhere
  | signedWriteCommand attributeHandle attributeValue signCounter signature =>
    exact (onlyValues_signedWriteCommand cmac attributeHandle attributeValue signCounter
      signature).elsewhere
  | prepareWriteRequest attributeHandle valueOffset partAttributeValue =>
    exact sameElsewhere_prepareWriteRequest attributeHandle valueOffset partAttributeValue
  | executeWriteRequest flags => exact sameElsewhere_executeWrites flags
  | _ => exact .refl _ _

/-- **Queued writes are atomic and bearers are isolated.**  An execution with flags 1 that
    succeeds applies the bearer's parts and nothing else; one that fails and a cancellation
    change no attribute; the queue is empty after flags 0 or 1; and no request of a bearer
    changes the MTU, the queue or the configuration bits of another one. -/
theorem queued_writes_atomic (cmac : Cmac) (server : GattServer) (context : AccessContext) :
    (∀ flags, (flags = 0 ∨
        (server.onRequestWithContext cmac (.executeWriteRequest flags) context).2 ≠
          .executeWriteResponse) →
      (server.onRequestWithContext cmac (.executeWriteRequest flags) context).1.attributes =
        server.attributes) ∧
    (∀ flags, flags ≠ 0 →
      (server.onRequestWithContext cmac (.executeWriteRequest flags) context).2 =
        .executeWriteResponse →
      (server.onRequestWithContext cmac (.executeWriteRequest flags) context).1.attributes =
        server.attributes.map fun attr =>
          { attr with
            value := applyParts (server.queue context.bearerId) attr.handle attr.value }) ∧
    (∀ flags, flags = 0 ∨ flags = 1 →
      (server.onRequestWithContext cmac (.executeWriteRequest flags) context).1.queue
        context.bearerId = []) ∧
    ∀ request, SameElsewhere context.bearerId server
      (server.onRequestWithContext cmac request context).1 := by
  refine ⟨?_, ?_, ?_, ?_⟩
  · intro flags hanswer
    exact executeWrites_otherwise hanswer
  · intro flags hflags hanswer
    change (server.executeWrites flags context).2 = _ at hanswer
    by_cases hone : flags = 1
    · subst hone
      exact executeWrites_success (Prod.ext rfl hanswer)
    · rw [executeWrites, if_neg hflags, if_pos hone] at hanswer
      cases hanswer
  · intro flags hflags
    change (server.executeWrites flags context).1.queue _ = _
    rw [queue, executeWrites_queue hflags, OrderedMap.getElem?_erase, if_pos rfl]
    rfl
  · intro request
    exact onRequest_elsewhere cmac request

def valueOf (server : GattServer) (handle : UInt16) : Option Bytes :=
  (server.find handle).map Attribute.value

/-- A cancellation is a success that applies nothing. -/
theorem cancelled_not_applied :
    (GattServer.fromDefinitions (batteries [Permissions.readable ||| Permissions.writeable])).map
        (fun server =>
          let prepared := (server.prepareWriteRequest 3 0 [0x32] plainContext).1
          let executed := prepared.executeWrites 0 plainContext
          (prepared.queue 0, executed.2, executed.1.valueOf 3,
            applyParts (prepared.queue 0) 3 [0x64])) =
      .ok ([(3, 0, [0x32])], .executeWriteResponse, some [0x64], [0x32]) := by
  rfl

/-! ## 5. Interleaved bearers -/

def serve (cmac : Cmac) (server : GattServer) (requests : List (AttPdu × AccessContext)) :
    GattServer :=
  requests.foldl (fun server request =>
    (server.onRequestWithContext cmac request.1 request.2).1) server

/-- The two servers have the same layout, and the same MTU and queue for the bearer. -/
structure SameBearer (bearerId : UInt64) (server other : GattServer) : Prop where
  layout : server.layout = other.layout
  maxMtu : server.mtu = other.mtu
  mtu : server.negotiatedMtus[bearerId]? = other.negotiatedMtus[bearerId]?
  queue : server.preparedWrites[bearerId]? = other.preparedWrites[bearerId]?

theorem executeWrites_layout (flags : UInt8) :
    (server.executeWrites flags context).1.layout = server.layout ∧
      (server.executeWrites flags context).1.mtu = server.mtu ∧
      (server.executeWrites flags context).1.negotiatedMtus = server.negotiatedMtus := by
  by_cases hzero : flags = 0
  · rw [executeWrites, if_pos hzero]
    exact ⟨rfl, rfl, rfl⟩
  by_cases hone : flags = 1
  · subst hone
    rw [executeWrites_one]
    split
    · exact ⟨rfl, rfl, rfl⟩
    · next staged _ =>
      have hvalues := @OnlyValues.mapAttributes (server.cleared context.bearerId) context.bearerId
        (fun attr => { attr with value := staged[attr.handle]?.getD attr.value }) (fun _ => rfl)
        fun _ => rfl
      exact ⟨hvalues.layout, hvalues.maxMtu, hvalues.mtus⟩
  · rw [executeWrites, if_neg hzero, if_pos hone]
    exact ⟨rfl, rfl, rfl⟩

theorem prepareWriteRequest_layout (attributeHandle valueOffset : UInt16) (part : Bytes) :
    (server.prepareWriteRequest attributeHandle valueOffset part context).1.layout = server.layout ∧
      (server.prepareWriteRequest attributeHandle valueOffset part context).1.mtu = server.mtu ∧
      (server.prepareWriteRequest attributeHandle valueOffset part context).1.negotiatedMtus =
        server.negotiatedMtus := by
  unfold prepareWriteRequest
  split
  · exact ⟨rfl, rfl, rfl⟩
  · split <;> exact ⟨rfl, rfl, rfl⟩

theorem onRequest_layout (cmac : Cmac) (request : AttPdu) :
    (server.onRequestWithContext cmac request context).1.layout = server.layout ∧
      (server.onRequestWithContext cmac request context).1.mtu = server.mtu := by
  cases request with
  | writeRequest attributeHandle attributeValue =>
    have hvalues := @onlyValues_writeRequest server context attributeHandle attributeValue
    exact ⟨hvalues.layout, hvalues.maxMtu⟩
  | writeCommand attributeHandle attributeValue =>
    have hvalues := @onlyValues_applyCommand server context attributeHandle attributeValue
    exact ⟨hvalues.layout, hvalues.maxMtu⟩
  | signedWriteCommand attributeHandle attributeValue signCounter signature =>
    have hvalues := @onlyValues_signedWriteCommand server context cmac attributeHandle
      attributeValue
      signCounter signature
    exact ⟨hvalues.layout, hvalues.maxMtu⟩
  | prepareWriteRequest attributeHandle valueOffset part =>
    obtain ⟨hlayout, hmtu, -⟩ :=
      @prepareWriteRequest_layout server context attributeHandle valueOffset part
    exact ⟨hlayout, hmtu⟩
  | executeWriteRequest flags =>
    obtain ⟨hlayout, hmtu, -⟩ := @executeWrites_layout server context flags
    exact ⟨hlayout, hmtu⟩
  | _ => exact ⟨rfl, rfl⟩

/-- Whether an attribute may be written is decided by its frame. -/
theorem writable_frame (handle : UInt16) :
    (server.writable context handle).map frame =
      match server.layout.find? fun attr => attr.handle == handle with
      | some attr => (checkWriteAccess attr.permissions context).map fun _ => attr
      | none => .error attAttributeNotFoundError := by
  have hfind : (server.layout.find? fun attr => attr.handle == handle) =
      (server.find handle).map frame := List.find?_map
  rw [hfind, writable]
  cases server.find handle with
  | none => rfl
  | some attr =>
    change Except.map frame (Except.map _ (checkWriteAccess attr.permissions context)) =
      Except.map _ (checkWriteAccess attr.permissions context)
    cases checkWriteAccess attr.permissions context <;> rfl

namespace SameBearer

variable {bearerId : UInt64} {other : GattServer}

theorem values {server' other' : GattServer} (hsame : SameBearer bearerId server other)
    (hvalues : OnlyValues bearerId server server') (hvalues' : OnlyValues bearerId other other') :
    SameBearer bearerId server' other' := by
  refine ⟨?_, ?_, ?_, ?_⟩
  · rw [hvalues.layout, hvalues'.layout, hsame.layout]
  · rw [hvalues.maxMtu, hvalues'.maxMtu, hsame.maxMtu]
  · rw [hvalues.mtus, hvalues'.mtus, hsame.mtu]
  · rw [hvalues.queues, hvalues'.queues, hsame.queue]

theorem prepareWriteRequest_queue (hsame : SameBearer context.bearerId server other)
    (attributeHandle valueOffset : UInt16) (part : Bytes) :
    (server.prepareWriteRequest attributeHandle valueOffset part
      context).1.preparedWrites[context.bearerId]? =
      (other.prepareWriteRequest attributeHandle valueOffset part
        context).1.preparedWrites[context.bearerId]? := by
  have hwritable : (server.writable context attributeHandle).map frame =
      (other.writable context attributeHandle).map frame := by
    rw [writable_frame, writable_frame, hsame.layout]
  unfold prepareWriteRequest
  cases hfirst : server.writable context attributeHandle with
  | error code =>
    cases hsecond : other.writable context attributeHandle with
    | error code' => exact hsame.queue
    | ok attr' =>
      rw [hfirst, hsecond] at hwritable
      cases hwritable
  | ok attr =>
    cases hsecond : other.writable context attributeHandle with
    | error code' =>
      rw [hfirst, hsecond] at hwritable
      cases hwritable
    | ok attr' =>
      rw [hfirst, hsecond] at hwritable
      change (Except.ok (frame attr) : Except UInt8 Attribute) = .ok (frame attr') at hwritable
      have hframe : frame attr = frame attr' := Except.ok.inj hwritable
      have hdynamic : (frame attr).dynamicValue = (frame attr').dynamicValue := by rw [hframe]
      change attr.dynamicValue = attr'.dynamicValue at hdynamic
      dsimp only
      rw [hdynamic]
      split
      · exact hsame.queue
      · simp only [OrderedMap.getElem?_insert, if_true, hsame.queue]

theorem executeWrites_queue (hsame : SameBearer context.bearerId server other) (flags : UInt8) :
    (server.executeWrites flags context).1.preparedWrites[context.bearerId]? =
      (other.executeWrites flags context).1.preparedWrites[context.bearerId]? := by
  by_cases hflags : flags = 0 ∨ flags = 1
  · rw [GattServer.executeWrites_queue hflags, GattServer.executeWrites_queue hflags,
      OrderedMap.getElem?_erase, OrderedMap.getElem?_erase, if_pos rfl, if_pos rfl]
  · rw [not_or] at hflags
    rw [executeWrites, executeWrites, if_neg hflags.1, if_neg hflags.1, if_pos hflags.2,
      if_pos hflags.2]
    exact hsame.queue

/-- A request of the bearer does the same to what both servers keep for it. -/
theorem own (cmac : Cmac) (request : AttPdu) (hsame : SameBearer context.bearerId server other) :
    SameBearer context.bearerId (server.onRequestWithContext cmac request context).1
      (other.onRequestWithContext cmac request context).1 := by
  cases request with
  | exchangeMtuRequest clientRxMtu =>
    refine ⟨hsame.layout, hsame.maxMtu, ?_, hsame.queue⟩
    simp only [onRequestWithContext, exchangeMtuRequest, OrderedMap.getElem?_insert, if_true,
      hsame.maxMtu]
  | writeRequest => exact hsame.values (onlyValues_writeRequest _ _) (onlyValues_writeRequest _ _)
  | writeCommand => exact hsame.values (onlyValues_applyCommand _ _) (onlyValues_applyCommand _ _)
  | signedWriteCommand =>
    exact hsame.values (onlyValues_signedWriteCommand ..) (onlyValues_signedWriteCommand ..)
  | prepareWriteRequest attributeHandle valueOffset part =>
    obtain ⟨hlayout, hmtu, hmtus⟩ :=
      @prepareWriteRequest_layout server context attributeHandle valueOffset part
    obtain ⟨hlayout', hmtu', hmtus'⟩ :=
      @prepareWriteRequest_layout other context attributeHandle valueOffset part
    exact ⟨hlayout.trans (hsame.layout.trans hlayout'.symm),
      hmtu.trans (hsame.maxMtu.trans hmtu'.symm),
      (congrArg (·[context.bearerId]?) hmtus).trans (hsame.mtu.trans
        (congrArg (·[context.bearerId]?) hmtus').symm),
      hsame.prepareWriteRequest_queue attributeHandle valueOffset part⟩
  | executeWriteRequest flags =>
    obtain ⟨hlayout, hmtu, hmtus⟩ := @executeWrites_layout server context flags
    obtain ⟨hlayout', hmtu', hmtus'⟩ := @executeWrites_layout other context flags
    exact ⟨hlayout.trans (hsame.layout.trans hlayout'.symm),
      hmtu.trans (hsame.maxMtu.trans hmtu'.symm),
      (congrArg (·[context.bearerId]?) hmtus).trans (hsame.mtu.trans
        (congrArg (·[context.bearerId]?) hmtus').symm), hsame.executeWrites_queue flags⟩
  | _ => exact hsame

/-- A request of another bearer leaves what the server keeps for the bearer. -/
theorem elsewhere (cmac : Cmac) (request : AttPdu) (hsame : SameBearer bearerId server other)
    (hother : bearerId ≠ context.bearerId) :
    SameBearer bearerId (server.onRequestWithContext cmac request context).1 other := by
  obtain ⟨hlayout, hmtu⟩ := @onRequest_layout server context cmac request
  have helsewhere := @onRequest_elsewhere server context cmac request
  exact ⟨hlayout.trans hsame.layout, hmtu.trans hsame.maxMtu,
    (helsewhere.mtus bearerId hother).trans hsame.mtu,
    (helsewhere.queues bearerId hother).trans hsame.queue⟩

end SameBearer

theorem serve_sameBearer (cmac : Cmac) (bearerId : UInt64)
    (requests : List (AttPdu × AccessContext)) :
    ∀ {server other : GattServer}, SameBearer bearerId server other →
      SameBearer bearerId (server.serve cmac requests)
        (other.serve cmac (requests.filter fun request => request.2.bearerId = bearerId)) := by
  induction requests with
  | nil => exact fun hsame => hsame
  | cons request requests ih =>
    intro server other hsame
    by_cases hbearer : request.2.bearerId = bearerId
    · subst hbearer
      rw [List.filter_cons_of_pos (by simp)]
      exact ih (hsame.own cmac request.1)
    · rw [List.filter_cons_of_neg (by simpa using hbearer)]
      exact ih (hsame.elsewhere cmac request.1 (Ne.symm hbearer))

theorem serve_layout (cmac : Cmac) (requests : List (AttPdu × AccessContext)) :
    ∀ server : GattServer, (server.serve cmac requests).layout = server.layout := by
  induction requests with
  | nil => exact fun _ => rfl
  | cons request requests ih =>
    intro server
    exact (ih _).trans (onRequest_layout cmac request.1).1

/-- **Bearers do not disturb each other.**  Whatever requests arrive in between on other bearers,
    the MTU and the queue of a bearer are those that its own requests alone would have left, and
    no request changes which attributes there are, their types, groups, permissions or kinds. -/
theorem interleaved_bearers (cmac : Cmac) (server : GattServer) (bearerId : UInt64)
    (requests : List (AttPdu × AccessContext)) :
    let alone := server.serve cmac (requests.filter fun request => request.2.bearerId = bearerId)
    (server.serve cmac requests).negotiatedMtu bearerId = alone.negotiatedMtu bearerId ∧
      (server.serve cmac requests).queue bearerId = alone.queue bearerId ∧
      (server.serve cmac requests).layout = server.layout := by
  have hsame := @serve_sameBearer cmac bearerId requests server server ⟨rfl, rfl, rfl, rfl⟩
  refine ⟨?_, ?_, serve_layout cmac requests server⟩
  · rw [negotiatedMtu, negotiatedMtu, hsame.mtu]
  · rw [queue, queue, hsame.queue]

end GattServer

end Bumble.Gatt
