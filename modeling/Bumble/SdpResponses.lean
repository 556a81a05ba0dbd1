import Bumble.SdpServer

/-!
# Responses fit the MTU

Each kind of response leaves room for its header and its continuation state.  The total of a
search is kept with the handles that are left of it, so its field is right as long as the
search found no more records than the field can count.
-/

namespace Bumble.Sdp.SdpServer

/-! ## 1. Runs -/

inductive Event where
  | addService (handle : UInt32) (attributes : List ServiceAttribute)
  | request (request : SdpPdu)

def next (server : SdpServer) (event : Event) : SdpServer :=
  match event with
  | .addService handle attributes => server.addService handle attributes
  | .request request => (server.handleRequest request).1

def run (server : SdpServer) (events : List Event) : SdpServer := events.foldl next server

/-- How many records the last search found, when it was asked for afresh. -/
def foundBy (server : SdpServer) (count : Nat) (event : Event) : Nat :=
  match event with
  | .request (.serviceSearchRequest _ pattern _ continuationState) =>
    if continuationState.length > 1 then count else (server.matchServices pattern).length
  | _ => count

def found (server : SdpServer) (count : Nat) : List Event → Nat
  | [] => count
  | event :: events => found (server.next event) (server.foundBy count event) events

/-! ## 2. Answers -/

/-- The fields that count what follows them, and the total of a search, given the number of
    records that it found. -/
def FieldsExact (count : Nat) (answer : SdpPdu) (parameters : Bytes) : Prop :=
  match answer with
  | .serviceSearchResponse _ total handles _ =>
    total.toNat = count ∧ beToNat ((parameters.drop 2).take 2) = handles.length
  | .serviceAttributeResponse _ list _ => beToNat (parameters.take 2) = list.length
  | .serviceSearchAttributeResponse _ lists _ => beToNat (parameters.take 2) = lists.length
  | _ => True

/-- An answer fits the MTU and its length and count fields are exact. -/
def AnswerFits (mtu count : Nat) (answer : SdpPdu) : Prop :=
  ∃ parameters bytes, answer.parameters = .ok parameters ∧ answer.toBytes = .ok bytes ∧
    bytes.length ≤ mtu ∧ bytes.drop 5 = parameters ∧
    beToNat ((bytes.drop 3).take 2) = parameters.length ∧ FieldsExact count answer parameters

variable {mtu count : Nat}

theorem answerFits_of_parameters {answer : SdpPdu} {parameters : Bytes}
    (hparameters : answer.parameters = .ok parameters) (hmtu : parameters.length + 5 ≤ mtu)
    (hbound : mtu < 65536) (hexact : FieldsExact count answer parameters) :
    AnswerFits mtu count answer := by
  refine ⟨parameters, _, hparameters, by rw [SdpPdu.toBytes, hparameters]; rfl, ?_, rfl, ?_, hexact⟩
  · rw [List.length_cons, List.length_append, List.length_append, u16ToBe, length_natToBe,
      SdpPdu.length_lengthToBe]
    omega
  · exact SdpPdu.beToNat_lengthToBe (by omega)

theorem errorResponse_fits (transactionId errorCode : UInt16) (hmtu : 11 ≤ mtu)
    (hbound : mtu < 65536) : AnswerFits mtu count (.errorResponse transactionId errorCode) := by
  refine @answerFits_of_parameters _ _ (.errorResponse transactionId errorCode) _ rfl ?_ hbound
    trivial
  rw [length_u16ToLe]
  omega

theorem list_fits {list continuation : Bytes} {answer : SdpPdu}
    (hparameters : answer.parameters =
      .ok (SdpPdu.lengthToBe list.length ++ (list ++ continuation)))
    (hexact : ∀ parameters, beToNat (parameters.take 2) = list.length →
      FieldsExact count answer parameters)
    (hmtu : 11 ≤ mtu) (hbound : mtu < 65536) (hlist : list.length ≤ mtu - 9)
    (hcontinuation : continuation.length ≤ 2) : AnswerFits mtu count answer := by
  refine answerFits_of_parameters hparameters ?_ hbound (hexact _ ?_)
  · rw [List.length_append, List.length_append, SdpPdu.length_lengthToBe]
    omega
  · rw [List.take_left' (SdpPdu.length_lengthToBe _), SdpPdu.beToNat_lengthToBe (by omega)]

theorem search_fits {transactionId total : UInt16} {handles : List UInt32} {continuation : Bytes}
    (htotal : total.toNat = count) (hmtu : 11 ≤ mtu) (hbound : mtu < 65536)
    (hhandles : handles.length ≤ (mtu - 11) / 4) (hcontinuation : continuation.length ≤ 2) :
    AnswerFits mtu count (.serviceSearchResponse transactionId total handles continuation) := by
  apply answerFits_of_parameters rfl _ hbound
  · have hdrop : (u16ToBe total).length = 2 := length_natToBe 2 _
    refine ⟨htotal, ?_⟩
    rw [List.drop_left' hdrop, List.take_left' (SdpPdu.length_lengthToBe _),
      SdpPdu.beToNat_lengthToBe (by omega)]
  · rw [List.length_append, List.length_append, List.length_append, u16ToBe, length_natToBe,
      SdpPdu.length_lengthToBe, SdpPdu.length_handles]
    omega

/-! ## 3. One request -/

/-- The total that is kept is the number of records that were found. -/
def Counted (server : SdpServer) (count : Nat) : Prop :=
  ∀ total remaining, server.currentResponse = some (.handles total remaining) →
    total.toNat = count

theorem nextBytePayload_fits (server : SdpServer) (maximumSize : Nat)
    (hcounted : server.Counted count) :
    (server.nextBytePayload maximumSize).1.mtu = server.mtu ∧
      (server.nextBytePayload maximumSize).1.Counted count ∧
      (server.nextBytePayload maximumSize).2.1.length ≤ maximumSize ∧
      (server.nextBytePayload maximumSize).2.2.length ≤ 2 := by
  rw [nextBytePayload]
  split
  · split
    · refine ⟨rfl, ?_, List.length_take_le _ _, Nat.le_refl 2⟩
      intro total remaining hhandles
      cases hhandles
    · next hlength =>
      refine ⟨rfl, ?_, Nat.le_of_not_lt hlength, Nat.le_succ 1⟩
      intro total remaining hhandles
      cases hhandles
  · exact ⟨rfl, hcounted, Nat.zero_le _, Nat.le_succ 1⟩
  · exact ⟨rfl, hcounted, Nat.zero_le _, Nat.le_succ 1⟩

theorem checkContinuation_cases (server : SdpServer) (continuationState : Bytes) :
    (continuationState.length > 1 ∧
      ((∃ errorCode, server.checkContinuation continuationState = (server, .error errorCode)) ∨
        server.checkContinuation continuationState = (server, .continue))) ∨
    (¬ continuationState.length > 1 ∧ server.checkContinuation continuationState =
      ({ server with currentResponse := none }, .fresh)) := by
  rw [checkContinuation]
  split
  · next hlength =>
    left
    split
    · exact ⟨hlength, .inl ⟨_, rfl⟩⟩
    · exact ⟨hlength, .inr rfl⟩
  · next hlength => exact .inr ⟨hlength, rfl⟩

theorem counted_bytes {server : SdpServer} {left : Bytes}
    (hcurrent : server.currentResponse = some (.bytes left)) : server.Counted count := by
  intro total remaining hhandles
  cases hcurrent.symm.trans hhandles

theorem counted_none {server : SdpServer} (hcurrent : server.currentResponse = none) :
    server.Counted count := by
  intro total remaining hhandles
  cases hcurrent.symm.trans hhandles

/-- An answered request: what a step of the server keeps. -/
structure Answered (server : SdpServer) (count : Nat) (result : SdpServer × SdpPdu) : Prop where
  mtu : result.1.mtu = server.mtu
  counted : result.1.Counted count
  fits : AnswerFits server.mtu.toNat count result.2

theorem answered_error {server after : SdpServer} (transactionId errorCode : UInt16)
    (hmtu : 11 ≤ server.mtu.toNat) (hafter : after.mtu = server.mtu)
    (hcounted : after.Counted count) :
    Answered server count (after, .errorResponse transactionId errorCode) :=
  ⟨hafter, hcounted, errorResponse_fits transactionId errorCode hmtu server.mtu.toNat_lt⟩

theorem answered_list {server : SdpServer} (after : SdpServer) {answer : Bytes → Bytes → SdpPdu}
    (maximum : UInt16) (hmtu : 11 ≤ server.mtu.toNat) (hafter : after.mtu = server.mtu)
    (hcounted : after.Counted count)
    (hparameters : ∀ list continuation, (answer list continuation).parameters =
      .ok (SdpPdu.lengthToBe list.length ++ (list ++ continuation)))
    (hexact : ∀ list continuation parameters, beToNat (List.take 2 parameters) = list.length →
      FieldsExact count (answer list continuation) parameters) :
    Answered server count
      ((after.nextBytePayload (after.attributeByteCap maximum)).1,
        answer (after.nextBytePayload (after.attributeByteCap maximum)).2.1
          (after.nextBytePayload (after.attributeByteCap maximum)).2.2) := by
  obtain ⟨hsame, hkept, hlist, hcontinuation⟩ :=
    nextBytePayload_fits after (after.attributeByteCap maximum) hcounted
  refine ⟨hsame.trans hafter, hkept, ?_⟩
  refine list_fits (hparameters _ _) (hexact _ _) hmtu server.mtu.toNat_lt ?_ hcontinuation
  calc _ ≤ after.attributeByteCap maximum := hlist
    _ ≤ after.mtu.toNat - 9 := Nat.min_le_left _ _
    _ = server.mtu.toNat - 9 := by rw [hafter]

theorem answered_searchAttribute (server : SdpServer) (transactionId : UInt16)
    (pattern : DataElement) (maximum : UInt16) (ids : DataElement) (continuationState : Bytes)
    (hmtu : 11 ≤ server.mtu.toNat) (hcounted : server.Counted count) :
    Answered server count (server.onServiceSearchAttribute transactionId pattern maximum ids
      continuationState) := by
  rcases checkContinuation_cases server continuationState with
    ⟨-, ⟨errorCode, hcheck⟩ | hcheck⟩ | ⟨-, hcheck⟩
  · simp only [onServiceSearchAttribute, hcheck]
    exact answered_error transactionId errorCode hmtu rfl hcounted
  · simp only [onServiceSearchAttribute, hcheck]
    exact answered_list server maximum hmtu rfl hcounted (fun _ _ => rfl) fun _ _ _ => id
  · simp only [onServiceSearchAttribute, hcheck]
    exact answered_list _ maximum hmtu (by rfl) (counted_bytes (by rfl)) (fun _ _ => rfl)
      fun _ _ _ => id

theorem answered_attribute (server : SdpServer) (transactionId : UInt16) (handle : UInt32)
    (maximum : UInt16) (ids : DataElement) (continuationState : Bytes)
    (hmtu : 11 ≤ server.mtu.toNat) (hcounted : server.Counted count) :
    Answered server count (server.onServiceAttribute transactionId handle maximum ids
      continuationState) := by
  rcases checkContinuation_cases server continuationState with
    ⟨-, ⟨errorCode, hcheck⟩ | hcheck⟩ | ⟨-, hcheck⟩
  · simp only [onServiceAttribute, hcheck]
    exact answered_error transactionId errorCode hmtu rfl hcounted
  · simp only [onServiceAttribute, hcheck]
    exact answered_list server maximum hmtu rfl hcounted (fun _ _ => rfl) fun _ _ _ => id
  · simp only [onServiceAttribute, hcheck]
    split
    · exact answered_list _ maximum hmtu (by rfl) (counted_bytes (by rfl)) (fun _ _ => rfl)
        fun _ _ _ => id
    · exact answered_error transactionId _ hmtu rfl (counted_none rfl)

theorem answered_handles {server : SdpServer} (after : SdpServer) (transactionId : UInt16)
    (hmtu : 11 ≤ server.mtu.toNat) (hafter : after.mtu = server.mtu)
    (hcounted : after.Counted count) :
    Answered server count (after.nextHandles transactionId) := by
  rw [nextHandles]
  split
  · next total remaining hcurrent =>
    have htotal : total.toNat = count := hcounted total remaining hcurrent
    refine ⟨hafter, ?_, ?_⟩
    · intro total' remaining' hhandles
      cases hhandles
      exact htotal
    · refine search_fits htotal hmtu server.mtu.toNat_lt ?_ ?_
      · rw [hafter]
        exact List.length_take_le _ _
      · split <;> decide
  · exact answered_error transactionId _ hmtu hafter hcounted
  · exact answered_error transactionId _ hmtu hafter hcounted

theorem answered_search (server : SdpServer) (transactionId : UInt16) (pattern : DataElement)
    (maximum : UInt16) (continuationState : Bytes) (hmtu : 11 ≤ server.mtu.toNat)
    (hcounted : server.Counted count)
    (hfew : ¬ continuationState.length > 1 → (server.matchServices pattern).length ≤ 65535) :
    Answered server
      (if continuationState.length > 1 then count else (server.matchServices pattern).length)
      (server.onServiceSearch transactionId pattern maximum continuationState) := by
  rcases checkContinuation_cases server continuationState with
    ⟨hlength, ⟨errorCode, hcheck⟩ | hcheck⟩ | ⟨hlength, hcheck⟩
  · simp only [onServiceSearch, hcheck, if_pos hlength]
    exact answered_error transactionId errorCode hmtu rfl hcounted
  · simp only [onServiceSearch, hcheck, if_pos hlength]
    exact answered_handles server transactionId hmtu rfl hcounted
  · simp only [onServiceSearch, hcheck, if_neg hlength]
    refine answered_handles _ transactionId hmtu (by rfl) ?_
    intro total remaining hhandles
    cases hhandles
    rw [List.length_map]
    exact UInt16.toNat_ofNat_of_lt' (Nat.lt_succ_of_le (hfew hlength))

/-- The searches of a step that are asked for afresh find no more records than a field
    counts. -/
def CountsFit (server : SdpServer) (event : Event) : Prop :=
  match event with
  | .request (.serviceSearchRequest _ pattern _ continuationState) =>
    ¬ continuationState.length > 1 → (server.matchServices pattern).length ≤ 65535
  | _ => True

/-- **One request.** -/
theorem answered_request (server : SdpServer) (request : SdpPdu) (hmtu : 11 ≤ server.mtu.toNat)
    (hcounted : server.Counted count) (hfit : server.CountsFit (.request request)) :
    Answered server (server.foundBy count (.request request)) (server.handleRequest request) := by
  cases request with
  | serviceSearchAttributeRequest transactionId pattern maximum ids continuationState =>
    exact answered_searchAttribute server _ _ _ _ _ hmtu hcounted
  | serviceAttributeRequest transactionId handle maximum ids continuationState =>
    exact answered_attribute server _ _ _ _ _ hmtu hcounted
  | serviceSearchRequest transactionId pattern maximum continuationState =>
    exact answered_search server _ _ _ _ hmtu hcounted hfit
  | errorResponse | serviceSearchResponse | serviceAttributeResponse
  | serviceSearchAttributeResponse => exact answered_error _ _ hmtu rfl hcounted

/-! ## 4. Whole runs -/

theorem found_append (events later : List Event) : ∀ (server : SdpServer) (count : Nat),
    server.found count (events ++ later) =
      (server.run events).found (server.found count events) later := by
  induction events with
  | nil =>
    intro server count
    rfl
  | cons event events ih =>
    intro server count
    exact ih (server.next event) (server.foundBy count event)

theorem run_counted (events : List Event) : ∀ (server : SdpServer) (count : Nat),
    11 ≤ server.mtu.toNat → server.Counted count →
    (∀ before event, before ++ [event] <+: events → (server.run before).CountsFit event) →
    (server.run events).mtu = server.mtu ∧
      (server.run events).Counted (server.found count events) := by
  induction events with
  | nil =>
    intro server count hmtu hcounted hfit
    exact ⟨rfl, hcounted⟩
  | cons event events ih =>
    intro server count hmtu hcounted hfit
    have hstep : (server.next event).mtu = server.mtu ∧
        (server.next event).Counted (server.foundBy count event) := by
      cases event with
      | addService handle attributes => exact ⟨rfl, hcounted⟩
      | request request =>
        have hnow := hfit [] (.request request) ⟨events, rfl⟩
        obtain ⟨hsame, hkept, -⟩ := answered_request server request hmtu hcounted hnow
        exact ⟨hsame, hkept⟩
    have hlater : ∀ before later, before ++ [later] <+: events →
        ((server.next event).run before).CountsFit later := by
      intro before later hbefore
      exact hfit (event :: before) later (List.cons_prefix_cons.mpr ⟨rfl, hbefore⟩)
    obtain ⟨hsame, hkept⟩ := ih (server.next event) (server.foundBy count event)
      (by rw [hstep.1]; exact hmtu) hstep.2 hlater
    exact ⟨hsame.trans hstep.1, hkept⟩

theorem total_wrong {server : SdpServer} {transactionId maximum : UInt16} {pattern : DataElement}
    {continuationState : Bytes} (hfresh : ¬ continuationState.length > 1)
    (hfits : AnswerFits mtu (server.matchServices pattern).length
      (server.onServiceSearch transactionId pattern maximum continuationState).2) :
    (server.matchServices pattern).length ≤ 65535 := by
  obtain ⟨parameters, bytes, -, -, -, -, -, hexact⟩ := hfits
  rcases checkContinuation_cases server continuationState with ⟨hlength, -⟩ | ⟨-, hcheck⟩
  · exact absurd hlength hfresh
  · simp only [onServiceSearch, hcheck] at hexact
    have htotal : (UInt16.ofNat
      ((server.matchServices pattern).map ServiceRecord.handle).length).toNat =
        (server.matchServices pattern).length := hexact.1
    have hlt := UInt16.toNat_lt
      (UInt16.ofNat ((server.matchServices pattern).map ServiceRecord.handle).length)
    rw [htotal] at hlt
    omega

/-- **Responses fit the MTU.**  In every run from a new server with an MTU of 11 at least, every
    answer fits it and has exact length and count fields, if and only if no search that is asked
    for afresh finds more than 65535 records. -/
theorem responses_fit_iff (mtu : UInt16) (hmtu : 11 ≤ mtu.toNat) (events : List Event) :
    (∀ before request, before ++ [.request request] <+: events →
      AnswerFits mtu.toNat ((new mtu).found 0 (before ++ [.request request]))
        (((new mtu).run before).handleRequest request).2) ↔
    ∀ before event, before ++ [event] <+: events → ((new mtu).run before).CountsFit event := by
  constructor
  · intro hall before event hbefore
    cases event with
    | addService handle attributes => trivial
    | request request =>
      have hfits := hall before request hbefore
      rw [found_append] at hfits
      cases request with
      | serviceSearchRequest transactionId pattern maximum continuationState =>
        intro hfresh
        change AnswerFits _ (if _ then _ else _) _ at hfits
        rw [if_neg hfresh] at hfits
        exact total_wrong hfresh hfits
      | serviceSearchAttributeRequest | serviceAttributeRequest | errorResponse
      | serviceSearchResponse | serviceAttributeResponse | serviceSearchAttributeResponse => trivial
  · intro hfit before request hbefore
    have hprefix : ∀ earlier event, earlier ++ [event] <+: before →
        ((new mtu).run earlier).CountsFit event := by
      intro earlier event hearlier
      exact hfit earlier event (hearlier.trans ((List.prefix_append _ _).trans hbefore))
    obtain ⟨hsame, hcounted⟩ := run_counted before (new mtu) 0 hmtu (counted_none rfl) hprefix
    have hanswered := answered_request ((new mtu).run before) request
      (by rw [hsame]; exact hmtu) hcounted (hfit before (.request request) hbefore)
    have hfits := hanswered.fits
    rw [hsame] at hfits
    rw [found_append]
    exact hfits

/-- One service is registered and searched for. -/
theorem one_service_fits : AnswerFits 11
    ((new 11).found 0 ([Event.addService 1 [⟨1, .uuid (Uuid.from16Bits 0x1002)⟩]] ++
      [.request (.serviceSearchRequest 7 (.sequence [.uuid (Uuid.from16Bits 0x1002)]) 5 [0])]))
    (((new 11).run [Event.addService 1 [⟨1, .uuid (Uuid.from16Bits 0x1002)⟩]]).handleRequest
      (.serviceSearchRequest 7 (.sequence [.uuid (Uuid.from16Bits 0x1002)]) 5 [0])).2 := by
  refine (responses_fit_iff 11 (by decide) _).mpr ?_ _ _ (List.prefix_refl _)
  rintro before event ⟨later, hevents⟩
  match before, hevents with
  | [], hevents =>
    cases hevents
    trivial
  | [first], hevents =>
    cases hevents
    intro _
    decide
  | first :: second :: before, hevents =>
    have hlength := congrArg List.length hevents
    simp only [List.length_append, List.length_cons, List.length_nil] at hlength
    omega

/-! ## 5. A database that is too large -/

theorem run_addServices (handle : UInt32) (attributes : List ServiceAttribute) (times : Nat) :
    ∀ server : SdpServer, server.run (List.replicate times (.addService handle attributes)) =
      { server with records := server.records ++ List.replicate times ⟨handle, attributes⟩ } := by
  induction times with
  | zero =>
    intro server
    change server = _
    rw [List.replicate_zero, List.append_nil]
  | succ times ih =>
    intro server
    change (server.addService handle attributes).run _ = _
    rw [ih, List.replicate_succ, addService, List.append_assoc]
    rfl

theorem matchServices_replicate {record : ServiceRecord} {pattern : DataElement}
    {server : SdpServer}
    {times : Nat} (hrecords : server.records = List.replicate times record)
    (hmatches : (patternUuids pattern).any (fun uuid =>
      record.attributes.any fun attr => ServiceAttribute.isUuidInValue uuid attr.value) = true) :
    (server.matchServices pattern).length = times := by
  rw [matchServices, hrecords, List.filter_eq_self.mpr, List.length_replicate]
  intro other hother
  rw [List.eq_of_mem_replicate hother]
  exact hmatches

/-- A search that finds 65536 records answers that it found none. -/
theorem total_wraps : ¬ ∀ (mtu : UInt16) (events before : List Event) (request : SdpPdu),
    11 ≤ mtu.toNat → before ++ [.request request] <+: events →
    AnswerFits mtu.toNat ((new mtu).found 0 (before ++ [.request request]))
      (((new mtu).run before).handleRequest request).2 := by
  intro hall
  obtain ⟨times, htimes⟩ : ∃ times, times = 65536 := ⟨_, rfl⟩
  let uuid := Uuid.from16Bits 0x1002
  let before := List.replicate times (Event.addService 1 [⟨1, .uuid uuid⟩])
  have hfits := hall 11 _ before (.serviceSearchRequest 7 (.sequence [.uuid uuid]) 5 [0])
    (by decide) (List.prefix_refl _)
  have hmatches : (((new 11).run before).matchServices (.sequence [.uuid uuid])).length =
      times := by
    rw [run_addServices]
    exact @matchServices_replicate ⟨1, [⟨1, .uuid uuid⟩]⟩ _ _ _ rfl (by decide)
  rw [found_append] at hfits
  have hfew := total_wrong (by decide) hfits
  omega

end Bumble.Sdp.SdpServer
