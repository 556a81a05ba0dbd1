import Bumble.AncsResponse
import Bumble.Outcome

/-!
# The client of the Apple Notification Center Service

The client has at most one command in progress.  Its response is assembled from
the fragments of the data source and parsed anew with each of them.
`survives_iff` says in which runs the client survives its server: exactly in
those in which whatever has been collected is incomplete or well formed.
-/

namespace Bumble.Ancs

/-! ## 1. Requests -/

structure NotificationAttributeRequest where
  attributeId : UInt8
  maxLength : Option UInt16
deriving DecidableEq, Repr

inductive AncsCommand where
  | getNotificationAttributes (notificationUid : UInt32)
      (attributes : List NotificationAttributeRequest)
  | getAppAttributes (appIdentifier : String) (attributes : Bytes)
  | performNotificationAction (notificationUid : UInt32) (action : UInt8)
deriving DecidableEq, Repr

def takesMaxLength (attributeId : UInt8) : Bool :=
  attributeId == NotificationAttributeId.title || attributeId == NotificationAttributeId.subtitle ||
    attributeId == NotificationAttributeId.message

def NotificationAttributeRequest.toBytes (request : NotificationAttributeRequest) :
    Except AncsError Bytes :=
  match request.maxLength with
  | some maxLength =>
    if takesMaxLength request.attributeId then .ok (request.attributeId :: u16ToLe maxLength)
    else .error (.invalidRequest
      s!"ANCS attribute {request.attributeId} cannot carry a maximum length")
  | none =>
    if takesMaxLength request.attributeId then
      .error (.invalidRequest s!"ANCS attribute {request.attributeId} requires a maximum length")
    else .ok [request.attributeId]

def AncsCommand.toBytes : AncsCommand → Except AncsError Bytes
  | .getNotificationAttributes notificationUid attributes => do
    let attributes ← attributes.mapM NotificationAttributeRequest.toBytes
    return 0 :: (u32ToLe notificationUid ++ attributes.flatten)
  | .getAppAttributes appIdentifier attributes =>
    if 0 ∈ stringBytes appIdentifier then
      .error (.invalidRequest "ANCS app identifier contains NUL")
    else .ok (1 :: (stringBytes appIdentifier ++ 0 :: attributes))
  | .performNotificationAction notificationUid action =>
    .ok (2 :: (u32ToLe notificationUid ++ [action]))

/-! ## 2. The client -/

structure AncsResponseAssembler where
  expected : ExpectedResponse
  buffer : Bytes
deriving DecidableEq, Repr

def AncsResponseAssembler.notification (notificationUid : UInt32) (attributeCount : Nat) :
    AncsResponseAssembler :=
  ⟨.notification notificationUid attributeCount, []⟩

def AncsResponseAssembler.app (appIdentifier : String) (attributeCount : Nat) :
    AncsResponseAssembler :=
  ⟨.app appIdentifier attributeCount, []⟩

def AncsResponseAssembler.push (assembler : AncsResponseAssembler) (fragment : Bytes) :
    Outcome AncsResponseAssembler Fault (Option AncsResponse) :=
  let assembler := { assembler with buffer := assembler.buffer ++ fragment }
  ⟨assembler, assembler.expected.parse assembler.buffer⟩

structure AncsClient where
  started : Bool := false
  response : Option AncsResponseAssembler := none
deriving DecidableEq, Repr

/-- What the GATT client answers to a write or a subscription. -/
abbrev Transport := Except String Unit

namespace AncsClient

/-- `AncsServiceProxy::send_command`: the command in octets, and the answer to its write. -/
def sendCommand (write : Bytes → Transport) (command : AncsCommand) : Except Fault Unit :=
  match command.toBytes with
  | .error error => .error (.error error)
  | .ok octets =>
    match write octets with
    | .error message => .error (.error (.transport message))
    | .ok () => .ok ()

def start (client : AncsClient) (subscribed : Transport) : Outcome AncsClient Fault Unit :=
  match subscribed with
  | .error message => Outcome.fail client (.error (.transport message))
  | .ok () => Outcome.ok { client with started := true } ()

def stop (client : AncsClient) (unsubscribed : Transport) : Outcome AncsClient Fault Unit :=
  match unsubscribed with
  | .error message => Outcome.fail client (.error (.transport message))
  | .ok () => Outcome.ok { client with started := false, response := none } ()

/-- Both requests for attributes: send the command and expect its response. -/
def beginRequest (client : AncsClient) (write : Bytes → Transport) (command : AncsCommand)
    (assembler : AncsResponseAssembler) : Outcome AncsClient Fault Unit :=
  if client.started = false then Outcome.fail client (.error .notStarted)
  else if client.response.isSome then Outcome.fail client (.error .inProgress)
  else
    match sendCommand write command with
    | .error fault => Outcome.fail client fault
    | .ok () => Outcome.ok { client with response := some assembler } ()

def beginNotificationAttributes (client : AncsClient) (write : Bytes → Transport)
    (notificationUid : UInt32) (attributes : List NotificationAttributeRequest) :
    Outcome AncsClient Fault Unit :=
  client.beginRequest write (.getNotificationAttributes notificationUid attributes)
    (AncsResponseAssembler.notification notificationUid attributes.length)

def beginAppAttributes (client : AncsClient) (write : Bytes → Transport) (appIdentifier : String)
    (attributes : Bytes) : Outcome AncsClient Fault Unit :=
  client.beginRequest write (.getAppAttributes appIdentifier attributes)
    (AncsResponseAssembler.app appIdentifier attributes.length)

def performAction (client : AncsClient) (write : Bytes → Transport) (notificationUid : UInt32)
    (action : UInt8) : Outcome AncsClient Fault Unit :=
  if client.started = false then Outcome.fail client (.error .notStarted)
  else ⟨client, sendCommand write (.performNotificationAction notificationUid action)⟩

def onData (client : AncsClient) (fragment : Bytes) :
    Outcome AncsClient Fault (Option AncsResponse) :=
  match client.response with
  | none => Outcome.fail client (.error .unexpectedData)
  | some assembler =>
    let pushed := assembler.push fragment
    match pushed.result with
    -- the question mark leaves before the response is taken out
    | .error fault => Outcome.fail { client with response := some pushed.state } fault
    | .ok none => Outcome.ok { client with response := some pushed.state } none
    | .ok (some response) => Outcome.ok { client with response := none } (some response)

end AncsClient

/-! ## 3. Runs -/

inductive Call where
  | start (subscribed : Transport)
  | stop (unsubscribed : Transport)
  | beginNotificationAttributes (write : Bytes → Transport) (notificationUid : UInt32)
      (attributes : List NotificationAttributeRequest)
  | beginAppAttributes (write : Bytes → Transport) (appIdentifier : String) (attributes : Bytes)
  | performAction (write : Bytes → Transport) (notificationUid : UInt32) (action : UInt8)
  | onData (fragment : Bytes)

def Call.next (client : AncsClient) : Call → AncsClient
  | .start subscribed => (client.start subscribed).state
  | .stop unsubscribed => (client.stop unsubscribed).state
  | .beginNotificationAttributes write notificationUid attributes =>
    (client.beginNotificationAttributes write notificationUid attributes).state
  | .beginAppAttributes write appIdentifier attributes =>
    (client.beginAppAttributes write appIdentifier attributes).state
  | .performAction write notificationUid action =>
    (client.performAction write notificationUid action).state
  | .onData fragment => (client.onData fragment).state

def run (calls : List Call) : AncsClient := calls.foldl Call.next {}

/-! ## 4. What a client has to survive -/

/-- A fragment is handled well: without a panic, without accepting a date that is
    none, and leaving no command in progress that has ended. -/
structure SurvivesData (client : AncsClient) (fragment : Bytes) : Prop where
  noPanic : (client.onData fragment).result ≠ .error .panic
  dates : ∀ notificationUid count buffer attributes octets response,
    client.response = some ⟨.notification notificationUid count, buffer⟩ →
    buffer ++ fragment = 0 :: (u32ToLe notificationUid ++ octets) →
    Tuples count attributes octets →
    (client.onData fragment).result = .ok (some response) →
    ∀ raw ∈ attributes, raw.1 = NotificationAttributeId.date → IsDateText raw.2
  ended : (client.onData fragment).result ≠ .ok none →
    (client.onData fragment).state.response = none

/-- A request is begun when nothing is in its way, and its response is assembled
    from nothing. -/
def SurvivesBegin (client : AncsClient) (write : Bytes → Transport) (command : AncsCommand)
    (expected : ExpectedResponse) (begun : Outcome AncsClient Fault Unit) : Prop :=
  client.started = true → client.response = none → ∀ octets, command.toBytes = .ok octets →
    write octets = .ok () → begun.result = .ok () ∧ begun.state.response = some ⟨expected, []⟩

def Survives (client : AncsClient) : Call → Prop
  | .beginNotificationAttributes write notificationUid attributes =>
    SurvivesBegin client write (.getNotificationAttributes notificationUid attributes)
      (.notification notificationUid attributes.length)
      (client.beginNotificationAttributes write notificationUid attributes)
  | .beginAppAttributes write appIdentifier attributes =>
    SurvivesBegin client write (.getAppAttributes appIdentifier attributes)
      (.app appIdentifier attributes.length)
      (client.beginAppAttributes write appIdentifier attributes)
  | .onData fragment => SurvivesData client fragment
  | _ => True

/-! ## 5. Responses that are handled well -/

/-- A value of a notification response that is what its attribute has to be. -/
structure Fits (raw : UInt8 × Bytes) : Prop where
  text : (stringFromUtf8 raw.2).isSome
  messageSize : raw.1 = NotificationAttributeId.messageSize → (parseUnsigned (2 ^ 64) raw.2).isSome
  date : raw.1 = NotificationAttributeId.date → IsDateText raw.2

namespace ExpectedResponse

def FitsAttribute : ExpectedResponse → UInt8 × Bytes → Prop
  | .notification _ _, raw => Fits raw
  | .app _ _, raw => (stringFromUtf8 raw.2).isSome

/-- What has been collected is part of a response: its header is still coming, or
    it is there and the attributes behind it are cut off. -/
def Awaits (expected : ExpectedResponse) (data : Bytes) : Prop :=
  expected.HeaderPending data ∨
    ∃ header body, expected.IsHeader header ∧ data = header ++ body ∧
      Truncated expected.attributeCount body

/-- What has been collected is a whole response, with values that fit. -/
def WellFormed (expected : ExpectedResponse) (data : Bytes) : Prop :=
  ∃ header octets attributes, expected.IsHeader header ∧ data = header ++ octets ∧
    Tuples expected.attributeCount attributes octets ∧
    ∀ raw ∈ attributes, expected.FitsAttribute raw

end ExpectedResponse

/-- The fragments a client is ready for: none it did not ask for, and with the
    fragments before them part of a response or a well formed one. -/
def Handles (client : AncsClient) : Call → Prop
  | .onData fragment => ∀ assembler, client.response = some assembler →
      assembler.expected.Awaits (assembler.buffer ++ fragment) ∨
        assembler.expected.WellFormed (assembler.buffer ++ fragment)
  | _ => True

theorem fromUtf8_eq_ok {octets : Bytes} {text : String} (htext : fromUtf8 octets = .ok text) :
    stringFromUtf8 octets = some text := by
  unfold fromUtf8 at htext
  split at htext
  · rename_i hread
    rw [hread, Except.ok.inj htext]
  · cases htext

theorem notificationAttribute_eq_ok {raw : UInt8 × Bytes} {result : NotificationAttribute}
    (hresult : notificationAttribute raw = .ok result) :
    (stringFromUtf8 raw.2).isSome ∧ (raw.1 = NotificationAttributeId.messageSize →
      (parseUnsigned (2 ^ 64) raw.2).isSome) := by
  obtain ⟨text, htext, hresult⟩ := except_bind_eq_ok hresult
  obtain ⟨value, hvalue, -⟩ := except_bind_eq_ok hresult
  have hread := fromUtf8_eq_ok htext
  refine ⟨by rw [hread]; rfl, ?_⟩
  intro hsize
  rw [attributeValue, if_pos hsize, stringBytes_of_fromUtf8 hread] at hvalue
  split at hvalue
  · rename_i hparse
    rw [hparse]
    rfl
  · cases hvalue

theorem notificationAttribute_of_fits {raw : UInt8 × Bytes} (hfits : Fits raw) :
    ∃ result, notificationAttribute raw = .ok result := by
  obtain ⟨text, htext⟩ := Option.isSome_iff_exists.mp hfits.text
  have hvalue : ∃ value, attributeValue raw.1 text = .ok value := by
    rw [attributeValue, stringBytes_of_fromUtf8 htext]
    split
    · rename_i hsize
      obtain ⟨size, hparse⟩ := Option.isSome_iff_exists.mp (hfits.messageSize hsize)
      exact ⟨_, by rw [hparse]⟩
    · split
      · rename_i hdate
        obtain ⟨date, hparse⟩ := parse_of_isDateText (hfits.date hdate)
        exact ⟨_, by rw [hparse]; rfl⟩
      · exact ⟨_, rfl⟩
  obtain ⟨value, hvalue⟩ := hvalue
  refine ⟨⟨raw.1, value⟩, ?_⟩
  rw [notificationAttribute, fromUtf8, htext]
  change (attributeValue raw.1 text >>= fun value => _) = _
  rw [hvalue]
  rfl

theorem exists_mapM_eq_ok {ε α β : Type} {f : α → Except ε β} {values : List α}
    (hall : ∀ value ∈ values, ∃ result, f value = .ok result) :
    ∃ results, values.mapM f = .ok results := by
  induction values with
  | nil => exact ⟨[], rfl⟩
  | cons value values ih =>
    obtain ⟨first, hfirst⟩ := hall value List.mem_cons_self
    obtain ⟨later, hlater⟩ := ih fun other hother => hall other (List.mem_cons_of_mem value hother)
    exact ⟨first :: later, by rw [List.mapM_cons, hfirst, hlater]; rfl⟩

theorem forall_of_mapM_eq_ok {ε α β : Type} {f : α → Except ε β} {values : List α}
    {results : List β} (hall : values.mapM f = .ok results) :
    ∀ value ∈ values, ∃ result, f value = .ok result := by
  have hboth := except_mapM_eq_ok hall
  clear hall
  induction hboth with
  | nil => simp
  | cons hfirst _ ih =>
    intro value hvalue
    rcases List.mem_cons.mp hvalue with rfl | hvalue
    · exact ⟨_, hfirst⟩
    · exact ih value hvalue

namespace ExpectedResponse

theorem response_of_fits {expected : ExpectedResponse} {attributes : List (UInt8 × Bytes)}
    (hfits : ∀ raw ∈ attributes, expected.FitsAttribute raw) :
    ∃ response, expected.response attributes = .ok response := by
  cases expected with
  | notification notificationUid count =>
    obtain ⟨results, hresults⟩ := exists_mapM_eq_ok (f := notificationAttribute) fun raw hraw =>
      notificationAttribute_of_fits (hfits raw hraw)
    exact ⟨_, by rw [response, hresults]; rfl⟩
  | app appIdentifier count =>
    obtain ⟨results, hresults⟩ := exists_mapM_eq_ok (f := appAttribute) fun raw hraw => by
      obtain ⟨text, htext⟩ := Option.isSome_iff_exists.mp (hfits raw hraw)
      exact ⟨⟨raw.1, text⟩, by rw [appAttribute, fromUtf8, htext]; rfl⟩
    exact ⟨_, by rw [response, hresults]; rfl⟩

theorem fits_of_response {expected : ExpectedResponse} {attributes : List (UInt8 × Bytes)}
    {response : AncsResponse} (hresponse : expected.response attributes = .ok response)
    (hdates : ∀ notificationUid count, expected = .notification notificationUid count →
      ∀ raw ∈ attributes, raw.1 = NotificationAttributeId.date → IsDateText raw.2) :
    ∀ raw ∈ attributes, expected.FitsAttribute raw := by
  intro raw hraw
  cases expected with
  | notification notificationUid count =>
    cases hall : attributes.mapM notificationAttribute with
    | error fault =>
      rw [ExpectedResponse.response, hall] at hresponse
      cases hresponse
    | ok results =>
      obtain ⟨result, hresult⟩ := forall_of_mapM_eq_ok hall raw hraw
      obtain ⟨htext, hsize⟩ := notificationAttribute_eq_ok hresult
      exact ⟨htext, hsize, hdates notificationUid count rfl raw hraw⟩
  | app appIdentifier count =>
    cases hall : attributes.mapM appAttribute with
    | error fault =>
      rw [ExpectedResponse.response, hall] at hresponse
      cases hresponse
    | ok results =>
      obtain ⟨result, hresult⟩ := forall_of_mapM_eq_ok hall raw hraw
      obtain ⟨text, htext, -⟩ := except_bind_eq_ok hresult
      exact Option.isSome_iff_exists.mpr ⟨text, fromUtf8_eq_ok htext⟩

/-! ## 6. Parses and what they mean -/

theorem parse_of_headerPending {expected : ExpectedResponse} {data : Bytes}
    (hpending : expected.HeaderPending data) : expected.parse data = .ok none := by
  cases expected with
  | notification notificationUid count =>
    cases data with
    | nil => rfl
    | cons command rest =>
      obtain ⟨hcommand, hlength⟩ := hpending.resolve_left (by simp)
      obtain rfl := Option.some.inj hcommand
      simp only [parse, parseNotificationResponse]
      rw [if_neg (by simp), if_pos hlength]
  | app appIdentifier count =>
    cases data with
    | nil => rfl
    | cons command rest =>
      obtain ⟨hcommand, hnul⟩ := hpending.resolve_left (by simp)
      obtain rfl := Option.some.inj hcommand
      have hnul : 0 ∉ rest := hnul
      simp only [parse, parseAppResponse]
      rw [if_neg (by simp), if_pos hnul]

theorem parse_of_awaits {expected : ExpectedResponse} {data : Bytes}
    (hawaits : expected.Awaits data) : expected.parse data = .ok none := by
  rcases hawaits with hpending | ⟨header, body, hheader, rfl, htruncated⟩
  · exact parse_of_headerPending hpending
  · rw [parse_of_header hheader, parseAttributeTuples_eq_none_iff.mpr htruncated]

theorem parse_of_wellFormed {expected : ExpectedResponse} {data : Bytes}
    (hformed : expected.WellFormed data) :
    ∃ response, expected.parse data = .ok (some response) := by
  obtain ⟨header, octets, attributes, hheader, rfl, htuples, hfits⟩ := hformed
  obtain ⟨response, hresponse⟩ := response_of_fits hfits
  have htuples := parseAttributeTuples_append htuples []
  rw [List.append_nil] at htuples
  refine ⟨response, ?_⟩
  rw [parse_of_header hheader, htuples]
  dsimp only
  rw [if_neg (by simp), hresponse]
  rfl

/-- **A parse that is not refused.**  Either more is awaited, or the response is
    whole and its attributes have been accepted. -/
theorem awaits_or_complete {expected : ExpectedResponse} {data : Bytes}
    {found : Option AncsResponse} (hparse : expected.parse data = .ok found) :
    (found = none ∧ expected.Awaits data) ∨
      ∃ header octets attributes response, found = some response ∧ expected.IsHeader header ∧
        data = header ++ octets ∧ Tuples expected.attributeCount attributes octets ∧
        expected.response attributes = .ok response := by
  rcases parse_cases expected data with ⟨hpending, hnone⟩ | ⟨header, body, hheader, rfl⟩ |
    ⟨fault, herror⟩
  · rw [hnone] at hparse
    cases hparse
    exact .inl ⟨rfl, .inl hpending⟩
  · rw [parse_of_header hheader] at hparse
    cases htuples : parseAttributeTuples expected.attributeCount body with
    | none =>
      rw [htuples] at hparse
      cases hparse
      exact .inl ⟨rfl, .inr ⟨header, body, hheader, rfl,
        parseAttributeTuples_eq_none_iff.mp htuples⟩⟩
    | some parsed =>
      obtain ⟨attributes, left⟩ := parsed
      obtain ⟨octets, rfl, htuples'⟩ := parseAttributeTuples_eq_some htuples
      rw [htuples] at hparse
      dsimp only at hparse
      split at hparse
      · cases hparse
      · rename_i hleft
        rw [not_not.mp hleft, List.append_nil]
        cases hresponse : expected.response attributes with
        | error fault =>
          rw [hresponse] at hparse
          cases hparse
        | ok response =>
          rw [hresponse] at hparse
          cases hparse
          exact .inr ⟨header, octets, attributes, response, rfl, hheader, rfl, htuples', hresponse⟩
  · rw [herror] at hparse
    cases hparse

end ExpectedResponse

/-! ## 7. Calls and runs -/

section Data

variable {client : AncsClient} {assembler : AncsResponseAssembler} {fragment : Bytes}

theorem onData_error {fault : Fault} (hresponse : client.response = some assembler)
    (hparse : assembler.expected.parse (assembler.buffer ++ fragment) = .error fault) :
    client.onData fragment = Outcome.fail { client with
      response := some { assembler with buffer := assembler.buffer ++ fragment } } fault := by
  simp only [AncsClient.onData, hresponse, AncsResponseAssembler.push, hparse]

theorem onData_awaits (hresponse : client.response = some assembler)
    (hparse : assembler.expected.parse (assembler.buffer ++ fragment) = .ok none) :
    client.onData fragment = Outcome.ok { client with
      response := some { assembler with buffer := assembler.buffer ++ fragment } } none := by
  simp only [AncsClient.onData, hresponse, AncsResponseAssembler.push, hparse]

theorem onData_complete {response : AncsResponse} (hresponse : client.response = some assembler)
    (hparse : assembler.expected.parse (assembler.buffer ++ fragment) = .ok (some response)) :
    client.onData fragment = Outcome.ok { client with response := none } (some response) := by
  simp only [AncsClient.onData, hresponse, AncsResponseAssembler.push, hparse]

theorem onData_unexpected (hresponse : client.response = none) :
    client.onData fragment = Outcome.fail client (.error .unexpectedData) := by
  simp only [AncsClient.onData, hresponse]

theorem survivesData_of_handles (hhandles : Handles client (.onData fragment)) :
    SurvivesData client fragment := by
  cases hresponse : client.response with
  | none =>
    have hdata : client.onData fragment = _ := onData_unexpected hresponse
    refine ⟨by rw [hdata]; simp, ?_, by rw [hdata]; intro _; exact hresponse⟩
    intro _ _ _ _ _ _ hsome
    rw [hresponse] at hsome
    cases hsome
  | some assembler =>
    rcases hhandles assembler hresponse with hawaits | hformed
    · have hdata := onData_awaits hresponse (ExpectedResponse.parse_of_awaits hawaits)
      refine ⟨by rw [hdata]; simp, ?_, by rw [hdata]; simp⟩
      intro _ _ _ _ _ _ _ _ _ hsome
      rw [hdata] at hsome
      cases hsome
    · obtain ⟨response, hparse⟩ := ExpectedResponse.parse_of_wellFormed hformed
      have hdata := onData_complete hresponse hparse
      refine ⟨by rw [hdata]; simp, ?_, by rw [hdata]; intro _; rfl⟩
      intro notificationUid count buffer attributes octets _ hsome hsplit htuples _ raw hraw hdate
      rw [hresponse] at hsome
      obtain rfl := Option.some.inj hsome
      -- the attributes of the response are the ones that were found well formed
      obtain ⟨header, others, found, rfl, hothers, htuples', hfits⟩ := hformed
      have hsame : others = octets := by
        have h : (0 :: u32ToLe notificationUid) ++ others =
            (0 :: u32ToLe notificationUid) ++ octets :=
          hothers.symm.trans hsplit
        exact List.append_cancel_left h
      subst hsame
      have htuples' : Tuples count found others := htuples'
      have hfound := parseAttributeTuples_append htuples []
      rw [parseAttributeTuples_append htuples' []] at hfound
      obtain ⟨rfl, -⟩ := Prod.mk.inj (Option.some.inj hfound)
      exact (hfits raw hraw).date hdate

theorem handles_of_survivesData (hsurvives : SurvivesData client fragment) :
    Handles client (.onData fragment) := by
  intro assembler hresponse
  cases hparse : assembler.expected.parse (assembler.buffer ++ fragment) with
  | error fault =>
    have hended := hsurvives.ended
    rw [onData_error hresponse hparse] at hended
    cases hended (by simp)
  | ok found =>
    rcases ExpectedResponse.awaits_or_complete hparse with ⟨-, hawaits⟩ |
      ⟨header, octets, attributes, response, rfl, hheader, hsplit, htuples, haccepted⟩
    · exact .inl hawaits
    · refine .inr ⟨header, octets, attributes, hheader, hsplit, htuples, ?_⟩
      apply ExpectedResponse.fits_of_response haccepted
      intro notificationUid count hexpected
      have hclient : client.response =
          some ⟨.notification notificationUid count, assembler.buffer⟩ := by
        rw [hresponse, ← hexpected]
      rw [hexpected] at hheader htuples
      have hsplit' : assembler.buffer ++ fragment = 0 :: (u32ToLe notificationUid ++ octets) := by
        rw [hsplit, hheader]
        rfl
      exact hsurvives.dates notificationUid count assembler.buffer attributes octets
        response hclient
        hsplit' htuples (by rw [onData_complete hresponse hparse]; rfl)

end Data

theorem survivesBegin (client : AncsClient) (write : Bytes → Transport) (command : AncsCommand)
    (expected : ExpectedResponse) :
    SurvivesBegin client write command expected
      (client.beginRequest write command ⟨expected, []⟩) := by
  intro hstarted hresponse octets hoctets hwrite
  have hsend : AncsClient.sendCommand write command = .ok () := by
    simp only [AncsClient.sendCommand, hoctets, hwrite]
  have hbegun : client.beginRequest write command ⟨expected, []⟩ =
      Outcome.ok { client with response := some ⟨expected, []⟩ } () := by
    rw [AncsClient.beginRequest, if_neg (by simp [hstarted]), if_neg (by simp [hresponse]), hsend]
  rw [hbegun]
  exact ⟨rfl, rfl⟩

theorem survives_iff_handles (client : AncsClient) (call : Call) :
    Survives client call ↔ Handles client call := by
  cases call with
  | onData fragment => exact ⟨handles_of_survivesData, survivesData_of_handles⟩
  | beginNotificationAttributes write notificationUid attributes =>
    exact iff_of_true (survivesBegin client write _ _) trivial
  | beginAppAttributes write appIdentifier attributes =>
    exact iff_of_true (survivesBegin client write _ _) trivial
  | start subscribed => exact Iff.rfl
  | stop unsubscribed => exact Iff.rfl
  | performAction write notificationUid action => exact Iff.rfl

/-- **Surviving the server.**  In every run of calls from a new client, each call is
    survived exactly when, at each fragment, what has been collected for the command
    in progress is part of a response or a well formed one. -/
theorem survives_iff (calls : List Call) :
    (∀ before call after, calls = before ++ call :: after → Survives (run before) call) ↔
      ∀ before call after, calls = before ++ call :: after → Handles (run before) call := by
  simp only [survives_iff_handles]

/-! ## 8. Servers that are not survived -/

/-- A started client that has asked for the date of notification 7. -/
def dateRequested : List Call :=
  [.start (.ok ()), .beginNotificationAttributes (fun _ => .ok ()) 7
    [⟨NotificationAttributeId.date, none⟩]]

/-- The response that gives notification 7 the date `text`. -/
def dateResponse (text : String) : Bytes :=
  [0, 7, 0, 0, 0] ++ encodeTuple (NotificationAttributeId.date, stringBytes text)

theorem run_dateRequested :
    run dateRequested = ⟨true, some ⟨.notification 7 1, []⟩⟩ := by decide

theorem onData_dateResponse {text : String} (hsize : (stringBytes text).length < 65536) :
    ((run dateRequested).onData (dateResponse text)).result =
      (AncsDate.parse (stringBytes text)).map fun date =>
        some (.notificationAttributes 7 [⟨NotificationAttributeId.date, .date date⟩]) := by
  have htuples : Tuples 1 [(NotificationAttributeId.date, stringBytes text)]
      (encodeTuple (NotificationAttributeId.date, stringBytes text)) := by
    refine ⟨rfl, ?_, by simp⟩
    intro raw hraw
    rw [List.mem_singleton.mp hraw]
    exact hsize
  have hparsed := parseAttributeTuples_append htuples []
  rw [List.append_nil] at hparsed
  have hheader : (ExpectedResponse.notification 7 1).IsHeader [0, 7, 0, 0, 0] := rfl
  have hparse := ExpectedResponse.parse_of_header hheader
    (encodeTuple (NotificationAttributeId.date, stringBytes text))
  rw [ExpectedResponse.attributeCount, hparsed] at hparse
  dsimp only at hparse
  rw [if_neg (by simp), ExpectedResponse.response, List.mapM_cons, List.mapM_nil,
    notificationAttribute, fromUtf8, stringFromUtf8_bytes] at hparse
  have hvalue : attributeValue NotificationAttributeId.date text =
      (AncsDate.parse (stringBytes text)).map .date := rfl
  rw [run_dateRequested]
  cases hdate : AncsDate.parse (stringBytes text) with
  | error fault =>
    rw [hdate] at hvalue
    refine congrArg Outcome.result (onData_error rfl (hparse.trans ?_))
    change (Except.map _ (Except.map _ ((attributeValue NotificationAttributeId.date text >>= _) >>=
      _))) = _
    rw [hvalue]
    rfl
  | ok date =>
    rw [hdate] at hvalue
    refine congrArg Outcome.result (onData_complete rfl (hparse.trans ?_))
    change (Except.map _ (Except.map _ ((attributeValue NotificationAttributeId.date text >>= _) >>=
      _))) = _
    rw [hvalue]
    rfl

/-- A text that is no ASCII where a date is expected panics, years with a plus sign
    are accepted, and after an answer to another command the request stays in
    progress. -/
theorem dateResponse_notSurvived :
    ((run dateRequested).onData (dateResponse "202é071T142530")).result = .error .panic ∧
      ¬ Survives (run dateRequested) (.onData (dateResponse "202é071T142530")) ∧
      ((run dateRequested).onData (dateResponse "+0260713T142530")).result.isOk ∧
      ¬ Survives (run dateRequested) (.onData (dateResponse "+0260713T142530")) ∧
      ((run dateRequested).onData [1]).state.response ≠ none ∧
      ¬ Survives (run dateRequested) (.onData [1]) := by
  have hpanic : AncsDate.parse (stringBytes "202é071T142530") = .error .panic := by
    decide
  have haccepted : AncsDate.parse (stringBytes "+0260713T142530") =
      .ok ⟨26, 7, 13, 14, 25, 30⟩ := by
    decide
  have hfirst : ((run dateRequested).onData (dateResponse "202é071T142530")).result =
      .error .panic := by
    rw [onData_dateResponse (by decide), hpanic]
    rfl
  have hsecond : ((run dateRequested).onData (dateResponse "+0260713T142530")).result =
      .ok (some (.notificationAttributes 7
        [⟨NotificationAttributeId.date, .date ⟨26, 7, 13, 14, 25, 30⟩⟩])) := by
    rw [onData_dateResponse (by decide), haccepted]
    rfl
  have hthird : ((run dateRequested).onData [1]).state.response ≠ none := by decide
  refine ⟨hfirst, fun h => h.noPanic hfirst, by rw [hsecond]; rfl, ?_, hthird, ?_⟩
  · intro hsurvives
    have hdate := hsurvives.dates 7 1 [] [(NotificationAttributeId.date,
      stringBytes "+0260713T142530")] _ _ (by rw [run_dateRequested]) rfl
      ⟨rfl, by decide, by simp⟩ hsecond _ List.mem_cons_self rfl
    obtain ⟨octet, hoctet, hdigit⟩ := hdate.octets.digits 0 (by decide) (by decide)
    have hplus : (stringBytes "+0260713T142530")[0]? = some plusSign := by decide
    rw [hplus] at hoctet
    obtain rfl := Option.some.inj hoctet
    exact absurd hdigit (by decide)
  · intro hsurvives
    exact hthird (hsurvives.ended (by decide))

end Bumble.Ancs
