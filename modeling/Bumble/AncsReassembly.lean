import Bumble.AncsClient

/-!
# Responses in fragments

All that has been collected is parsed again with every fragment.  A response is complete with
its last octet and not before, so wherever it is cut the fragments in front of the last one give
nothing and the last one gives the response.
-/

namespace Bumble.Ancs

/-! ## 1. Commands that are read -/

/-- The attributes behind the UID, each with its maximum length if it has one. -/
def requestsFromBytes : Bytes → Except AncsError (List NotificationAttributeRequest)
  | [] => .ok []
  | attributeId :: rest =>
    if takesMaxLength attributeId then
      match rest with
      | low :: high :: rest =>
        (requestsFromBytes rest).map (⟨attributeId, some (u16FromLe low high)⟩ :: ·)
      | _ => .error (.invalidRequest "ANCS attribute maximum length is truncated")
    else (requestsFromBytes rest).map (⟨attributeId, none⟩ :: ·)

def AncsCommand.fromBytes (data : Bytes) : Except AncsError AncsCommand :=
  match data with
  | [] => .error (.invalidRequest "empty ANCS command")
  | command :: parameters =>
    let notificationUid := UInt32.ofNat (beToNat (parameters.take 4).reverse)
    if command = 0 then
      if parameters.length < 4 then
        .error (.invalidRequest "Get Notification Attributes is truncated")
      else
        (requestsFromBytes (parameters.drop 4)).map (.getNotificationAttributes notificationUid)
    else if command = 1 then
      if 0 ∉ parameters then
        .error (.invalidRequest "ANCS app identifier is not NUL terminated")
      else
        let octets := parameters.takeWhile (· ≠ 0)
        match stringFromUtf8 octets with
        | some appIdentifier =>
          .ok (.getAppAttributes appIdentifier (parameters.drop (octets.length + 1)))
        | none => .error (.invalidUtf8 octets)
    else if command = 2 ∧ parameters.length = 5 then
      .ok (.performNotificationAction notificationUid (parameters.getD 4 0))
    else
      .error (.invalidRequest
        s!"unknown ANCS command {command} or invalid parameter length {parameters.length}")

theorem requestsFromBytes_flatten (requests : List NotificationAttributeRequest) :
    ∀ {pieces : List Bytes}, requests.mapM NotificationAttributeRequest.toBytes = .ok pieces →
      requestsFromBytes pieces.flatten = .ok requests := by
  induction requests with
  | nil =>
    intro pieces hpieces
    cases hpieces
    rfl
  | cons request requests ih =>
    intro pieces hpieces
    rw [List.mapM_cons] at hpieces
    obtain ⟨piece, hpiece, hpieces⟩ := except_bind_eq_ok hpieces
    obtain ⟨later, hlater, hpieces⟩ := except_bind_eq_ok hpieces
    cases hpieces
    obtain ⟨attributeId, maxLength⟩ := request
    rw [NotificationAttributeRequest.toBytes] at hpiece
    cases maxLength with
    | some maxLength =>
      dsimp only at hpiece
      split at hpiece
      · next htakes =>
        cases hpiece
        rw [List.flatten_cons, u16ToLe]
        simp only [List.cons_append, List.nil_append, requestsFromBytes, if_pos htakes, ih hlater,
          u16FromLe_toLe]
        rfl
      · cases hpiece
    | none =>
      dsimp only at hpiece
      split at hpiece
      · cases hpiece
      · next htakes =>
        cases hpiece
        rw [List.flatten_cons, List.singleton_append]
        unfold requestsFromBytes
        rw [if_neg htakes, ih hlater]
        rfl

/-- **A command that is written is read back.** -/
theorem fromBytes_of_toBytes {command : AncsCommand} {octets : Bytes}
    (hoctets : command.toBytes = .ok octets) : AncsCommand.fromBytes octets = .ok command := by
  have huid : ∀ notificationUid : UInt32, ∀ rest,
      UInt32.ofNat (beToNat ((u32ToLe notificationUid ++ rest).take 4).reverse) =
        notificationUid := by
    intro notificationUid rest
    rw [OctetReader.u32ToLe_eq, List.take_left' (by simp [u32ToBe]), List.reverse_reverse, u32ToBe,
      beToNat_natToBe 4 notificationUid.toNat_lt, UInt32.ofNat_toNat]
  cases command with
  | getNotificationAttributes notificationUid attributes =>
    obtain ⟨pieces, hpieces, hoctets⟩ := except_bind_eq_ok hoctets
    cases hoctets
    simp only [AncsCommand.fromBytes, if_true, huid]
    rw [if_neg (by simp [u32ToLe]), List.drop_left' (by rfl), requestsFromBytes_flatten _ hpieces]
    rfl
  | getAppAttributes appIdentifier attributes =>
    rw [AncsCommand.toBytes] at hoctets
    split at hoctets
    · cases hoctets
    · next hnul =>
      cases hoctets
      have htake : (stringBytes appIdentifier ++ 0 :: attributes).takeWhile (· ≠ 0) =
          stringBytes appIdentifier := by
        rw [List.takeWhile_append_of_pos, List.takeWhile_cons_of_neg (by simp), List.append_nil]
        intro octet hoctet
        have hne : octet ≠ 0 := by
          rintro rfl
          exact hnul hoctet
        simpa using hne
      rw [AncsCommand.fromBytes]
      dsimp only
      rw [if_neg (by decide), if_pos rfl, if_neg (by simp), htake, stringFromUtf8_bytes]
      dsimp only
      rw [← List.drop_drop, List.drop_left]
      rfl
  | performNotificationAction notificationUid action =>
    cases hoctets
    simp only [AncsCommand.fromBytes, huid]
    rfl

/-! ## 2. Responses that are sent -/

/-- The octets of a date, with the numbers that its digits stand for. -/
structure DateText (date : AncsDate) (value : Bytes) : Prop where
  isDateText : IsDateText value
  year : parseUnsigned 65536 ((value.drop 0).take 4) = some date.year
  month : parseUnsigned 256 ((value.drop 4).take 2) = some date.month
  day : parseUnsigned 256 ((value.drop 6).take 2) = some date.day
  hour : parseUnsigned 256 ((value.drop 9).take 2) = some date.hour
  minute : parseUnsigned 256 ((value.drop 11).take 2) = some date.minute
  second : parseUnsigned 256 ((value.drop 13).take 2) = some date.second

/-- An attribute and its identifier and octets on the wire. -/
inductive Stands : NotificationAttribute → UInt8 × Bytes → Prop
  | text {attributeId : UInt8} (text : String)
      (hsize : attributeId ≠ NotificationAttributeId.messageSize)
      (hdate : attributeId ≠ NotificationAttributeId.date) :
      Stands ⟨attributeId, .text text⟩ (attributeId, stringBytes text)
  | messageSize {size : Nat} (text : String)
      (hsize : parseUnsigned (2 ^ 64) (stringBytes text) = some size) :
      Stands ⟨NotificationAttributeId.messageSize, .messageSize size⟩
        (NotificationAttributeId.messageSize, stringBytes text)
  | date {date : AncsDate} (text : String) (hdate : DateText date (stringBytes text)) :
      Stands ⟨NotificationAttributeId.date, .date date⟩
        (NotificationAttributeId.date, stringBytes text)

/-- A response to the request, and its attributes on the wire. -/
inductive Answers : ExpectedResponse → AncsResponse → List (UInt8 × Bytes) → Prop
  | notification (notificationUid : UInt32) {attributes : List NotificationAttribute}
      {raws : List (UInt8 × Bytes)} (hstands : List.Forall₂ Stands attributes raws) :
      Answers (.notification notificationUid raws.length)
        (.notificationAttributes notificationUid attributes) raws
  | app {appIdentifier : String} (hnul : 0 ∉ stringBytes appIdentifier)
      (attributes : List AppAttribute) :
      Answers (.app appIdentifier attributes.length) (.appAttributes appIdentifier attributes)
        (attributes.map fun attr => (attr.attributeId, stringBytes attr.value))

def ExpectedResponse.header : ExpectedResponse → Bytes
  | .notification notificationUid _ => 0 :: u32ToLe notificationUid
  | .app appIdentifier _ => 1 :: (stringBytes appIdentifier ++ [0])

theorem parse_of_dateText {date : AncsDate} {value : Bytes} (hdate : DateText date value) :
    AncsDate.parse value = .ok date := by
  have hoctets := hdate.isDateText.octets
  have hfield : ∀ start stop bound name, start ≤ stop → stop ≤ 15 →
      dateField value start stop bound name =
        parseDigits bound ((value.drop start).take (stop - start)) name := by
    intro start stop bound name hrange hstop
    rw [dateField, slice, hoctets.isCharBoundary (hrange.trans hstop), hoctets.isCharBoundary hstop]
    rfl
  have hframe : ¬ (value.length ≠ 15 ∨ value[8]? ≠ some 0x54) := by
    rw [not_or, not_not, not_not]
    exact ⟨hoctets.length, hoctets.separator⟩
  rw [AncsDate.parse, if_neg hframe, hfield 0 4 _ _ (by decide) (by decide),
    hfield 4 6 _ _ (by decide) (by decide), hfield 6 8 _ _ (by decide) (by decide),
    hfield 9 11 _ _ (by decide) (by decide), hfield 11 13 _ _ (by decide) (by decide),
    hfield 13 15 _ _ (by decide) (by decide)]
  simp only [parseDigits, hdate.year, hdate.month, hdate.day, hdate.hour, hdate.minute,
    hdate.second]
  rfl

theorem notificationAttribute_of_value {attributeId : UInt8} {text : String}
    {value : NotificationAttributeValue} (hvalue : attributeValue attributeId text = .ok value) :
    notificationAttribute (attributeId, stringBytes text) = .ok ⟨attributeId, value⟩ := by
  rw [notificationAttribute, fromUtf8, stringFromUtf8_bytes]
  change (attributeValue attributeId text >>= fun value => _) = _
  rw [hvalue]
  rfl

theorem notificationAttribute_of_stands {attr : NotificationAttribute} {raw : UInt8 × Bytes}
    (hstands : Stands attr raw) : notificationAttribute raw = .ok attr := by
  cases hstands with
  | text text hsize hdate =>
    apply notificationAttribute_of_value
    rw [attributeValue, if_neg hsize, if_neg hdate]
  | messageSize text hsize =>
    apply notificationAttribute_of_value
    rw [attributeValue, if_pos rfl, hsize]
  | date text hdate =>
    apply notificationAttribute_of_value
    rw [attributeValue, if_neg (by decide), if_pos rfl, parse_of_dateText hdate]
    rfl

variable {expected : ExpectedResponse} {response : AncsResponse} {raws : List (UInt8 × Bytes)}

theorem Answers.isHeader (hanswers : Answers expected response raws) :
    expected.IsHeader expected.header := by
  cases hanswers with
  | notification => rfl
  | app hnul => exact ⟨rfl, hnul⟩

theorem Answers.length (hanswers : Answers expected response raws) :
    raws.length = expected.attributeCount := by
  cases hanswers with
  | notification => rfl
  | app => exact List.length_map _

theorem Answers.response_eq (hanswers : Answers expected response raws) :
    expected.response raws = .ok response := by
  cases hanswers with
  | @notification notificationUid attributes raws hstands =>
    have hall : raws.mapM notificationAttribute = .ok attributes := by
      induction hstands with
      | nil => rfl
      | cons hfirst _ ih =>
        rw [List.mapM_cons, notificationAttribute_of_stands hfirst, ih]
        rfl
    rw [ExpectedResponse.response, hall]
    rfl
  | app hnul attributes =>
    have hall : (attributes.map fun attr => (attr.attributeId, stringBytes attr.value)).mapM
        appAttribute = .ok attributes := by
      rw [List.mapM_map, except_mapM_of_forall (g := id), List.map_id]
      intro attr _
      simp only [Function.comp_apply, appAttribute, fromUtf8, stringFromUtf8_bytes]
      rfl
    rw [ExpectedResponse.response, hall]
    rfl

/-! ## 3. Fragments -/

/-- The header has not arrived in full. -/
theorem headerPending_of_initial {data more : Bytes} (hanswers : Answers expected response raws)
    (hmore : more ≠ []) (hheader : expected.header = data ++ more) :
    expected.HeaderPending data := by
  have hlength := List.length_pos_iff.mpr hmore
  cases data with
  | nil => cases hanswers <;> exact .inl rfl
  | cons command rest =>
    cases hanswers with
    | notification notificationUid hstands =>
      have hfive := congrArg List.length hheader
      simp only [ExpectedResponse.header, u32ToLe, List.length_append, List.length_cons,
        List.length_map, List.length_range] at hfive
      exact .inr ⟨congrArg some (List.cons.inj hheader).1.symm, by rw [List.length_cons]; omega⟩
    | @app appIdentifier hnul attributes =>
      have hrest : stringBytes appIdentifier ++ [0] = rest ++ more := (List.cons.inj hheader).2
      have hshort := congrArg List.length hrest
      rw [List.length_append, List.length_append, List.length_singleton] at hshort
      have hinitial : rest <+: stringBytes appIdentifier :=
        List.prefix_of_prefix_length_le ⟨more, hrest.symm⟩ (List.prefix_append _ _) (by omega)
      exact .inr ⟨congrArg some (List.cons.inj hheader).1.symm,
        fun hzero => hnul (hinitial.subset hzero)⟩

/-- **A part of a response.**  Nothing is found in it. -/
theorem parse_of_part {data more : Bytes} (hanswers : Answers expected response raws)
    (hsizes : ∀ raw ∈ raws, raw.2.length ≤ 65535) (hmore : more ≠ [])
    (hdata : data ++ more = expected.header ++ raws.flatMap encodeTuple) :
    expected.parse data = .ok none := by
  apply ExpectedResponse.parse_of_awaits
  rcases List.append_eq_append_iff.mp hdata with ⟨rest, hheader, hbody⟩ | ⟨body, rfl, hbody⟩
  · by_cases hrest : rest = []
    · subst hrest
      rw [List.append_nil] at hheader
      refine .inr ⟨expected.header, [], hanswers.isHeader, by rw [hheader, List.append_nil], ?_⟩
      exact ⟨raws, more, hmore, hanswers.length,
        fun raw hraw => Nat.lt_succ_of_le (hsizes raw hraw),
        hbody⟩
    · exact .inl (headerPending_of_initial hanswers hrest hheader)
  · exact .inr ⟨expected.header, body, hanswers.isHeader, rfl, raws, more, hmore, hanswers.length,
      fun raw hraw => Nat.lt_succ_of_le (hsizes raw hraw), hbody.symm⟩

theorem parse_of_all (hanswers : Answers expected response raws)
    (hsizes : ∀ raw ∈ raws, raw.2.length ≤ 65535) :
    expected.parse (expected.header ++ raws.flatMap encodeTuple) = .ok (some response) := by
  have htuples : Tuples expected.attributeCount raws (raws.flatMap encodeTuple) :=
    ⟨hanswers.length, fun raw hraw => Nat.lt_succ_of_le (hsizes raw hraw), rfl⟩
  have hparsed := parseAttributeTuples_append htuples []
  rw [List.append_nil] at hparsed
  rw [ExpectedResponse.parse_of_header hanswers.isHeader, hparsed]
  dsimp only
  rw [if_neg (by simp), hanswers.response_eq]
  rfl

/-- What the fragments give, one after the other. -/
def AncsResponseAssembler.pushAll (assembler : AncsResponseAssembler) :
    List Bytes → List (Except Fault (Option AncsResponse))
  | [] => []
  | fragment :: fragments =>
    (assembler.push fragment).result :: (assembler.push fragment).state.pushAll fragments

theorem pushAll_eq (hanswers : Answers expected response raws)
    (hsizes : ∀ raw ∈ raws, raw.2.length ≤ 65535) (fragment : Bytes) (fragments : List Bytes) :
    ∀ {buffer : Bytes}, (∀ other ∈ fragments, other ≠ []) →
      buffer ++ (fragment ++ fragments.flatten) = expected.header ++ raws.flatMap encodeTuple →
      AncsResponseAssembler.pushAll ⟨expected, buffer⟩ (fragment :: fragments) =
        List.replicate fragments.length (.ok none) ++ [.ok (some response)] := by
  induction fragments generalizing fragment with
  | nil =>
    intro buffer _ hall
    rw [List.flatten_nil, List.append_nil] at hall
    simp only [AncsResponseAssembler.pushAll, AncsResponseAssembler.push, hall,
      parse_of_all hanswers hsizes]
    rfl
  | cons next fragments ih =>
    intro buffer hnonempty hall
    have hmore : next ++ fragments.flatten ≠ [] := by
      rw [Ne, List.append_eq_nil_iff, not_and_or]
      exact .inl (hnonempty next List.mem_cons_self)
    rw [List.flatten_cons, ← List.append_assoc] at hall
    rw [AncsResponseAssembler.pushAll, List.length_cons, List.replicate_succ, List.cons_append]
    congr 1
    · exact parse_of_part hanswers hsizes hmore hall
    · exact ih next (fun other hother => hnonempty other (List.mem_cons_of_mem _ hother)) hall

/-- **Reassembly does not depend on the fragments.**  However the octets of a response to the
    request are cut, every fragment but the last gives nothing and the last gives the response;
    and a command that can be written is read back. -/
theorem reassembled (hanswers : Answers expected response raws)
    (hsizes : ∀ raw ∈ raws, raw.2.length ≤ 65535) (fragments : List Bytes)
    (hnonempty : ∀ fragment ∈ fragments, fragment ≠ [])
    (hall : fragments.flatten = expected.header ++ raws.flatMap encodeTuple) :
    AncsResponseAssembler.pushAll ⟨expected, []⟩ fragments =
        List.replicate (fragments.length - 1) (.ok none) ++ [.ok (some response)] ∧
      ∀ command octets, AncsCommand.toBytes command = .ok octets →
        AncsCommand.fromBytes octets = .ok command := by
  refine ⟨?_, fun command octets => fromBytes_of_toBytes⟩
  cases fragments with
  | nil => cases hanswers <;> cases hall
  | cons fragment fragments =>
    exact pushAll_eq hanswers hsizes fragment fragments
      (fun other hother => hnonempty other (List.mem_cons_of_mem _ hother)) hall

/-- A title and a size in three fragments. -/
theorem three_fragments_reassembled :
    AncsResponseAssembler.pushAll ⟨.notification 7 2, []⟩
        [[0, 7, 0], [0, 0, 1, 2], [0, 0x48, 0x69, 4, 2, 0, 0x34, 0x32]] =
      [.ok none, .ok none,
        .ok (some (.notificationAttributes 7 [⟨1, .text "Hi"⟩, ⟨4, .messageSize 42⟩]))] := by
  refine (@reassembled _ _ [(1, [0x48, 0x69]), (4, [0x34, 0x32])]
    (.notification 7 (.cons (.text "Hi" (by decide) (by decide))
      (.cons (.messageSize "42" ?_) .nil)))
    ?_ _ ?_ ?_).1
  · decide
  · decide
  · decide
  · decide

end Bumble.Ancs
