import Bumble.OctetReader
import Bumble.DecimalText

/-!
# Responses of the Apple Notification Center Service

A response is a header, which repeats the request, and as many attributes as the
request named, each an identifier, a length and a value.  It arrives in
fragments, so a parse of what has been collected may find it incomplete.
`parse_cases` says what a parse finds: an incomplete response (`Awaits`), a
complete one whose values are all accepted (`Accepted`), or an error.

Slicing a string at an offset that is not a character boundary is a panic in the
source; `Fault.panic` marks it.
-/

namespace Bumble.Ancs

/-! ## 1. Faults -/

/-- The errors of a parse, each with the values its message names. -/
inductive AncsError where
  /-- `unexpected ANCS response command {found}, expected {expected}` -/
  | unexpectedCommand (found expected : UInt8)
  /-- `ANCS response UID {found} does not match {expected}` -/
  | uidMismatch (found expected : UInt32)
  /-- `ANCS app identifier {found:?} does not match {expected:?}` -/
  | identifierMismatch (found expected : String)
  /-- `ANCS notification response has {count} trailing bytes`, and the same for an app. -/
  | trailingBytes (count : Nat)
  /-- `invalid ANCS UTF-8`, `invalid app identifier`, `invalid app attribute UTF-8`. -/
  | invalidUtf8 (octets : Bytes)
  /-- `invalid ANCS message size` -/
  | invalidMessageSize (text : String)
  /-- `invalid ANCS date {value:?}, expected YYYYMMDDTHHMMSS` -/
  | invalidDate (octets : Bytes)
  /-- `invalid ANCS date {name}` -/
  | invalidDateField (name : String)
  /-- `unexpected ANCS data response` -/
  | unexpectedData
  /-- `an ANCS command response is already in progress` -/
  | inProgress
  /-- `ANCS client is not started` -/
  | notStarted
  /-- The errors of `AncsCommand::to_bytes`. -/
  | invalidRequest (message : String)
  /-- An error of the transport a request is written to. -/
  | transport (message : String)
deriving DecidableEq, Repr

/-- How a call ends when it does not return a value. -/
inductive Fault where
  | panic
  | error (error : AncsError)
deriving DecidableEq, Repr

/-! ## 2. Dates -/

/-- `&text[start..stop]`. -/
def slice (text : Bytes) (start stop : Nat) : Except Fault Bytes :=
  if isCharBoundary text start && isCharBoundary text stop then
    .ok ((text.drop start).take (stop - start))
  else .error .panic

def parseDigits (bound : Nat) (value : Bytes) (name : String) : Except Fault Nat :=
  match parseUnsigned bound value with
  | some number => .ok number
  | none => .error (.error (.invalidDateField name))

structure AncsDate where
  year : Nat
  month : Nat
  day : Nat
  hour : Nat
  minute : Nat
  second : Nat
deriving DecidableEq, Repr

/-- A field of a date: a slice of the text, and its digits. -/
def dateField (value : Bytes) (start stop bound : Nat) (name : String) : Except Fault Nat := do
  let text ← slice value start stop
  parseDigits bound text name

def AncsDate.parse (value : Bytes) : Except Fault AncsDate :=
  if value.length ≠ 15 ∨ value[8]? ≠ some 0x54 then .error (.error (.invalidDate value))
  else do
    let year ← dateField value 0 4 65536 "year"
    let month ← dateField value 4 6 256 "month"
    let day ← dateField value 6 8 256 "day"
    let hour ← dateField value 9 11 256 "hour"
    let minute ← dateField value 11 13 256 "minute"
    let second ← dateField value 13 15 256 "second"
    return { year, month, day, hour, minute, second }

/-- Eight digits, a `T` and six digits. -/
def IsDateText (value : Bytes) : Prop :=
  ∃ day time : Bytes, value = day ++ 0x54 :: time ∧ day.length = 8 ∧ time.length = 6 ∧
    ∀ octet ∈ day ++ time, (digitValue octet).isSome

/-! ## 3. Attributes -/

namespace NotificationAttributeId

def title : UInt8 := 1
def subtitle : UInt8 := 2
def message : UInt8 := 3
def messageSize : UInt8 := 4
def date : UInt8 := 5

end NotificationAttributeId

inductive NotificationAttributeValue where
  | text (text : String)
  | messageSize (size : Nat)
  | date (date : AncsDate)
deriving DecidableEq, Repr

structure NotificationAttribute where
  attributeId : UInt8
  value : NotificationAttributeValue
deriving DecidableEq, Repr

structure AppAttribute where
  attributeId : UInt8
  value : String
deriving DecidableEq, Repr

def fromUtf8 (octets : Bytes) : Except Fault String :=
  match stringFromUtf8 octets with
  | some text => .ok text
  | none => .error (.error (.invalidUtf8 octets))

/-- The value the text of an attribute stands for. -/
def attributeValue (attributeId : UInt8) (text : String) :
    Except Fault NotificationAttributeValue :=
  if attributeId = NotificationAttributeId.messageSize then
    match parseUnsigned (2 ^ 64) (stringBytes text) with
    | some size => .ok (.messageSize size)
    | none => .error (.error (.invalidMessageSize text))
  else if attributeId = NotificationAttributeId.date then
    (AncsDate.parse (stringBytes text)).map .date
  else .ok (.text text)

/-- What an attribute of a notification response is turned into. -/
def notificationAttribute (raw : UInt8 × Bytes) : Except Fault NotificationAttribute := do
  let text ← fromUtf8 raw.2
  let value ← attributeValue raw.1 text
  return ⟨raw.1, value⟩

def appAttribute (raw : UInt8 × Bytes) : Except Fault AppAttribute := do
  let text ← fromUtf8 raw.2
  return ⟨raw.1, text⟩

/-- The first `count` attributes of the data and what stands behind them, or `None`
    when they are not all there yet. -/
def parseAttributeTuples : Nat → Bytes → Option (List (UInt8 × Bytes) × Bytes)
  | 0, data => some ([], data)
  | count + 1, attributeId :: low :: high :: data =>
    let length := (u16FromLe low high).toNat
    if data.length < length then none
    else
      match parseAttributeTuples count (data.drop length) with
      | none => none
      | some (attributes, left) => some ((attributeId, data.take length) :: attributes, left)
  | _ + 1, _ => none

/-! ## 4. Responses -/

inductive AncsResponse where
  | notificationAttributes (notificationUid : UInt32) (attributes : List NotificationAttribute)
  | appAttributes (appIdentifier : String) (attributes : List AppAttribute)
deriving DecidableEq, Repr

inductive ExpectedResponse where
  | notification (notificationUid : UInt32) (attributeCount : Nat)
  | app (appIdentifier : String) (attributeCount : Nat)
deriving DecidableEq, Repr

def parseNotificationResponse (data : Bytes) (expectedUid : UInt32) (expectedCount : Nat) :
    Except Fault (Option AncsResponse) :=
  match data with
  | [] => .ok none
  | command :: rest =>
    if command ≠ 0 then .error (.error (.unexpectedCommand command 0))
    else if data.length < 5 then .ok none
    else
      let notificationUid := UInt32.ofNat (beToNat (rest.take 4).reverse)
      if notificationUid ≠ expectedUid then
        .error (.error (.uidMismatch notificationUid expectedUid))
      else
        match parseAttributeTuples expectedCount (rest.drop 4) with
        | none => .ok none
        | some (attributes, left) =>
          if left ≠ [] then .error (.error (.trailingBytes left.length))
          else do
            let attributes ← attributes.mapM notificationAttribute
            return some (.notificationAttributes notificationUid attributes)

def parseAppResponse (data : Bytes) (expectedIdentifier : String) (expectedCount : Nat) :
    Except Fault (Option AncsResponse) :=
  match data with
  | [] => .ok none
  | command :: rest =>
    if command ≠ 1 then .error (.error (.unexpectedCommand command 1))
    else if 0 ∉ rest then .ok none
    else do
      let octets := rest.takeWhile (· ≠ 0)
      let appIdentifier ← fromUtf8 octets
      if appIdentifier ≠ expectedIdentifier then
        .error (.error (.identifierMismatch appIdentifier expectedIdentifier))
      else
        match parseAttributeTuples expectedCount (rest.drop (octets.length + 1)) with
        | none => .ok none
        | some (attributes, left) =>
          if left ≠ [] then .error (.error (.trailingBytes left.length))
          else do
            let attributes ← attributes.mapM appAttribute
            return some (.appAttributes appIdentifier attributes)

def ExpectedResponse.parse : ExpectedResponse → Bytes → Except Fault (Option AncsResponse)
  | .notification notificationUid attributeCount, data =>
    parseNotificationResponse data notificationUid attributeCount
  | .app appIdentifier attributeCount, data => parseAppResponse data appIdentifier attributeCount

/-! ## 5. Dates that are read -/

theorem not_continuation_of_digit {octet : UInt8} (hdigit : (digitValue octet).isSome) :
    octet &&& 0xC0 ≠ 0x80 := by
  refine forall_octet_lt (P := fun octet => (digitValue octet).isSome → octet &&& 0xC0 ≠ 0x80)
    (by set_option maxRecDepth 30000 in decide) octet octet.toNat_lt hdigit

/-- Digits everywhere but at offset 8, where a `T` stands. -/
structure DateOctets (value : Bytes) : Prop where
  length : value.length = 15
  separator : value[8]? = some 0x54
  digits : ∀ index, index < 15 → index ≠ 8 →
    ∃ octet, value[index]? = some octet ∧ (digitValue octet).isSome

theorem IsDateText.octets {value : Bytes} (hdate : IsDateText value) : DateOctets value := by
  obtain ⟨day, time, rfl, hday, htime, hdigits⟩ := hdate
  refine ⟨by simp [hday, htime], ?_, ?_⟩
  · rw [List.getElem?_append_right (by omega), hday]
    rfl
  · intro index hindex hne
    rcases Nat.lt_or_gt_of_ne hne with hbefore | hafter
    · have hlt : index < day.length := by omega
      refine ⟨day[index], ?_, hdigits _ (List.mem_append_left time (List.getElem_mem hlt))⟩
      rw [List.getElem?_append_left hlt, List.getElem?_eq_getElem hlt]
    · have hlt : index - 9 < time.length := by omega
      refine ⟨time[index - 9], ?_, hdigits _ (List.mem_append_right day (List.getElem_mem hlt))⟩
      rw [List.getElem?_append_right (by omega), hday,
        show index - 8 = index - 9 + 1 by omega, List.getElem?_cons_succ,
        List.getElem?_eq_getElem hlt]

theorem DateOctets.isCharBoundary {value : Bytes} (hdate : DateOctets value) {index : Nat}
    (hindex : index ≤ 15) : isCharBoundary value index = true := by
  by_cases hend : index = 15
  · simp [Bumble.isCharBoundary, hend, hdate.length]
  · by_cases hseparator : index = 8
    · subst hseparator
      rw [Bumble.isCharBoundary, hdate.separator, hdate.length]
      decide
    · obtain ⟨octet, hoctet, hdigit⟩ := hdate.digits index (by omega) hseparator
      simp [Bumble.isCharBoundary, hoctet, not_continuation_of_digit hdigit]

theorem DateOctets.field {value : Bytes} (hdate : DateOctets value) (start stop bound : Nat)
    (name : String) (hrange : start < stop) (hstop : stop ≤ 15) (hside : stop ≤ 8 ∨ 8 < start)
    (hbound : 10 ^ (stop - start) ≤ bound) :
    ∃ number, dateField value start stop bound name = .ok number := by
  have hlength : ((value.drop start).take (stop - start)).length = stop - start := by
    rw [List.length_take, List.length_drop, hdate.length]
    omega
  have hdigits : ∀ octet ∈ (value.drop start).take (stop - start), (digitValue octet).isSome := by
    intro octet hmem
    obtain ⟨index, hindex, hoctet⟩ := List.getElem_of_mem hmem
    rw [hlength] at hindex
    obtain ⟨found, hfound, hdigit⟩ := hdate.digits (start + index) (by omega) (by omega)
    have hsame := List.getElem?_eq_getElem (l := (value.drop start).take (stop - start))
      (i := index) (by omega)
    rw [List.getElem?_take_of_lt hindex, List.getElem?_drop, hfound, hoctet] at hsame
    rwa [Option.some.inj hsame] at hdigit
  have hne : (value.drop start).take (stop - start) ≠ [] := by
    apply List.ne_nil_of_length_pos
    omega
  obtain ⟨number, hnumber⟩ := Option.isSome_iff_exists.mp
    (parseDigits_isSome_iff.mpr ⟨hne, hdigits⟩)
  have hsize : number < 10 ^ (stop - start) := by
    have hread := hnumber
    rw [Bumble.parseDigits, if_neg hne] at hread
    have hlt := digitsFrom_lt hread
    rw [hlength] at hlt
    omega
  have hread : parseUnsigned bound ((value.drop start).take (stop - start)) = some number :=
    parseUnsigned_eq_some_iff.mpr ⟨_, .inl rfl, hnumber, by omega⟩
  refine ⟨number, ?_⟩
  rw [dateField, slice, hdate.isCharBoundary (by omega), hdate.isCharBoundary hstop]
  change parseDigits bound _ name = .ok number
  rw [parseDigits, hread]

/-- **Well formed dates are read.** -/
theorem parse_of_isDateText {value : Bytes} (hdate : IsDateText value) :
    ∃ date, AncsDate.parse value = .ok date := by
  have hoctets := hdate.octets
  obtain ⟨year, hyear⟩ := hoctets.field 0 4 65536 "year"
    (by decide) (by decide) (by decide) (by decide)
  obtain ⟨month, hmonth⟩ := hoctets.field 4 6 256 "month"
    (by decide) (by decide) (by decide) (by decide)
  obtain ⟨day, hday⟩ := hoctets.field 6 8 256 "day"
    (by decide) (by decide) (by decide) (by decide)
  obtain ⟨hour, hhour⟩ := hoctets.field 9 11 256 "hour"
    (by decide) (by decide) (by decide) (by decide)
  obtain ⟨minute, hminute⟩ := hoctets.field 11 13 256 "minute"
    (by decide) (by decide) (by decide) (by decide)
  obtain ⟨second, hsecond⟩ := hoctets.field 13 15 256 "second"
    (by decide) (by decide) (by decide) (by decide)
  have hframe : ¬ (value.length ≠ 15 ∨ value[8]? ≠ some 0x54) := by
    rintro (hlength | hseparator)
    · exact hlength hoctets.length
    · exact hseparator hoctets.separator
  refine ⟨⟨year, month, day, hour, minute, second⟩, ?_⟩
  rw [AncsDate.parse, if_neg hframe, hyear, hmonth, hday, hhour, hminute, hsecond]
  rfl

/-! ## 6. Attributes on the wire -/

def encodeTuple (raw : UInt8 × Bytes) : Bytes :=
  raw.1 :: (u16ToLe (UInt16.ofNat raw.2.length) ++ raw.2)

/-- A list of attributes that can be written, and its octets. -/
structure Tuples (count : Nat) (attributes : List (UInt8 × Bytes)) (octets : Bytes) : Prop where
  count : attributes.length = count
  sizes : ∀ raw ∈ attributes, raw.2.length < 65536
  octets : octets = attributes.flatMap encodeTuple

/-- The octets are cut off somewhere inside a list of attributes. -/
def Truncated (count : Nat) (octets : Bytes) : Prop :=
  ∃ attributes more, more ≠ [] ∧ Tuples count attributes (octets ++ more)

theorem Tuples.cons {count : Nat} {attributes : List (UInt8 × Bytes)} {octets : Bytes}
    (h : Tuples count attributes octets) (attributeId low high : UInt8) (value : Bytes)
    (hlength : value.length = (u16FromLe low high).toNat) :
    Tuples (count + 1) ((attributeId, value) :: attributes)
      (attributeId :: low :: high :: (value ++ octets)) := by
  refine ⟨by simp [h.count], ?_, ?_⟩
  · intro raw hraw
    rcases List.mem_cons.mp hraw with rfl | hraw
    · rw [hlength]
      exact (u16FromLe low high).toNat_lt
    · exact h.sizes raw hraw
  · rw [List.flatMap_cons, encodeTuple, hlength, UInt16.ofNat_toNat, u16ToLe_fromLe, h.octets]
    simp

theorem Tuples.zeros (count : Nat) :
    Tuples count (List.replicate count (0, []))
      ((List.replicate count (0, [])).flatMap encodeTuple) := by
  refine ⟨List.length_replicate, ?_, rfl⟩
  intro raw hraw
  rw [List.eq_of_mem_replicate hraw]
  decide

theorem parseAttributeTuples_append {count : Nat} {attributes : List (UInt8 × Bytes)} :
    ∀ {octets : Bytes}, Tuples count attributes octets → ∀ left : Bytes,
      parseAttributeTuples count (octets ++ left) = some (attributes, left) := by
  induction attributes generalizing count with
  | nil =>
    rintro octets ⟨rfl, -, rfl⟩ left
    rfl
  | cons raw attributes ih =>
    rintro octets ⟨rfl, hsizes, rfl⟩ left
    have hsize : raw.2.length < 65536 := hsizes raw List.mem_cons_self
    have hrest : Tuples attributes.length attributes (attributes.flatMap encodeTuple) :=
      ⟨rfl, fun other hother => hsizes other (List.mem_cons_of_mem raw hother), rfl⟩
    have hlength : (u16FromLe (UInt8.ofNat ((UInt16.ofNat raw.2.length).toNat % 256))
        (UInt8.ofNat ((UInt16.ofNat raw.2.length).toNat / 256))).toNat = raw.2.length := by
      rw [u16FromLe_toLe, UInt16.toNat_ofNat_of_lt' hsize]
    have hdata : raw.2 ++ attributes.flatMap encodeTuple ++ left =
        raw.2 ++ (attributes.flatMap encodeTuple ++ left) := List.append_assoc _ _ _
    rw [List.flatMap_cons, encodeTuple, u16ToLe]
    simp only [List.cons_append, List.nil_append, List.length_cons, parseAttributeTuples, hlength,
      hdata, List.drop_left, List.take_left, ih hrest left]
    rw [if_neg (by simp)]

theorem parseAttributeTuples_eq_some {count : Nat} : ∀ {data left : Bytes}
    {attributes : List (UInt8 × Bytes)},
    parseAttributeTuples count data = some (attributes, left) →
      ∃ octets, data = octets ++ left ∧ Tuples count attributes octets := by
  induction count with
  | zero =>
    intro data left attributes hparse
    cases hparse
    exact ⟨[], rfl, rfl, by simp, rfl⟩
  | succ count ih =>
    intro data left attributes hparse
    unfold parseAttributeTuples at hparse
    split at hparse
    · contradiction
    next attributeId low high data hcount =>
      obtain rfl := Nat.succ.inj hcount
      dsimp only at hparse
      split at hparse
      · cases hparse
      next hlength =>
        split at hparse
        · cases hparse
        next later hlater =>
          cases hparse
          obtain ⟨octets, hdrop, htuples⟩ := ih hlater
          refine ⟨attributeId :: low :: high ::
            (data.take (u16FromLe low high).toNat ++ octets), ?_, ?_⟩
          · simp only [List.cons_append, List.append_assoc, ← hdrop, List.take_append_drop]
          · apply htuples.cons
            rw [List.length_take]
            omega
    · cases hparse

/-- **Nothing is parsed exactly of truncated attributes.** -/
theorem parseAttributeTuples_eq_none_iff {count : Nat} {data : Bytes} :
    parseAttributeTuples count data = none ↔ Truncated count data := by
  constructor
  · intro hparse
    induction count generalizing data with
    | zero => cases hparse
    | succ count ih =>
      have hzeros := Tuples.zeros count
      -- the shortest way to go on: no value, and no value behind it
      match data, hparse with
      | [], _ =>
        exact ⟨_, _, by simp, hzeros.cons 0 0 0 [] rfl⟩
      | [attributeId], _ =>
        exact ⟨_, 0 :: 0 :: _, by simp, hzeros.cons attributeId 0 0 [] rfl⟩
      | [attributeId, low], _ =>
        exact ⟨_, 0 :: _, by simp, hzeros.cons attributeId low 0
          (List.replicate (u16FromLe low 0).toNat 0) (by simp)⟩
      | attributeId :: low :: high :: data, hparse =>
        unfold parseAttributeTuples at hparse
        dsimp only at hparse
        split at hparse
        · rename_i hshort
          have hfill : (data ++
            List.replicate ((u16FromLe low high).toNat - data.length) 0).length =
              (u16FromLe low high).toNat := by
            rw [List.length_append, List.length_replicate]
            omega
          have htuples := hzeros.cons attributeId low high _ hfill
          rw [List.append_assoc] at htuples
          have hmore :
              List.replicate ((u16FromLe low high).toNat - data.length) (0 : UInt8) ≠ [] := by
            apply List.ne_nil_of_length_pos
            rw [List.length_replicate]
            omega
          exact ⟨_, _, fun h => hmore (List.append_eq_nil_iff.mp h).1, htuples⟩
        · rename_i hlong
          split at hparse
          · rename_i hnone
            obtain ⟨attributes, more, hmore, htuples⟩ := ih hnone
            have hcons := htuples.cons attributeId low high (data.take (u16FromLe low high).toNat)
              (by rw [List.length_take]; omega)
            rw [← List.append_assoc, List.take_append_drop] at hcons
            exact ⟨_, more, hmore, hcons⟩
          · cases hparse
  · rintro ⟨attributes, more, hmore, htuples⟩
    cases hparse : parseAttributeTuples count data with
    | none => rfl
    | some found =>
      obtain ⟨others, left⟩ := found
      obtain ⟨octets, rfl, hothers⟩ := parseAttributeTuples_eq_some hparse
      have hfirst := parseAttributeTuples_append hothers (left ++ more)
      have hsecond := parseAttributeTuples_append htuples []
      rw [List.append_nil, List.append_assoc, hfirst] at hsecond
      obtain ⟨-, hleft⟩ := Prod.mk.inj (Option.some.inj hsecond)
      exact absurd (List.append_eq_nil_iff.mp hleft).2 hmore

/-! ## 7. What a parse finds -/

namespace ExpectedResponse

def attributeCount : ExpectedResponse → Nat
  | .notification _ attributeCount => attributeCount
  | .app _ attributeCount => attributeCount

/-- The octets a response to the request starts with. -/
def IsHeader : ExpectedResponse → Bytes → Prop
  | .notification notificationUid _, header => header = 0 :: u32ToLe notificationUid
  | .app appIdentifier _, header =>
    header = 1 :: (stringBytes appIdentifier ++ [0]) ∧ 0 ∉ stringBytes appIdentifier

def HeaderPending : ExpectedResponse → Bytes → Prop
  | .notification _ _, data => data = [] ∨ data.head? = some 0 ∧ data.length < 5
  | .app _ _, data => data = [] ∨ data.head? = some 1 ∧ 0 ∉ data.tail

def response : ExpectedResponse → List (UInt8 × Bytes) → Except Fault AncsResponse
  | .notification notificationUid _, attributes =>
    (attributes.mapM notificationAttribute).map (.notificationAttributes notificationUid)
  | .app appIdentifier _, attributes =>
    (attributes.mapM appAttribute).map (.appAttributes appIdentifier)

theorem parse_notification_header (notificationUid : UInt32) (count : Nat) (body : Bytes) :
    parseNotificationResponse (0 :: (u32ToLe notificationUid ++ body)) notificationUid count =
      match parseAttributeTuples count body with
      | none => .ok none
      | some (attributes, left) =>
        if left ≠ [] then .error (.error (.trailingBytes left.length))
        else ((notification notificationUid count).response attributes).map some := by
  have hlength : (u32ToLe notificationUid).length = 4 := rfl
  have htake : (u32ToLe notificationUid ++ body).take 4 = u32ToLe notificationUid := by
    rw [← hlength, List.take_left]
  have hdrop : (u32ToLe notificationUid ++ body).drop 4 = body := by
    rw [← hlength, List.drop_left]
  have huid : UInt32.ofNat (beToNat (u32ToLe notificationUid).reverse) = notificationUid := by
    rw [OctetReader.u32ToLe_eq, List.reverse_reverse, u32ToBe,
      beToNat_natToBe 4 notificationUid.toNat_lt,
      UInt32.ofNat_toNat]
  rw [parseNotificationResponse, if_neg (by simp), if_neg (by simp [hlength]), htake, hdrop, huid]
  dsimp only
  rw [if_neg (by simp)]
  cases parseAttributeTuples count body with
  | none => rfl
  | some found =>
    obtain ⟨attributes, left⟩ := found
    dsimp only
    split
    · rfl
    · rw [response]
      cases attributes.mapM notificationAttribute <;> rfl

theorem parse_app_of_octets {octets : Bytes} (hnul : 0 ∉ octets) (appIdentifier : String)
    (count : Nat) (body : Bytes) :
    parseAppResponse (1 :: (octets ++ 0 :: body)) appIdentifier count =
      match stringFromUtf8 octets with
      | none => .error (.error (.invalidUtf8 octets))
      | some found =>
        if found ≠ appIdentifier then .error (.error (.identifierMismatch found appIdentifier))
        else
          match parseAttributeTuples count body with
          | none => .ok none
          | some (attributes, left) =>
            if left ≠ [] then .error (.error (.trailingBytes left.length))
            else ((app found count).response attributes).map some := by
  have htake : (octets ++ 0 :: body).takeWhile (· ≠ 0) = octets := by
    rw [List.takeWhile_append_of_pos, List.takeWhile_cons_of_neg (by simp), List.append_nil]
    intro octet hoctet
    have hne : octet ≠ 0 := by
      rintro rfl
      exact hnul hoctet
    simpa using hne
  have hdrop : (octets ++ 0 :: body).drop (octets.length + 1) = body := by
    rw [← List.drop_drop, List.drop_left]
    rfl
  rw [parseAppResponse, if_neg (by simp), if_neg (by simp), htake]
  dsimp only
  rw [hdrop, fromUtf8]
  cases stringFromUtf8 octets with
  | none => rfl
  | some found =>
    change (if found ≠ appIdentifier then _ else _) = _
    dsimp only
    split
    · rfl
    · cases parseAttributeTuples count body with
      | none => rfl
      | some parsed =>
        obtain ⟨attributes, left⟩ := parsed
        dsimp only
        split
        · rfl
        · rw [response]
          cases attributes.mapM appAttribute <;> rfl

theorem parse_app_header {appIdentifier : String} (hnul : 0 ∉ stringBytes appIdentifier)
    (count : Nat) (body : Bytes) :
    parseAppResponse (1 :: (stringBytes appIdentifier ++ 0 :: body)) appIdentifier count =
      match parseAttributeTuples count body with
      | none => .ok none
      | some (attributes, left) =>
        if left ≠ [] then .error (.error (.trailingBytes left.length))
        else ((app appIdentifier count).response attributes).map some := by
  rw [parse_app_of_octets hnul, stringFromUtf8_bytes]
  dsimp only
  rw [if_neg (by simp)]

theorem parse_of_header {expected : ExpectedResponse} {header : Bytes}
    (hheader : expected.IsHeader header) (body : Bytes) :
    expected.parse (header ++ body) =
      match parseAttributeTuples expected.attributeCount body with
      | none => .ok none
      | some (attributes, left) =>
        if left ≠ [] then .error (.error (.trailingBytes left.length))
        else (expected.response attributes).map some := by
  cases expected with
  | notification notificationUid count =>
    subst hheader
    exact parse_notification_header notificationUid count body
  | app appIdentifier count =>
    obtain ⟨rfl, hnul⟩ := hheader
    rw [List.cons_append, List.append_assoc]
    exact parse_app_header hnul count body

/-- **What a parse finds.**  The header is still coming, or it is there, or the
    response is refused. -/
theorem parse_cases (expected : ExpectedResponse) (data : Bytes) :
    (expected.HeaderPending data ∧ expected.parse data = .ok none) ∨
    (∃ header body, expected.IsHeader header ∧ data = header ++ body) ∨
    ∃ fault, expected.parse data = .error fault := by
  cases expected with
  | notification notificationUid count =>
    cases data with
    | nil => exact .inl ⟨.inl rfl, rfl⟩
    | cons command rest =>
      by_cases hcommand : command = 0
      · subst hcommand
        by_cases hlength : (0 :: rest : Bytes).length < 5
        · refine .inl ⟨.inr ⟨rfl, hlength⟩, ?_⟩
          simp only [parse, parseNotificationResponse]
          rw [if_neg (by simp), if_pos hlength]
        · have htake : (rest.take 4).length = 4 := by
            rw [List.length_take]
            simp only [List.length_cons] at hlength
            omega
          by_cases huid : UInt32.ofNat (beToNat (rest.take 4).reverse) = notificationUid
          · refine .inr (.inl ⟨_, rest.drop 4, rfl, ?_⟩)
            rw [← huid, OctetReader.u32ToLe_beToNat htake, List.cons_append, List.take_append_drop]
          · refine .inr (.inr ⟨.error (.uidMismatch
              (UInt32.ofNat (beToNat (rest.take 4).reverse)) notificationUid), ?_⟩)
            simp only [parse, parseNotificationResponse]
            rw [if_neg (by simp), if_neg hlength, if_pos huid]
      · refine .inr (.inr ⟨.error (.unexpectedCommand command 0), ?_⟩)
        simp only [parse, parseNotificationResponse]
        rw [if_pos hcommand]
  | app appIdentifier count =>
    cases data with
    | nil => exact .inl ⟨.inl rfl, rfl⟩
    | cons command rest =>
      by_cases hcommand : command = 1
      · subst hcommand
        by_cases hnul : 0 ∉ rest
        · refine .inl ⟨.inr ⟨rfl, hnul⟩, ?_⟩
          simp only [parse, parseAppResponse]
          rw [if_neg (by simp), if_pos hnul]
        · -- the octets up to the first zero are the identifier
          obtain ⟨octets, body, rfl, hclean⟩ := List.eq_append_cons_of_mem (not_not.mp hnul)
          have hparse := parse_app_of_octets hclean appIdentifier count body
          cases htext : stringFromUtf8 octets with
          | none =>
            rw [htext] at hparse
            exact .inr (.inr ⟨_, hparse⟩)
          | some found =>
            rw [htext] at hparse
            dsimp only at hparse
            by_cases hfound : found = appIdentifier
            · subst hfound
              have hoctets := stringBytes_of_fromUtf8 htext
              subst hoctets
              refine .inr (.inl ⟨_, body, ⟨rfl, hclean⟩, ?_⟩)
              rw [List.cons_append, List.append_assoc]
              rfl
            · rw [if_pos hfound] at hparse
              exact .inr (.inr ⟨_, hparse⟩)
      · refine .inr (.inr ⟨.error (.unexpectedCommand command 1), ?_⟩)
        simp only [parse, parseAppResponse]
        rw [if_pos hcommand]

end ExpectedResponse

end Bumble.Ancs
