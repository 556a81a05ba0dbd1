import Bumble.Chunks
import Bumble.GattDatabase

/-!
# Read By Type and Read By Group Type (`bumble-gatt/src/lib.rs`, `bumble-gatt/src/client.rs`)

The two requests are answered by one loop, which collects the attributes of a type
for as long as their values are as long as the first one's, and their answers are cut
into entries again by the client.  `Listing` has what the two do not share.
-/

namespace Bumble.Gatt

open Att

/-! ## 1. The server -/

def error (requestOpcodeInError : UInt8) (attributeHandleInError : UInt16) (errorCode : UInt8) :
    AttPdu := .errorResponse requestOpcodeInError attributeHandleInError errorCode

/-- The value of an attribute, if the context may read it. -/
def Attribute.readIn (subscriptions : Subscriptions) (context : AccessContext) (attr : Attribute) :
    Except UInt8 Bytes := do
  checkReadAccess attr.permissions context
  attr.readValue subscriptions context

/-- The attributes of a type in a range of handles. -/
def GattServer.matching (server : GattServer) (startingHandle endingHandle : UInt16)
    (attributeType : Uuid) : List Attribute :=
  server.attributes.filter fun attr =>
    decide (attr.handle ≥ startingHandle) && decide (attr.handle ≤ endingHandle) &&
      attr.typeUuid.same attributeType

/-- The loop over the matches; `selected` begins with the entry that sets the length. -/
def selectEntries (subscriptions : Subscriptions) (context : AccessContext) :
    List (Attribute × Bytes) → List Attribute → Except (UInt16 × UInt8) (List (Attribute × Bytes))
  | selected, [] => .ok selected
  | selected, attr :: attrs =>
    match attr.readIn subscriptions context with
    | .error code => .error (attr.handle, code)
    | .ok value =>
      if selected.head?.any (fun first => first.2.length != value.length) then .ok selected
      else selectEntries subscriptions context (selected ++ [(attr, value)]) attrs

inductive GattError where
  | att (requestOpcode : UInt8) (attributeHandle : UInt16) (errorCode : UInt8)
  | protocol (message : String)
  | transport (message : String)
deriving DecidableEq, Repr

/-- A request for the attributes of a type: what stands in front of a value in its answer, and
    the entry that the client makes of both. -/
structure Listing (ε : Type) where
  opCode : UInt8
  name : String
  response : UInt8 → Bytes → AttPdu
  header : Attribute → Bytes
  headerLength : Nat
  decode : Bytes → ε
  /-- The entry has the attribute's handles, and the value as far as it goes. -/
  Lists : ε → Attribute → Bytes → Prop
  length_header : ∀ attr, (header attr).length = headerLength
  header_pos : 0 < headerLength
  lists_decode : ∀ attr value, Lists (decode (header attr ++ value)) attr value
  response_injective : ∀ {length length' data data'},
    response length data = response length' data' → length = length' ∧ data = data'
  response_ne_error : ∀ length data opCode handle code,
    response length data ≠ error opCode handle code

namespace Listing

variable {ε : Type} (listing : Listing ε)

def respond (selected : List (Attribute × Bytes)) : AttPdu :=
  let valueLen := (selected.head?.map fun entry => entry.2.length).getD 0
  listing.response (UInt8.ofNat (listing.headerLength + valueLen))
    (selected.flatMap fun (attr, value) => listing.header attr ++ value)

def read (server : GattServer) (startingHandle endingHandle : UInt16) (attributeType : Uuid)
    (context : AccessContext) : AttPdu :=
  let attrs := server.matching startingHandle endingHandle attributeType
  if attrs.isEmpty then error listing.opCode startingHandle attAttributeNotFoundError
  else
    match selectEntries server.subscriptions context [] attrs with
    | .error (handle, code) => error listing.opCode handle code
    | .ok selected => listing.respond selected

/-- The client: entries of `length` octets each. -/
def parseEntries (length : UInt8) (data : Bytes) : Except GattError (List ε) :=
  if length.toNat < listing.headerLength then
    .error (.protocol s!"{listing.name} entry length {length.toNat} < {listing.headerLength}")
  else if data.length % length.toNat ≠ 0 then
    .error (.protocol s!"{listing.name} data list not a multiple of entry length")
  else .ok ((chunks length.toNat data).map listing.decode)

end Listing

def typeListing : Listing (UInt16 × Bytes) where
  opCode := Codes.attReadByTypeRequest
  name := "Read By Type"
  response := .readByTypeResponse
  header := fun attr => u16ToLe attr.handle
  headerLength := 2
  decode := fun chunk => (u16FromLe (chunk.getD 0 0) (chunk.getD 1 0), chunk.drop 2)
  Lists := fun entry attr value => entry.1 = attr.handle ∧ entry.2 <+: value
  length_header := fun _ => rfl
  header_pos := by decide
  lists_decode := fun attr value => ⟨u16FromLe_toLe attr.handle, List.prefix_rfl⟩
  response_injective := fun heq => AttPdu.readByTypeResponse.inj heq
  response_ne_error := fun _ _ _ _ _ heq => nomatch heq

def groupListing : Listing (UInt16 × UInt16 × Bytes) where
  opCode := Codes.attReadByGroupTypeRequest
  name := "Read By Group Type"
  response := .readByGroupTypeResponse
  header := fun attr => u16ToLe attr.handle ++ u16ToLe attr.endGroupHandle
  headerLength := 4
  decode := fun chunk => (u16FromLe (chunk.getD 0 0) (chunk.getD 1 0),
    u16FromLe (chunk.getD 2 0) (chunk.getD 3 0), chunk.drop 4)
  Lists := fun entry attr value =>
    entry.1 = attr.handle ∧ entry.2.1 = attr.endGroupHandle ∧ entry.2.2 <+: value
  length_header := fun _ => rfl
  header_pos := by decide
  lists_decode := fun attr value =>
    ⟨u16FromLe_toLe attr.handle, u16FromLe_toLe attr.endGroupHandle, List.prefix_rfl⟩
  response_injective := fun heq => AttPdu.readByGroupTypeResponse.inj heq
  response_ne_error := fun _ _ _ _ _ heq => nomatch heq

def GattServer.readByType (server : GattServer) (startingHandle endingHandle : UInt16)
    (attributeType : Uuid) (context : AccessContext) : AttPdu :=
  typeListing.read server startingHandle endingHandle attributeType context

def GattServer.readByGroupType (server : GattServer) (startingHandle endingHandle : UInt16)
    (groupType : Uuid) (context : AccessContext) : AttPdu :=
  groupListing.read server startingHandle endingHandle groupType context

def parseTypeEntries : UInt8 → Bytes → Except GattError (List (UInt16 × Bytes)) :=
  typeListing.parseEntries

def parseGroupEntries : UInt8 → Bytes → Except GattError (List (UInt16 × UInt16 × Bytes)) :=
  groupListing.parseEntries

/-! ## 2. What the loop selects -/

section Loop

variable (subscriptions : Subscriptions) (context : AccessContext)

/-- The attribute can be read and has a value of the given length. -/
def fits (length : Nat) (attr : Attribute) : Bool :=
  match attr.readIn subscriptions context with
  | .ok value => value.length == length
  | .error _ => false

/-- An attribute with its value, if it can be read. -/
def entryOf (attr : Attribute) : Attribute × Bytes :=
  (attr, (attr.readIn subscriptions context).toOption.getD [])

variable {subscriptions context}

theorem entryOf_of_read {attr : Attribute} {value : Bytes}
    (hread : attr.readIn subscriptions context = .ok value) :
    entryOf subscriptions context attr = (attr, value) := by
  rw [entryOf, hread]
  rfl

theorem length_of_fits {length : Nat} {attr : Attribute}
    (hfits : fits subscriptions context length attr = true) :
    ∃ value, attr.readIn subscriptions context = .ok value ∧ value.length = length := by
  unfold fits at hfits
  split at hfits
  next value hread => exact ⟨value, hread, beq_iff_eq.mp hfits⟩
  next => cases hfits

/-- **The loop.**  With a first entry selected it goes on over the attributes that fit; the one
    that does not fit ends the list if it can be read, and is the answer if it cannot. -/
theorem selectEntries_of_first (first : Attribute × Bytes) (attrs : List Attribute) :
    ∀ selected, selectEntries subscriptions context (first :: selected) attrs =
      match (attrs.find? fun attr => !fits subscriptions context first.2.length attr).map
          fun attr => (attr.handle, attr.readIn subscriptions context) with
      | some (handle, .error code) => .error (handle, code)
      | _ => .ok (first :: selected ++
          (attrs.takeWhile (fits subscriptions context first.2.length)).map
            (entryOf subscriptions context)) := by
  induction attrs with
  | nil =>
    intro selected
    rw [selectEntries, List.find?_nil, List.takeWhile_nil, List.map_nil, List.append_nil]
    rfl
  | cons attr attrs ih =>
    intro selected
    rw [selectEntries, List.find?_cons, List.takeWhile_cons]
    cases hread : attr.readIn subscriptions context with
    | error code =>
      have hfits : fits subscriptions context first.2.length attr = false := by
        rw [fits, hread]
      rw [hfits]
      simp [hread]
    | ok value =>
      have hfits : fits subscriptions context first.2.length attr =
          (value.length == first.2.length) := by
        rw [fits, hread]
      change (if (first.2.length != value.length) = true then _ else
        selectEntries subscriptions context (first :: (selected ++ [(attr, value)])) attrs) = _
      rw [ih, hfits]
      by_cases hlength : value.length = first.2.length
      · have hsame : (value.length == first.2.length) = true := beq_iff_eq.mpr hlength
        have hdiffers : (first.2.length != value.length) = false := by
          rw [bne, hlength, BEq.rfl]
          rfl
        rw [hsame, hdiffers, if_neg Bool.false_ne_true, if_pos rfl, List.map_cons,
          entryOf_of_read hread, Bool.not_true, ← List.cons_append, List.append_assoc]
        rfl
      · have hother : (value.length == first.2.length) = false := beq_eq_false_iff_ne.mpr hlength
        have hdiffers : (first.2.length != value.length) = true :=
          bne_iff_ne.mpr fun heq => hlength heq.symm
        rw [hother, hdiffers, if_pos rfl, if_neg Bool.false_ne_true, Bool.not_false,
          List.map_nil, List.append_nil]
        simp [hread]

/-- The attributes that are listed: the first one and those after it that fit. -/
def run (subscriptions : Subscriptions) (context : AccessContext) (first : Attribute)
    (value : Bytes) (later : List Attribute) : List Attribute :=
  first :: later.takeWhile (fits subscriptions context value.length)

/-- The attribute behind the run, if there is one, can be read: it has another length. -/
def EndsReadable (subscriptions : Subscriptions) (context : AccessContext) (value : Bytes)
    (later : List Attribute) : Prop :=
  ∀ attr, later.find? (fun attr => !fits subscriptions context value.length attr) = some attr →
    ∃ other, attr.readIn subscriptions context = .ok other

theorem selectEntries_of_ends {first : Attribute} {value : Bytes} {later : List Attribute}
    (hread : first.readIn subscriptions context = .ok value)
    (hends : EndsReadable subscriptions context value later) :
    selectEntries subscriptions context [] (first :: later) =
      .ok ((run subscriptions context first value later).map (entryOf subscriptions context)) := by
  rw [selectEntries, hread]
  change selectEntries subscriptions context [(first, value)] later = _
  rw [selectEntries_of_first, run, List.map_cons, entryOf_of_read hread]
  cases hfind : later.find? fun attr => !fits subscriptions context value.length attr with
  | none => rfl
  | some attr =>
    obtain ⟨other, hother⟩ := hends attr hfind
    rw [Option.map_some, hother]
    rfl

theorem selectEntries_of_unreadable {first attr : Attribute} {value : Bytes}
    {later : List Attribute} {code : UInt8} (hread : first.readIn subscriptions context = .ok value)
    (hfind : later.find? (fun attr => !fits subscriptions context value.length attr) = some attr)
    (herror : attr.readIn subscriptions context = .error code) :
    selectEntries subscriptions context [] (first :: later) = .error (attr.handle, code) := by
  rw [selectEntries, hread]
  change selectEntries subscriptions context [(first, value)] later = _
  rw [selectEntries_of_first]
  dsimp only
  rw [hfind, Option.map_some, herror]

theorem length_entryOf_of_mem_run {first : Attribute} {value : Bytes} {later : List Attribute}
    (hread : first.readIn subscriptions context = .ok value) :
    ∀ attr ∈ run subscriptions context first value later, ∃ other,
      attr.readIn subscriptions context = .ok other ∧ other.length = value.length := by
  intro attr hattr
  rcases List.mem_cons.mp hattr with rfl | hlater
  · exact ⟨value, hread, rfl⟩
  · exact length_of_fits (List.mem_takeWhile_imp hlater)

end Loop

/-! ## 3. What the client reads -/

namespace Listing

variable {ε : Type} (listing : Listing ε)

def octets (subscriptions : Subscriptions) (context : AccessContext) (attrs : List Attribute) :
    Bytes :=
  ((attrs.map (entryOf subscriptions context)).map fun (attr, value) =>
    listing.header attr ++ value).flatten

def ListsAll (subscriptions : Subscriptions) (context : AccessContext) (entries : List ε)
    (attrs : List Attribute) : Prop :=
  List.Forall₂ (fun entry attr => ∃ value, attr.readIn subscriptions context = .ok value ∧
    listing.Lists entry attr value) entries attrs

/-- The answer is cut by the client into entries that list the first of the attributes. -/
def PrefixAnswer (subscriptions : Subscriptions) (context : AccessContext)
    (attrs : List Attribute) (answer : AttPdu) : Prop :=
  ∃ length data entries, answer = listing.response length data ∧
    listing.parseEntries length data = .ok entries ∧ entries ≠ [] ∧
    entries.length ≤ attrs.length ∧
    listing.ListsAll subscriptions context entries (attrs.take entries.length)

theorem length_octets {subscriptions : Subscriptions} {context : AccessContext} {size : Nat}
    {attrs : List Attribute} (hattrs : ∀ attr ∈ attrs, ∃ value,
      attr.readIn subscriptions context = .ok value ∧ value.length = size) :
    ∀ piece ∈ (attrs.map (entryOf subscriptions context)).map
      (fun (attr, value) => listing.header attr ++ value),
      piece.length = listing.headerLength + size := by
  intro piece hpiece
  obtain ⟨_, hentry, rfl⟩ := List.mem_map.mp hpiece
  obtain ⟨attr, hattr, rfl⟩ := List.mem_map.mp hentry
  obtain ⟨value, hread, hlength⟩ := hattrs attr hattr
  rw [entryOf_of_read hread]
  change (listing.header attr ++ value).length = _
  rw [List.length_append, listing.length_header, hlength]

theorem listsAll_run {subscriptions : Subscriptions} {context : AccessContext}
    {attrs : List Attribute}
    (hattrs : ∀ attr ∈ attrs, ∃ value, attr.readIn subscriptions context = .ok value) :
    listing.ListsAll subscriptions context
      (((attrs.map (entryOf subscriptions context)).map
        fun (attr, value) => listing.header attr ++ value).map listing.decode) attrs := by
  induction attrs with
  | nil => exact .nil
  | cons attr attrs ih =>
    obtain ⟨value, hread⟩ := hattrs attr List.mem_cons_self
    refine .cons ⟨value, hread, ?_⟩
      (ih fun other hother => hattrs other (List.mem_cons_of_mem _ hother))
    rw [entryOf_of_read hread]
    exact listing.lists_decode attr value

theorem parseEntries_octets {subscriptions : Subscriptions} {context : AccessContext} {size : Nat}
    {attrs : List Attribute} (hattrs : ∀ attr ∈ attrs, ∃ value,
      attr.readIn subscriptions context = .ok value ∧ value.length = size)
    (hsize : listing.headerLength + size ≤ 255) :
    listing.parseEntries (UInt8.ofNat (listing.headerLength + size))
        (listing.octets subscriptions context attrs) =
      .ok (((attrs.map (entryOf subscriptions context)).map
        fun (attr, value) => listing.header attr ++ value).map listing.decode) := by
  have hpieces := listing.length_octets hattrs
  have hpos := listing.header_pos
  have hlength : (UInt8.ofNat (listing.headerLength + size)).toNat = listing.headerLength + size :=
    UInt8.toNat_ofNat_of_lt' (Nat.lt_succ_of_le hsize)
  have hmultiple : (listing.octets subscriptions context attrs).length %
      (listing.headerLength + size) = 0 := by
    rw [octets, List.length_flatten, List.map_congr_left (g := fun _ => listing.headerLength + size)
      hpieces, List.map_const', List.sum_replicate, smul_eq_mul, Nat.mul_mod_left]
  rw [parseEntries, hlength, if_neg (by omega), if_neg (not_not_intro hmultiple), octets,
    chunks_of_flatten (by omega) hpieces]

/-- Cut at the entry length that is left in one octet, the octets happen to list the first
    attributes all the same. -/
def ListedWhenWrapped (subscriptions : Subscriptions) (context : AccessContext)
    (attrs : List Attribute) (size : Nat) (data : Bytes) : Prop :=
  let length := (listing.headerLength + size) % 256
  listing.headerLength ≤ length ∧ data.length % length = 0 ∧
    (chunks length data).length ≤ attrs.length ∧
    listing.ListsAll subscriptions context ((chunks length data).map listing.decode)
      (attrs.take (chunks length data).length)

theorem octets_ne_nil (subscriptions : Subscriptions) (context : AccessContext)
    (attr : Attribute) (attrs : List Attribute) :
    listing.octets subscriptions context (attr :: attrs) ≠ [] := by
  intro hnil
  have hlength := congrArg List.length hnil
  have hheader := listing.length_header (entryOf subscriptions context attr).1
  have hpos := listing.header_pos
  rw [octets, List.map_cons, List.map_cons, List.flatten_cons, List.length_append,
    List.length_append, hheader, List.length_nil] at hlength
  omega

theorem prefixAnswer_response_iff {subscriptions : Subscriptions} {context : AccessContext}
    {attrs : List Attribute} {size : Nat} {data : Bytes} (hdata : data ≠ []) :
    listing.PrefixAnswer subscriptions context attrs
        (listing.response (UInt8.ofNat (listing.headerLength + size)) data) ↔
      listing.ListedWhenWrapped subscriptions context attrs size data := by
  have hlength : (UInt8.ofNat (listing.headerLength + size)).toNat =
      (listing.headerLength + size) % 256 := UInt8.toNat_ofNat'
  constructor
  · rintro ⟨length, data', entries, hanswer, hparse, -, hcount, hlists⟩
    obtain ⟨rfl, rfl⟩ := listing.response_injective hanswer
    rw [parseEntries, hlength] at hparse
    split at hparse
    next => cases hparse
    next hheader =>
      split at hparse
      next => cases hparse
      next hmultiple =>
        cases hparse
        rw [List.length_map] at hcount hlists
        exact ⟨Nat.not_lt.mp hheader, not_not.mp hmultiple, hcount, hlists⟩
  · rintro ⟨hheader, hmultiple, hcount, hlists⟩
    refine ⟨_, data, (chunks ((listing.headerLength + size) % 256) data).map listing.decode, rfl,
      ?_, ?_, ?_, ?_⟩
    · rw [parseEntries, hlength, if_neg (Nat.not_lt.mpr hheader), if_neg (not_not_intro hmultiple)]
    · obtain ⟨rest, hchunks⟩ := chunks_first ((listing.headerLength + size) % 256) hdata
      rw [hchunks]
      exact List.cons_ne_nil _ _
    · rw [List.length_map]
      exact hcount
    · rw [List.length_map]
      exact hlists

theorem prefixAnswer_of_short {subscriptions : Subscriptions} {context : AccessContext}
    {first : Attribute} {later : List Attribute} {value : Bytes}
    (hread : first.readIn subscriptions context = .ok value)
    (hshort : listing.headerLength + value.length ≤ 255) :
    listing.PrefixAnswer subscriptions context (first :: later)
      (listing.response (UInt8.ofNat (listing.headerLength + value.length))
        (listing.octets subscriptions context (run subscriptions context first value later))) := by
  have hrun := @length_entryOf_of_mem_run subscriptions context first value later hread
  have hprefix : run subscriptions context first value later <+: first :: later :=
    (List.prefix_cons_inj first).mpr (List.takeWhile_prefix _)
  have hlists := listing.listsAll_run fun attr hattr =>
    (hrun attr hattr).imp fun other hother => hother.1
  refine ⟨_, _, _, rfl, listing.parseEntries_octets hrun hshort, List.cons_ne_nil _ _, ?_, ?_⟩
  · rw [List.length_map, List.length_map, List.length_map]
    exact hprefix.length_le
  · rw [List.length_map, List.length_map, List.length_map, ← List.prefix_iff_eq_take.mp hprefix]
    exact hlists

theorem read_of_ends {server : GattServer} {startingHandle endingHandle : UInt16}
    {attributeType : Uuid} {context : AccessContext} {first : Attribute} {later : List Attribute}
    {value : Bytes}
    (hmatching : server.matching startingHandle endingHandle attributeType = first :: later)
    (hread : first.readIn server.subscriptions context = .ok value)
    (hends : EndsReadable server.subscriptions context value later) :
    listing.read server startingHandle endingHandle attributeType context =
      listing.response (UInt8.ofNat (listing.headerLength + value.length))
        (listing.octets server.subscriptions context
          (run server.subscriptions context first value later)) := by
  rw [read, hmatching, List.isEmpty_cons, if_neg Bool.false_ne_true,
    selectEntries_of_ends hread hends]
  dsimp only
  rw [respond, octets, run, List.map_cons, entryOf_of_read hread]
  rfl

/-- **An answer lists a prefix** exactly when the attribute behind the run, if there is one, can
    be read, and the length of an entry fits its octet or is not missed. -/
theorem prefixAnswer_iff {server : GattServer} {startingHandle endingHandle : UInt16}
    {attributeType : Uuid} {context : AccessContext} {first : Attribute} {later : List Attribute}
    {value : Bytes}
    (hmatching : server.matching startingHandle endingHandle attributeType = first :: later)
    (hread : first.readIn server.subscriptions context = .ok value) :
    listing.PrefixAnswer server.subscriptions context (first :: later)
        (listing.read server startingHandle endingHandle attributeType context) ↔
      EndsReadable server.subscriptions context value later ∧
        (listing.headerLength + value.length ≤ 255 ∨
          listing.ListedWhenWrapped server.subscriptions context (first :: later) value.length
            (listing.octets server.subscriptions context
              (run server.subscriptions context first value later))) := by
  by_cases hends : EndsReadable server.subscriptions context value later
  · have hnil : listing.octets server.subscriptions context
        (run server.subscriptions context first value later) ≠ [] := listing.octets_ne_nil _ _ _ _
    have hwrapped := @prefixAnswer_response_iff ε listing server.subscriptions context
      (first :: later) value.length _ hnil
    rw [listing.read_of_ends hmatching hread hends, and_iff_right hends]
    constructor
    · intro hanswer
      exact .inr (hwrapped.mp hanswer)
    · rintro (hshort | hlisted)
      · exact listing.prefixAnswer_of_short hread hshort
      · exact hwrapped.mpr hlisted
  · apply iff_of_false
    · -- the attribute behind the run cannot be read, and its error is the answer
      obtain ⟨attr, hattr⟩ := not_forall.mp hends
      obtain ⟨hfind, hnone⟩ := Classical.not_imp.mp hattr
      cases herror : attr.readIn server.subscriptions context with
      | ok other => exact absurd ⟨other, herror⟩ hnone
      | error code =>
        rintro ⟨length, data, entries, hanswer, -⟩
        rw [read, hmatching, List.isEmpty_cons, if_neg Bool.false_ne_true,
          selectEntries_of_unreadable hread hfind herror] at hanswer
        exact listing.response_ne_error length data _ _ _ hanswer.symm
    · intro hboth
      exact hends hboth.1

end Listing

/-- **Read By Type and Read By Group Type.**  With a first match that can be read, the answers
    list a prefix of the matches, as the client cuts them, exactly under the conditions of
    `Listing.prefixAnswer_iff`. -/
theorem read_by_type_prefix_iff (server : GattServer) (startingHandle endingHandle : UInt16)
    (attributeType : Uuid) (context : AccessContext) (first : Attribute) (later : List Attribute)
    (value : Bytes)
    (hmatching : server.matching startingHandle endingHandle attributeType = first :: later)
    (hread : first.readIn server.subscriptions context = .ok value) :
    (typeListing.PrefixAnswer server.subscriptions context (first :: later)
        (server.readByType startingHandle endingHandle attributeType context) ↔
      EndsReadable server.subscriptions context value later ∧ (2 + value.length ≤ 255 ∨
        typeListing.ListedWhenWrapped server.subscriptions context (first :: later) value.length
          (typeListing.octets server.subscriptions context
            (run server.subscriptions context first value later)))) ∧
    (groupListing.PrefixAnswer server.subscriptions context (first :: later)
        (server.readByGroupType startingHandle endingHandle attributeType context) ↔
      EndsReadable server.subscriptions context value later ∧ (4 + value.length ≤ 255 ∨
        groupListing.ListedWhenWrapped server.subscriptions context (first :: later) value.length
          (groupListing.octets server.subscriptions context
            (run server.subscriptions context first value later)))) :=
  ⟨typeListing.prefixAnswer_iff hmatching hread, groupListing.prefixAnswer_iff hmatching hread⟩

def batteryLevel (permissions : UInt8) : CharacteristicDefinition :=
  ⟨.from16Bits 0x2A19, 0x02, permissions, [0x64], []⟩

/-- A service with batteries of the given permissions. -/
def batteries (permissions : List UInt8) : List ServiceDefinition :=
  [⟨.from16Bits 0x180F, true, [], permissions.map batteryLevel⟩]

def plainContext : AccessContext := ⟨0, false, false, false⟩

theorem two_batteries_listed :
    ∃ server, GattServer.fromDefinitions
        (batteries [Permissions.readable, Permissions.readable]) = .ok server ∧
      ∃ first second, server.matching 1 0xFFFF (.from16Bits 0x2A19) = [first, second] ∧
        typeListing.PrefixAnswer server.subscriptions plainContext [first, second]
          (server.readByType 1 0xFFFF (.from16Bits 0x2A19) plainContext) := by
  refine ⟨_, rfl, _, _, rfl, ?_⟩
  refine (read_by_type_prefix_iff _ 1 0xFFFF (.from16Bits 0x2A19) plainContext _ _ [0x64] rfl
    rfl).1.mpr ⟨?_, .inl (by decide)⟩
  intro attr hattr
  cases hattr

/-- Behind a battery that can be read, one that cannot is the answer to the whole range. -/
theorem second_unreadable_is_error :
    ∃ server, GattServer.fromDefinitions
        (batteries [Permissions.readable, Permissions.writeable]) = .ok server ∧
      (∃ first later, server.matching 1 0xFFFF (.from16Bits 0x2A19) = first :: later ∧
        first.readIn server.subscriptions plainContext = .ok [0x64]) ∧
      server.readByType 1 0xFFFF (.from16Bits 0x2A19) plainContext =
        .errorResponse Codes.attReadByTypeRequest 5 attReadNotPermittedError := by
  refine ⟨_, rfl, ⟨_, _, rfl, rfl⟩, ?_⟩
  decide

end Bumble.Gatt
