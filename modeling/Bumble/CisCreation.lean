import Bumble.FirstMatch
import Bumble.ControllerHandles

/-!
# All or nothing in LE Create CIS (`bumble-controller/src/lib.rs`)

`handle_create_cis` goes through the pairs of a CIS and an ACL handle and stops
at the first pair it does not know.  The pairs in front of that one stay bound,
and their requests stay queued.
-/

namespace Bumble.Controller

open Bumble.Smp (Address)

/-! ## 1. What the host is promised -/

def centralCis (controller : Controller) (cisHandle : Nat) : Option CisLink :=
  controller.centralCisLinks.find? (·.handle = cisHandle)

/-- The request for a CIS over an ACL connection, `none` if either handle is unknown. -/
def cisRequest (controller : Controller) (pair : Nat × Nat) :
    Option (Address × Address × LlPdu) := do
  let connection ← controller.connectionByHandle pair.2
  let link ← controller.centralCis pair.1
  return (connection.selfAddress, connection.peerAddress, .cisReq link.cigId link.cisId)

/-- A command that is refused has bound no link and queued no PDU. -/
structure NothingCreated (before after : Controller) : Prop where
  bound : ∀ link ∈ after.centralCisLinks, ∀ endpoints, link.endpoints = some endpoints →
    ∃ earlier ∈ before.centralCisLinks, earlier.handle = link.handle ∧
      earlier.endpoints = some endpoints
  queued : after.outboundLl = before.outboundLl

/-- A command that is accepted has bound every CIS that it names to the ACL connection named
with it, and one request for each is queued. -/
structure AllCreated (before after : Controller) (cisHandles aclHandles : List Nat) :
    Prop where
  lengths : cisHandles.length = aclHandles.length
  bound : ∀ pair ∈ cisHandles.zip aclHandles, ∃ connection link,
    before.connectionByHandle pair.2 = some connection ∧
    after.centralCis pair.1 = some link ∧
    link.endpoints = some (connection.selfAddress, connection.peerAddress)
  queued : ∃ requests : List (Nat × Address × Address × LlPdu),
    after.outboundLl = before.outboundLl ++ requests.map Prod.snd ∧
    (requests.map Prod.fst).Perm cisHandles.dedup ∧
    ∀ request ∈ requests, ∃ aclHandle, (request.1, aclHandle) ∈ cisHandles.zip aclHandles ∧
      before.cisRequest (request.1, aclHandle) = some request.2

/-- The host hears one status, and the state agrees with it. -/
def AllOrNothing (before : Controller) (cisHandles aclHandles : List Nat) : Prop :=
  ∃ after status, before.step (.command (.leCreateCis cisHandles aclHandles)) = some after ∧
    after.hostQueue = before.hostQueue ++ [.commandStatus status hciLeCreateCisCommand] ∧
    (status ≠ hciSuccess → NothingCreated before after) ∧
    (status = hciSuccess → AllCreated before after cisHandles aclHandles)

/-- The first pair is unknown already, or nothing stops the command: as many CIS handles as
ACL handles, each of them known, and no CIS twice. -/
def CreatesCleanly (controller : Controller) (cisHandles aclHandles : List Nat) : Prop :=
  (∃ pair ∈ (cisHandles.zip aclHandles).head?, controller.cisRequest pair = none) ∨
    (cisHandles.length = aclHandles.length ∧ cisHandles.Nodup ∧
      ∀ pair ∈ cisHandles.zip aclHandles, controller.cisRequest pair ≠ none)

/-! ## 2. One pair -/

def bindCis (controller : Controller) (cisHandle : Nat) (connection : Connection)
    (link : CisLink) : Controller :=
  { controller with
    centralCisLinks := updateFirst (·.handle = cisHandle)
      (CisLink.bind connection.selfAddress connection.peerAddress)
      controller.centralCisLinks }.queueLl connection.selfAddress connection.peerAddress
    (.cisReq link.cigId link.cisId)

variable {controller : Controller} {cisHandle aclHandle : Nat} {connection : Connection}
  {link : CisLink} {pair : Nat × Nat} {rest : List (Nat × Nat)}

theorem cisRequest_eq_some {request : Address × Address × LlPdu} :
    controller.cisRequest (cisHandle, aclHandle) = some request ↔
      ∃ connection link, controller.connectionByHandle aclHandle = some connection ∧
        controller.centralCis cisHandle = some link ∧
        request = (connection.selfAddress, connection.peerAddress,
          .cisReq link.cigId link.cisId) := by
  simp [cisRequest, Option.bind_eq_some_iff, @eq_comm _ _ request]

theorem handleCreateCis_of_unknown (hunknown : controller.cisRequest pair = none) :
    controller.handleCreateCis (pair :: rest) =
      controller.commandStatus hciLeCreateCisCommand invalidCommandParameters := by
  obtain ⟨cisHandle, aclHandle⟩ := pair
  unfold handleCreateCis
  split
  · rfl
  next connection hconnection =>
    split
    · rfl
    next link hlink =>
      have hcis : controller.centralCis cisHandle = some link := hlink
      simp [cisRequest, hconnection, hcis] at hunknown

theorem handleCreateCis_of_known
    (hconnection : controller.connectionByHandle aclHandle = some connection)
    (hlink : controller.centralCis cisHandle = some link) :
    controller.handleCreateCis ((cisHandle, aclHandle) :: rest) =
      (controller.bindCis cisHandle connection link).handleCreateCis rest := by
  have hfind : controller.centralCisLinks.find? (·.handle = cisHandle) = some link := hlink
  simp only [handleCreateCis, hconnection, hfind]
  rfl

@[simp] theorem connectionByHandle_bindCis (handle : Nat) :
    (controller.bindCis cisHandle connection link).connectionByHandle handle =
      controller.connectionByHandle handle := rfl

@[simp] theorem hostQueue_bindCis :
    (controller.bindCis cisHandle connection link).hostQueue = controller.hostQueue := rfl

@[simp] theorem outboundLl_bindCis :
    (controller.bindCis cisHandle connection link).outboundLl = controller.outboundLl ++
      [(connection.selfAddress, connection.peerAddress, .cisReq link.cigId link.cisId)] := rfl

theorem centralCis_bindCis (wanted : Nat) :
    (controller.bindCis cisHandle connection link).centralCis wanted =
      if wanted = cisHandle then
        (controller.centralCis cisHandle).map
          (CisLink.bind connection.selfAddress connection.peerAddress)
      else controller.centralCis wanted := by
  apply find?_updateFirst_key
  intro item
  rfl

@[simp] theorem cisRequest_bindCis (wanted : Nat × Nat) :
    (controller.bindCis cisHandle connection link).cisRequest wanted =
      controller.cisRequest wanted := by
  unfold cisRequest
  rw [connectionByHandle_bindCis, centralCis_bindCis]
  split
  next hwanted =>
    rw [hwanted]
    cases controller.centralCis cisHandle <;> rfl
  · rfl

/-! ## 3. All pairs -/

/-- The status is success exactly when every pair is known, and the requests of the pairs in
front of the first unknown one are queued. -/
theorem handleCreateCis_queues (pairs : List (Nat × Nat)) :
    ∃ status, (controller.handleCreateCis pairs).hostQueue =
        controller.hostQueue ++ [.commandStatus status hciLeCreateCisCommand] ∧
      (status = hciSuccess ↔ ∀ pair ∈ pairs, controller.cisRequest pair ≠ none) ∧
      (controller.handleCreateCis pairs).outboundLl = controller.outboundLl ++
        ((pairs.map controller.cisRequest).takeWhile Option.isSome).reduceOption := by
  induction pairs generalizing controller with
  | nil => exact ⟨hciSuccess, rfl, by simp, by simp [handleCreateCis, commandStatus, push]⟩
  | cons pair rest ih =>
    cases hrequest : controller.cisRequest pair with
    | none =>
      refine ⟨invalidCommandParameters, ?_, ?_, ?_⟩
      · rw [handleCreateCis_of_unknown hrequest]
        rfl
      · have hstatus : invalidCommandParameters ≠ hciSuccess := by decide
        simp [hstatus, hrequest]
      · rw [handleCreateCis_of_unknown hrequest]
        simp [hrequest, commandStatus, push]
    | some request =>
      obtain ⟨cisHandle, aclHandle⟩ := pair
      obtain ⟨connection, link, hconnection, hlink, hsays⟩ := cisRequest_eq_some.mp hrequest
      rw [handleCreateCis_of_known hconnection hlink]
      obtain ⟨status, hstatus, hsuccess, hqueued⟩ :=
        @ih (controller.bindCis cisHandle connection link)
      refine ⟨status, hstatus, ?_, ?_⟩
      · rw [hsuccess]
        simp [hrequest]
      · have hsame : (controller.bindCis cisHandle connection link).cisRequest =
            controller.cisRequest := funext cisRequest_bindCis
        rw [hqueued, hsame]
        simp [hrequest, hsays]

theorem centralCis_handleCreateCis {pairs : List (Nat × Nat)}
    (hothers : cisHandle ∉ pairs.map Prod.fst) :
    (controller.handleCreateCis pairs).centralCis cisHandle = controller.centralCis cisHandle := by
  induction pairs generalizing controller with
  | nil => rfl
  | cons pair rest ih =>
    cases hrequest : controller.cisRequest pair with
    | none =>
      rw [handleCreateCis_of_unknown hrequest]
      rfl
    | some request =>
      obtain ⟨firstCis, firstAcl⟩ := pair
      obtain ⟨connection, link, hconnection, hlink, -⟩ := cisRequest_eq_some.mp hrequest
      rw [List.map_cons, List.mem_cons, not_or] at hothers
      rw [handleCreateCis_of_known hconnection hlink, ih hothers.2, centralCis_bindCis,
        if_neg hothers.1]

theorem handleCreateCis_bound {pairs : List (Nat × Nat)}
    (hknown : ∀ pair ∈ pairs, controller.cisRequest pair ≠ none)
    (hdistinct : (pairs.map Prod.fst).Nodup) :
    ∀ pair ∈ pairs, ∃ connection link,
      controller.connectionByHandle pair.2 = some connection ∧
      (controller.handleCreateCis pairs).centralCis pair.1 = some link ∧
      link.endpoints = some (connection.selfAddress, connection.peerAddress) := by
  induction pairs generalizing controller with
  | nil => simp
  | cons first rest ih =>
    obtain ⟨cisHandle, aclHandle⟩ := first
    obtain ⟨request, hrequest⟩ :=
      Option.ne_none_iff_exists'.mp (hknown _ (List.mem_cons_self ..))
    obtain ⟨connection, link, hconnection, hlink, -⟩ := cisRequest_eq_some.mp hrequest
    rw [List.map_cons, List.nodup_cons] at hdistinct
    rw [handleCreateCis_of_known hconnection hlink]
    intro pair hpair
    rcases List.mem_cons.mp hpair with rfl | hpair
    · refine ⟨connection, link.bind connection.selfAddress connection.peerAddress, hconnection,
        ?_, rfl⟩
      rw [centralCis_handleCreateCis hdistinct.1, centralCis_bindCis, if_pos rfl, hlink]
      rfl
    · apply @ih (controller.bindCis cisHandle connection link) _ hdistinct.2 pair hpair
      intro later hlater
      rw [cisRequest_bindCis]
      exact hknown later (List.mem_cons_of_mem _ hlater)

/-! ## 4. All or nothing -/

variable {cisHandles aclHandles : List Nat}

theorem allOrNothing_iff_promise :
    AllOrNothing controller cisHandles aclHandles ↔
      if ∀ pair ∈ cisHandles.zip aclHandles, controller.cisRequest pair ≠ none then
        AllCreated controller (controller.handleCreateCis (cisHandles.zip aclHandles))
          cisHandles aclHandles
      else NothingCreated controller
        (controller.handleCreateCis (cisHandles.zip aclHandles)) := by
  obtain ⟨heard, hheard, hsuccess, -⟩ :=
    @handleCreateCis_queues controller (cisHandles.zip aclHandles)
  constructor
  · rintro ⟨after, status, hafter, hstatus, hnothing, hall⟩
    obtain rfl := Option.some.inj hafter
    have hsame : heard = status := by
      rw [hheard] at hstatus
      simpa using hstatus
    subst hsame
    split
    next hknown => exact hall (hsuccess.mpr hknown)
    next hunknown => exact hnothing fun hstatus => hunknown (hsuccess.mp hstatus)
  · intro hpromise
    refine ⟨_, heard, rfl, hheard, ?_, ?_⟩
    · intro hstatus
      rwa [if_neg fun hknown => hstatus (hsuccess.mpr hknown)] at hpromise
    · intro hstatus
      rwa [if_pos (hsuccess.mp hstatus)] at hpromise

theorem nothingCreated_iff {pairs : List (Nat × Nat)}
    (hunknown : ¬ ∀ pair ∈ pairs, controller.cisRequest pair ≠ none) :
    NothingCreated controller (controller.handleCreateCis pairs) ↔
      ∃ pair ∈ pairs.head?, controller.cisRequest pair = none := by
  obtain ⟨-, -, -, hqueued⟩ := @handleCreateCis_queues controller pairs
  cases pairs with
  | nil => simp at hunknown
  | cons pair rest =>
    rw [List.head?_cons]
    simp only [Option.mem_some_iff, exists_eq_left']
    constructor
    · intro hnothing
      rw [hnothing.queued] at hqueued
      cases hrequest : controller.cisRequest pair with
      | none => rfl
      | some request => simp [hrequest] at hqueued
    · intro hrequest
      rw [handleCreateCis_of_unknown hrequest]
      exact ⟨fun link hlink endpoints hbound => ⟨link, hlink, rfl, hbound⟩, rfl⟩

theorem outboundLl_of_known {pairs : List (Nat × Nat)}
    (hknown : ∀ pair ∈ pairs, controller.cisRequest pair ≠ none) :
    (controller.handleCreateCis pairs).outboundLl =
      controller.outboundLl ++ pairs.filterMap controller.cisRequest := by
  obtain ⟨-, -, -, hqueued⟩ := @handleCreateCis_queues controller pairs
  have hall : (pairs.map controller.cisRequest).takeWhile Option.isSome =
      pairs.map controller.cisRequest := by
    rw [List.takeWhile_eq_self_iff]
    intro request hrequest
    obtain ⟨pair, hpair, rfl⟩ := List.mem_map.mp hrequest
    exact Option.isSome_iff_ne_none.mpr (hknown pair hpair)
  rw [hqueued, hall, List.reduceOption, List.filterMap_map]
  rfl

theorem length_filterMap_of_known {pairs : List (Nat × Nat)}
    (hknown : ∀ pair ∈ pairs, controller.cisRequest pair ≠ none) :
    (pairs.filterMap controller.cisRequest).length = pairs.length := by
  rw [List.length_filterMap_eq_countP, List.countP_eq_length]
  intro pair hpair
  exact Option.isSome_iff_ne_none.mpr (hknown pair hpair)

theorem allCreated_iff
    (hknown : ∀ pair ∈ cisHandles.zip aclHandles, controller.cisRequest pair ≠ none) :
    AllCreated controller (controller.handleCreateCis (cisHandles.zip aclHandles))
        cisHandles aclHandles ↔
      cisHandles.length = aclHandles.length ∧ cisHandles.Nodup := by
  constructor
  · rintro ⟨hlengths, -, requests, hqueued, hnamed, -⟩
    refine ⟨hlengths, ?_⟩
    rw [outboundLl_of_known hknown] at hqueued
    have hmade : cisHandles.length = requests.length := by
      rw [← @List.length_map _ _ requests Prod.snd, ← List.append_cancel_left hqueued,
        length_filterMap_of_known hknown, List.length_zip, ← hlengths, Nat.min_self]
    have hdedup : cisHandles.length ≤ cisHandles.dedup.length := by
      rw [← hnamed.length_eq, List.length_map, hmade]
    rw [← List.dedup_eq_self]
    exact (List.dedup_sublist cisHandles).eq_of_length_le hdedup
  · rintro ⟨hlengths, hdistinct⟩
    have hfirsts : (cisHandles.zip aclHandles).map Prod.fst = cisHandles :=
      List.map_fst_zip hlengths.le
    refine ⟨hlengths, ?_, ?_⟩
    · exact handleCreateCis_bound hknown (by rwa [hfirsts])
    · refine ⟨(cisHandles.zip aclHandles).filterMap fun pair =>
        (controller.cisRequest pair).map (pair.1, ·), ?_, ?_, ?_⟩
      · rw [outboundLl_of_known hknown, List.map_filterMap]
        simp only [Option.map_map, Function.comp_def, Option.map_id']
      · rw [List.map_filterMap, hdistinct.dedup]
        apply List.Perm.of_eq
        conv_rhs => rw [← hfirsts, ← List.filterMap_eq_map]
        apply List.filterMap_congr
        intro pair hpair
        obtain ⟨request, hrequest⟩ := Option.ne_none_iff_exists'.mp (hknown pair hpair)
        rw [hrequest]
        rfl
      · intro request hrequest
        obtain ⟨pair, hpair, hmade⟩ := List.mem_filterMap.mp hrequest
        obtain ⟨made, hsays, rfl⟩ := Option.map_eq_some_iff.mp hmade
        exact ⟨pair.2, hpair, hsays⟩

/-- **One command.**  From any state LE Create CIS is all or nothing exactly when its lists
are clean in that state. -/
theorem allOrNothing_iff (controller : Controller) (cisHandles aclHandles : List Nat) :
    AllOrNothing controller cisHandles aclHandles ↔
      controller.CreatesCleanly cisHandles aclHandles := by
  rw [allOrNothing_iff_promise]
  unfold CreatesCleanly
  split
  next hknown =>
    rw [allCreated_iff hknown]
    constructor
    · rintro ⟨hlengths, hdistinct⟩
      exact Or.inr ⟨hlengths, hdistinct, hknown⟩
    · rintro (⟨pair, hpair, hunknown⟩ | ⟨hlengths, hdistinct, -⟩)
      · exact absurd hunknown (hknown pair (List.mem_of_mem_head? hpair))
      · exact ⟨hlengths, hdistinct⟩
  next hunknown =>
    rw [nothingCreated_iff hunknown]
    constructor
    · exact Or.inl
    · rintro (hfirst | ⟨-, -, hknown⟩)
      · exact hfirst
      · exact absurd hknown hunknown

/-! ## 5. Runs -/

/-- A property of every LE Create CIS of a run: it holds of the state in which the command is
handled and of the lists of the command. -/
def AtEachCreation (holds : Controller → List Nat → List Nat → Prop) (controller : Controller)
    (calls : List Call) : Prop :=
  ∀ earlier later cisHandles aclHandles reached,
    calls = earlier ++ .command (.leCreateCis cisHandles aclHandles) :: later →
    controller.run earlier = some reached → holds reached cisHandles aclHandles

/-- **LE Create CIS in a run.**  Every one of a run is all or nothing exactly when every one
is clean in the state it meets: its first pair is unknown there, or the lists have equal
lengths, name no CIS twice and name only what is known. -/
theorem createCis_all_or_nothing_iff (name : Bytes) (publicAddress : Address)
    (calls : List Call) :
    AtEachCreation AllOrNothing (Controller.new name publicAddress) calls ↔
      AtEachCreation CreatesCleanly (Controller.new name publicAddress) calls := by
  constructor
  · intro hall earlier later cisHandles aclHandles reached hcalls hreached
    rw [← allOrNothing_iff]
    exact hall earlier later cisHandles aclHandles reached hcalls hreached
  · intro hclean earlier later cisHandles aclHandles reached hcalls hreached
    rw [allOrNothing_iff]
    exact hclean earlier later cisHandles aclHandles reached hcalls hreached

/-- A central with one connection and one configured CIS, whose host then asks for that CIS
and for one that does not exist. -/
def testCreateCis : List Call :=
  [.command (.leCreateConnection hciLeCreateConnectionCommand
      { peerAddress := ⟨#v[2, 0, 0, 0, 0, 0], 0⟩, peerAddressType := 0, ownAddressType := 0 }),
    .connectAsCentralTo ⟨#v[2, 0, 0, 0, 0, 0], 0⟩ ⟨#v[2, 0, 0, 0, 0, 0], 0⟩ 0,
    .command (.leSetCigParameters 1 [1]),
    .command (.leCreateCis [2, 99] [1, 1])]

/-- The host hears that the command failed, and a request for the first CIS is on its way. -/
theorem createCis_half_done :
    ¬ AtEachCreation AllOrNothing (Controller.new [] testPublicAddress) testCreateCis := by
  intro hall
  obtain ⟨after, status, hafter, hstatus, hnothing, -⟩ :=
    hall (testCreateCis.take 3) [] [2, 99] [1, 1] _ rfl rfl
  obtain rfl := Option.some.inj hafter
  have hrefused : status ≠ hciSuccess := by
    rintro rfl
    exact absurd hstatus (by decide)
  exact absurd (hnothing hrefused).queued (by decide)

end Bumble.Controller
