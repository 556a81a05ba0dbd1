import Bumble.AvdtpSession

/-!
# The session state is the replay of the events

The events of one command take an observer from the states before it to the
states after it.  The one exception is a Start or Suspend command that names an
endpoint twice: the endpoints are checked before any of them is moved, so the
repetition is accepted and its event announced a second time.
-/

namespace Bumble.Avdtp

/-! ## 1. Endpoints of a changed session -/

theorem find_updateEndpoint (seid other : UInt8) {change : LocalEndpoint → LocalEndpoint}
    (hchange : ∀ endpoint, (change endpoint).seid = endpoint.seid)
    (endpoints : List LocalEndpoint) :
    (updateEndpoint seid change endpoints).find? (fun endpoint => endpoint.seid = other) =
      if other = seid then
        (endpoints.find? fun endpoint => endpoint.seid = other).map change
      else endpoints.find? fun endpoint => endpoint.seid = other := by
  induction endpoints with
  | nil => simp [updateEndpoint]
  | cons endpoint endpoints ih =>
    rw [updateEndpoint]
    by_cases hseid : endpoint.seid = seid
    · rw [if_pos hseid]
      by_cases hother : other = seid
      · simp [hchange, hseid, hother]
      · have hne : endpoint.seid ≠ other := fun h => hother (h.symm.trans hseid)
        simp [hchange, hother, hne]
    · rw [if_neg hseid]
      by_cases hfound : endpoint.seid = other
      · have hother : other ≠ seid := fun h => hseid (hfound.trans h)
        simp [hfound, hother]
      · simpa [List.find?_cons, hfound] using ih

theorem map_seid_updateEndpoint (seid : UInt8) {change : LocalEndpoint → LocalEndpoint}
    (hchange : ∀ endpoint, (change endpoint).seid = endpoint.seid)
    (endpoints : List LocalEndpoint) :
    (updateEndpoint seid change endpoints).map LocalEndpoint.seid =
      endpoints.map LocalEndpoint.seid := by
  induction endpoints with
  | nil => rfl
  | cons endpoint endpoints ih =>
    rw [updateEndpoint]
    split
    · simp [hchange]
    · simp [ih]

namespace Session

@[simp] theorem push_endpoint (s : Session) (event : SessionEvent) (seid : UInt8) :
    (s.push event).endpoint seid = s.endpoint seid := rfl

@[simp] theorem push_endpoints (s : Session) (event : SessionEvent) :
    (s.push event).endpoints = s.endpoints := rfl

@[simp] theorem push_events (s : Session) (event : SessionEvent) :
    (s.push event).events = s.events ++ [event] := rfl

@[simp] theorem update_events (s : Session) (seid : UInt8)
    (change : LocalEndpoint → LocalEndpoint) : (s.update seid change).events = s.events := rfl

theorem update_endpoint (s : Session) (seid other : UInt8)
    (change : LocalEndpoint → LocalEndpoint)
    (hchange : ∀ endpoint, (change endpoint).seid = endpoint.seid) :
    (s.update seid change).endpoint other =
      if other = seid then (s.endpoint other).map change else s.endpoint other :=
  find_updateEndpoint seid other hchange s.endpoints

/-! ## 2. What an observer knows -/

/-- The observer's states are the endpoints' own, and an endpoint has a remote
    identifier exactly when it is in use. -/
structure Follows (s : Session) (observed : Observed) : Prop where
  state : ∀ seid endpoint, s.endpoint seid = some endpoint → endpoint.state = observed seid
  remote : ∀ seid endpoint, s.endpoint seid = some endpoint →
    (endpoint.remoteSeid.isSome = true ↔ endpoint.state ≠ .idle)
  absent : ∀ seid, s.endpoint seid = none → observed seid = .idle

theorem Follows.of_endpoint {s t : Session} {observed : Observed} (hfollows : s.Follows observed)
    (hsame : ∀ seid, t.endpoint seid = s.endpoint seid) : t.Follows observed := by
  constructor
  · intro seid endpoint hendpoint
    rw [hsame] at hendpoint
    exact hfollows.state seid endpoint hendpoint
  · intro seid endpoint hendpoint
    rw [hsame] at hendpoint
    exact hfollows.remote seid endpoint hendpoint
  · intro seid hnone
    rw [hsame] at hnone
    exact hfollows.absent seid hnone

theorem Follows.update {s : Session} {observed : Observed} (hfollows : s.Follows observed)
    {seid : UInt8} {endpoint : LocalEndpoint} (hendpoint : s.endpoint seid = some endpoint)
    (change : LocalEndpoint → LocalEndpoint)
    (hchange : ∀ endpoint, (change endpoint).seid = endpoint.seid)
    (hremote : (change endpoint).remoteSeid.isSome = true ↔ (change endpoint).state ≠ .idle) :
    (s.update seid change).Follows
      (Function.update observed seid (change endpoint).state) := by
  constructor
  · intro other found hfound
    rw [update_endpoint s seid other change hchange] at hfound
    by_cases hother : other = seid
    · subst hother
      rw [if_pos rfl, hendpoint] at hfound
      obtain rfl : change endpoint = found := Option.some.inj hfound
      rw [Function.update_self]
    · rw [if_neg hother] at hfound
      rw [Function.update_of_ne hother]
      exact hfollows.state other found hfound
  · intro other found hfound
    rw [update_endpoint s seid other change hchange] at hfound
    by_cases hother : other = seid
    · subst hother
      rw [if_pos rfl, hendpoint] at hfound
      obtain rfl : change endpoint = found := Option.some.inj hfound
      exact hremote
    · rw [if_neg hother] at hfound
      exact hfollows.remote other found hfound
  · intro other hnone
    rw [update_endpoint s seid other change hchange] at hnone
    by_cases hother : other = seid
    · subst hother
      rw [if_pos rfl, hendpoint] at hnone
      cases hnone
    · rw [if_neg hother] at hnone
      rw [Function.update_of_ne hother]
      exact hfollows.absent other hnone

/-! ## 3. Start and Suspend -/

/-- The event that announces a move from one state to another. -/
def Announces (event : UInt8 → SessionEvent) (source target : State) : Prop :=
  ∀ observed seid, observe observed (event seid) =
    if observed seid = source then some (Function.update observed seid target) else none

theorem announces_started : Announces .started .open .streaming := fun _ _ => rfl

theorem announces_suspended : Announces .suspended .streaming .open := fun _ _ => rfl

theorem validateAll_none {s : Session} {seids : List UInt8} {state : State}
    (hvalid : s.validateAll seids state = none) :
    ∀ seid ∈ seids, ∃ endpoint, s.endpoint seid = some endpoint ∧ endpoint.state = state := by
  induction seids with
  | nil =>
    intro seid hseid
    cases hseid
  | cons first seids ih =>
    rw [validateAll] at hvalid
    split at hvalid
    · cases hvalid
    · next endpoint hendpoint =>
      split at hvalid
      · cases hvalid
      · next hstate =>
        intro seid hseid
        rcases List.mem_cons.mp hseid with rfl | hseid
        · exact ⟨endpoint, hendpoint, not_not.mp hstate⟩
        · exact ih hvalid seid hseid

theorem moveAll_events (target : State) (event : UInt8 → SessionEvent) (seids : List UInt8) :
    ∀ s : Session, (s.moveAll seids target event).events = s.events ++ seids.map event := by
  induction seids with
  | nil => simp [moveAll]
  | cons seid seids ih =>
    intro s
    rw [moveAll, List.foldl_cons]
    refine (ih _).trans ?_
    simp

theorem moveAll_seids (target : State) (event : UInt8 → SessionEvent) (seids : List UInt8) :
    ∀ s : Session, (s.moveAll seids target event).endpoints.map LocalEndpoint.seid =
      s.endpoints.map LocalEndpoint.seid := by
  induction seids with
  | nil =>
    intro s
    rfl
  | cons seid seids ih =>
    intro s
    refine (ih _).trans ?_
    apply map_seid_updateEndpoint
    intro endpoint
    rfl

theorem Follows.moveAll {source target : State} {event : UInt8 → SessionEvent}
    (hevent : Announces event source target) (hsource : source ≠ .idle) (htarget : target ≠ .idle)
    (seids : List UInt8) (hnodup : seids.Nodup) : ∀ {s : Session} {observed : Observed},
    s.Follows observed →
    (∀ seid ∈ seids, ∃ endpoint, s.endpoint seid = some endpoint ∧ endpoint.state = source) →
    ∃ later, (seids.map event).foldlM observe observed = some later ∧
      (s.moveAll seids target event).Follows later := by
  induction seids with
  | nil =>
    intro s observed hfollows _
    exact ⟨observed, rfl, hfollows⟩
  | cons seid seids ih =>
    intro s observed hfollows hvalid
    obtain ⟨hnotin, hnodup⟩ := List.nodup_cons.mp hnodup
    obtain ⟨endpoint, hendpoint, hstate⟩ := hvalid seid List.mem_cons_self
    have hobserved : observed seid = source :=
      (hfollows.state seid endpoint hendpoint).symm.trans hstate
    have hremote : endpoint.remoteSeid.isSome = true :=
      (hfollows.remote seid endpoint hendpoint).mpr (hstate ▸ hsource)
    have hmoved := hfollows.update hendpoint
      (fun endpoint => { endpoint with state := target }) (fun _ => rfl)
      (iff_of_true hremote htarget)
    have hrest : ∀ other ∈ seids, ∃ endpoint,
        (s.update seid fun endpoint => { endpoint with state := target }).endpoint other =
          some endpoint ∧ endpoint.state = source := by
      intro other hother
      obtain ⟨found, hfound, hstate⟩ := hvalid other (List.mem_cons_of_mem _ hother)
      refine ⟨found, ?_, hstate⟩
      have hne : other ≠ seid := fun h => hnotin (h ▸ hother)
      refine (update_endpoint s seid other _ ?_).trans ?_
      · intro endpoint
        rfl
      · rw [if_neg hne]
        exact hfound
    obtain ⟨later, hlater, hfollows⟩ := ih hnodup
      (s := (s.update seid fun endpoint => { endpoint with state := target }).push (event seid))
      (hmoved.of_endpoint fun _ => rfl) hrest
    refine ⟨later, ?_, hfollows⟩
    rw [List.map_cons, List.foldlM_cons, hevent, if_pos hobserved]
    exact hlater

theorem observe_moved_none {source target : State} {event : UInt8 → SessionEvent}
    (hevent : Announces event source target) (seids : List UInt8) {seid : UInt8}
    (hseid : seid ∈ seids) : ∀ {observed : Observed}, observed seid ≠ source →
    (seids.map event).foldlM observe observed = none := by
  induction seids with
  | nil => cases hseid
  | cons first seids ih =>
    intro observed hobserved
    rw [List.map_cons, List.foldlM_cons, hevent]
    by_cases hfirst : observed first = source
    · have hne : seid ≠ first := fun h => hobserved (h ▸ hfirst)
      rw [if_pos hfirst]
      apply ih ((List.mem_cons.mp hseid).resolve_left hne)
      rw [Function.update_of_ne hne]
      exact hobserved
    · rw [if_neg hfirst]
      rfl

theorem observe_repeated_none {source target : State} {event : UInt8 → SessionEvent}
    (hevent : Announces event source target) (hne : target ≠ source) (seids : List UInt8)
    (hrepeated : ¬ seids.Nodup) : ∀ observed : Observed,
    (seids.map event).foldlM observe observed = none := by
  induction seids with
  | nil => exact absurd List.nodup_nil hrepeated
  | cons first seids ih =>
    intro observed
    rw [List.map_cons, List.foldlM_cons, hevent]
    split
    · by_cases hfirst : first ∈ seids
      · apply observe_moved_none hevent seids hfirst
        rw [Function.update_self]
        exact hne
      · exact ih (fun hnodup => hrepeated (List.nodup_cons.mpr ⟨hfirst, hnodup⟩)) _
    · rfl

/-! ## 4. One command -/

/-- The command is accepted and moves an endpoint twice. -/
def NamesTwice (s : Session) : Message → Prop
  | .startCommand acpSeids => s.validateAll acpSeids .open = none ∧ ¬ acpSeids.Nodup
  | .suspendCommand acpSeids => s.validateAll acpSeids .streaming = none ∧ ¬ acpSeids.Nodup
  | _ => False

/-- What a command announces takes the observer along. -/
structure Announced (s t : Session) (observed : Observed) (events : List SessionEvent) : Prop where
  emitted : t.events = s.events ++ events
  follows : ∃ later, events.foldlM observe observed = some later ∧ t.Follows later

theorem Follows.silent {s : Session} {observed : Observed} (hfollows : s.Follows observed) :
    s.Announced s observed [] :=
  ⟨by simp, observed, rfl, hfollows⟩

theorem Follows.notice {s : Session} {observed : Observed} (hfollows : s.Follows observed)
    {event : SessionEvent} (hevent : observe observed event = some observed) :
    s.Announced (s.push event) observed [event] := by
  refine ⟨rfl, observed, ?_, hfollows.of_endpoint fun _ => rfl⟩
  rw [List.foldlM_cons, hevent]
  rfl

theorem Follows.change {s : Session} {observed : Observed} (hfollows : s.Follows observed)
    {seid : UInt8} {endpoint : LocalEndpoint} (hendpoint : s.endpoint seid = some endpoint)
    (change : LocalEndpoint → LocalEndpoint)
    (hchange : ∀ endpoint, (change endpoint).seid = endpoint.seid)
    (hremote : (change endpoint).remoteSeid.isSome = true ↔ (change endpoint).state ≠ .idle)
    {event : SessionEvent}
    (hevent : observe observed event =
      some (Function.update observed seid (change endpoint).state)) :
    s.Announced ((s.update seid change).push event) observed [event] := by
  refine ⟨rfl, _, ?_, (hfollows.update hendpoint change hchange hremote).of_endpoint fun _ => rfl⟩
  rw [List.foldlM_cons, hevent]
  rfl

attribute [local grind =] handleCommand

theorem configured_ne_idle : State.configured ≠ .idle := by decide

theorem open_ne_idle : State.open ≠ .idle := by decide

/-- A command that names no endpoint twice moves the endpoints as its events announce. -/
theorem handleCommand_announced {s : Session} {observed : Observed}
    (hfollows : s.Follows observed) {command : Message} (honce : ¬ s.NamesTwice command) :
    ∃ events, s.Announced (s.handleCommand command).1 observed events := by
  cases command with
  | setConfigurationCommand acpSeid intSeid capabilities =>
    rw [handleCommand]
    split
    · exact ⟨_, hfollows.silent⟩
    · next endpoint hendpoint =>
      split
      · exact ⟨_, hfollows.silent⟩
      · next hfree =>
        have hidle : observed acpSeid = .idle := by
          rw [← hfollows.state acpSeid endpoint hendpoint]
          simpa [LocalEndpoint.inUse] using hfree
        refine ⟨_, hfollows.change hendpoint _ ?_ ?_ ?_⟩
        · exact fun _ => rfl
        · exact iff_of_true rfl configured_ne_idle
        · rw [observe, if_pos hidle]
  | reconfigureCommand acpSeid capabilities =>
    rw [handleCommand]
    split
    · exact ⟨_, hfollows.silent⟩
    · next endpoint hendpoint =>
      split
      · exact ⟨_, hfollows.silent⟩
      · next hopen =>
        have hobserved : observed acpSeid = .open := by
          rw [← hfollows.state acpSeid endpoint hendpoint]
          exact not_not.mp hopen
        refine ⟨_, hfollows.change hendpoint _ ?_ ?_ ?_⟩
        · exact fun _ => rfl
        · exact hfollows.remote acpSeid endpoint hendpoint
        · rw [observe, if_pos hobserved, hfollows.state acpSeid endpoint hendpoint,
            Function.update_eq_self]
  | openCommand acpSeid =>
    rw [handleCommand, transition]
    cases hendpoint : s.endpoint acpSeid with
    | none => exact ⟨_, hfollows.silent⟩
    | some endpoint =>
      by_cases hstate : endpoint.state = .configured
      · have hobserved : observed acpSeid = .configured := by
          rw [← hfollows.state acpSeid endpoint hendpoint]
          exact hstate
        simp only [hstate, ne_eq, not_true_eq_false, if_false]
        refine ⟨_, hfollows.change hendpoint _ ?_ ?_ ?_⟩
        · exact fun _ => rfl
        · apply iff_of_true _ open_ne_idle
          exact (hfollows.remote acpSeid endpoint hendpoint).mpr (hstate ▸ configured_ne_idle)
        · rw [observe, if_pos hobserved]
      · simp only [ne_eq, hstate, not_false_eq_true, if_true]
        exact ⟨_, hfollows.silent⟩
  | startCommand acpSeids =>
    rw [handleCommand]
    split
    · exact ⟨_, hfollows.silent⟩
    · next hvalid =>
      have hnodup : acpSeids.Nodup := by
        by_contra hrepeated
        exact honce ⟨hvalid, hrepeated⟩
      obtain ⟨later, hlater, hafter⟩ := Follows.moveAll announces_started open_ne_idle (by decide)
        acpSeids hnodup hfollows (validateAll_none hvalid)
      exact ⟨_, moveAll_events _ _ acpSeids s, later, hlater, hafter⟩
  | suspendCommand acpSeids =>
    rw [handleCommand]
    split
    · exact ⟨_, hfollows.silent⟩
    · next hvalid =>
      have hnodup : acpSeids.Nodup := by
        by_contra hrepeated
        exact honce ⟨hvalid, hrepeated⟩
      obtain ⟨later, hlater, hafter⟩ := Follows.moveAll announces_suspended (by decide)
        open_ne_idle acpSeids hnodup hfollows (validateAll_none hvalid)
      exact ⟨_, moveAll_events _ _ acpSeids s, later, hlater, hafter⟩
  | closeCommand acpSeid =>
    rw [handleCommand]
    split
    · exact ⟨_, hfollows.silent⟩
    · next endpoint hendpoint =>
      split
      · exact ⟨_, hfollows.silent⟩
      · next hstate =>
        have hobserved : observed acpSeid = .open ∨ observed acpSeid = .streaming := by
          rw [← hfollows.state acpSeid endpoint hendpoint]
          exact not_not.mp hstate
        refine ⟨_, hfollows.change hendpoint _ ?_ ?_ ?_⟩
        · exact fun _ => rfl
        · exact iff_of_false (by simp [LocalEndpoint.reset]) (by simp [LocalEndpoint.reset])
        · rw [observe, if_pos hobserved]
          rfl
  | abortCommand acpSeid =>
    rw [handleCommand]
    split
    · exact ⟨_, hfollows.silent⟩
    · next endpoint hendpoint =>
      refine ⟨_, hfollows.change hendpoint _ ?_ ?_ rfl⟩
      · exact fun _ => rfl
      · exact iff_of_false (by simp [LocalEndpoint.reset]) (by simp [LocalEndpoint.reset])
  | securityControlCommand acpSeid data =>
    rw [handleCommand]
    split
    · exact ⟨_, hfollows.silent⟩
    · split
      · exact ⟨_, hfollows.silent⟩
      · exact ⟨_, hfollows.notice rfl⟩
  | delayReportCommand acpSeid delay =>
    rw [handleCommand]
    split
    · exact ⟨_, hfollows.silent⟩
    · split
      · exact ⟨_, hfollows.silent⟩
      · exact ⟨_, hfollows.notice rfl⟩
  | getCapabilitiesCommand acpSeid | getAllCapabilitiesCommand acpSeid =>
    rw [handleCommand]
    split <;> exact ⟨_, hfollows.silent⟩
  | getConfigurationCommand acpSeid =>
    rw [handleCommand]
    split
    · exact ⟨_, hfollows.silent⟩
    · split <;> exact ⟨_, hfollows.silent⟩
  | _ => exact ⟨_, hfollows.silent⟩

theorem handleCommand_not_legal {s : Session} {command : Message}
    (htwice : s.NamesTwice command) : ∃ events,
      (s.handleCommand command).1.events = s.events ++ events ∧
      ∀ observed, events.foldlM observe observed = none := by
  cases command with
  | startCommand acpSeids =>
    obtain ⟨hvalid, hrepeated⟩ := htwice
    refine ⟨acpSeids.map .started, ?_,
      observe_repeated_none announces_started (by decide) acpSeids hrepeated⟩
    rw [handleCommand, hvalid]
    exact moveAll_events _ _ acpSeids s
  | suspendCommand acpSeids =>
    obtain ⟨hvalid, hrepeated⟩ := htwice
    refine ⟨acpSeids.map .suspended, ?_,
      observe_repeated_none announces_suspended (by decide) acpSeids hrepeated⟩
    rw [handleCommand, hvalid]
    exact moveAll_events _ _ acpSeids s
  | _ => cases htwice

theorem handleCommand_events (s : Session) (command : Message) :
    ∃ events, (s.handleCommand command).1.events = s.events ++ events := by
  cases command with
  | openCommand acpSeid =>
    rw [handleCommand, transition]
    cases s.endpoint acpSeid with
    | none => exact ⟨[], (List.append_nil _).symm⟩
    | some endpoint =>
      by_cases hstate : endpoint.state = .configured <;> simp [hstate]
  | startCommand acpSeids | suspendCommand acpSeids =>
    rw [handleCommand]
    split
    · exact ⟨[], (List.append_nil _).symm⟩
    · exact ⟨_, moveAll_events _ _ acpSeids s⟩
  | _ =>
    simp only [handleCommand]
    repeat' split
    all_goals first
      | exact ⟨[], (List.append_nil _).symm⟩
      | exact ⟨[_], rfl⟩

theorem handleCommand_reject {s : Session} {command : Message}
    (hreject : (s.handleCommand command).2.messageType = .responseReject ∨
      (s.handleCommand command).2.messageType = .generalReject) :
    (s.handleCommand command).1 = s := by
  revert hreject
  cases command with
  | openCommand acpSeid =>
    rw [handleCommand, transition]
    cases s.endpoint acpSeid with
    | none => exact fun _ => rfl
    | some endpoint =>
      by_cases hstate : endpoint.state = .configured <;>
        simp [hstate, Message.messageType]
  | _ =>
    simp only [handleCommand]
    repeat' split
    all_goals first
      | exact fun _ => rfl
      | simp [Message.messageType]

/-! ## 5. The numbering of the endpoints -/

def Numbered (s : Session) : Prop :=
  s.endpoints.length < 256 ∧ s.endpoints.map LocalEndpoint.seid =
    (List.range s.endpoints.length).map fun index => UInt8.ofNat (index + 1)

theorem Numbered.of_seids {s t : Session} (hnumbered : s.Numbered)
    (hsame : t.endpoints.map LocalEndpoint.seid = s.endpoints.map LocalEndpoint.seid) :
    t.Numbered := by
  have hlength : t.endpoints.length = s.endpoints.length := by
    simpa using congrArg List.length hsame
  rw [Numbered, hlength, hsame]
  exact hnumbered

theorem handleCommand_seids (s : Session) (command : Message) :
    (s.handleCommand command).1.endpoints.map LocalEndpoint.seid =
      s.endpoints.map LocalEndpoint.seid := by
  cases command with
  | openCommand acpSeid =>
    rw [handleCommand, transition]
    cases s.endpoint acpSeid with
    | none => rfl
    | some endpoint =>
      by_cases hstate : endpoint.state = .configured
      · simp only [hstate, ne_eq, not_true_eq_false, if_false, push_endpoints]
        apply map_seid_updateEndpoint
        exact fun _ => rfl
      · simp [hstate]
  | startCommand acpSeids | suspendCommand acpSeids =>
    rw [handleCommand]
    split
    · rfl
    · exact moveAll_seids _ _ acpSeids s
  | _ =>
    simp only [handleCommand]
    repeat' split
    all_goals first
      | rfl
      | (apply map_seid_updateEndpoint; exact fun _ => rfl)

theorem Numbered.nodup {s : Session} (hnumbered : s.Numbered) :
    (s.endpoints.map LocalEndpoint.seid).Nodup := by
  rw [hnumbered.2]
  apply List.Nodup.map_on _ List.nodup_range
  intro index hindex index' hindex' hequal
  rw [List.mem_range] at hindex hindex'
  have hnat := congrArg UInt8.toNat hequal
  simp only [UInt8.toNat_ofNat'] at hnat
  have := hnumbered.1
  omega

theorem Numbered.endpoint_of_mem {s : Session} (hnumbered : s.Numbered)
    {endpoint : LocalEndpoint} (hmem : endpoint ∈ s.endpoints) :
    s.endpoint endpoint.seid = some endpoint := by
  have hnodup := hnumbered.nodup
  rw [Session.endpoint]
  revert hmem hnodup
  generalize s.endpoints = endpoints
  intro hmem hnodup
  induction endpoints with
  | nil => cases hmem
  | cons first endpoints ih =>
    rw [List.map_cons, List.nodup_cons] at hnodup
    rcases List.mem_cons.mp hmem with rfl | hmem
    · simp
    · have hne : first.seid ≠ endpoint.seid := by
        intro hsame
        exact hnodup.1 (hsame ▸ List.mem_map_of_mem hmem)
      simpa [List.find?_cons, hne] using ih hmem hnodup.2

theorem addEndpoint_numbered {s t : Session} {mediaType : MediaType}
    {endpointType : StreamEndpointType} {capabilities : List ServiceCapabilities} {seid : UInt8}
    (hnumbered : s.Numbered)
    (hadd : s.addEndpoint mediaType endpointType capabilities = some (t, seid)) : t.Numbered := by
  rw [addEndpoint] at hadd
  split at hadd
  · next hroom =>
    cases hadd
    refine ⟨by simpa using hroom, ?_⟩
    simp [List.range_succ, hnumbered.2]
  · cases hadd

theorem addEndpoint_follows {s t : Session} {mediaType : MediaType}
    {endpointType : StreamEndpointType} {capabilities : List ServiceCapabilities} {seid : UInt8}
    {observed : Observed} (hfollows : s.Follows observed)
    (hadd : s.addEndpoint mediaType endpointType capabilities = some (t, seid)) :
    t.Follows observed ∧ t.events = s.events := by
  rw [addEndpoint] at hadd
  split at hadd
  · cases hadd
    refine ⟨?_, rfl⟩
    constructor
    · intro other endpoint hendpoint
      rw [Session.endpoint, List.find?_append] at hendpoint
      rcases Option.or_eq_some_iff.mp hendpoint with hold | ⟨hnone, hnew⟩
      · exact hfollows.state other endpoint hold
      · have hstate : endpoint.state = .idle := by
          rw [List.mem_singleton.mp (List.mem_of_find?_eq_some hnew)]
        rw [hstate, hfollows.absent other hnone]
    · intro other endpoint hendpoint
      rw [Session.endpoint, List.find?_append] at hendpoint
      rcases Option.or_eq_some_iff.mp hendpoint with hold | ⟨hnone, hnew⟩
      · exact hfollows.remote other endpoint hold
      · rw [List.mem_singleton.mp (List.mem_of_find?_eq_some hnew)]
        simp
    · intro other hnone
      rw [Session.endpoint, List.find?_append, Option.or_eq_none_iff] at hnone
      exact hfollows.absent other hnone.1
  · cases hadd

end Session

/-! ## 6. Whole runs -/

namespace SessionHistory

/-- Replaying what was emitted is legal and ends in the endpoints' states. -/
def Replays (history : SessionHistory) : Prop :=
  ∃ observed, replay history.emitted = some observed ∧
    ∀ endpoint ∈ history.session.endpoints, endpoint.state = observed endpoint.seid ∧
      (endpoint.remoteSeid.isSome = true ↔ endpoint.state ≠ .idle)

/-- No reject of the run changes an endpoint or emits an event. -/
def RejectsChangeNothing (ops : List SessionOp) : Prop :=
  ∀ before command after reached, ops = before ++ .handleCommand command :: after →
    run before = some reached →
    (reached.session.handleCommand command).2.messageType = .responseReject ∨
      (reached.session.handleCommand command).2.messageType = .generalReject →
    (reached.session.handleCommand command).1 = reached.session

/-- The operation does not move one endpoint twice. -/
def MovesOnce (history : SessionHistory) : SessionOp → Prop
  | .handleCommand command => ¬ history.session.NamesTwice command
  | _ => True

/-- As long as the events are legal, their replay follows the session. -/
structure Sound (history : SessionHistory) : Prop where
  numbered : history.session.Numbered
  follows : ∀ observed, replay history.emitted = some observed → history.session.Follows observed

theorem replay_handleCommand {history : SessionHistory} (command : Message)
    {events : List SessionEvent}
    (hevents : (history.session.handleCommand command).1.events =
      history.session.events ++ events) :
    replay (emitted { history with session := (history.session.handleCommand command).1 }) =
      (replay history.emitted).bind fun observed => events.foldlM observe observed := by
  rw [← replay_append, emitted, emitted, hevents, List.append_assoc]

theorem handleCommand_not_legal {history : SessionHistory} {command : Message}
    (htwice : history.session.NamesTwice command) :
    replay (emitted { history with session := (history.session.handleCommand command).1 }) =
      none := by
  obtain ⟨events, hevents, hnone⟩ := Session.handleCommand_not_legal htwice
  rw [replay_handleCommand command hevents]
  cases replay history.emitted with
  | none => rfl
  | some observed => exact hnone observed

theorem step_sound {history next : SessionHistory} {op : SessionOp} (hsound : history.Sound)
    (hstep : history.step op = some next) : next.Sound := by
  cases op with
  | addEndpoint mediaType endpointType capabilities =>
    obtain ⟨⟨session, seid⟩, hadd, rfl⟩ := Option.map_eq_some_iff.mp hstep
    refine ⟨Session.addEndpoint_numbered hsound.numbered hadd, ?_⟩
    intro observed hreplay
    have hevents : session.events = history.session.events := by
      rw [Session.addEndpoint] at hadd
      split at hadd <;> cases hadd
      rfl
    rw [emitted, hevents] at hreplay
    exact (Session.addEndpoint_follows (hsound.follows observed hreplay) hadd).1
  | handleCommand command =>
    obtain rfl := Option.some.inj hstep
    refine ⟨hsound.numbered.of_seids (Session.handleCommand_seids _ command), ?_⟩
    intro observed hreplay
    by_cases htwice : history.session.NamesTwice command
    · rw [handleCommand_not_legal htwice] at hreplay
      cases hreplay
    · cases hbefore : replay history.emitted with
      | none =>
        obtain ⟨events, hevents⟩ : ∃ events, (history.session.handleCommand command).1.events =
            history.session.events ++ events := Session.handleCommand_events _ command
        rw [replay_handleCommand command hevents, hbefore] at hreplay
        cases hreplay
      | some before =>
        obtain ⟨events, hannounced⟩ :=
          Session.handleCommand_announced (hsound.follows before hbefore) htwice
        obtain ⟨later, hlater, hfollows⟩ := hannounced.follows
        rw [replay_handleCommand command hannounced.emitted, hbefore] at hreplay
        obtain rfl : later = observed := Option.some.inj (hlater.symm.trans hreplay)
        exact hfollows
  | takeEvents =>
    obtain rfl := Option.some.inj hstep
    refine ⟨hsound.numbered, ?_⟩
    intro observed hreplay
    have hbefore : replay history.emitted = some observed := by
      simpa [emitted, Session.takeEvents] using hreplay
    exact (hsound.follows observed hbefore).of_endpoint fun _ => rfl

theorem start_sound : start.Sound := by
  refine ⟨⟨by decide, rfl⟩, ?_⟩
  intro observed hreplay
  obtain rfl : (fun _ => State.idle) = observed := Option.some.inj hreplay
  constructor
  · intro seid endpoint hendpoint
    cases hendpoint
  · intro seid endpoint hendpoint
    cases hendpoint
  · intro seid _
    rfl

theorem step_emitted {history next : SessionHistory} {op : SessionOp}
    (hstep : history.step op = some next) :
    ∃ events, next.emitted = history.emitted ++ events := by
  cases op with
  | addEndpoint mediaType endpointType capabilities =>
    obtain ⟨⟨session, seid⟩, hadd, rfl⟩ := Option.map_eq_some_iff.mp hstep
    rw [Session.addEndpoint] at hadd
    split at hadd <;> cases hadd
    exact ⟨[], (List.append_nil _).symm⟩
  | handleCommand command =>
    obtain rfl := Option.some.inj hstep
    obtain ⟨events, hevents⟩ := Session.handleCommand_events history.session command
    refine ⟨events, ?_⟩
    rw [emitted, emitted, hevents, List.append_assoc]
  | takeEvents =>
    obtain rfl := Option.some.inj hstep
    exact ⟨[], by simp [emitted, Session.takeEvents]⟩

theorem step_legal {history next : SessionHistory} {op : SessionOp} (hsound : history.Sound)
    (hlegal : (replay history.emitted).isSome = true) (honce : history.MovesOnce op)
    (hstep : history.step op = some next) : (replay next.emitted).isSome = true := by
  obtain ⟨observed, hobserved⟩ := Option.isSome_iff_exists.mp hlegal
  cases op with
  | addEndpoint mediaType endpointType capabilities =>
    obtain ⟨⟨session, seid⟩, hadd, rfl⟩ := Option.map_eq_some_iff.mp hstep
    rw [Session.addEndpoint] at hadd
    split at hadd <;> cases hadd
    exact hlegal
  | handleCommand command =>
    obtain rfl := Option.some.inj hstep
    obtain ⟨events, hannounced⟩ :=
      Session.handleCommand_announced (hsound.follows observed hobserved) honce
    obtain ⟨later, hlater, -⟩ := hannounced.follows
    rw [replay_handleCommand command hannounced.emitted, hobserved]
    exact Option.isSome_iff_exists.mpr ⟨later, hlater⟩
  | takeEvents =>
    obtain rfl := Option.some.inj hstep
    simpa [emitted, Session.takeEvents] using hlegal

theorem judged : Judged step Sound (fun history => (replay history.emitted).isSome = true)
    MovesOnce := by
  constructor
  · intro history op next hsound hstep
    exact step_sound hsound hstep
  · intro history op next hsound hlegal honce hstep
    exact step_legal hsound hlegal honce hstep
  · intro history op next _ _ htwice hstep
    cases op with
    | addEndpoint => exact absurd trivial htwice
    | handleCommand command =>
      obtain rfl := Option.some.inj hstep
      rw [handleCommand_not_legal (not_not.mp htwice)]
      exact Bool.false_ne_true
    | takeEvents => exact absurd trivial htwice
  · intro history op next hillegal hstep hlegal
    obtain ⟨events, hevents⟩ := step_emitted hstep
    have hnone : replay history.emitted = none := Option.not_isSome_iff_eq_none.mp hillegal
    rw [hevents, replay_append, hnone] at hlegal
    cases hlegal

theorem Sound.replays_iff {history : SessionHistory} (hsound : history.Sound) :
    history.Replays ↔ (replay history.emitted).isSome = true := by
  constructor
  · rintro ⟨observed, hobserved, -⟩
    exact Option.isSome_iff_exists.mpr ⟨observed, hobserved⟩
  · intro hlegal
    obtain ⟨observed, hobserved⟩ := Option.isSome_iff_exists.mp hlegal
    have hfollows := hsound.follows observed hobserved
    refine ⟨observed, hobserved, ?_⟩
    intro endpoint hmem
    have hendpoint := hsound.numbered.endpoint_of_mem hmem
    exact ⟨hfollows.state _ endpoint hendpoint, hfollows.remote _ endpoint hendpoint⟩

theorem rejects_change_nothing (ops : List SessionOp) : RejectsChangeNothing ops := by
  intro before command after reached _ _ hreject
  exact Session.handleCommand_reject hreject

/-- **The session state is the replay of its events** exactly in the runs in which no
    accepted Start or Suspend command names an endpoint twice.  A rejected command
    changes nothing in any run. -/
theorem replays_iff_moves_once (ops : List SessionOp) {history : SessionHistory}
    (hrun : run ops = some history) :
    (history.Replays ∧ RejectsChangeNothing ops) ↔ AllFine step MovesOnce start ops := by
  have hsound : history.Sound :=
    foldlM_keeps (fun _ _ _ => step_sound) ops start_sound hrun
  rw [and_iff_left (rejects_change_nothing ops), hsound.replays_iff]
  exact judged.good_iff ops start_sound rfl hrun

def startTwo : List SessionOp :=
  [.addEndpoint ⟨0⟩ ⟨1⟩ [], .addEndpoint ⟨0⟩ ⟨1⟩ [],
    .handleCommand (.setConfigurationCommand 1 5 []),
    .handleCommand (.setConfigurationCommand 2 6 []), .takeEvents,
    .handleCommand (.openCommand 1), .handleCommand (.openCommand 2),
    .handleCommand (.startCommand [1, 2])]

theorem replays_startTwo : ∃ history, run startTwo = some history ∧
    (history.Replays ∧ RejectsChangeNothing startTwo) := by
  refine ⟨_, rfl, (replays_iff_moves_once startTwo rfl).mpr ?_⟩
  refine (allFine_cons rfl _).mpr ⟨trivial, (allFine_cons rfl _).mpr ⟨trivial, ?_⟩⟩
  refine (allFine_cons rfl _).mpr ⟨not_false, (allFine_cons rfl _).mpr ⟨not_false, ?_⟩⟩
  refine (allFine_cons rfl _).mpr ⟨trivial, (allFine_cons rfl _).mpr ⟨not_false, ?_⟩⟩
  refine (allFine_cons rfl _).mpr ⟨not_false, (allFine_cons rfl _).mpr ⟨?_, allFine_nil _ _ _⟩⟩
  exact fun htwice => htwice.2 (by decide)

/-- One endpoint named twice in a Start command: accepted, and its second `Started`
    event comes when it is streaming already. -/
theorem started_twice : ∃ history,
    run [.addEndpoint ⟨0⟩ ⟨1⟩ [], .handleCommand (.setConfigurationCommand 1 5 []),
      .handleCommand (.openCommand 1), .handleCommand (.startCommand [1, 1])] = some history ∧
    history.emitted = [.configured 1 5, .opened 1, .started 1, .started 1] ∧
    ¬ history.Replays := by
  refine ⟨_, rfl, by decide, ?_⟩
  rintro ⟨observed, hobserved, -⟩
  cases hobserved

end SessionHistory

end Bumble.Avdtp
