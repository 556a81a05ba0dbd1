import Bumble.ExternalHost

/-!
# The external host delivers packets once and in order

Packets leave the channel from its front only: to the end of the pending queue, or
as the response a direct command waited for.  So what was read from the source is,
in order, what was drained, what is pending and what is still in the channel, with
the responses taken out.
-/

namespace Bumble

variable {α : Type}

/-! ## 1. A list with some elements taken out -/

/-- `whole` is `rest` with the elements of `removed` among it, both in order. -/
inductive Removed : List α → List α → List α → Prop
  | nil : Removed [] [] []
  | keep {whole removed rest : List α} (element : α) :
    Removed whole removed rest → Removed (element :: whole) removed (element :: rest)
  | take {whole removed rest : List α} (element : α) :
    Removed whole removed rest → Removed (element :: whole) (element :: removed) rest

namespace Removed

theorem refl (elements : List α) : Removed elements [] elements := by
  induction elements with
  | nil => exact .nil
  | cons element elements ih => exact .keep element ih

theorem append {whole removed rest whole' removed' rest' : List α}
    (hfirst : Removed whole removed rest) (hsecond : Removed whole' removed' rest') :
    Removed (whole ++ whole') (removed ++ removed') (rest ++ rest') := by
  induction hfirst with
  | nil => exact hsecond
  | keep element _ ih => exact .keep element ih
  | take element _ ih => exact .take element ih

theorem append_kept {whole removed rest : List α} (hremoved : Removed whole removed rest)
    (later : List α) : Removed (whole ++ later) removed (rest ++ later) := by
  have happend := hremoved.append (refl later)
  rwa [List.append_nil] at happend

theorem append_taken {whole removed rest : List α} (hremoved : Removed whole removed rest)
    (element : α) : Removed (whole ++ [element]) (removed ++ [element]) rest := by
  have happend := hremoved.append (.take element .nil)
  rwa [List.append_nil] at happend

end Removed

end Bumble

namespace Bumble.Transport

variable {ρ χ : Type}

/-! ## 2. Packets leave the channel from its front -/

@[simp] theorem packets_nil : packets ([] : List (ReaderMessage ρ χ)) = [] := rfl

@[simp] theorem packets_cons_packet (packet : HciPacket ρ χ) (rest : List (ReaderMessage ρ χ)) :
    packets (.packet packet :: rest) = packet :: packets rest := rfl

@[simp] theorem packets_map_packet (moved : List (HciPacket ρ χ)) :
    packets (moved.map ReaderMessage.packet) = moved := by
  induction moved with
  | nil => rfl
  | cons packet moved ih => rw [List.map_cons, packets_cons_packet, ih]

@[simp] theorem packets_append (messages later : List (ReaderMessage ρ χ)) :
    packets (messages ++ later) = packets messages ++ packets later := List.filterMap_append

namespace ExternalHost

/-- Some packets went from the front of the channel to the end of the pending queue. -/
structure Moved (before after : ExternalHost ρ χ) (moved : List (HciPacket ρ χ)) : Prop where
  receiver : packets before.receiver = moved ++ packets after.receiver
  pending : after.pending = before.pending ++ moved

theorem Moved.same {before after : ExternalHost ρ χ} (hreceiver : after.receiver = before.receiver)
    (hpending : after.pending = before.pending) : Moved before after [] := by
  constructor
  · rw [hreceiver]
    rfl
  · rw [hpending, List.append_nil]

theorem Moved.first {before after : ExternalHost ρ χ} {packet : HciPacket ρ χ}
    {rest : List (ReaderMessage ρ χ)} (hreceiver : before.receiver = .packet packet :: rest)
    {moved : List (HciPacket ρ χ)}
    (hmoved : Moved { before with receiver := rest, pending := before.pending ++ [packet] } after
      moved) :
    Moved before after (packet :: moved) := by
  constructor
  · rw [hreceiver, packets_cons_packet]
    exact congrArg (packet :: ·) hmoved.receiver
  · rw [hmoved.pending, List.append_assoc]
    rfl

theorem collectLoop_moved (messages : List (ReaderMessage ρ χ)) : ∀ host : ExternalHost ρ χ,
    (host.collectLoop messages).state = .running →
    ∃ moved, Moved { host with receiver := messages } (host.collectLoop messages) moved := by
  induction messages with
  | nil =>
    intro host hrunning
    rw [collectLoop] at hrunning ⊢
    split
    · exact ⟨[], .same rfl rfl⟩
    · next hconnected =>
      rw [if_neg hconnected] at hrunning
      cases hrunning
  | cons message rest ih =>
    intro host hrunning
    cases message with
    | packet packet =>
      rw [collectLoop] at hrunning ⊢
      dsimp only at hrunning ⊢
      split
      · exact ⟨[packet], .first rfl (.same rfl rfl)⟩
      · next hflow =>
        rw [if_neg hflow] at hrunning
        obtain ⟨moved, hmoved⟩ := ih _ hrunning
        exact ⟨packet :: moved, .first rfl hmoved⟩
    | ended => cases hrunning
    | failed error => cases hrunning

theorem collectAvailable_moved {host : ExternalHost ρ χ}
    (hrunning : host.collectAvailable.state = .running) :
    ∃ moved, Moved host host.collectAvailable moved := by
  rw [collectAvailable] at hrunning ⊢
  split
  · exact ⟨[], .same rfl rfl⟩
  · next hflow =>
    rw [if_neg hflow] at hrunning
    split
    · next hstate =>
      rw [if_pos hstate] at hrunning
      exact collectLoop_moved host.receiver host hrunning
    · exact ⟨[], .same rfl rfl⟩

theorem waitForActivity_moved {host : ExternalHost ρ χ}
    (hrunning : host.waitForActivity.state.state = .running) :
    ∃ moved, Moved host host.waitForActivity.state moved := by
  rw [waitForActivity] at hrunning ⊢
  split
  · exact ⟨[], .same rfl rfl⟩
  · next hpending =>
    rw [if_neg hpending] at hrunning
    split
    · exact ⟨[], .same rfl rfl⟩
    · exact ⟨[], .same rfl rfl⟩
    · next hstate =>
      rw [hstate] at hrunning
      dsimp only at hrunning
      split
      · next message rest hreceiver =>
        rw [hreceiver] at hrunning
        cases message with
        | packet packet => exact ⟨[packet], .first hreceiver (.same rfl rfl)⟩
        | ended => cases hrunning
        | failed error => cases hrunning
      · split <;> exact ⟨[], .same rfl rfl⟩

/-! ## 3. What the command flow leaves alone -/

/-- Neither queue of received packets changed, and the host was not revived. -/
structure Unread (before after : ExternalHost ρ χ) : Prop where
  receiver : after.receiver = before.receiver
  pending : after.pending = before.pending
  running : after.state = .running → before.state = .running

theorem Unread.refl (host : ExternalHost ρ χ) : Unread host host := ⟨rfl, rfl, id⟩

theorem Unread.trans {first second third : ExternalHost ρ χ} (hfirst : Unread first second)
    (hsecond : Unread second third) : Unread first third :=
  ⟨hsecond.receiver.trans hfirst.receiver, hsecond.pending.trans hfirst.pending,
    hfirst.running ∘ hsecond.running⟩

theorem fail_unread (host : ExternalHost ρ χ) (message : String) :
    Unread host (host.fail message) := by
  refine ⟨rfl, rfl, ?_⟩
  intro hrunning
  cases hrunning

theorem write_unread (host : ExternalHost ρ χ) (controllerId : Nat) (packet : HciPacket ρ χ)
    (answer : Option String) : Unread host (host.write controllerId packet answer).1 := by
  unfold write
  split
  · exact fail_unread host _
  · split
    · exact .refl host
    · split
      · refine ⟨rfl, rfl, ?_⟩
        intro hrunning
        cases hrunning
      · exact ⟨rfl, rfl, id⟩

theorem dispatchNextDeviceCommand_unread (host : ExternalHost ρ χ) (answer : Option String) :
    Unread host (host.dispatchNextDeviceCommand answer) := by
  rw [dispatchNextDeviceCommand]
  split
  · exact .refl host
  · split
    · exact .refl host
    · next command queue _ =>
      have hwrite := write_unread { host with
        deviceCommandQueue := queue, deviceCommandCredit := false } 0 (.command command) answer
      dsimp only
      split
      · next after hafter =>
        rw [hafter] at hwrite
        exact ⟨hwrite.receiver, hwrite.pending, hwrite.running⟩
      · next after hafter =>
        rw [hafter] at hwrite
        exact ⟨hwrite.receiver, hwrite.pending, hwrite.running⟩

theorem submitDeviceCommand_unread (host : ExternalHost ρ χ) (controllerId : Nat)
    (command : Command) (answer : Option String) :
    Unread host (host.submitDeviceCommand controllerId command answer) := by
  rw [submitDeviceCommand]
  split
  · exact fail_unread host _
  · have hdispatch := dispatchNextDeviceCommand_unread
      { host with deviceCommandQueue := host.deviceCommandQueue ++ [command] } answer
    exact ⟨hdispatch.receiver, hdispatch.pending, hdispatch.running⟩

theorem observeCompletion_unread (host : ExternalHost ρ χ) (completesCommand : Bool)
    (numHciCommandPackets : UInt8) (answer : Option String) :
    Unread host (host.observeCompletion completesCommand numHciCommandPackets answer) := by
  rw [observeCompletion]
  refine Unread.trans ?_ (dispatchNextDeviceCommand_unread _ answer)
  split <;> split <;> exact ⟨rfl, rfl, id⟩

theorem observeDeviceCommandFlow_unread (host : ExternalHost ρ χ) (packet : HciPacket ρ χ)
    (answer : Option String) : Unread host (host.observeDeviceCommandFlow packet answer) := by
  cases packet with
  | commandComplete num opCode parameters => exact observeCompletion_unread host _ num answer
  | commandStatus status num opCode => exact observeCompletion_unread host _ num answer
  | command | vendor | other => exact .refl host

/-! ## 4. Draining -/

/-- The drained packets are the front of the pending queue. -/
structure Drains (before after : ExternalHost ρ χ) (drained : List (HciPacket ρ χ)) : Prop where
  receiver : after.receiver = before.receiver
  pending : before.pending = drained ++ after.pending
  running : after.state = .running → before.state = .running
  alone : ∀ packet ∈ drained, isDeviceCommandFlowEvent packet = true → drained = [packet]

theorem drainPending_drains (host : ExternalHost ρ χ) (answer : Option String) :
    Drains host (host.drainPending answer).1 (host.drainPending answer).2 := by
  rw [drainPending]
  split
  · split
    · next packet rest hpending =>
      have hobserved := observeDeviceCommandFlow_unread { host with pending := rest } packet answer
      refine ⟨hobserved.receiver, ?_, hobserved.running, ?_⟩
      · rw [hobserved.pending, hpending]
        rfl
      · intro other hother _
        rw [List.mem_singleton.mp hother]
    · next hnone => exact ⟨rfl, by simp, id, by simp⟩
  · next boundary _ hboundary =>
    refine ⟨rfl, (List.take_append_drop boundary host.pending).symm, id, ?_⟩
    intro packet hpacket hflow
    obtain ⟨hbound, -, hnone⟩ := List.findIdx?_eq_some_iff_getElem.mp hboundary
    obtain ⟨index, hindex, rfl⟩ := List.mem_take_iff_getElem.mp hpacket
    exact absurd hflow (hnone index (by omega))
  · next hnone =>
    refine ⟨rfl, by simp, id, ?_⟩
    intro packet hpacket hflow
    rw [List.findIdx?_eq_none_iff.mp hnone packet hpacket] at hflow
    cases hflow

/-! ## 5. Waiting for a response -/

/-- What the waiting loop leaves: packets before the accepted one are pending, and the
    accepted one has left the channel. -/
theorem awaitPacket_ok {β : Type} {take : List Bytes → HciPacket ρ χ → Option β}
    {timedOut transportEnded : String} (patience : Nat) :
    ∀ {asked : List Bytes} {host : ExternalHost ρ χ} {value : β},
    (awaitPacket take timedOut transportEnded patience asked host).result = .ok value →
    ∃ moved packet askedThen,
      host.receiver = moved.map .packet ++ .packet packet ::
        (awaitPacket take timedOut transportEnded patience asked host).state.receiver ∧
      moved.length < patience ∧
      (awaitPacket take timedOut transportEnded patience asked host).state.pending =
        host.pending ++ moved ∧
      (awaitPacket take timedOut transportEnded patience asked host).state.state = host.state ∧
      (∀ passed ∈ moved, ∃ asked, take asked passed = none) ∧
      take askedThen packet = some value := by
  induction patience with
  | zero =>
    intro asked host value hresult
    cases hresult
  | succ patience ih =>
    intro asked host value hresult
    rw [awaitPacket] at hresult ⊢
    cases hreceiver : host.receiver with
    | nil =>
      simp only [hreceiver] at hresult
      split at hresult <;> cases hresult
    | cons message rest =>
      cases message with
      | packet packet =>
        simp only [hreceiver] at hresult ⊢
        cases htake : take asked packet with
        | some accepted =>
          simp only [htake] at hresult ⊢
          obtain rfl : accepted = value := Except.ok.inj hresult
          exact ⟨[], packet, asked, rfl, patience.succ_pos, by simp, rfl, by simp, htake⟩
        | none =>
          simp only [htake] at hresult ⊢
          obtain ⟨moved, accepted, askedThen, hrest, hless, hpending, hstate, hpassed,
            haccepted⟩ := ih hresult
          refine ⟨packet :: moved, accepted, askedThen, ?_, Nat.succ_lt_succ hless, ?_, hstate, ?_,
            haccepted⟩
          · exact congrArg (ReaderMessage.packet packet :: ·) hrest
          · rw [hpending, List.append_assoc]
            rfl
          · rintro passed (_ | ⟨_, hmem⟩)
            · exact ⟨asked, htake⟩
            · exact hpassed passed hmem
      | ended =>
        simp only [hreceiver] at hresult
        cases hresult
      | failed error =>
        simp only [hreceiver] at hresult
        cases hresult

theorem awaitPacket_error {β : Type} {take : List Bytes → HciPacket ρ χ → Option β}
    {timedOut transportEnded : String} (patience : Nat) :
    ∀ {asked : List Bytes} {host : ExternalHost ρ χ} {error : HostError},
    (awaitPacket take timedOut transportEnded patience asked host).result = .error error →
    (awaitPacket take timedOut transportEnded patience asked host).state.state = .running →
    host.state = .running ∧ ∃ moved,
      Moved host (awaitPacket take timedOut transportEnded patience asked host).state moved := by
  induction patience with
  | zero =>
    intro asked host error _ hrunning
    exact ⟨hrunning, [], .same rfl rfl⟩
  | succ patience ih =>
    intro asked host error hresult hrunning
    rw [awaitPacket] at hresult hrunning ⊢
    cases hreceiver : host.receiver with
    | nil =>
      simp only [hreceiver] at hrunning ⊢
      split at hrunning
      · next hconnected =>
        rw [if_pos hconnected]
        exact ⟨hrunning, [], .same rfl rfl⟩
      · cases hrunning
    | cons message rest =>
      cases message with
      | packet packet =>
        simp only [hreceiver] at hresult hrunning ⊢
        cases htake : take asked packet with
        | some accepted =>
          simp only [htake] at hresult
          cases hresult
        | none =>
          simp only [htake] at hresult hrunning ⊢
          obtain ⟨hstate, moved, hmoved⟩ := ih hresult hrunning
          exact ⟨hstate, packet :: moved, .first hreceiver hmoved⟩
      | ended =>
        simp only [hreceiver] at hrunning
        cases hrunning
      | failed error =>
        simp only [hreceiver] at hrunning
        cases hrunning

theorem beginDirectCommand_unread (host : ExternalHost ρ χ) (command : Command)
    (mode : DirectCommandMode) (answer : Option String) :
    Unread host (host.beginDirectCommand command mode answer).state := by
  rw [beginDirectCommand]
  split
  · exact .refl host
  · split
    · exact .refl host
    · have hwrite := write_unread host 0 (.command command) answer
      split
      · next after hafter =>
        rw [hafter] at hwrite
        exact hwrite
      · next after hafter =>
        rw [hafter] at hwrite
        exact hwrite

theorem beginDirectCommand_ok {host : ExternalHost ρ χ} {command : Command}
    {mode : DirectCommandMode} {answer : Option String} {opCode : UInt16}
    (hresult : (host.beginDirectCommand command mode answer).result = .ok opCode) :
    opCode = command.opCode ∧ host.state = .running ∧ host.devicePendingCommand = none ∧
      host.deviceCommandQueue = [] ∧ host.deviceCommandCredit = true ∧
      (host.beginDirectCommand command mode answer).state =
        { host with sink := host.sink ++ [.command command] } := by
  revert hresult
  rw [beginDirectCommand]
  split
  · rintro ⟨⟩
  · next hstate =>
    split
    · rintro ⟨⟩
    · next hbusy =>
      simp only [not_or, Bool.not_eq_true, Option.isSome_eq_false_iff,
        Option.isNone_iff_eq_none, not_not,
        Bool.not_eq_false] at hbusy
      unfold write
      rw [if_neg (fun h : (0 : Nat) ≠ 0 => h rfl), if_neg hstate]
      cases answer with
      | some error => rintro ⟨⟩
      | none =>
        intro hresult
        refine ⟨(Except.ok.inj hresult).symm, not_not.mp hstate, hbusy.1, hbusy.2.1, hbusy.2.2, rfl⟩

theorem write_sink_of_false {host after : ExternalHost ρ χ} {controllerId : Nat}
    {packet : HciPacket ρ χ} {answer : Option String}
    (hwrite : host.write controllerId packet answer = (after, false)) : after.sink = host.sink := by
  unfold write at hwrite
  split at hwrite
  · obtain ⟨rfl, -⟩ := Prod.mk.inj hwrite
    rfl
  · split at hwrite
    · obtain ⟨rfl, -⟩ := Prod.mk.inj hwrite
      rfl
    · split at hwrite
      · obtain ⟨rfl, -⟩ := Prod.mk.inj hwrite
        rfl
      · cases (Prod.mk.inj hwrite).2

theorem beginDirectCommand_error {host : ExternalHost ρ χ} {command : Command}
    {mode : DirectCommandMode} {answer : Option String} {error : HostError}
    (hresult : (host.beginDirectCommand command mode answer).result = .error error) :
    (host.beginDirectCommand command mode answer).state.sink = host.sink := by
  revert hresult
  rw [beginDirectCommand]
  split
  · exact fun _ => rfl
  · split
    · exact fun _ => rfl
    · split
      · rintro ⟨⟩
      · next after hafter => exact fun _ => write_sink_of_false hafter

theorem awaitPacket_flow {β : Type} (take : List Bytes → HciPacket ρ χ → Option β)
    (timedOut transportEnded : String) (patience : Nat) :
    ∀ (asked : List Bytes) (host : ExternalHost ρ χ),
    let after := (awaitPacket take timedOut transportEnded patience asked host).state
    after.sink = host.sink ∧ after.deviceCommandQueue = host.deviceCommandQueue ∧
      after.devicePendingCommand = host.devicePendingCommand ∧
      after.deviceCommandCredit = host.deviceCommandCredit := by
  induction patience with
  | zero =>
    intro asked host
    exact ⟨rfl, rfl, rfl, rfl⟩
  | succ patience ih =>
    intro asked host
    rw [awaitPacket]
    cases host.receiver with
    | nil =>
      dsimp only
      split <;> exact ⟨rfl, rfl, rfl, rfl⟩
    | cons message rest =>
      cases message with
      | packet packet =>
        dsimp only
        cases take asked packet with
        | some accepted => exact ⟨rfl, rfl, rfl, rfl⟩
        | none => exact ih _ _
      | ended => exact ⟨rfl, rfl, rfl, rfl⟩
      | failed error => exact ⟨rfl, rfl, rfl, rfl⟩

end ExternalHost

/-! ## 6. The observed runs -/

namespace HostHistory

open ExternalHost

theorem written_same {before after : ExternalHost ρ χ} (hsink : after.sink = before.sink) :
    written before after = [] := by
  rw [written, hsink, List.drop_length]
  rfl

theorem written_command {before after : ExternalHost ρ χ} {command : Command}
    (hsink : after.sink = before.sink ++ [.command command]) :
    written before after = [command] := by
  rw [written, hsink, List.drop_left]
  rfl

def readPackets (trace : List (HostEvent ρ χ)) : List (HciPacket ρ χ) :=
  trace.filterMap fun
    | .read packet => some packet
    | _ => none

def responses (trace : List (HostEvent ρ χ)) : List (HciPacket ρ χ) :=
  trace.filterMap fun
    | .responded packet => some packet
    | _ => none

/-- The vectors that `drain_host_events` returned. -/
def drainedVectors (trace : List (HostEvent ρ χ)) : List (List (HciPacket ρ χ)) :=
  trace.filterMap fun
    | .drained packets => some packets
    | _ => none

@[simp] theorem readPackets_append (trace later : List (HostEvent ρ χ)) :
    readPackets (trace ++ later) = readPackets trace ++ readPackets later := List.filterMap_append

@[simp] theorem responses_append (trace later : List (HostEvent ρ χ)) :
    responses (trace ++ later) = responses trace ++ responses later := List.filterMap_append

@[simp] theorem drainedVectors_append (trace later : List (HostEvent ρ χ)) :
    drainedVectors (trace ++ later) = drainedVectors trace ++ drainedVectors later :=
  List.filterMap_append

@[simp] theorem readPackets_reads (packets : List (HciPacket ρ χ)) :
    readPackets (packets.map HostEvent.read) = packets := by
  induction packets with
  | nil => rfl
  | cons packet packets ih => exact congrArg (packet :: ·) ih

@[simp] theorem responses_reads (packets : List (HciPacket ρ χ)) :
    responses (packets.map HostEvent.read) = [] := by
  induction packets with
  | nil => rfl
  | cons packet packets ih => exact ih

@[simp] theorem drainedVectors_reads (packets : List (HciPacket ρ χ)) :
    drainedVectors (packets.map HostEvent.read) = [] := by
  induction packets with
  | nil => rfl
  | cons packet packets ih => exact ih

@[simp] theorem readPackets_wrote (byDevice : Bool) (commands : List Command) :
    readPackets (commands.map (HostEvent.wrote (ρ := ρ) (χ := χ) byDevice)) = [] := by
  induction commands with
  | nil => rfl
  | cons command commands ih => exact ih

@[simp] theorem responses_wrote (byDevice : Bool) (commands : List Command) :
    responses (commands.map (HostEvent.wrote (ρ := ρ) (χ := χ) byDevice)) = [] := by
  induction commands with
  | nil => rfl
  | cons command commands ih => exact ih

@[simp] theorem drainedVectors_wrote (byDevice : Bool) (commands : List Command) :
    drainedVectors (commands.map (HostEvent.wrote (ρ := ρ) (χ := χ) byDevice)) = [] := by
  induction commands with
  | nil => rfl
  | cons command commands ih => exact ih

/-- Everything that left the channel was delivered, is pending or was a response. -/
def Delivered (host : ExternalHost ρ χ) (trace : List (HostEvent ρ χ)) : Prop :=
  ∃ taken, readPackets trace = taken ++ packets host.receiver ∧
    Removed taken (responses trace) ((drainedVectors trace).flatten ++ host.pending)

theorem Delivered.moved {before after : ExternalHost ρ χ} {trace : List (HostEvent ρ χ)}
    (hdelivered : Delivered before trace) {moved : List (HciPacket ρ χ)}
    (hmoved : Moved before after moved) : Delivered after trace := by
  obtain ⟨taken, hread, hremoved⟩ := hdelivered
  refine ⟨taken ++ moved, ?_, ?_⟩
  · rw [hread, hmoved.receiver, List.append_assoc]
  · rw [hmoved.pending, ← List.append_assoc]
    exact hremoved.append_kept moved

theorem Delivered.silent {host : ExternalHost ρ χ} {trace later : List (HostEvent ρ χ)}
    (hdelivered : Delivered host trace) (hreads : readPackets later = [])
    (hresponses : responses later = []) (hvectors : drainedVectors later = []) :
    Delivered host (trace ++ later) := by
  obtain ⟨taken, hread, hremoved⟩ := hdelivered
  refine ⟨taken, ?_, ?_⟩
  · rw [readPackets_append, hreads, List.append_nil]
    exact hread
  · rw [responses_append, drainedVectors_append, hresponses, hvectors, List.append_nil,
      List.append_nil]
    exact hremoved

theorem Delivered.arrive {host : ExternalHost ρ χ} {trace : List (HostEvent ρ χ)}
    (hdelivered : Delivered host trace) (arrivals : List (ReaderMessage ρ χ)) :
    Delivered { host with receiver := host.receiver ++ arrivals }
      (trace ++ (packets arrivals).map .read) := by
  obtain ⟨taken, hread, hremoved⟩ := hdelivered
  refine ⟨taken, ?_, ?_⟩
  · simp [hread]
  · simpa using hremoved

theorem Delivered.drain {before after : ExternalHost ρ χ} {trace : List (HostEvent ρ χ)}
    (hdelivered : Delivered before trace) {drained : List (HciPacket ρ χ)}
    (hdrains : Drains before after drained) :
    Delivered after (trace ++ [.drained drained]) := by
  obtain ⟨taken, hread, hremoved⟩ := hdelivered
  refine ⟨taken, ?_, ?_⟩
  · rw [readPackets_append, hread, hdrains.receiver]
    exact List.append_nil _
  · rw [hdrains.pending] at hremoved
    rw [responses_append, drainedVectors_append, List.flatten_append, List.append_assoc]
    change Removed taken (responses trace ++ []) _
    rw [List.append_nil]
    simpa [drainedVectors] using hremoved

theorem Delivered.respond {before after : ExternalHost ρ χ} {trace : List (HostEvent ρ χ)}
    (hdelivered : Delivered before trace) {moved : List (HciPacket ρ χ)} {packet : HciPacket ρ χ}
    (hreceiver : packets before.receiver = moved ++ packet :: packets after.receiver)
    (hpending : after.pending = before.pending ++ moved) :
    Delivered after (trace ++ [.responded packet]) := by
  obtain ⟨taken, hread, hremoved⟩ := hdelivered
  refine ⟨taken ++ moved ++ [packet], ?_, ?_⟩
  · rw [readPackets_append, hread, hreceiver]
    simp [readPackets]
  · rw [responses_append, drainedVectors_append, hpending]
    simpa [responses, drainedVectors, ← List.append_assoc] using
      (hremoved.append_kept moved).append_taken packet

/-! ## 7. Direct commands -/

theorem responseTo_toPacket {opCode : UInt16} {packet : HciPacket ρ χ}
    {response : CommandResponse ρ} (hresponse : responseTo opCode packet = some response) :
    response.toPacket opCode = packet := by
  cases packet with
  | commandComplete num commandOpcode parameters =>
    simp only [responseTo, Option.ite_none_right_eq_some, Option.some.injEq] at hresponse
    obtain ⟨rfl, rfl⟩ := hresponse
    rfl
  | commandStatus status num commandOpcode =>
    simp only [responseTo, Option.ite_none_right_eq_some, Option.some.injEq] at hresponse
    obtain ⟨rfl, rfl⟩ := hresponse
    rfl
  | command | vendor | other => cases hresponse

theorem vendorResponse_packet {matchesResponse : List Bytes → Bytes → Bool} {asked : List Bytes}
    {packet : HciPacket ρ χ} {data : Bytes}
    (hresponse : vendorResponse matchesResponse asked packet = some data) :
    .vendor data = packet := by
  cases packet with
  | vendor data' =>
    simp only [vendorResponse, Option.ite_none_right_eq_some, Option.some.injEq] at hresponse
    rw [hresponse.2]
  | command | commandComplete | commandStatus | other => cases hresponse

def blockingCall {β : Type} (host : ExternalHost ρ χ) (command : Command) (answer : Option String)
    (take : UInt16 → List Bytes → HciPacket ρ χ → Option β) (timedOut ended : UInt16 → String)
    (arrivals : List (ReaderMessage ρ χ)) (patience : Nat) :
    Outcome (ExternalHost ρ χ) HostError β :=
  (host.beginDirectCommand command .blocking answer).andThen fun host opCode =>
    awaitPacket (take opCode) (timedOut opCode) (ended opCode) patience []
      { host with receiver := host.receiver ++ arrivals }

section BlockingCall

variable {β : Type} (host : ExternalHost ρ χ) (command : Command) (answer : Option String)
  (take : UInt16 → List Bytes → HciPacket ρ χ → Option β) (timedOut ended : UInt16 → String)
  (arrivals : List (ReaderMessage ρ χ)) (patience : Nat)

theorem blockingCall_cases :
    (Unread host (blockingCall host command answer take timedOut ended arrivals patience).state ∧
      (blockingCall host command answer take timedOut ended arrivals patience).state.sink =
        host.sink) ∨
    (host.state = .running ∧ host.devicePendingCommand = none ∧ host.deviceCommandQueue = [] ∧
      host.deviceCommandCredit = true ∧
      blockingCall host command answer take timedOut ended arrivals patience =
        awaitPacket (take command.opCode) (timedOut command.opCode) (ended command.opCode)
          patience [] { host with
            sink := host.sink ++ [.command command], receiver := host.receiver ++ arrivals }) := by
  have hunread := beginDirectCommand_unread host command .blocking answer
  cases hbegin : (host.beginDirectCommand command .blocking answer).result with
  | error error =>
    left
    have hsink := beginDirectCommand_error hbegin
    simp only [blockingCall, Outcome.andThen, hbegin, Outcome.fail_state]
    exact ⟨hunread, hsink⟩
  | ok opCode =>
    right
    obtain ⟨rfl, hrunning, hpending, hqueue, hcredit, hstate⟩ := beginDirectCommand_ok hbegin
    refine ⟨hrunning, hpending, hqueue, hcredit, ?_⟩
    simp only [blockingCall, Outcome.andThen, hbegin, hstate]

/-- A blocking call that leaves the host running keeps every packet delivered once, in order. -/
theorem blockingCall_delivered {toPacket : β → HciPacket ρ χ} {trace : List (HostEvent ρ χ)}
    (htake : ∀ asked packet value, take command.opCode asked packet = some value →
      toPacket value = packet)
    (hrunning : (blockingCall host command answer take timedOut ended arrivals
      patience).state.state =
      .running) :
    host.state = .running ∧ (Delivered host trace →
      Delivered (blockingCall host command answer take timedOut ended arrivals patience).state
        (trace ++ directEvents command host
          (blockingCall host command answer take timedOut ended arrivals patience).state arrivals
          ((blockingCall host command answer take timedOut ended arrivals
            patience).result.toOption.map toPacket))) := by
  rcases blockingCall_cases host command answer take timedOut ended arrivals patience with
    ⟨hunread, hsink⟩ | ⟨hhost, -, -, -, hcall⟩
  · refine ⟨hunread.running hrunning, ?_⟩
    intro hdelivered
    simp only [directEvents, written_same hsink, List.append_nil]
    exact hdelivered.moved (.same hunread.receiver hunread.pending)
  · refine ⟨hhost, ?_⟩
    intro hdelivered
    rw [hcall] at hrunning ⊢
    have hflow := awaitPacket_flow (take command.opCode) (timedOut command.opCode)
      (ended command.opCode) patience [] { host with
        sink := host.sink ++ [.command command], receiver := host.receiver ++ arrivals }
    have hwrote : Delivered { host with sink := host.sink ++ [.command command] }
        (trace ++ [.wrote false command]) :=
      (hdelivered.moved (.same rfl rfl)).silent rfl rfl rfl
    have harrived := hwrote.arrive arrivals
    simp only [directEvents, written_command hflow.1, List.map_cons, List.map_nil]
    rw [← List.append_assoc, ← List.append_assoc]
    cases hresult : (awaitPacket (take command.opCode) (timedOut command.opCode)
      (ended command.opCode) patience [] { host with
        sink := host.sink ++ [.command command],
        receiver := host.receiver ++ arrivals }).result with
    | ok value =>
      obtain ⟨moved, packet, asked, hreceiver, -, hpending, -, -, haccepted⟩ :=
        awaitPacket_ok patience hresult
      obtain rfl := htake asked packet value haccepted
      refine harrived.respond ?_ hpending
      exact (congrArg packets hreceiver).trans (by simp)
    | error error =>
      obtain ⟨-, moved, hmoved⟩ := awaitPacket_error patience hresult hrunning
      exact (harrived.moved hmoved).silent rfl rfl rfl

end BlockingCall

/-! ## 8. Whole runs -/

theorem sendCommandWithoutResponse_unread (host : ExternalHost ρ χ) (command : Command)
    (answer : Option String) :
    Unread host (host.sendCommandWithoutResponse command answer).state := by
  have hunread := beginDirectCommand_unread host command .withoutResponse answer
  rw [sendCommandWithoutResponse, Outcome.andThen]
  split <;> exact hunread

theorem collectAvailable_running {host : ExternalHost ρ χ}
    (hrunning : host.collectAvailable.state = .running) : host.state = .running := by
  rw [collectAvailable] at hrunning
  split at hrunning
  · exact hrunning
  · split at hrunning
    · assumption
    · exact hrunning

theorem waitForActivity_running {host : ExternalHost ρ χ}
    (hrunning : host.waitForActivity.state.state = .running) : host.state = .running := by
  rw [waitForActivity] at hrunning
  split at hrunning
  · exact hrunning
  · split at hrunning
    · exact hrunning
    · exact hrunning
    · assumption

theorem Delivered.wrote {host : ExternalHost ρ χ} {trace : List (HostEvent ρ χ)}
    (hdelivered : Delivered host trace) (byDevice : Bool) (commands : List Command) :
    Delivered host (trace ++ commands.map (.wrote byDevice)) :=
  hdelivered.silent (readPackets_wrote byDevice commands) (responses_wrote byDevice commands)
    (drainedVectors_wrote byDevice commands)

/-- An operation after which the host still runs keeps the account of deliveries. -/
theorem step_delivered {history : HostHistory ρ χ} {op : HostOp ρ χ}
    (hrunning : (history.step op).host.state = .running) :
    history.host.state = .running ∧ (Delivered history.host history.trace →
      Delivered (history.step op).host (history.step op).trace) := by
  cases op with
  | read message => exact ⟨hrunning, fun hdelivered => hdelivered.arrive [message]⟩
  | readerStops => exact ⟨hrunning, fun hdelivered => hdelivered⟩
  | waitForActivity =>
    refine ⟨waitForActivity_running hrunning, ?_⟩
    intro hdelivered
    obtain ⟨moved, hmoved⟩ := waitForActivity_moved hrunning
    exact hdelivered.moved hmoved
  | handleCommand controllerId command answer =>
    have hunread := submitDeviceCommand_unread history.host controllerId command answer
    refine ⟨hunread.running hrunning, ?_⟩
    intro hdelivered
    apply Delivered.wrote
    have hsame := hdelivered.moved (.same hunread.receiver hunread.pending)
    split <;> exact hsame.silent rfl rfl rfl
  | sendData controllerId packet answer =>
    have hunread := write_unread history.host controllerId (.other packet) answer
    refine ⟨hunread.running hrunning, ?_⟩
    intro hdelivered
    exact hdelivered.moved (.same hunread.receiver hunread.pending)
  | drainHostEvents controllerId answer =>
    change (history.host.drainHostEvents controllerId answer).1.state = .running at hrunning
    rw [ExternalHost.drainHostEvents] at hrunning
    split at hrunning
    · cases hrunning
    · next hcontroller =>
      have hdrains := drainPending_drains history.host.collectAvailable answer
      have hcollected := hdrains.running hrunning
      refine ⟨collectAvailable_running hcollected, ?_⟩
      intro hdelivered
      obtain ⟨moved, hmoved⟩ := collectAvailable_moved hcollected
      have hdrained := ((hdelivered.moved hmoved).drain hdrains).wrote true
        (written history.host (history.host.collectAvailable.drainPending answer).1)
      simpa [step, ExternalHost.drainHostEvents, hcontroller] using hdrained
  | sendCommand command answer arrivals patience =>
    exact blockingCall_delivered history.host command answer
      (fun opCode _ packet => responseTo opCode packet)
      (fun opCode => "timed out waiting for HCI command " ++ hexOpCode opCode)
      (fun opCode => "transport ended before response to HCI command " ++ hexOpCode opCode)
      arrivals patience (fun _ _ _ => responseTo_toPacket) hrunning
  | sendVendorCommand command answer matchesResponse arrivals patience =>
    exact blockingCall_delivered history.host command answer
      (fun _ => vendorResponse matchesResponse)
      (fun opCode => "timed out waiting for vendor response to HCI command " ++ hexOpCode opCode)
      (fun opCode => "transport ended before vendor response to HCI command " ++ hexOpCode opCode)
      arrivals patience (fun _ _ _ => vendorResponse_packet) hrunning
  | sendCommandWithoutResponse command answer =>
    have hunread := sendCommandWithoutResponse_unread history.host command answer
    refine ⟨hunread.running hrunning, ?_⟩
    intro hdelivered
    exact (hdelivered.moved (.same hunread.receiver hunread.pending)).wrote false _

theorem run_delivered (ops : List (HostOp ρ χ)) (hrunning : (run ops).host.state = .running) :
    Delivered (run ops).host (run ops).trace := by
  induction ops using List.reverseRecOn with
  | nil => exact ⟨[], rfl, .nil⟩
  | append_singleton ops op ih =>
    have hrun : run (ops ++ [op]) = (run ops).step op := by
      rw [run, List.foldl_append]
      rfl
    rw [hrun] at hrunning ⊢
    obtain ⟨hbefore, hkeeps⟩ := step_delivered hrunning
    exact hkeeps (ih hbefore)

/-- A vector with a command flow event has nothing else. -/
def Alone (vector : List (HciPacket ρ χ)) : Prop :=
  ∀ packet ∈ vector, isDeviceCommandFlowEvent packet = true → vector = [packet]

theorem drainHostEvents_alone (host : ExternalHost ρ χ) (controllerId : Nat)
    (answer : Option String) : Alone (host.drainHostEvents controllerId answer).2 := by
  rw [ExternalHost.drainHostEvents]
  split
  · intro packet hpacket
    cases hpacket
  · exact (drainPending_drains host.collectAvailable answer).alone

theorem directEvents_vectors (command : Command) (before after : ExternalHost ρ χ)
    (arrivals : List (ReaderMessage ρ χ)) (outcome : Option (HciPacket ρ χ)) :
    drainedVectors (directEvents command before after arrivals outcome) = [] := by
  rw [directEvents.eq_def]
  split
  · rfl
  · simp only [drainedVectors_append, drainedVectors_wrote, drainedVectors_reads]
    cases outcome <;> rfl

theorem step_alone {history : HostHistory ρ χ} (op : HostOp ρ χ)
    (halone : ∀ vector ∈ drainedVectors history.trace, Alone vector) :
    ∀ vector ∈ drainedVectors (history.step op).trace, Alone vector := by
  cases op with
  | readerStops | waitForActivity | sendData => exact halone
  | read message => simpa [step] using halone
  | handleCommand controllerId command answer =>
    simp only [step, drainedVectors_append, drainedVectors_wrote, List.append_nil]
    split <;> simpa [drainedVectors] using halone
  | drainHostEvents controllerId answer =>
    simp only [step, drainedVectors_append, drainedVectors_wrote, List.append_nil]
    intro vector hvector
    rcases List.mem_append.mp hvector with hbefore | hnew
    · exact halone vector hbefore
    · rw [List.mem_singleton.mp hnew]
      exact drainHostEvents_alone history.host controllerId answer
  | sendCommand | sendVendorCommand =>
    simp only [step, drainedVectors_append, directEvents_vectors, List.append_nil]
    exact halone
  | sendCommandWithoutResponse command answer => simpa [step] using halone

theorem run_alone (ops : List (HostOp ρ χ)) :
    ∀ vector ∈ drainedVectors (run ops).trace, Alone vector := by
  rw [run]
  induction ops using List.reverseRecOn with
  | nil =>
    intro vector hvector
    cases hvector
  | append_singleton ops op ih =>
    rw [List.foldl_append]
    exact step_alone op ih

/-- **Packets are delivered once and in order.**  While the host runs, what it read is what
    it handed out, what is pending and what is in the channel, with exactly the responses
    of direct commands taken out; and a command flow event is handed out alone. -/
theorem delivers_once_in_order (ops : List (HostOp ρ χ))
    (hrunning : (run ops).host.state = .running) :
    Removed (readPackets (run ops).trace) (responses (run ops).trace)
      ((drainedVectors (run ops).trace).flatten ++ (run ops).host.pending ++
        packets (run ops).host.receiver) ∧
    ∀ vector ∈ drainedVectors (run ops).trace, ∀ packet ∈ vector,
      isDeviceCommandFlowEvent packet = true → vector = [packet] := by
  refine ⟨?_, run_alone ops⟩
  obtain ⟨taken, hread, hremoved⟩ := run_delivered ops hrunning
  rw [hread]
  exact hremoved.append_kept _

/-- A direct command answered while other packets arrive, then two drains. -/
def resetOps : List (HostOp Unit Nat) :=
  [.read (.packet (.other 1)),
    .sendCommand ⟨0x0C03, []⟩ none
      [.packet (.other 2), .packet (.commandComplete 1 0 ()),
        .packet (.commandComplete 1 0x0C03 ()), .packet (.other 3)] 4,
    .drainHostEvents 0 none, .drainHostEvents 0 none]

theorem delivers_resetOps :
    Removed [.other 1, .other 2, .commandComplete 1 0 (), .commandComplete 1 0x0C03 (), .other 3]
      [.commandComplete 1 0x0C03 ()]
      ([.other 1, .other 2] ++ [.commandComplete 1 0 ()] ++ [.other 3] :
        List (HciPacket Unit Nat)) ∧
    drainedVectors (run resetOps).trace =
      [[.other 1, .other 2], [.commandComplete 1 0 ()]] :=
  ⟨(delivers_once_in_order resetOps (by decide)).1, by decide⟩

end HostHistory

end Bumble.Transport
