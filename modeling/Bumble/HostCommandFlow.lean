import Bumble.HostDelivery
import Bumble.StepRuns

/-!
# HCI command flow control of the external host

The device's commands reach the sink once each and in order.  Whether a command is
written only when the controller can take it depends on the answers: the host does
not compare the operation code of an answer with that of the command it waits for,
and it never takes its credit back.  So the flow is kept as long as the answers
that are drained are those of the pending command and the controller does not
refuse further commands while the host believes it may send.
-/

namespace Bumble.Transport

variable {ρ χ : Type}

/-! ## 1. The commands of the device -/

namespace HostHistory

open ExternalHost

def submittedCommands (trace : List (HostEvent ρ χ)) : List Command :=
  trace.filterMap fun
    | .submitted command => some command
    | _ => none

/-- The commands of the device that were written to the sink. -/
def deviceCommands (trace : List (HostEvent ρ χ)) : List Command :=
  trace.filterMap fun
    | .wrote true command => some command
    | _ => none

@[simp] theorem submittedCommands_append (trace later : List (HostEvent ρ χ)) :
    submittedCommands (trace ++ later) = submittedCommands trace ++ submittedCommands later :=
  List.filterMap_append

@[simp] theorem deviceCommands_append (trace later : List (HostEvent ρ χ)) :
    deviceCommands (trace ++ later) = deviceCommands trace ++ deviceCommands later :=
  List.filterMap_append

@[simp] theorem submittedCommands_wrote (byDevice : Bool) (commands : List Command) :
    submittedCommands (commands.map (HostEvent.wrote (ρ := ρ) (χ := χ) byDevice)) = [] := by
  induction commands with
  | nil => rfl
  | cons command commands ih => exact ih

@[simp] theorem deviceCommands_wrote_true (commands : List Command) :
    deviceCommands (commands.map (HostEvent.wrote (ρ := ρ) (χ := χ) true)) = commands := by
  induction commands with
  | nil => rfl
  | cons command commands ih => exact congrArg (command :: ·) ih

@[simp] theorem deviceCommands_wrote_false (commands : List Command) :
    deviceCommands (commands.map (HostEvent.wrote (ρ := ρ) (χ := χ) false)) = [] := by
  induction commands with
  | nil => rfl
  | cons command commands ih => exact ih

@[simp] theorem submittedCommands_reads (packets : List (HciPacket ρ χ)) :
    submittedCommands (packets.map HostEvent.read) = [] := by
  induction packets with
  | nil => rfl
  | cons packet packets ih => exact ih

@[simp] theorem deviceCommands_reads (packets : List (HciPacket ρ χ)) :
    deviceCommands (packets.map HostEvent.read) = [] := by
  induction packets with
  | nil => rfl
  | cons packet packets ih => exact ih

theorem directEvents_submitted (command : Command) (before after : ExternalHost ρ χ)
    (arrivals : List (ReaderMessage ρ χ)) (outcome : Option (HciPacket ρ χ)) :
    submittedCommands (directEvents command before after arrivals outcome) = [] := by
  rw [directEvents.eq_def]
  split
  · rfl
  · simp only [submittedCommands_append, submittedCommands_wrote, submittedCommands_reads]
    cases outcome <;> rfl

theorem directEvents_device (command : Command) (before after : ExternalHost ρ χ)
    (arrivals : List (ReaderMessage ρ χ)) (outcome : Option (HciPacket ρ χ)) :
    deviceCommands (directEvents command before after arrivals outcome) = [] := by
  rw [directEvents.eq_def]
  split
  · rfl
  · simp only [deviceCommands_append, deviceCommands_wrote_false, deviceCommands_reads]
    cases outcome <;> rfl

/-! ## 2. Dispatching -/

/-- The command flow of a host, without its packets. -/
structure SameFlow (before after : ExternalHost ρ χ) : Prop where
  sink : after.sink = before.sink
  queue : after.deviceCommandQueue = before.deviceCommandQueue
  pending : after.devicePendingCommand = before.devicePendingCommand
  credit : after.deviceCommandCredit = before.deviceCommandCredit

theorem SameFlow.refl (host : ExternalHost ρ χ) : SameFlow host host := ⟨rfl, rfl, rfl, rfl⟩

theorem collectLoop_sameFlow (messages : List (ReaderMessage ρ χ)) : ∀ host : ExternalHost ρ χ,
    SameFlow host (host.collectLoop messages) := by
  induction messages with
  | nil =>
    intro host
    rw [collectLoop]
    split <;> exact ⟨rfl, rfl, rfl, rfl⟩
  | cons message rest ih =>
    intro host
    cases message with
    | packet packet =>
      rw [collectLoop]
      dsimp only
      split
      · exact ⟨rfl, rfl, rfl, rfl⟩
      · have hlater := ih { host with pending := host.pending ++ [packet] }
        exact ⟨hlater.sink, hlater.queue, hlater.pending, hlater.credit⟩
    | ended => exact ⟨rfl, rfl, rfl, rfl⟩
    | failed error => exact ⟨rfl, rfl, rfl, rfl⟩

theorem collectAvailable_sameFlow (host : ExternalHost ρ χ) :
    SameFlow host host.collectAvailable := by
  rw [collectAvailable]
  split
  · exact .refl host
  · split
    · exact collectLoop_sameFlow host.receiver host
    · exact .refl host

theorem waitForActivity_sameFlow (host : ExternalHost ρ χ) :
    SameFlow host host.waitForActivity.state := by
  rw [waitForActivity]
  split
  · exact .refl host
  · split
    · exact .refl host
    · exact .refl host
    · split
      · next message rest hreceiver => cases message <;> exact ⟨rfl, rfl, rfl, rfl⟩
      · split <;> exact ⟨rfl, rfl, rfl, rfl⟩

/-- The next command of the queue was written and awaits its answer. -/
structure Dispatched (before after : ExternalHost ρ χ) (command : Command) : Prop where
  running : before.state = .running
  idle : before.devicePendingCommand = none
  credit : before.deviceCommandCredit = true
  queue : before.deviceCommandQueue = command :: after.deviceCommandQueue
  sink : after.sink = before.sink ++ [.command command]
  pending : after.devicePendingCommand = some command.opCode
  spent : after.deviceCommandCredit = false

/-- The sink refused the next command, which ends the host. -/
structure Refused (before after : ExternalHost ρ χ) : Prop where
  idle : before.devicePendingCommand = none
  sink : after.sink = before.sink
  pending : after.devicePendingCommand = none
  spent : after.deviceCommandCredit = false
  state : after.state ≠ .running

theorem dispatch_cases (host : ExternalHost ρ χ) (answer : Option String) :
    SameFlow host (host.dispatchNextDeviceCommand answer) ∨
      (∃ command, Dispatched host (host.dispatchNextDeviceCommand answer) command) ∨
      Refused host (host.dispatchNextDeviceCommand answer) := by
  rw [dispatchNextDeviceCommand]
  split
  · exact .inl (.refl host)
  · next hfree =>
    simp only [not_or, Bool.not_eq_true, Option.isSome_eq_false_iff, Option.isNone_iff_eq_none,
      Bool.not_eq_false] at hfree
    obtain ⟨hidle, hcredit⟩ := hfree
    split
    · exact .inl (.refl host)
    · next command queue hqueue =>
      right
      unfold write
      simp only [ne_eq, not_true_eq_false, if_false]
      by_cases hstate : host.state = .running
      · rw [if_neg (not_not.mpr hstate)]
        cases answer with
        | none => exact .inl ⟨command, hstate, hidle, hcredit, hqueue, rfl, rfl, rfl⟩
        | some error =>
          right
          refine ⟨hidle, rfl, hidle, rfl, ?_⟩
          intro hrunning
          cases hrunning
      · rw [if_pos hstate]
        exact .inr ⟨hidle, rfl, hidle, rfl, hstate⟩

theorem write_flow (host : ExternalHost ρ χ) (controllerId : Nat) (packet : HciPacket ρ χ)
    (answer : Option String) :
    (host.write controllerId packet answer).1.deviceCommandQueue = host.deviceCommandQueue ∧
      (host.write controllerId packet answer).1.devicePendingCommand = host.devicePendingCommand ∧
      (host.write controllerId packet answer).1.deviceCommandCredit = host.deviceCommandCredit := by
  unfold write
  split
  · exact ⟨rfl, rfl, rfl⟩
  · split
    · exact ⟨rfl, rfl, rfl⟩
    · split <;> exact ⟨rfl, rfl, rfl⟩

theorem beginDirectCommand_flow (host : ExternalHost ρ χ) (command : Command)
    (mode : DirectCommandMode) (answer : Option String) :
    let after := (host.beginDirectCommand command mode answer).state
    after.deviceCommandQueue = host.deviceCommandQueue ∧
      after.devicePendingCommand = host.devicePendingCommand ∧
      after.deviceCommandCredit = host.deviceCommandCredit := by
  rw [beginDirectCommand]
  split
  · exact ⟨rfl, rfl, rfl⟩
  · split
    · exact ⟨rfl, rfl, rfl⟩
    · have hwrite := write_flow host 0 (.command command) answer
      split
      · next after hafter =>
        rw [hafter] at hwrite
        exact hwrite
      · next after hafter =>
        rw [hafter] at hwrite
        exact hwrite

theorem blockingCall_flow {β : Type} (host : ExternalHost ρ χ) (command : Command)
    (answer : Option String) (take : UInt16 → List Bytes → HciPacket ρ χ → Option β)
    (timedOut ended : UInt16 → String) (arrivals : List (ReaderMessage ρ χ)) (patience : Nat) :
    let after := (blockingCall host command answer take timedOut ended arrivals patience).state
    after.deviceCommandQueue = host.deviceCommandQueue ∧
      after.devicePendingCommand = host.devicePendingCommand ∧
      after.deviceCommandCredit = host.deviceCommandCredit := by
  have hbegin := beginDirectCommand_flow host command .blocking answer
  rw [blockingCall, Outcome.andThen]
  split
  · next opCode _ =>
    have hawait := awaitPacket_flow (take opCode) (timedOut opCode) (ended opCode) patience []
      { (host.beginDirectCommand command .blocking answer).state with
        receiver := (host.beginDirectCommand command .blocking answer).state.receiver ++ arrivals }
    exact ⟨hawait.2.1.trans hbegin.1, hawait.2.2.1.trans hbegin.2.1, hawait.2.2.2.trans hbegin.2.2⟩
  · exact hbegin

theorem blockingCall_running {β : Type} (host : ExternalHost ρ χ) (command : Command)
    (answer : Option String) (take : UInt16 → List Bytes → HciPacket ρ χ → Option β)
    (timedOut ended : UInt16 → String) (arrivals : List (ReaderMessage ρ χ)) (patience : Nat)
    (hrunning : (blockingCall host command answer take timedOut ended arrivals
      patience).state.state = .running) : host.state = .running := by
  rcases blockingCall_cases host command answer take timedOut ended arrivals patience with
    ⟨hunread, -⟩ | ⟨hhost, -⟩
  · exact hunread.running hrunning
  · exact hhost

/-! ## 3. Once each and in order -/

/-- The written commands of the device are the first of the submitted ones, and while the
    host runs the others are queued. -/
structure Ordered (host : ExternalHost ρ χ) (trace : List (HostEvent ρ χ)) : Prop where
  first : deviceCommands trace <+: submittedCommands trace
  queued : host.state = .running →
    deviceCommands trace ++ host.deviceCommandQueue = submittedCommands trace

theorem Ordered.same {before after : ExternalHost ρ χ} {trace : List (HostEvent ρ χ)}
    (hordered : Ordered before trace) (hrunning : after.state = .running → before.state = .running)
    (hqueue : after.deviceCommandQueue = before.deviceCommandQueue) : Ordered after trace := by
  refine ⟨hordered.first, ?_⟩
  intro hafter
  rw [hqueue]
  exact hordered.queued (hrunning hafter)

theorem Ordered.keep {before after : ExternalHost ρ χ} {trace later : List (HostEvent ρ χ)}
    (hordered : Ordered before trace) (hrunning : after.state = .running → before.state = .running)
    (hqueue : after.deviceCommandQueue = before.deviceCommandQueue)
    (hdevice : deviceCommands later = []) (hsubmitted : submittedCommands later = []) :
    Ordered after (trace ++ later) := by
  constructor
  · rw [deviceCommands_append, submittedCommands_append, hdevice, hsubmitted, List.append_nil,
      List.append_nil]
    exact hordered.first
  · intro hafter
    rw [deviceCommands_append, submittedCommands_append, hdevice, hsubmitted, List.append_nil,
      List.append_nil, hqueue]
    exact hordered.queued (hrunning hafter)

theorem Ordered.dispatch {before host : ExternalHost ρ χ} {trace : List (HostEvent ρ χ)}
    (hordered : Ordered host trace) (hsink : host.sink = before.sink) (answer : Option String) :
    Ordered (host.dispatchNextDeviceCommand answer)
      (trace ++ (written before (host.dispatchNextDeviceCommand answer)).map (.wrote true)) := by
  have hunread := dispatchNextDeviceCommand_unread host answer
  rcases dispatch_cases host answer with hsame | ⟨command, hdispatched⟩ | hrefused
  · rw [written_same (hsame.sink.trans hsink)]
    exact hordered.keep hunread.running hsame.queue rfl rfl
  · rw [written_command (hdispatched.sink.trans (by rw [hsink]))]
    have hqueued := hordered.queued hdispatched.running
    rw [hdispatched.queue] at hqueued
    have hall : deviceCommands (trace ++ [command].map (.wrote true)) ++
        (host.dispatchNextDeviceCommand answer).deviceCommandQueue =
        submittedCommands (trace ++ [command].map (HostEvent.wrote (ρ := ρ) (χ := χ) true)) := by
      simp only [deviceCommands_append, deviceCommands_wrote_true, submittedCommands_append,
        submittedCommands_wrote, List.append_nil, List.append_assoc]
      exact hqueued
    exact ⟨⟨_, hall⟩, fun _ => hall⟩
  · rw [written_same (hrefused.sink.trans hsink), List.map_nil, List.append_nil]
    exact ⟨hordered.first, fun hrunning => absurd hrunning hrefused.state⟩

/-- The host before it dispatches again after an answer. -/
def settle (host : ExternalHost ρ χ) (completesCommand : Bool) (numHciCommandPackets : UInt8) :
    ExternalHost ρ χ :=
  { host with
    devicePendingCommand := if completesCommand then none else host.devicePendingCommand
    deviceCommandCredit :=
      if numHciCommandPackets ≠ 0 then true else host.deviceCommandCredit }

theorem observeCompletion_eq (host : ExternalHost ρ χ) (completesCommand : Bool)
    (numHciCommandPackets : UInt8) (answer : Option String) :
    host.observeCompletion completesCommand numHciCommandPackets answer =
      (settle host completesCommand numHciCommandPackets).dispatchNextDeviceCommand answer := by
  rw [observeCompletion, settle]
  by_cases hnum : numHciCommandPackets = 0 <;> cases completesCommand <;> simp [hnum]

theorem Ordered.observe {before host : ExternalHost ρ χ} {trace : List (HostEvent ρ χ)}
    (hordered : Ordered host trace) (hsink : host.sink = before.sink) (packet : HciPacket ρ χ)
    (answer : Option String) :
    Ordered (host.observeDeviceCommandFlow packet answer)
      (trace ++ (written before (host.observeDeviceCommandFlow packet answer)).map
        (.wrote true)) := by
  have hcompletion : ∀ completesCommand numHciCommandPackets,
      Ordered (host.observeCompletion completesCommand numHciCommandPackets answer)
        (trace ++ (written before (host.observeCompletion completesCommand numHciCommandPackets
          answer)).map (.wrote true)) := by
    intro completesCommand numHciCommandPackets
    rw [observeCompletion_eq]
    have hsettled : Ordered (settle host completesCommand numHciCommandPackets) trace :=
      ⟨hordered.first, hordered.queued⟩
    exact hsettled.dispatch hsink answer
  cases packet with
  | commandComplete num opCode parameters => exact hcompletion _ num
  | commandStatus status num opCode => exact hcompletion _ num
  | command | vendor | other =>
    change Ordered host (trace ++ (written before host).map (.wrote true))
    rw [written_same hsink]
    exact hordered.keep id rfl rfl rfl

theorem drainPending_cases (host : ExternalHost ρ χ) (answer : Option String) :
    (∃ packet rest, isDeviceCommandFlowEvent packet = true ∧ host.pending = packet :: rest ∧
      host.drainPending answer =
        ({ host with pending := rest }.observeDeviceCommandFlow packet answer, [packet])) ∨
    (SameFlow host (host.drainPending answer).1 ∧
      (host.drainPending answer).1.state = host.state ∧
      ∀ packet ∈ (host.drainPending answer).2, isDeviceCommandFlowEvent packet = false) := by
  rw [drainPending]
  split
  · next hfirst =>
    cases hpending : host.pending with
    | nil =>
      rw [hpending] at hfirst
      cases hfirst
    | cons packet rest =>
      left
      refine ⟨packet, rest, ?_, rfl, rfl⟩
      rw [hpending] at hfirst
      obtain ⟨hbound, hflow, -⟩ := List.findIdx?_eq_some_iff_getElem.mp hfirst
      exact hflow
  · next boundary _ hboundary =>
    right
    refine ⟨⟨rfl, rfl, rfl, rfl⟩, rfl, ?_⟩
    intro packet hpacket
    obtain ⟨hbound, -, hnone⟩ := List.findIdx?_eq_some_iff_getElem.mp hboundary
    obtain ⟨index, hindex, rfl⟩ := List.mem_take_iff_getElem.mp hpacket
    exact Bool.eq_false_iff.mpr (hnone index (by omega))
  · next hnone =>
    right
    exact ⟨⟨rfl, rfl, rfl, rfl⟩, rfl, List.findIdx?_eq_none_iff.mp hnone⟩

theorem Ordered.drain {host : ExternalHost ρ χ} {trace : List (HostEvent ρ χ)}
    (hordered : Ordered host trace) (controllerId : Nat) (answer : Option String) :
    Ordered (host.drainHostEvents controllerId answer).1
      (trace ++ [.drained (host.drainHostEvents controllerId answer).2] ++
        (written host (host.drainHostEvents controllerId answer).1).map (.wrote true)) := by
  rw [ExternalHost.drainHostEvents]
  split
  · have hnone : written host (host.fail (controllerMessage controllerId)) = [] := written_same rfl
    simp only [hnone, List.map_nil, List.append_nil]
    have hfailed := hordered.same (fail_unread host (controllerMessage controllerId)).running rfl
    exact hfailed.keep id rfl rfl rfl
  · have hflow := collectAvailable_sameFlow host
    have hcollected : Ordered host.collectAvailable (trace ++
        [.drained (host.collectAvailable.drainPending answer).2]) :=
      hordered.keep collectAvailable_running hflow.queue rfl rfl
    rcases drainPending_cases host.collectAvailable answer with
      ⟨packet, rest, -, -, hdrain⟩ | ⟨hsame, hstate, -⟩
    · rw [hdrain] at hcollected ⊢
      have hrest : Ordered { host.collectAvailable with pending := rest }
          (trace ++ [.drained [packet]]) := ⟨hcollected.first, hcollected.queued⟩
      exact hrest.observe hflow.sink packet answer
    · rw [written_same (hsame.sink.trans hflow.sink), List.map_nil, List.append_nil]
      apply hcollected.same _ hsame.queue
      rw [hstate]
      exact id

/-- A step keeps the commands of the device in the order of their submission. -/
theorem step_ordered {history : HostHistory ρ χ} (op : HostOp ρ χ)
    (hordered : Ordered history.host history.trace) :
    Ordered (history.step op).host (history.step op).trace := by
  cases op with
  | read message =>
    exact hordered.keep id rfl (deviceCommands_reads _) (submittedCommands_reads _)
  | readerStops => exact ⟨hordered.first, hordered.queued⟩
  | waitForActivity =>
    exact hordered.same waitForActivity_running (waitForActivity_sameFlow history.host).queue
  | handleCommand controllerId command answer =>
    simp only [step]
    rw [submitDeviceCommand]
    by_cases hcontroller : controllerId = 0
    · rw [if_neg (not_not.mpr hcontroller), if_pos hcontroller]
      apply Ordered.dispatch _ rfl
      constructor
      · have hdevice : deviceCommands (history.trace ++ [.submitted command]) =
            deviceCommands history.trace := by simp [deviceCommands]
        rw [hdevice, submittedCommands_append]
        exact hordered.first.trans (List.prefix_append _ _)
      · intro hrunning
        have hqueued := hordered.queued hrunning
        rw [deviceCommands_append, submittedCommands_append, ← hqueued]
        simp [deviceCommands, submittedCommands]
    · have hnone : written history.host
          (history.host.fail (controllerMessage controllerId)) = [] := written_same rfl
      rw [if_pos hcontroller, if_neg hcontroller, hnone]
      have hfailed := hordered.same
        (fail_unread history.host (controllerMessage controllerId)).running rfl
      simpa using hfailed
  | sendData controllerId packet answer =>
    exact hordered.same (write_unread history.host controllerId (.other packet) answer).running
      (write_flow history.host controllerId (.other packet) answer).1
  | drainHostEvents controllerId answer => exact hordered.drain controllerId answer
  | sendCommand command answer arrivals patience =>
    apply hordered.keep
    · exact blockingCall_running history.host command answer
        (fun opCode _ packet => responseTo opCode packet) _ _ arrivals patience
    · exact (blockingCall_flow history.host command answer
        (fun opCode _ packet => responseTo opCode packet) _ _ arrivals patience).1
    · exact directEvents_device _ _ _ _ _
    · exact directEvents_submitted _ _ _ _ _
  | sendVendorCommand command answer matchesResponse arrivals patience =>
    apply hordered.keep
    · exact blockingCall_running history.host command answer
        (fun _ => vendorResponse matchesResponse) _ _ arrivals patience
    · exact (blockingCall_flow history.host command answer
        (fun _ => vendorResponse matchesResponse) _ _ arrivals patience).1
    · exact directEvents_device _ _ _ _ _
    · exact directEvents_submitted _ _ _ _ _
  | sendCommandWithoutResponse command answer =>
    have hbegin := beginDirectCommand_flow history.host command .withoutResponse answer
    apply hordered.keep (sendCommandWithoutResponse_unread history.host command answer).running
    · rw [ExternalHost.sendCommandWithoutResponse, Outcome.andThen]
      split <;> exact hbegin.1
    · exact deviceCommands_wrote_false _
    · exact submittedCommands_wrote false _

theorem run_ordered (ops : List (HostOp ρ χ)) : Ordered (run ops).host (run ops).trace := by
  rw [run]
  induction ops using List.reverseRecOn with
  | nil => exact ⟨List.prefix_refl _, fun _ => rfl⟩
  | append_singleton ops op ih =>
    rw [List.foldl_append]
    exact step_ordered op ih

end HostHistory

/-! ## 4. The controller's view -/

/-- What an observer who knows the answers holds against the host: the operation codes
    that are neither answered nor given up, and the number of commands the controller
    allowed last. -/
structure FlowMonitor where
  outstanding : List UInt16
  allowed : Option UInt8
deriving DecidableEq, Repr

namespace FlowMonitor

def start : FlowMonitor := ⟨[], none⟩

/-- The operation code and the number of allowed commands of an answer. -/
def answer? : HciPacket ρ χ → Option (UInt16 × UInt8)
  | .commandComplete numHciCommandPackets commandOpcode _ =>
    some (commandOpcode, numHciCommandPackets)
  | .commandStatus _ numHciCommandPackets commandOpcode =>
    some (commandOpcode, numHciCommandPackets)
  | _ => none

def giveUp (monitor : FlowMonitor) (opCode : UInt16) : FlowMonitor :=
  { monitor with outstanding := monitor.outstanding.filter (· ≠ opCode) }

def receive (monitor : FlowMonitor) (packet : HciPacket ρ χ) : FlowMonitor :=
  match answer? packet with
  | some (opCode, numHciCommandPackets) =>
    { monitor.giveUp opCode with allowed := some numHciCommandPackets }
  | none => monitor

/-- An answer is received when it is handed to the device or returned to the caller of
    a blocking command.  `none` is a command written while another is outstanding or
    while the controller allows none. -/
def step (monitor : FlowMonitor) : HostEvent ρ χ → Option FlowMonitor
  | .wrote _ command =>
    if monitor.outstanding = [] ∧ monitor.allowed ≠ some 0 then
      some { monitor with outstanding := [command.opCode] }
    else none
  | .drained packets => some (packets.foldl receive monitor)
  | .responded packet => some (monitor.receive packet)
  | .gaveUp opCode => some (monitor.giveUp opCode)
  | .read _ => some monitor
  | .submitted _ => some monitor

/-- The host's own account is at least as strict as the monitor's. -/
structure Tracks (monitor : FlowMonitor) (host : ExternalHost ρ χ) : Prop where
  outstanding : ∀ opCode ∈ monitor.outstanding, host.devicePendingCommand = some opCode
  allowed : host.deviceCommandCredit = true → monitor.allowed ≠ some 0

theorem receive_other {packet : HciPacket ρ χ}
    (hother : ExternalHost.isDeviceCommandFlowEvent packet = false) (monitor : FlowMonitor) :
    monitor.receive packet = monitor := by
  cases packet with
  | commandComplete | commandStatus => cases hother
  | command | vendor | other => rfl

theorem receive_others (packets : List (HciPacket ρ χ)) :
    ∀ monitor : FlowMonitor,
    (∀ packet ∈ packets, ExternalHost.isDeviceCommandFlowEvent packet = false) →
    packets.foldl receive monitor = monitor := by
  induction packets with
  | nil =>
    intro monitor _
    rfl
  | cons packet packets ih =>
    intro monitor hothers
    rw [List.foldl_cons, receive_other (hothers packet List.mem_cons_self)]
    exact ih monitor fun other hother => hothers other (List.mem_cons_of_mem _ hother)

theorem foldlM_reads (monitor : FlowMonitor) (packets : List (HciPacket ρ χ)) :
    (packets.map HostEvent.read).foldlM step monitor = some monitor := by
  induction packets with
  | nil => rfl
  | cons packet packets ih => exact ih

namespace Tracks

variable {monitor : FlowMonitor} {host : ExternalHost ρ χ}

theorem of_flow (htracks : monitor.Tracks host) {after : ExternalHost ρ χ}
    (hpending : after.devicePendingCommand = host.devicePendingCommand)
    (hcredit : after.deviceCommandCredit = host.deviceCommandCredit) : monitor.Tracks after := by
  constructor
  · intro opCode hmem
    rw [hpending]
    exact htracks.outstanding opCode hmem
  · intro hafter
    rw [hcredit] at hafter
    exact htracks.allowed hafter

theorem free (htracks : monitor.Tracks host) (hidle : host.devicePendingCommand = none) :
    monitor.outstanding = [] := by
  apply List.eq_nil_iff_forall_not_mem.mpr
  intro opCode hmem
  rw [htracks.outstanding opCode hmem] at hidle
  cases hidle

theorem dispatch (htracks : monitor.Tracks host) {before : ExternalHost ρ χ}
    (hsink : host.sink = before.sink) (answer : Option String) :
    ∃ later, ((HostHistory.written before (host.dispatchNextDeviceCommand answer)).map
        (HostEvent.wrote (ρ := ρ) (χ := χ) true)).foldlM step monitor = some later ∧
      later.Tracks (host.dispatchNextDeviceCommand answer) := by
  rcases HostHistory.dispatch_cases host answer with hsame | ⟨command, hdispatched⟩ | hrefused
  · rw [HostHistory.written_same (hsame.sink.trans hsink)]
    exact ⟨monitor, rfl, htracks.of_flow hsame.pending hsame.credit⟩
  · rw [HostHistory.written_command (hdispatched.sink.trans (by rw [hsink]))]
    refine ⟨{ monitor with outstanding := [command.opCode] }, ?_, ?_⟩
    · rw [List.map_cons, List.map_nil, List.foldlM_cons, step,
        if_pos ⟨htracks.free hdispatched.idle, htracks.allowed hdispatched.credit⟩]
      rfl
    · constructor
      · intro opCode hmem
        rw [List.mem_singleton.mp hmem]
        exact hdispatched.pending
      · intro hcredit
        rw [hdispatched.spent] at hcredit
        cases hcredit
  · rw [HostHistory.written_same (hrefused.sink.trans hsink)]
    refine ⟨monitor, rfl, ?_⟩
    constructor
    · intro opCode hmem
      rw [htracks.free hrefused.idle] at hmem
      cases hmem
    · intro hcredit
      rw [hrefused.spent] at hcredit
      cases hcredit

end Tracks

end FlowMonitor

/-! ## 5. Expected answers -/

namespace ExternalHost

/-- An answer to a command other than the pending one, or one that takes back the
    permission to send, does not occur. -/
def Expects (host : ExternalHost ρ χ) : HciPacket ρ χ → Prop
  | .commandComplete numHciCommandPackets commandOpcode _ =>
    (commandOpcode ≠ 0 → ∀ opCode, host.devicePendingCommand = some opCode →
      opCode = commandOpcode) ∧
    (numHciCommandPackets = 0 → host.deviceCommandCredit = false)
  | .commandStatus _ numHciCommandPackets commandOpcode =>
    (∀ opCode, host.devicePendingCommand = some opCode → opCode = commandOpcode) ∧
    (numHciCommandPackets = 0 → host.deviceCommandCredit = false)
  | _ => True

theorem Expects.of_flow {host after : ExternalHost ρ χ} {packet : HciPacket ρ χ}
    (hexpects : host.Expects packet)
    (hpending : after.devicePendingCommand = host.devicePendingCommand)
    (hcredit : after.deviceCommandCredit = host.deviceCommandCredit) : after.Expects packet := by
  cases packet with
  | commandComplete | commandStatus =>
    rw [Expects, hpending, hcredit]
    exact hexpects
  | command | vendor | other => trivial

end ExternalHost

namespace HostHistory

open ExternalHost FlowMonitor

/-- The number of commands the controller allows with a response. -/
def allowedBy : CommandResponse ρ → UInt8
  | .complete numHciCommandPackets _ => numHciCommandPackets
  | .status _ numHciCommandPackets => numHciCommandPackets

/-- What an operation may find: the drained answer is expected, and a blocking command is
    not answered with a refusal of further ones. -/
def Expected (history : HostHistory ρ χ) : HostOp ρ χ → Prop
  | .drainHostEvents _ _ => ∀ packet ∈ history.host.collectAvailable.pending.head?,
    history.host.Expects packet
  | .sendCommand command _ arrivals patience =>
    ∀ response ∈ ((packets ((history.host.receiver ++ arrivals).take patience)).filterMap
      (responseTo command.opCode)).head?, allowedBy response ≠ 0
  | _ => True

/-- The operations of the two paths that wait for answers. -/
def Paths : HostOp ρ χ → Prop
  | .sendVendorCommand .. | .sendCommandWithoutResponse .. => False
  | _ => True

/-! ## 6. One operation -/

/-- The trace so far breaks no rule, and the host's account covers the monitor's. -/
def Controlled (host : ExternalHost ρ χ) (trace : List (HostEvent ρ χ)) : Prop :=
  ∃ monitor, trace.foldlM FlowMonitor.step .start = some monitor ∧ monitor.Tracks host

theorem Controlled.extend {before after : ExternalHost ρ χ} {trace later : List (HostEvent ρ χ)}
    (hcontrolled : Controlled before trace)
    (hstep : ∀ monitor : FlowMonitor, monitor.Tracks before →
      ∃ next, later.foldlM FlowMonitor.step monitor = some next ∧ next.Tracks after) :
    Controlled after (trace ++ later) := by
  obtain ⟨monitor, htrace, htracks⟩ := hcontrolled
  obtain ⟨next, hlater, hnext⟩ := hstep monitor htracks
  refine ⟨next, ?_, hnext⟩
  rw [List.foldlM_append, htrace]
  exact hlater

theorem settle_tracks {monitor : FlowMonitor} {host : ExternalHost ρ χ}
    (htracks : monitor.Tracks host) {packet : HciPacket ρ χ} {opCode : UInt16}
    {numHciCommandPackets : UInt8} {completesCommand : Bool}
    (hanswer : answer? packet = some (opCode, numHciCommandPackets))
    (hcompletes : completesCommand = true → ∀ pending, host.devicePendingCommand = some pending →
      pending = opCode)
    (hallowed : numHciCommandPackets = 0 → host.deviceCommandCredit = false) :
    (monitor.receive packet).Tracks (settle host completesCommand numHciCommandPackets) := by
  rw [receive, hanswer]
  constructor
  · intro code hmem
    obtain ⟨hbefore, hother⟩ := List.mem_filter.mp hmem
    have hpending := htracks.outstanding code hbefore
    rw [settle]
    cases completesCommand with
    | false => exact hpending
    | true =>
      have hsame := hcompletes rfl code hpending
      exact absurd hsame (of_decide_eq_true hother)
  · intro hcredit
    change some numHciCommandPackets ≠ some 0
    intro hzero
    have hzero : numHciCommandPackets = 0 := Option.some.inj hzero
    rw [settle, hzero] at hcredit
    simp [hallowed hzero] at hcredit

theorem observe_controlled {monitor : FlowMonitor} {before host : ExternalHost ρ χ}
    (htracks : monitor.Tracks host) (hsink : host.sink = before.sink) {packet : HciPacket ρ χ}
    (hflow : isDeviceCommandFlowEvent packet = true) (hexpects : host.Expects packet)
    (answer : Option String) :
    ∃ later, ((written before (host.observeDeviceCommandFlow packet answer)).map
        (HostEvent.wrote (ρ := ρ) (χ := χ) true)).foldlM FlowMonitor.step
          (monitor.receive packet) = some later ∧
      later.Tracks (host.observeDeviceCommandFlow packet answer) := by
  cases packet with
  | commandComplete num opCode parameters =>
    rw [observeDeviceCommandFlow, observeCompletion_eq]
    have hsettled : (monitor.receive (.commandComplete num opCode parameters)).Tracks
        (settle host (opCode ≠ 0) num) :=
      settle_tracks htracks rfl
        (fun hcompletes => hexpects.1 (of_decide_eq_true hcompletes)) hexpects.2
    exact hsettled.dispatch hsink answer
  | commandStatus status num opCode =>
    rw [observeDeviceCommandFlow, observeCompletion_eq]
    have hsettled : (monitor.receive (.commandStatus status num opCode)).Tracks
        (settle host true num) :=
      settle_tracks htracks rfl (fun _ => hexpects.1) hexpects.2
    exact hsettled.dispatch hsink answer
  | command | vendor | other => cases hflow

theorem awaitPacket_first {β : Type} {accept : HciPacket ρ χ → Option β}
    {timedOut transportEnded : String} (patience : Nat) {asked : List Bytes}
    {host : ExternalHost ρ χ} {value : β}
    (hresult : (awaitPacket (fun _ => accept) timedOut transportEnded patience asked host).result =
      .ok value) :
    ((packets (host.receiver.take patience)).filterMap accept).head? = some value := by
  obtain ⟨moved, packet, -, hreceiver, hless, -, -, hpassed, haccepted⟩ :=
    awaitPacket_ok patience hresult
  obtain ⟨later, rfl⟩ := Nat.exists_eq_add_of_lt hless
  have hnone : moved.filterMap accept = [] := by
    rw [List.filterMap_eq_nil_iff]
    intro passed hmem
    obtain ⟨-, hpassed⟩ := hpassed passed hmem
    exact hpassed
  obtain ⟨rest, hreceiver⟩ :
      ∃ rest, host.receiver = moved.map .packet ++ .packet packet :: rest := ⟨_, hreceiver⟩
  have htake : host.receiver.take (moved.length + later + 1) =
      moved.map .packet ++ .packet packet :: rest.take later := by
    have hlength : moved.length + later + 1 =
        (moved.map (ReaderMessage.packet (ρ := ρ) (χ := χ))).length + (later + 1) := by
      rw [List.length_map, Nat.add_assoc]
    rw [hreceiver, hlength, List.take_length_add_append, List.take_succ_cons]
  rw [htake, packets_append, packets_map_packet, packets_cons_packet, List.filterMap_append, hnone,
    List.nil_append, List.filterMap_cons_some haccepted]
  rfl

theorem answer_toPacket (opCode : UInt16) (response : CommandResponse ρ) :
    answer? (response.toPacket opCode : HciPacket ρ χ) = some (opCode, allowedBy response) := by
  cases response <;> rfl

theorem directEvents_controlled {monitor : FlowMonitor} (command : Command)
    {before after : ExternalHost ρ χ} (hsink : after.sink = before.sink ++ [.command command])
    (hfree : monitor.outstanding = []) (hmay : monitor.allowed ≠ some 0)
    (arrivals : List (ReaderMessage ρ χ)) {response : Option (CommandResponse ρ)}
    (hresponse : ∀ given ∈ response, allowedBy given ≠ 0) :
    ∃ later, (directEvents command before after arrivals
        (response.map (CommandResponse.toPacket command.opCode))).foldlM FlowMonitor.step monitor =
        some later ∧ later.outstanding = [] ∧ later.allowed ≠ some 0 := by
  simp only [directEvents, written_command hsink, List.map_cons, List.map_nil]
  rw [List.foldlM_append, List.foldlM_append, List.foldlM_cons, FlowMonitor.step,
    if_pos ⟨hfree, hmay⟩]
  simp only [List.foldlM_nil, bind_pure, Option.bind_eq_bind, Option.bind_some, foldlM_reads]
  have hanswered : [command.opCode].filter (· ≠ command.opCode) = [] := by simp
  cases response with
  | none => exact ⟨_, rfl, hanswered, hmay⟩
  | some given =>
    refine ⟨_, rfl, ?_, ?_⟩
    · rw [receive, answer_toPacket]
      exact hanswered
    · rw [receive, answer_toPacket]
      exact fun hzero => hresponse given rfl (Option.some.inj hzero)

/-- One operation breaks no rule of the flow control, and the account of the host
    still covers what the monitor has seen. -/
theorem step_controlled {history : HostHistory ρ χ} {op : HostOp ρ χ} (hpaths : Paths op)
    (hexpected : history.Expected op) (hcontrolled : Controlled history.host history.trace) :
    Controlled (history.step op).host (history.step op).trace := by
  cases op with
  | read message =>
    apply hcontrolled.extend
    intro monitor htracks
    exact ⟨monitor, foldlM_reads monitor _, htracks.of_flow rfl rfl⟩
  | readerStops =>
    obtain ⟨monitor, htrace, htracks⟩ := hcontrolled
    exact ⟨monitor, htrace, htracks.of_flow rfl rfl⟩
  | waitForActivity =>
    obtain ⟨monitor, htrace, htracks⟩ := hcontrolled
    have hflow := waitForActivity_sameFlow history.host
    exact ⟨monitor, htrace, htracks.of_flow hflow.pending hflow.credit⟩
  | sendData controllerId packet answer =>
    obtain ⟨monitor, htrace, htracks⟩ := hcontrolled
    have hflow := write_flow history.host controllerId (.other packet) answer
    exact ⟨monitor, htrace, htracks.of_flow hflow.2.1 hflow.2.2⟩
  | handleCommand controllerId command answer =>
    simp only [step]
    rw [submitDeviceCommand]
    by_cases hcontroller : controllerId = 0
    · rw [if_neg (not_not.mpr hcontroller), if_pos hcontroller, List.append_assoc]
      apply hcontrolled.extend
      intro monitor htracks
      have hqueued : monitor.Tracks { history.host with
          deviceCommandQueue := history.host.deviceCommandQueue ++ [command] } :=
        htracks.of_flow rfl rfl
      exact hqueued.dispatch rfl answer
    · have hnone : written history.host
          (history.host.fail (controllerMessage controllerId)) = [] := written_same rfl
      rw [if_pos hcontroller, if_neg hcontroller, hnone, List.append_assoc]
      apply hcontrolled.extend
      intro monitor htracks
      exact ⟨monitor, rfl, htracks.of_flow rfl rfl⟩
  | drainHostEvents controllerId answer =>
    simp only [step]
    rw [ExternalHost.drainHostEvents, List.append_assoc]
    split
    · have hnone : written history.host
          (history.host.fail (controllerMessage controllerId)) = [] := written_same rfl
      apply hcontrolled.extend
      intro monitor htracks
      simp only [hnone]
      exact ⟨monitor, rfl, htracks.of_flow rfl rfl⟩
    · apply hcontrolled.extend
      intro monitor htracks
      have hflow := collectAvailable_sameFlow history.host
      rcases drainPending_cases history.host.collectAvailable answer with
        ⟨packet, rest, hpacket, hpending, hdrain⟩ | ⟨hsame, -, hothers⟩
      · have hexpects : history.host.Expects packet := by
          apply hexpected packet
          rw [hpending]
          rfl
        have hrest : monitor.Tracks { history.host.collectAvailable with pending := rest } :=
          htracks.of_flow hflow.pending hflow.credit
        rw [hdrain]
        exact observe_controlled hrest hflow.sink hpacket
          (hexpects.of_flow hflow.pending hflow.credit) answer
      · rw [written_same (hsame.sink.trans hflow.sink), List.map_nil, List.append_nil,
          List.foldlM_cons, FlowMonitor.step, receive_others _ monitor hothers]
        exact ⟨monitor, rfl, (htracks.of_flow hflow.pending hflow.credit).of_flow hsame.pending
          hsame.credit⟩
  | sendCommand command answer arrivals patience =>
    apply hcontrolled.extend
    intro monitor htracks
    have hcases := blockingCall_cases history.host command answer
      (fun opCode _ packet => responseTo opCode packet)
      (fun opCode => "timed out waiting for HCI command " ++ hexOpCode opCode)
      (fun opCode => "transport ended before response to HCI command " ++ hexOpCode opCode)
      arrivals patience
    have hsame := blockingCall_flow history.host command answer
      (fun opCode _ packet => responseTo opCode packet)
      (fun opCode => "timed out waiting for HCI command " ++ hexOpCode opCode)
      (fun opCode => "transport ended before response to HCI command " ++ hexOpCode opCode)
      arrivals patience
    rcases hcases with ⟨-, hsink⟩ | ⟨-, hidle, -, hcredit, hcall⟩
    · refine ⟨monitor, ?_, htracks.of_flow hsame.2.1 hsame.2.2⟩
      have hnone : written history.host
          (history.host.sendCommand command answer arrivals patience).state = [] :=
        written_same hsink
      simp only [directEvents, hnone]
      rfl
    · have hfree := htracks.free hidle
      have hmay := htracks.allowed hcredit
      have hflow := awaitPacket_flow
        (fun _ (packet : HciPacket ρ χ) => responseTo command.opCode packet)
        ("timed out waiting for HCI command " ++ hexOpCode command.opCode)
        ("transport ended before response to HCI command " ++ hexOpCode command.opCode)
        patience [] { history.host with
          sink := history.host.sink ++ [.command command],
          receiver := history.host.receiver ++ arrivals }
      have hsink := (congrArg (fun call => call.state.sink) hcall).trans hflow.1
      have hresponse : ∀ given ∈
          (history.host.sendCommand command answer arrivals patience).result.toOption,
          allowedBy given ≠ 0 := by
        intro given hgiven
        have hresult : (history.host.sendCommand command answer arrivals patience).result =
            .ok given := by
          cases hcase : (history.host.sendCommand command answer arrivals patience).result with
          | ok other =>
            rw [hcase] at hgiven
            rw [Option.some.inj hgiven]
          | error error =>
            rw [hcase] at hgiven
            cases hgiven
        have hawait := (congrArg Outcome.result hcall).symm.trans hresult
        exact hexpected given (awaitPacket_first patience hawait)
      obtain ⟨later, hlater, hnothing, hallowed⟩ :=
        directEvents_controlled command hsink hfree hmay arrivals hresponse
      refine ⟨later, hlater, ?_⟩
      constructor
      · intro opCode hmem
        rw [hnothing] at hmem
        cases hmem
      · exact fun _ => hallowed
  | sendVendorCommand => cases hpaths
  | sendCommandWithoutResponse => cases hpaths

/-! ## 7. Whole runs -/

/-- No command was written while an earlier one was neither answered nor given up, nor
    while the controller allowed none. -/
def FlowControlled (trace : List (HostEvent ρ χ)) : Prop :=
  (trace.foldlM FlowMonitor.step .start).isSome = true

theorem run_controlled (ops : List (HostOp ρ χ)) (hpaths : ∀ op ∈ ops, Paths op)
    (hexpected : ∀ before op after, ops = before ++ op :: after → (run before).Expected op) :
    Controlled (run ops).host (run ops).trace := by
  induction ops using List.reverseRecOn with
  | nil =>
    refine ⟨.start, rfl, ?_⟩
    constructor
    · intro opCode hmem
      cases hmem
    · intro _ hzero
      cases hzero
  | append_singleton ops op ih =>
    have hbefore : Controlled (run ops).host (run ops).trace := by
      apply ih fun earlier hmem => hpaths earlier (List.mem_append_left _ hmem)
      intro before earlier after hsplit
      apply hexpected before earlier (after ++ [op])
      rw [hsplit, List.append_assoc, List.cons_append]
    rw [run, List.foldl_append]
    apply step_controlled _ (hexpected ops op [] rfl) hbefore
    exact hpaths op (List.mem_append_right _ List.mem_cons_self)

/-- **Command flow control.**  In every run of the two sending paths whose steps find
    expected answers only, commands are written one at a time and when the controller
    allows them.  The commands of the device reach the sink once each and in the order of
    their submission: those that have not are queued, unless the host has ended. -/
theorem commands_flow_controlled (ops : List (HostOp ρ χ)) (hpaths : ∀ op ∈ ops, Paths op)
    (hexpected : ∀ before op after, ops = before ++ op :: after → (run before).Expected op) :
    FlowControlled (run ops).trace ∧
    deviceCommands (run ops).trace <+: submittedCommands (run ops).trace ∧
    ((run ops).host.state = .running →
      deviceCommands (run ops).trace ++ (run ops).host.deviceCommandQueue =
        submittedCommands (run ops).trace) := by
  obtain ⟨monitor, hmonitor, -⟩ := run_controlled ops hpaths hexpected
  have hordered := run_ordered ops
  exact ⟨Option.isSome_iff_exists.mpr ⟨monitor, hmonitor⟩, hordered.first, hordered.queued⟩

/-- Two commands of the device, the second dispatched by the answer to the first. -/
def twoCommands : List (HostOp Unit Nat) :=
  [.handleCommand 0 ⟨0x0C03, []⟩ none, .handleCommand 0 ⟨0x1001, []⟩ none,
    .read (.packet (.commandComplete 1 0x0C03 ())), .drainHostEvents 0 none]

theorem twoCommands_flow_controlled :
    FlowControlled (run twoCommands).trace ∧
    deviceCommands (run twoCommands).trace = [⟨0x0C03, []⟩, ⟨0x1001, []⟩] := by
  refine ⟨(commands_flow_controlled twoCommands ?_ ?_).1, by decide⟩
  · intro op hop
    simp only [twoCommands, List.mem_cons, List.not_mem_nil, or_false] at hop
    rcases hop with rfl | rfl | rfl | rfl <;> trivial
  · refine forall_split_cons trivial (forall_split_cons trivial (forall_split_cons trivial
      (forall_split_cons ?_ forall_split_nil)))
    intro packet hpacket
    obtain rfl : HciPacket.commandComplete 1 0x0C03 () = packet := Option.some.inj hpacket
    exact ⟨fun _ opCode hpending => (Option.some.inj hpending).symm, by decide⟩

/-- Three ways to a command that is written too early: a Command Status with operation code
    0, the late answer to a blocking command that was given up, and an answer to a blocking
    command that allows no further one. -/
theorem flow_not_controlled :
    ¬ FlowControlled (run ([.handleCommand 0 ⟨0x0C03, []⟩ none,
      .handleCommand 0 ⟨0x1001, []⟩ none, .read (.packet (.commandStatus 0 1 0)),
      .drainHostEvents 0 none] : List (HostOp Unit Nat))).trace ∧
    ¬ FlowControlled (run ([.sendCommand ⟨0x1009, []⟩ none [] 0,
      .handleCommand 0 ⟨0x0C03, []⟩ none, .handleCommand 0 ⟨0x1001, []⟩ none,
      .read (.packet (.commandComplete 1 0x1009 ())),
      .drainHostEvents 0 none] : List (HostOp Unit Nat))).trace ∧
    ¬ FlowControlled (run ([.sendCommand ⟨0x1009, []⟩ none
        [.packet (.commandComplete 0 0x1009 ())] 1,
      .handleCommand 0 ⟨0x0C03, []⟩ none] : List (HostOp Unit Nat))).trace := by
  refine ⟨?_, ?_, ?_⟩ <;> exact Bool.false_ne_true

end HostHistory

end Bumble.Transport
