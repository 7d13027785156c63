import SessionReplay.Proofs.Dispatcher.Findings
import SessionReplay.Proofs.Transport.Completion

/-! Everything that dispatching one event to a simulated transport changes, and
everything that it leaves as it was. Later proofs read the fields of `Dispatched` and
open no dispatcher function again. -/
namespace SessionReplay

/-- The message that the transport took, if the event was one. -/
def Event.accepted : Event → Outcome → List ConnectionId
  | .message event, .forwarded => [event.connection]
  | _, _ => []

/-- The connection id that waits to be taken after an event. -/
def Event.announced (pending : Option ConnectionId) : Event → Option ConnectionId
  | .connect event => some event.connection
  | _ => pending

namespace Dispatcher
variable {τ : Type}

def violations (dispatcher : Dispatcher τ) : List Violation := dispatcher.operations.violations

def channel (dispatcher : Dispatcher τ) : ErrorChannel := dispatcher.operations.channel

/-- What neither an event nor a completion changes. -/
structure Setting where
  owners : Owners
  observer : Option String
  observed : Array (String × Nat)
  config : Config
  channel : ErrorChannel
  registered : Bool

def setting (dispatcher : Dispatcher Simulated) : Setting where
  owners := dispatcher.owners
  observer := dispatcher.observer
  observed := dispatcher.observed
  config := dispatcher.config
  channel := dispatcher.channel
  registered := dispatcher.transport.registered

/-- The messages that wait to be completed, the oldest first. -/
def awaiting (dispatcher : Dispatcher Simulated) : List ConnectionId :=
  dispatcher.transport.awaiting.toList

/-- The effect of dispatching an event, of which `outcome` became. -/
structure Dispatched (before : Dispatcher Simulated) (event : Event) (outcome : Outcome)
    (after : Dispatcher Simulated) : Prop where
  setting : after.setting = before.setting
  now : after.now = max before.now event.timestamp
  count : after.count = min (before.count + 1) countCap
  pending : after.pending = event.announced before.pending
  inFlight : after.inFlight = (event.opensOperation || before.inFlight)
  violations : after.violations = before.violations ++
    before.channel.kept (event.findings before.owners before.inFlight outcome)
  refusals : after.transport.refusals = event.refusalsLeft before.transport.refusals
  awaiting : after.awaiting = before.awaiting ++ event.accepted outcome

theorem violations_report (dispatcher : Dispatcher τ) (violation : Violation) :
    (dispatcher.report violation).violations =
      dispatcher.violations ++ dispatcher.channel.kept [violation] :=
  dispatcher.operations.violations_report violation

theorem operations_checkOwner (dispatcher : Dispatcher τ) (owner : OwnerId) :
    (dispatcher.checkOwner owner).operations =
      dispatcher.operations.reportAll (dispatcher.owners.findings owner) := by
  rw [← dispatcher.owners.toList_objection? owner]
  unfold checkOwner
  cases dispatcher.owners.objection? owner <;> rfl

/-- A message up to the moment at which its offsets are looked at. -/
def opened (dispatcher : Dispatcher τ) (event : MessageEvent) : Dispatcher τ :=
  ((dispatcher.receive (.messageReceived event) event.timestamp).checkOwner event.owner).start

theorem operations_opened (dispatcher : Dispatcher τ) (event : MessageEvent) :
    (dispatcher.opened event).operations =
      (((dispatcher.operations.note (.messageReceived event)).note
        (.clockAdvanced dispatcher.now event.timestamp)).reportAll
          (dispatcher.owners.findings event.owner)).start :=
  congrArg Operations.start (operations_checkOwner _ _)

theorem overlapFindings_opening {event : Event} (opens : event.opensOperation = true)
    (wasOpen : Bool) : event.overlapFindings wasOpen = Operations.breach wasOpen .start := by
  simp [Event.overlapFindings, Operations.breach, opens]

theorem violations_opened (dispatcher : Dispatcher τ) (event : MessageEvent) :
    (dispatcher.opened event).violations = dispatcher.violations ++ dispatcher.channel.kept
      (dispatcher.owners.findings event.owner ++
        (Event.message event).overlapFindings dispatcher.inFlight) := by
  unfold violations channel inFlight
  rw [operations_opened, Operations.violations_start, ErrorChannel.kept_append,
    overlapFindings_opening rfl]
  simp

theorem channel_opened (dispatcher : Dispatcher τ) (event : MessageEvent) :
    (dispatcher.opened event).channel = dispatcher.channel := by
  unfold channel
  rw [operations_opened]
  simp

section Offsets
variable [Transport τ] {dispatcher : Dispatcher τ} {event : MessageEvent}

theorem window?_of_error (unframed : event.window = .error fault) :
    event.window? = .error (.malformedFrame event.connection fault.message) := by
  unfold MessageEvent.window?
  rw [unframed]
  rfl

theorem window?_of_ok (framed : event.window = .ok window) : event.window? = .ok window := by
  unfold MessageEvent.window?
  rw [framed]
  rfl

theorem onMessage_of_error (unframed : event.window = .error fault) :
    dispatcher.onMessage event =
      ((dispatcher.opened event).report (.malformedFrame event.connection fault.message),
        .dropped) := by
  simp only [onMessage, window?_of_error unframed]
  rfl

theorem onMessage_of_handed (framed : event.window = .ok window)
    (handing : (dispatcher.opened event).forward (.ofEvent event window) = (handed, true)) :
    dispatcher.onMessage event = (handed, .forwarded) := by
  unfold opened at handing
  simp only [onMessage, window?_of_ok framed, handing, if_true]

theorem onMessage_of_refused (framed : event.window = .ok window)
    (handing : (dispatcher.opened event).forward (.ofEvent event window) = (handed, false)) :
    dispatcher.onMessage event =
      ((handed.note (.refusedDownstream event.connection window)).report
        (.messageRefused event.connection), .refused) := by
  unfold opened at handing
  simp only [onMessage, window?_of_ok framed, handing, Bool.false_eq_true, if_false]

end Offsets

section Message
variable {dispatcher : Dispatcher Simulated} {event : MessageEvent}

theorem forward_of_refusing (refusing : dispatcher.transport.refusals = left + 1)
    (message : FramedMessage) :
    dispatcher.forward message =
      ({ dispatcher with
          transport := { dispatcher.transport with
            refusals := left, refused := dispatcher.transport.refused + 1 }
          operations := dispatcher.operations.note (.transportRefusing message.connection) },
        false) := by
  simp only [forward, Transport.enqueueMessage, Simulated.enqueueMessage]
  split
  · next refusals more =>
    obtain rfl : refusals = left := by omega
    rfl
  · next none => omega

theorem forward_of_accepting (accepting : dispatcher.transport.refusals = 0)
    (message : FramedMessage) :
    dispatcher.forward message =
      ({ dispatcher with
          transport := { dispatcher.transport with
            awaiting := dispatcher.transport.awaiting.push message.connection
            messages := dispatcher.transport.messages.push message } }, true) := by
  simp only [forward, Transport.enqueueMessage, Simulated.enqueueMessage]
  split
  · next more => omega
  · rfl

theorem setting_opened : (dispatcher.opened event).setting = dispatcher.setting := by
  unfold setting
  rw [channel_opened]
  rfl

/-- Unusable offsets: the operation is left open and nothing is handed on. -/
theorem dispatched_of_error (unframed : event.window = .error fault) :
    ∃ after, dispatcher.onMessage event = (after, .dropped) ∧
      Dispatched dispatcher (.message event) .dropped after := by
  have setting := @setting_opened dispatcher event
  have found := dispatcher.violations_opened event
  have fate := Event.fate_of_error unframed dispatcher.transport.refusals
  have left : (Event.message event).refusalsLeft dispatcher.transport.refusals =
      dispatcher.transport.refusals := by simp [Event.refusalsLeft, fate]
  refine ⟨_, onMessage_of_error unframed, ?_⟩
  refine ⟨setting, rfl, rfl, rfl, rfl, ?_, left.symm, (List.append_nil _).symm⟩
  rw [violations_report, found, dispatcher.channel_opened event, List.append_assoc,
    ← ErrorChannel.kept_append]
  simp [Event.findings, Event.ownerFindings, Event.outcomeFindings, unframed]

theorem dispatched_of_handed (framed : event.window = .ok window)
    (accepting : dispatcher.transport.refusals = 0) :
    ∃ after, dispatcher.onMessage event = (after, .forwarded) ∧
      Dispatched dispatcher (.message event) .forwarded after := by
  have setting := @setting_opened dispatcher event
  have found := dispatcher.violations_opened event
  have fate : (Event.message event).fate 0 = .forwarded := Event.fate_of_ok framed 0
  have left : (Event.message event).refusalsLeft 0 = 0 := by simp [Event.refusalsLeft, fate]
  have handing := @forward_of_accepting (dispatcher.opened event) accepting
    (.ofEvent event window)
  refine ⟨_, onMessage_of_handed framed handing, ?_⟩
  refine ⟨setting, rfl, rfl, rfl, rfl, ?_, ?_, Queue.toList_push _ _⟩
  · refine found.trans ?_
    simp [Event.findings, Event.ownerFindings, Event.outcomeFindings]
  · rw [accepting, left]
    exact accepting

theorem dispatched_of_refused (framed : event.window = .ok window)
    (refusing : dispatcher.transport.refusals = remaining + 1) :
    ∃ after, dispatcher.onMessage event = (after, .refused) ∧
      Dispatched dispatcher (.message event) .refused after := by
  have setting := @setting_opened dispatcher event
  have found := dispatcher.violations_opened event
  have fate : (Event.message event).fate (remaining + 1) = .refused :=
    Event.fate_of_ok framed (remaining + 1)
  have left : (Event.message event).refusalsLeft (remaining + 1) = remaining := by
    simp [Event.refusalsLeft, fate]
  have handing := @forward_of_refusing (dispatcher.opened event) remaining refusing
    (.ofEvent event window)
  refine ⟨_, onMessage_of_refused framed handing, ?_⟩
  refine ⟨setting, rfl, rfl, rfl, rfl, ?_, ?_, (List.append_nil _).symm⟩
  · rw [violations_report]
    show (dispatcher.opened event).violations ++
      (dispatcher.opened event).channel.kept [.messageRefused event.connection] = _
    rw [found, dispatcher.channel_opened event, List.append_assoc, ← ErrorChannel.kept_append]
    simp [Event.findings, Event.ownerFindings, Event.outcomeFindings]
  · rw [refusing, left]
    rfl

theorem dispatched_message :
    (dispatcher.onMessage event).2 = (Event.message event).fate dispatcher.transport.refusals ∧
      Dispatched dispatcher (.message event) (dispatcher.onMessage event).2
        (dispatcher.onMessage event).1 := by
  cases framed : event.window with
  | error fault =>
    obtain ⟨after, given, effect⟩ := @dispatched_of_error dispatcher event fault framed
    rw [given, Event.fate_of_error framed]
    exact ⟨rfl, effect⟩
  | ok window =>
    rw [Event.fate_of_ok framed]
    cases budget : dispatcher.transport.refusals with
    | zero =>
      obtain ⟨after, given, effect⟩ := dispatched_of_handed framed budget
      rw [given]
      exact ⟨rfl, effect⟩
    | succ remaining =>
      obtain ⟨after, given, effect⟩ := dispatched_of_refused framed budget
      rw [given, if_neg (Nat.succ_ne_zero remaining)]
      exact ⟨rfl, effect⟩

end Message

section Connect
variable {dispatcher : Dispatcher Simulated}

/-- An id that was never taken leaves a mark in the log, not a violation. -/
theorem violations_expect (connection : ConnectionId) :
    (dispatcher.expect connection).violations = dispatcher.violations ∧
      (dispatcher.expect connection).channel = dispatcher.channel ∧
      (dispatcher.expect connection).inFlight = dispatcher.inFlight := by
  unfold expect violations channel inFlight
  cases dispatcher.pending <;> simp

theorem dispatched_connect (event : ConnectEvent) :
    Dispatched dispatcher (.connect event) .forwarded (dispatcher.onConnect event).1 := by
  let started := (dispatcher.receive (.connectReceived event) event.timestamp).start
  obtain ⟨found, channel, inFlight⟩ := @violations_expect started event.connection
  have startedChannel : started.channel = dispatcher.channel := Operations.channel_start _
  refine ⟨?_, rfl, rfl, rfl, inFlight, ?_, rfl, (List.append_nil _).symm⟩
  · show (⟨_, _, _, _, (started.expect event.connection).channel, _⟩ : Setting) = _
    rw [channel, startedChannel]
    rfl
  · refine found.trans ((Operations.violations_start _).trans ?_)
    rw [Event.findings_connect, overlapFindings_opening rfl]
    rfl

theorem dispatched_heartbeat (event : Heartbeat) :
    Dispatched dispatcher (.heartbeat event) .observed (dispatcher.onHeartbeat event).1 := by
  let received := dispatcher.receive (.heartbeatReceived event) event.timestamp
  have operations := received.operations_checkOwner event.owner
  refine ⟨?_, rfl, rfl, rfl, ?_, ?_, rfl, (List.append_nil _).symm⟩
  · show (⟨_, _, _, _, (received.checkOwner event.owner).operations.channel, _⟩ : Setting) = _
    rw [operations, Operations.channel_reportAll]
    rfl
  · show (received.checkOwner event.owner).operations.inFlight = _
    rw [operations, Operations.inFlight_reportAll]
    rfl
  · show (received.checkOwner event.owner).operations.violations = _
    rw [operations, Operations.violations_reportAll, Event.findings_heartbeat]
    rfl

/-- What becomes of an event is settled by its offsets and by what is still to be refused. -/
theorem outcome_dispatch (dispatcher : Dispatcher Simulated) (event : Event) :
    (dispatcher.dispatch event).2 = event.fate dispatcher.transport.refusals := by
  cases event with
  | message event => exact dispatched_message.1
  | connect event => rfl
  | heartbeat event => rfl

theorem dispatched (dispatcher : Dispatcher Simulated) (event : Event) :
    Dispatched dispatcher event (dispatcher.dispatch event).2 (dispatcher.dispatch event).1 := by
  cases event with
  | message event => exact dispatched_message.2
  | connect event => exact dispatched_connect event
  | heartbeat event => exact dispatched_heartbeat event

end Connect
end Dispatcher
end SessionReplay
