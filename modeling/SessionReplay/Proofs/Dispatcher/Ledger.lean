import SessionReplay.Proofs.Dispatcher.Dispatch

/-! What a simulated transport has taken and refused, in order. An event enters this ledger by its
offsets and by the refusals that are left; completing messages leaves no trace in it. -/
namespace SessionReplay

structure Ledger where
  messages : List FramedMessage
  connects : List ConnectEvent
  /-- How many of the next messages are to be refused. -/
  refusals : Nat
  refused : Nat

/-- The message of an event as it is forwarded, if its offsets are usable. -/
def Event.cutOut? : Event → Option FramedMessage
  | .message event => event.window.toOption.map (FramedMessage.ofEvent event)
  | _ => none

def Event.connect? : Event → Option ConnectEvent
  | .connect event => some event
  | _ => none

namespace Event
variable {event : MessageEvent}

theorem cutOut?_of_ok (framed : event.window = .ok window) :
    (message event).cutOut? = some (.ofEvent event window) := by
  simp only [cutOut?, framed, Except.toOption, Option.map_some]

theorem cutOut?_of_error (unframed : event.window = .error fault) :
    (message event).cutOut? = none := by
  simp only [cutOut?, unframed, Except.toOption, Option.map_none]

end Event

namespace Ledger

def connections (ledger : Ledger) : List ConnectionId :=
  ledger.messages.map FramedMessage.connection

/-- The ledger after some more events. Of the messages that could be cut out the first are
refused, as many as refusals are left, and all later ones are kept. -/
def enter (ledger : Ledger) (events : List Event) : Ledger :=
  let offered := events.filterMap Event.cutOut?
  { messages := ledger.messages ++ offered.drop ledger.refusals
    connects := ledger.connects ++ events.filterMap Event.connect?
    refusals := ledger.refusals - offered.length
    refused := ledger.refused + min ledger.refusals offered.length }

theorem enter_nil (ledger : Ledger) : ledger.enter [] = ledger := by
  simp [enter]

theorem enter_append (ledger : Ledger) (events more : List Event) :
    ledger.enter (events ++ more) = (ledger.enter events).enter more := by
  simp only [enter, List.filterMap_append, List.drop_append, List.length_append,
    List.append_assoc, Nat.sub_sub, mk.injEq, true_and]
  omega

section Message
variable {ledger : Ledger} {event : MessageEvent}

theorem enter_of_error (unframed : event.window = .error fault) :
    ledger.enter [.message event] = ledger := by
  simp [enter, List.filterMap_cons, Event.cutOut?_of_error unframed, Event.connect?]

theorem enter_of_accepting (framed : event.window = .ok window)
    (accepting : ledger.refusals = 0) :
    ledger.enter [.message event] =
      { ledger with messages := ledger.messages ++ [.ofEvent event window] } := by
  simp [enter, List.filterMap_cons, Event.cutOut?_of_ok framed, accepting, Event.connect?]

theorem enter_of_refusing (framed : event.window = .ok window)
    (refusing : ledger.refusals = left + 1) :
    ledger.enter [.message event] =
      { ledger with refusals := left, refused := ledger.refused + 1 } := by
  simp [enter, List.filterMap_cons, Event.cutOut?_of_ok framed, refusing, Event.connect?]

end Message
end Ledger

namespace Simulated

def ledger (transport : Simulated) : Ledger where
  messages := transport.messages.toList
  connects := transport.connects.toList
  refusals := transport.refusals
  refused := transport.refused

theorem ledger_completeNext (transport : Simulated) (operations : Operations) :
    (transport.completeNext operations).1.ledger = transport.ledger := by
  unfold completeNext
  split
  · rfl
  · split <;> rfl

theorem ledger_completeUpTo (limit : Nat) (transport : Simulated) (operations : Operations) :
    (completeUpTo limit transport operations).1.ledger = transport.ledger := by
  induction limit generalizing transport operations with
  | zero => rfl
  | succ limit ih =>
    have first := transport.ledger_completeNext operations
    unfold completeUpTo
    split
    · next next after given =>
      rw [given] at first
      exact first
    · next next after connection given =>
      rw [given] at first
      exact (ih next after).trans first

theorem ledger_completeAll (transport : Simulated) (operations : Operations) :
    (transport.completeAll operations).1.ledger = transport.ledger :=
  ledger_completeUpTo _ transport operations

end Simulated

namespace Dispatcher
variable {dispatcher : Dispatcher Simulated}

theorem ledger_onMessage (event : MessageEvent) :
    (dispatcher.onMessage event).1.transport.ledger =
      dispatcher.transport.ledger.enter [.message event] := by
  cases framed : event.window with
  | error fault =>
    rw [onMessage_of_error framed, Ledger.enter_of_error framed]
    rfl
  | ok window =>
    cases left : dispatcher.transport.refusals with
    | zero =>
      have handing := @forward_of_accepting (dispatcher.opened event) left
        (.ofEvent event window)
      rw [onMessage_of_handed framed handing, Ledger.enter_of_accepting framed left]
      simp only [Simulated.ledger, Array.toList_push]
      rfl
    | succ remaining =>
      have handing := @forward_of_refusing (dispatcher.opened event) remaining left
        (.ofEvent event window)
      rw [onMessage_of_refused framed handing, Ledger.enter_of_refusing framed left]
      rfl

/-- An event is entered by what it is, whatever the dispatcher has open or thinks of its owner. -/
theorem ledger_dispatch (dispatcher : Dispatcher Simulated) (event : Event) :
    (dispatcher.dispatch event).1.transport.ledger = dispatcher.transport.ledger.enter [event] := by
  cases event with
  | message event => exact ledger_onMessage event
  | connect event =>
    show Simulated.ledger (dispatcher.transport.enqueueConnect event) = _
    simp [Simulated.ledger, Simulated.enqueueConnect, Ledger.enter, List.filterMap_cons,
      Event.cutOut?, Event.connect?]
  | heartbeat event =>
    show dispatcher.transport.ledger = _
    simp [Ledger.enter, List.filterMap_cons, Event.cutOut?, Event.connect?]

/-- Of all requests only the one for refusals touches the ledger. -/
theorem ledger_request (dispatcher : Dispatcher Simulated) (request : Request) :
    (dispatcher.request request).1.transport.ledger =
      match request with
      | .refuseNext count => { dispatcher.transport.ledger with refusals := count }
      | _ => dispatcher.transport.ledger := by
  cases request with
  | completeNext => exact dispatcher.transport.ledger_completeNext dispatcher.operations
  | completeAll => exact dispatcher.transport.ledger_completeAll dispatcher.operations
  | completeSpurious => rfl
  | refuseNext count => rfl
  | answer accepts => rfl

end Dispatcher
end SessionReplay
