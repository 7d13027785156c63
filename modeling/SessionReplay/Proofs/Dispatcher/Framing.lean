import SessionReplay.Proofs.Dispatcher.Dispatch
import SessionReplay.Proofs.Frame.Bounds

/-! What a message comes to by its offsets alone, whatever transport it is for. Where they are
usable, the transport is handed a window of the buffer; where they are not, the first fault is
reported and the message is let go. The header of a window that is handed on need not come before
the content, nor lie in the buffer. -/
namespace SessionReplay

namespace Dispatcher
variable {τ : Type}

/-- A message that is let go: the transport has seen nothing of it, its operation is open, and the
violation is the last of those that were reported about it. -/
structure LetGo (before : Dispatcher τ) (event : MessageEvent) (violation : Violation)
    (after : Dispatcher τ) : Prop where
  transport : after.transport = before.transport
  inFlight : after.inFlight = true
  trail : after.trail = (before.opened event).trail.report violation
  violations : after.violations = before.violations ++ before.channel.kept
    (before.owners.findings event.owner ++
      (Event.message event).overlapFindings before.inFlight ++ [violation])

theorem letGo_report (dispatcher : Dispatcher τ) (event : MessageEvent) (violation : Violation) :
    dispatcher.LetGo event violation ((dispatcher.opened event).report violation) := by
  constructor
  · rfl
  · rfl
  · rfl
  · rw [violations_report, violations_opened, channel_opened, List.append_assoc,
      ← ErrorChannel.kept_append]

section Offsets
variable [Transport τ] {dispatcher : Dispatcher τ} {event : MessageEvent} {window : FrameWindow}
  {fault : FrameFault}

theorem letGo_of_error (unframed : event.window = .error fault) :
    (dispatcher.onMessage event).2 = .dropped ∧
      dispatcher.LetGo event (.malformedFrame event.connection fault.message)
        (dispatcher.onMessage event).1 := by
  rw [onMessage_of_error unframed]
  exact ⟨rfl, letGo_report dispatcher event _⟩

/-- The transport is handed the message once, whether it takes it or not. -/
theorem handed_of_ok (framed : event.window = .ok window) :
    (dispatcher.onMessage event).2 ≠ .dropped ∧
      (dispatcher.onMessage event).1.transport =
        (Transport.enqueueMessage dispatcher.transport (dispatcher.opened event).operations
          (.ofEvent event window)).1 := by
  rcases handing : (dispatcher.opened event).forward (.ofEvent event window) with ⟨handed, taken⟩
  have transport := congrArg (fun result => result.1.transport) handing
  cases taken with
  | true =>
    rw [onMessage_of_handed framed handing]
    exact ⟨nofun, transport.symm⟩
  | false =>
    rw [onMessage_of_refused framed handing]
    exact ⟨nofun, transport.symm⟩

/-- What is not let go as malformed is handed to the transport, and then its header is in place if
and only if the content does not begin before the end of the header. -/
theorem handed_headerApart_iff (dispatcher : Dispatcher τ) (event : MessageEvent) :
    ((dispatcher.onMessage event).2 = .dropped → ∃ reason,
        dispatcher.LetGo event (.malformedFrame event.connection reason)
          (dispatcher.onMessage event).1) ∧
      ((dispatcher.onMessage event).2 ≠ .dropped → ∃ window, event.window? = .ok window ∧
        (dispatcher.onMessage event).1.transport =
          (Transport.enqueueMessage dispatcher.transport (dispatcher.opened event).operations
            (.ofEvent event window)).1 ∧
        ((FramedMessage.ofEvent event window).HeaderApart ↔
          event.initialOffset.toNat ≤ event.offset.toNat)) := by
  cases framed : event.window with
  | error fault =>
    obtain ⟨dropped, letGo⟩ := @letGo_of_error τ _ dispatcher event fault framed
    exact ⟨fun _ => ⟨fault.message, letGo⟩, fun handed => absurd dropped handed⟩
  | ok window =>
    obtain ⟨kept, transport⟩ := @handed_of_ok τ _ dispatcher event window framed
    have covers := MessageEvent.covers_of_window framed
    exact ⟨fun dropped => absurd dropped kept,
      fun _ => ⟨window, window?_of_ok framed, transport, covers.headerApart_iff⟩⟩

/-- Content at the third byte of its own header is forwarded without a word, although not even the
header lies in the buffer. -/
theorem forwarded_without_header :
    let event : MessageEvent :=
      { timestamp := 1, owner := 0, connection := 5, messageType := 0x44,
        buffer := [1, 2, 3, 4, 5], initialOffset := 8, offset := 2, length := 3 }
    let fresh : Dispatcher Simulated := .new {} .collecting {}
    let after := (fresh.onMessage event).1
    (fresh.onMessage event).2 = .forwarded ∧ after.violations = [] ∧
      ∃ message, after.transport.messages = #[message] ∧
        message.framed.length < messageHeaderLength.toNat ∧
        message.payloadOffset < messageHeaderLength ∧
        event.buffer.length < message.headerStart.toNat + messageHeaderLength.toNat ∧
        ¬message.HeaderApart := by
  intro event fresh after
  refine ⟨by decide, by decide, .ofEvent event ⟨0, 2, 3, 5⟩, by decide, by decide, by decide,
    by decide, ?_⟩
  intro apart
  exact absurd apart.apart (by decide)

end Offsets
end Dispatcher
end SessionReplay
