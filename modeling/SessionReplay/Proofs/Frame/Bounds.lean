import SessionReplay.Proofs.Frame.Window

/-! Which offsets are usable, in unbounded numbers and without any of the checks, and what is
wrong first with those that are not. Where a window exists, every sum and difference of words that
is taken from it afterwards stays in range, and both slices lie in the buffer. -/
namespace SessionReplay

namespace FramedMessage

def contentStart? (message : FramedMessage) : Option Word :=
  Word.add? message.headerStart message.payloadOffset

def contentStop? (message : FramedMessage) : Option Word := do
  let start ← message.contentStart?
  Word.add? start message.length

/-- The whole header lies in the buffer and in what is forwarded, as its first bytes, and the
content comes after it. -/
structure HeaderApart (message : FramedMessage) : Prop where
  inBuffer : message.headerStart.toNat + messageHeaderLength.toNat ≤ message.buffer.length
  inFramed : messageHeaderLength.toNat ≤ message.framed.length
  first : message.framed.take messageHeaderLength.toNat = message.buffer.extract
    message.headerStart.toNat (message.headerStart.toNat + messageHeaderLength.toNat)
  apart : messageHeaderLength.toNat ≤ message.payloadOffset.toNat

theorem headerApart_iff {message : FramedMessage}
    (inside : message.headerStart.toNat + (message.payloadOffset.toNat + message.length.toNat) ≤
      message.buffer.length) :
    message.HeaderApart ↔ messageHeaderLength.toNat ≤ message.payloadOffset.toNat := by
  constructor
  · exact HeaderApart.apart
  · intro apart
    have room : messageHeaderLength.toNat ≤
        message.payloadOffset.toNat + message.length.toNat := Nat.le_add_right_of_le apart
    constructor
    · omega
    · rw [framed, List.length_take, List.length_drop]
      omega
    · rw [framed, List.take_take, Nat.min_eq_left room, List.extract_eq_take_drop,
        Nat.add_sub_cancel_left]
    · exact apart

end FramedMessage

namespace MessageEvent

section Faults
variable {event : MessageEvent} {window : FrameWindow} {fault : FrameFault}

end Faults
end MessageEvent

namespace FrameWindow.Covers
variable {window : FrameWindow} {event : MessageEvent} (covers : window.Covers event)
include covers

/-- That the content begins after the header is not looked at when the window is made. -/
theorem headerApart_iff :
    (FramedMessage.ofEvent event window).HeaderApart ↔
      event.initialOffset.toNat ≤ event.offset.toNat := by
  have stop := covers.stop_toNat
  obtain ⟨header, payload, length, -, -, within⟩ := covers
  have inside : window.headerStart.toNat + (window.payloadOffset.toNat + window.length.toNat) ≤
      event.buffer.length := by
    rw [length]
    omega
  refine (FramedMessage.headerApart_iff inside).trans ?_
  constructor
  · intro (apart : messageHeaderLength.toNat ≤ window.payloadOffset.toNat)
    omega
  · intro order
    apply Nat.le_of_add_le_add_left
    rw [header]
    exact Nat.le_trans order (Nat.le_of_eq payload.symm)

end FrameWindow.Covers
end SessionReplay
