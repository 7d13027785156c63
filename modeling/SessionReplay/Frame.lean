import SessionReplay.Violation

/-! The window of a log buffer that holds a framed message, from the start of its
header to the end of its content. A window is only made from offsets that lie in
the buffer, and the first offset that does not is named. -/
namespace SessionReplay

/-- A window of a log buffer. The content begins `payloadOffset` bytes after
`headerStart` and ends with the window. -/
structure FrameWindow where
  headerStart : Word
  payloadOffset : Word
  length : Word
  fullLength : Word
  deriving DecidableEq

/-- One past the last byte of the window. -/
def FrameWindow.stop (window : FrameWindow) : Word := window.headerStart + window.fullLength

/-- Why recorded offsets describe no framed message. -/
inductive FrameFault where
  | noRoomForHeader (initialOffset : Word)
  | contentBeforeHeader (offset headerStart : Word)
  | overrun (offset length : Word) (bufferSize : Nat)
  deriving DecidableEq

def FrameFault.message : FrameFault → String
  | noRoomForHeader initialOffset =>
    s!"initial offset {initialOffset} leaves no room for a {messageHeaderLength} byte header"
  | contentBeforeHeader offset headerStart =>
    s!"content offset {offset} precedes header start {headerStart}"
  | overrun offset length bufferSize =>
    s!"content {offset}+{length} overruns buffer of {bufferSize} bytes"

/-- The end of the content, when it lies in the buffer. -/
def MessageEvent.contentStop? (event : MessageEvent) : Option Word :=
  (Word.add? event.offset event.length).filter (·.toNat ≤ event.buffer.length)

/-- The window of a message, or the first of its offsets that is unusable. -/
def MessageEvent.window (event : MessageEvent) : Except FrameFault FrameWindow :=
  match Word.sub? event.initialOffset messageHeaderLength with
  | none => .error (.noRoomForHeader event.initialOffset)
  | some headerStart =>
    match Word.sub? event.offset headerStart with
    | none => .error (.contentBeforeHeader event.offset headerStart)
    | some payloadOffset =>
      match event.contentStop? with
      | none => .error (.overrun event.offset event.length event.buffer.length)
      | some stop => .ok ⟨headerStart, payloadOffset, event.length, stop - headerStart⟩

def MessageEvent.window? (event : MessageEvent) : Except Violation FrameWindow :=
  event.window.mapError fun fault => .malformedFrame event.connection fault.message

/-- A message cut out of its log buffer, ready to be forwarded. -/
structure FramedMessage where
  connection : ConnectionId
  buffer : Bytes
  headerStart : Word
  payloadOffset : Word
  length : Word
  isResend : Bool
  deriving DecidableEq

namespace FramedMessage

def ofEvent (event : MessageEvent) (window : FrameWindow) : FramedMessage where
  connection := event.connection
  buffer := event.buffer
  headerStart := window.headerStart
  payloadOffset := window.payloadOffset
  length := window.length
  isResend := event.isResendRequest

/-- Everything from the header to the end of the content. -/
def framed (message : FramedMessage) : Bytes :=
  (message.buffer.drop message.headerStart.toNat).take
    (message.payloadOffset.toNat + message.length.toNat)

def content (message : FramedMessage) : Bytes :=
  (message.buffer.drop (message.headerStart.toNat + message.payloadOffset.toNat)).take
    message.length.toNat

end FramedMessage
end SessionReplay
