import SessionReplay.Word

/-! Recorded events. The kinds are closed: only messages, connects and heartbeats
matter for driving a session again. -/
namespace SessionReplay

abbrev ConnectionId := Word
abbrev OwnerId := UInt32
abbrev Bytes := List UInt8

/-- The engine itself, an owner that is always known. -/
def engineOwner : OwnerId := 0

/-- Block length, template, schema and version, two bytes each, before every
recorded message body. -/
def messageHeaderLength : Word := 8

/-- The packed type of a session-level resend request, the character `2`. -/
def resendRequestType : Word := 0x32

/-- A recorded message and where it lies in its log buffer: the body begins at
`initialOffset`, just after the fixed header, and the decoded content at `offset`. -/
structure MessageEvent where
  timestamp : Word
  owner : OwnerId
  connection : ConnectionId
  messageType : Word
  buffer : Bytes
  initialOffset : Word
  offset : Word
  length : Word
  deriving DecidableEq, Inhabited

/-- A recorded connection. The payload is the encoded record, forwarded as it is. -/
structure ConnectEvent where
  timestamp : Word
  owner : OwnerId
  connection : ConnectionId
  address : String
  payload : Bytes
  deriving DecidableEq, Inhabited

/-- An owner's sign of life, stamped when it was sent. -/
structure Heartbeat where
  timestamp : Word
  owner : OwnerId
  deriving DecidableEq, Inhabited

inductive Event where
  | message (event : MessageEvent)
  | connect (event : ConnectEvent)
  | heartbeat (event : Heartbeat)
  deriving DecidableEq

inductive EventKind where
  | message
  | connect
  | heartbeat
  deriving DecidableEq

def MessageEvent.isResendRequest (event : MessageEvent) : Bool :=
  event.messageType == resendRequestType

namespace Event

def timestamp : Event → Word
  | message event => event.timestamp
  | connect event => event.timestamp
  | heartbeat event => event.timestamp

def owner : Event → OwnerId
  | message event => event.owner
  | connect event => event.owner
  | heartbeat event => event.owner

def kind : Event → EventKind
  | message _ => .message
  | connect _ => .connect
  | heartbeat _ => .heartbeat

/-- Messages and connects open an operation that must be completed later. -/
def opensOperation : Event → Bool
  | message _ | connect _ => true
  | heartbeat _ => false

end Event
end SessionReplay
