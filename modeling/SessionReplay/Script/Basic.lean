import SessionReplay.Script.Wire

/-! A script under construction. Events are recorded in order at the capture time,
which only moves forward; only heartbeats may be stamped behind it. -/
namespace SessionReplay

structure Script where
  /-- The capture time. -/
  time : Word := 0
  nextConnection : ConnectionId := 1
  /-- Bytes of earlier fragments before each message. -/
  padding : Nat := 0
  /-- What was recorded since the last drain. -/
  events : Array Event := #[]
  deriving DecidableEq

namespace Script

def record (script : Script) (event : Event) : Script :=
  { script with events := script.events.push event }

/-- Moves the capture time forward, at most to the last moment there is. -/
def advance (script : Script) (nanos : Word) : Script :=
  { script with time := Word.addCapped script.time nanos }

def address (connection : ConnectionId) : String :=
  s!"10.0.0.{connection % 250 + 1}:9880"

/-- Records an inbound connection under the next free id. -/
def connect (script : Script) (owner : OwnerId) : Script × ConnectionId :=
  let connection := script.nextConnection
  let event : ConnectEvent :=
    { timestamp := script.time
      owner
      connection
      address := address connection
      payload := Wire.utf8 s!"connect-{connection}" }
  ({ script.record (.connect event) with nextConnection := connection + 1 }, connection)

def framed (script : Script) (owner : OwnerId) (connection : ConnectionId)
    (messageType : UInt8) (content : Bytes) : MessageEvent :=
  let initialOffset := UInt64.ofNat script.padding + messageHeaderLength
  { timestamp := script.time
    owner
    connection
    messageType := messageType.toUInt64
    buffer := Wire.buffer script.padding connection script.time content
    initialOffset
    offset := initialOffset + UInt64.ofNat Wire.fixedBlockLength
    length := UInt64.ofNat content.length }

def message (script : Script) (owner : OwnerId) (connection : ConnectionId)
    (messageType : UInt8) (fields : String) : Script :=
  script.record (.message
    (script.framed owner connection messageType (Wire.content messageType fields)))

def resendRequest (script : Script) (owner : OwnerId) (connection : ConnectionId)
    (first last : Word) : Script :=
  script.message owner connection resendRequestType.toUInt8 (Wire.resendBounds first last)

/-- Records a message whose offsets leave no room for its header. -/
def malformed (script : Script) (owner : OwnerId) (connection : ConnectionId) : Script :=
  let messageType : UInt8 := 0x30
  let content := Wire.content messageType ""
  script.record (.message
    { timestamp := script.time
      owner
      connection
      messageType := messageType.toUInt64
      buffer := content
      initialOffset := messageHeaderLength / 2
      offset := 0
      length := UInt64.ofNat content.length })

/-- Records a heartbeat stamped `staleBy` before the capture time, but not before
the beginning of time. -/
def heartbeat (script : Script) (owner : OwnerId) (staleBy : Word) : Script :=
  script.record (.heartbeat ⟨Word.subFloored script.time staleBy, owner⟩)

/-- Takes what was recorded; the capture time and the numbering go on. -/
def drain (script : Script) : Script × List Event :=
  ({ script with events := #[] }, script.events.toList)

/-- The events recorded since the last drain. -/
def build (script : Script) : List Event := script.events.toList

end Script
end SessionReplay
