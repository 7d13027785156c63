import SessionReplay.Frame
import SessionReplay.Violation

/-! The log of a replay: one record per noteworthy step, with a level, a message
and named fields. A record holds what happened; its text is made when it is read. -/
namespace SessionReplay

inductive Level where
  | error
  | warn
  | info
  | debug
  | trace
  deriving DecidableEq

namespace Level

/-- Zero for the most severe level. -/
def rank : Level → Nat
  | error => 0
  | warn => 1
  | info => 2
  | debug => 3
  | trace => 4

/-- A log kept at `threshold` holds records of that level and of severer ones. -/
def admits (threshold level : Level) : Bool := level.rank ≤ threshold.rank

def label : Level → String
  | error => "ERROR"
  | warn => "WARN"
  | info => "INFO"
  | debug => "DEBUG"
  | trace => "TRACE"

end Level

inductive LogRecord where
  | clockAdvanced (old stamp : Word)
  | operationStarted (wasOpen : Bool)
  | operationEnded (wasOpen : Bool)
  | registryInstalled (owners : List OwnerId)
  | messageReceived (event : MessageEvent)
  | connectReceived (event : ConnectEvent)
  | heartbeatReceived (event : Heartbeat)
  | connectionOverwritten (unread connection : ConnectionId)
  | refusedDownstream (connection : ConnectionId) (window : FrameWindow)
  | limitExceeded (count limit : Nat)
  | violationLogged (violation : Violation)
  | violationRecorded (violation : Violation)
  | transportRefusing (connection : ConnectionId)
  | flushSkipped (awaiting : Nat)
  | drained (completed : Nat)
  deriving DecidableEq

namespace LogRecord

def level : LogRecord → Level
  | clockAdvanced .. => .trace
  | violationLogged _ => .error
  | violationRecorded _ | connectionOverwritten .. => .warn
  | operationStarted _ | operationEnded _ | registryInstalled _ | messageReceived _
  | connectReceived _ | heartbeatReceived _ | refusedDownstream .. | limitExceeded ..
  | transportRefusing _ | flushSkipped _ | drained _ => .debug

def message : LogRecord → String
  | clockAdvanced .. => "Clock.advance"
  | operationStarted _ => "startOperation"
  | operationEnded _ => "endOperation"
  | registryInstalled _ => "Owner registry installed"
  | messageReceived _ => "onMessage"
  | connectReceived _ => "onConnect"
  | heartbeatReceived _ => "onApplicationHeartbeat"
  | connectionOverwritten .. => "Overwriting connection id that was never taken"
  | refusedDownstream .. => "Downstream transport rejected replayed message"
  | limitExceeded .. => "Dispatch count exceeded fragment limit"
  | violationLogged violation => violation.message
  | violationRecorded _ => "Violation recorded"
  | transportRefusing _ => "SimTransport refusing message"
  | flushSkipped _ => "Consumer lagging; completion flush skipped"
  | drained _ => "Replay drained"

def fields : LogRecord → List (String × String)
  | clockAdvanced old stamp =>
    [("old", toString old), ("new", toString stamp), ("back", toString (decide (stamp < old)))]
  | operationStarted wasOpen => [("was_in_progress", toString wasOpen)]
  | operationEnded wasOpen => [("was_in_progress", toString wasOpen)]
  | registryInstalled owners => [("owners", ownerList owners)]
  | messageReceived event =>
    [("connection_id", toString event.connection), ("owner_id", toString event.owner),
      ("timestamp", toString event.timestamp), ("message_type", toString event.messageType),
      ("offset", toString event.offset), ("length", toString event.length)]
  | connectReceived event =>
    [("connection_id", toString event.connection), ("owner_id", toString event.owner),
      ("timestamp", toString event.timestamp), ("address", event.address)]
  | heartbeatReceived event =>
    [("owner_id", toString event.owner), ("timestamp", toString event.timestamp)]
  | connectionOverwritten unread connection =>
    [("unread", toString unread), ("connection_id", toString connection)]
  | refusedDownstream connection window =>
    [("connection_id", toString connection), ("header_start", toString window.headerStart),
      ("full_length", toString window.fullLength)]
  | limitExceeded count limit => [("count", toString count), ("limit", toString limit)]
  | violationLogged violation => [("kind", violation.kind.label)]
  | violationRecorded violation =>
    [("error", violation.message), ("kind", violation.kind.label)]
  | transportRefusing connection => [("connection_id", toString connection)]
  | flushSkipped awaiting => [("awaiting", toString awaiting)]
  | drained completed => [("drained", toString completed)]

end LogRecord
end SessionReplay
