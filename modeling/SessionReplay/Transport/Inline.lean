import SessionReplay.Transport

/-! A transport that finishes its work within the call. It keeps every message and
connect, refused messages included, and gives every message the same answer. -/
namespace SessionReplay

structure Inline where
  /-- The answer to the next messages. -/
  accepts : Bool := true
  /-- Is a message completed before the call returns? -/
  completesMessages : Bool := false
  /-- Is a connect completed before the call returns? -/
  completesConnects : Bool := false
  messages : Array FramedMessage := #[]
  connects : Array ConnectEvent := #[]
  /-- Whether an operation was open at each call, in order. -/
  openAtCall : Array Bool := #[]
  registrations : Nat := 0
  deriving DecidableEq

namespace Inline

def enqueueMessage (transport : Inline) (operations : Operations) (message : FramedMessage) :
    Inline × Operations × Bool :=
  ({ transport with
      messages := transport.messages.push message
      openAtCall := transport.openAtCall.push operations.inFlight },
    if transport.completesMessages then operations.finish else operations,
    transport.accepts)

def enqueueConnect (transport : Inline) (operations : Operations) (event : ConnectEvent) :
    Inline × Operations :=
  ({ transport with
      connects := transport.connects.push event
      openAtCall := transport.openAtCall.push operations.inFlight },
    if transport.completesConnects then operations.finish else operations)

def request (transport : Inline) (operations : Operations) :
    Request → Inline × Operations × RequestAnswer
  | .answer accepts => ({ transport with accepts }, operations, .done)
  | _ => (transport, operations, .done)

instance : Transport Inline where
  register transport := { transport with registrations := transport.registrations + 1 }
  enqueueMessage := enqueueMessage
  enqueueConnect := enqueueConnect
  request := request
  messages := messages
  connects := connects

end Inline
end SessionReplay
