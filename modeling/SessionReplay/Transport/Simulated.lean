import SessionReplay.Queue
import SessionReplay.Transport

/-! A transport in memory. It records everything that it is given and completes
accepted messages when it is told to, the oldest first. -/
namespace SessionReplay

structure Simulated where
  messages : Array FramedMessage := #[]
  connects : Array ConnectEvent := #[]
  /-- Accepted messages that are not yet completed, the oldest first. -/
  awaiting : Queue ConnectionId := .empty
  /-- How many of the next messages are to be refused. -/
  refusals : Nat := 0
  /-- How many messages were refused so far. -/
  refused : Nat := 0
  /-- Completions can be signalled. -/
  registered : Bool := false
  deriving DecidableEq

namespace Simulated

def enqueueMessage (transport : Simulated) (operations : Operations) (message : FramedMessage) :
    Simulated × Operations × Bool :=
  match transport.refusals with
  | refusals + 1 =>
    ({ transport with refusals, refused := transport.refused + 1 },
      operations.note (.transportRefusing message.connection), false)
  | 0 =>
    ({ transport with
        awaiting := transport.awaiting.push message.connection
        messages := transport.messages.push message }, operations, true)

def enqueueConnect (transport : Simulated) (event : ConnectEvent) : Simulated :=
  { transport with connects := transport.connects.push event }

/-- Refuses as many of the next messages, whatever was left of an earlier request. -/
def refuseNext (transport : Simulated) (count : Nat) : Simulated :=
  { transport with refusals := count }

/-- Completes the oldest accepted message and names its connection. A transport
that was never registered cannot signal: the message is forgotten and nothing is
named. -/
def completeNext (transport : Simulated) (operations : Operations) :
    Simulated × Operations × Option ConnectionId :=
  match transport.awaiting.pop? with
  | none => (transport, operations, none)
  | some (connection, awaiting) =>
    if transport.registered then
      ({ transport with awaiting }, operations.finish, some connection)
    else ({ transport with awaiting }, operations, none)

/-- Completes messages until none can be named, at most `limit` of them, and counts
them. -/
def completeUpTo : Nat → Simulated → Operations → Simulated × Operations × Nat
  | 0, transport, operations => (transport, operations, 0)
  | limit + 1, transport, operations =>
    match transport.completeNext operations with
    | (next, after, none) => (next, after, 0)
    | (next, after, some _) =>
      let (final, last, count) := completeUpTo limit next after
      (final, last, count + 1)

/-- Completes messages until none can be named, and counts them. Each completion
shortens the queue, so there are no more of them than messages waiting. -/
def completeAll (transport : Simulated) (operations : Operations) :
    Simulated × Operations × Nat :=
  completeUpTo transport.awaiting.size transport operations

/-- Signals a completion with no message behind it. -/
def completeSpurious (transport : Simulated) (operations : Operations) : Operations :=
  if transport.registered then operations.finish else operations

def request (transport : Simulated) (operations : Operations) :
    Request → Simulated × Operations × RequestAnswer
  | .completeNext =>
    let (transport, operations, connection) := transport.completeNext operations
    (transport, operations, .completed connection)
  | .completeAll =>
    let (transport, operations, count) := transport.completeAll operations
    (transport, operations, .completedCount count)
  | .completeSpurious => (transport, transport.completeSpurious operations, .done)
  | .refuseNext count => (transport.refuseNext count, operations, .done)
  | .answer _ => (transport, operations, .done)

instance : Transport Simulated where
  register transport := { transport with registered := true }
  enqueueMessage := enqueueMessage
  enqueueConnect transport operations event := (transport.enqueueConnect event, operations)
  request := request
  messages := messages
  connects := connects

end Simulated
end SessionReplay
