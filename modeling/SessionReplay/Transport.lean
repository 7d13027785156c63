import SessionReplay.Frame
import SessionReplay.Operations

/-! Where replayed traffic goes. A transport takes framed messages and connects in
place of a real network. It may refuse a message, and it decides when one that it
accepted has been handled, which it signals by completing the open operation. -/
namespace SessionReplay

/-- What somebody outside the dispatcher can ask of a transport. A transport ignores
requests that are not for its kind. -/
inductive Request where
  | completeNext
  | completeAll
  /-- Signal a completion with no message behind it. -/
  | completeSpurious
  | refuseNext (count : Nat)
  /-- Give this answer to every message from now on. -/
  | answer (accepts : Bool)
  deriving DecidableEq

inductive RequestAnswer where
  | done
  | completed (connection : Option ConnectionId)
  | completedCount (count : Nat)
  deriving DecidableEq

/-- Downstream consumers of replayed traffic. Each call hands over the operations,
so that the transport can signal completions within the call. -/
class Transport (τ : Type) where
  /-- Receives the means to signal completions. -/
  register : τ → τ
  /-- Takes a message; the answer says whether it was accepted. -/
  enqueueMessage : τ → Operations → FramedMessage → τ × Operations × Bool
  /-- Takes a connect, which cannot be refused. -/
  enqueueConnect : τ → Operations → ConnectEvent → τ × Operations
  request : τ → Operations → Request → τ × Operations × RequestAnswer
  /-- The messages kept so far, in order. -/
  messages : τ → Array FramedMessage
  /-- The connects kept so far, in order. -/
  connects : τ → Array ConnectEvent

end SessionReplay
