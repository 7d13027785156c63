import SessionReplay.Clock
import SessionReplay.Config
import SessionReplay.Owner.Roster
import SessionReplay.Transport

/-! The dispatcher drives recorded events through a transport again, in recorded
order. It counts each event, moves the clock to its stamp, checks its owner, opens an
operation and forwards it. What breaks a contract is reported and the replay goes on:
an event that is refused or dropped leaves its operation open. -/
namespace SessionReplay

inductive Outcome where
  /-- The transport took it. -/
  | forwarded
  /-- The transport refused it. -/
  | refused
  /-- Its offsets were unusable and nothing was forwarded. -/
  | dropped
  /-- It only moved the clock and had its owner checked. -/
  | observed
  deriving DecidableEq

structure Dispatcher (τ : Type) where
  transport : τ
  clock : Clock
  operations : Operations
  owners : Owners := {}
  /-- The id of the last connect, until it is taken. -/
  pending : Option ConnectionId := none
  /-- Events dispatched since the last reset. -/
  count : Nat := 0
  /-- Who is told when a count exceeds its limit. -/
  observer : Option String := none
  /-- What observers were told, in order. -/
  observed : Array (String × Nat) := #[]
  config : Config

namespace Dispatcher
variable {τ : Type}

/-- The count of dispatched events goes no higher. -/
def countCap : Nat := UInt32.size - 1

def note (dispatcher : Dispatcher τ) (record : LogRecord) : Dispatcher τ :=
  { dispatcher with operations := dispatcher.operations.note record }

def report (dispatcher : Dispatcher τ) (violation : Violation) : Dispatcher τ :=
  { dispatcher with operations := dispatcher.operations.report violation }

def start (dispatcher : Dispatcher τ) : Dispatcher τ :=
  { dispatcher with operations := dispatcher.operations.start }

def finish (dispatcher : Dispatcher τ) : Dispatcher τ :=
  { dispatcher with operations := dispatcher.operations.finish }

/-- A dispatcher that goes on with a clock which is in use already. -/
def withClock [Transport τ] (transport : τ) (clock : Clock) (channel : ErrorChannel)
    (config : Config) : Dispatcher τ where
  transport := Transport.register transport
  clock := clock
  operations := .idle channel
  config := config

/-- A dispatcher whose clock starts at the configured time. -/
def new [Transport τ] (transport : τ) (channel : ErrorChannel) (config : Config) :
    Dispatcher τ :=
  withClock transport ⟨config.initialTime⟩ channel config

def now (dispatcher : Dispatcher τ) : Word := dispatcher.clock.now

def inFlight (dispatcher : Dispatcher τ) : Bool := dispatcher.operations.inFlight

def trail (dispatcher : Dispatcher τ) : Trail := dispatcher.operations.trail

def advance (dispatcher : Dispatcher τ) (stamp : Word) : Dispatcher τ :=
  { dispatcher with
    clock := dispatcher.clock.advance stamp
    operations := dispatcher.operations.note (.clockAdvanced dispatcher.now stamp) }

/-- What every event begins with: it is counted, logged and moves the clock. -/
def receive (dispatcher : Dispatcher τ) (record : LogRecord) (stamp : Word) : Dispatcher τ :=
  ({ dispatcher with count := min (dispatcher.count + 1) countCap }.note record).advance stamp

/-- Reports an owner that is not live. -/
def checkOwner (dispatcher : Dispatcher τ) (owner : OwnerId) : Dispatcher τ :=
  { dispatcher with
    operations := match dispatcher.owners.objection? owner with
      | none => dispatcher.operations
      | some violation => dispatcher.operations.report violation }

def forward [Transport τ] (dispatcher : Dispatcher τ) (message : FramedMessage) :
    Dispatcher τ × Bool :=
  let (transport, operations, accepted) :=
    Transport.enqueueMessage dispatcher.transport dispatcher.operations message
  ({ dispatcher with transport, operations }, accepted)

def forwardConnect [Transport τ] (dispatcher : Dispatcher τ) (event : ConnectEvent) :
    Dispatcher τ :=
  let (transport, operations) :=
    Transport.enqueueConnect dispatcher.transport dispatcher.operations event
  { dispatcher with transport, operations }

/-- Keeps the id of a connect until it is taken, in place of one that never was. -/
def expect (dispatcher : Dispatcher τ) (connection : ConnectionId) : Dispatcher τ :=
  { dispatcher with
    pending := some connection
    operations := match dispatcher.pending with
      | none => dispatcher.operations
      | some unread => dispatcher.operations.note (.connectionOverwritten unread connection) }

def onMessage [Transport τ] (dispatcher : Dispatcher τ) (event : MessageEvent) :
    Dispatcher τ × Outcome :=
  let opened := ((dispatcher.receive (.messageReceived event) event.timestamp).checkOwner
    event.owner).start
  match event.window? with
  | .error violation => (opened.report violation, .dropped)
  | .ok window =>
    let (handed, accepted) := opened.forward (.ofEvent event window)
    if accepted then (handed, .forwarded)
    else
      ((handed.note (.refusedDownstream event.connection window)).report
        (.messageRefused event.connection), .refused)

/-- The operation of a connect stays open until the connection id is taken. -/
def onConnect [Transport τ] (dispatcher : Dispatcher τ) (event : ConnectEvent) :
    Dispatcher τ × Outcome :=
  let opened := (dispatcher.receive (.connectReceived event) event.timestamp).start
  ((opened.expect event.connection).forwardConnect event, .forwarded)

def onHeartbeat (dispatcher : Dispatcher τ) (event : Heartbeat) : Dispatcher τ × Outcome :=
  ((dispatcher.receive (.heartbeatReceived event) event.timestamp).checkOwner event.owner,
    .observed)

def dispatch [Transport τ] (dispatcher : Dispatcher τ) : Event → Dispatcher τ × Outcome
  | .message event => dispatcher.onMessage event
  | .connect event => dispatcher.onConnect event
  | .heartbeat event => dispatcher.onHeartbeat event

def dispatchAll [Transport τ] (dispatcher : Dispatcher τ) :
    List Event → Dispatcher τ × List Outcome
  | [] => (dispatcher, [])
  | event :: rest =>
    let (next, outcome) := dispatcher.dispatch event
    let (last, outcomes) := next.dispatchAll rest
    (last, outcome :: outcomes)

/-- Takes the id of the last connect and completes its operation. It is misuse to
ask when there is none. -/
def takeConnection (dispatcher : Dispatcher τ) :
    Dispatcher τ × Except Violation ConnectionId :=
  match dispatcher.pending with
  | none => (dispatcher.report .noConnectPending, .error .noConnectPending)
  | some connection => ({ dispatcher with pending := none }.finish, .ok connection)

def resetCount (dispatcher : Dispatcher τ) : Dispatcher τ := { dispatcher with count := 0 }

/-- Tells the observer when more than `limit` events were dispatched since the last
reset, and answers whether there were. Nothing is held back. -/
def checkCount (dispatcher : Dispatcher τ) (limit : Nat) : Dispatcher τ × Bool :=
  if dispatcher.count ≤ limit then (dispatcher, false)
  else
    ({ dispatcher with
        operations := dispatcher.operations.note (.limitExceeded dispatcher.count limit)
        observed := match dispatcher.observer with
          | none => dispatcher.observed
          | some name => dispatcher.observed.push (name, dispatcher.count) }, true)

def checkConfiguredLimit (dispatcher : Dispatcher τ) : Dispatcher τ × Bool :=
  dispatcher.checkCount dispatcher.config.fragmentLimit.toNat

def setObserver (dispatcher : Dispatcher τ) (observer : Option String) : Dispatcher τ :=
  { dispatcher with observer }

/-- Puts other owners in place, with the registry that is installed among them. -/
def installOwners (dispatcher : Dispatcher τ) (owners : Owners) : Dispatcher τ :=
  { dispatcher.note (.registryInstalled owners.liveIds) with owners }

def installRoster (dispatcher : Dispatcher τ) (roster : Roster) : Dispatcher τ :=
  dispatcher.installOwners (dispatcher.owners.installRoster roster)

def request [Transport τ] (dispatcher : Dispatcher τ) (request : Request) :
    Dispatcher τ × RequestAnswer :=
  let (transport, operations, answer) :=
    Transport.request dispatcher.transport dispatcher.operations request
  ({ dispatcher with transport, operations }, answer)

end Dispatcher
end SessionReplay
