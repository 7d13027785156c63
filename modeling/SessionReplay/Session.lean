import SessionReplay.Dispatcher
import SessionReplay.Script.Step

/-! A session with one dispatcher: everything that can be done to the dispatcher, to
its transport, to the clock and the registry it shares with others, and to a script
whose events are dispatched as they are written. -/
namespace SessionReplay

inductive Action where
  | dispatch (event : Event)
  /-- Performs a step of the script and dispatches what it recorded. -/
  | write (step : ScriptStep)
  | request (request : Request)
  | takeConnection
  | resetCount
  | checkCount (limit : Nat)
  | checkConfiguredLimit
  | setObserver (observer : Option String)
  | installRoster (roster : Roster)
  /-- Registers an owner in the latest shared table. -/
  | registerShared (owner : OwnerId)
  /-- Removes an owner from the latest shared table. -/
  | unregisterShared (owner : OwnerId)
  /-- Moves the clock forward from outside the dispatcher. -/
  | advanceClock (stamp : Word)
  | readConfig

inductive Answer where
  | nothing
  | outcome (outcome : Outcome)
  | outcomes (outcomes : List Outcome)
  | request (answer : RequestAnswer)
  | taken (connection : Except Violation ConnectionId)
  | flag (value : Bool)
  | time (before : Word)
  | config (config : Config)

structure Session (τ : Type) where
  dispatcher : Dispatcher τ
  script : Script := {}

namespace Session
variable {τ : Type}

@[inline] def withDispatcher (session : Session τ) (dispatcher : Dispatcher τ) : Session τ :=
  { session with dispatcher }

def perform [Transport τ] (session : Session τ) : Action → Session τ × Answer
  | .dispatch event =>
    let (dispatcher, outcome) := session.dispatcher.dispatch event
    (session.withDispatcher dispatcher, .outcome outcome)
  | .write step =>
    let (script, events) := (step.perform session.script).1.drain
    let (dispatcher, outcomes) := session.dispatcher.dispatchAll events
    ({ dispatcher, script }, .outcomes outcomes)
  | .request request =>
    let (dispatcher, answer) := session.dispatcher.request request
    (session.withDispatcher dispatcher, .request answer)
  | .takeConnection =>
    let (dispatcher, taken) := session.dispatcher.takeConnection
    (session.withDispatcher dispatcher, .taken taken)
  | .resetCount => (session.withDispatcher session.dispatcher.resetCount, .nothing)
  | .checkCount limit =>
    let (dispatcher, exceeded) := session.dispatcher.checkCount limit
    (session.withDispatcher dispatcher, .flag exceeded)
  | .checkConfiguredLimit =>
    let (dispatcher, exceeded) := session.dispatcher.checkConfiguredLimit
    (session.withDispatcher dispatcher, .flag exceeded)
  | .setObserver observer =>
    (session.withDispatcher (session.dispatcher.setObserver observer), .nothing)
  | .installRoster roster =>
    (session.withDispatcher (session.dispatcher.installRoster roster), .nothing)
  | .registerShared owner =>
    let (owners, done) := session.dispatcher.owners.registerShared (.bare owner)
    (session.withDispatcher { session.dispatcher with owners }, .flag done)
  | .unregisterShared owner =>
    let (owners, done) := session.dispatcher.owners.unregisterShared owner
    (session.withDispatcher { session.dispatcher with owners }, .flag done)
  | .advanceClock stamp =>
    (session.withDispatcher (session.dispatcher.advance stamp), .time session.dispatcher.now)
  | .readConfig => (session, .config session.dispatcher.config)

/-- The session after some actions, and the answers to them in order. -/
def performAll [Transport τ] (session : Session τ) : List Action → Session τ × List Answer
  | [] => (session, [])
  | action :: rest =>
    let (next, answer) := session.perform action
    let (last, answers) := next.performAll rest
    (last, answer :: answers)

end Session

/-- How much a dispatcher and its transport had gathered at some moment. -/
structure Mark where
  records : Nat
  violations : Nat
  observed : Nat
  messages : Nat
  connects : Nat

def Dispatcher.mark {τ : Type} [Transport τ] (dispatcher : Dispatcher τ) : Mark where
  records := dispatcher.trail.records.size
  violations := dispatcher.trail.violations.size
  observed := dispatcher.observed.size
  messages := (Transport.messages dispatcher.transport).size
  connects := (Transport.connects dispatcher.transport).size

/-- What a dispatcher and its transport gathered between two moments. -/
structure Gathered where
  records : Array LogRecord
  violations : Array Violation
  observed : Array (String × Nat)
  messages : Array FramedMessage
  connects : Array ConnectEvent

def Dispatcher.gatheredSince {τ : Type} [Transport τ] (dispatcher : Dispatcher τ) (mark : Mark) :
    Gathered where
  records := dispatcher.trail.records.extract mark.records
  violations := dispatcher.trail.violations.extract mark.violations
  observed := dispatcher.observed.extract mark.observed
  messages := (Transport.messages dispatcher.transport).extract mark.messages
  connects := (Transport.connects dispatcher.transport).extract mark.connects

end SessionReplay
