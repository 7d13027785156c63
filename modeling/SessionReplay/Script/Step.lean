import SessionReplay.Script.Op

/-! Steps of writing a script, as they are given by somebody who describes one. -/
namespace SessionReplay

inductive ScriptStep where
  | connect (owner : OwnerId)
  | message (owner : OwnerId) (connection : ConnectionId) (messageType : UInt8) (fields : String)
  | resend (owner : OwnerId) (connection : ConnectionId) (first last : Word)
  | malformed (owner : OwnerId) (connection : ConnectionId)
  | heartbeat (owner : OwnerId) (staleBy : Word)
  | advance (nanos : Word)
  | apply (op : ScriptOp)
  | drain
  /-- Inserts an event as it is. -/
  | insert (event : Event)
  | repeated (times : Nat) (steps : List ScriptStep)

inductive ScriptAnswer where
  | nothing
  | connection (id : ConnectionId)
  | events (drained : List Event)

namespace ScriptStep

/-- Goes through an action `times` times, keeping the last answer. -/
def again (action : Script → ScriptAnswer → Script × ScriptAnswer) :
    Nat → Script → ScriptAnswer → Script × ScriptAnswer
  | 0, script, last => (script, last)
  | times + 1, script, last =>
    let (script, last) := action script last
    again action times script last

mutual

def perform (script : Script) : ScriptStep → Script × ScriptAnswer
  | connect owner =>
    let (script, id) := script.connect owner
    (script, .connection id)
  | message owner connection messageType fields =>
    (script.message owner connection messageType fields, .nothing)
  | resend owner connection first last =>
    (script.resendRequest owner connection first last, .nothing)
  | malformed owner connection => (script.malformed owner connection, .nothing)
  | heartbeat owner staleBy => (script.heartbeat owner staleBy, .nothing)
  | advance nanos => (script.advance nanos, .nothing)
  | apply op => (op.apply script, .nothing)
  | drain =>
    let (script, events) := script.drain
    (script, .events events)
  | insert event => (script.record event, .nothing)
  | repeated times steps =>
    again (fun script last => performAll script last steps) times script .nothing

/-- Performs steps in order and keeps the answer of the last one. -/
def performAll (script : Script) (last : ScriptAnswer) :
    List ScriptStep → Script × ScriptAnswer
  | [] => (script, last)
  | step :: steps =>
    let (script, answer) := perform script step
    performAll script answer steps

end

/-- Performs steps in order and lists the answer and the capture time after each. -/
def trace (script : Script) : List ScriptStep → Script × List (ScriptAnswer × Word)
  | [] => (script, [])
  | step :: steps =>
    let (script, answer) := step.perform script
    let (last, answers) := trace script steps
    (last, (answer, script.time) :: answers)

end ScriptStep

namespace Script

def performAll (script : Script) (steps : List ScriptStep) : Script :=
  (ScriptStep.performAll script .nothing steps).1

end Script
end SessionReplay
