import Mathlib.Data.List.Induction
import SessionReplay.Proofs.Dispatcher.Completed
import SessionReplay.Session

/-! Sessions with one dispatcher as transcripts: what was asked of it and what it
answered. A transcript lists the newest exchange first, and everything that is read
from one is read without the dispatcher. -/
namespace SessionReplay

/-- A call on a dispatcher, on its transport or on the table that it shares. -/
inductive Command where
  | dispatch (event : Event)
  | request (request : Request)
  | takeConnection
  | resetCount
  | checkCount (limit : Nat)
  /-- Puts a registry of any kind in place, and a table to be shared. -/
  | install (owners : Owners)
  | registerShared (info : OwnerInfo)
  | unregisterShared (owner : OwnerId)

/-- The registries after a command, and the table that is shared. -/
def Command.onOwners : Command → Owners → Owners
  | .install owners, _ => owners
  | .registerShared info, owners => (owners.registerShared info).1
  | .unregisterShared owner, owners => (owners.unregisterShared owner).1
  | _, owners => owners

structure Exchange where
  command : Command
  answer : Answer

/-- The exchanges of a session, the newest first. -/
abbrev Transcript := List Exchange

namespace Dispatcher
variable {τ : Type} [Transport τ]

def obey (dispatcher : Dispatcher τ) : Command → Dispatcher τ × Answer
  | .dispatch event =>
    let (dispatcher, outcome) := dispatcher.dispatch event
    (dispatcher, .outcome outcome)
  | .request request =>
    let (dispatcher, answer) := dispatcher.request request
    (dispatcher, .request answer)
  | .takeConnection =>
    let (dispatcher, taken) := dispatcher.takeConnection
    (dispatcher, .taken taken)
  | .resetCount => (dispatcher.resetCount, .nothing)
  | .checkCount limit =>
    let (dispatcher, exceeded) := dispatcher.checkCount limit
    (dispatcher, .flag exceeded)
  | .install owners => (dispatcher.installOwners owners, .nothing)
  | .registerShared info =>
    let (owners, done) := dispatcher.owners.registerShared info
    ({ dispatcher with owners }, .flag done)
  | .unregisterShared owner =>
    let (owners, done) := dispatcher.owners.unregisterShared owner
    ({ dispatcher with owners }, .flag done)

/-- The dispatcher after some commands, and the transcript of the session. -/
def session (dispatcher : Dispatcher τ) (commands : List Command) : Dispatcher τ × Transcript :=
  commands.foldl (fun (dispatcher, past) command =>
    let (next, answer) := dispatcher.obey command
    (next, ⟨command, answer⟩ :: past)) (dispatcher, [])

section Sessions
variable (dispatcher : Dispatcher τ)

theorem session_concat (commands : List Command) (command : Command) :
    dispatcher.session (commands ++ [command]) =
      let (reached, past) := dispatcher.session commands
      ((reached.obey command).1, ⟨command, (reached.obey command).2⟩ :: past) := by
  simp only [session, List.foldl_append, List.foldl_cons, List.foldl_nil]

theorem session_append (commands more : List Command) :
    dispatcher.session (commands ++ more) =
      let (reached, past) := dispatcher.session commands
      let (last, later) := reached.session more
      (last, later ++ past) := by
  induction more using List.reverseRecOn with
  | nil => simp [session]
  | append_singleton more command ih =>
    rw [← List.append_assoc, session_concat, ih]
    simp only [session_concat, List.cons_append]

theorem session_cons (command : Command) (rest : List Command) :
    dispatcher.session (command :: rest) =
      let (next, answer) := dispatcher.obey command
      let (last, past) := next.session rest
      (last, past ++ [⟨command, answer⟩]) :=
  dispatcher.session_append [command] rest

/-- A transcript is of the commands that were given, each once. -/
theorem commands_session (commands : List Command) :
    (dispatcher.session commands).2.map Exchange.command = commands.reverse := by
  induction commands using List.reverseRecOn with
  | nil => rfl
  | append_singleton commands command ih =>
    rw [session_concat, List.reverse_append]
    exact congrArg (command :: ·) ih

end Sessions
end Dispatcher

namespace Exchange

/-- The calls on the single operation that an exchange stands for: an event that opens
one, whatever became of it, and every completion that was signalled. -/
def calls : Exchange → List Operations.Call
  | ⟨.dispatch event, _⟩ => if event.opensOperation then [.start] else []
  | ⟨.request .completeNext, .request (.completed (some _))⟩ => [.finish]
  | ⟨.request .completeAll, .request (.completedCount count)⟩ => Operations.completions count
  | ⟨.request .completeSpurious, _⟩ => [.finish]
  | ⟨.takeConnection, .taken (.ok _)⟩ => [.finish]
  | _ => []

/-- What an exchange has to report while these are the registries, given whether an operation was
open before it. -/
def findings (owners : Owners) (wasOpen : Bool) : Exchange → List Violation
  | ⟨.dispatch event, .outcome outcome⟩ => event.findings owners wasOpen outcome
  | ⟨.takeConnection, .taken (.error _)⟩ => [.noConnectPending]
  | exchange => Operations.breaches wasOpen exchange.calls

end Exchange

namespace Transcript

def stamps : Transcript → List Word
  | [] => []
  | ⟨.dispatch event, _⟩ :: past => stamps past ++ [event.timestamp]
  | _ :: past => stamps past

def sinceReset : Transcript → Nat
  | [] => 0
  | ⟨.dispatch _, _⟩ :: past => sinceReset past + 1
  | ⟨.resetCount, _⟩ :: _ => 0
  | _ :: past => sinceReset past

/-- The id of the latest connect, unless a connection id was taken since. -/
def unread : Transcript → Option ConnectionId
  | [] => none
  | ⟨.dispatch (.connect event), _⟩ :: _ => some event.connection
  | ⟨.takeConnection, .taken (.ok _)⟩ :: _ => none
  | _ :: past => unread past

/-- The registries that were installed last, with what was done to the shared table since. -/
def owners : Transcript → (first : Owners := {}) → Owners
  | [], first => first
  | exchange :: past, first => exchange.command.onOwners (owners past first)

def refusals : Transcript → Nat
  | [] => 0
  | ⟨.dispatch event, _⟩ :: past => event.refusalsLeft (refusals past)
  | ⟨.request (.refuseNext count), _⟩ :: _ => count
  | _ :: past => refusals past

/-- The messages that were taken and not completed, the oldest first. -/
def awaiting : Transcript → List ConnectionId
  | [] => []
  | ⟨.dispatch event, .outcome outcome⟩ :: past => awaiting past ++ event.accepted outcome
  | ⟨.request .completeNext, _⟩ :: past => (awaiting past).drop 1
  | ⟨.request .completeAll, _⟩ :: _ => []
  | _ :: past => awaiting past

/-- How the next command has to be answered. -/
def answer (past : Transcript) : Command → Answer
  | .dispatch event => .outcome (event.fate past.refusals)
  | .request .completeNext => .request (.completed past.awaiting.head?)
  | .request .completeAll => .request (.completedCount past.awaiting.length)
  | .request _ => .request .done
  | .takeConnection =>
    match past.unread with
    | some connection => .taken (.ok connection)
    | none => .taken (.error .noConnectPending)
  | .checkCount limit => .flag (limit < min past.sinceReset Dispatcher.countCap)
  | .registerShared info => .flag (past.owners.registerShared info).2
  | .unregisterShared owner => .flag (past.owners.unregisterShared owner).2
  | .resetCount | .install _ => .nothing

def calls : Transcript → List Operations.Call
  | [] => []
  | exchange :: past => calls past ++ exchange.calls

/-- The last call of all was a start, or there was none and an operation was open at first. -/
def stillOpen (past : Transcript) (first : Bool := false) : Bool :=
  Operations.isOpen first past.calls

def findings : Transcript → (first : Owners := {}) → (wasOpen : Bool := false) → List Violation
  | [], _, _ => []
  | exchange :: past, first, wasOpen =>
    findings past first wasOpen ++ exchange.findings (owners past first) (stillOpen past wasOpen)

theorem stillOpen_cons (exchange : Exchange) (past : Transcript) (first : Bool) :
    stillOpen (exchange :: past) first =
      Operations.isOpen (past.stillOpen first) exchange.calls :=
  Operations.isOpen_append ..

end Transcript
end SessionReplay
