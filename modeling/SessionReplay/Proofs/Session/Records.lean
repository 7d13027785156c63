import SessionReplay.Proofs.Session.Reports
import SessionReplay.Proofs.Trail.Echo

/-! The same session held twice, once with violations logged and once with violations collected.
The two dispatchers do the same at every step, and the log of the first is an echo of what the
second collected. -/
namespace SessionReplay

/-- No operation is open in only one of them, and the trail of one is an echo of the other. -/
structure Operations.Echoes (lost : List (ConnectionId × ConnectionId))
    (logged kept : Operations) : Prop where
  inFlight : logged.inFlight = kept.inFlight
  trail : logged.trail.Echoes lost kept.trail

namespace Operations.Echoes
variable {lost : List (ConnectionId × ConnectionId)} {logged kept : Operations}
  (echoes : Operations.Echoes lost logged kept)
include echoes

theorem note (record : LogRecord) (quiet : record.isQuiet = true) :
    Operations.Echoes lost (logged.note record) (kept.note record) :=
  ⟨echoes.inFlight, echoes.trail.note record quiet⟩

theorem report (violation : Violation) :
    Operations.Echoes lost (logged.report violation) (kept.report violation) :=
  ⟨echoes.inFlight, echoes.trail.report violation⟩

theorem start : Operations.Echoes lost logged.start kept.start := by
  have noted := echoes.trail.note (.operationStarted kept.inFlight) rfl
  refine ⟨rfl, ?_⟩
  unfold Operations.start
  rw [echoes.inFlight]
  split
  · exact noted.report .overlappingOperation
  · exact noted

theorem finish : Operations.Echoes lost logged.finish kept.finish := by
  have noted := echoes.trail.note (.operationEnded kept.inFlight) rfl
  refine ⟨rfl, ?_⟩
  unfold Operations.finish
  rw [echoes.inFlight]
  split
  · exact noted
  · exact noted.report .unmatchedCompletion

end Operations.Echoes

/-- What a transport made of two trails: it is in the same state and answered the same. -/
structure Simulated.Concordant {α : Type} (lost : List (ConnectionId × ConnectionId))
    (logged kept : Simulated × Operations × α) : Prop where
  transport : logged.1 = kept.1
  operations : logged.2.1.Echoes lost kept.2.1
  answer : logged.2.2 = kept.2.2

namespace Simulated
variable {lost : List (ConnectionId × ConnectionId)} {logged kept : Operations}

theorem concordant_enqueueMessage (transport : Simulated)
    (echoes : logged.Echoes lost kept) (message : FramedMessage) :
    Concordant lost (transport.enqueueMessage logged message)
      (transport.enqueueMessage kept message) := by
  unfold enqueueMessage
  split
  · exact ⟨rfl, echoes.note _ rfl, rfl⟩
  · exact ⟨rfl, echoes, rfl⟩

theorem concordant_completeNext (transport : Simulated) (echoes : logged.Echoes lost kept) :
    Concordant lost (transport.completeNext logged) (transport.completeNext kept) := by
  unfold completeNext
  split
  · exact ⟨rfl, echoes, rfl⟩
  · split
    · exact ⟨rfl, echoes.finish, rfl⟩
    · exact ⟨rfl, echoes, rfl⟩

theorem concordant_completeUpTo (limit : Nat) (transport : Simulated)
    (echoes : logged.Echoes lost kept) :
    Concordant lost (completeUpTo limit transport logged) (completeUpTo limit transport kept) := by
  induction limit generalizing transport logged kept with
  | zero => exact ⟨rfl, echoes, rfl⟩
  | succ limit ih =>
    have step := transport.concordant_completeNext echoes
    unfold completeUpTo
    generalize transport.completeNext logged = first at step ⊢
    generalize transport.completeNext kept = second at step ⊢
    obtain ⟨next, earlier, named⟩ := first
    obtain ⟨_, later, _⟩ := second
    obtain ⟨rfl, after, rfl⟩ := step
    cases named with
    | none => exact ⟨rfl, after, rfl⟩
    | some connection =>
      obtain ⟨transport, operations, count⟩ := ih next after
      exact ⟨transport, operations, congrArg (· + 1) count⟩

theorem concordant_request (transport : Simulated) (echoes : logged.Echoes lost kept)
    (request : Request) :
    Concordant lost (transport.request logged request) (transport.request kept request) := by
  cases request with
  | completeNext =>
    obtain ⟨transport, operations, answer⟩ := transport.concordant_completeNext echoes
    exact ⟨transport, operations, congrArg RequestAnswer.completed answer⟩
  | completeAll =>
    obtain ⟨transport, operations, answer⟩ :=
      concordant_completeUpTo transport.awaiting.size transport echoes
    exact ⟨transport, operations, congrArg RequestAnswer.completedCount answer⟩
  | completeSpurious =>
    refine ⟨rfl, ?_, rfl⟩
    show (transport.completeSpurious logged).Echoes lost (transport.completeSpurious kept)
    unfold completeSpurious
    split
    · exact echoes.finish
    · exact echoes
  | refuseNext count => exact ⟨rfl, echoes, rfl⟩
  | answer accepts => exact ⟨rfl, echoes, rfl⟩

end Simulated

/-- The connection id that an event leaves untaken for good, and the one in its place. -/
def Event.overwrites (pending : Option ConnectionId) : Event → List (ConnectionId × ConnectionId)
  | .connect event => (pending.map fun unread => (unread, event.connection)).toList
  | .message _ | .heartbeat _ => []

def Command.overwrites (pending : Option ConnectionId) :
    Command → List (ConnectionId × ConnectionId)
  | .dispatch event => event.overwrites pending
  | _ => []

namespace Dispatcher

/-- Dispatchers that differ in their trails only, and there as logging differs from collecting. -/
inductive Echoes (lost : List (ConnectionId × ConnectionId)) :
    Dispatcher Simulated → Dispatcher Simulated → Prop where
  | intro (kept : Dispatcher Simulated) {logged : Operations}
    (echoes : logged.Echoes lost kept.operations) :
    Echoes lost { kept with operations := logged } kept

variable {lost : List (ConnectionId × ConnectionId)} {logged kept : Dispatcher Simulated}

theorem echoes_of_concordant {α : Type} {first second : Simulated × Operations × α}
    (concordant : Simulated.Concordant lost first second) :
    Echoes lost { kept with transport := first.1, operations := first.2.1 }
      { kept with transport := second.1, operations := second.2.1 } := by
  rw [concordant.transport]
  exact .intro { kept with transport := second.1, operations := second.2.1 }
    concordant.operations

section Steps
variable (echoes : Echoes lost logged kept)
include echoes

theorem Echoes.note (record : LogRecord) (quiet : record.isQuiet = true) :
    Echoes lost (logged.note record) (kept.note record) := by
  cases echoes with
  | intro kept echoes => exact .intro (kept.note record) (echoes.note record quiet)

theorem Echoes.report (violation : Violation) :
    Echoes lost (logged.report violation) (kept.report violation) := by
  cases echoes with
  | intro kept echoes => exact .intro (kept.report violation) (echoes.report violation)

theorem Echoes.start : Echoes lost logged.start kept.start := by
  cases echoes with
  | intro kept echoes => exact .intro kept.start echoes.start

theorem Echoes.receive (record : LogRecord) (quiet : record.isQuiet = true) (stamp : Word) :
    Echoes lost (logged.receive record stamp) (kept.receive record stamp) := by
  cases echoes with
  | intro kept echoes =>
    exact .intro (kept.receive record stamp) ((echoes.note record quiet).note _ rfl)

theorem Echoes.checkOwner (owner : OwnerId) :
    Echoes lost (logged.checkOwner owner) (kept.checkOwner owner) := by
  cases echoes with
  | intro kept echoes =>
    refine .intro (kept.checkOwner owner) ?_
    unfold Dispatcher.checkOwner
    dsimp only
    split
    · exact echoes
    · exact echoes.report _

theorem Echoes.opened (event : MessageEvent) :
    Echoes lost (logged.opened event) (kept.opened event) :=
  ((echoes.receive _ rfl event.timestamp).checkOwner event.owner).start

/-- A connection id in place of one that was never taken is one more that was lost. -/
theorem Echoes.expect (connection : ConnectionId) :
    Echoes (lost ++ (kept.pending.map fun unread => (unread, connection)).toList)
      (logged.expect connection) (kept.expect connection) := by
  cases echoes with
  | intro kept echoes =>
    refine .intro (kept.expect connection) ?_
    unfold Dispatcher.expect
    cases kept.pending with
    | none => simpa using echoes
    | some unread => exact ⟨echoes.inFlight, echoes.trail.overwrite unread connection⟩

theorem Echoes.forward (message : FramedMessage) :
    (logged.forward message).2 = (kept.forward message).2 ∧
      Echoes lost (logged.forward message).1 (kept.forward message).1 := by
  cases echoes with
  | intro kept echoes =>
    have concordant := kept.transport.concordant_enqueueMessage echoes message
    exact ⟨concordant.answer, echoes_of_concordant concordant⟩

theorem Echoes.forwardConnect (event : ConnectEvent) :
    Echoes lost (logged.forwardConnect event) (kept.forwardConnect event) := by
  cases echoes with
  | intro kept echoes => exact .intro (kept.forwardConnect event) echoes

theorem Echoes.request (request : Request) :
    (logged.request request).2 = (kept.request request).2 ∧
      Echoes lost (logged.request request).1 (kept.request request).1 := by
  cases echoes with
  | intro kept echoes =>
    have concordant := kept.transport.concordant_request echoes request
    exact ⟨concordant.answer, echoes_of_concordant concordant⟩

theorem Echoes.onMessage (event : MessageEvent) :
    (logged.onMessage event).2 = (kept.onMessage event).2 ∧
      Echoes lost (logged.onMessage event).1 (kept.onMessage event).1 := by
  have opened := echoes.opened event
  cases framed : event.window with
  | error fault =>
    rw [onMessage_of_error framed, onMessage_of_error framed]
    exact ⟨rfl, opened.report _⟩
  | ok window =>
    obtain ⟨taken, handed⟩ := opened.forward (.ofEvent event window)
    rcases first : (logged.opened event).forward (.ofEvent event window) with ⟨left, answer⟩
    rcases second : (kept.opened event).forward (.ofEvent event window) with ⟨right, _⟩
    rw [first, second] at taken handed
    -- both transports answer the same, so the outcomes are distinguished once
    obtain rfl : answer = _ := taken
    cases answer with
    | true =>
      rw [onMessage_of_handed framed first, onMessage_of_handed framed second]
      exact ⟨rfl, handed⟩
    | false =>
      rw [onMessage_of_refused framed first, onMessage_of_refused framed second]
      exact ⟨rfl, (handed.note _ rfl).report _⟩

theorem Echoes.dispatch (event : Event) :
    (logged.dispatch event).2 = (kept.dispatch event).2 ∧
      Echoes (lost ++ event.overwrites kept.pending) (logged.dispatch event).1
        (kept.dispatch event).1 := by
  cases event with
  | message event =>
    rw [Event.overwrites, List.append_nil]
    exact echoes.onMessage event
  | connect event =>
    have opened := (echoes.receive (.connectReceived event) rfl event.timestamp).start
    exact ⟨rfl, (opened.expect event.connection).forwardConnect event⟩
  | heartbeat event =>
    rw [Event.overwrites, List.append_nil]
    have received := echoes.receive (.heartbeatReceived event) rfl event.timestamp
    exact ⟨rfl, received.checkOwner event.owner⟩

theorem Echoes.pending : logged.pending = kept.pending := by
  cases echoes
  rfl

theorem Echoes.taken : Echoes lost logged.taken kept.taken := by
  cases echoes with
  | intro kept echoes => exact .intro kept.taken echoes.finish

theorem Echoes.takeConnection :
    logged.takeConnection.2 = kept.takeConnection.2 ∧
      Echoes lost logged.takeConnection.1 kept.takeConnection.1 := by
  cases waiting : kept.pending with
  | none =>
    rw [takeConnection_of_none waiting, takeConnection_of_none (echoes.pending.trans waiting)]
    exact ⟨rfl, echoes.report .noConnectPending⟩
  | some connection =>
    rw [takeConnection_of_some waiting, takeConnection_of_some (echoes.pending.trans waiting)]
    exact ⟨rfl, echoes.taken⟩

theorem Echoes.checkCount (limit : Nat) :
    (logged.checkCount limit).2 = (kept.checkCount limit).2 ∧
      Echoes lost (logged.checkCount limit).1 (kept.checkCount limit).1 := by
  cases echoes with
  | intro kept echoes =>
    unfold Dispatcher.checkCount
    dsimp only
    split
    · exact ⟨rfl, .intro _ echoes⟩
    · exact ⟨rfl, .intro { kept with
        operations := kept.operations.note _, observed := _ } (echoes.note _ rfl)⟩

/-- One command is answered the same, and the logs go on alike. -/
theorem Echoes.obey (command : Command) :
    (logged.obey command).2 = (kept.obey command).2 ∧
      Echoes (lost ++ command.overwrites kept.pending) (logged.obey command).1
        (kept.obey command).1 := by
  have unlost {first second : Dispatcher Simulated} (after : Echoes lost first second) :
      Echoes (lost ++ []) first second := by
    rwa [List.append_nil]
  cases command with
  | dispatch event =>
    obtain ⟨outcome, after⟩ := echoes.dispatch event
    exact ⟨congrArg Answer.outcome outcome, after⟩
  | request request =>
    obtain ⟨answer, after⟩ := echoes.request request
    exact ⟨congrArg Answer.request answer, unlost after⟩
  | takeConnection =>
    obtain ⟨taken, after⟩ := echoes.takeConnection
    exact ⟨congrArg Answer.taken taken, unlost after⟩
  | checkCount limit =>
    obtain ⟨exceeded, after⟩ := echoes.checkCount limit
    exact ⟨congrArg Answer.flag exceeded, unlost after⟩
  | resetCount =>
    cases echoes with
    | intro kept echoes => exact ⟨rfl, unlost (.intro kept.resetCount echoes)⟩
  | install owners =>
    cases echoes with
    | intro kept echoes =>
      exact ⟨rfl, unlost (.intro (kept.installOwners owners) (echoes.note _ rfl))⟩
  | registerShared info =>
    cases echoes with
    | intro kept echoes =>
      exact ⟨rfl, unlost (.intro (kept.obey (.registerShared info)).1 echoes)⟩
  | unregisterShared owner =>
    cases echoes with
    | intro kept echoes =>
      exact ⟨rfl, unlost (.intro (kept.obey (.unregisterShared owner)).1 echoes)⟩

end Steps

/-- The connection ids that were never taken because of commands, each with the one in its
place. -/
def overwrites (dispatcher : Dispatcher Simulated) :
    List Command → List (ConnectionId × ConnectionId)
  | [] => []
  | command :: rest =>
    command.overwrites dispatcher.pending ++ (dispatcher.obey command).1.overwrites rest

theorem Echoes.session (echoes : Echoes lost logged kept) (commands : List Command) :
    (logged.session commands).2 = (kept.session commands).2 ∧
      Echoes (lost ++ kept.overwrites commands) (logged.session commands).1
        (kept.session commands).1 := by
  induction commands generalizing lost logged kept with
  | nil =>
    rw [overwrites, List.append_nil]
    exact ⟨rfl, echoes⟩
  | cons command rest ih =>
    obtain ⟨answer, after⟩ := echoes.obey command
    obtain ⟨answers, last⟩ := ih after
    rw [List.append_assoc] at last
    rw [session_cons, session_cons]
    refine ⟨?_, last⟩
    dsimp only
    rw [answer, answers]

def reportingTo (dispatcher : Dispatcher Simulated) (channel : ErrorChannel) :
    Dispatcher Simulated :=
  { dispatcher with operations := { inFlight := dispatcher.inFlight, trail := { channel } } }

theorem echoes_reportingTo (dispatcher : Dispatcher Simulated) :
    Echoes [] (dispatcher.reportingTo .logging) (dispatcher.reportingTo .collecting) :=
  .intro (dispatcher.reportingTo .collecting) ⟨rfl, Trail.echoes_empty⟩

theorem Echoes.reportingTo_eq (echoes : Echoes lost logged kept) (channel : ErrorChannel) :
    logged.reportingTo channel = kept.reportingTo channel := by
  cases echoes with
  | intro kept echoes => simp only [reportingTo, inFlight, echoes.inFlight]

theorem Echoes.trail (echoes : Echoes lost logged kept) :
    logged.trail.Echoes lost kept.trail := by
  cases echoes with
  | intro kept echoes => exact echoes.trail

theorem reports_reportingTo (dispatcher : Dispatcher Simulated)
    (registered : dispatcher.transport.registered = true) :
    Reports dispatcher.owners dispatcher.inFlight [] (dispatcher.reportingTo .collecting) :=
  ⟨registered, rfl, rfl, rfl, rfl⟩

/-- After any commands, and so at every step, it makes no difference to what dispatchers answered
nor to what they became whether violations are logged or collected. What the one collects is what
the session had to report, with a transport that was registered, as a dispatcher does when it is
made. It is also what the other logs as errors, in order and each once, and neither log has any
other error. The one that collects warns of each violation once, and all other warnings of both are
about connection ids that were pending when another connect was dispatched. -/
theorem violations_logged_once (dispatcher : Dispatcher Simulated) (commands : List Command) :
    let (logging, told) := (dispatcher.reportingTo .logging).session commands
    let (collecting, heard) := (dispatcher.reportingTo .collecting).session commands
    let lost := (dispatcher.reportingTo .collecting).overwrites commands
    told = heard ∧
      heard.map Exchange.command = commands.reverse ∧
      (dispatcher.transport.registered = true →
        collecting.violations = heard.findings dispatcher.owners dispatcher.inFlight) ∧
      (∀ channel, logging.reportingTo channel = collecting.reportingTo channel) ∧
      logging.trail.records.toList = collecting.trail.records.toList.map LogRecord.retold ∧
      logging.trail.entries .error = collecting.violations.map (fun violation =>
        (violation.message, [("kind", violation.kind.label)])) ∧
      collecting.trail.entries .error = [] ∧
      (collecting.trail.entries .warn).filter (·.1 = "Violation recorded") =
        collecting.violations.map (fun violation => ("Violation recorded",
          [("error", violation.message), ("kind", violation.kind.label)])) ∧
      logging.trail.entries .warn = lost.map LogRecord.overwriting ∧
      (collecting.trail.entries .warn).filter (·.1 ≠ "Violation recorded") =
        lost.map LogRecord.overwriting := by
  obtain ⟨answers, after⟩ := dispatcher.echoes_reportingTo.session commands
  refine ⟨answers, commands_session _ commands, ?_, after.reportingTo_eq, after.trail.retold,
    after.trail.entries⟩
  intro registered
  exact ((dispatcher.reports_reportingTo registered).session commands).violations

/-- A session in which everything is found wrong that can be, and a connection id is lost. -/
theorem violations_logged_once_of_each_kind :
    let dispatcher : Dispatcher Simulated := .new {} .silent {}
    let short : MessageEvent :=
      { timestamp := 3, owner := 0, connection := 6, messageType := 0x44,
        buffer := [], initialOffset := 7, offset := 0, length := 0 }
    let usable := { short with buffer := List.replicate 12 0, initialOffset := 8, offset := 8 }
    let connect (connection : ConnectionId) : Command :=
      .dispatch (.connect ⟨4, 0, connection, "", []⟩)
    let commands : List Command := [.dispatch (.heartbeat ⟨1, 7⟩),
      .install ⟨some .shared, some .empty⟩, .dispatch (.heartbeat ⟨2, 7⟩),
      .dispatch (.message short), connect 8, connect 9, .takeConnection, .takeConnection,
      .request .completeSpurious, .request (.refuseNext 1), .dispatch (.message usable)]
    let found : List Violation := [.registryMissing 7, .unknownOwner 7 [],
      .malformedFrame 6 (FrameFault.noRoomForHeader 7).message, .overlappingOperation,
      .overlappingOperation, .noConnectPending, .unmatchedCompletion, .messageRefused 6]
    let (logging, _) := (dispatcher.reportingTo .logging).session commands
    let (collecting, _) := (dispatcher.reportingTo .collecting).session commands
    collecting.violations = found ∧
      logging.trail.entries .error = found.map (fun violation =>
        (violation.message, [("kind", violation.kind.label)])) ∧
      logging.trail.entries .warn = [LogRecord.overwriting (8, 9)] := by
  intro dispatcher short usable connect commands found
  obtain ⟨-, -, reported, -, -, errors, -, -, warnings, -⟩ :=
    violations_logged_once dispatcher commands
  have collected := (reported rfl).trans (show _ = found by decide +kernel)
  exact ⟨collected, errors.trans (congrArg _ collected), warnings⟩

end Dispatcher
end SessionReplay
