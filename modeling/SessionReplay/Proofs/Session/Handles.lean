import SessionReplay.Proofs.Operations.Alternation
import SessionReplay.Proofs.Session.Reports

/-! Completion handles. The transport of a dispatcher has one and may give clones of it to anybody,
and all of them complete the operations of that dispatcher. Whoever makes the calls, they do to the
operations what they do one after the other when nobody else is there: all that the dispatcher
enters in the trail besides leaves the flag, and what the calls report, as they are. -/
namespace SessionReplay

def LogRecord.concernsOperation : LogRecord → Bool
  | operationStarted _ | operationEnded _ => true
  | violationLogged violation | violationRecorded violation => violation.concernsOperation
  | _ => false

namespace Operations

/-- The operations with nothing in their trail but what calls enter. -/
def own (operations : Operations) : Operations where
  inFlight := operations.inFlight
  trail := { operations.trail with
    records := operations.trail.records.filter LogRecord.concernsOperation
    violations := operations.trail.violations.filter Violation.concernsOperation }

section Own
variable (operations : Operations)

theorem own_note {record : LogRecord} (foreign : record.concernsOperation = false) :
    (operations.note record).own = operations.own := by
  simp [own, note, Trail.note, foreign]

theorem own_note_of_call {record : LogRecord} (called : record.concernsOperation = true) :
    (operations.note record).own = operations.own.note record := by
  simp [own, note, Trail.note, called]

theorem own_report (violation : Violation) :
    (operations.report violation).own =
      if violation.concernsOperation then operations.own.report violation else operations.own := by
  obtain ⟨inFlight, channel, records, violations⟩ := operations
  cases concerned : violation.concernsOperation <;> cases channel <;>
    simp [own, report, Trail.report, ErrorChannel.record?, ErrorChannel.keeps,
      LogRecord.concernsOperation, concerned]

theorem own_reportAll (found : List Violation) :
    (operations.reportAll found).own =
      operations.own.reportAll (found.filter Violation.concernsOperation) := by
  induction found generalizing operations with
  | nil => rfl
  | cons violation rest ih =>
    have later := ih (operations.report violation)
    rw [own_report] at later
    rw [List.filter_cons]
    split
    · next concerned =>
      rw [if_pos concerned] at later
      exact later
    · next foreign =>
      rw [if_neg foreign] at later
      exact later

/-- What is reported of an owner, a connection or an offset is nothing to the operations. -/
theorem own_reportAll_of_named {found : List Violation}
    (named : ∀ violation ∈ found, violation.anonymous = false) :
    (operations.reportAll found).own = operations.own := by
  have foreign : found.filter Violation.concernsOperation = [] := by
    apply List.filter_eq_nil_iff.mpr
    intro violation reported
    rw [Violation.concernsOperation_of_named (named violation reported)]
    exact Bool.false_ne_true
  rw [own_reportAll, foreign]
  rfl

/-- A call does to the operations alone what it does to all of them. -/
theorem own_perform (call : Call) :
    (operations.perform call).own = operations.own.perform call := by
  have called : (call.record operations.inFlight).concernsOperation = true := by
    cases call <;> rfl
  have breached : (breach operations.inFlight call).filter Violation.concernsOperation =
      breach operations.inFlight call := by
    cases call <;> cases operations.inFlight <;> rfl
  -- the record of the call and its report are all that it enters, and both are kept
  have reported := own_reportAll (operations.note (call.record operations.inFlight))
    (breach operations.inFlight call)
  rw [own_note_of_call _ called, breached] at reported
  rw [perform_eq, perform_eq]
  exact congrArg (fun after : Operations => { after with inFlight := decide (call = Call.start) })
    reported

theorem own_performAll (calls : List Call) :
    (operations.performAll calls).own = operations.own.performAll calls := by
  induction calls generalizing operations with
  | nil => rfl
  | cons call rest ih =>
    have later := ih (operations.perform call)
    rw [own_perform] at later
    exact later

end Own
end Operations

namespace Dispatcher

/-- What calls alone would have made of the operations of a dispatcher. -/
def own (dispatcher : Dispatcher Simulated) : Operations := dispatcher.operations.own

section Events
variable (dispatcher : Dispatcher Simulated)

theorem own_opened (event : MessageEvent) :
    (dispatcher.opened event).own = dispatcher.own.perform .start := by
  have named : ∀ found ∈ dispatcher.owners.findings event.owner, found.anonymous = false :=
    fun found reported => Owners.named_of_mem_findings reported
  rw [own, operations_opened]
  refine (Operations.own_perform _ .start).trans ?_
  rw [Operations.own_reportAll_of_named _ named, Operations.own_note _ rfl,
    Operations.own_note _ rfl, own]

theorem own_forward (message : FramedMessage) :
    (dispatcher.forward message).1.own = dispatcher.own := by
  cases budget : dispatcher.transport.refusals with
  | zero =>
    rw [forward_of_accepting budget]
    rfl
  | succ left =>
    rw [forward_of_refusing budget]
    exact Operations.own_note _ rfl

theorem own_onMessage (event : MessageEvent) :
    (dispatcher.onMessage event).1.own = dispatcher.own.perform .start := by
  have opened := dispatcher.own_opened event
  cases framed : event.window with
  | error fault =>
    rw [onMessage_of_error framed]
    exact (Operations.own_report _ _).trans opened
  | ok window =>
    have handed := ((dispatcher.opened event).own_forward (.ofEvent event window)).trans opened
    cases accepted : ((dispatcher.opened event).forward (.ofEvent event window)).2 with
    | true =>
      rw [onMessage_of_handed framed (Prod.ext rfl accepted)]
      exact handed
    | false =>
      rw [onMessage_of_refused framed (Prod.ext rfl accepted)]
      exact (Operations.own_report _ _).trans ((Operations.own_note _ rfl).trans handed)

theorem own_expect (connection : ConnectionId) :
    (dispatcher.expect connection).own = dispatcher.own := by
  rw [expect]
  cases dispatcher.pending with
  | none => rfl
  | some unread => exact Operations.own_note _ rfl

theorem own_onConnect (event : ConnectEvent) :
    (dispatcher.onConnect event).1.own = dispatcher.own.perform .start := by
  refine (own_expect _ event.connection).trans ((Operations.own_perform _ .start).trans ?_)
  exact congrArg (Operations.perform · .start)
    ((Operations.own_note _ rfl).trans (Operations.own_note _ rfl))

theorem own_onHeartbeat (event : Heartbeat) :
    (dispatcher.onHeartbeat event).1.own = dispatcher.own := by
  have named : ∀ found ∈ dispatcher.owners.findings event.owner, found.anonymous = false :=
    fun found reported => Owners.named_of_mem_findings reported
  have checked := operations_checkOwner
    (dispatcher.receive (.heartbeatReceived event) event.timestamp) event.owner
  refine (congrArg Operations.own checked).trans ?_
  refine (Operations.own_reportAll_of_named _ named).trans ?_
  exact (Operations.own_note _ rfl).trans (Operations.own_note _ rfl)

theorem own_takeConnection :
    dispatcher.takeConnection.1.own =
      dispatcher.own.performAll
        (Exchange.calls ⟨.takeConnection, .taken dispatcher.takeConnection.2⟩) := by
  cases waiting : dispatcher.pending with
  | none =>
    rw [takeConnection_of_none waiting]
    exact Operations.own_report _ _
  | some connection =>
    rw [takeConnection_of_some waiting]
    exact Operations.own_perform _ .finish

theorem own_checkCount (limit : Nat) : (dispatcher.checkCount limit).1.own = dispatcher.own := by
  rw [checkCount]
  split
  · rfl
  · exact Operations.own_note _ rfl

end Events

section Commands
variable {dispatcher : Dispatcher Simulated}

theorem own_request (registered : dispatcher.transport.registered = true) (request : Request) :
    (dispatcher.request request).1.own =
      dispatcher.own.performAll
        (Exchange.calls ⟨.request request, .request (dispatcher.request request).2⟩) := by
  cases request with
  | completeNext =>
    cases waiting : dispatcher.awaiting with
    | nil =>
      have nothing := Simulated.completeNext_of_nil waiting dispatcher.operations
      simp only [Dispatcher.request, Transport.request, Simulated.request, nothing]
      rfl
    | cons connection rest =>
      obtain ⟨awaiting, -, completed⟩ :=
        Simulated.completeNext_of_cons registered waiting dispatcher.operations
      simp only [Dispatcher.request, Transport.request, Simulated.request, completed]
      exact Operations.own_perform _ .finish
  | completeAll =>
    obtain ⟨awaiting, -, completed⟩ := Simulated.completeAll_eq registered dispatcher.operations
    simp only [Dispatcher.request, Transport.request, Simulated.request, completed]
    exact Operations.own_performAll _ _
  | completeSpurious =>
    simp only [Dispatcher.request, Transport.request, Simulated.request,
      Simulated.completeSpurious, registered, if_true]
    exact Operations.own_perform _ .finish
  | refuseNext | answer => rfl

/-- A command does to the operations what the calls do that it stands for. -/
theorem own_obey (registered : dispatcher.transport.registered = true) (command : Command) :
    (dispatcher.obey command).1.own =
      dispatcher.own.performAll (Exchange.calls ⟨command, (dispatcher.obey command).2⟩) := by
  cases command with
  | dispatch event =>
    cases event with
    | message event => exact dispatcher.own_onMessage event
    | connect event => exact dispatcher.own_onConnect event
    | heartbeat event => exact dispatcher.own_onHeartbeat event
  | request request => exact own_request registered request
  | takeConnection => exact dispatcher.own_takeConnection
  | checkCount limit => exact dispatcher.own_checkCount limit
  | install owners => exact Operations.own_note _ rfl
  | resetCount | registerShared | unregisterShared => rfl

end Commands
end Dispatcher

/-- A dispatcher and the completion handles that were made for it. -/
structure CompletionBench where
  dispatcher : Dispatcher Simulated
  /-- How many there are. The first is the one of the transport. -/
  handles : Nat := 1

inductive CompletionUse where
  /-- A command to the dispatcher or, through its own handle, to the transport. -/
  | obey (command : Command)
  /-- Adds a handle for the same dispatcher. -/
  | clone (handle : Nat)
  /-- Completes the open operation of the dispatcher. -/
  | complete (handle : Nat)

namespace CompletionBench

def new (channel : ErrorChannel) (config : Config) : CompletionBench :=
  { dispatcher := .new {} channel config }

/-- An unknown handle changes nothing. -/
def perform (bench : CompletionBench) : CompletionUse → CompletionBench
  | .obey command => { bench with dispatcher := (bench.dispatcher.obey command).1 }
  | .clone handle =>
    if handle < bench.handles then { bench with handles := bench.handles + 1 } else bench
  | .complete handle =>
    if handle < bench.handles then { bench with dispatcher := bench.dispatcher.finish } else bench

def after (bench : CompletionBench) (uses : List CompletionUse) : CompletionBench :=
  uses.foldl perform bench

def callsOf (bench : CompletionBench) : CompletionUse → List Operations.Call
  | .obey command => Exchange.calls ⟨command, (bench.dispatcher.obey command).2⟩
  | .clone _ => []
  | .complete handle => if handle < bench.handles then [.finish] else []

def calls (bench : CompletionBench) : List CompletionUse → List Operations.Call
  | [] => []
  | use :: rest => bench.callsOf use ++ (bench.perform use).calls rest

section Uses
variable {bench : CompletionBench} (registered : bench.dispatcher.transport.registered = true)
include registered

theorem registered_perform (use : CompletionUse) :
    (bench.perform use).dispatcher.transport.registered = true := by
  cases use with
  | obey command => exact (Dispatcher.obeyed registered command).registered.trans registered
  | clone handle =>
    rw [perform]
    split <;> exact registered
  | complete handle =>
    rw [perform]
    split <;> exact registered

theorem own_perform (use : CompletionUse) :
    (bench.perform use).dispatcher.own = bench.dispatcher.own.performAll (bench.callsOf use) := by
  cases use with
  | obey command => exact Dispatcher.own_obey registered command
  | clone handle =>
    rw [perform]
    split <;> rfl
  | complete handle =>
    rw [perform, callsOf]
    split
    · exact Operations.own_perform _ .finish
    · rfl

theorem own_after (uses : List CompletionUse) :
    (bench.after uses).dispatcher.own = bench.dispatcher.own.performAll (bench.calls uses) := by
  induction uses generalizing bench with
  | nil => rfl
  | cons use rest ih =>
    rw [calls, Operations.performAll, List.foldl_append]
    refine (ih (registered_perform registered use)).trans ?_
    rw [own_perform registered]
    rfl

end Uses

/-- Starts and completions on a single operation. Those that report nothing alternate and begin with
a start. Every call is either silent and turns the flag over, or is reported, as one overlap or as
one unmatched completion, and leaves the flag as it was; and the starts that were not reported are
one ahead of the completions that were not, or level with them, as an operation is open or not. It
makes no difference who calls: whatever is asked of a dispatcher and is done through clones of its
completion handle, the flag, and what the trail has on the operation, are what the calls make of
them alone. -/
theorem calls_alternate (channel : ErrorChannel) :
    (∀ calls : List Operations.Call,
      let reached := (Operations.idle channel).performAll calls
      let found := Operations.breaches false calls
      let silent := (Operations.idle channel).silent calls
      reached.violations = channel.kept found ∧
        silent.head? ≠ some .finish ∧ silent.IsChain (· ≠ ·) ∧
        (∀ call,
          let after := reached.perform call
          let reports := Operations.breach reached.inFlight call
          after.trail =
              ((reached.note (call.record reached.inFlight)).reportAll reports).trail ∧
            (reports = [] ∧ after.inFlight = !reached.inFlight ∨
              reports = [call.violation] ∧ after.inFlight = reached.inFlight)) ∧
        ((calls.count .start : Int) - found.count .overlappingOperation) -
            (calls.count .finish - found.count .unmatchedCompletion) =
          if reached.inFlight then 1 else 0) ∧
    ∀ config uses,
      let start := new channel config
      (start.after uses).dispatcher.operations.own =
        (Operations.idle channel).performAll (start.calls uses) := by
  constructor
  · intro calls reached found silent
    have chain := (Operations.idle channel).isChain_silent calls
    refine ⟨?_, ?_, chain.tail, ?_, Operations.balance channel calls⟩
    · exact (Operations.violations_performAll _ calls).trans (List.nil_append _)
    · intro first
      exact chain.rel_head? first rfl
    · intro call after reports
      have entered := congrArg Operations.trail (reached.perform_eq call)
      exact ⟨entered, reached.perform_cases call⟩
  · intro config uses start
    exact own_after rfl uses

end CompletionBench
end SessionReplay
