import SessionReplay.Proofs.Dispatcher.Ledger
import SessionReplay.Proofs.Session.Records
import SessionReplay.Proofs.Transport.Requests

/-! The books of a transport over a whole session. Messages leave the queue in the order in which
they were taken, each at one completion; refusals fall on the first usable messages after they were
asked for; and what was refused is counted. Nothing else that happens in between is entered. -/
namespace SessionReplay

/-- The message that a command offers to the transport, if its offsets are usable. -/
def Command.offered? : Command → Option FramedMessage
  | .dispatch event => event.cutOut?
  | _ => none

def Command.isRefuseNext : Command → Bool
  | .request (.refuseNext _) => true
  | _ => false

namespace Exchange

def offeredOutcome? : Exchange → Option Outcome
  | ⟨command, .outcome outcome⟩ => command.offered?.map fun _ => outcome
  | _ => none

def isRefusal : Exchange → Bool
  | ⟨_, .outcome .refused⟩ => true
  | _ => false

/-- The usable message of an exchange, unless it was refused. -/
def taken? (exchange : Exchange) : Option FramedMessage :=
  if exchange.isRefusal then none else exchange.command.offered?

end Exchange

/-- What became of the usable messages, in the order of their dispatch. -/
def Transcript.offeredOutcomes (past : Transcript) : List Outcome :=
  past.reverse.filterMap Exchange.offeredOutcome?

theorem Transcript.offeredOutcomes_concat (past : Transcript) (exchange : Exchange) :
    offeredOutcomes (past ++ [exchange]) =
      exchange.offeredOutcome?.toList ++ offeredOutcomes past := by
  rw [offeredOutcomes, List.reverse_append]
  cases offer : exchange.offeredOutcome? <;>
    simp [offer, offeredOutcomes]

namespace Ledger

def heed (ledger : Ledger) : Command → Ledger
  | .dispatch event => ledger.enter [event]
  | .request (.refuseNext count) => { ledger with refusals := count }
  | _ => ledger

section Enter
variable (ledger : Ledger) (event : Event)

theorem connections_enter :
    (ledger.enter [event]).connections =
      ledger.connections ++ event.accepted (event.fate ledger.refusals) := by
  cases event with
  | message event =>
    cases framed : event.window with
    | error fault => simp [enter_of_error framed, Event.fate_of_error framed, Event.accepted]
    | ok window =>
      rw [Event.fate_of_ok framed]
      cases left : ledger.refusals with
      | zero =>
        simp [enter_of_accepting framed left, connections, Event.accepted, FramedMessage.ofEvent]
      | succ remaining =>
        simp [enter_of_refusing framed left, connections, Event.accepted]
  | connect event =>
    simp [enter, connections, List.filterMap_cons, Event.cutOut?, Event.accepted]
  | heartbeat event =>
    simp [enter, connections, List.filterMap_cons, Event.cutOut?, Event.accepted]

theorem refused_enter :
    (ledger.enter [event]).refused =
      ledger.refused + if event.fate ledger.refusals = .refused then 1 else 0 := by
  cases event with
  | message event =>
    cases framed : event.window with
    | error fault => simp [enter_of_error framed, Event.fate_of_error framed]
    | ok window =>
      rw [Event.fate_of_ok framed]
      cases left : ledger.refusals with
      | zero => simp [enter_of_accepting framed left]
      | succ remaining => simp [enter_of_refusing framed left]
  | connect event => simp [enter, List.filterMap_cons, Event.cutOut?, Event.fate]
  | heartbeat event => simp [enter, List.filterMap_cons, Event.cutOut?, Event.fate]

end Enter
end Ledger

namespace Dispatcher

theorem transport_takeConnection (dispatcher : Dispatcher Simulated) :
    dispatcher.takeConnection.1.transport = dispatcher.transport := by
  rw [takeConnection]
  cases dispatcher.pending <;> rfl

theorem transport_checkCount (dispatcher : Dispatcher Simulated) (limit : Nat) :
    (dispatcher.checkCount limit).1.transport = dispatcher.transport := by
  obtain ⟨_, _, looked, -⟩ := dispatcher.checkCount_eq limit
  rw [looked]

theorem ledger_obey (dispatcher : Dispatcher Simulated) (command : Command) :
    (dispatcher.obey command).1.transport.ledger = dispatcher.transport.ledger.heed command := by
  cases command with
  | dispatch event => exact dispatcher.ledger_dispatch event
  | request request =>
    have entered := dispatcher.ledger_request request
    cases request <;> exact entered
  | takeConnection => exact congrArg Simulated.ledger dispatcher.transport_takeConnection
  | checkCount limit => exact congrArg Simulated.ledger (dispatcher.transport_checkCount limit)
  | resetCount | install | registerShared | unregisterShared => rfl

def completedBy (dispatcher : Dispatcher Simulated) : Command → List ConnectionId
  | .request request => dispatcher.transport.named dispatcher.operations request
  | _ => []

def completed (dispatcher : Dispatcher Simulated) : List Command → List ConnectionId
  | [] => []
  | command :: rest => dispatcher.completedBy command ++ (dispatcher.obey command).1.completed rest

/-- Every message that was taken was completed, as the `gone` tell, or waits still. -/
structure Accounts (gone : List ConnectionId) (dispatcher : Dispatcher Simulated) : Prop where
  registered : dispatcher.transport.registered = true
  connections : dispatcher.transport.ledger.connections = gone ++ dispatcher.awaiting

section Accounts
variable {dispatcher : Dispatcher Simulated} (accounts : Accounts gone dispatcher)
include accounts

theorem Accounts.dispatch (event : Event) : Accounts gone (dispatcher.dispatch event).1 := by
  have effect := dispatcher.dispatched event
  constructor
  · exact (congrArg Setting.registered effect.setting).trans accounts.registered
  · rw [effect.awaiting, dispatcher.ledger_dispatch, Ledger.connections_enter,
      accounts.connections, outcome_dispatch, List.append_assoc]
    rfl

/-- What is named has left the queue, and nothing else has. -/
theorem Accounts.complete (completed : Completed dispatcher ended after)
    (ledger : after.transport.ledger = dispatcher.transport.ledger) :
    Accounts (gone ++ dispatcher.awaiting.take ended) after := by
  constructor
  · exact (congrArg Setting.registered completed.setting).trans accounts.registered
  · rw [ledger, accounts.connections, completed.awaiting, List.append_assoc,
      List.take_append_drop]

theorem Accounts.request (request : Request) :
    Accounts (gone ++ dispatcher.completedBy (.request request))
      (dispatcher.request request).1 := by
  have named := Simulated.named_eq accounts.registered dispatcher.operations request
  have ledger := dispatcher.ledger_request request
  rw [completedBy, named]
  cases request with
  | completeNext =>
    have next := accounts.complete (completed_next accounts.registered).2 ledger
    rwa [List.take_eq_take_min, ← awaiting]
  | completeAll =>
    have all := accounts.complete (completed_all accounts.registered).2 ledger
    rwa [List.take_length] at all
  | completeSpurious | refuseNext | answer =>
    rw [List.append_nil]
    exact ⟨accounts.registered, accounts.connections⟩

/-- A command that leaves the transport alone completes nothing. -/
theorem Accounts.still {after : Dispatcher Simulated}
    (same : after.transport = dispatcher.transport) : Accounts (gone ++ []) after := by
  rw [List.append_nil]
  constructor
  · rw [same]
    exact accounts.registered
  · rw [awaiting, same]
    exact accounts.connections

theorem Accounts.obey (command : Command) :
    Accounts (gone ++ dispatcher.completedBy command) (dispatcher.obey command).1 := by
  cases command with
  | dispatch event =>
    have after := accounts.dispatch event
    rwa [← List.append_nil gone] at after
  | request request => exact accounts.request request
  | takeConnection => exact accounts.still dispatcher.transport_takeConnection
  | checkCount limit => exact accounts.still (dispatcher.transport_checkCount limit)
  | resetCount | install | registerShared | unregisterShared => exact accounts.still rfl

theorem Accounts.session (commands : List Command) :
    Accounts (gone ++ dispatcher.completed commands) (dispatcher.session commands).1 := by
  induction commands generalizing gone dispatcher with
  | nil =>
    rw [completed, List.append_nil]
    exact accounts
  | cons command rest ih =>
    have later := ih (accounts.obey command)
    rw [session_cons, completed, ← List.append_assoc]
    exact later

end Accounts

section Transcript
variable (dispatcher : Dispatcher Simulated)

theorem length_offered_session (commands : List Command) :
    ((dispatcher.session commands).2.filterMap (·.command.offered?)).length =
      (commands.filterMap Command.offered?).length := by
  have given := congrArg (List.filterMap Command.offered?) (dispatcher.commands_session commands)
  rw [List.filterMap_map, List.filterMap_reverse] at given
  exact (congrArg List.length given).trans List.length_reverse

/-- A moment in the transcript is a moment in the session. -/
theorem session_split {later past : Transcript}
    (made : (dispatcher.session commands).2 = later ++ past) :
    ∃ before after, commands = before ++ after ∧ (dispatcher.session before).2 = past ∧
      ((dispatcher.session before).1.session after).2 = later := by
  -- the transcript lists the newest exchange first, and the session ends with its command
  induction later generalizing commands with
  | nil => exact ⟨commands, [], (List.append_nil _).symm, made, rfl⟩
  | cons exchange later ih =>
    rcases List.eq_nil_or_concat commands with rfl | ⟨earlier, command, rfl⟩
    · contradiction
    · rw [List.concat_eq_append, session_concat] at made
      obtain ⟨rfl, rest⟩ := List.cons.inj made
      obtain ⟨before, after, rfl, reached, gone⟩ := ih rest
      refine ⟨before, after ++ [command], by simp, reached, ?_⟩
      rw [session_concat, session_append]
      exact congrArg (_ :: ·) gone

end Transcript

section Refusals
variable (dispatcher : Dispatcher Simulated)

theorem refusals_obey {command : Command} (unasked : command.isRefuseNext = false) :
    (dispatcher.obey command).1.transport.refusals =
      dispatcher.transport.refusals - command.offered?.toList.length := by
  have entered := congrArg Ledger.refusals (dispatcher.ledger_obey command)
  refine entered.trans ?_
  cases command with
  | dispatch event =>
    show _ - (List.filterMap Event.cutOut? [event]).length = _ - event.cutOut?.toList.length
    rw [List.filterMap_cons]
    cases event.cutOut? <;> rfl
  | request request => cases request <;> first | contradiction | rfl
  | takeConnection | checkCount | resetCount | install | registerShared | unregisterShared => rfl

theorem refusals_of_asked {count : Nat}
    (asked : (dispatcher.session commands).2 = ⟨.request (.refuseNext count), answer⟩ :: past) :
    (dispatcher.session commands).1.transport.refusals = count := by
  rcases List.eq_nil_or_concat commands with rfl | ⟨earlier, command, rfl⟩
  · contradiction
  · rw [List.concat_eq_append, session_concat] at asked ⊢
    obtain rfl : command = .request (.refuseNext count) :=
      congrArg Exchange.command (List.cons.inj asked).1
    rfl

/-- A usable message is refused while refusals are left. -/
theorem offeredOutcome_obey (command : Command) :
    Exchange.offeredOutcome? ⟨command, (dispatcher.obey command).2⟩ =
      command.offered?.map fun _ =>
        if dispatcher.transport.refusals = 0 then .forwarded else .refused := by
  cases command with
  | dispatch event =>
    show event.cutOut?.map (fun _ => (dispatcher.dispatch event).2) = event.cutOut?.map _
    rw [outcome_dispatch]
    cases event with
    | message event =>
      cases framed : event.window with
      | error fault => rw [Event.cutOut?_of_error framed]; rfl
      | ok window => rw [Event.fate_of_ok framed]
    | connect | heartbeat => rfl
  | request | takeConnection | checkCount | resetCount | install | registerShared
  | unregisterShared => rfl

/-- Messages are refused while refusals are left, and forwarded from then on. -/
theorem offeredOutcomes_session (commands : List Command)
    (unasked : ∀ command ∈ commands, command.isRefuseNext = false) :
    let offered := (commands.filterMap Command.offered?).length
    let refusals := dispatcher.transport.refusals
    (dispatcher.session commands).2.offeredOutcomes =
      List.replicate (min refusals offered) .refused ++
        List.replicate (offered - refusals) .forwarded := by
  induction commands generalizing dispatcher with
  | nil => simp [session, Transcript.offeredOutcomes]
  | cons command rest ih =>
    obtain ⟨first, later⟩ := List.forall_mem_cons.mp unasked
    have after := ih (dispatcher.obey command).1 later
    have left := dispatcher.refusals_obey first
    have now := dispatcher.offeredOutcome_obey command
    rw [session_cons, Transcript.offeredOutcomes_concat, now, after, left]
    cases offer : command.offered? with
    | none => simp [offer]
    | some message =>
      cases refusals : dispatcher.transport.refusals with
      | zero => simp [offer, List.replicate_succ]
      | succ remaining => simp [offer, List.replicate_succ, Nat.add_min_add_right]

theorem refused_obey (command : Command) :
    (dispatcher.obey command).1.transport.refused = dispatcher.transport.refused +
      if Exchange.isRefusal ⟨command, (dispatcher.obey command).2⟩ then 1 else 0 := by
  have entered := congrArg Ledger.refused (dispatcher.ledger_obey command)
  refine entered.trans ?_
  cases command with
  | dispatch event =>
    show (dispatcher.transport.ledger.enter [event]).refused = dispatcher.transport.refused +
      if Exchange.isRefusal ⟨.dispatch event, .outcome (dispatcher.dispatch event).2⟩ then 1 else 0
    rw [Ledger.refused_enter, outcome_dispatch]
    show _ + (if event.fate dispatcher.transport.refusals = .refused then 1 else 0) = _
    cases event.fate dispatcher.transport.refusals <;> rfl
  | request request => cases request <;> rfl
  | takeConnection | checkCount | resetCount | install | registerShared | unregisterShared => rfl

/-- What is usable and not refused is entered. -/
theorem messages_dispatch (event : MessageEvent) :
    (dispatcher.transport.ledger.enter [.message event]).messages =
      dispatcher.transport.messages.toList ++
        (Exchange.taken? ⟨.dispatch (.message event),
          .outcome ((Event.message event).fate dispatcher.transport.refusals)⟩).toList := by
  cases framed : event.window with
  | error fault =>
    rw [Ledger.enter_of_error framed, Event.fate_of_error framed, Exchange.taken?, Command.offered?,
      Event.cutOut?_of_error framed]
    exact (List.append_nil _).symm
  | ok window =>
    rw [Event.fate_of_ok framed, Exchange.taken?, Command.offered?, Event.cutOut?_of_ok framed]
    cases left : dispatcher.transport.refusals with
    | zero =>
      rw [Ledger.enter_of_accepting framed left]
      rfl
    | succ remaining =>
      rw [Ledger.enter_of_refusing framed left]
      exact (List.append_nil _).symm

theorem messages_obey (command : Command) :
    (dispatcher.obey command).1.transport.messages.toList =
      dispatcher.transport.messages.toList ++
        (Exchange.taken? ⟨command, (dispatcher.obey command).2⟩).toList := by
  have entered := congrArg Ledger.messages (dispatcher.ledger_obey command)
  refine entered.trans ?_
  cases command with
  | dispatch event =>
    cases event with
    | message event =>
      have taken := dispatcher.messages_dispatch event
      rw [← outcome_dispatch] at taken
      exact taken
    | connect | heartbeat => exact congrArg (_ ++ ·) (List.drop_nil ..)
  | request request =>
    cases request <;> exact (List.append_nil _).symm
  | takeConnection | checkCount | resetCount | install | registerShared | unregisterShared =>
    exact (List.append_nil _).symm

theorem messages_session (commands : List Command) :
    (dispatcher.session commands).1.transport.messages.toList =
      dispatcher.transport.messages.toList ++
        (dispatcher.session commands).2.reverse.filterMap Exchange.taken? := by
  induction commands using List.reverseRecOn with
  | nil => exact (List.append_nil _).symm
  | append_singleton commands command ih =>
    simp only [session_concat, messages_obey, ih, List.reverse_cons, List.filterMap_append,
      List.append_assoc]
    rfl

theorem refused_session (commands : List Command) :
    (dispatcher.session commands).1.transport.refused = dispatcher.transport.refused +
      (dispatcher.session commands).2.countP Exchange.isRefusal := by
  induction commands using List.reverseRecOn with
  | nil => rfl
  | append_singleton commands command ih =>
    simp only [session_concat, refused_obey, ih, List.countP_cons, Nat.add_assoc]

end Refusals

/-- The books of a transport, after any session with a new dispatcher. The messages that it has are
the usable ones that were not refused, in the order of their dispatch, and by their connections they
are those completed so far and those that wait. Of the usable messages dispatched since refusals
were asked for, and until they are asked for again, as many as were asked for are refused and all
later ones are forwarded. The refused ones are counted. -/
theorem transport_bookkeeping (clock : Clock) (channel : ErrorChannel) (config : Config)
    (commands : List Command) :
    let fresh := Dispatcher.withClock ({} : Simulated) clock channel config
    let (reached, past) := fresh.session commands
    past.map Exchange.command = commands.reverse ∧
      reached.transport.messages.toList = past.reverse.filterMap Exchange.taken? ∧
      reached.transport.messages.toList.map FramedMessage.connection =
        fresh.completed commands ++ reached.transport.awaiting.toList ∧
      (∀ later segment count answer earlier,
        past = later ++ (segment ++ ⟨.request (.refuseNext count), answer⟩ :: earlier) →
        (∀ exchange ∈ segment, exchange.command.isRefuseNext = false) →
        let offered := (segment.filterMap (·.command.offered?)).length
        Transcript.offeredOutcomes segment =
          List.replicate (min count offered) .refused ++
            List.replicate (offered - count) .forwarded) ∧
      reached.transport.refused = past.countP Exchange.isRefusal := by
  let fresh := Dispatcher.withClock ({} : Simulated) clock channel config
  have accounts : Accounts [] fresh := ⟨rfl, rfl⟩
  refine ⟨fresh.commands_session commands, fresh.messages_session commands,
    (accounts.session commands).connections, ?_, ?_⟩
  · intro later segment count answer earlier made unasked
    obtain ⟨_, _, -, made, -⟩ := fresh.session_split made
    obtain ⟨before, after, -, asked, rfl⟩ := fresh.session_split made
    let reached := (fresh.session before).1
    have given := reached.commands_session after
    have outcomes := reached.offeredOutcomes_session after ?_
    · rw [fresh.refusals_of_asked asked, ← reached.length_offered_session after] at outcomes
      exact outcomes
    · intro command member
      rw [← List.mem_reverse, ← given] at member
      obtain ⟨exchange, inside, rfl⟩ := List.mem_map.mp member
      exact unasked exchange inside
  · exact (fresh.refused_session commands).trans (Nat.zero_add _)

end Dispatcher
end SessionReplay
