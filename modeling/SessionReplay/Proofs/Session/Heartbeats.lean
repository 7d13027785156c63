import SessionReplay.Proofs.Clock.Latest
import SessionReplay.Proofs.Dispatcher.Framing
import SessionReplay.Proofs.Session.Provenance
import SessionReplay.Proofs.Session.Records
import SessionReplay.Proofs.Transport.Requests

/-! Sessions with and without their heartbeats. A heartbeat moves the clock, is counted and has its
owner judged; nothing that a later command reads depends on that, except a look at the count. So a
session that leaves its heartbeats out goes on as the one that has them. -/
namespace SessionReplay

namespace Command

def isHeartbeat : Command → Bool
  | .dispatch (.heartbeat _) => true
  | _ => false

def looksAtCount : Command → Bool
  | .checkCount _ => true
  | _ => false

end Command

def withoutHeartbeats (commands : List Command) : List Command :=
  commands.filter fun command => !command.isHeartbeat

/-- The exchanges that are neither heartbeats nor looks at the count. -/
def apartFromHeartbeats (past : Transcript) : Transcript :=
  past.filter fun exchange => !exchange.command.isHeartbeat && !exchange.command.looksAtCount

namespace Dispatcher

def reportedBy (dispatcher : Dispatcher Simulated) (command : Command) : List Violation :=
  (dispatcher.obey command).1.violations.drop dispatcher.violations.length

/-- The commands of a session, each with what is reported when it is given. -/
def reports (dispatcher : Dispatcher Simulated) : List Command → List (Command × List Violation)
  | [] => []
  | command :: rest =>
    (command, dispatcher.reportedBy command) :: (dispatcher.obey command).1.reports rest

theorem reportedBy_eq {dispatcher : Dispatcher Simulated} {command : Command}
    (added : (dispatcher.obey command).1.violations = dispatcher.violations ++ found) :
    dispatcher.reportedBy command = found := by
  rw [reportedBy, added, List.drop_left]

/-- A dispatcher that was spared heartbeats which the other one was given. Their clocks, counts and
trails may differ, and the clock of the spared one is not ahead. -/
structure Spared (given spared : Dispatcher Simulated) : Prop where
  transport : spared.transport = given.transport
  owners : spared.owners = given.owners
  pending : spared.pending = given.pending
  inFlight : spared.inFlight = given.inFlight
  channel : spared.channel = given.channel
  now : spared.now ≤ given.now

/-- Both dispatchers went on alike, and they reported the same on the way. -/
structure SparedOn (given spared next after : Dispatcher Simulated) : Prop
    extends Spared next after where
  violations : ∃ found, next.violations = given.violations ++ found ∧
    after.violations = spared.violations ++ found

theorem SparedOn.of_silent {given spared next after : Dispatcher Simulated}
    (ahead : Spared next after) (one : next.violations = given.violations)
    (two : after.violations = spared.violations) : SparedOn given spared next after :=
  ⟨ahead, [], by rw [one, List.append_nil], by rw [two, List.append_nil]⟩

theorem spared_refl (dispatcher : Dispatcher Simulated) : Spared dispatcher dispatcher :=
  ⟨rfl, rfl, rfl, rfl, rfl, UInt64.le_refl _⟩

section Heartbeat
variable {given spared : Dispatcher Simulated}

/-- A heartbeat has its owner judged, and nothing else is reported about it. -/
theorem reportedBy_heartbeat (dispatcher : Dispatcher Simulated) (event : Heartbeat) :
    dispatcher.reportedBy (.dispatch (.heartbeat event)) =
      dispatcher.channel.kept (dispatcher.owners.findings event.owner) := by
  have dispatched := dispatcher.dispatched (.heartbeat event)
  apply reportedBy_eq
  rw [← Event.findings_heartbeat dispatcher.owners dispatcher.inFlight]
  exact dispatched.violations

theorem reportedBy_heartbeat_owner (dispatcher : Dispatcher Simulated) (event : Heartbeat) :
    (dispatcher.reportedBy (.dispatch (.heartbeat event))).length ≤ 1 ∧
      ∀ violation ∈ dispatcher.reportedBy (.dispatch (.heartbeat event)),
        violation.concernsOwner = true := by
  rw [reportedBy_heartbeat]
  unfold ErrorChannel.kept Owners.findings
  constructor
  · split
    · split
      · simp
      · split <;> simp
    · simp
  · intro violation reported
    split at reported
    · split at reported
      · contradiction
      · split at reported <;> rw [List.mem_singleton.mp reported] <;> rfl
    · contradiction

theorem Spared.heartbeat (ahead : Spared given spared) (event : Heartbeat) :
    Spared (given.onHeartbeat event).1 spared := by
  have dispatched := given.dispatched (.heartbeat event)
  have setting := dispatched.setting
  refine ⟨ahead.transport, ahead.owners.trans (congrArg Setting.owners setting).symm,
    ahead.pending, ahead.inFlight.trans dispatched.inFlight.symm,
    ahead.channel.trans (congrArg Setting.channel setting).symm, ?_⟩
  exact UInt64.le_trans ahead.now (given.clock.le_advance event.timestamp)

end Heartbeat

section Both
variable {given spared : Dispatcher Simulated}

theorem transport_dispatch (same : spared.transport = given.transport) (event : Event) :
    (spared.dispatch event).1.transport = (given.dispatch event).1.transport := by
  cases event with
  | message event =>
    cases framed : event.window with
    | error fault =>
      have one := (@letGo_of_error Simulated _ given event fault framed).2.transport
      have two := (@letGo_of_error Simulated _ spared event fault framed).2.transport
      exact two.trans (same.trans one.symm)
    | ok window =>
      have one := (@handed_of_ok Simulated _ given event window framed).2
      have two := (@handed_of_ok Simulated _ spared event window framed).2
      rw [same] at two
      exact two.trans ((given.transport.enqueueMessage_decided _ _ _).trans one.symm)
  | connect event => exact congrArg (·.enqueueConnect event) same
  | heartbeat event => exact same

variable (ahead : Spared given spared)
include ahead

theorem Spared.dispatch (event : Event) :
    SparedOn given spared (given.dispatch event).1 (spared.dispatch event).1 ∧
      (spared.dispatch event).2 = (given.dispatch event).2 := by
  have outcome : (spared.dispatch event).2 = (given.dispatch event).2 := by
    rw [outcome_dispatch, outcome_dispatch, ahead.transport]
  have one := given.dispatched event
  have two := spared.dispatched event
  refine ⟨⟨⟨transport_dispatch ahead.transport event, ?_, ?_, ?_, ?_, ?_⟩, ?_⟩, outcome⟩
  · exact agree_of_setting Setting.owners one.setting two.setting ahead.owners
  · rw [one.pending, two.pending, ahead.pending]
  · rw [one.inFlight, two.inFlight, ahead.inFlight]
  · exact agree_of_setting Setting.channel one.setting two.setting ahead.channel
  · rw [one.now, two.now]
    exact Clock.advance_le_advance ahead.now event.timestamp
  · refine ⟨_, one.violations, ?_⟩
    rw [two.violations, outcome, ahead.channel, ahead.owners, ahead.inFlight]

/-- Calls on the operation, while the transports become the same. -/
theorem Spared.perform (calls : List Operations.Call) (next : Simulated) :
    SparedOn given spared
      { given with transport := next, operations := given.operations.performAll calls }
      { spared with transport := next, operations := spared.operations.performAll calls } := by
  have inFlight : spared.operations.inFlight = given.operations.inFlight := ahead.inFlight
  have channel : spared.operations.channel = given.operations.channel := ahead.channel
  refine ⟨⟨rfl, ahead.owners, ahead.pending, ?_, ?_, ahead.now⟩, ?_⟩
  · show (spared.operations.performAll calls).inFlight =
      (given.operations.performAll calls).inFlight
    rw [Operations.inFlight_performAll, Operations.inFlight_performAll, inFlight]
  · show (spared.operations.performAll calls).channel = (given.operations.performAll calls).channel
    rw [Operations.channel_performAll, Operations.channel_performAll, channel]
  · refine ⟨_, Operations.violations_performAll _ calls, ?_⟩
    rw [← inFlight, ← channel]
    exact Operations.violations_performAll _ calls

theorem Spared.request (request : Request) :
    SparedOn given spared (given.request request).1 (spared.request request).1 ∧
      (spared.request request).2 = (given.request request).2 := by
  obtain ⟨next, calls, answer, decided⟩ := given.transport.request_decided request
  simp only [Dispatcher.request, Transport.request, ahead.transport, decided]
  exact ⟨ahead.perform calls next, trivial⟩

theorem Spared.takeConnection :
    SparedOn given spared given.takeConnection.1 spared.takeConnection.1 ∧
      spared.takeConnection.2 = given.takeConnection.2 := by
  cases waiting : given.pending with
  | none =>
    rw [takeConnection_of_none waiting, takeConnection_of_none (ahead.pending.trans waiting)]
    refine ⟨⟨{ ahead with }, _, violations_report given _, ?_⟩, rfl⟩
    rw [← ahead.channel]
    exact violations_report spared _
  | some connection =>
    rw [takeConnection_of_some waiting, takeConnection_of_some (ahead.pending.trans waiting)]
    have untaken : Spared { given with pending := none } { spared with pending := none } :=
      { ahead with pending := rfl }
    have taken := untaken.perform [.finish] given.transport
    exact ⟨{ taken with transport := ahead.transport }, rfl⟩

/-- Given the same command, the dispatchers report the same, and they answer the same unless they
are asked for the count. -/
theorem Spared.obey (command : Command) :
    SparedOn given spared (given.obey command).1 (spared.obey command).1 ∧
      (command.looksAtCount = false → (spared.obey command).2 = (given.obey command).2) := by
  cases command with
  | dispatch event =>
    obtain ⟨after, outcome⟩ := ahead.dispatch event
    exact ⟨after, fun _ => congrArg Answer.outcome outcome⟩
  | request request =>
    obtain ⟨after, answer⟩ := ahead.request request
    exact ⟨after, fun _ => congrArg Answer.request answer⟩
  | takeConnection =>
    obtain ⟨after, taken⟩ := ahead.takeConnection
    exact ⟨after, fun _ => congrArg Answer.taken taken⟩
  | resetCount => exact ⟨.of_silent { ahead with } rfl rfl, fun _ => rfl⟩
  | checkCount limit =>
    obtain ⟨_, _, one, open₁, channel₁, violations₁⟩ := given.checkCount_eq limit
    obtain ⟨_, _, two, open₂, channel₂, violations₂⟩ := spared.checkCount_eq limit
    simp only [Dispatcher.obey, one, two]
    refine ⟨.of_silent { ahead with inFlight := ?_, channel := ?_ } violations₁ violations₂,
      fun looks => Bool.noConfusion looks⟩
    · exact open₂.trans (ahead.inFlight.trans open₁.symm)
    · exact channel₂.trans (ahead.channel.trans channel₁.symm)
  | install owners => exact ⟨.of_silent { ahead with owners := rfl } rfl rfl, fun _ => rfl⟩
  | registerShared info =>
    have registered := congrArg (Owners.registerShared · info) ahead.owners
    exact ⟨.of_silent { ahead with owners := congrArg Prod.fst registered } rfl rfl,
      fun _ => congrArg Answer.flag (congrArg Prod.snd registered)⟩
  | unregisterShared owner =>
    have unregistered := congrArg (Owners.unregisterShared · owner) ahead.owners
    exact ⟨.of_silent { ahead with owners := congrArg Prod.fst unregistered } rfl rfl,
      fun _ => congrArg Answer.flag (congrArg Prod.snd unregistered)⟩

end Both

theorem violations_obey (dispatcher : Dispatcher Simulated) (command : Command) :
    (dispatcher.obey command).1.violations =
      dispatcher.violations ++ dispatcher.reportedBy command := by
  obtain ⟨found, given, -⟩ := ((spared_refl dispatcher).obey command).1.violations
  rw [reportedBy_eq given]
  exact given

/-- Everything a session reports is reported at one of its commands. -/
theorem violations_session (dispatcher : Dispatcher Simulated) (commands : List Command) :
    (dispatcher.session commands).1.violations =
      dispatcher.violations ++ (dispatcher.reports commands).flatMap Prod.snd := by
  induction commands generalizing dispatcher with
  | nil => exact (List.append_nil _).symm
  | cons command rest ih =>
    rw [session_cons]
    simp only [ih, violations_obey, reports, List.flatMap_cons, List.append_assoc]

theorem apartFromHeartbeats_concat (past : Transcript) (exchange : Exchange) :
    apartFromHeartbeats (past ++ [exchange]) =
      apartFromHeartbeats past ++ apartFromHeartbeats [exchange] :=
  List.filter_append ..

/-- The session without heartbeats goes on as the one with them. -/
theorem Spared.session {given spared : Dispatcher Simulated} (ahead : Spared given spared)
    (commands : List Command) :
    Spared (given.session commands).1 (spared.session (withoutHeartbeats commands)).1 ∧
      apartFromHeartbeats (spared.session (withoutHeartbeats commands)).2 =
        apartFromHeartbeats (given.session commands).2 ∧
      spared.reports (withoutHeartbeats commands) =
        (given.reports commands).filter fun entry => !entry.1.isHeartbeat := by
  induction commands generalizing given spared with
  | nil => exact ⟨ahead, rfl, rfl⟩
  | cons command rest ih =>
    cases beats : command.isHeartbeat with
    | true =>
      obtain ⟨event, rfl⟩ : ∃ event, command = .dispatch (.heartbeat event) := by
        unfold Command.isHeartbeat at beats
        split at beats
        · exact ⟨_, rfl⟩
        · contradiction
      obtain ⟨after, answers, reports⟩ := ih (ahead.heartbeat event)
      rw [session_cons]
      refine ⟨after, ?_, reports⟩
      rw [apartFromHeartbeats_concat]
      exact answers.trans (List.append_nil _).symm
    | false =>
      obtain ⟨step, answer⟩ := ahead.obey command
      obtain ⟨found, one, two⟩ := step.violations
      obtain ⟨after, answers, reports⟩ := ih step.toSpared
      have kept : withoutHeartbeats (command :: rest) = command :: withoutHeartbeats rest := by
        simp [withoutHeartbeats, beats]
      rw [kept, session_cons, session_cons]
      refine ⟨after, ?_, ?_⟩
      · rw [apartFromHeartbeats_concat, apartFromHeartbeats_concat, answers]
        cases looks : command.looksAtCount with
        | true => simp [apartFromHeartbeats, looks]
        | false => rw [answer looks]
      · simp [Dispatcher.reports, reports, beats, reportedBy_eq one, reportedBy_eq two]

theorem heartbeats_in_reports (dispatcher : Dispatcher Simulated) (commands : List Command) :
    ∀ entry ∈ dispatcher.reports commands, entry.1.isHeartbeat = true →
      entry.2.length ≤ 1 ∧ ∀ violation ∈ entry.2, violation.concernsOwner = true := by
  induction commands generalizing dispatcher with
  | nil => nofun
  | cons command rest ih =>
    rintro entry reported beats
    rcases List.mem_cons.mp reported with rfl | later
    · match command, beats with
      | .dispatch (.heartbeat event), _ => exact dispatcher.reportedBy_heartbeat_owner event
    · exact ih _ entry later beats

/-- Left out of a session, its heartbeats are not missed. After any commands, and so after each of
them, the transport, the open operation and the pending connection id are the same, and every other
command was answered the same, but for looks at the count. The violations are those of the whole
session less what was reported at heartbeats, at most one violation at each and always about an
owner. The clock is not ahead. -/
theorem heartbeats_not_missed (dispatcher : Dispatcher Simulated) (commands : List Command) :
    let (given, answers) := dispatcher.session commands
    let (spared, answersToo) := dispatcher.session (withoutHeartbeats commands)
    let reports := dispatcher.reports commands
    apartFromHeartbeats answersToo = apartFromHeartbeats answers ∧
      spared.transport = given.transport ∧ spared.inFlight = given.inFlight ∧
      spared.pending = given.pending ∧
      given.violations = dispatcher.violations ++ reports.flatMap Prod.snd ∧
      spared.violations = dispatcher.violations ++
        (reports.filter fun entry => !entry.1.isHeartbeat).flatMap Prod.snd ∧
      (∀ entry ∈ reports, entry.1.isHeartbeat = true →
        entry.2.length ≤ 1 ∧ ∀ violation ∈ entry.2, violation.concernsOwner = true) ∧
      spared.now ≤ given.now := by
  obtain ⟨ahead, answers, reports⟩ := dispatcher.spared_refl.session commands
  have violations := dispatcher.violations_session (withoutHeartbeats commands)
  rw [reports] at violations
  exact ⟨answers, ahead.transport, ahead.inFlight, ahead.pending,
    dispatcher.violations_session commands, violations, dispatcher.heartbeats_in_reports commands,
    ahead.now⟩

end Dispatcher
end SessionReplay
