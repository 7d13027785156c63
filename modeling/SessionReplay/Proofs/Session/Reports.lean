import SessionReplay.Proofs.Session.Transcript

/-! What a session has to report. A command reports by the registries that are installed and by
whether an operation is open; it changes both in the open; and nothing else has a part in it. So
whatever a session begins with, its transcript tells every violation in order. -/
namespace SessionReplay.Dispatcher
open Operations (isOpen breaches completions)

theorem owners_obey (dispatcher : Dispatcher Simulated) (command : Command) :
    (dispatcher.obey command).1.owners = command.onOwners dispatcher.owners := by
  cases command with
  | dispatch event => exact congrArg Setting.owners (dispatcher.dispatched event).setting
  | takeConnection =>
    rw [obey, takeConnection]
    cases dispatcher.pending <;> rfl
  | checkCount limit =>
    obtain ⟨_, _, looked, -⟩ := dispatcher.checkCount_eq limit
    have same := congrArg Dispatcher.owners looked
    exact same
  | request | resetCount | install | registerShared | unregisterShared => rfl

/-- What an exchange changes of that by which violations are reported, and what it reports. -/
structure Obeyed (before : Dispatcher Simulated) (exchange : Exchange)
    (after : Dispatcher Simulated) : Prop where
  registered : after.transport.registered = before.transport.registered
  channel : after.channel = before.channel
  inFlight : after.inFlight = isOpen before.inFlight exchange.calls
  violations : after.violations = before.violations ++
    before.channel.kept (exchange.findings before.owners before.inFlight)

section Commands
variable {dispatcher after : Dispatcher Simulated}

/-- Messages that are completed count as so many completions, whoever asked for them. -/
theorem Completed.obeyed {request : Request} {answer : RequestAnswer}
    (completed : Completed dispatcher ended after)
    (calls : Exchange.calls ⟨.request request, .request answer⟩ = completions ended) :
    Obeyed dispatcher ⟨.request request, .request answer⟩ after where
  registered := congrArg Setting.registered completed.setting
  channel := congrArg Setting.channel completed.setting
  inFlight := by rw [completed.inFlight, calls]
  violations := by
    rw [completed.violations, ← calls]
    rfl

/-- One completion that no message stands behind. -/
theorem obeyed_finish {exchange : Exchange} (calls : exchange.calls = [.finish])
    (found : exchange.findings dispatcher.owners dispatcher.inFlight =
      breaches dispatcher.inFlight exchange.calls)
    (registered : after.transport.registered = dispatcher.transport.registered)
    (finished : after.operations = dispatcher.operations.finish) :
    Obeyed dispatcher exchange after where
  registered := registered
  channel := (congrArg Operations.channel finished).trans (Operations.channel_finish _)
  inFlight := by
    rw [calls]
    exact congrArg Operations.inFlight finished
  violations := by
    rw [found, calls, breaches, breaches, List.append_nil]
    exact (congrArg Operations.violations finished).trans (Operations.violations_finish _)

/-- Nothing is reported where the operations are left as they are. -/
theorem obeyed_quiet {exchange : Exchange} (calls : exchange.calls = [])
    (found : exchange.findings dispatcher.owners dispatcher.inFlight = [])
    (registered : after.transport.registered = dispatcher.transport.registered)
    (channel : after.channel = dispatcher.channel) (inFlight : after.inFlight = dispatcher.inFlight)
    (violations : after.violations = dispatcher.violations) : Obeyed dispatcher exchange after where
  registered := registered
  channel := channel
  inFlight := by
    rw [calls, inFlight]
    rfl
  violations := by
    rw [found, ErrorChannel.kept_nil, List.append_nil, violations]

theorem obeyed_dispatch (event : Event) :
    Obeyed dispatcher ⟨.dispatch event, .outcome (dispatcher.dispatch event).2⟩
      (dispatcher.dispatch event).1 := by
  have effect := dispatcher.dispatched event
  constructor
  · exact congrArg Setting.registered effect.setting
  · exact congrArg Setting.channel effect.setting
  · rw [effect.inFlight]
    cases event <;> rfl
  · exact effect.violations

theorem obeyed_request (registered : dispatcher.transport.registered = true) (request : Request) :
    Obeyed dispatcher ⟨.request request, .request (dispatcher.request request).2⟩
      (dispatcher.request request).1 := by
  cases request with
  | completeNext =>
    obtain ⟨answer, completed⟩ := completed_next registered
    rw [answer]
    apply completed.obeyed
    cases dispatcher.awaiting <;> simp [Exchange.calls, completions]
  | completeAll =>
    obtain ⟨answer, completed⟩ := completed_all registered
    rw [answer]
    exact completed.obeyed rfl
  | completeSpurious =>
    refine obeyed_finish rfl rfl rfl ?_
    simp only [Dispatcher.request, Transport.request, Simulated.request,
      Simulated.completeSpurious, registered, if_true]
  | refuseNext | answer => exact obeyed_quiet rfl rfl rfl rfl rfl rfl

theorem obeyed_takeConnection :
    Obeyed dispatcher ⟨.takeConnection, .taken dispatcher.takeConnection.2⟩
      dispatcher.takeConnection.1 := by
  cases waiting : dispatcher.pending with
  | none =>
    rw [takeConnection_of_none waiting]
    exact ⟨rfl, rfl, rfl, dispatcher.violations_report _⟩
  | some connection =>
    rw [takeConnection_of_some waiting]
    exact obeyed_finish rfl rfl rfl rfl

theorem obeyed (registered : dispatcher.transport.registered = true) (command : Command) :
    Obeyed dispatcher ⟨command, (dispatcher.obey command).2⟩ (dispatcher.obey command).1 := by
  cases command with
  | dispatch event => exact obeyed_dispatch event
  | request request => exact obeyed_request registered request
  | takeConnection => exact obeyed_takeConnection
  | checkCount limit =>
    obtain ⟨_, _, looked, inFlight, channel, violations⟩ := dispatcher.checkCount_eq limit
    have same : (dispatcher.obey (.checkCount limit)).1 = _ := looked
    rw [same]
    exact obeyed_quiet rfl rfl rfl channel inFlight violations
  | resetCount | install | registerShared | unregisterShared =>
    exact obeyed_quiet rfl rfl rfl rfl rfl rfl

end Commands

/-- The dispatcher reported what the transcript has to report, and stands where it says. -/
structure Reports (first : Owners) (wasOpen : Bool) (past : Transcript)
    (dispatcher : Dispatcher Simulated) : Prop where
  registered : dispatcher.transport.registered = true
  channel : dispatcher.channel = .collecting
  owners : dispatcher.owners = past.owners first
  inFlight : dispatcher.inFlight = past.stillOpen wasOpen
  violations : dispatcher.violations = past.findings first wasOpen

section Sessions
variable {first : Owners} {wasOpen : Bool} {past : Transcript} {dispatcher : Dispatcher Simulated}

theorem Reports.obey (reports : Reports first wasOpen past dispatcher) (command : Command) :
    Reports first wasOpen (⟨command, (dispatcher.obey command).2⟩ :: past)
      (dispatcher.obey command).1 := by
  have effect := obeyed reports.registered command
  constructor
  · exact effect.registered.trans reports.registered
  · exact effect.channel.trans reports.channel
  · rw [owners_obey, reports.owners]
    rfl
  · rw [effect.inFlight, reports.inFlight, Transcript.stillOpen_cons]
  · rw [effect.violations, reports.violations, reports.channel, reports.owners, reports.inFlight]
    rfl

theorem Reports.session (reports : Reports first wasOpen [] dispatcher) (commands : List Command) :
    Reports first wasOpen (dispatcher.session commands).2 (dispatcher.session commands).1 := by
  induction commands using List.reverseRecOn with
  | nil => exact reports
  | append_singleton commands command ih =>
    rw [session_concat]
    exact ih.obey command

end Sessions
end SessionReplay.Dispatcher
