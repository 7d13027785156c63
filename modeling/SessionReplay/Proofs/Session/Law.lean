import SessionReplay.Proofs.Session.Reports

/-! The law of a whole session with a dispatcher over a simulated transport. Whatever
is asked of it in whatever order, the transcript alone tells the time, the count, the
pending connection, whether an operation is open, and every violation in order. -/
namespace SessionReplay.Dispatcher

/-- The dispatcher stands where its transcript says, from the beginning on. -/
structure Recounts (start : Word) (past : Transcript) (dispatcher : Dispatcher Simulated) :
    Prop extends Reports {} false past dispatcher where
  now : dispatcher.now = past.stamps.foldl max start
  count : dispatcher.count = min past.sinceReset countCap
  pending : dispatcher.pending = past.unread
  refusals : dispatcher.transport.refusals = past.refusals
  awaiting : dispatcher.awaiting = past.awaiting

variable {start : Word} {past : Transcript} {dispatcher : Dispatcher Simulated}

theorem recounts_new (config : Config) :
    Recounts config.initialTime [] (Dispatcher.new ({} : Simulated) .collecting config) :=
  ⟨⟨rfl, rfl, rfl, rfl, rfl⟩, rfl, rfl, rfl, rfl, rfl⟩

section Steps
variable (recounts : Recounts start past dispatcher)
include recounts

theorem Recounts.dispatch (event : Event) :
    Recounts start
      (⟨.dispatch event, .outcome (dispatcher.dispatch event).2⟩ :: past)
      (dispatcher.dispatch event).1 := by
  have effect := dispatcher.dispatched event
  refine ⟨recounts.toReports.obey (.dispatch event), ?_, ?_, ?_, ?_, ?_⟩
  · rw [effect.now, recounts.now, Transcript.stamps, List.foldl_append]
    rfl
  · rw [effect.count, recounts.count, Transcript.sinceReset]
    omega
  · rw [effect.pending, recounts.pending]
    cases event <;> rfl
  · rw [effect.refusals, recounts.refusals]
    rfl
  · rw [effect.awaiting, recounts.awaiting]
    rfl

/-- Completing messages shortens the queue and changes nothing else of what is recounted. -/
theorem Recounts.complete {exchange : Exchange} (completed : Completed dispatcher ended after)
    (reports : Reports {} false (exchange :: past) after)
    (told : Transcript.stamps (exchange :: past) = past.stamps ∧
      Transcript.sinceReset (exchange :: past) = past.sinceReset ∧
      Transcript.unread (exchange :: past) = past.unread ∧
      Transcript.refusals (exchange :: past) = past.refusals ∧
      Transcript.awaiting (exchange :: past) = past.awaiting.drop ended) :
    Recounts start (exchange :: past) after := by
  obtain ⟨stamps, sinceReset, unread, refusals, left⟩ := told
  refine ⟨reports, ?_, ?_, ?_, ?_, ?_⟩
  · rw [completed.now, recounts.now, stamps]
  · rw [completed.count, recounts.count, sinceReset]
  · rw [completed.pending, recounts.pending, unread]
  · rw [completed.refusals, recounts.refusals, refusals]
  · rw [completed.awaiting, recounts.awaiting, left]

theorem Recounts.request (request : Request) :
    Recounts start (⟨.request request, .request (dispatcher.request request).2⟩ :: past)
      (dispatcher.request request).1 := by
  have reports := recounts.toReports.obey (.request request)
  cases request with
  | completeNext =>
    have completed := (completed_next recounts.registered).2
    refine recounts.complete completed reports ⟨rfl, rfl, rfl, rfl, ?_⟩
    rw [Transcript.awaiting, recounts.awaiting]
    cases past.awaiting <;> simp
  | completeAll =>
    have completed := (completed_all recounts.registered).2
    refine recounts.complete completed reports ⟨rfl, rfl, rfl, rfl, ?_⟩
    rw [Transcript.awaiting, recounts.awaiting, List.drop_length]
  | completeSpurious | answer =>
    exact ⟨reports, recounts.now, recounts.count, recounts.pending, recounts.refusals,
      recounts.awaiting⟩
  | refuseNext count =>
    exact ⟨reports, recounts.now, recounts.count, recounts.pending, rfl, recounts.awaiting⟩

theorem Recounts.takeConnection :
    Recounts start (⟨.takeConnection, .taken dispatcher.takeConnection.2⟩ :: past)
      dispatcher.takeConnection.1 := by
  have reports := recounts.toReports.obey .takeConnection
  rw [Dispatcher.obey] at reports
  cases waiting : dispatcher.pending with
  | none =>
    rw [takeConnection_of_none waiting] at reports ⊢
    exact ⟨reports, recounts.now, recounts.count, recounts.pending, recounts.refusals,
      recounts.awaiting⟩
  | some connection =>
    rw [takeConnection_of_some waiting] at reports ⊢
    exact ⟨reports, recounts.now, recounts.count, rfl, recounts.refusals, recounts.awaiting⟩

theorem Recounts.obey (command : Command) :
    Recounts start (⟨command, (dispatcher.obey command).2⟩ :: past)
      (dispatcher.obey command).1 := by
  have reports := recounts.toReports.obey command
  cases command with
  | dispatch event => exact recounts.dispatch event
  | request request => exact recounts.request request
  | takeConnection => exact recounts.takeConnection
  | resetCount =>
    exact ⟨reports, recounts.now, rfl, recounts.pending, recounts.refusals, recounts.awaiting⟩
  | checkCount limit =>
    obtain ⟨_, _, looked, -⟩ := dispatcher.checkCount_eq limit
    have same : (dispatcher.obey (.checkCount limit)).1 = _ := looked
    rw [same] at reports ⊢
    exact ⟨reports, recounts.now, recounts.count, recounts.pending, recounts.refusals,
      recounts.awaiting⟩
  | install | registerShared | unregisterShared =>
    exact ⟨reports, recounts.now, recounts.count, recounts.pending, recounts.refusals,
      recounts.awaiting⟩

/-- The answer to the next command is known before it is given. -/
theorem Recounts.answered (command : Command) :
    (dispatcher.obey command).2 = past.answer command := by
  cases command with
  | dispatch event =>
    have outcome := dispatcher.outcome_dispatch event
    rw [recounts.refusals] at outcome
    exact congrArg Answer.outcome outcome
  | request request =>
    cases request with
    | completeNext =>
      have answer := (completed_next recounts.registered).1
      rw [recounts.awaiting] at answer
      exact congrArg Answer.request answer
    | completeAll =>
      have answer := (completed_all recounts.registered).1
      rw [recounts.awaiting] at answer
      exact congrArg Answer.request answer
    | completeSpurious | refuseNext | answer => rfl
  | takeConnection =>
    rw [Dispatcher.obey, Transcript.answer, ← recounts.pending]
    cases waiting : dispatcher.pending with
    | none => rw [takeConnection_of_none waiting]
    | some connection => rw [takeConnection_of_some waiting]
  | resetCount => rfl
  | checkCount limit =>
    rw [Dispatcher.obey, Transcript.answer, ← recounts.count]
    by_cases within : dispatcher.count ≤ limit
    · simp [checkCount, within]
    · simp [checkCount, within, Nat.not_le.mp within]
  | install owners => rfl
  | registerShared info => rw [Dispatcher.obey, Transcript.answer, ← recounts.owners]
  | unregisterShared owner => rw [Dispatcher.obey, Transcript.answer, ← recounts.owners]

end Steps

theorem recounts_session (config : Config) (commands : List Command) :
    Recounts config.initialTime
      ((Dispatcher.new ({} : Simulated) .collecting config).session commands).2
      ((Dispatcher.new ({} : Simulated) .collecting config).session commands).1 := by
  induction commands using List.reverseRecOn with
  | nil => exact recounts_new config
  | append_singleton commands command ih =>
    rw [session_concat]
    exact ih.obey command

/-- After any commands to a fresh dispatcher, the transcript is of these commands, and it tells the
state, every violation in order, and the answer to whatever is asked next. In particular a
connection id can be taken if and only if one is unread, and it is that one. -/
theorem session_law (config : Config) (commands : List Command) :
    let (dispatcher, past) :=
      (Dispatcher.new ({} : Simulated) .collecting config).session commands
    past.map Exchange.command = commands.reverse ∧
      dispatcher.now = past.stamps.foldl max config.initialTime ∧
      dispatcher.count = min past.sinceReset countCap ∧
      dispatcher.inFlight = past.stillOpen ∧
      dispatcher.pending = past.unread ∧
      dispatcher.violations = past.findings ∧
      ∀ command, (dispatcher.obey command).2 = past.answer command := by
  have recounts := recounts_session config commands
  exact ⟨commands_session _ commands, recounts.now, recounts.count, recounts.inFlight,
    recounts.pending, recounts.violations, recounts.answered⟩

/-- An operation that a connect left open, the wrong completion of it, and a count that starts
again. -/
theorem session_law_of_connect :
    let connect : Command := .dispatch (.connect ⟨4, 0, 8, "", []⟩)
    let commands : List Command := [.dispatch (.heartbeat ⟨9, 7⟩), connect, .resetCount, connect,
      .takeConnection, .request .completeSpurious]
    let (dispatcher, past) :=
      (Dispatcher.new ({} : Simulated) .collecting {}).session commands
    past.map Exchange.command = commands.reverse ∧ dispatcher.now = 9 ∧ dispatcher.count = 1 ∧
      dispatcher.inFlight = false ∧ dispatcher.pending = none ∧
      dispatcher.violations = [.registryMissing 7, .overlappingOperation, .unmatchedCompletion] ∧
      (dispatcher.obey .takeConnection).2 = .taken (.error .noConnectPending) := by
  intro connect commands
  obtain ⟨given, now, count, inFlight, pending, violations, answered⟩ := session_law {} commands
  exact ⟨given, now.trans (by decide +kernel), count, inFlight, pending,
    violations.trans (by decide +kernel), answered .takeConnection⟩

end SessionReplay.Dispatcher
