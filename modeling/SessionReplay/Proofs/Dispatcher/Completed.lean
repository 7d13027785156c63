import SessionReplay.Proofs.Dispatcher.Dispatch

/-! Completions as a dispatcher sees them: messages leave the queue, the oldest first,
and for each of them the operations receive one completion. A completion without a
message and the taking of a connection id complete an operation in the same way, and a
look at the count completes none. -/
namespace SessionReplay.Dispatcher
open Operations (isOpen breaches completions)

/-- The effect of completing the `ended` oldest messages. -/
structure Completed (before : Dispatcher Simulated) (ended : Nat) (after : Dispatcher Simulated) :
    Prop where
  setting : after.setting = before.setting
  now : after.now = before.now
  count : after.count = before.count
  pending : after.pending = before.pending
  inFlight : after.inFlight = isOpen before.inFlight (completions ended)
  violations : after.violations = before.violations ++
    before.channel.kept (breaches before.inFlight (completions ended))
  refusals : after.transport.refusals = before.transport.refusals
  awaiting : after.awaiting = before.awaiting.drop ended
  enough : ended ≤ before.awaiting.length

variable {dispatcher : Dispatcher Simulated}

theorem completed_note (record : LogRecord) :
    Completed dispatcher 0 (dispatcher.note record) :=
  ⟨rfl, rfl, rfl, rfl, rfl, by simp [breaches]; rfl, rfl, rfl, Nat.zero_le _⟩

theorem completed_refl : Completed dispatcher 0 dispatcher :=
  ⟨rfl, rfl, rfl, rfl, rfl, by simp [breaches], rfl, rfl, Nat.zero_le _⟩

/-- Taking messages off the queue while completing as many operations. -/
theorem completed_of_left {queue : Queue ConnectionId}
    (left : queue.toList = dispatcher.awaiting.drop ended)
    (enough : ended ≤ dispatcher.awaiting.length) :
    Completed dispatcher ended
      { dispatcher with
        transport := { dispatcher.transport with awaiting := queue }
        operations := dispatcher.operations.performAll (completions ended) } where
  setting := by
    unfold setting channel
    rw [Operations.channel_performAll]
  now := rfl
  count := rfl
  pending := rfl
  inFlight := dispatcher.operations.inFlight_performAll _
  violations := dispatcher.operations.violations_performAll _
  refusals := rfl
  awaiting := left
  enough := enough

theorem completed_next (registered : dispatcher.transport.registered = true) :
    (dispatcher.request .completeNext).2 = .completed dispatcher.awaiting.head? ∧
      Completed dispatcher (min 1 dispatcher.awaiting.length)
        (dispatcher.request .completeNext).1 := by
  cases waiting : dispatcher.awaiting with
  | nil =>
    have nothing := Simulated.completeNext_of_nil waiting dispatcher.operations
    have same : dispatcher.request .completeNext = (dispatcher, .completed none) := by
      simp only [request, Transport.request, Simulated.request, nothing]
    rw [same]
    exact ⟨rfl, completed_refl⟩
  | cons connection rest =>
    obtain ⟨awaiting, left, completed⟩ :=
      Simulated.completeNext_of_cons registered waiting dispatcher.operations
    have single : min 1 (connection :: rest).length = 1 := by
      rw [List.length_cons]
      omega
    rw [single]
    simp only [request, Transport.request, Simulated.request, completed]
    exact ⟨rfl, completed_of_left (by rw [waiting, left]; rfl) (by rw [waiting]; simp)⟩

theorem completed_all (registered : dispatcher.transport.registered = true) :
    (dispatcher.request .completeAll).2 = .completedCount dispatcher.awaiting.length ∧
      Completed dispatcher dispatcher.awaiting.length (dispatcher.request .completeAll).1 := by
  obtain ⟨awaiting, left, completed⟩ :=
    Simulated.completeAll_eq registered dispatcher.operations
  simp only [request, Transport.request, Simulated.request, completed]
  exact ⟨rfl, completed_of_left (by rw [left, List.drop_length]) (Nat.le_refl _)⟩

/-- The connection id was taken, and its operation is complete. -/
def taken (dispatcher : Dispatcher Simulated) : Dispatcher Simulated :=
  { dispatcher with pending := none }.finish

theorem takeConnection_of_some (waiting : dispatcher.pending = some connection) :
    dispatcher.takeConnection = (dispatcher.taken, .ok connection) := by
  unfold taken
  simp only [takeConnection, waiting]

theorem takeConnection_of_none (nothing : dispatcher.pending = none) :
    dispatcher.takeConnection =
      (dispatcher.report .noConnectPending, .error .noConnectPending) := by
  simp only [takeConnection, nothing]

/-- A look at the count leaves at most a note in the log and a word for the observer. -/
theorem checkCount_eq (dispatcher : Dispatcher Simulated) (limit : Nat) :
    ∃ operations observed,
      (dispatcher.checkCount limit).1 = { dispatcher with operations, observed } ∧
        operations.inFlight = dispatcher.inFlight ∧ operations.channel = dispatcher.channel ∧
        operations.violations = dispatcher.violations := by
  rw [checkCount]
  split <;> exact ⟨_, _, rfl, rfl, rfl, rfl⟩

end SessionReplay.Dispatcher
