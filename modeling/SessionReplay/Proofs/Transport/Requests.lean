import SessionReplay.Proofs.Transport.Completion

/-! What a request comes to, whether or not completions can be signalled. The transport settles it
alone: the operations have no say in what is completed and what is answered, they only receive the
calls. The loop that completes one message after the other ends in every state. -/
namespace SessionReplay.Simulated
variable {transport : Simulated}

/-- A transport that cannot signal forgets the oldest message and names nothing. -/
theorem completeNext_of_unregistered (unregistered : transport.registered = false)
    (waiting : transport.awaiting.toList = connection :: rest) (operations : Operations) :
    ∃ awaiting, awaiting.toList = rest ∧
      transport.completeNext operations = ({ transport with awaiting }, operations, none) := by
  obtain ⟨awaiting, popped, left⟩ := Queue.pop?_of_cons waiting
  refine ⟨awaiting, left, ?_⟩
  simp only [completeNext, popped, unregistered, Bool.false_eq_true, if_false]

section Decided
variable (transport : Simulated)

theorem completeNext_decided : ∃ next calls named, ∀ operations,
    transport.completeNext operations = (next, operations.performAll calls, named) := by
  cases popped : transport.awaiting.pop? with
  | none =>
    refine ⟨transport, [], none, fun operations => ?_⟩
    simp only [completeNext, popped]
    rfl
  | some oldest =>
    obtain ⟨connection, awaiting⟩ := oldest
    cases registered : transport.registered with
    | true =>
      refine ⟨{ transport with awaiting }, [.finish], some connection, fun operations => ?_⟩
      simp only [completeNext, popped, registered, if_true]
      rfl
    | false =>
      refine ⟨{ transport with awaiting }, [], none, fun operations => ?_⟩
      simp only [completeNext, popped, registered, Bool.false_eq_true, if_false]
      rfl

theorem completeUpTo_decided (limit : Nat) : ∃ next calls count, ∀ operations,
    completeUpTo limit transport operations = (next, operations.performAll calls, count) := by
  induction limit generalizing transport with
  | zero => exact ⟨transport, [], 0, fun _ => rfl⟩
  | succ limit ih =>
    obtain ⟨next, calls, named, completed⟩ := transport.completeNext_decided
    cases named with
    | none =>
      refine ⟨next, calls, 0, fun operations => ?_⟩
      rw [completeUpTo, completed]
    | some connection =>
      obtain ⟨last, more, count, rest⟩ := ih next
      refine ⟨last, calls ++ more, count + 1, fun operations => ?_⟩
      rw [completeUpTo, completed]
      simp only [rest, Operations.performAll, List.foldl_append]

/-- Two operations that are given the same request receive the same calls, and the transport goes
on alike and answers alike. -/
theorem request_decided (request : Request) : ∃ next calls answer, ∀ operations,
    transport.request operations request = (next, operations.performAll calls, answer) := by
  cases request with
  | completeNext =>
    obtain ⟨next, calls, named, completed⟩ := transport.completeNext_decided
    exact ⟨next, calls, .completed named, fun operations => by simp only [request, completed]⟩
  | completeAll =>
    obtain ⟨next, calls, count, completed⟩ :=
      transport.completeUpTo_decided transport.awaiting.size
    exact ⟨next, calls, .completedCount count,
      fun operations => by simp only [request, completeAll, completed]⟩
  | completeSpurious =>
    cases registered : transport.registered with
    | true =>
      refine ⟨transport, [.finish], .done, fun operations => ?_⟩
      simp only [request, completeSpurious, registered, if_true]
      rfl
    | false =>
      refine ⟨transport, [], .done, fun operations => ?_⟩
      simp only [request, completeSpurious, registered, Bool.false_eq_true, if_false]
      rfl
  | refuseNext count => exact ⟨transport.refuseNext count, [], .done, fun _ => rfl⟩
  | answer accepts => exact ⟨transport, [], .done, fun _ => rfl⟩

/-- What a transport makes of a message is settled by the transport as well. -/
theorem enqueueMessage_decided (message : FramedMessage) (operations others : Operations) :
    (transport.enqueueMessage others message).1 =
      (transport.enqueueMessage operations message).1 := by
  unfold enqueueMessage
  split <;> rfl

end Decided

/-- The connections that are named when messages are completed one after the other. -/
def namedUpTo : Nat → Simulated → Operations → List ConnectionId
  | 0, _, _ => []
  | limit + 1, transport, operations =>
    match transport.completeNext operations with
    | (_, _, none) => []
    | (next, after, some connection) => connection :: namedUpTo limit next after

def named (transport : Simulated) (operations : Operations) : Request → List ConnectionId
  | .completeNext => (transport.completeNext operations).2.2.toList
  | .completeAll => namedUpTo transport.awaiting.size transport operations
  | _ => []

/-- Messages are completed one after the other until none is named, with no limit set. -/
inductive Drains : Simulated → Operations → List ConnectionId → Simulated → Operations → Prop where
  | done (silent : completeNext before operations = (next, after, none)) :
    Drains before operations [] next after
  | more (named : completeNext before operations = (next, after, some connection))
    (rest : Drains next after names last final) :
    Drains before operations (connection :: names) last final

/-- The limit is never what ends the loop. -/
theorem drains_completeUpTo (limit : Nat) (operations : Operations)
    (enough : transport.awaiting.toList.length ≤ limit) :
    let (last, final, count) := completeUpTo limit transport operations
    let names := namedUpTo limit transport operations
    Drains transport operations names last final ∧ count = names.length := by
  induction limit generalizing transport operations with
  | zero =>
    have nothing := List.eq_nil_of_length_eq_zero (Nat.le_zero.mp enough)
    exact ⟨.done (completeNext_of_nil nothing operations), rfl⟩
  | succ limit ih =>
    simp only [completeUpTo, namedUpTo]
    cases waiting : transport.awaiting.toList with
    | nil =>
      have silent := completeNext_of_nil waiting operations
      rw [silent]
      exact ⟨.done silent, rfl⟩
    | cons connection rest =>
      cases registered : transport.registered with
      | false =>
        obtain ⟨awaiting, -, silent⟩ := completeNext_of_unregistered registered waiting operations
        rw [silent]
        exact ⟨.done silent, rfl⟩
      | true =>
        obtain ⟨awaiting, left, named⟩ := completeNext_of_cons registered waiting operations
        rw [waiting, List.length_cons, ← left] at enough
        have shorter := Nat.le_of_succ_le_succ enough
        have later := @ih { transport with awaiting } operations.finish shorter
        rw [named]
        exact ⟨.more named later.1, congrArg (· + 1) later.2⟩

/-- Completing everything comes to an end in every state. -/
theorem drains_completeAll (transport : Simulated) (operations : Operations) :
    let (last, final, count) := transport.completeAll operations
    let names := transport.named operations .completeAll
    Drains transport operations names last final ∧ count = names.length :=
  drains_completeUpTo _ operations (Nat.le_of_eq transport.awaiting.length_toList)

theorem namedUpTo_eq (registered : transport.registered = true) (limit : Nat)
    (operations : Operations) :
    namedUpTo limit transport operations = transport.awaiting.toList.take limit := by
  induction limit generalizing transport operations with
  | zero => rfl
  | succ limit ih =>
    cases waiting : transport.awaiting.toList with
    | nil => rw [namedUpTo, completeNext_of_nil waiting, List.take_nil]
    | cons connection rest =>
      obtain ⟨awaiting, left, named⟩ := completeNext_of_cons registered waiting operations
      have later := @ih { transport with awaiting } registered operations.finish
      rw [namedUpTo, named]
      simp only [later, left, List.take_succ_cons]

/-- A registered transport names what it completes, the oldest first. -/
theorem named_eq (registered : transport.registered = true) (operations : Operations)
    (request : Request) :
    transport.named operations request =
      match request with
      | .completeNext => transport.awaiting.toList.take 1
      | .completeAll => transport.awaiting.toList
      | _ => [] := by
  cases request with
  | completeNext =>
    cases waiting : transport.awaiting.toList with
    | nil => rw [named, completeNext_of_nil waiting]; rfl
    | cons connection rest =>
      obtain ⟨awaiting, -, given⟩ := completeNext_of_cons registered waiting operations
      rw [named, given]
      rfl
  | completeAll =>
    rw [named, namedUpTo_eq registered, ← Queue.length_toList, List.take_length]
  | completeSpurious | refuseNext | answer => rfl

end SessionReplay.Simulated
