import SessionReplay.Proofs.Operations.Calls
import SessionReplay.Transport.Simulated

/-! Completing messages changes two things only: the queue loses its oldest entries and
the operations receive one completion for each of them. The queue is exhibited by what
is left in it, so that nothing depends on how it stores its entries. -/
namespace SessionReplay

namespace Queue
variable {α : Type} {queue : Queue α}

theorem pop?_of_nil (nothing : queue.toList = []) : queue.pop? = none := by
  cases popped : queue.pop? with
  | none => rfl
  | some oldest =>
    obtain ⟨first, left⟩ := oldest
    rw [toList_of_pop?_eq_some popped] at nothing
    contradiction

theorem pop?_of_cons (waiting : queue.toList = item :: rest) :
    ∃ left, queue.pop? = some (item, left) ∧ left.toList = rest := by
  cases popped : queue.pop? with
  | none =>
    rw [toList_of_pop?_eq_none popped] at waiting
    contradiction
  | some oldest =>
    obtain ⟨first, left⟩ := oldest
    obtain ⟨rfl, same⟩ := List.cons.inj ((toList_of_pop?_eq_some popped).symm.trans waiting)
    exact ⟨left, rfl, same⟩

end Queue

namespace Operations

abbrev completions (count : Nat) : List Call := List.replicate count .finish

end Operations

namespace Simulated
variable {transport : Simulated}

theorem completeNext_of_nil (nothing : transport.awaiting.toList = [])
    (operations : Operations) :
    transport.completeNext operations = (transport, operations, none) := by
  simp only [completeNext, Queue.pop?_of_nil nothing]

theorem completeNext_of_cons (registered : transport.registered = true)
    (waiting : transport.awaiting.toList = connection :: rest) (operations : Operations) :
    ∃ awaiting, awaiting.toList = rest ∧ transport.completeNext operations =
      ({ transport with awaiting }, operations.finish, some connection) := by
  obtain ⟨awaiting, popped, left⟩ := Queue.pop?_of_cons waiting
  refine ⟨awaiting, left, ?_⟩
  simp only [completeNext, popped, registered, if_true]

theorem completeUpTo_eq (registered : transport.registered = true) (limit : Nat)
    (operations : Operations) :
    ∃ awaiting, awaiting.toList = transport.awaiting.toList.drop limit ∧
      completeUpTo limit transport operations =
        ({ transport with awaiting },
          operations.performAll
            (Operations.completions (min limit transport.awaiting.toList.length)),
          min limit transport.awaiting.toList.length) := by
  induction limit generalizing transport operations with
  | zero => exact ⟨transport.awaiting, rfl, by simp [completeUpTo, Operations.performAll]⟩
  | succ limit ih =>
    cases waiting : transport.awaiting.toList with
    | nil =>
      refine ⟨transport.awaiting, waiting, ?_⟩
      rw [completeUpTo, completeNext_of_nil waiting]
      simp [Operations.performAll]
    | cons connection rest =>
      obtain ⟨shorter, left, completed⟩ := completeNext_of_cons registered waiting operations
      obtain ⟨awaiting, final, more⟩ :=
        @ih { transport with awaiting := shorter } registered operations.finish
      simp only [left] at final more
      refine ⟨awaiting, final, ?_⟩
      rw [completeUpTo, completed]
      simp only [more, List.length_cons, Nat.succ_min_succ, List.replicate_succ]
      rfl

/-- A registered transport completes everything that waits, each message once. -/
theorem completeAll_eq (registered : transport.registered = true) (operations : Operations) :
    ∃ awaiting, awaiting.toList = [] ∧ transport.completeAll operations =
      ({ transport with awaiting },
        operations.performAll (Operations.completions transport.awaiting.toList.length),
        transport.awaiting.toList.length) := by
  obtain ⟨awaiting, left, completed⟩ :=
    completeUpTo_eq registered transport.awaiting.size operations
  rw [← Queue.length_toList, List.drop_length] at left
  rw [← Queue.length_toList, Nat.min_self] at completed
  exact ⟨awaiting, left, by rw [completeAll, ← Queue.length_toList, completed]⟩

end Simulated
end SessionReplay
