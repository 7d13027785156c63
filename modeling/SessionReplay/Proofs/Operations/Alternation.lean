import Mathlib.Data.List.Chain
import SessionReplay.Proofs.Operations.Calls

/-! Starts and completions taking turns. A call that finds the operation as it would leave it is
reported and changes nothing; every other call is silent and turns the flag over. So the silent
calls alternate, whatever was called in between, and every start that is neither reported nor
answered by a completion is the one that is open. -/
namespace SessionReplay.Operations

namespace Call

def record (wasOpen : Bool) : Call → LogRecord
  | start => .operationStarted wasOpen
  | finish => .operationEnded wasOpen

/-- What a call is reported as, if it is. -/
def violation : Call → Violation
  | start => .overlappingOperation
  | finish => .unmatchedCompletion

end Call

section Call
variable (operations : Operations) (call : Call)

theorem breach_cases (wasOpen : Bool) :
    breach wasOpen call = [] ∧ wasOpen = !decide (call = .start) ∨
      breach wasOpen call = [call.violation] ∧ wasOpen = decide (call = .start) := by
  cases call <;> cases wasOpen <;> decide

/-- A call is logged, then it is reported or not, and the flag tells which call it was. -/
theorem perform_eq :
    operations.perform call =
      { (operations.note (call.record operations.inFlight)).reportAll
          (breach operations.inFlight call) with
        inFlight := decide (call = .start) } := by
  obtain ⟨inFlight, trail⟩ := operations
  cases call <;> cases inFlight <;> rfl

/-- A call is silent and turns the flag over, or it is reported once and leaves the flag. -/
theorem perform_cases :
    breach operations.inFlight call = [] ∧
        (operations.perform call).inFlight = !operations.inFlight ∨
      breach operations.inFlight call = [call.violation] ∧
        (operations.perform call).inFlight = operations.inFlight := by
  rw [inFlight_perform]
  rcases breach_cases call operations.inFlight with ⟨silent, found⟩ | ⟨reported, found⟩
  · exact .inl ⟨silent, by rw [found, Bool.not_not]⟩
  · exact .inr ⟨reported, found.symm⟩

end Call

section Runs

/-- Those of some calls that report nothing, in order. -/
def silent (operations : Operations) : List Call → List Call
  | [] => []
  | call :: rest =>
    if breach operations.inFlight call = [] then call :: (operations.perform call).silent rest
    else (operations.perform call).silent rest

/-- The silent call that left the flag as it is. -/
def turned (operations : Operations) : Call := if operations.inFlight then .start else .finish

/-- Silent calls go on from the one that left the flag as it is. -/
theorem isChain_silent (operations : Operations) (calls : List Call) :
    (operations.turned :: operations.silent calls).IsChain (· ≠ ·) := by
  -- the call put in front stands for all that were silent before, so the first is no special case
  induction calls generalizing operations with
  | nil => exact .singleton _
  | cons call rest ih =>
    have onward := ih (operations.perform call)
    rw [silent]
    rcases operations.perform_cases call with ⟨quiet, turns⟩ | ⟨reported, stays⟩
    · have last : (operations.perform call).turned = call := by
        rw [turned, inFlight_perform]
        cases call <;> rfl
      have other : operations.turned ≠ call := by
        rw [← last, turned, turned, turns]
        cases operations.inFlight <;> decide
      rw [if_pos quiet]
      rw [last] at onward
      exact .cons_cons other onward
    · have same : (operations.perform call).turned = operations.turned := by
        rw [turned, stays, turned]
      rw [if_neg (by rw [reported]; exact List.cons_ne_nil _ _), ← same]
      exact onward

/-- From an idle start, what is not reported of the starts and of the completions differs by the
operation that is open. -/
theorem balance (channel : ErrorChannel) (calls : List Call) :
    ((calls.count .start : Int) - (breaches false calls).count .overlappingOperation) -
        (calls.count .finish - (breaches false calls).count .unmatchedCompletion) =
      if ((idle channel).performAll calls).inFlight then 1 else 0 := by
  have last : ((idle channel).performAll calls).inFlight = isOpen false calls :=
    inFlight_performAll ..
  have counted := count_breaches false calls
  rw [last]
  generalize isOpen false calls = isOpen at counted ⊢
  cases isOpen with
  | false =>
    rw [Bool.toNat_false] at counted
    rw [if_neg Bool.false_ne_true]
    omega
  | true =>
    rw [Bool.toNat_true, Bool.toNat_false] at counted
    rw [if_pos rfl]
    omega

end Runs
end SessionReplay.Operations
