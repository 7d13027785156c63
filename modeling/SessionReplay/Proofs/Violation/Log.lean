import SessionReplay.Proofs.Shared.Cells
import SessionReplay.Violation.Log

/-! What one action does to the logs behind their handles. It goes to one log, which all the handles
of a cell share. What it takes of that log and what it leaves in it are together what was there and
what it reports. -/
namespace SessionReplay

/-- Every violation is of one of the three kinds. -/
theorem ViolationKind.countP_add (violations : List Violation) :
    violations.countP (·.kind == .invariant) + violations.countP (·.kind == .usage) +
        violations.countP (·.kind == .downstream) = violations.length := by
  induction violations with
  | nil => rfl
  | cons violation rest ih =>
    simp only [List.countP_cons, List.length_cons, ← ih]
    cases violation.kind <;> simp <;> omega

namespace LogAction

def reports : LogAction → List Violation
  | report violation => [violation]
  | _ => []

/-- What an action takes of what is in the log that it reaches. -/
def takes : LogAction → List Violation → List Violation
  | take, kept => kept
  | _, _ => []

/-- What an action leaves of what is in the log that it reaches, with what it adds. -/
def leaves : LogAction → List Violation → List Violation
  | report violation, kept => kept ++ [violation]
  | take, _ => []
  | _, kept => kept

theorem takes_append_leaves (action : LogAction) (kept : List Violation) :
    action.takes kept ++ action.leaves kept = kept ++ action.reports := by
  cases action with
  | report violation => rfl
  | take => rfl
  | clone | fresh | snapshot | countKind | countFatal => exact (List.append_nil _).symm

end LogAction

namespace LogBench

def contents (bench : LogBench) (cell : Nat) : List Violation :=
  (bench.logs.cells[cell]?.getD #[]).toList

section Actions
variable {bench : LogBench} {handle cell : Nat}

/-- A handle reads the log of the cell that it reaches. -/
theorem log_of_reached (reached : bench.logs.cellOf[handle]? = some cell) :
    (bench.log handle).toList = bench.contents cell := by
  obtain ⟨kept, found, read⟩ := Shared.exists_of_cellOf reached
  rw [LogBench.log, read, contents, found]

/-- A change of the log that a handle reads is a change of what is in its cell alone. -/
theorem contents_modify (change : ViolationLog → ViolationLog) (records : Array LogRecord)
    (cell : Nat) :
    contents { logs := bench.logs.modify handle change, records } cell =
      if bench.logs.cellOf[handle]? = some cell then (change (bench.log handle)).toList
      else bench.contents cell := by
  cases reached : bench.logs.cellOf[handle]? with
  | none =>
    rw [Shared.modify_of_unknown reached, if_neg (Option.some_ne_none cell).symm]
    rfl
  | some target =>
    obtain ⟨kept, found, read⟩ := Shared.exists_of_cellOf reached
    rw [contents, Shared.cells_modify reached, List.getElem?_modify, LogBench.log, read, contents]
    by_cases here : target = cell
    · subst here
      simp [found]
    · simp [here]

/-- An empty log that is added is no different from one that is not there. -/
theorem contents_fresh (handle cell : Nat) :
    (bench.perform handle .fresh).1.contents cell = bench.contents cell := by
  have added : (bench.logs.cells ++ [#[]])[cell]?.getD #[] = bench.logs.cells[cell]?.getD #[] := by
    rw [List.getElem?_append]
    split
    · rfl
    · next outside =>
      rw [List.getElem?_eq_none (Nat.le_of_not_lt outside)]
      cases cell - bench.logs.cells.length <;> rfl
  exact congrArg Array.toList added

/-- An action does nothing to the logs that its handle does not reach. -/
theorem contents_perform (action : LogAction) (cell : Nat) :
    (bench.perform handle action).1.contents cell =
      if bench.logs.cellOf[handle]? = some cell then action.leaves (bench.contents cell)
      else bench.contents cell := by
  cases action with
  | report violation =>
    refine (contents_modify ..).trans (ite_congr rfl (fun reached => ?_) fun _ => rfl)
    rw [Array.toList_push, log_of_reached reached]
    rfl
  | take => exact contents_modify ..
  | clone =>
    refine Eq.trans ?_ (ite_self _).symm
    exact congrArg (fun cells => (cells[cell]?.getD #[]).toList) (Shared.cells_clone ..)
  | fresh => exact (contents_fresh handle cell).trans (ite_self _).symm
  | snapshot | countKind | countFatal => exact (ite_self _).symm

/-- Handles stay with their cells, whatever is done. -/
theorem cellOf_perform (reached : bench.logs.cellOf[handle]? = some cell) (other : Nat)
    (action : LogAction) : (bench.perform other action).1.logs.cellOf[handle]? = some cell := by
  have modified (change : ViolationLog → ViolationLog) :
      (bench.logs.modify other change).cellOf[handle]? = some cell := by
    rw [Shared.cellOf_modify]
    exact reached
  cases action with
  | report violation => exact modified _
  | take => exact modified _
  | clone => exact Shared.cellOf_clone_of_reached reached other
  | fresh => exact Shared.cellOf_append reached _
  | snapshot | countKind | countFatal => exact reached

end Actions
end LogBench

end SessionReplay
