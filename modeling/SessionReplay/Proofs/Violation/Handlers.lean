import SessionReplay.Proofs.Violation.Log
import SessionReplay.Violation.Handlers

/-! Nothing that is reported to a log is lost, and nothing is made up. Whoever reports to it through
whichever handle or handler, and whoever takes what it has, what was taken of a log and what is left
in it are together what was reported to it, in order. -/
namespace SessionReplay

def LogAnswer.listed : LogAnswer → List Violation
  | violations listed => listed
  | nothing | count _ => []

namespace LogKeeping

def contents (keeping : LogKeeping) (cell : Nat) : List Violation := keeping.bench.contents cell

/-- What a use comes to, and the handle that it goes through. -/
def deed? (keeping : LogKeeping) : LogUse → Option (Nat × LogAction)
  | .direct handle action => some (handle, action)
  | .handler handle => some (handle, .clone)
  | .tell handler violation => keeping.handlers[handler]?.map (·, .report violation)

def reach? (keeping : LogKeeping) (use : LogUse) : Option Nat :=
  (keeping.deed? use).bind fun deed => keeping.cell? deed.1

def reportedBy (keeping : LogKeeping) (cell : Nat) (use : LogUse) : List Violation :=
  match keeping.deed? use with
  | none => []
  | some (handle, action) => if keeping.cell? handle = some cell then action.reports else []

def takenBy (keeping : LogKeeping) (cell : Nat) (use : LogUse) : List Violation :=
  match keeping.deed? use with
  | some (handle, .take) =>
    if keeping.cell? handle = some cell then (keeping.perform use).2.listed else []
  | _ => []

def reported (keeping : LogKeeping) (cell : Nat) : List LogUse → List Violation
  | [] => []
  | use :: rest => keeping.reportedBy cell use ++ (keeping.perform use).1.reported cell rest

def taken (keeping : LogKeeping) (cell : Nat) : List LogUse → List Violation
  | [] => []
  | use :: rest => keeping.takenBy cell use ++ (keeping.perform use).1.taken cell rest

/-- The handle gives access to the log in the cell. -/
structure Keeps (keeping : LogKeeping) (handle cell : Nat) : Prop where
  /-- A look at the log leaves everything as it is. -/
  snapshot : keeping.perform (.direct handle .snapshot) =
    (keeping, .violations (keeping.contents cell))
  /-- What is taken is all that there is, and then there is nothing. -/
  take : (keeping.perform (.direct handle .take)).2 = .violations (keeping.contents cell) ∧
    (keeping.perform (.direct handle .take)).1.contents cell = []
  /-- What is reported comes last. -/
  report : ∀ violation,
    (keeping.perform (.direct handle (.report violation))).1.contents cell =
      keeping.contents cell ++ [violation]
  /-- The violations of each kind are counted, and each is of one kind. The fatal ones are those of
  misuse. -/
  counts : ∃ count : ViolationKind → Nat,
    (∀ kind, keeping.perform (.direct handle (.countKind kind)) = (keeping, .count (count kind)) ∧
      count kind = (keeping.contents cell).countP (·.kind == kind)) ∧
    count .invariant + count .usage + count .downstream = (keeping.bench.log handle).size ∧
    keeping.perform (.direct handle .countFatal) = (keeping, .count (count .usage))
  /-- A clone of it reaches the same cell, and so does the handle of a handler made of it. -/
  cloned : (keeping.perform (.direct handle .clone)).1.cell? keeping.handles = some cell ∧
    (keeping.perform (.handler handle)).1.handlers[keeping.handlers.length]? =
      some keeping.handles ∧
    (keeping.perform (.handler handle)).1.cell? keeping.handles = some cell
  /-- It stays with its cell. -/
  onward : ∀ more, (keeping.after more).cell? handle = some cell

section Steps
variable {keeping : LogKeeping} {handle cell : Nat} {use : LogUse}

/-- An action through a handle, and nothing else, is what a use comes to. -/
theorem bench_perform (use : LogUse) :
    (keeping.perform use).1.bench =
      match keeping.deed? use with
      | none => keeping.bench
      | some (handle, action) => (keeping.bench.perform handle action).1 := by
  cases use with
  | direct handle action => rfl
  | handler handle =>
    cases reached : keeping.cell? handle with
    -- no handler is made then, and neither is a clone
    | none =>
      have cloned := Shared.clone_of_unknown reached
      simp only [perform, handler, reached, deed?, LogBench.perform, cloned]
    | some cell => simp only [perform, handler, reached, deed?, act]
  | tell handler violation =>
    simp only [perform, tell, deed?]
    cases keeping.handlers[handler]? <;> rfl

/-- What is taken is answered. -/
theorem answer_of_take (comes : keeping.deed? use = some (handle, .take)) :
    (keeping.perform use).2 = .violations (keeping.bench.log handle).toList := by
  cases use with
  | direct other action =>
    cases comes
    rfl
  | handler other => cases comes
  | tell handler violation =>
    obtain ⟨other, -, same⟩ := Option.map_eq_some_iff.mp comes
    cases same

theorem takenBy_of_reached (comes : keeping.deed? use = some (handle, action))
    (reached : keeping.cell? handle = some cell) :
    keeping.takenBy cell use = action.takes (keeping.contents cell) := by
  cases action with
  | take =>
    simp only [takenBy, comes, if_pos reached, answer_of_take comes]
    exact LogBench.log_of_reached reached
  | report | clone | fresh | snapshot | countKind | countFatal =>
    simp only [takenBy, comes, LogAction.takes]

theorem takenBy_of_elsewhere (comes : keeping.deed? use = some (handle, action))
    (elsewhere : keeping.cell? handle ≠ some cell) : keeping.takenBy cell use = [] := by
  cases action <;> simp only [takenBy, comes, if_neg elsewhere]

theorem contents_perform (comes : keeping.deed? use = some (handle, action)) (cell : Nat) :
    (keeping.perform use).1.contents cell =
      if keeping.cell? handle = some cell then action.leaves (keeping.contents cell)
      else keeping.contents cell := by
  rw [contents, bench_perform, comes]
  exact LogBench.contents_perform ..

/-- What is done to other logs is nothing to a log. -/
theorem contents_perform_of_elsewhere (elsewhere : keeping.reach? use ≠ some cell) :
    (keeping.perform use).1.contents cell = keeping.contents cell := by
  cases comes : keeping.deed? use with
  | none => rw [contents, bench_perform, comes, contents]
  | some deed =>
    rw [reach?, comes] at elsewhere
    rw [contents_perform comes]
    exact if_neg elsewhere

/-- What is taken of a log and what is left in it is what was in it and what is reported to it. -/
theorem conserved_perform (use : LogUse) (cell : Nat) :
    keeping.takenBy cell use ++ (keeping.perform use).1.contents cell =
      keeping.contents cell ++ keeping.reportedBy cell use := by
  cases comes : keeping.deed? use with
  | none =>
    rw [takenBy, reportedBy, comes, contents, bench_perform, comes]
    exact (List.append_nil _).symm
  | some deed =>
    obtain ⟨handle, action⟩ := deed
    rw [contents_perform comes, reportedBy, comes]
    by_cases reached : keeping.cell? handle = some cell
    · simp only [takenBy_of_reached comes reached, if_pos reached]
      exact action.takes_append_leaves _
    · simp only [takenBy_of_elsewhere comes reached, if_neg reached]
      exact (List.append_nil _).symm

/-- Handles stay with their cells, whatever is done. -/
theorem cell?_perform (reached : keeping.cell? handle = some cell) (use : LogUse) :
    (keeping.perform use).1.cell? handle = some cell := by
  rw [cell?, bench_perform]
  cases keeping.deed? use with
  | none => exact reached
  | some deed => exact LogBench.cellOf_perform reached deed.1 deed.2

/-- A handler that is made of a handle keeps a clone of it. -/
theorem perform_handler (reached : keeping.cell? handle = some cell) :
    (keeping.perform (.handler handle)).1 =
      { (keeping.perform (.direct handle .clone)).1 with
        handlers := keeping.handlers ++ [keeping.handles] } := by
  simp only [perform, handler, reached]

theorem cell?_clone (reached : keeping.cell? handle = some cell) :
    (keeping.perform (.direct handle .clone)).1.cell? keeping.handles = some cell :=
  Shared.cellOf_clone_new reached

/-- Handlers stay with their handles. -/
theorem handlers_perform {index : Nat} (kept : keeping.handlers[index]? = some handle)
    (use : LogUse) : (keeping.perform use).1.handlers[index]? = some handle := by
  have appended (more : List Nat) : (keeping.handlers ++ more)[index]? = some handle :=
    (List.getElem?_append_left (List.getElem?_eq_some_iff.mp kept).1).trans kept
  cases use with
  | direct handle action => exact kept
  | handler other =>
    cases reached : keeping.cell? other with
    | none => simp only [perform, handler, reached, kept]
    | some cell =>
      rw [perform_handler reached]
      exact appended _
  | tell other violation =>
    simp only [perform, tell]
    cases keeping.handlers[other]? <;> exact kept

/-- Every handler keeps a handle that reaches a log. -/
def Held (keeping : LogKeeping) : Prop :=
  ∀ handle ∈ keeping.handlers, ∃ cell, keeping.cell? handle = some cell

theorem held_initial : initial.Held := fun _ member => absurd member List.not_mem_nil

theorem Held.perform (held : keeping.Held) (use : LogUse) : (keeping.perform use).1.Held := by
  intro handle member
  have onward (old : handle ∈ keeping.handlers) :
      ∃ cell, (keeping.perform use).1.cell? handle = some cell := by
    obtain ⟨cell, reached⟩ := held handle old
    exact ⟨cell, cell?_perform reached use⟩
  cases use with
  | direct other action => exact onward member
  | handler other =>
    cases reached : keeping.cell? other with
    | none =>
      simp only [LogKeeping.perform, handler, reached] at member
      exact onward member
    | some cell =>
      rw [perform_handler reached] at member
      rcases List.mem_append.mp member with old | new
      · exact onward old
      · cases List.mem_singleton.mp new
        rw [perform_handler reached]
        exact ⟨cell, cell?_clone reached⟩
  | tell other violation =>
    have same : (keeping.tell other violation).handlers = keeping.handlers := by
      rw [tell]
      split <;> rfl
    exact onward (same ▸ member)

end Steps

theorem contents_initial (cell : Nat) : initial.contents cell = [] := by
  cases cell <;> rfl

section Runs
variable {keeping : LogKeeping} {handle cell : Nat}

theorem conserved_after (keeping : LogKeeping) (uses : List LogUse) (cell : Nat) :
    keeping.taken cell uses ++ (keeping.after uses).contents cell =
      keeping.contents cell ++ keeping.reported cell uses := by
  induction uses generalizing keeping with
  | nil => exact (List.append_nil _).symm
  | cons use rest ih =>
    calc
      keeping.taken cell (use :: rest) ++ (keeping.after (use :: rest)).contents cell
      _ = keeping.takenBy cell use ++ ((keeping.perform use).1.taken cell rest ++
            ((keeping.perform use).1.after rest).contents cell) := List.append_assoc ..
      _ = keeping.takenBy cell use ++ (keeping.perform use).1.contents cell ++
            (keeping.perform use).1.reported cell rest := by rw [ih, List.append_assoc]
      _ = keeping.contents cell ++ keeping.reported cell (use :: rest) := by
        rw [conserved_perform, List.append_assoc, reported]

/-- What every use preserves is preserved by all that is done. -/
theorem after_induction (holds : LogKeeping → Prop)
    (step : ∀ keeping use, holds keeping → holds (keeping.perform use).1)
    (before : holds keeping) (uses : List LogUse) : holds (keeping.after uses) := by
  induction uses generalizing keeping with
  | nil => exact before
  | cons use rest ih => exact ih (step keeping use before)

theorem cell?_after (reached : keeping.cell? handle = some cell) (uses : List LogUse) :
    (keeping.after uses).cell? handle = some cell :=
  after_induction (·.cell? handle = some cell) (fun _ use reached => cell?_perform reached use)
    reached uses

theorem handlers_after {index : Nat} (kept : keeping.handlers[index]? = some handle)
    (uses : List LogUse) : (keeping.after uses).handlers[index]? = some handle :=
  after_induction (·.handlers[index]? = some handle)
    (fun _ use kept => handlers_perform kept use) kept uses

theorem Held.after (held : keeping.Held) (uses : List LogUse) : (keeping.after uses).Held :=
  after_induction Held (fun _ use held => held.perform use) held uses

theorem keeps (reached : keeping.cell? handle = some cell) : keeping.Keeps handle cell where
  snapshot := congrArg (keeping, LogAnswer.violations ·) (LogBench.log_of_reached reached)
  take := by
    constructor
    · exact congrArg LogAnswer.violations (LogBench.log_of_reached reached)
    · exact (contents_perform rfl cell).trans (if_pos reached)
  report violation := (contents_perform rfl cell).trans (if_pos reached)
  counts := by
    have found : (keeping.bench.log handle).toList = keeping.contents cell :=
      LogBench.log_of_reached reached
    refine ⟨(keeping.bench.log handle).countKind, fun kind => ⟨rfl, ?_⟩, ?_, rfl⟩
    · rw [← found, Array.countP_toList]
      rfl
    · have kinds := ViolationKind.countP_add (keeping.bench.log handle).toList
      simp only [Array.countP_toList, Array.length_toList] at kinds
      exact kinds
  cloned := by
    rw [perform_handler reached]
    exact ⟨cell?_clone reached, List.getElem?_concat_length, cell?_clone reached⟩
  onward := cell?_after reached

end Runs

/-- Nothing that is reported to a log is lost, and nothing is made up. After any uses of any handles
and handlers, what was taken of each log, followed by what is left in it, is what was reported to
it, in order. Every handle that reaches a log gives access to it, also those of the handlers, and
what goes through the handles of one log is nothing to the others. -/
theorem reports_conserved (uses : List LogUse) :
    let keeping := initial.after uses
    (∀ cell, initial.taken cell uses ++ keeping.contents cell = initial.reported cell uses) ∧
      (∀ handle cell, keeping.cell? handle = some cell → keeping.Keeps handle cell) ∧
      (∀ use cell, keeping.reach? use ≠ some cell →
        (keeping.perform use).1.contents cell = keeping.contents cell) ∧
      (∀ index handle, keeping.handlers[index]? = some handle →
        (∃ cell, keeping.cell? handle = some cell) ∧
          ∀ more violation,
            let later := keeping.after more
            later.perform (.tell index violation) =
              later.perform (.direct handle (.report violation))) ∧
      ∀ handle,
        let next := (keeping.perform (.direct handle .fresh)).1
        let cell := keeping.bench.logs.cells.length
        next.cell? keeping.handles = some cell ∧ next.contents cell = [] ∧
          ∀ other, keeping.cell? other ≠ some cell := by
  intro keeping
  refine ⟨fun cell => ?_, fun handle cell => keeps,
    fun use cell => contents_perform_of_elsewhere, ?_, ?_⟩
  · have conserved := initial.conserved_after uses cell
    rwa [contents_initial, List.nil_append] at conserved
  · intro index handle kept
    have held : keeping.Held := held_initial.after uses
    refine ⟨held handle (List.mem_of_getElem? kept), ?_⟩
    intro more violation later
    have still : later.handlers[index]? = some handle := handlers_after kept more
    simp only [perform, tell, still]
    rfl
  · intro handle next cell
    refine ⟨List.getElem?_concat_length, ?_, fun other reached => ?_⟩
    · have added : (keeping.bench.logs.cells ++ [(#[] : ViolationLog)])[cell]? = some #[] :=
        List.getElem?_concat_length
      exact congrArg (fun log => (log.getD #[]).toList) added
    · exact Nat.lt_irrefl _ (keeping.bench.logs.reaches cell (List.mem_of_getElem? reached))

/-- A log with a handler and a clone that takes from it, and a log of its own beside it. -/
theorem reports_conserved_of_drain :
    let refused : Violation := .messageRefused 1
    let uses : List LogUse := [.handler 0, .direct 0 .clone, .direct 0 .fresh,
      .tell 0 .overlappingOperation, .direct 3 (.report .noConnectPending), .direct 2 .take,
      .tell 0 refused]
    let keeping := initial.after uses
    initial.taken 0 uses = [.overlappingOperation] ∧ keeping.contents 0 = [refused] ∧
      initial.reported 0 uses = [.overlappingOperation, refused] ∧
      keeping.Keeps 2 0 ∧ keeping.Keeps 3 1 ∧ keeping.contents 1 = [.noConnectPending] := by
  intro refused uses keeping
  obtain ⟨conserved, keeps, -⟩ := reports_conserved uses
  exact ⟨rfl, rfl, (conserved 0).symm, keeps 2 0 rfl, keeps 3 1 rfl, rfl⟩

end LogKeeping
end SessionReplay
