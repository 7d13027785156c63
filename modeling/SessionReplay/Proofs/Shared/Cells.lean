import SessionReplay.Shared

/-! What becomes of cells and handles when one of them is changed or added. Handles keep their
cells, and a change reaches one cell. -/
namespace SessionReplay
namespace Shared
variable {α : Type} {shared : Shared α} {value : α}

/-- A handle reads the cell that it reaches. -/
theorem exists_of_cellOf {handle cell : Nat} (reached : shared.cellOf[handle]? = some cell) :
    ∃ value, shared.cells[cell]? = some value ∧ shared.get? handle = some value := by
  have inside := shared.reaches cell (List.mem_of_getElem? reached)
  refine ⟨shared.cells[cell], List.getElem?_eq_getElem inside, ?_⟩
  rw [get?, reached, Option.bind_some, List.getElem?_eq_getElem inside]

theorem get?_eq_none {handle : Nat} (unknown : shared.cellOf[handle]? = none) :
    shared.get? handle = none := by
  rw [get?, unknown, Option.bind_none]

theorem cellOf_modify (shared : Shared α) (handle : Nat) (change : α → α) :
    (shared.modify handle change).cellOf = shared.cellOf := by
  unfold modify
  split <;> rfl

theorem modify_of_unknown {handle : Nat} (unknown : shared.cellOf[handle]? = none)
    (change : α → α) : shared.modify handle change = shared := by
  unfold modify
  split
  · rfl
  · next cell found =>
    rw [unknown] at found
    contradiction

theorem clone_of_unknown {handle : Nat} (unknown : shared.cellOf[handle]? = none) :
    shared.clone handle = shared := by
  unfold clone
  split
  · rfl
  · next cell found =>
    rw [unknown] at found
    contradiction

theorem cells_modify {handle cell : Nat} (reached : shared.cellOf[handle]? = some cell)
    (change : α → α) : (shared.modify handle change).cells = shared.cells.modify cell change := by
  unfold modify
  split
  · next unknown =>
    rw [reached] at unknown
    contradiction
  · next other found =>
    rw [reached] at found
    cases found
    rfl

/-- Only the value that the handle reads matters. -/
theorem modify_congr {handle : Nat} {change other : α → α} (found : shared.get? handle = some value)
    (agree : change value = other value) :
    (shared.modify handle change).cells = (shared.modify handle other).cells := by
  obtain ⟨cell, reached, read⟩ := Option.bind_eq_some_iff.mp found
  rw [cells_modify reached, cells_modify reached]
  refine List.ext_getElem? fun index => ?_
  rw [List.getElem?_modify, List.getElem?_modify]
  by_cases same : cell = index
  · simp [← same, read, agree]
  · simp only [if_neg same]

theorem cellOf_clone (shared : Shared α) (handle : Nat) :
    (shared.clone handle).cellOf = shared.cellOf ++ (shared.cellOf[handle]?).toList := by
  unfold clone
  split
  · next unknown => simp [unknown]
  · next cell found => simp [found]

section Reached
variable {handle cell : Nat} (reached : shared.cellOf[handle]? = some cell)
include reached

/-- Handles stay with their cells when others are added. -/
theorem cellOf_append (more : List Nat) : (shared.cellOf ++ more)[handle]? = some cell :=
  (List.getElem?_append_left (List.getElem?_eq_some_iff.mp reached).1).trans reached

theorem cellOf_clone_of_reached (other : Nat) :
    (shared.clone other).cellOf[handle]? = some cell := by
  rw [cellOf_clone]
  exact cellOf_append reached _

/-- The new handle reaches the cell of the one that it was made of. -/
theorem cellOf_clone_new : (shared.clone handle).cellOf[shared.cellOf.length]? = some cell := by
  rw [cellOf_clone, reached]
  exact List.getElem?_concat_length

end Reached

/-- Every handle of a single cell reaches it. -/
theorem get?_of_single (single : shared.cells = [value]) (handle : Nat) :
    shared.get? handle = if handle < shared.cellOf.length then some value else none := by
  unfold Shared.get?
  split
  · next known =>
    have cell := shared.reaches _ (List.getElem_mem known)
    simp only [single, List.length_singleton, Nat.lt_one_iff] at cell
    simp [known, cell, single]
  · next unknown => simp [unknown]

/-- A change of a single cell takes effect if the handle exists. -/
theorem cells_modify_of_single (single : shared.cells = [value]) (handle : Nat)
    (change : α → α) :
    (shared.modify handle change).cells =
      [if handle < shared.cellOf.length then change value else value] := by
  unfold modify
  split
  · next unknown =>
    rw [if_neg (Nat.not_lt.mpr (List.getElem?_eq_none_iff.mp unknown)), single]
  · next cell found =>
    have known := (List.getElem?_eq_some_iff.mp found).1
    have inside := shared.reaches cell (List.mem_of_getElem? found)
    rw [single, List.length_singleton, Nat.lt_one_iff] at inside
    simp [single, inside, known]

theorem modify_of_single {keeps : α → Prop} {handle : Nat} {change : α → α}
    (single : shared.cells = [value]) (before : keeps value)
    (after : shared.get? handle = some value → keeps (change value)) :
    ∃ next, (shared.modify handle change).cells = [next] ∧ keeps next := by
  refine ⟨_, cells_modify_of_single single handle change, ?_⟩
  split
  · next known => exact after ((get?_of_single single handle).trans (if_pos known))
  · exact before

theorem cells_clone (shared : Shared α) (handle : Nat) :
    (shared.clone handle).cells = shared.cells := by
  unfold clone
  split <;> rfl

end Shared
end SessionReplay
