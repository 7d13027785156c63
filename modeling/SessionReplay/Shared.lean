/-! Values that several handles reach. A change made through one handle is seen
through every other handle of the same cell and through no handle of another. -/
namespace SessionReplay

/-- Cells, and for every handle the cell that it reaches. -/
structure Shared (α : Type) where
  cells : List α
  cellOf : List Nat
  reaches : ∀ cell ∈ cellOf, cell < cells.length

namespace Shared
variable {α : Type}

/-- One cell behind one handle. -/
def single (value : α) : Shared α := ⟨[value], [0], by simp⟩

def get? (shared : Shared α) (handle : Nat) : Option α :=
  (shared.cellOf[handle]?).bind fun cell => shared.cells[cell]?

/-- Changes the value that a handle reaches; an unknown handle changes nothing. -/
def modify (shared : Shared α) (handle : Nat) (change : α → α) : Shared α :=
  match shared.cellOf[handle]? with
  | none => shared
  | some cell =>
    { shared with
      cells := shared.cells.modify cell change
      reaches := by simpa using shared.reaches }

/-- Adds a handle for the cell that `handle` reaches. -/
def clone (shared : Shared α) (handle : Nat) : Shared α :=
  match found : shared.cellOf[handle]? with
  | none => shared
  | some cell =>
    { shared with
      cellOf := shared.cellOf ++ [cell]
      reaches := by
        intro other member
        rcases List.mem_append.mp member with old | new
        · exact shared.reaches other old
        · obtain rfl := List.mem_singleton.mp new
          exact shared.reaches _ (List.mem_of_getElem? found) }

/-- Adds a cell of its own and a handle for it. -/
def fresh (shared : Shared α) (value : α) : Shared α where
  cells := shared.cells ++ [value]
  cellOf := shared.cellOf ++ [shared.cells.length]
  reaches := by
    intro cell member
    rw [List.length_append]
    rcases List.mem_append.mp member with old | new
    · exact Nat.lt_add_right _ (shared.reaches cell old)
    · obtain rfl := List.mem_singleton.mp new
      simp

/-- What every handle reads, in the order in which the handles were made. -/
def readings (shared : Shared α) : List α :=
  shared.cellOf.filterMap fun cell => shared.cells[cell]?

/-- A change is seen through the handles of the changed cell and through no other. -/
theorem get?_modify (shared : Shared α) (handle other : Nat) (change : α → α) :
    (shared.modify handle change).get? other =
      if shared.cellOf[handle]? = shared.cellOf[other]? then (shared.get? other).map change
      else shared.get? other := by
  unfold modify get?
  split
  · next unknown =>
    split
    · next same => rw [← same, unknown]; rfl
    · rfl
  · next cell found =>
    rw [found]
    cases reached : shared.cellOf[other]? with
    | none => simp
    | some target => by_cases same : cell = target <;> simp [List.getElem?_modify, same]

/-- A clone reads what its origin reads. -/
theorem get?_clone (shared : Shared α) (handle : Nat) (known : handle < shared.cellOf.length) :
    (shared.clone handle).get? shared.cellOf.length = shared.get? handle := by
  unfold clone get?
  split
  · next unknown => exact absurd (List.getElem?_eq_none_iff.mp unknown) (Nat.not_le.mpr known)
  · next cell found => simp [found]

/-- A fresh cell is reached by the new handle. -/
theorem get?_fresh (shared : Shared α) (value : α) :
    (shared.fresh value).get? shared.cellOf.length = some value := by
  simp [fresh, get?]

end Shared
end SessionReplay
