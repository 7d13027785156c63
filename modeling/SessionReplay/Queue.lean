/-! First in, first out. Items stay where they were put and a mark tells how many have
left, so that entering, leaving and counting take the same time however long the queue
is. Each operation is stated on `toList`, the items that are still there. -/
namespace SessionReplay

structure Queue (α : Type) where
  /-- Every item that ever entered, in order. -/
  items : Array α
  /-- How many items have left. -/
  gone : Nat
  gone_le : gone ≤ items.size
  deriving DecidableEq

namespace Queue
variable {α : Type}

def empty : Queue α := ⟨#[], 0, Nat.le_refl 0⟩

/-- The items that are still there, the oldest first. -/
def toList (queue : Queue α) : List α := queue.items.toList.drop queue.gone

def size (queue : Queue α) : Nat := queue.items.size - queue.gone

def push (queue : Queue α) (item : α) : Queue α :=
  { queue with
    items := queue.items.push item
    gone_le := by simpa using Nat.le_succ_of_le queue.gone_le }

def pop? (queue : Queue α) : Option (α × Queue α) :=
  if more : queue.gone < queue.items.size then
    some (queue.items[queue.gone], { queue with gone := queue.gone + 1, gone_le := more })
  else none

@[simp] theorem toList_empty : (empty : Queue α).toList = [] := rfl

@[simp] theorem length_toList (queue : Queue α) : queue.toList.length = queue.size := by
  simp [toList, size]

@[simp] theorem toList_push (queue : Queue α) (item : α) :
    (queue.push item).toList = queue.toList ++ [item] := by
  simp only [toList, push, Array.toList_push]
  exact List.drop_append_of_le_length (by simpa using queue.gone_le)

theorem toList_of_pop?_eq_none {queue : Queue α} (nothing : queue.pop? = none) :
    queue.toList = [] := by
  unfold pop? at nothing
  split at nothing
  · contradiction
  · next all => exact List.drop_eq_nil_of_le (by simpa using all)

theorem toList_of_pop?_eq_some {queue rest : Queue α} {item : α}
    (popped : queue.pop? = some (item, rest)) : queue.toList = item :: rest.toList := by
  unfold pop? at popped
  split at popped
  · next more =>
    obtain ⟨rfl, rfl⟩ := Prod.mk.inj (Option.some.inj popped)
    exact List.drop_eq_getElem_cons (by simpa using more)
  · contradiction

end Queue
end SessionReplay
