/-! A list cut into turns of equal length, of which only the last may be shorter. -/
namespace SessionReplay

/-- Cuts a list into turns of `size` items. A turn holds at least one item. -/
def turnsOf {α : Type} (size : Nat) (items : List α) : List (List α) :=
  match items with
  | [] => []
  | first :: rest =>
    (first :: rest.take (size - 1)) :: turnsOf size (rest.drop (size - 1))
termination_by items.length
decreasing_by simp only [List.length_drop, List.length_cons]; omega

@[simp] theorem turnsOf_nil {α : Type} (size : Nat) : turnsOf size ([] : List α) = [] := by
  rw [turnsOf]

theorem turnsOf_cons {α : Type} (size : Nat) (first : α) (rest : List α) :
    turnsOf size (first :: rest) =
      (first :: rest.take (size - 1)) :: turnsOf size (rest.drop (size - 1)) := by
  rw [turnsOf]

theorem flatten_turnsOf {α : Type} (size : Nat) (items : List α) :
    (turnsOf size items).flatten = items := by
  fun_induction turnsOf size items with
  | case1 => rfl
  | case2 first rest ih => simp [ih]

end SessionReplay
