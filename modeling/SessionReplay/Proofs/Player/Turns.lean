import Mathlib.Algebra.Order.Floor.Div
import SessionReplay.Player.Report
import SessionReplay.Player.Turns

/-! How long turns are and where they begin. All turns but the last are full, and the last holds
what is left; so a list that fills its turns can be cut apart from whatever follows it. -/
namespace SessionReplay
variable {α : Type} {size : Nat}

/-- A whole number of turns is cut as if nothing followed. -/
theorem turnsOf_append {items : List α} (full : size ∣ items.length) (more : List α) :
    turnsOf size (items ++ more) = turnsOf size items ++ turnsOf size more := by
  fun_induction turnsOf size items with
  | case1 => rfl
  | case2 first rest ih =>
    have enough : size ≤ rest.length + 1 := Nat.le_of_dvd (Nat.succ_pos _) full
    have positive : 0 < size := Nat.pos_of_dvd_of_pos full (Nat.succ_pos _)
    have fits : size - 1 ≤ rest.length := by omega
    have later : size ∣ (rest.drop (size - 1)).length := by
      rw [List.length_drop, show rest.length - (size - 1) = rest.length + 1 - size by omega]
      exact Nat.dvd_sub full (Nat.dvd_refl size)
    rw [List.cons_append, turnsOf_cons, List.take_append_of_le_length fits,
      List.drop_append_of_le_length fits, ih later]
    rfl

/-- Full turns and then, if anything is left, one that is shorter. -/
theorem map_length_turnsOf (positive : 0 < size) (items : List α) :
    (turnsOf size items).map List.length =
      List.replicate (items.length / size) size ++
        if items.length % size = 0 then [] else [items.length % size] := by
  fun_induction turnsOf size items with
  | case1 => simp
  | case2 first rest ih =>
    rw [List.map_cons, ih, List.length_cons, List.length_cons, List.length_take, List.length_drop]
    by_cases enough : size ≤ rest.length + 1
    · have first : min (size - 1) rest.length + 1 = size := by omega
      have left : rest.length - (size - 1) = rest.length + 1 - size := by omega
      rw [first, left, Nat.div_eq_sub_div positive enough, List.replicate_succ,
        Nat.mod_eq_sub_mod enough]
      rfl
    · have short : rest.length + 1 < size := Nat.not_le.mp enough
      have first : min (size - 1) rest.length + 1 = rest.length + 1 := by omega
      have left : rest.length - (size - 1) = 0 := by omega
      rw [first, left, Nat.div_eq_of_lt short, Nat.mod_eq_of_lt short]
      simp

theorem length_turnsOf (positive : 0 < size) (items : List α) :
    (turnsOf size items).length = items.length ⌈/⌉ size := by
  have counted := congrArg List.length (map_length_turnsOf positive items)
  rw [List.length_map, List.length_append, List.length_replicate] at counted
  have left : items.length % size < size := Nat.mod_lt _ positive
  have whole : items.length / size * size + items.length % size = items.length :=
    Nat.div_add_mod' items.length size
  rw [counted, Nat.ceilDiv_eq_add_pred_div]
  by_cases even : items.length % size = 0
  · rw [if_pos even, List.length_nil, Nat.add_zero]
    refine (Nat.div_eq_of_lt_le ?_ ?_).symm
    · omega
    · rw [Nat.succ_mul]
      omega
  · rw [if_neg even, List.length_singleton]
    refine (Nat.div_eq_of_lt_le ?_ ?_).symm
    · rw [Nat.succ_mul]
      omega
    · rw [Nat.succ_mul, Nat.succ_mul]
      omega

/-- The turns that are longer than a limit: all full ones or none of them, and perhaps the last. -/
theorem longTurns_turnsOf (positive : 0 < size) (limit : Nat) (items : List α) :
    ((turnsOf size items).map List.length).filter (limit < ·) =
      (if limit < size then List.replicate (items.length / size) size else []) ++
        if limit < items.length % size then [items.length % size] else [] := by
  rw [map_length_turnsOf positive, List.filter_append, List.filter_replicate]
  by_cases long : limit < items.length % size
  · have uneven : items.length % size ≠ 0 := by omega
    simp [long, uneven]
  · by_cases even : items.length % size = 0 <;> simp [long, even]

def Report.apartFromTurns (report : Report) : Report := { report with turns := 0, overLimit := [] }

theorem Report.eq_of_apartFromTurns {report other : Report}
    (apart : report.apartFromTurns = other.apartFromTurns) (turns : report.turns = other.turns)
    (overLimit : report.overLimit = other.overLimit) : report = other := by
  cases report
  cases other
  simp_all [apartFromTurns]

end SessionReplay
