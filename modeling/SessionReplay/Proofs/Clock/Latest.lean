import Mathlib.Data.List.Chain
import SessionReplay.Clock
import SessionReplay.LogRecord

/-! The latest of some stamps. A clock that is offered stamps reads the latest of them and of what
it began with, and what it logs of each offer begins where the one before it ended. -/
namespace SessionReplay
namespace Clock

def IsLatest (latest : Word) (stamps : List Word) : Prop :=
  latest ∈ stamps ∧ ∀ stamp ∈ stamps, stamp ≤ latest

def offered (clock : Clock) (stamps : List Word) : Clock := stamps.foldl advance clock

/-- What is logged while a clock is offered stamps. -/
def told (clock : Clock) : List Word → List LogRecord
  | [] => []
  | stamp :: rest => .clockAdvanced clock.now stamp :: (clock.advance stamp).told rest

section Advance
variable {clock other : Clock}

theorem le_advance (clock : Clock) (stamp : Word) : clock.now ≤ (clock.advance stamp).now := by
  rw [UInt64.le_iff_toNat_le, advance_now]
  omega

theorem stamp_le_advance (clock : Clock) (stamp : Word) : stamp ≤ (clock.advance stamp).now := by
  rw [UInt64.le_iff_toNat_le, advance_now]
  omega

theorem advance_le_advance (behind : clock.now ≤ other.now) (stamp : Word) :
    (clock.advance stamp).now ≤ (other.advance stamp).now := by
  rw [UInt64.le_iff_toNat_le] at behind ⊢
  rw [advance_now, advance_now]
  omega

theorem advance_now_eq (clock : Clock) (stamp : Word) :
    (clock.advance stamp).now = clock.now ∨ (clock.advance stamp).now = stamp := by
  rw [← UInt64.toNat_inj, ← UInt64.toNat_inj, advance_now]
  omega

end Advance

theorem IsLatest.singleton (stamp : Word) : IsLatest stamp [stamp] := by
  constructor
  · exact List.mem_singleton_self stamp
  · intro other member
    exact UInt64.le_of_eq (List.mem_singleton.mp member)

/-- The latest of the same stamps in another order is the same. -/
theorem IsLatest.eq_of_perm {latest other : Word} (one : IsLatest latest stamps)
    (two : IsLatest other shuffled) (perm : shuffled.Perm stamps) : other = latest :=
  UInt64.le_antisymm (one.2 _ (perm.mem_iff.mp two.1)) (two.2 _ (perm.mem_iff.mpr one.1))

/-- After an advance, what came after it is judged against what the advance took into account. -/
theorem IsLatest.advance {clock : Clock}
    (later : IsLatest latest ((clock.advance stamp).now :: rest)) :
    IsLatest latest (clock.now :: stamp :: rest) := by
  obtain ⟨member, above⟩ := later
  have reached := above _ List.mem_cons_self
  constructor
  · rcases List.mem_cons.mp member with rfl | onward
    · rcases clock.advance_now_eq stamp with old | new
      · rw [old]
        exact List.mem_cons_self
      · rw [new]
        exact List.mem_cons_of_mem _ List.mem_cons_self
    · exact List.mem_cons_of_mem _ (List.mem_cons_of_mem _ onward)
  · intro shown member
    rcases List.mem_cons.mp member with rfl | member
    · exact UInt64.le_trans (clock.le_advance stamp) reached
    · rcases List.mem_cons.mp member with rfl | member
      · exact UInt64.le_trans (clock.stamp_le_advance shown) reached
      · exact above shown (List.mem_cons_of_mem _ member)

theorem isLatest_offered (clock : Clock) (stamps : List Word) :
    IsLatest (clock.offered stamps).now (clock.now :: stamps) := by
  induction stamps generalizing clock with
  | nil => exact .singleton clock.now
  | cons stamp rest ih => exact (ih (clock.advance stamp)).advance

theorem le_offered (clock : Clock) (stamps : List Word) : clock.now ≤ (clock.offered stamps).now :=
  (clock.isLatest_offered stamps).2 _ List.mem_cons_self

theorem offered_append (clock : Clock) (first second : List Word) :
    clock.offered (first ++ second) = (clock.offered first).offered second :=
  List.foldl_append

theorem told_append (clock : Clock) (first second : List Word) :
    clock.told (first ++ second) = clock.told first ++ (clock.offered first).told second := by
  induction first generalizing clock with
  | nil => rfl
  | cons stamp rest ih => exact congrArg (_ :: ·) (ih (clock.advance stamp))

theorem length_told (clock : Clock) (stamps : List Word) :
    (clock.told stamps).length = stamps.length := by
  induction stamps generalizing clock with
  | nil => rfl
  | cons stamp rest ih => exact congrArg (· + 1) (ih (clock.advance stamp))

/-- A record says what the clock read when the stamp was offered. -/
theorem getElem?_told (clock : Clock) {stamps earlier later : List Word}
    (made : stamps = earlier ++ stamp :: later) :
    (clock.told stamps)[earlier.length]? =
      some (.clockAdvanced (clock.offered earlier).now stamp) := by
  rw [made, told_append, List.getElem?_append_right (Nat.le_of_eq (length_told ..)), length_told,
    Nat.sub_self]
  rfl

end Clock

/-- The second record of a clock finds it where the first one left it. -/
def LogRecord.Precedes (first second : LogRecord) : Prop :=
  ∃ old stamp next, first = clockAdvanced old stamp ∧ second = clockAdvanced (max old stamp) next

theorem Clock.isChain_told (clock : Clock) (stamps : List Word) :
    List.IsChain LogRecord.Precedes (clock.told stamps) := by
  induction stamps generalizing clock with
  | nil => exact .nil
  | cons stamp rest ih =>
    have onward := ih (clock.advance stamp)
    cases rest with
    | nil => exact .singleton _
    | cons next rest => exact .cons_cons ⟨clock.now, stamp, next, rfl, rfl⟩ onward

end SessionReplay
