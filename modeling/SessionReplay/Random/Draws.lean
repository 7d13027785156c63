import SessionReplay.Random.Keystream

/-! Random choices drawn from a stream of words. What a choice takes from the stream
depends on the stream alone, never on what the result is compared with. -/
namespace SessionReplay

/-- A stream of words and how many of them were taken. -/
structure Draws where
  stream : Nat → UInt32
  used : Nat := 0

namespace Draws

def ofSeed (seed : UInt64) : Draws :=
  { stream := Keystream.word (Keystream.keyOfSeed seed) }

def next (draws : Draws) : UInt32 × Draws :=
  (draws.stream draws.used, { draws with used := draws.used + 1 })

def evenZone : Nat := 4294967199

/-- A word times a hundred falls into one of a hundred parts of equal size. The few words whose
product ends above `evenZone` would make some parts larger than others and are refused. -/
def share (word : UInt32) : Option Nat :=
  let product := word.toNat * 100
  if product % UInt32.size ≤ evenZone then some (product / UInt32.size) else none

def attempt (draws : Draws) : Draws ⊕ Nat × Draws :=
  let (word, rest) := draws.next
  match share word with
  | some part => .inr (part, rest)
  | none => .inl rest

instance : Nonempty (Nat × Draws) := ⟨0, ⟨fun _ => 0, 0⟩⟩

/-- A number below a hundred from the first word that is not refused. The search has no bound: it
would not end if every word of the stream were refused. -/
def percent (draws : Draws) : Nat × Draws :=
  Id.run (repeatM attempt draws)

theorem percent_eq (draws : Draws) : draws.percent = Sum.elim percent id draws.attempt := by
  rw [percent, repeatM_eq_of_monadTail, repeatM.body, Id.run_bind, Id.run]
  cases draws.attempt <;> rfl

section Search
variable {draws : Draws} {part : Nat}

theorem attempt_of_some (accepted : share (draws.stream draws.used) = some part) :
    draws.attempt = .inr (part, draws.next.2) := by
  simp only [attempt, next, accepted]

theorem attempt_of_none (refused : share (draws.stream draws.used) = none) :
    draws.attempt = .inl draws.next.2 := by
  simp only [attempt, next, refused]

/-- The search stops at the first word that is not refused, however far along the stream. -/
theorem percent_of_first {skipped : Nat}
    (refused : ∀ i < skipped, share (draws.stream (draws.used + i)) = none)
    (accepted : share (draws.stream (draws.used + skipped)) = some part) :
    draws.percent = (part, { draws with used := draws.used + skipped + 1 }) := by
  induction skipped generalizing draws with
  | zero =>
    rw [percent_eq, attempt_of_some accepted]
    rfl
  | succ skipped ih =>
    have later (i : Nat) : draws.next.2.used + i = draws.used + (i + 1) :=
      Nat.add_right_comm draws.used 1 i
    have rest := @ih draws.next.2
    simp only [later] at rest
    rw [percent_eq, attempt_of_none (refused 0 (Nat.succ_pos skipped)), Sum.elim_inl]
    apply rest
    · intro i below
      exact refused (i + 1) (Nat.succ_lt_succ below)
    · exact accepted

end Search

/-- A fair coin from two words, the low one first: true in the lower half. -/
def coin (draws : Draws) : Bool × Draws :=
  let (_, rest) := draws.next
  let (high, rest) := rest.next
  (high < 0x80000000, rest)

end Draws
end SessionReplay
