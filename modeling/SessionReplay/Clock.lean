import SessionReplay.Word

/-! Logical time. No wall clock is consulted: a clock only ever moves forward to
the stamps it is shown, so it reads the maximum of its start and all of them. -/
namespace SessionReplay

def nanosPerMilli : Word := 1000000

/-- A clock in nanoseconds since an arbitrary epoch. -/
structure Clock where
  now : Word
  deriving DecidableEq, Inhabited

namespace Clock

/-- Moves forward to a stamp that is ahead; a stamp behind the clock is ignored. -/
def advance (clock : Clock) (stamp : Word) : Clock := ⟨max clock.now stamp⟩

def millis (clock : Clock) : Word := clock.now / nanosPerMilli

theorem advance_now (clock : Clock) (stamp : Word) :
    (clock.advance stamp).now.toNat = max clock.now.toNat stamp.toNat := by
  show (if clock.now ≤ stamp then stamp else clock.now).toNat = _
  split
  · next le => exact (Nat.max_eq_right (UInt64.le_iff_toNat_le.mp le)).symm
  · next gt =>
    have := mt UInt64.le_iff_toNat_le.mpr gt
    omega

end Clock
end SessionReplay
