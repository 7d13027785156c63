/-! Arithmetic on 64-bit words that notices when a result leaves the range, and
words as little-endian bytes. Times, identifiers and buffer offsets are words. -/
namespace SessionReplay

abbrev Word := UInt64

namespace Word

/-- The sum, absent when it does not fit a word. -/
def add? (a b : Word) : Option Word :=
  if a.toNat + b.toNat < UInt64.size then some (a + b) else none

def sub? (a b : Word) : Option Word :=
  if b ≤ a then some (a - b) else none

def top : Word := 0xFFFFFFFFFFFFFFFF

/-- The sum, held at the largest word. -/
def addCapped (a b : Word) : Word := (add? a b).getD top

/-- The difference, held at zero. -/
def subFloored (a b : Word) : Word := (sub? a b).getD 0

theorem add?_toNat {a b c : Word} (sum : add? a b = some c) : c.toNat = a.toNat + b.toNat := by
  unfold add? at sum
  split at sum
  · next fits =>
    obtain rfl := Option.some.inj sum
    rw [UInt64.toNat_add, Nat.mod_eq_of_lt fits]
  · contradiction

theorem sub?_toNat {a b c : Word} (difference : sub? a b = some c) :
    b ≤ a ∧ c.toNat = a.toNat - b.toNat := by
  unfold sub? at difference
  split at difference
  · next le =>
    obtain rfl := Option.some.inj difference
    exact ⟨le, UInt64.toNat_sub_of_le _ _ le⟩
  · contradiction

theorem addCapped_toNat (a b : Word) :
    (addCapped a b).toNat = min (a.toNat + b.toNat) top.toNat := by
  unfold addCapped add?
  have size : UInt64.size = top.toNat + 1 := rfl
  split
  · next fits =>
    rw [Option.getD_some, UInt64.toNat_add, Nat.mod_eq_of_lt fits]
    omega
  · rw [Option.getD_none]
    omega

theorem subFloored_toNat (a b : Word) : (subFloored a b).toNat = a.toNat - b.toNat := by
  unfold subFloored sub?
  split
  · next le => exact UInt64.toNat_sub_of_le _ _ le
  · next gt =>
    have := mt UInt64.le_iff_toNat_le.mpr gt
    show 0 = _
    omega

end Word

/-- The low `width` bytes of a number, least significant first. -/
def littleEndian : Nat → Nat → List UInt8
  | 0, _ => []
  | width + 1, n => UInt8.ofNat n :: littleEndian width (n / 256)

def ofLittleEndian : List UInt8 → Nat
  | [] => 0
  | byte :: rest => byte.toNat + 256 * ofLittleEndian rest

@[simp] theorem length_littleEndian (width n : Nat) : (littleEndian width n).length = width := by
  induction width generalizing n with
  | zero => rfl
  | succ width ih => simp [littleEndian, ih]

theorem ofLittleEndian_littleEndian (width n : Nat) :
    ofLittleEndian (littleEndian width n) = n % Nat.pow 256 width := by
  induction width generalizing n with
  | zero => simp [littleEndian, ofLittleEndian, Nat.mod_one]
  | succ width ih =>
    have low : (UInt8.ofNat n).toNat = n % 256 := by simp
    have next : Nat.pow 256 (width + 1) = 256 * Nat.pow 256 width := Nat.mul_comm _ 256
    rw [littleEndian, ofLittleEndian, ih, low, next, Nat.mod_mul]

end SessionReplay
