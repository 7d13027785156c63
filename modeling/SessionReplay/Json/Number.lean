import SessionReplay.Json.Fault

/-! Numbers in JSON. An integer of at most 64 bits is kept as it is; every other
number is a binary fraction, read from the leading digits that fit a word. -/
namespace SessionReplay.Json

/-- A number as it is written: digits before and after the point, and the exponent
with its sign. -/
structure NumberLiteral where
  negative : Bool := false
  whole : List Char
  fraction : List Char := []
  exponent : Option (Bool × List Char) := none
  deriving DecidableEq

inductive Number where
  | integer (value : Int)
  | float (value : Float)

/-- A step that succeeds after another has what the other answered. -/
theorem bind_ok {α β : Type} {first : Except ReadFault α} {next : α → Except ReadFault β}
    {b : β} (done : first.bind next = .ok b) : ∃ a, first = .ok a ∧ next a = .ok b := by
  cases first with
  | error fault => contradiction
  | ok a => exact ⟨a, rfl, done⟩

/-- At least one digit, and what follows the digits. -/
def someDigits : List Char → Except ReadFault (List Char × List Char)
  | [] => .error .truncated
  | c :: rest =>
    if c.isDigit then .ok (c :: rest.takeWhile Char.isDigit, rest.dropWhile Char.isDigit)
    else .error .malformed

namespace NumberLiteral

/-- The digits before the point. Only zero itself begins with a zero. -/
def wholePart : List Char → Except ReadFault (List Char × List Char)
  | '0' :: c :: rest => if c.isDigit then .error .malformed else .ok (['0'], c :: rest)
  | text => someDigits text

def fractionPart : List Char → Except ReadFault (List Char × List Char)
  | '.' :: rest => someDigits rest
  | text => .ok ([], text)

def exponentDigits : List Char → Except ReadFault ((Bool × List Char) × List Char)
  | '-' :: rest => do
    let (digits, rest) ← someDigits rest
    .ok ((true, digits), rest)
  | '+' :: rest => do
    let (digits, rest) ← someDigits rest
    .ok ((false, digits), rest)
  | text => do
    let (digits, rest) ← someDigits text
    .ok ((false, digits), rest)

def exponentPart : List Char → Except ReadFault (Option (Bool × List Char) × List Char)
  | [] => .ok (none, [])
  | c :: rest =>
    if c = 'e' ∨ c = 'E' then do
      let (exponent, rest) ← exponentDigits rest
      .ok (some exponent, rest)
    else .ok (none, c :: rest)

def scanUnsigned (negative : Bool) (text : List Char) :
    Except ReadFault (NumberLiteral × List Char) := do
  let (whole, text) ← wholePart text
  let (fraction, text) ← fractionPart text
  let (exponent, text) ← exponentPart text
  .ok ({ negative, whole, fraction, exponent }, text)

def scan : List Char → Except ReadFault (NumberLiteral × List Char)
  | '-' :: rest => scanUnsigned true rest
  | text => scanUnsigned false text

theorem length_dropWhile_le (p : Char → Bool) (text : List Char) :
    (text.dropWhile p).length ≤ text.length :=
  (List.dropWhile_sublist p).length_le

theorem someDigits_length {text digits rest : List Char}
    (scanned : someDigits text = .ok (digits, rest)) : rest.length < text.length := by
  unfold someDigits at scanned
  split at scanned
  · contradiction
  · split at scanned
    · obtain ⟨-, rfl⟩ := Prod.mk.inj (Except.ok.inj scanned)
      exact Nat.lt_succ_of_le (length_dropWhile_le ..)
    · contradiction

theorem wholePart_length {text digits rest : List Char}
    (scanned : wholePart text = .ok (digits, rest)) : rest.length < text.length := by
  unfold wholePart at scanned
  split at scanned
  · split at scanned
    · contradiction
    · obtain ⟨-, rfl⟩ := Prod.mk.inj (Except.ok.inj scanned)
      simp
  · exact someDigits_length scanned

theorem fractionPart_length {text digits rest : List Char}
    (scanned : fractionPart text = .ok (digits, rest)) : rest.length ≤ text.length := by
  unfold fractionPart at scanned
  split at scanned
  · exact Nat.le_succ_of_le (Nat.le_of_lt (someDigits_length scanned))
  · obtain ⟨-, rfl⟩ := Prod.mk.inj (Except.ok.inj scanned)
    exact Nat.le_refl _

theorem exponentDigits_length {text rest : List Char} {exponent : Bool × List Char}
    (scanned : exponentDigits text = .ok (exponent, rest)) : rest.length ≤ text.length := by
  unfold exponentDigits at scanned
  split at scanned
  all_goals
    obtain ⟨⟨_, after⟩, some, done⟩ := bind_ok scanned
    have shorter := Nat.le_of_lt (someDigits_length some)
    obtain ⟨-, rfl⟩ := Prod.mk.inj (Except.ok.inj done)
  · exact Nat.le_succ_of_le shorter
  · exact Nat.le_succ_of_le shorter
  · exact shorter

theorem exponentPart_length {text rest : List Char} {exponent : Option (Bool × List Char)}
    (scanned : exponentPart text = .ok (exponent, rest)) : rest.length ≤ text.length := by
  unfold exponentPart at scanned
  split at scanned
  · obtain ⟨-, rfl⟩ := Prod.mk.inj (Except.ok.inj scanned)
    exact Nat.le_refl _
  · split at scanned
    · obtain ⟨⟨_, after⟩, some, done⟩ := bind_ok scanned
      have := exponentDigits_length some
      obtain ⟨-, rfl⟩ := Prod.mk.inj (Except.ok.inj done)
      simp only [List.length_cons]; omega
    · obtain ⟨-, rfl⟩ := Prod.mk.inj (Except.ok.inj scanned)
      exact Nat.le_refl _

theorem scanUnsigned_length {negative : Bool} {text rest : List Char} {literal : NumberLiteral}
    (scanned : scanUnsigned negative text = .ok (literal, rest)) : rest.length < text.length := by
  obtain ⟨⟨_, afterWhole⟩, whole, scanned⟩ := bind_ok scanned
  obtain ⟨⟨_, afterFraction⟩, fraction, scanned⟩ := bind_ok scanned
  obtain ⟨⟨_, afterExponent⟩, exponent, done⟩ := bind_ok scanned
  have := wholePart_length whole
  have := fractionPart_length fraction
  have := exponentPart_length exponent
  obtain ⟨-, rfl⟩ := Prod.mk.inj (Except.ok.inj done)
  omega

theorem scan_length {text rest : List Char} {literal : NumberLiteral}
    (scanned : scan text = .ok (literal, rest)) : rest.length < text.length := by
  unfold scan at scanned
  split at scanned
  · exact Nat.lt_succ_of_lt (scanUnsigned_length scanned)
  · exact scanUnsigned_length scanned

def valueOf (digits : List Char) : Nat := Nat.ofDigitChars 10 digits 0

/-- Appends digits to a number as long as it stays below `2 ^ 64`, and counts them. -/
def gather (start : Nat) : List Char → Nat × Nat
  | [] => (start, 0)
  | c :: rest =>
    let longer := 10 * start + (c.toNat - '0'.toNat)
    if longer < UInt64.size then
      let (significand, taken) := gather longer rest
      (significand, taken + 1)
    else (start, 0)

/-- Exponents of this size and above are taken for infinite. -/
def exponentLimit : Nat := 2147483648

/-- The powers of ten up to this one are floats. -/
def greatestPower : Nat := 308

/-- `value * 10 ^ exponent`, in steps that are single operations on floats. Nothing is
answered for a number too large to be a float. -/
def scale (value : Float) (exponent : Int) : Option Float :=
  if exponent.natAbs ≤ greatestPower then
    let power := Float.ofScientific 1 false exponent.natAbs
    if 0 ≤ exponent then
      if (value * power).isInf then none else some (value * power)
    else some (value / power)
  else if value == 0 then some value
  else if 0 ≤ exponent then none
  else scale (value / Float.ofScientific 1 false greatestPower) (exponent + greatestPower)
termination_by (-exponent).toNat
decreasing_by simp only [greatestPower] at *; omega

/-- The float nearest to what is written, up to the rounding of each step. -/
def float (literal : NumberLiteral) : Except ReadFault Float :=
  let (significand, wholeTaken) := gather 0 literal.whole
  let (significand, fractionTaken) := gather significand literal.fraction
  let places : Int := (literal.whole.length - wholeTaken : Nat) - (fractionTaken : Int)
  let signed (value : Float) : Float := if literal.negative then -value else value
  let scaled (exponent : Int) : Except ReadFault Float :=
    match scale (UInt64.ofNat significand).toFloat exponent with
    | some value => .ok (signed value)
    | none => .error .malformed
  match literal.exponent with
  | none => scaled places
  | some (down, digits) =>
    if exponentLimit ≤ valueOf digits then
      if significand = 0 ∨ down then .ok (signed 0) else .error .malformed
    else scaled (if down then places - valueOf digits else places + valueOf digits)

/-- The integer that is written, if it is one of at most 64 bits. Minus zero is none. -/
def integer? (literal : NumberLiteral) : Option Int :=
  if literal.fraction = [] ∧ literal.exponent = none then
    let magnitude := valueOf literal.whole
    if literal.negative then
      if 0 < magnitude ∧ magnitude ≤ 9223372036854775808 then some (-magnitude) else none
    else if magnitude < UInt64.size then some magnitude else none
  else none

def value (literal : NumberLiteral) : Except ReadFault Number :=
  match literal.integer? with
  | some value => .ok (.integer value)
  | none => literal.float.map .float

end NumberLiteral
end SessionReplay.Json
