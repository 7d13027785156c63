import SessionReplay.Decimal.Shortest

/-! How a finite float is written: the shortest digits that read back, positional
near one and with an exponent elsewhere. -/
namespace SessionReplay.Decimal

/-- Decides between positional notation and an exponent. -/
structure FloatFormat where
  /-- The exponents of the first digit that are written positionally. -/
  leastPositional : Int
  greatestPositional : Int

/-- Positional from `0.00001` up to sixteen places before the point. -/
def floatFormat : FloatFormat := ⟨-5, 15⟩

/-- A whole number without trailing zeros in base ten, and how many were dropped. -/
def stripZeros : Nat → Nat → Nat × Nat
  | 0, n => (n, 0)
  | limit + 1, n =>
    if n ≠ 0 ∧ n % 10 = 0 then
      let (rest, dropped) := stripZeros limit (n / 10)
      (rest, dropped + 1)
    else (n, 0)

/-- Digits with the point after the first `places` of them; a whole number keeps one
zero after the point. -/
def positional (digits : List Char) (places : Int) : List Char :=
  if places ≤ 0 then
    '0' :: '.' :: List.replicate (-places).toNat '0' ++ digits
  else
    let whole := digits.take places.toNat
    let fraction := digits.drop places.toNat
    whole ++ List.replicate (places.toNat - whole.length) '0' ++
      '.' :: if fraction.isEmpty then ['0'] else fraction

/-- Digits with the point after the first, and the exponent of that digit with its
sign. -/
def withExponent (digits : List Char) (exponent : Int) : List Char :=
  let mantissa := match digits with
    | first :: next :: rest => first :: '.' :: next :: rest
    | short => short
  let sign := if exponent < 0 then '-' else '+'
  mantissa ++ 'e' :: sign :: Nat.toDigits 10 exponent.natAbs

def floatText (value : Float) : String :=
  let (negative, biased, fraction) := partsOf value
  let sign := if negative then ['-'] else []
  let magnitude :=
    if biased = 0 ∧ fraction = 0 then positional ['0'] 1
    else
      let ⟨digits, exponent⟩ := (Interval.ofParts biased fraction).shortest
      let (digits, dropped) := stripZeros 20 digits
      let text := Nat.toDigits 10 digits
      let leading := exponent + dropped + text.length - 1
      if floatFormat.leastPositional ≤ leading ∧ leading ≤ floatFormat.greatestPositional then
        positional text (leading + 1)
      else withExponent text leading
  String.ofList (sign ++ magnitude)

end SessionReplay.Decimal
