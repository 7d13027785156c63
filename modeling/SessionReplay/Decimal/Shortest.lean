/-! The fewest decimal digits that read back as a binary fraction. A finite value is
`mantissa * 2 ^ exponent`; every real number strictly between the midpoints to its
two neighbours reads back as it, and so do the midpoints when the mantissa is even.
For one digit, two digits and so on, the two points of the decimal grid around the
value are tried; of two that read back the nearer one is taken. -/
namespace SessionReplay.Decimal

/-- A positive value, scaled so that the midpoints to its neighbours are whole: the
value and the ends of the interval that rounds to it, each divided by `scale`. -/
structure Interval where
  low : Nat
  value : Nat
  high : Nat
  scale : Nat
  /-- The ends belong to the interval. -/
  closed : Bool

/-- A whole number times a power of ten. -/
structure Scientific where
  digits : Nat
  exponent : Int
  deriving DecidableEq

def fractionBits : Nat := 52

/-- The interval of the float with this biased exponent and fraction. Below a power
of two the gap to the next smaller value is half as wide. -/
def Interval.ofParts (biased fraction : Nat) : Interval :=
  let mantissa := if biased = 0 then fraction else Nat.pow 2 fractionBits + fraction
  let exponent := (max biased 1 : Int) - 1075 - 2
  let narrow := fraction = 0 && 1 < biased
  let up := Nat.pow 2 exponent.toNat
  { low := (4 * mantissa - if narrow then 1 else 2) * up
    value := 4 * mantissa * up
    high := (4 * mantissa + 2) * up
    scale := Nat.pow 2 (-exponent).toNat
    closed := mantissa % 2 = 0 }

/-- Does the number `digits * unit / divisor` read back as the value? -/
def Interval.holds (interval : Interval) (digits unit divisor : Nat) : Bool :=
  let point := digits * unit * interval.scale
  if interval.closed then interval.low * divisor ≤ point && point ≤ interval.high * divisor
  else interval.low * divisor < point && point < interval.high * divisor

def Interval.reaches (interval : Interval) (power : Int) : Bool :=
  interval.scale * Nat.pow 10 power.toNat ≤ interval.value * Nat.pow 10 (-power).toNat

/-- The place of the first digit: the least power of ten above the value, looked for
downwards from `power`. -/
def Interval.leadingPlace (interval : Interval) : Nat → Int → Int
  | 0, power => power
  | steps + 1, power =>
    if interval.reaches (power - 1) then power else interval.leadingPlace steps (power - 1)

/-- The point of the grid of `10 ^ exponent` that reads back and is nearest. -/
def Interval.onGrid? (interval : Interval) (exponent : Int) : Option Scientific :=
  let unit := Nat.pow 10 exponent.toNat
  let divisor := Nat.pow 10 (-exponent).toNat
  let below := interval.value * divisor / (unit * interval.scale)
  let above := below + 1
  match interval.holds below unit divisor, interval.holds above unit divisor with
  | false, false => none
  | true, false => some ⟨below, exponent⟩
  | false, true => some ⟨above, exponent⟩
  | true, true =>
    let value := interval.value * divisor
    let toBelow := value - below * unit * interval.scale
    let toAbove := above * unit * interval.scale - value
    if toBelow < toAbove then some ⟨below, exponent⟩
    else if toAbove < toBelow then some ⟨above, exponent⟩
    else some ⟨if below % 2 = 0 then below else above, exponent⟩

/-- The first grid with a point that reads back, from coarse to fine. -/
def Interval.firstGrid (interval : Interval) : Nat → Int → Scientific
  | 0, exponent => (interval.onGrid? exponent).getD ⟨0, exponent⟩
  | finer + 1, exponent =>
    (interval.onGrid? exponent).getD (interval.firstGrid finer (exponent - 1))

/-- Powers of ten between the largest and the smallest float. -/
def placesOfFloats : Nat := 640

/-- The shortest decimal that reads back as the value. Seventeen digits always do. -/
def Interval.shortest (interval : Interval) : Scientific :=
  interval.firstGrid 16 (interval.leadingPlace placesOfFloats 310 - 1)

def partsOf (value : Float) : Bool × Nat × Nat :=
  let bits := value.toBits.toNat
  let scale := Nat.pow 2 fractionBits
  (bits / scale / 2048 = 1, bits / scale % 2048, bits % scale)

end SessionReplay.Decimal
