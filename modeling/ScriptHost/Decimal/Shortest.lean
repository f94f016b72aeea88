import ScriptHost.Decimal.Binary

/-!
# Shortest decimals

The decimal of a double is the one with the fewest digits that reads back as the same double,
and among those the nearest.  For each digit count the two neighbours of the value on that
decimal grid are tested; the first grid with a hit wins.
-/

namespace ScriptHost.Decimal

/-- The number of decimal digits; one for zero. -/
def digitCount (n : Nat) : Nat := (Nat.toDigits 10 n).length

/-- A positive decimal `digits * 10 ^ exponent`. -/
structure Digits where
  digits : Nat
  exponent : Int
deriving DecidableEq

/-- Compares `a * 10 ^ e` with `b`: whether it is at most `b`. -/
def scaledLe (a : Nat) (e : Int) (b : Nat) : Bool :=
  if 0 ≤ e then a * 10 ^ e.toNat ≤ b else a ≤ b * 10 ^ (-e).toNat

/-- Compares `b` with `a * 10 ^ e`: whether `b` is at most that. -/
def leScaled (b a : Nat) (e : Int) : Bool :=
  if 0 ≤ e then b ≤ a * 10 ^ e.toNat else b * 10 ^ (-e).toNat ≤ a

/-- The reals that round to a double, as numerators over one denominator, with the value itself
and whether the two ends belong to them. -/
structure Interval where
  low : Nat
  value : Nat
  high : Nat
  den : Nat
  closed : Bool

/-- The interval of `significand * 2 ^ exponent`. Below a power of two the gap is half as wide. -/
def Interval.ofBinary (significand : Nat) (exponent : Int) : Interval :=
  let below := if significand = 2 ^ 52 && -1074 < exponent then 1 else 2
  let shift := exponent - 2
  let unit := if 0 ≤ shift then 2 ^ shift.toNat else 1
  { low := (4 * significand - below) * unit
    value := 4 * significand * unit
    high := (4 * significand + 2) * unit
    den := if 0 ≤ shift then 1 else 2 ^ (-shift).toNat
    closed := significand % 2 == 0 }

/-- Whether `d * 10 ^ e` lies in the interval. -/
def Interval.holds (i : Interval) (d : Nat) (e : Int) : Bool :=
  if i.closed then leScaled i.low (d * i.den) e && scaledLe (d * i.den) e i.high
  else !scaledLe (d * i.den) e i.low && !leScaled i.high (d * i.den) e

/-- The exponent of the power of ten just above the value. -/
def Interval.magnitude (i : Interval) : Int :=
  if i.den ≤ i.value then digitCount (i.value / i.den)
  else 1 - (digitCount ((i.den + i.value - 1) / i.value - 1) : Int)

/-- The greatest `d` with `d * 10 ^ e` at most the value. -/
def Interval.below (i : Interval) (e : Int) : Nat :=
  if 0 ≤ e then i.value / (i.den * 10 ^ e.toNat)
  else i.value * 10 ^ (-e).toNat / i.den

/-- Whether the value is nearer to `d * 10 ^ e` than to the next point of the grid; a tie goes to
the even one. -/
def Interval.nearerBelow (i : Interval) (d : Nat) (e : Int) : Bool :=
  let twice := 2 * i.value
  let middle := (2 * d + 1) * i.den
  if leScaled twice middle e && scaledLe middle e twice then d % 2 == 0
  else leScaled twice middle e

/-- Tries `fuel` digit counts from `count` on. -/
def Interval.search (i : Interval) : Nat → Nat → Digits
  | 0, count => ⟨i.below (i.magnitude - count), i.magnitude - count⟩
  | fuel + 1, count =>
    let e := i.magnitude - count
    let d := i.below e
    match i.holds d e, i.holds (d + 1) e with
    | true, true => if i.nearerBelow d e then ⟨d, e⟩ else ⟨d + 1, e⟩
    | true, false => ⟨d, e⟩
    | false, true => ⟨d + 1, e⟩
    | false, false => i.search fuel (count + 1)

/-- The decimal of a positive double; seventeen digits always suffice. -/
def shortest (significand : Nat) (exponent : Int) : Digits :=
  (Interval.ofBinary significand exponent).search 17 1

end ScriptHost.Decimal
