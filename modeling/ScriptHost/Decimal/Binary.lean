import ScriptHost.Powers

/-!
# Doubles as exact numbers

`Binary.Parts.ofFloat` takes a double apart into sign, significand and power of two;
`Binary.ofRatio` gives the double nearest to a quotient of natural numbers, a tie going to the
even significand.
-/

namespace ScriptHost.Binary

/-- A double taken apart. A finite one is `significand * 2 ^ exponent`, with a sign. -/
inductive Parts
  | nan
  | infinite (negative : Bool)
  | finite (negative : Bool) (significand : Nat) (exponent : Int)
deriving DecidableEq

/-- The parts of a double. -/
def Parts.ofFloat (x : Float) : Parts :=
  let bits := x.toBits.toNat
  let negative := bits / 2 ^ 63 == 1
  let biased : Nat := bits / 2 ^ 52 % 2 ^ 11
  let fraction : Nat := bits % 2 ^ 52
  if biased = 2047 then
    if fraction = 0 then .infinite negative else .nan
  else if biased = 0 then .finite negative fraction (-1074)
  else .finite negative (2 ^ 52 + fraction) ((biased : Int) - 1075)

/-- The quotient rounded to the nearest natural number, a tie to the even one. -/
def roundQuotient (num den : Nat) : Nat :=
  let quotient := num / den
  let twice := 2 * (num % den)
  if twice < den then quotient
  else if den < twice then quotient + 1
  else if quotient % 2 = 0 then quotient else quotient + 1

/-- `roundQuotient` of `num / (den * 2 ^ exponent)`. -/
def roundScaled (num den : Nat) (exponent : Int) : Nat :=
  if 0 ≤ exponent then roundQuotient num (den * 2 ^ exponent.toNat)
  else roundQuotient (num * 2 ^ (-exponent).toNat) den

/-- Whether `num / den` is at least `2 ^ exponent`. -/
def atLeastPower (num den : Nat) (exponent : Int) : Bool :=
  if 0 ≤ exponent then den * 2 ^ exponent.toNat ≤ num
  else den ≤ num * 2 ^ (-exponent).toNat

/-- The bits of the double nearest to `num / den`, without its sign; past the greatest double,
infinity. -/
def ratioBits (num den : Nat) : Nat :=
  if num = 0 || den = 0 then 0
  else
    let guess : Int := (num.log2 : Int) - den.log2
    let top := if atLeastPower num den guess then guess else guess - 1
    let exponent := max (top - 52) (-1074)
    let significand := roundScaled num den exponent
    let bits :=
      if significand < 2 ^ 52 then significand
      else (exponent + 1075).toNat * 2 ^ 52 + (significand - 2 ^ 52)
    min bits (2047 * 2 ^ 52)

/-- The double nearest to `num / den`. -/
def ofRatio (negative : Bool) (num den : Nat) : Float :=
  Float.ofBits ((if negative then 2 ^ 63 else 0) + ratioBits num den).toUInt64

/-- The double nearest to an integer. -/
def ofInt (i : Int) : Float := ofRatio (i < 0) i.natAbs 1

/-- Not a number. -/
def nan : Float := Float.ofBits 0x7FF8000000000000

/-- Infinity, of either sign. -/
def infinity (negative : Bool) : Float :=
  Float.ofBits (if negative then 0xFFF0000000000000 else 0x7FF0000000000000)

/-- A double with the other sign: the sign is the first bit, which an addition turns over. -/
def negate (x : Float) : Float := Float.ofBits (x.toBits + 0x8000000000000000)

/-- Whether a double is the zero below zero. -/
def isNegativeZero (x : Float) : Bool := x.toBits == 0x8000000000000000

/-- The integer part of a finite double, with its sign; none for the others. -/
def truncate? (x : Float) : Option Int :=
  match Parts.ofFloat x with
  | .finite negative significand exponent =>
    let magnitude : Nat :=
      if 0 ≤ exponent then significand * 2 ^ exponent.toNat
      else significand / 2 ^ (-exponent).toNat
    some (if negative then -(magnitude : Int) else magnitude)
  | _ => none

/-- The integer that a double is equal to, if it is one. -/
def toInt? (x : Float) : Option Int :=
  match Parts.ofFloat x with
  | .finite negative significand exponent =>
    if 0 ≤ exponent then
      let magnitude := significand * 2 ^ exponent.toNat
      some (if negative then -(magnitude : Int) else magnitude)
    else
      let unit := 2 ^ (-exponent).toNat
      if significand % unit = 0 then
        let magnitude := significand / unit
        some (if negative then -(magnitude : Int) else magnitude)
      else none
  | _ => none

end ScriptHost.Binary
