import ScriptHost.Decimal.Shortest

/-!
# Number texts

A `Style` says how a decimal is laid out: between which exponents it is positional, whether an
integral value keeps its point, and how wide an exponent is.  There are two: host numbers keep the
point (`1.0`, `1e-07`), script numbers do not (`1`, `1e-7`).
-/

namespace ScriptHost.Decimal

/-- How a decimal is laid out. -/
structure Style where
  /-- The least exponent of the leading digit that is written positionally. -/
  positionalFrom : Int
  /-- The first exponent of the leading digit that is not. -/
  positionalBelow : Int
  /-- Whether an integral value ends in `.0`. -/
  keepsPoint : Bool
  /-- The least number of digits of an exponent. -/
  exponentWidth : Nat
  nan : String
  infinity : String
  /-- Whether the zero below zero shows its sign. -/
  signsZero : Bool

/-- Host floats: sixteen places before the point, four zeros after it, exponents of two digits. -/
def hostStyle : Style :=
  { positionalFrom := -4, positionalBelow := 16, keepsPoint := true, exponentWidth := 2,
    nan := "nan", infinity := "inf", signsZero := true }

/-- The host style with the words that JSON texts use. -/
def jsonStyle : Style := { hostStyle with nan := "NaN", infinity := "Infinity" }

/-- Script numbers: twenty-one places before the point, six zeros after it. -/
def scriptStyle : Style :=
  { positionalFrom := -6, positionalBelow := 21, keepsPoint := false, exponentWidth := 1,
    nan := "NaN", infinity := "Infinity", signsZero := false }

/-- The digits of a natural number as characters. -/
def digitChars (n : Nat) : List Char := Nat.toDigits 10 n

/-- The digits of a decimal without trailing zeros. -/
def significantChars (n : Nat) : List Char :=
  ((digitChars n).reverse.dropWhile (· == '0')).reverse

/-- A decimal exponent: sign, then at least `width` digits. -/
def exponentChars (width : Nat) (e : Int) : List Char :=
  let digits := digitChars e.natAbs
  (if e < 0 then '-' else '+') :: (List.replicate (width - digits.length) '0' ++ digits)

/-- Lays out digits whose leading one has exponent `lead`. -/
def Style.layOut (style : Style) (digits : List Char) (lead : Int) : List Char :=
  let count := digits.length
  if style.positionalFrom ≤ lead && lead < style.positionalBelow then
    if lead < 0 then '0' :: '.' :: (List.replicate (-lead - 1).toNat '0' ++ digits)
    else
      let whole := lead.toNat + 1
      if count ≤ whole then
        digits ++ List.replicate (whole - count) '0'
          ++ (if style.keepsPoint then ['.', '0'] else [])
      else digits.take whole ++ '.' :: digits.drop whole
  else
    match digits with
    | [] => []
    | d :: rest =>
      (if rest.isEmpty then [d] else d :: '.' :: rest)
        ++ 'e' :: exponentChars style.exponentWidth lead

/-- The text of a double. -/
def Style.chars (style : Style) (x : Float) : List Char :=
  match Binary.Parts.ofFloat x with
  | .nan => style.nan.toList
  | .infinite negative => (if negative then ['-'] else []) ++ style.infinity.toList
  | .finite negative significand exponent =>
    if significand = 0 then
      (if negative && style.signsZero then ['-'] else [])
        ++ (if style.keepsPoint then ['0', '.', '0'] else ['0'])
    else
      let decimal := shortest significand exponent
      let lead := (digitCount decimal.digits : Int) - 1 + decimal.exponent
      (if negative then ['-'] else []) ++ style.layOut (significantChars decimal.digits) lead

/-- The text of a double, as a string. -/
def Style.write (style : Style) (x : Float) : String := String.ofList (style.chars x)

/-- The double nearest to `digits * 10 ^ exponent`. Exponents far outside the range of doubles
are settled without computing the power. -/
def toFloat (negative : Bool) (digits : Nat) (exponent : Int) : Float :=
  if digits = 0 then Binary.ofRatio negative 0 1
  else
    let lead := (digitCount digits : Int) + exponent
    if 400 < lead then Binary.infinity negative
    else if lead < -400 then Binary.ofRatio negative 0 1
    else if 0 ≤ exponent then Binary.ofRatio negative (digits * 10 ^ exponent.toNat) 1
    else Binary.ofRatio negative digits (10 ^ (-exponent).toNat)

/-- The value of a run of decimal digits. -/
def digitsValue (cs : List Char) : Nat :=
  cs.foldl (fun n c => 10 * n + (c.toNat - 48)) 0

end ScriptHost.Decimal
