import ScriptHost.Decimal.Style
import ScriptHost.Script.Token

/-!
# Script numbers

Reading numbers from text, writing them as text, and arithmetic.  Arithmetic on two integers of 32
bits stays in integers while the result fits; as soon as one operand is a double, the result of
adding, subtracting, multiplying, dividing or raising is a double even if it is integral.
-/

namespace ScriptHost.Script.Number

/-! ## Doubles -/

/-- The remainder of a division that truncates, with the sign of the dividend. -/
def remainder (a b : Float) : Float :=
  match Binary.Parts.ofFloat a, Binary.Parts.ofFloat b with
  | .finite negative sa ea, .finite _ sb eb =>
    if sb = 0 then Binary.nan
    else
      let e := min ea eb
      let na := sa * 2 ^ (ea - e).toNat
      let nb := sb * 2 ^ (eb - e).toNat
      let r := na % nb
      if 0 ≤ e then Binary.ofRatio negative (r * 2 ^ e.toNat) 1
      else Binary.ofRatio negative r (2 ^ (-e).toNat)
  | .finite _ _ _, .infinite _ => a
  | _, _ => Binary.nan

/-- A power. One raised to an infinity is not a number. -/
def power (a b : Float) : Float :=
  if b.isNaN || (b.isInf && a.abs == 1.0) then Binary.nan else Float.pow a b

/-- The integer part of a double, or zero if it has none. -/
def truncated (x : Float) : Int := (Binary.truncate? x).getD 0

/-- A double as an integer of 32 bits, by its residue. -/
def toInt32 (x : Float) : Int32 := Int32.ofInt (truncated x)

/-- A double as a natural number below `2 ^ 32`, by its residue. -/
def toUInt32 (x : Float) : Nat := (truncated x % 2 ^ 32).toNat

/-! ## Reading numbers -/

/-- White space around a number, line ends included. -/
def isNumberBlank (c : CodePoint) : Bool := isScriptBlank c.val || isLineEnd c.val

/-- A text without the white space at its start. -/
def trimStart (t : Text) : Text := t.dropWhile isNumberBlank

/-- A text without the white space at its end. -/
def trimEnd (t : Text) : Text := (t.reverse.dropWhile isNumberBlank).reverse

/-- A text without the white space at its two ends. -/
def trim (t : Text) : Text := trimEnd (trimStart t)

/-- The digits of a base at the start of a text, and what follows them. -/
def spanDigits (base : Nat) : Text → List Nat × Text
  | [] => ([], [])
  | c :: rest =>
    let digit? : Option Nat :=
      if c.isDigit then some (c.val - 0x30)
      else if 0x41 ≤ c.val && c.val ≤ 0x5A then some (c.val - 0x41 + 10)
      else if 0x61 ≤ c.val && c.val ≤ 0x7A then some (c.val - 0x61 + 10)
      else none
    match digit? with
    | some d =>
      if d < base then
        let (ds, rest) := spanDigits base rest
        (d :: ds, rest)
      else ([], c :: rest)
    | none => ([], c :: rest)

/-- The value of digits of a base. -/
def digitsValue (base : Nat) (ds : List Nat) : Nat := ds.foldl (fun n d => base * n + d) 0

/-- The sign at the start of a text: whether it is a minus, and the rest. -/
def spanSign : Text → Bool × Text
  | c :: rest =>
    if c.val = 0x2D then (true, rest)
    else if c.val = 0x2B then (false, rest)
    else (false, c :: rest)
  | [] => (false, [])

/-- The exponent at the start of a text, zero if there is none, and the rest. -/
def spanExponent : Text → Int × Text
  | c :: rest =>
    if c.val = 0x65 || c.val = 0x45 then
      let (negative, afterSign) := spanSign rest
      match spanDigits 10 afterSign with
      | ([], _) => (0, c :: rest)
      | (ds, after) =>
        let e := digitsValue 10 ds
        (if negative then -(e : Int) else e, after)
    else (0, c :: rest)
  | [] => (0, [])

/-- The unsigned decimal number at the start of a text, and what follows it. -/
def spanDecimal? (negative : Bool) (t : Text) : Option (Value × Text) :=
  if Text.startsWith t "Infinity" then
    some (.float (Binary.infinity negative), t.drop 8)
  else
    let (whole, afterWhole) := spanDigits 10 t
    let (fraction, afterFraction) :=
      match afterWhole with
      | c :: rest => if c.val = 0x2E then spanDigits 10 rest else ([], afterWhole)
      | [] => ([], [])
    if whole.isEmpty && fraction.isEmpty then none
    else
      let (exponent, rest) := spanExponent afterFraction
      let digits := digitsValue 10 (whole ++ fraction)
      some (Value.ofFloat (Decimal.toFloat negative digits (exponent - fraction.length)), rest)

/-- The number that a text denotes as a whole. -/
def ofText (t : Text) : Value :=
  let t := trim t
  let based (base : Nat) (rest : Text) : Value :=
    match spanDigits base rest with
    | (d :: ds, []) => Value.ofInt (digitsValue base (d :: ds))
    | _ => .float Binary.nan
  match t with
  | [] => .int 0
  | c :: d :: rest =>
    if c.val = 0x30 && (d.val = 0x78 || d.val = 0x58) then based 16 rest
    else if c.val = 0x30 && (d.val = 0x6F || d.val = 0x4F) then based 8 rest
    else if c.val = 0x30 && (d.val = 0x62 || d.val = 0x42) then based 2 rest
    else whole t
  | _ => whole t
where
  /-- Reads a decimal number with an optional sign. -/
  whole (t : Text) : Value :=
    let (negative, rest) := spanSign t
    match spanDecimal? negative rest with
    | some (v, []) => v
    | _ => .float Binary.nan

/-- The number that a text starts with. -/
def parseFloat (t : Text) : Value :=
  let (negative, rest) := spanSign (trimStart t)
  match spanDecimal? negative rest with
  | some (v, _) => v
  | none => .float Binary.nan

/-- The integer of a base that a text starts with; base zero stands for ten, or sixteen after
`0x`. -/
def parseInt (t : Text) (radix : Int32) : Value :=
  let radix := radix.toInt
  if radix != 0 && (radix < 2 || 36 < radix) then .float Binary.nan
  else
    let (negative, rest) := spanSign (trimStart t)
    let (base, rest) :=
      match rest with
      | c :: d :: after =>
        if (radix == 0 || radix == 16) && c.val = 0x30 && (d.val = 0x78 || d.val = 0x58) then
          (16, after)
        else (if radix == 0 then 10 else radix.toNat, rest)
      | _ => (if radix == 0 then 10 else radix.toNat, rest)
    match spanDigits base rest with
    | ([], _) => .float Binary.nan
    | (ds, _) => Value.ofFloat (Binary.ofRatio negative (digitsValue base ds) 1)

/-- The big integer that a text denotes as a whole. -/
def bigIntOfText? (t : Text) : Option Int :=
  let t := trim t
  let based (base : Nat) (rest : Text) : Option Int :=
    match spanDigits base rest with
    | (d :: ds, []) => some (digitsValue base (d :: ds))
    | _ => none
  match t with
  | [] => some 0
  | c :: d :: rest =>
    if c.val = 0x30 && (d.val = 0x78 || d.val = 0x58) then based 16 rest
    else if c.val = 0x30 && (d.val = 0x6F || d.val = 0x4F) then based 8 rest
    else if c.val = 0x30 && (d.val = 0x62 || d.val = 0x42) then based 2 rest
    else whole t
  | _ => whole t
where
  /-- Reads decimal digits with an optional sign. -/
  whole (t : Text) : Option Int :=
    let (negative, rest) := spanSign t
    match spanDigits 10 rest with
    | (d :: ds, []) =>
      let n := digitsValue 10 (d :: ds)
      some (if negative then -(n : Int) else n)
    | _ => none

/-! ## Writing numbers -/

/-- The text of a double. -/
def floatText (x : Float) : Utf16 := Utf16.ofString (Decimal.scriptStyle.write x)

/-- The text of an integer of 32 bits. -/
def intText (i : Int32) : Utf16 := Utf16.ofText (Text.ofInt i.toInt)

/-- The digit of a base up to thirty-six. -/
def digitChar (d : Nat) : Char := if d < 10 then Char.ofNat (0x30 + d) else Char.ofNat (0x57 + d)

/-- The digits of a natural number in a base; `fuel` bounds their number. -/
def natDigits (base : Nat) : Nat → Nat → List Char → List Char
  | 0, _, acc => acc
  | fuel + 1, n, acc =>
    let acc := digitChar (n % base) :: acc
    if n / base = 0 then acc else natDigits base fuel (n / base) acc

/-- An integer in a base. -/
def intInBase (base : Nat) (i : Int) : String :=
  let digits := natDigits base (i.natAbs.log2 + 1) i.natAbs []
  String.ofList (if i < 0 then '-' :: digits else digits)

/-- The digits after the point in a base, of a fraction `num / den`, until the part left over is
smaller than the uncertainty `slack / den`. -/
def fractionDigits (base den : Nat) : Nat → Nat → Nat → List Nat → List Nat
  | 0, _, _, acc => acc.reverse
  | fuel + 1, num, slack, acc =>
    if num = 0 then acc.reverse
    else
      let num := num * base
      let slack := slack * base
      let d := num / den
      let left := num % den
      if left < slack || den < left + slack then
        let d := if den < 2 * left then d + 1 else d
        (d :: acc).reverse
      else fractionDigits base den fuel left slack (d :: acc)

/-- A double in a base. -/
def floatInBase (base : Nat) (x : Float) : String :=
  match Binary.Parts.ofFloat x with
  | .nan => "NaN"
  | .infinite negative => if negative then "-Infinity" else "Infinity"
  | .finite negative significand exponent =>
    let sign := if negative && significand != 0 then "-" else ""
    if 0 ≤ exponent then sign ++ intInBase base (significand * 2 ^ exponent.toNat : Nat)
    else
      let den := 2 ^ (1 - exponent).toNat
      let num := 2 * significand
      let whole := num / den
      let fraction := num % den
      if fraction = 0 then sign ++ intInBase base whole
      else
        let digits := fractionDigits base den 1100 fraction 1 []
        sign ++ intInBase base whole ++ "." ++ String.ofList (digits.map digitChar)

/-- The digits of a positive fraction rounded to `places` after the point, a half going up. -/
def fixedDigits (num den places : Nat) : Nat := (2 * num * 10 ^ places + den) / (2 * den)

/-- The quotient that a finite double is, without its sign. -/
def magnitude (x : Float) : Nat × Nat :=
  match Binary.Parts.ofFloat x with
  | .finite _ s e => if 0 ≤ e then (s * 2 ^ e.toNat, 1) else (s, 2 ^ (-e).toNat)
  | _ => (0, 1)

/-- Digits with a point before the last `places` of them. -/
def placePoint (digits : List Char) (places : Nat) : List Char :=
  if places = 0 then digits
  else
    let digits := List.replicate (places + 1 - digits.length) '0' ++ digits
    digits.take (digits.length - places) ++ '.' :: digits.drop (digits.length - places)

/-- A double with a fixed number of places after the point. -/
def toFixed (x : Float) (places : Nat) : String :=
  let (num, den) := magnitude x
  let n := fixedDigits num den places
  let negative := x < 0.0
  String.ofList ((if negative then ['-'] else []) ++ placePoint (Decimal.digitChars n) places)

/-- The exponent of the leading digit of a positive fraction, from a guess that is not too great. -/
def leadExponent (num den : Nat) : Nat → Int → Int
  | 0, e => e
  | fuel + 1, e =>
    let next := e + 1
    let reached :=
      if 0 ≤ next then den * 10 ^ next.toNat ≤ num else den ≤ num * 10 ^ (-next).toNat
    if reached then leadExponent num den fuel next else e

/-- The first `count` digits of a positive fraction, rounded, a half going up, with the exponent of
the leading one. -/
def roundedDigits (num den count : Nat) : List Char × Int :=
  let guess : Int := ((Decimal.digitCount num : Int) - Decimal.digitCount den) - 2
  let lead := leadExponent num den 4 guess
  let shift := (count : Int) - 1 - lead
  let n :=
    if 0 ≤ shift then (2 * num * 10 ^ shift.toNat + den) / (2 * den)
    else (2 * num + den * 10 ^ (-shift).toNat) / (2 * den * 10 ^ (-shift).toNat)
  let digits := Decimal.digitChars n
  if count < digits.length then (digits.take count, lead + 1) else (digits, lead)

/-- The digits of a positive double that its text has, with the exponent of the leading one. -/
def shortestDigits (x : Float) : List Char × Int :=
  match Binary.Parts.ofFloat x with
  | .finite _ s e =>
    if s = 0 then (['0'], 0)
    else
      let d := Decimal.shortest s e
      (Decimal.significantChars d.digits, (Decimal.digitCount d.digits : Int) - 1 + d.exponent)
  | _ => (['0'], 0)

/-- Digits with an exponent. -/
def exponential (negative : Bool) (digits : List Char) (lead : Int) : String :=
  let body :=
    match digits with
    | [] => []
    | [d] => [d]
    | d :: rest => d :: '.' :: rest
  String.ofList ((if negative then ['-'] else []) ++ body ++ 'e' :: Decimal.exponentChars 1 lead)

/-- A double with an exponent; `places` digits after the point, or as many as are needed. -/
def toExponential (x : Float) (places : Option Nat) : String :=
  let (num, den) := magnitude x
  let (digits, lead) :=
    match places with
    | none => shortestDigits x
    | some p => if num = 0 then (List.replicate (p + 1) '0', 0) else roundedDigits num den (p + 1)
  exponential (x < 0.0) digits lead

/-- A double with a number of digits in all. -/
def toPrecision (x : Float) (count : Nat) : String :=
  let (num, den) := magnitude x
  let (digits, lead) :=
    if num = 0 then (List.replicate count '0', 0) else roundedDigits num den count
  if lead < -6 || (count : Int) ≤ lead then exponential (x < 0.0) digits lead
  else
    let places := ((count : Int) - 1 - lead).toNat
    String.ofList ((if x < 0.0 then ['-'] else []) ++ placePoint digits places)

/-! ## Arithmetic on numbers -/

/-- The double of a number. -/
def toFloat (v : Value) : Float := v.toFloat?.getD Binary.nan

/-- The zero below zero. -/
def negativeZero : Value := .float (Binary.ofRatio true 0 1)

/-- The sum of two numbers. -/
def add : Value → Value → Value
  | .int a, .int b => Value.ofInt (a.toInt + b.toInt)
  | a, b => .float (toFloat a + toFloat b)

/-- The difference of two numbers. -/
def sub : Value → Value → Value
  | .int a, .int b => Value.ofInt (a.toInt - b.toInt)
  | a, b => .float (toFloat a - toFloat b)

/-- The product of two numbers. -/
def mul : Value → Value → Value
  | .int a, .int b =>
    let r := a.toInt * b.toInt
    if r = 0 && (a < 0 || b < 0) then negativeZero else Value.ofInt r
  | a, b => .float (toFloat a * toFloat b)

/-- The quotient of two numbers. -/
def div : Value → Value → Value
  | .int a, .int b => Value.ofFloat (a.toFloat / b.toFloat)
  | a, b => .float (toFloat a / toFloat b)

/-- The remainder of two numbers. -/
def rem : Value → Value → Value
  | .int a, .int b => Value.ofFloat (remainder a.toFloat b.toFloat)
  | a, b => .float (remainder (toFloat a) (toFloat b))

/-- The power of two numbers. -/
def pow : Value → Value → Value
  | .int a, .int b => Value.ofFloat (power a.toFloat b.toFloat)
  | a, b => .float (power (toFloat a) (toFloat b))

/-- A number with the other sign. -/
def neg : Value → Value
  | .int i => if i = 0 then negativeZero else Value.ofInt (-i.toInt)
  | v => .float (Binary.negate (toFloat v))

/-- A number as an integer of 32 bits. -/
def int32 : Value → Int32
  | .int i => i
  | v => toInt32 (toFloat v)

/-- A number as a natural number below `2 ^ 32`. -/
def uint32 : Value → Nat
  | .int i => (i.toInt % 2 ^ 32).toNat
  | v => toUInt32 (toFloat v)

/-- A number as an integer, without its fraction; an infinity counts as a bound that no length
reaches. -/
def integer : Value → Int
  | .int i => i.toInt
  | v =>
    let x := toFloat v
    if x.isNaN then 0
    else if x.isInf then (if x < 0.0 then -(2 ^ 1100) else 2 ^ 1100)
    else truncated x

/-- The power of big integers. -/
def bigPow (a : Int) (b : Nat) : Int := a ^ b

/-- An integer as one of `bits` bits with a sign. -/
def wrapSigned (bits : Nat) (i : Int) : Int :=
  let m : Int := i % (2 ^ bits : Nat)
  if bits != 0 && (2 ^ (bits - 1) : Nat) ≤ m then m - (2 ^ bits : Nat) else m

/-- A bitwise operation on integers, by way of the complement of negative ones. -/
def bitwise (f : Bool → Bool → Bool) (a b : Int) : Int :=
  let width := max a.natAbs.log2 b.natAbs.log2 + 2
  let ua := (a % (2 ^ width : Nat)).toNat
  let ub := (b % (2 ^ width : Nat)).toNat
  wrapSigned width (Nat.bitwise f ua ub)

/-- An integer shifted to the left, or to the right for a negative amount. -/
def shift (a amount : Int) : Int :=
  if 0 ≤ amount then a * (2 ^ amount.toNat : Nat) else Int.fdiv a (2 ^ (-amount).toNat : Nat)

end ScriptHost.Script.Number
