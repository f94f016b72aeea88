import ScriptHost.Unicode.Printable

/-!
# Quoted text

A quoted text stands between single quotes, or between double quotes when it holds single quotes
and no double ones.  The quote, the backslash, and whatever does not print are escaped.
-/

namespace ScriptHost.Text

/-- A hexadecimal digit in lower case. -/
def hexDigit (n : Nat) : Char := Nat.digitChar (n % 16)

/-- The last `width` hexadecimal digits of a number. -/
def hexDigits : Nat → Nat → List Char
  | 0, _ => []
  | width + 1, n => hexDigits width (n / 16) ++ [hexDigit n]

/-- The escape of a code point by number, in two, four or eight digits. -/
def numberEscape (c : CodePoint) : Text :=
  let chars :=
    if c.val < 0x100 then '\\' :: 'x' :: hexDigits 2 c.val
    else if c.val < 0x10000 then '\\' :: 'u' :: hexDigits 4 c.val
    else '\\' :: 'U' :: hexDigits 8 c.val
  chars.map CodePoint.ofChar

/-- One code point inside quotes. -/
def quotedPoint (quote : Char) (c : CodePoint) : Text :=
  match c.ascii with
  | '\\' => "\\\\"
  | '\n' => "\\n"
  | '\r' => "\\r"
  | '\t' => "\\t"
  | a =>
    if a == quote then [CodePoint.ofChar '\\', c]
    else if Unicode.isPrintable c then [c]
    else numberEscape c

/-- The quote that a text takes. -/
def quoteFor (t : Text) : Char :=
  if t.contains (CodePoint.ofChar '\'') && !t.contains (CodePoint.ofChar '"') then '"' else '\''

/-- A text in quotes. -/
def quoted (t : Text) : Text :=
  let quote := quoteFor t
  CodePoint.ofChar quote :: t.flatMap (quotedPoint quote) ++ [CodePoint.ofChar quote]

/-- Bytes in quotes, with a leading `b`. -/
def quotedBytes (bs : List UInt8) : Text :=
  let t : Text := bs.map fun b => CodePoint.ofNat b.toNat
  let quote := quoteFor t
  let body := t.flatMap fun c => if c.val < 0x80 then quotedPoint quote c else numberEscape c
  CodePoint.ofChar 'b' :: CodePoint.ofChar quote :: body ++ [CodePoint.ofChar quote]

end ScriptHost.Text
