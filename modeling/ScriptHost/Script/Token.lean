import ScriptHost.Decimal.Style
import ScriptHost.Script.Value
import ScriptHost.Unicode.Identifier

/-!
# Script tokens

A script is read token by token.  `scan` reads the token after a position; what a slash means
depends on where it stands, so regular expressions and the later parts of templates have readers of
their own.
-/

namespace ScriptHost.Script

/-- The kinds of tokens. -/
inductive TokenKind
  | eof
  | punct (s : String)
  /-- A name or keyword, and whether it was written with an escape. -/
  | word (w : String) (escaped : Bool)
  | number (v : Value)
  | string (s : Utf16)
  /-- A part of a template: with escapes resolved, as written, and whether it is the last one. -/
  | template (cooked : Option Utf16) (raw : Utf16) (isLast : Bool)
  | privateName (w : String)
  /-- A character that starts no token. -/
  | stray
deriving Inhabited

/-- A token with its place in the text. -/
structure Token where
  kind : TokenKind
  start : Nat
  stop : Nat
  line : Nat
  /-- Whether a line ends before the token. -/
  afterNewline : Bool
deriving Inhabited

/-- A script that cannot be read: what is wrong, and in which line. -/
structure SyntaxFault where
  message : Text
  line : Nat

/-- A place in a script text. -/
structure Cursor where
  position : Nat
  line : Nat

/-- The code point at a position. -/
def pointAt (s : Array CodePoint) (i : Nat) : Nat := ((s[i]?).map (·.val)).getD 0

/-- The ASCII character at a position; the end of the text shows as U+FFFF. -/
def charAt (s : Array CodePoint) (i : Nat) : Char := ((s[i]?).map (·.ascii)).getD '\uffff'

/-- The text between two positions. -/
def between (s : Array CodePoint) (start stop : Nat) : Text := (s.extract start stop).toList

/-- A line terminator. -/
def isLineEnd (n : Nat) : Bool := n == 10 || n == 13 || n == 0x2028 || n == 0x2029

/-- White space inside a line. -/
def isScriptBlank (n : Nat) : Bool :=
  n == 9 || n == 11 || n == 12 || n == 32 || n == 0xA0 || n == 0xFEFF || n == 0x1680
    || (0x2000 ≤ n && n ≤ 0x200A) || n == 0x202F || n == 0x205F || n == 0x3000

/-- A character that starts a name. -/
def startsName (c : CodePoint) : Bool :=
  let n := c.val
  (0x41 ≤ n && n ≤ 0x5A) || (0x61 ≤ n && n ≤ 0x7A) || n == 0x5F || n == 0x24
    || (128 ≤ n && Unicode.isIdentifierStart c)

/-- A character that continues a name. -/
def continuesName (c : CodePoint) : Bool :=
  startsName c || c.isDigit || c.val == 0x200C || c.val == 0x200D
    || (128 ≤ c.val && Unicode.isIdentifierPart c)

/-- Skips the rest of a line. -/
def skipLineComment (s : Array CodePoint) : Nat → Nat → Nat
  | 0, i => i
  | fuel + 1, i =>
    if i < s.size && !isLineEnd (pointAt s i) then skipLineComment s fuel (i + 1) else i

/-- Skips a comment up to its end; none if it has none. -/
def skipBlockComment (s : Array CodePoint) : Nat → Cursor → Bool → Option (Cursor × Bool)
  | 0, _, _ => none
  | fuel + 1, c, newline =>
    if s.size ≤ c.position then none
    else if charAt s c.position == '*' && charAt s (c.position + 1) == '/' then
      some ({ c with position := c.position + 2 }, newline)
    else if isLineEnd (pointAt s c.position) then
      skipBlockComment s fuel { position := c.position + 1, line := c.line + 1 } true
    else skipBlockComment s fuel { c with position := c.position + 1 } newline

/-- Skips white space and comments; tells whether a line ended on the way. -/
def skipTrivia (s : Array CodePoint) :
    Nat → Cursor → Bool → Except SyntaxFault (Cursor × Bool)
  | 0, c, newline => .ok (c, newline)
  | fuel + 1, c, newline =>
    let n := pointAt s c.position
    if s.size ≤ c.position then .ok (c, newline)
    else if n == 13 && pointAt s (c.position + 1) == 10 then
      skipTrivia s fuel { position := c.position + 2, line := c.line + 1 } true
    else if isLineEnd n then
      skipTrivia s fuel { position := c.position + 1, line := c.line + 1 } true
    else if isScriptBlank n then
      skipTrivia s fuel { c with position := c.position + 1 } newline
    else if n == 0x2F && charAt s (c.position + 1) == '/' then
      let stop := skipLineComment s (s.size - c.position) (c.position + 2)
      skipTrivia s fuel { c with position := stop } newline
    else if n == 0x2F && charAt s (c.position + 1) == '*' then
      match skipBlockComment s (s.size - c.position + 1) { c with position := c.position + 2 }
          newline with
      | some (c, newline) => skipTrivia s fuel c newline
      | none => .error ⟨"unexpected end of comment", c.line⟩
    else .ok (c, newline)

/-- The value of hexadecimal digits between two positions. -/
def hexBetween? (s : Array CodePoint) (start count : Nat) : Option Nat :=
  (between s start (start + count)).foldl
    (fun acc c => do return 16 * (← acc) + (← c.hexValue?))
    (if start + count ≤ s.size then some 0 else none)

/-- The value of the digits up to a closing brace, with the position after it. -/
def bracedHex? (s : Array CodePoint) : Nat → Nat → Nat → Option (Nat × Nat)
  | 0, _, _ => none
  | fuel + 1, i, acc =>
    if charAt s i == '\x7d' then some (acc, i + 1)
    else
      match (s[i]?).bind (·.hexValue?) with
      | some d => if 0x10FFFF < acc then none else bracedHex? s fuel (i + 1) (16 * acc + d)
      | none => none

/-- The code point of an escape whose `u` stands at a position, with the position after it. -/
def unicodeEscape? (s : Array CodePoint) (i : Nat) : Option (Nat × Nat) :=
  if charAt s (i + 1) == '\x7b' then
    (bracedHex? s (s.size - i) (i + 2) 0).filter (·.1 < 0x110000)
  else (hexBetween? s (i + 1) 4).map (·, i + 5)

/-- What an escape in a string stands for: its units, and the position after it. -/
inductive Escape
  | units (t : Text) (next : Nat) (lines : Nat)
  | octal (t : Text) (next : Nat)
  | malformed

/-- The value of up to three octal digits. -/
def octalEscape (s : Array CodePoint) (i : Nat) : Escape :=
  let digit? (j : Nat) : Option Nat :=
    let n := pointAt s j
    if 0x30 ≤ n && n ≤ 0x37 then some (n - 0x30) else none
  let first := (digit? i).getD 0
  match digit? (i + 1) with
  | none => .octal [CodePoint.ofNat first] (i + 1)
  | some second =>
    let two := 8 * first + second
    match digit? (i + 2) with
    | some third =>
      if first < 4 then .octal [CodePoint.ofNat (8 * two + third)] (i + 3)
      else .octal [CodePoint.ofNat two] (i + 2)
    | none => .octal [CodePoint.ofNat two] (i + 2)

/-- Reads the escape after a backslash; `i` is the position of the escaped character. -/
def readEscape (s : Array CodePoint) (i : Nat) : Escape :=
  let n := pointAt s i
  let plain (v : Nat) : Escape := .units [CodePoint.ofNat v] (i + 1) 0
  match charAt s i with
  | 'n' => plain 10
  | 't' => plain 9
  | 'r' => plain 13
  | 'b' => plain 8
  | 'f' => plain 12
  | 'v' => plain 11
  | 'x' =>
    match hexBetween? s (i + 1) 2 with
    | some v => .units [CodePoint.ofNat v] (i + 3) 0
    | none => .malformed
  | 'u' =>
    match unicodeEscape? s i with
    | some (v, next) => .units [CodePoint.ofNat v] next 0
    | none => .malformed
  | _ =>
    if n == 13 && pointAt s (i + 1) == 10 then .units [] (i + 2) 1
    else if isLineEnd n then .units [] (i + 1) 1
    else if n == 0x30 && !(0x30 ≤ pointAt s (i + 1) && pointAt s (i + 1) ≤ 0x39) then plain 0
    else if 0x30 ≤ n && n ≤ 0x37 then octalEscape s i
    else plain n

/-- The fault of a digit escape in strict code. -/
def strictEscapeFault (s : Array CodePoint) (i line : Nat) : SyntaxFault :=
  if 0x38 ≤ pointAt s i then ⟨"malformed escape sequence in string literal", line⟩
  else ⟨"octal escape sequences are not allowed in strict mode", line⟩

/-- Whether the escaped character at a position is a digit that strict code refuses. -/
def isStrictlyRefused (s : Array CodePoint) (i : Nat) : Bool :=
  (s[i]?).any (·.isDigit) && !(charAt s i == '0' && !((s[i + 1]?).any (·.isDigit)))

/-- Reads a string up to its closing quote. -/
def readStringBody (s : Array CodePoint) (strict : Bool) (quote : Char) :
    Nat → Cursor → Array UInt16 → Except SyntaxFault (Utf16 × Cursor)
  | 0, c, _ => .error ⟨"unexpected end of string", c.line⟩
  | fuel + 1, c, acc =>
    let n := pointAt s c.position
    if s.size ≤ c.position || n == 10 || n == 13 then
      .error ⟨"unexpected end of string", c.line⟩
    else if charAt s c.position == quote then
      .ok (⟨acc⟩, { c with position := c.position + 1 })
    else if n == 0x5C then
      if s.size ≤ c.position + 1 then .error ⟨"unexpected end of string", c.line⟩
      else if strict && isStrictlyRefused s (c.position + 1) then
        .error (strictEscapeFault s (c.position + 1) c.line)
      else
        match readEscape s (c.position + 1) with
        | .units t next lines =>
          readStringBody s strict quote fuel { position := next, line := c.line + lines }
            (acc ++ (Utf16.ofText t).units)
        | .octal t next =>
          readStringBody s strict quote fuel { c with position := next } (acc ++ (Utf16.ofText t).units)
        | .malformed =>
          .error ⟨"malformed escape sequence in string literal", c.line⟩
    else
      readStringBody s strict quote fuel { c with position := c.position + 1 }
        (acc ++ (Utf16.encodePoint (CodePoint.ofNat n)).toArray)

/-- Reads a part of a template up to the closing quote or the next substitution. The cooked form is
lost at the first malformed escape. -/
def readTemplateBody (s : Array CodePoint) :
    Nat → Cursor → Option (Array UInt16) → Array UInt16 →
      Except SyntaxFault (TokenKind × Cursor)
  | 0, c, _, _ => .error ⟨"unexpected end of string", c.line⟩
  | fuel + 1, c, cooked, raw =>
    let n := pointAt s c.position
    let ch := charAt s c.position
    if s.size ≤ c.position then .error ⟨"unexpected end of string", c.line⟩
    else if ch == '\x60' then
      .ok (.template (cooked.map Utf16.mk) ⟨raw⟩ true, { c with position := c.position + 1 })
    else if ch == '$' && charAt s (c.position + 1) == '\x7b' then
      .ok (.template (cooked.map Utf16.mk) ⟨raw⟩ false, { c with position := c.position + 2 })
    else if n == 0x5C then
      if s.size ≤ c.position + 1 then .error ⟨"unexpected end of string", c.line⟩
      else
        let continueWith (t : Option Text) (next lines : Nat) :=
          let written := (Utf16.ofText (between s c.position next)).units
          readTemplateBody s fuel { position := next, line := c.line + lines }
            (do return (← cooked) ++ (Utf16.ofText (← t)).units) (raw ++ written)
        match readEscape s (c.position + 1) with
        | .units t next lines => continueWith (some t) next lines
        | .octal _ next => continueWith none next 0
        | .malformed => continueWith none (c.position + 2) 0
    else if n == 13 then
      let next := if pointAt s (c.position + 1) == 10 then c.position + 2 else c.position + 1
      readTemplateBody s fuel { position := next, line := c.line + 1 } (cooked.map (·.push 10))
        (raw.push 10)
    else
      let units := (Utf16.encodePoint (CodePoint.ofNat n)).toArray
      readTemplateBody s fuel
        { position := c.position + 1, line := if n == 10 then c.line + 1 else c.line }
        (cooked.map (· ++ units)) (raw ++ units)

/-- Reads the characters of a name; an escape in it must stand for a character of a name. -/
def readName (s : Array CodePoint) : Nat → Nat → List Char → Bool → (String × Nat × Bool)
  | 0, i, acc, escaped => (String.ofList acc.reverse, i, escaped)
  | fuel + 1, i, acc, escaped =>
    match s[i]? with
    | none => (String.ofList acc.reverse, i, escaped)
    | some c =>
      if c.val == 0x5C && charAt s (i + 1) == 'u' then
        match unicodeEscape? s (i + 1) with
        | some (v, next) =>
          if continuesName (CodePoint.ofNat v) then
            readName s fuel next (Char.ofNat v :: acc) true
          else (String.ofList acc.reverse, i, escaped)
        | none => (String.ofList acc.reverse, i, escaped)
      else if continuesName c then readName s fuel (i + 1) (Char.ofNat c.val :: acc) escaped
      else (String.ofList acc.reverse, i, escaped)

/-- Reads digits of a base with single underscores between them. -/
def readDigits (s : Array CodePoint) (base : Nat) : Nat → Nat → Nat → Nat × Nat
  | 0, i, acc => (acc, i)
  | fuel + 1, i, acc =>
    match (s[i]?).bind (·.hexValue?) with
    | some d => if d < base then readDigits s base fuel (i + 1) (base * acc + d) else (acc, i)
    | none =>
      if charAt s i == '_'
          && (((s[i + 1]?).bind (·.hexValue?)).any (· < base)) then
        readDigits s base fuel (i + 1) acc
      else (acc, i)

/-- The number of digits between two positions. -/
def countDigits (s : Array CodePoint) (start stop : Nat) : Nat :=
  ((s.extract start stop).filter fun c => c.val != 0x5F).size

/-- Reads a decimal number with optional fraction and exponent, from its first character. -/
def readDecimal (s : Array CodePoint) (i : Nat) : Value × Nat :=
  let fuel := s.size - i + 1
  let (whole, afterWhole) := readDigits s 10 fuel i 0
  if charAt s afterWhole == 'n' then (.bigint whole, afterWhole + 1)
  else
    let hasPoint := charAt s afterWhole == '.'
    let (digits, afterFraction, places) :=
      if hasPoint then
        let (d, j) := readDigits s 10 fuel (afterWhole + 1) whole
        (d, j, countDigits s (afterWhole + 1) j)
      else (whole, afterWhole, 0)
    let mark := charAt s afterFraction
    let signed :=
      charAt s (afterFraction + 1) == '+' || charAt s (afterFraction + 1) == '-'
    let exponentStart := if signed then afterFraction + 2 else afterFraction + 1
    let hasExponent :=
      (mark == 'e' || mark == 'E') && ((s[exponentStart]?).any (·.isDigit))
    let (exponent, stop) : Int × Nat :=
      if hasExponent then
        let (e, j) := readDigits s 10 fuel exponentStart 0
        (if charAt s (afterFraction + 1) == '-' then -(e : Int) else e, j)
      else (0, afterFraction)
    if !hasPoint && !hasExponent then (Value.ofInt digits, stop)
    else (Value.ofFloat (Decimal.toFloat false digits (exponent - places)), stop)

/-- Whether all digits of a run are octal. -/
def isLegacyOctal (s : Array CodePoint) : Nat → Nat → Bool
  | 0, _ => true
  | fuel + 1, i =>
    match s[i]? with
    | some c => if c.isDigit then c.val < 0x38 && isLegacyOctal s fuel (i + 1) else true
    | none => true

/-- Reads a number from its first digit or point. The letter of a base without digits is left
over. -/
def readNumber (s : Array CodePoint) (i : Nat) : Value × Nat :=
  let fuel := s.size - i + 1
  let prefixed (base : Nat) : Value × Nat :=
    let (v, stop) := readDigits s base fuel (i + 2) 0
    if stop = i + 2 then (.int 0, i + 1)
    else if charAt s stop == 'n' then (.bigint v, stop + 1) else (Value.ofInt v, stop)
  if charAt s i == '0' then
    match charAt s (i + 1) with
    | 'x' | 'X' => prefixed 16
    | 'o' | 'O' => prefixed 8
    | 'b' | 'B' => prefixed 2
    | c =>
      if c.isDigit && isLegacyOctal s fuel (i + 1) then
        let (v, stop) := readDigits s 8 fuel (i + 1) 0
        (Value.ofInt v, stop)
      else readDecimal s i
  else readDecimal s i

/-- Operators and brackets, longest first. -/
def punctuators : List String :=
  [">>>=", "...", "===", "!==", "**=", "<<=", ">>=", ">>>", "&&=", "||=", "??=", "=>", "==", "!=",
    "<=", ">=", "&&", "||", "??", "?.", "++", "--", "+=", "-=", "*=", "/=", "%=", "&=", "|=", "^=",
    "<<", ">>", "**", "(", ")", "\x7b", "\x7d", "[", "]", ";", ",", "<", ">", "+", "-", "*", "/",
    "%", "&", "|", "^", "!", "~", "?", ":", "=", "."]

/-- Whether the characters of a list stand at a position. -/
def charsAt (s : Array CodePoint) : Nat → List Char → Bool
  | _, [] => true
  | i, c :: rest => charAt s i == c && charsAt s (i + 1) rest

/-- The operator or bracket at a position. An optional link is none before a digit. -/
def punctuatorAt? (s : Array CodePoint) (i : Nat) : Option String :=
  punctuators.find? fun p =>
    charsAt s i p.toList && !(p == "?." && (charAt s (i + 2)).isDigit)

/-- Reads the token after a position; strict code has no octal numbers. -/
def scan (s : Array CodePoint) (strict : Bool) (from_ : Cursor) : Except SyntaxFault (Token × Cursor) := do
  let fuel := s.size - from_.position + 1
  let (c, newline) ← skipTrivia s fuel from_ false
  let i := c.position
  let token (kind : TokenKind) (stop : Nat) : Token :=
    { kind, start := i, stop, line := c.line, afterNewline := newline }
  let finish (kind : TokenKind) (stop : Nat) : Except SyntaxFault (Token × Cursor) :=
    .ok (token kind stop, { c with position := stop })
  let identifier : Except SyntaxFault (Token × Cursor) :=
    let (w, stop, escaped) := readName s fuel i [] false
    finish (.word w escaped) stop
  match s[i]? with
  | none => finish .eof i
  | some p =>
    let ch := p.ascii
    if ch == '"' || ch == '\'' then do
      let (t, c2) ← readStringBody s strict ch fuel { c with position := i + 1 } #[]
      return (token (.string t) c2.position, c2)
    else if ch == '\x60' then do
      let (kind, c2) ← readTemplateBody s fuel { c with position := i + 1 } (some #[]) #[]
      return (token kind c2.position, c2)
    else if p.isDigit || (ch == '.' && (charAt s (i + 1)).isDigit) then
      if strict && ch == '0' && (s[i + 1]?).any (·.isDigit) then
        throw ⟨"octal literals are deprecated in strict mode", c.line⟩
      let (v, stop) := readNumber s i
      if (s[stop]?).any continuesName then throw ⟨"invalid number literal", c.line⟩
      finish (.number v) stop
    else if startsName p then identifier
    else if ch == '\\' then
      match unicodeEscape? s (i + 1) with
      | some (v, _) =>
        if charAt s (i + 1) == 'u' && startsName (CodePoint.ofNat v) then identifier
        else finish .stray (i + 1)
      | none => finish .stray (i + 1)
    else if ch == '#' && (s[i + 1]?).any startsName then
      let (w, stop, _) := readName s fuel (i + 1) [] false
      finish (.privateName w) stop
    else
      match punctuatorAt? s i with
      | some punct => finish (.punct punct) (i + punct.length)
      | none =>
        if 128 ≤ p.val then throw ⟨"unexpected character", c.line⟩
        finish .stray (i + 1)

/-- Reads a regular expression up to its closing slash; `inClass` is set between brackets. -/
def readRegexpBody (s : Array CodePoint) (line : Nat) :
    Nat → Nat → Bool → Except SyntaxFault Nat
  | 0, _, _ => .error ⟨"unexpected end of regexp", line⟩
  | fuel + 1, i, inClass =>
    if s.size ≤ i then .error ⟨"unexpected end of regexp", line⟩
    else if isLineEnd (pointAt s i) then .error ⟨"unexpected line terminator in regexp", line⟩
    else
      match charAt s i with
      | '/' => if inClass then readRegexpBody s line fuel (i + 1) inClass else .ok i
      | '[' => readRegexpBody s line fuel (i + 1) true
      | ']' => readRegexpBody s line fuel (i + 1) false
      | '\\' =>
        if s.size ≤ i + 1 then .error ⟨"unexpected end of regexp", line⟩
        else if isLineEnd (pointAt s (i + 1)) then
          .error ⟨"unexpected line terminator in regexp", line⟩
        else readRegexpBody s line fuel (i + 2) inClass
      | _ => readRegexpBody s line fuel (i + 1) inClass

/-- Reads the regular expression whose opening slash is a token: source, flags, and the position
after it. -/
def readRegexp (s : Array CodePoint) (opening : Token) :
    Except SyntaxFault (Utf16 × Utf16 × Nat) := do
  let start := opening.start + 1
  let stop ← readRegexpBody s opening.line (s.size - start + 1) start false
  let (flags, next, _) := readName s (s.size - stop + 1) (stop + 1) [] false
  return (Utf16.ofText (between s start stop), Utf16.ofString flags, next)

/-- Reads the part of a template after a substitution whose closing brace is a token. -/
def readTemplatePart (s : Array CodePoint) (brace : Token) :
    Except SyntaxFault (Token × Cursor) := do
  let c : Cursor := { position := brace.start + 1, line := brace.line }
  let (kind, c2) ← readTemplateBody s (s.size - c.position + 1) c (some #[]) #[]
  return ({ brace with kind, stop := c2.position }, c2)

end ScriptHost.Script
