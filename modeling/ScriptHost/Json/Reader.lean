import ScriptHost.Host.Fault

/-!
# Reading JSON

Reads JSON texts and the three words beyond JSON that `Json.write` uses.  Integers and floats stay
apart, the last of several entries with one key wins, lone surrogates pass, and control characters
inside quotes do not.  A malformed text is answered by what is wrong and where.
-/

namespace ScriptHost.Json

/-- What is wrong with a text. -/
inductive Problem
  | byteOrderMark
  | expectingValue
  | expectingName
  | expectingColon
  | expectingComma
  | extraData
  | unterminatedString
  | controlCharacter
  | badEscape
  | badUnicodeEscape
deriving DecidableEq

/-- The problem in words. -/
def Problem.wording : Problem → String
  | byteOrderMark => "Unexpected UTF-8 BOM (decode using utf-8-sig)"
  | expectingValue => "Expecting value"
  | expectingName => "Expecting property name enclosed in double quotes"
  | expectingColon => "Expecting ':' delimiter"
  | expectingComma => "Expecting ',' delimiter"
  | extraData => "Extra data"
  | unterminatedString => "Unterminated string starting at"
  | controlCharacter => "Invalid control character at"
  | badEscape => "Invalid \\escape"
  | badUnicodeEscape => "Invalid \\uXXXX escape"

/-- Why reading fails. -/
inductive ReadError
  /-- The text is malformed at a position. -/
  | syntaxError (problem : Problem) (position : Nat)
  /-- An integer has too many digits. -/
  | tooManyDigits (count : Nat)
deriving DecidableEq

/-- A place in a text: its position and what follows. -/
structure Cursor where
  position : Nat
  rest : Text

/-- The white space of JSON. -/
def isSpace (c : CodePoint) : Bool :=
  match c.ascii with
  | ' ' | '\t' | '\n' | '\r' => true
  | _ => false

/-- The place after the white space at a place. -/
def skipSpace (position : Nat) : Text → Cursor
  | [] => ⟨position, []⟩
  | c :: rest => if isSpace c then skipSpace (position + 1) rest else ⟨position, c :: rest⟩

/-- The place after the white space at a place. -/
def Cursor.skipSpace (c : Cursor) : Cursor := Json.skipSpace c.position c.rest

/-- The value of four hexadecimal digits. -/
def hexFour? (a b c d : CodePoint) : Option Nat := do
  return (((← a.hexValue?) * 16 + (← b.hexValue?)) * 16 + (← c.hexValue?)) * 16 + (← d.hexValue?)

/-- The character that a short escape stands for. -/
def shortEscape? (c : CodePoint) : Option Char :=
  match c.ascii with
  | '"' => some '"'
  | '\\' => some '\\'
  | '/' => some '/'
  | 'b' => some '\x08'
  | 'f' => some '\x0c'
  | 'n' => some '\n'
  | 'r' => some '\r'
  | 't' => some '\t'
  | _ => none

/-- The second half of an escaped surrogate pair, if it follows, with the text after it. A closing
character has to follow as well. -/
def lowHalf? : Text → Except Unit (Option (Nat × Text))
  | s :: u :: a :: b :: c :: d :: e :: rest =>
    if s.ascii == '\\' && u.ascii == 'u' then
      match hexFour? a b c d with
      | none => .error ()
      | some n => .ok (if 0xDC00 ≤ n && n < 0xE000 then some (n, e :: rest) else none)
    else .ok none
  | _ => .ok none

/-- Reads the inside of a string whose opening quote stands at `opening`. The code points read so
far are in `acc`, the last one first. At most `fuel` steps. -/
def readChars (opening : Nat) : Nat → Nat → Text → Text → Except ReadError (Text × Cursor)
  | 0, _, _, _ => .error (.syntaxError .unterminatedString opening)
  | _ + 1, _, _, [] => .error (.syntaxError .unterminatedString opening)
  | fuel + 1, position, acc, c :: rest =>
    if c.ascii == '"' then .ok (acc.reverse, ⟨position + 1, rest⟩)
    else if c.ascii == '\\' then
      match rest with
      | [] => .error (.syntaxError .unterminatedString opening)
      | e :: rest =>
        if e.ascii == 'u' then
          match rest with
          | h₁ :: h₂ :: h₃ :: h₄ :: next :: tail =>
            match hexFour? h₁ h₂ h₃ h₄ with
            | none => .error (.syntaxError .badUnicodeEscape (position + 1))
            | some n =>
              if 0xD800 ≤ n && n < 0xDC00 then
                match lowHalf? (next :: tail) with
                | .error () => .error (.syntaxError .badUnicodeEscape (position + 7))
                | .ok (some (low, after)) =>
                  let point := 0x10000 + (n - 0xD800) * 0x400 + (low - 0xDC00)
                  readChars opening fuel (position + 12) (CodePoint.ofNat point :: acc) after
                | .ok none =>
                  readChars opening fuel (position + 6) (CodePoint.ofNat n :: acc) (next :: tail)
              else readChars opening fuel (position + 6) (CodePoint.ofNat n :: acc) (next :: tail)
          | _ => .error (.syntaxError .badUnicodeEscape (position + 2))
        else
          match shortEscape? e with
          | some ch => readChars opening fuel (position + 2) (CodePoint.ofChar ch :: acc) rest
          | none => .error (.syntaxError .badEscape position)
    else if c.val < 0x20 then .error (.syntaxError .controlCharacter position)
    else readChars opening fuel (position + 1) (c :: acc) rest

/-- Reads a string whose opening quote has been read. -/
def readString (c : Cursor) : Except ReadError (Text × Cursor) :=
  readChars (c.position - 1) (c.rest.length + 1) c.position [] c.rest

/-- The value of a run of digits. -/
def digitsValue (t : Text) : Nat := t.foldl (fun n c => 10 * n + (c.val - 0x30)) 0

/-- A number as it is written: sign, whole digits, and for a float the digits after the point and
the exponent. -/
structure NumberToken where
  negative : Bool
  whole : Text
  fraction : Text
  exponent : Int
  isFloat : Bool

/-- The exponent at the head of a text: its value and what follows. -/
def scanExponent? : Text → Option (Int × Text)
  | e :: rest =>
    if e.ascii == 'e' || e.ascii == 'E' then
      let (negative, rest) :=
        match rest with
        | s :: tail =>
          if s.ascii == '-' then (true, tail) else if s.ascii == '+' then (false, tail)
          else (false, rest)
        | [] => (false, rest)
      let digits := rest.takeWhile CodePoint.isDigit
      if digits.isEmpty then none
      else
        let n : Int := digitsValue digits
        some (if negative then -n else n, rest.dropWhile CodePoint.isDigit)
    else none
  | [] => none

/-- The fraction at the head of a text: its digits and what follows. -/
def scanFraction? : Text → Option (Text × Text)
  | p :: rest =>
    if p.ascii == '.' then
      let digits := rest.takeWhile CodePoint.isDigit
      if digits.isEmpty then none else some (digits, rest.dropWhile CodePoint.isDigit)
    else none
  | [] => none

/-- The whole digits at the head of a text: a zero alone, or a run that starts with another
digit. -/
def scanWhole? : Text → Option (Text × Text)
  | c :: rest =>
    if c.ascii == '0' then some ([c], rest)
    else if c.isDigit then
      some (c :: rest.takeWhile CodePoint.isDigit, rest.dropWhile CodePoint.isDigit)
    else none
  | [] => none

/-- The longest number at the head of a text, and what follows. -/
def scanNumber? (t : Text) : Option (NumberToken × Text) := do
  let (negative, t) :=
    match t with
    | c :: rest => if c.ascii == '-' then (true, rest) else (false, t)
    | [] => (false, t)
  let (whole, t) ← scanWhole? t
  let (fraction, hasFraction, t) :=
    match scanFraction? t with
    | some (digits, rest) => (digits, true, rest)
    | none => ([], false, t)
  let (exponent, hasExponent, t) :=
    match scanExponent? t with
    | some (n, rest) => (n, true, rest)
    | none => (0, false, t)
  return ({ negative, whole, fraction, exponent, isFloat := hasFraction || hasExponent }, t)

/-- The float that a number denotes. -/
def NumberToken.toFloat (n : NumberToken) : Float :=
  Decimal.toFloat n.negative (digitsValue (n.whole ++ n.fraction))
    (n.exponent - n.fraction.length)

/-- The value that a number denotes. -/
def NumberToken.value (n : NumberToken) : Except ReadError HostValue :=
  if n.isFloat then .ok (.float n.toFloat)
  else if maxIntegerDigits < n.whole.length then .error (.tooManyDigits n.whole.length)
  else
    let v : Int := digitsValue n.whole
    .ok (.int (if n.negative then -v else v))

/-- The words of the dialect and their values. -/
def words : List (String × HostValue) :=
  [("null", .none), ("true", .bool true), ("false", .bool false), ("NaN", .float Binary.nan),
    ("Infinity", .float (Binary.infinity false)), ("-Infinity", .float (Binary.infinity true))]

/-- The word at the head of a text: its value, its length and what follows. -/
def scanWord? (t : Text) : Option (HostValue × Nat × Text) :=
  words.findSome? fun (word, v) =>
    let w := Text.ofString word
    if t.startsWith w then some (v, w.length, t.drop w.length) else none

mutual

/-- Reads a value. -/
def readValue : Nat → Cursor → Except ReadError (HostValue × Cursor)
  | 0, c => .error (.syntaxError .expectingValue c.position)
  | fuel + 1, c =>
    match c.rest with
    | [] => .error (.syntaxError .expectingValue c.position)
    | d :: rest =>
      let inside : Cursor := ⟨c.position + 1, rest⟩
      match d.ascii with
      | '"' => do
        let (s, c) ← readString inside
        return (.str s, c)
      | '\x7b' => do
        let c := inside.skipSpace
        match c.rest with
        | e :: rest =>
          if e.ascii == '\x7d' then return (.dict [], ⟨c.position + 1, rest⟩)
          let (entries, c) ← readEntries fuel [] c
          return (.dict (entries.map fun e => (.str e.1, e.2)), c)
        | [] => .error (.syntaxError .expectingName c.position)
      | '[' => do
        let c := inside.skipSpace
        match c.rest with
        | e :: rest =>
          if e.ascii == ']' then return (.list [], ⟨c.position + 1, rest⟩)
          let (items, c) ← readItems fuel [] c
          return (.list items, c)
        | [] => .error (.syntaxError .expectingValue c.position)
      | _ =>
        match scanWord? c.rest with
        | some (v, n, rest) => .ok (v, ⟨c.position + n, rest⟩)
        | none =>
          match scanNumber? c.rest with
          | none => .error (.syntaxError .expectingValue c.position)
          | some (token, after) => do
            let v ← token.value
            return (v, ⟨c.position + (c.rest.length - after.length), after⟩)

/-- Reads the items of a list up to its closing bracket; those read so far are in `acc`, the last
one first. -/
def readItems : Nat → List HostValue → Cursor → Except ReadError (List HostValue × Cursor)
  | 0, _, c => .error (.syntaxError .expectingValue c.position)
  | fuel + 1, acc, c => do
    let (v, c) ← readValue fuel c
    let c := c.skipSpace
    match c.rest with
    | d :: rest =>
      let next : Cursor := ⟨c.position + 1, rest⟩
      match d.ascii with
      | ']' => return ((v :: acc).reverse, next)
      | ',' => readItems fuel (v :: acc) next.skipSpace
      | _ => .error (.syntaxError .expectingComma c.position)
    | [] => .error (.syntaxError .expectingComma c.position)

/-- Reads the entries of an object up to its closing bracket; those read so far are in `acc`. -/
def readEntries : Nat → List (Text × HostValue) → Cursor →
    Except ReadError (List (Text × HostValue) × Cursor)
  | 0, _, c => .error (.syntaxError .expectingName c.position)
  | fuel + 1, acc, c =>
    match c.rest with
    | [] => .error (.syntaxError .expectingName c.position)
    | q :: rest =>
      if q.ascii != '"' then .error (.syntaxError .expectingName c.position)
      else do
        let (key, c) ← readString ⟨c.position + 1, rest⟩
        let c := c.skipSpace
        match c.rest with
        | [] => .error (.syntaxError .expectingColon c.position)
        | colon :: rest =>
          if colon.ascii != ':' then .error (.syntaxError .expectingColon c.position)
          else
            let (v, c) ← readValue fuel (Cursor.skipSpace ⟨c.position + 1, rest⟩)
            let acc := HostValue.insertEntry acc key v
            let c := c.skipSpace
            match c.rest with
            | d :: rest =>
              let next : Cursor := ⟨c.position + 1, rest⟩
              match d.ascii with
              | '\x7d' => return (acc, next)
              | ',' => readEntries fuel acc next.skipSpace
              | _ => .error (.syntaxError .expectingComma c.position)
            | [] => .error (.syntaxError .expectingComma c.position)

end

/-- Reads a whole text: one value with nothing but white space around it. -/
def readText (t : Text) : Except ReadError HostValue := do
  if (t.head?.map (·.val)) == some 0xFEFF then throw (.syntaxError .byteOrderMark 0)
  let (v, c) ← readValue (2 * t.length + 2) (skipSpace 0 t)
  let c := c.skipSpace
  if c.rest.isEmpty then return v else throw (.syntaxError .extraData c.position)

/-- The fault that reports a reading error: lines and columns count from one. -/
def ReadError.fault (t : Text) : ReadError → Fault
  | .tooManyDigits count => .digitsTooMany count
  | .syntaxError problem position =>
    let before := t.take position
    let newline := CodePoint.ofChar '\n'
    let column := (before.reverse.takeWhile (· != newline)).length + 1
    .jsonSyntax problem.wording (before.count newline + 1) column position

/-- The value of a JSON text. -/
def read (t : Text) : Except Fault HostValue :=
  match readText t with
  | .ok v => .ok v
  | .error e => .error (e.fault t)

end ScriptHost.Json
