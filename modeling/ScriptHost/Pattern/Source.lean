import ScriptHost.Pattern.Node
import ScriptHost.Text.Quoted
import ScriptHost.Unicode.Digit
import ScriptHost.Unicode.Blank
import ScriptHost.Unicode.Identifier

/-!
# Pattern tokens

A pattern is read token by token; a backslash and the character after it are one token.  Errors
are reported at the place of the next token, moved back by an offset.
-/

namespace ScriptHost.Pattern

/-- A pattern text with the token at hand; an empty token marks the end. -/
structure Source where
  points : Array CodePoint
  /-- The position after the token at hand. -/
  index : Nat
  next : Text
  /-- Whether the pattern is a text rather than bytes. -/
  isText : Bool

namespace Source

/-- Takes the next token. -/
def advance (s : Source) : Except PatternError Source :=
  match s.points[s.index]? with
  | none => .ok { s with next := [] }
  | some c =>
    if c.ascii == '\\' then
      match s.points[s.index + 1]? with
      | none => .error (.malformed "bad escape (end of pattern)" (some (s.points.size - 1)))
      | some d => .ok { s with index := s.index + 2, next := [c, d] }
    else .ok { s with index := s.index + 1, next := [c] }

/-- A pattern at its first token. -/
def ofText (t : Text) (isText : Bool) : Except PatternError Source :=
  advance { points := t.toArray, index := 0, next := [], isText }

/-- The position of the token at hand. -/
def position (s : Source) : Nat := s.index - s.next.length

/-- Goes to a position. -/
def seek (s : Source) (position : Nat) : Except PatternError Source :=
  advance { s with index := position }

/-- An error `offset` places before the token at hand. -/
def error (s : Source) (message : Text) (offset : Nat) : PatternError :=
  .malformed message (some (s.position - offset))

/-- Whether the token at hand is a given character. -/
def at? (s : Source) (c : Char) : Bool :=
  match s.next with
  | [d] => d.ascii == c
  | _ => false

/-- Whether there is no token left. -/
def isAtEnd (s : Source) : Bool := s.next.isEmpty

/-- Takes the token at hand if it is a given character. -/
def match? (s : Source) (c : Char) : Except PatternError (Option Source) :=
  if s.at? c then return some (← s.advance) else return none

/-- Takes up to `n` tokens that are characters of a class. -/
def getWhile (s : Source) (p : CodePoint → Bool) : Nat → Except PatternError (Text × Source)
  | 0 => .ok ([], s)
  | n + 1 =>
    match s.next with
    | [c] =>
      if p c then do
        let s ← s.advance
        let (t, s) ← getWhile s p n
        return (c :: t, s)
      else .ok ([], s)
    | _ => .ok ([], s)

/-- Takes the tokens up to a closing character, which is taken as well; at least one is
needed. -/
def getUntil (s : Source) (terminator : Char) (what : String) :
    Except PatternError (Text × Source) :=
  go (s.points.size + 1) s []
where
  /-- Collects tokens; `acc` holds what has been read. -/
  go : Nat → Source → Text → Except PatternError (Text × Source)
    | 0, s, _ => .error (s.error (Text.ofString ("missing " ++ what)) 0)
    | fuel + 1, s, acc => do
      let token := s.next
      let s ← s.advance
      if token.isEmpty then
        if acc.isEmpty then throw (s.error (Text.ofString ("missing " ++ what)) 0)
        throw (s.error (Text.ofString ("missing " ++ terminator.toString ++ ", unterminated name"))
          acc.length)
      if token == [CodePoint.ofChar terminator] then
        if acc.isEmpty then throw (s.error (Text.ofString ("missing " ++ what)) 1)
        return (acc, s)
      go fuel s (acc ++ token)

end Source

/-- An octal digit. -/
def isOctal (c : CodePoint) : Bool := 0x30 ≤ c.val && c.val ≤ 0x37

/-- A hexadecimal digit. -/
def isHex (c : CodePoint) : Bool := c.hexValue?.isSome

/-- An ASCII letter. -/
def isAsciiLetter (c : CodePoint) : Bool :=
  (0x41 ≤ c.val && c.val ≤ 0x5A) || (0x61 ≤ c.val && c.val ≤ 0x7A)

/-- The value of digits in a base up to sixteen. -/
def digitsIn (base : Nat) (t : Text) : Nat :=
  t.foldl (fun n c => base * n + c.hexValue?.getD 0) 0

/-- Whether a text is an identifier of any script. -/
def isName : Text → Bool
  | [] => false
  | c :: rest =>
    (c.val == 0x5F || Unicode.isIdentifierStart c) && rest.all Unicode.isIdentifierPart

/-- The value of digits of any script, with single underscores between them. -/
def looseDigits : Bool → Nat → Text → Option Nat
  | afterDigit, n, [] => if afterDigit then some n else none
  | afterDigit, n, c :: rest =>
    if c.val == 0x5F then if afterDigit then looseDigits false n rest else none
    else
      match Unicode.digitValue? c with
      | some d => looseDigits true (10 * n + d) rest
      | none => none

/-- The natural number that a text denotes, blanks around it and a plus sign aside. -/
def looseNumber? (t : Text) : Option Nat :=
  match Unicode.trim t with
  | [] => none
  | c :: rest =>
    if c.ascii == '+' then looseDigits false 0 rest
    else if c.ascii == '-' then (looseDigits false 0 rest).filter (· == 0)
    else looseDigits false 0 (c :: rest)

end ScriptHost.Pattern
