import ScriptHost.Pattern.Match

/-!
# Replacement templates

A replacement is a template of literal pieces and references to groups.  Reading one needs the
groups of the pattern, since a reference to a group that the pattern lacks is refused.
-/

namespace ScriptHost.Pattern

/-- A piece of a replacement. -/
inductive Piece
  | literal (t : Text)
  /-- The part that a group captured; group zero is the whole match. -/
  | group (index : Nat)
deriving DecidableEq

open Reader

/-- A reference to a group of the pattern, refused at `offset` places before the token at hand. -/
def groupPiece (groups index offset : Nat) : Reader Piece := do
  if groups < index then fail ("invalid group reference " ++ Text.ofNat index) offset
  return .group index

/-- Reads a reference in angle brackets. -/
def readNamedPiece (groups : Nat) : Reader Piece := do
  if !(← accept '<') then fail "missing <" 0
  let name ← takeUntil '>' "group name"
  let offset := name.length + 1
  if isName name then
    match (← get).names.find? (·.1 == name) with
    | some (_, index) => groupPiece groups index offset
    | none => throw (.unknownName name)
  else
    match looseNumber? name with
    | none => fail ("bad character in group name " ++ name.quoted) offset
    | some index =>
      if maxGroups ≤ index then fail ("invalid group reference " ++ Text.ofNat index) offset
      groupPiece groups index offset

/-- Takes one more octal digit onto a token if there is one. -/
def takeOctal (token : Text) : Reader (Text × Bool) := do
  match (← source).next with
  | [e] => if isOctal e then return (token ++ (← take), true) else return (token, false)
  | _ => return (token, false)

/-- Reads an escape by digits: up to three octal digits after a zero, three octal digits, or else
the number of a group. -/
def readDigitPiece (groups : Nat) (token : Text) (d : CodePoint) : Reader Piece := do
  if d.ascii == '0' then
    let (one, more) ← takeOctal token
    let (two, _) ← if more then takeOctal one else pure (one, false)
    return .literal [CodePoint.ofNat (digitsIn 8 (two.drop 1) % 256)]
  match (← source).next with
  | [e] =>
    if e.isDigit then
      let shown := token ++ (← take)
      if isOctal d && isOctal e then
        let (longer, more) ← takeOctal shown
        if more then return .literal [CodePoint.ofNat (← octalValue longer)]
      groupPiece groups (digitsIn 10 (shown.drop 1)) (shown.length - 1)
    else groupPiece groups (digitsIn 10 (token.drop 1)) (token.length - 1)
  | _ => groupPiece groups (digitsIn 10 (token.drop 1)) (token.length - 1)

/-- Reads the piece of an escape. -/
def readEscapedPiece (groups : Nat) (token : Text) (d : CodePoint) : Reader Piece := do
  if d.ascii == 'g' then readNamedPiece groups
  else if d.isDigit then readDigitPiece groups token d
  else
    match simpleEscape? d with
    | some n => return .literal [CodePoint.ofNat n]
    | none =>
      if isAsciiLetter d then fail ("bad escape " ++ token) token.length
      return .literal token

/-- Reads the pieces up to the end. -/
def readPieces (groups : Nat) : Nat → List Piece → Reader (List Piece)
  | 0, pieces => return pieces.reverse
  | fuel + 1, pieces => do
    let token ← take
    match token with
    | [] => return pieces.reverse
    | [_, d] => readPieces groups fuel ((← readEscapedPiece groups token d) :: pieces)
    | _ => readPieces groups fuel (.literal token :: pieces)

/-- The template that a replacement text denotes for a pattern. -/
def parseTemplate (p : Compiled) (t : Text) : Except PatternError (List Piece) := do
  let source ← Source.ofText t p.isText
  let start : Reading :=
    { source, flags := {}, widths := p.widths, names := p.names, lookBehindGroups := none,
      conditions := [] }
  let (pieces, _) ← (readPieces p.groups (t.length + 1) []).run start
  return pieces

/-- The place of a position in a text that has line feeds: its line and column. -/
def lineAndColumn (t : Text) (position : Nat) : Nat × Nat :=
  let before := t.take position
  let line := (before.filter (·.val == 0x0A)).length
  (line + 1, (before.reverse.takeWhile (·.val != 0x0A)).length + 1)

/-- The wording of a fault in a text. -/
def PatternError.message (t : Text) : PatternError → Text
  | .malformed m none => m
  | .malformed m (some position) =>
    let place := m ++ " at position " ++ Text.ofNat position
    if t.any (·.val == 0x0A) then
      let (line, column) := lineAndColumn t position
      place ++ " (line " ++ Text.ofNat line ++ ", column " ++ Text.ofNat column ++ ")"
    else place
  | .countTooLarge => "the repetition number is too large"
  | .unknownName name => "unknown group name " ++ name.quoted
  | .flagConflict => "ASCII and UNICODE flags are incompatible"

end ScriptHost.Pattern
