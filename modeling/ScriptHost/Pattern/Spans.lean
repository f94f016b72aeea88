import ScriptHost.Pattern.Template

/-!
# Work on all matches

Splitting and replacing both go through the matches of `Compiled.allMatches` from left to right;
what stands between two matches is kept as it is.
-/

namespace ScriptHost.Pattern

/-- The part of a text from one position up to another. -/
def slice (s : Array CodePoint) (start stop : Nat) : Text := (s.extract start stop).toList

namespace Match

/-- The text that a match covers. -/
def text (m : Match) (s : Array CodePoint) : Text := slice s m.start m.stop

/-- The parts that the groups captured, in order. -/
def groupTexts (m : Match) (s : Array CodePoint) : List (Option Text) :=
  m.captures.toList.map fun part => part.map fun span => slice s span.1 span.2

/-- What a group captured: the whole match for group zero, nothing for an unset group. -/
def groupText (m : Match) (s : Array CodePoint) (index : Nat) : Text :=
  if index = 0 then m.text s
  else
    match (m.captures[index - 1]?).bind id with
    | some span => slice s span.1 span.2
    | none => []

/-- What a template gives for a match. -/
def expand (m : Match) (s : Array CodePoint) (pieces : List Piece) : Text :=
  pieces.flatMap fun piece =>
    match piece with
    | .literal t => t
    | .group index => m.groupText s index

end Match

/-- The text with each match replaced, from a position on. -/
def replaceSpans (s : Array CodePoint) (replacement : Match → Text) : Nat → List Match → Text
  | position, [] => slice s position s.size
  | position, m :: rest =>
    slice s position m.start ++ replacement m ++ replaceSpans s replacement m.stop rest

/-- The parts between matches, with the captured parts of each match between them, from a position
on. -/
def splitSpans (s : Array CodePoint) : Nat → List Match → List (Option Text)
  | position, [] => [some (slice s position s.size)]
  | position, m :: rest =>
    some (slice s position m.start) :: (m.groupTexts s ++ splitSpans s m.stop rest)

namespace Compiled

/-- The text with each match replaced by a template. -/
def replaceAll (p : Compiled) (s : Array CodePoint) (pieces : List Piece) : Text :=
  replaceSpans s (fun m => m.expand s pieces) 0 (p.allMatches s)

/-- The parts of a text between the matches of a pattern, and what its groups captured. -/
def splitAll (p : Compiled) (s : Array CodePoint) : List (Option Text) :=
  splitSpans s 0 (p.allMatches s)

end Compiled

end ScriptHost.Pattern
