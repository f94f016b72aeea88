import ScriptHost.Pattern.CaseKin
import ScriptHost.Pattern.Parser
import ScriptHost.Unicode.Case
import ScriptHost.Unicode.Word

/-!
# Matching

Each node is a matcher: given a position and the groups captured so far, it tries its ways of going
on in order of preference and hands each one to what follows.  The first way that leads to the end
of the pattern is the match.
-/

namespace ScriptHost.Pattern

/-- The captured parts, by group number less one. -/
abbrev Captures := Array (Option (Nat × Nat))

/-- The end of a match with the captured parts, if there is a match. -/
abbrev Outcome := Option (Nat × Captures)

/-- What follows a node. -/
abbrev Continuation := Nat → Captures → Outcome

/-- What a node does at a position. -/
abbrev Matcher := Nat → Captures → Continuation → Outcome

namespace Flags

/-- The lower case of a character in the alphabet of the flags. -/
def lower (f : Flags) (c : CodePoint) : CodePoint :=
  if f.unicode then Unicode.lower c
  else if 0x41 ≤ c.val && c.val ≤ 0x5A then CodePoint.ofNat (c.val + 32)
  else c

/-- The upper case of a character in the alphabet of the flags. -/
def upper (f : Flags) (c : CodePoint) : CodePoint :=
  if f.unicode then Unicode.upper c
  else if 0x61 ≤ c.val && c.val ≤ 0x7A then CodePoint.ofNat (c.val - 32)
  else c

/-- Whether a character has two cases in the alphabet of the flags. -/
def isCased (f : Flags) (c : CodePoint) : Bool := f.lower c != c || f.upper c != c

/-- The other lower case letters that a lower case letter stands for. -/
def kin (f : Flags) (n : Nat) : List Nat := if f.unicode then caseKin n else []

/-- Whether a character is a word character in the alphabet of the flags. -/
def isWord (f : Flags) (c : CodePoint) : Bool :=
  if f.unicode then Unicode.isWord c
  else c.val == 0x5F || c.isDigit || isAsciiLetter c

/-- Whether a character belongs to a class in the alphabet of the flags. -/
def inCategory (f : Flags) (k : Category) (c : CodePoint) : Bool :=
  match k with
  | .digit => if f.unicode then (Unicode.digitValue? c).isSome else c.isDigit
  | .space => if f.unicode then Unicode.isBlank c else isPatternSpace c
  | .word => f.isWord c

/-- Whether a literal stands for a character. -/
def matchesLiteral (f : Flags) (literal : Nat) (c : CodePoint) : Bool :=
  if f.ignoreCase && f.isCased (CodePoint.ofNat literal) then
    let wanted := (f.lower (CodePoint.ofNat literal)).val
    let found := (f.lower c).val
    found == wanted || (f.kin wanted).contains found
  else c.val == literal

/-- Whether a range holds a character whose lower case is a given one. -/
def rangeHolds (f : Flags) (low high : Nat) (lowered : CodePoint) : Bool :=
  let within (n : Nat) : Bool := low ≤ n && n ≤ high
  (lowered.val :: f.kin lowered.val).any fun n =>
    (within n && (f.lower (CodePoint.ofNat n)).val == n)
      || (if f.unicode then (Unicode.lowerPreimages n).any within
        else 0x61 ≤ n && n ≤ 0x7A && within (n - 32))

/-- Whether an item of a set holds a character. -/
def holds (f : Flags) (c : CodePoint) : SetItem → Bool
  | .literal n =>
    if f.ignoreCase then
      let wanted := (f.lower (CodePoint.ofNat n)).val
      let found := (f.lower c).val
      found == wanted || (f.kin wanted).contains found
    else c.val == n
  | .range low high =>
    if f.ignoreCase then f.rangeHolds low high (f.lower c)
    else low ≤ c.val && c.val ≤ high
  | .category negated k =>
    f.inCategory k (if f.ignoreCase then f.lower c else c) != negated

end Flags

mutual

/-- The test that a node puts to one character, for nodes that cover exactly one. -/
def Node.unitTest? (f : Flags) : Node → Option (CodePoint → Bool)
  | .literal n => some (f.matchesLiteral n)
  | .notLiteral n => some fun c => !f.matchesLiteral n c
  | .any => some fun c => f.dotAll || c.val != 0x0A
  | .set negated items => some fun c => items.any (f.holds c) != negated
  | .group none add remove body => unitTestOf? (f.inside add remove) body
  | _ => none

/-- The test of a sequence of one node. -/
def unitTestOf? (f : Flags) : List Node → Option (CodePoint → Bool)
  | [n] => n.unitTest? f
  | _ => none

end

/-- Whether a condition holds at a position. -/
def Anchor.holds (f : Flags) (s : Array CodePoint) (position : Nat) : Anchor → Bool
  | .beginning =>
    position = 0 || (f.multiline && (s[position - 1]?).any (·.val == 0x0A))
  | .beginningOfText => position = 0
  | .finish =>
    if f.multiline then (s[position]?).all (·.val == 0x0A)
    else position = s.size || (position + 1 = s.size && (s[position]?).any (·.val == 0x0A))
  | .endOfText => position = s.size
  | .boundary => !s.isEmpty && wordBefore != wordAfter
  | .nonBoundary => !s.isEmpty && wordBefore == wordAfter
where
  /-- Whether a word character stands before the position. -/
  wordBefore : Bool := position != 0 && (s[position - 1]?).any f.isWord
  /-- Whether a word character stands at the position. -/
  wordAfter : Bool := (s[position]?).any f.isWord

/-- How many characters from a position on pass a test, `n` at most. -/
def countUnits (s : Array CodePoint) (test : CodePoint → Bool) (position : Nat) : Nat → Nat
  | 0 => 0
  | n + 1 =>
    match s[position]? with
    | some c => if test c then countUnits s test (position + 1) n + 1 else 0
    | none => 0

/-- Goes on after `n` more characters, or after fewer of them. -/
def tryFewer (k : Nat → Outcome) : Nat → Outcome
  | 0 => k 0
  | n + 1 =>
    match k (n + 1) with
    | some r => some r
    | none => tryFewer k n

/-- Goes on after `i` characters, or after up to `n` more of them. -/
def tryMore (k : Nat → Outcome) : Nat → Nat → Outcome
  | i, 0 => k i
  | i, n + 1 =>
    match k i with
    | some r => some r
    | none => tryMore k (i + 1) n

/-- A repetition of one character. -/
def repeatUnit (s : Array CodePoint) (test : CodePoint → Bool) (greed : Greed) (min : Nat)
    (max : Option Nat) : Matcher := fun position captures k =>
  let available := s.size - position
  let limit := match max with
    | some m => Nat.min m available
    | none => available
  let n := countUnits s test position limit
  if n < min then none
  else
    match greed with
    | .greedy => tryFewer (fun i => k (position + min + i) captures) (n - min)
    | .lazy => tryMore (fun i => k (position + i) captures) min (n - min)
    | .possessive => k (position + n) captures

/-- Whether one more round is allowed after `count` of them. -/
def allowsMore (max : Option Nat) (count : Nat) : Bool := max.all (count < ·)

/-- Repeats a body as often as possible first; `last` is where the latest free round began, and a
free round that begins there again is not tried. -/
def repeatGreedy (body : Matcher) (min : Nat) (max : Option Nat) (k : Continuation) :
    Nat → Nat → Option Nat → Continuation
  | 0, _, _, _, _ => none
  | fuel + 1, count, last, position, captures =>
    if count < min then
      body position captures fun p c => repeatGreedy body min max k fuel (count + 1) last p c
    else
      let further : Outcome :=
        if allowsMore max count && last != some position then
          body position captures fun p c =>
            repeatGreedy body min max k fuel (count + 1) (some position) p c
        else none
      match further with
      | some r => some r
      | none => k position captures

/-- Repeats a body as rarely as possible first. -/
def repeatLazy (body : Matcher) (min : Nat) (max : Option Nat) (k : Continuation) :
    Nat → Nat → Option Nat → Continuation
  | 0, _, _, _, _ => none
  | fuel + 1, count, last, position, captures =>
    if count < min then
      body position captures fun p c => repeatLazy body min max k fuel (count + 1) last p c
    else
      match k position captures with
      | some r => some r
      | none =>
        if allowsMore max count && last != some position then
          body position captures fun p c =>
            repeatLazy body min max k fuel (count + 1) (some position) p c
        else none

/-- The first way to cover a body, with nothing following it. -/
def settle (body : Matcher) : Continuation := fun position captures =>
  body position captures fun p c => some (p, c)

/-- Repeats a body as often as possible, each round in its first way. -/
def repeatPossessive (body : Matcher) (min : Nat) (max : Option Nat) : Nat → Nat → Continuation
  | 0, _, _, _ => none
  | fuel + 1, count, position, captures =>
    if count < min then
      match settle body position captures with
      | some (p, c) => repeatPossessive body min max fuel (count + 1) p c
      | none => none
    else if allowsMore max count then
      match settle body position captures with
      | some (p, c) =>
        if p = position then some (p, c)
        else repeatPossessive body min max fuel (count + 1) p c
      | none => some (position, captures)
    else some (position, captures)

/-- Whether the characters of a captured part stand at a position. -/
def sameUnits (f : Flags) (s : Array CodePoint) (start position : Nat) : Nat → Bool
  | 0 => true
  | n + 1 =>
    match s[start]?, s[position]? with
    | some a, some b =>
      (if f.ignoreCase then f.lower a == f.lower b else a == b)
        && sameUnits f s (start + 1) (position + 1) n
    | _, _ => false

mutual

/-- The matcher of a node in a text; `widths` are the widths of the groups. -/
def Node.matcher (s : Array CodePoint) (widths : Array (Option Width)) (f : Flags) :
    Node → Matcher
  | .literal n => unitMatcher s (f.matchesLiteral n)
  | .notLiteral n => unitMatcher s fun c => !f.matchesLiteral n c
  | .any => unitMatcher s fun c => f.dotAll || c.val != 0x0A
  | .set negated items => unitMatcher s fun c => items.any (f.holds c) != negated
  | .anchor a => fun position captures k =>
    if a.holds f s position then k position captures else none
  | .repetition greed min max body =>
    match unitTestOf? f body with
    | some test => repeatUnit s test greed min max
    | none =>
      let inner := sequenceMatcher s widths f body
      let fuel := min + s.size + 2
      match greed with
      | .greedy => fun position captures k => repeatGreedy inner min max k fuel 0 none position captures
      | .lazy => fun position captures k => repeatLazy inner min max k fuel 0 none position captures
      | .possessive => fun position captures k =>
        match repeatPossessive inner min max fuel 0 position captures with
        | some (p, c) => k p c
        | none => none
  | .group index add remove body =>
    let inner := sequenceMatcher s widths (f.inside add remove) body
    match index with
    | none => inner
    | some i => fun position captures k =>
      inner position captures fun p c => k p (c.setIfInBounds (i - 1) (some (position, p)))
  | .atomic body =>
    let inner := sequenceMatcher s widths f body
    fun position captures k =>
      match settle inner position captures with
      | some (p, c) => k p c
      | none => none
  | .look behind negated body =>
    let inner := sequenceMatcher s widths f body
    let back := if behind then (widthOf widths body).1 else 0
    fun position captures k =>
      let found := if position < back then none else settle inner (position - back) captures
      match found with
      | some (_, c) => if negated then none else k position c
      | none => if negated then k position captures else none
  | .branch alternatives => alternativesMatcher s widths f alternatives
  | .backReference index => fun position captures k =>
    match (captures[index - 1]?).bind id with
    | some (start, stop) =>
      if sameUnits f s start position (stop - start) then k (position + (stop - start)) captures
      else none
    | none => none
  | .conditional index yes no =>
    let whenSet := sequenceMatcher s widths f yes
    let whenUnset := sequenceMatcher s widths f no
    fun position captures k =>
      if ((captures[index - 1]?).bind id).isSome then whenSet position captures k
      else whenUnset position captures k
where
  /-- Covers one character that passes a test. -/
  unitMatcher (s : Array CodePoint) (test : CodePoint → Bool) : Matcher :=
    fun position captures k =>
      match s[position]? with
      | some c => if test c then k (position + 1) captures else none
      | none => none

/-- The matcher of a sequence. -/
def sequenceMatcher (s : Array CodePoint) (widths : Array (Option Width)) (f : Flags) :
    List Node → Matcher
  | [] => fun position captures k => k position captures
  | [n] => n.matcher s widths f
  | n :: rest =>
    let head := n.matcher s widths f
    let tail := sequenceMatcher s widths f rest
    fun position captures k => head position captures fun p c => tail p c k

/-- The matcher of a choice: the first alternative that leads to a match. -/
def alternativesMatcher (s : Array CodePoint) (widths : Array (Option Width)) (f : Flags) :
    List (List Node) → Matcher
  | [] => fun _ _ _ => none
  | body :: rest =>
    let first := sequenceMatcher s widths f body
    let others := alternativesMatcher s widths f rest
    fun position captures k =>
      match first position captures k with
      | some r => some r
      | none => others position captures k

end

/-- A match: where it starts and ends, and its captured parts. -/
structure Match where
  start : Nat
  stop : Nat
  captures : Captures
deriving DecidableEq, Inhabited

namespace Compiled

/-- The match that starts at a position, if there is one; `advancing` asks that it not be empty. -/
def matchAt? (p : Compiled) (s : Array CodePoint) (position : Nat) (advancing : Bool) :
    Option Match :=
  let unset : Captures := Array.replicate p.groups none
  (sequenceMatcher s p.widths p.flags p.nodes position unset fun stop captures =>
    if advancing && stop = position then none else some (stop, captures)).map fun r =>
      { start := position, stop := r.1, captures := r.2 }

/-- The first match that starts at one of `n + 1` positions from a given one on. -/
def searchFrom? (p : Compiled) (s : Array CodePoint) (position : Nat) (advancing : Bool) :
    Nat → Option Match
  | 0 => p.matchAt? s position advancing
  | n + 1 =>
    match p.matchAt? s position advancing with
    | some m => some m
    | none => searchFrom? p s (position + 1) false n

/-- The first match that starts at a position or after it. -/
def search? (p : Compiled) (s : Array CodePoint) (position : Nat) (advancing : Bool) :
    Option Match :=
  if s.size < position then none else p.searchFrom? s position advancing (s.size - position)

/-- Up to `n` matches from a position on. After an empty match the next one may start at the same
place but must not be empty. -/
def matchesFrom (p : Compiled) (s : Array CodePoint) : Nat → Nat → Bool → List Match
  | 0, _, _ => []
  | n + 1, position, advancing =>
    match p.search? s position advancing with
    | some m => m :: matchesFrom p s n m.stop (m.stop == m.start)
    | none => []

/-- All matches in a text, from left to right. There are at most two per position. -/
def allMatches (p : Compiled) (s : Array CodePoint) : List Match :=
  p.matchesFrom s (2 * s.size + 2) 0 false

end Compiled

end ScriptHost.Pattern
