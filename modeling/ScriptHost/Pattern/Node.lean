import ScriptHost.Powers
import ScriptHost.Text.CodePoint

/-!
# Patterns

A compiled pattern is a sequence of nodes.  `Node.width` gives the least and greatest number of
code points that a node can cover, which look-behind needs.
-/

namespace ScriptHost.Pattern

/-- The flags of a pattern or of a part of it. -/
structure Flags where
  ignoreCase : Bool := false
  multiline : Bool := false
  dotAll : Bool := false
  verbose : Bool := false
  ascii : Bool := false
  unicode : Bool := false
  locale : Bool := false
  template : Bool := false
deriving DecidableEq, Inhabited

namespace Flags

/-- The flags of either. -/
def union (a b : Flags) : Flags :=
  { ignoreCase := a.ignoreCase || b.ignoreCase, multiline := a.multiline || b.multiline
    dotAll := a.dotAll || b.dotAll, verbose := a.verbose || b.verbose
    ascii := a.ascii || b.ascii, unicode := a.unicode || b.unicode
    locale := a.locale || b.locale, template := a.template || b.template }

/-- The flags of the first that are not of the second. -/
def minus (a b : Flags) : Flags :=
  { ignoreCase := a.ignoreCase && !b.ignoreCase, multiline := a.multiline && !b.multiline
    dotAll := a.dotAll && !b.dotAll, verbose := a.verbose && !b.verbose
    ascii := a.ascii && !b.ascii, unicode := a.unicode && !b.unicode
    locale := a.locale && !b.locale, template := a.template && !b.template }

/-- The flags that say which alphabet character classes refer to. -/
def alphabet (a : Flags) : Flags :=
  { ascii := a.ascii, unicode := a.unicode, locale := a.locale }

/-- Whether no flag is set. -/
def isEmpty (a : Flags) : Bool := a == {}

/-- The flags inside a group that turns some on and some off. -/
def inside (flags add remove : Flags) : Flags :=
  let base := if add.alphabet.isEmpty then flags else flags.minus flags.alphabet
  (base.union add).minus remove

end Flags

/-- A class of characters. -/
inductive Category
  | digit | space | word
deriving DecidableEq

/-- An item of a character set. -/
inductive SetItem
  | literal (c : Nat)
  | range (low high : Nat)
  | category (negated : Bool) (c : Category)
deriving DecidableEq

/-- A condition on a position. -/
inductive Anchor
  | beginning | beginningOfText | finish | endOfText | boundary | nonBoundary
deriving DecidableEq

/-- How a repetition chooses its count. -/
inductive Greed
  /-- As often as possible, then less often. -/
  | greedy
  /-- As rarely as possible, then more often. -/
  | lazy
  /-- As often as possible, with no second choice. -/
  | possessive
deriving DecidableEq

/-- A part of a pattern. -/
inductive Node
  | literal (c : Nat)
  | notLiteral (c : Nat)
  | any
  | set (negated : Bool) (items : List SetItem)
  | anchor (a : Anchor)
  | repetition (greed : Greed) (min : Nat) (max : Option Nat) (body : List Node)
  /-- A group, numbered if it captures, with the flags it turns on and off. -/
  | group (index : Option Nat) (add remove : Flags) (body : List Node)
  | atomic (body : List Node)
  /-- A look ahead or behind, wanted or unwanted. -/
  | look (behind negated : Bool) (body : List Node)
  | branch (alternatives : List (List Node))
  | backReference (index : Nat)
  /-- One of two bodies, by whether a group has matched. -/
  | conditional (index : Nat) (yes no : List Node)

instance : Inhabited Node := ⟨.any⟩

/-- Widths are cut off here. -/
def maxWidth : Nat := 2 ^ 64

/-- The number from which repetition counts and look-behind widths are too large. -/
def maxRepeat : Nat := 2 ^ 32 - 1

/-- The number from which group numbers are too large. -/
def maxGroups : Nat := 2 ^ 30 - 1

/-- The least and the greatest number of code points covered. -/
abbrev Width := Nat × Nat

/-- The width of two parts in a row. -/
def Width.add (a b : Width) : Width := (a.1 + b.1, a.2 + b.2)

/-- The width of a repetition. -/
def Width.repeated (w : Width) (min : Nat) (max : Option Nat) : Width :=
  (w.1 * min,
    match max with
    | some m => w.2 * m
    | none => if w.2 = 0 then 0 else maxWidth)

mutual

/-- The width of a node, given the widths of the groups closed so far. -/
def Node.width (groups : Array (Option Width)) : Node → Width
  | .literal _ | .notLiteral _ | .any | .set _ _ => (1, 1)
  | .anchor _ | .look _ _ _ => (0, 0)
  | .repetition _ min max body => (widthOf groups body).repeated min max
  | .group _ _ _ body | .atomic body => widthOf groups body
  | .branch alternatives =>
    match alternativesWidth groups alternatives with
    | some w => w
    | none => (0, 0)
  | .backReference index => ((groups[index]?).bind id).getD (0, 0)
  | .conditional _ yes no =>
    let w := widthOf groups yes
    let v := widthOf groups no
    (min w.1 v.1, max w.2 v.2)

/-- The width of a sequence. -/
def widthOf (groups : Array (Option Width)) : List Node → Width
  | [] => (0, 0)
  | n :: rest =>
    let w := (n.width groups).add (widthOf groups rest)
    (min w.1 maxWidth, min w.2 maxWidth)

/-- The width of a choice. -/
def alternativesWidth (groups : Array (Option Width)) : List (List Node) → Option Width
  | [] => none
  | body :: rest =>
    let w := widthOf groups body
    match alternativesWidth groups rest with
    | none => some w
    | some v => some (min w.1 v.1, max w.2 v.2)

end

/-- Why a pattern or a replacement is refused. -/
inductive PatternError
  /-- The text is malformed, at a position when one is known. -/
  | malformed (message : Text) (position : Option Nat)
  /-- A repetition count is too large. -/
  | countTooLarge
  /-- A replacement names a group that the pattern does not have. -/
  | unknownName (name : Text)
  /-- The flags exclude each other. -/
  | flagConflict

end ScriptHost.Pattern
