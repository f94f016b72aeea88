import ScriptHost.Text.CodePoint

/-!
# Suggestions for mistyped names

How alike two texts are: twice the length of what they have in common, over the length of both.
What they have in common is their longest common block, and what the parts before it and the parts
after it have in common.
-/

namespace ScriptHost.Suggestion

/-- The length of the common beginning of two texts. -/
def commonLength : Text → Text → Nat
  | a :: as, b :: bs => if a = b then commonLength as bs + 1 else 0
  | _, _ => 0

/-- A block that two texts have in common: its length, and where it starts in each of them. -/
structure Block where
  length : Nat
  left : Nat
  right : Nat

/-- The longest common block; of several, the one that starts first on the left, then on the
right. -/
def longestBlock (a b : Text) : Block :=
  (List.range a.length).foldl (fun best i =>
    (List.range b.length).foldl (fun best j =>
      let n := commonLength (a.drop i) (b.drop j)
      if best.length < n then ⟨n, i, j⟩ else best) best) ⟨0, 0, 0⟩

/-- The number of characters that two texts have in common, for a left text of at most `fuel`
characters. -/
def commonCount : Nat → Text → Text → Nat
  | 0, _, _ => 0
  | fuel + 1, a, b =>
    let m := longestBlock a b
    if m.length = 0 then 0
    else
      commonCount fuel (a.take m.left) (b.take m.right) + m.length
        + commonCount fuel (a.drop (m.left + m.length)) (b.drop (m.right + m.length))

/-- Whether some number of common characters is six tenths of all characters or more. -/
def isClose (common : Nat) (a b : Text) : Bool := 3 * (a.length + b.length) ≤ 10 * common

/-- A candidate that is close to a word, with the number of characters they have in common. -/
def score? (word candidate : Text) : Option (Nat × Text) :=
  if !isClose (min candidate.length word.length) candidate word then none
  else
    let common := commonCount candidate.length candidate word
    if isClose common candidate word then some (common, candidate) else none

/-- Whether one score is better than another one for the same word. -/
def better (word : Text) (x y : Nat × Text) : Bool :=
  let left := x.1 * (y.2.length + word.length)
  let right := y.1 * (x.2.length + word.length)
  right < left || (left = right && Text.lt y.2 x.2)

/-- The candidates that are close to a word, at most three of them, in alphabetical order. -/
def closeMatches (word : Text) (candidates : List Text) : List Text :=
  let scored := candidates.filterMap (score? word)
  let best := (scored.mergeSort fun x y => !better word y x).take 3
  (best.map (·.2)).mergeSort fun x y => !Text.lt y x

end ScriptHost.Suggestion
