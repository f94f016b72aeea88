import ScriptHost.Unicode.Ranges
import ScriptHost.Text.CodePoint

/-!
# White space

The blanks that trimming removes and pattern class `\s` holds: the white space characters of
Unicode and the four information separators.
-/

namespace ScriptHost.Unicode

/-- White space. -/
def blankRanges : Array (Nat × Nat) :=
  #[
    (0x9, 0xd), (0x1c, 0x20), (0x85, 0x85), (0xa0, 0xa0), (0x1680, 0x1680), (0x2000, 0x200a),
    (0x2028, 0x2029), (0x202f, 0x202f), (0x205f, 0x205f), (0x3000, 0x3000)]

/-- Whether a code point is white space. -/
def isBlank (c : CodePoint) : Bool := inRanges blankRanges c.val

/-- A text without the white space at its two ends. -/
def trim (t : Text) : Text :=
  ((t.dropWhile isBlank).reverse.dropWhile isBlank).reverse

end ScriptHost.Unicode
