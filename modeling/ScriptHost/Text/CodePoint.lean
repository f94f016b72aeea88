/-!
# Code points and host text

Host text is a list of code points.  Surrogate code points are allowed, since text decoded from
an escaped form may hold a surrogate that has no partner; `String` cannot hold one.
-/

namespace ScriptHost

/-- A Unicode code point, surrogates included. -/
structure CodePoint where
  val : Nat
  isLt : val < 0x110000
deriving DecidableEq

namespace CodePoint

/-- The code point of a character. -/
def ofChar (c : Char) : CodePoint :=
  ⟨c.toNat, by
    have h := c.valid
    simp only [UInt32.isValidChar, Nat.isValidChar] at h
    change c.val.toNat < 0x110000
    omega⟩

instance : Coe Char CodePoint := ⟨ofChar⟩

instance : Inhabited CodePoint := ⟨⟨0, by decide⟩⟩

instance : Hashable CodePoint := ⟨fun c => hash c.val⟩

/-- The code point with a given number; numbers past the last code point give U+FFFD. -/
def ofNat (n : Nat) : CodePoint :=
  if h : n < 0x110000 then ⟨n, h⟩ else ⟨0xFFFD, by decide⟩

@[simp]
theorem val_ofNat {n : Nat} (h : n < 0x110000) : (ofNat n).val = n := by
  simp [ofNat, h]

@[simp]
theorem ofNat_val (c : CodePoint) : ofNat c.val = c := by
  simp [ofNat, c.isLt]

/-- The first half of a surrogate pair. -/
def isHighSurrogate (c : CodePoint) : Bool := 0xD800 ≤ c.val && c.val < 0xDC00

/-- The second half of a surrogate pair. -/
def isLowSurrogate (c : CodePoint) : Bool := 0xDC00 ≤ c.val && c.val < 0xE000

/-- Either half of a surrogate pair. -/
def isSurrogate (c : CodePoint) : Bool := 0xD800 ≤ c.val && c.val < 0xE000

/-- A scalar value: every code point but the surrogates. -/
def IsScalar (c : CodePoint) : Prop := c.isSurrogate = false

instance (c : CodePoint) : Decidable c.IsScalar := inferInstanceAs (Decidable (_ = _))

/-- The character of a scalar value. -/
def toChar? (c : CodePoint) : Option Char :=
  if c.isSurrogate then none else some (Char.ofNat c.val)

/-- The ASCII character of a code point; any other code point shows as U+FFFF, which is no
character of any format read here. -/
def ascii (c : CodePoint) : Char :=
  if c.val < 128 then Char.ofNat c.val else '\uffff'

/-- An ASCII digit `0` to `9`. -/
def isDigit (c : CodePoint) : Bool := 0x30 ≤ c.val && c.val ≤ 0x39

/-- The value of an ASCII hexadecimal digit. -/
def hexValue? (c : CodePoint) : Option Nat :=
  if 0x30 ≤ c.val && c.val ≤ 0x39 then some (c.val - 0x30)
  else if 0x41 ≤ c.val && c.val ≤ 0x46 then some (c.val - 0x41 + 10)
  else if 0x61 ≤ c.val && c.val ≤ 0x66 then some (c.val - 0x61 + 10)
  else none

end CodePoint

/-- Host text. -/
abbrev Text := List CodePoint

namespace Text

/-- The text of a string literal. -/
def ofString (s : String) : Text := s.toList.map CodePoint.ofChar

instance : Coe String Text := ⟨ofString⟩

/-- The string of a text without surrogates. -/
def toString? (t : Text) : Option String :=
  (t.mapM CodePoint.toChar?).map String.ofList

/-- The decimal digits of a natural number. -/
def ofNat (n : Nat) : Text := ofString (Nat.repr n)

/-- An integer in decimal, with a leading minus sign when negative. -/
def ofInt (i : Int) : Text :=
  if i < 0 then CodePoint.ofChar '-' :: ofNat i.natAbs else ofNat i.natAbs

/-- Texts put one after the other with a separator between neighbours. -/
def joinWith (separator : Text) : List Text → Text
  | [] => []
  | [t] => t
  | t :: rest => t ++ separator ++ joinWith separator rest

/-- The lexicographic order of code points. -/
def lt : Text → Text → Bool
  | [], [] => false
  | [], _ :: _ => true
  | _ :: _, [] => false
  | a :: as, b :: bs => a.val < b.val || (a.val == b.val && lt as bs)

/-- The pieces between the occurrences of one code point. -/
def splitOn (separator : CodePoint) : Text → List Text
  | [] => [[]]
  | c :: rest =>
    if c = separator then [] :: splitOn separator rest
    else
      match splitOn separator rest with
      | [] => [[c]]
      | piece :: pieces => (c :: piece) :: pieces

/-- Whether a text starts with another one. -/
def startsWith : Text → Text → Bool
  | _, [] => true
  | [], _ :: _ => false
  | a :: as, b :: bs => a == b && startsWith as bs

/-- Every scalar value of a text is one: no surrogates. -/
def IsScalar (t : Text) : Prop := ∀ c ∈ t, c.IsScalar

end Text

end ScriptHost
