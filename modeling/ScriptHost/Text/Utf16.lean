import ScriptHost.Text.CodePoint

/-!
# UTF-16

Script strings are sequences of 16-bit units.  `Utf16.encode` writes a code point above U+FFFF as
a surrogate pair and any other as one unit; `Utf16.decode` joins pairs again and keeps a lone
surrogate as the code point it is.
-/

namespace ScriptHost

/-- A script string: a sequence of 16-bit units. -/
structure Utf16 where
  units : Array UInt16
deriving DecidableEq, Hashable

namespace Utf16

instance : Inhabited Utf16 := ⟨⟨#[]⟩⟩

instance : EmptyCollection Utf16 := ⟨⟨#[]⟩⟩

instance : Append Utf16 := ⟨fun a b => ⟨a.units ++ b.units⟩⟩

/-- The units of one code point. -/
def encodePoint (c : CodePoint) : List UInt16 :=
  if c.val < 0x10000 then [c.val.toUInt16]
  else
    let v := c.val - 0x10000
    [(0xD800 + v / 0x400).toUInt16, (0xDC00 + v % 0x400).toUInt16]

/-- The units of a text. -/
def encode (t : Text) : List UInt16 := t.flatMap encodePoint

/-- A unit that opens a surrogate pair. -/
def isHigh (u : UInt16) : Bool := 0xD800 ≤ u.toNat && u.toNat < 0xDC00

/-- A unit that closes a surrogate pair. -/
def isLow (u : UInt16) : Bool := 0xDC00 ≤ u.toNat && u.toNat < 0xE000

/-- The code point of a surrogate pair. -/
def joinPair (high low : UInt16) : CodePoint :=
  CodePoint.ofNat (0x10000 + (high.toNat - 0xD800) * 0x400 + (low.toNat - 0xDC00))

/-- The text of a unit sequence, pairs joined. -/
def decode : List UInt16 → Text
  | [] => []
  | [u] => [CodePoint.ofNat u.toNat]
  | u :: v :: rest =>
    if isHigh u && isLow v then joinPair u v :: decode rest
    else CodePoint.ofNat u.toNat :: decode (v :: rest)

/-- The script string of a text. -/
def ofText (t : Text) : Utf16 :=
  ⟨t.foldl (fun acc c => (encodePoint c).foldl Array.push acc) #[]⟩

/-- The text of a script string. -/
def toText (s : Utf16) : Text := decode s.units.toList

/-- The script string of a string. -/
def ofString (s : String) : Utf16 := ofText (Text.ofString s)

instance : Coe String Utf16 := ⟨ofString⟩

/-- The number of units. -/
def length (s : Utf16) : Nat := s.units.size

/-- Whether there is no unit at all. -/
def isEmpty (s : Utf16) : Bool := s.units.isEmpty

/-- The string of the units from `start` up to, but not including, `stop`. -/
def extract (s : Utf16) (start stop : Nat) : Utf16 := ⟨s.units.extract start stop⟩

/-- The one-unit string at a position. -/
def unitAt? (s : Utf16) (i : Nat) : Option Utf16 := s.units[i]?.map fun u => ⟨#[u]⟩

/-- Lexicographic order of units. -/
def lt (a b : Utf16) : Bool := go a.units.toList b.units.toList
where
  /-- Compares unit by unit. -/
  go : List UInt16 → List UInt16 → Bool
    | [], [] => false
    | [], _ :: _ => true
    | _ :: _, [] => false
    | x :: xs, y :: ys => x < y || (x == y && go xs ys)

/-- Whether the units of `part` stand in `s` from position `i` on. -/
def matchesAt (s part : Utf16) (i : Nat) : Bool :=
  i + part.length ≤ s.length && (s.extract i (i + part.length)).units == part.units

/-- The first position from `start` on at which `part` occurs. -/
def indexOf? (s part : Utf16) (start : Nat) : Option Nat :=
  go (s.length + 1 - start) start
where
  /-- Looks at `n` positions from `i` on. -/
  go : Nat → Nat → Option Nat
    | 0, _ => none
    | n + 1, i => if matchesAt s part i then some i else go n (i + 1)

/-- The last position up to `start` at which `part` occurs. -/
def lastIndexOf? (s part : Utf16) (start : Nat) : Option Nat :=
  go (start + 1)
where
  /-- Looks at the positions below `n`, from the greatest down. -/
  go : Nat → Option Nat
    | 0 => none
    | n + 1 => if matchesAt s part n then some n else go n

/-- Strings put one after the other with a separator between neighbours. -/
def joinWith (separator : Utf16) : List Utf16 → Utf16
  | [] => ∅
  | s :: rest => rest.foldl (fun acc t => acc ++ separator ++ t) s

end Utf16

end ScriptHost
