import ScriptHost.Text.CodePoint

/-!
# UTF-8

`Utf8.encodePoint` writes any code point; `Utf8.encode?` refuses surrogates, which have no
UTF-8 form.  `Utf8.decode` accepts exactly the well-formed byte sequences and says at the first
offending byte which of three things is wrong.
-/

namespace ScriptHost.Utf8

/-- The bytes of one code point, by the general scheme that surrogates fit into as well. -/
def encodePoint (c : CodePoint) : List UInt8 :=
  let v := c.val
  if v < 0x80 then [v.toUInt8]
  else if v < 0x800 then [(0xC0 + v / 0x40).toUInt8, (0x80 + v % 0x40).toUInt8]
  else if v < 0x10000 then
    [(0xE0 + v / 0x1000).toUInt8, (0x80 + v / 0x40 % 0x40).toUInt8, (0x80 + v % 0x40).toUInt8]
  else
    [(0xF0 + v / 0x40000).toUInt8, (0x80 + v / 0x1000 % 0x40).toUInt8,
      (0x80 + v / 0x40 % 0x40).toUInt8, (0x80 + v % 0x40).toUInt8]

/-- The bytes of a text, surrogates included. -/
def encodeAll (t : Text) : List UInt8 := t.flatMap encodePoint

/-- The position of the first surrogate of a text, and the surrogate. -/
def firstSurrogate? (t : Text) : Option (Nat × CodePoint) :=
  go 0 t
where
  /-- Counts positions from `i` on. -/
  go (i : Nat) : Text → Option (Nat × CodePoint)
    | [] => none
    | c :: rest => if c.isSurrogate then some (i, c) else go (i + 1) rest

/-- The bytes of a text without surrogates. -/
def encode? (t : Text) : Option (List UInt8) :=
  if (firstSurrogate? t).isNone then some (encodeAll t) else none

/-- Why bytes are not UTF-8. -/
inductive Defect
  /-- The byte opens no sequence. -/
  | invalidStart
  /-- The byte after an opening byte is not of the sequence. -/
  | invalidContinuation
  /-- The bytes end inside a sequence. -/
  | unexpectedEnd
deriving DecidableEq

/-- A defect with the bytes it covers: `length` bytes from `start` on, the first of them `byte`. -/
structure DecodeError where
  defect : Defect
  start : Nat
  length : Nat
  byte : UInt8
deriving DecidableEq

/-- A continuation byte. -/
def isTail (b : UInt8) : Bool := 0x80 ≤ b.toNat && b.toNat ≤ 0xBF

/-- The low six bits of a continuation byte. -/
def tailBits (b : UInt8) : Nat := b.toNat - 0x80

/-- The range of the second byte that a three-byte opening byte admits. -/
def secondOfThree (a b : UInt8) : Bool :=
  if a == 0xE0 then 0xA0 ≤ b.toNat && b.toNat ≤ 0xBF
  else if a == 0xED then 0x80 ≤ b.toNat && b.toNat ≤ 0x9F
  else isTail b

/-- The range of the second byte that a four-byte opening byte admits. -/
def secondOfFour (a b : UInt8) : Bool :=
  if a == 0xF0 then 0x90 ≤ b.toNat && b.toNat ≤ 0xBF
  else if a == 0xF4 then 0x80 ≤ b.toNat && b.toNat ≤ 0x8F
  else isTail b

/-- Decodes from byte position `at` on. -/
def decodeFrom (position : Nat) : List UInt8 → Except DecodeError Text
  | [] => .ok []
  | a :: rest =>
    let fail (defect : Defect) (length : Nat) : Except DecodeError Text :=
      .error ⟨defect, position, length, a⟩
    if a.toNat < 0x80 then
      return CodePoint.ofNat a.toNat :: (← decodeFrom (position + 1) rest)
    else if a.toNat < 0xC2 then fail .invalidStart 1
    else if a.toNat < 0xE0 then
      match rest with
      | [] => fail .unexpectedEnd 1
      | b :: rest =>
        if isTail b then
          return CodePoint.ofNat ((a.toNat - 0xC0) * 0x40 + tailBits b)
            :: (← decodeFrom (position + 2) rest)
        else fail .invalidContinuation 1
    else if a.toNat < 0xF0 then
      match rest with
      | [] => fail .unexpectedEnd 1
      | b :: rest =>
        if secondOfThree a b then
          match rest with
          | [] => fail .unexpectedEnd 2
          | c :: rest =>
            if isTail c then
              return CodePoint.ofNat
                  ((a.toNat - 0xE0) * 0x1000 + tailBits b * 0x40 + tailBits c)
                :: (← decodeFrom (position + 3) rest)
            else fail .invalidContinuation 2
        else fail .invalidContinuation 1
    else if a.toNat < 0xF5 then
      match rest with
      | [] => fail .unexpectedEnd 1
      | b :: rest =>
        if secondOfFour a b then
          match rest with
          | [] => fail .unexpectedEnd 2
          | c :: rest =>
            if isTail c then
              match rest with
              | [] => fail .unexpectedEnd 3
              | d :: rest =>
                if isTail d then
                  return CodePoint.ofNat
                      ((a.toNat - 0xF0) * 0x40000 + tailBits b * 0x1000 + tailBits c * 0x40
                        + tailBits d)
                    :: (← decodeFrom (position + 4) rest)
                else fail .invalidContinuation 3
            else fail .invalidContinuation 2
        else fail .invalidContinuation 1
    else fail .invalidStart 1

/-- The text of a well-formed byte sequence. -/
def decode (bytes : List UInt8) : Except DecodeError Text := decodeFrom 0 bytes

/-- Decodes with surrogates let through, as the general scheme of `encodePoint` writes them.
Bytes that no code point has are dropped. -/
def decodeAll : List UInt8 → Text
  | [] => []
  | a :: rest =>
    if a.toNat < 0x80 then CodePoint.ofNat a.toNat :: decodeAll rest
    else
      match rest with
      | b :: rest' =>
        if 0xC2 ≤ a.toNat && a.toNat < 0xE0 && isTail b then
          CodePoint.ofNat ((a.toNat - 0xC0) * 0x40 + tailBits b) :: decodeAll rest'
        else
          match rest' with
          | c :: rest'' =>
            if 0xE0 ≤ a.toNat && a.toNat < 0xF0 && isTail b && isTail c then
              CodePoint.ofNat ((a.toNat - 0xE0) * 0x1000 + tailBits b * 0x40 + tailBits c)
                :: decodeAll rest''
            else
              match rest'' with
              | d :: rest''' =>
                if 0xF0 ≤ a.toNat && isTail b && isTail c && isTail d then
                  CodePoint.ofNat
                      ((a.toNat - 0xF0) * 0x40000 + tailBits b * 0x1000 + tailBits c * 0x40
                        + tailBits d)
                    :: decodeAll rest'''
                else decodeAll (b :: c :: d :: rest''')
              | [] => []
          | [] => []
      | [] => []

/-- The reason in words. -/
def Defect.reason : Defect → String
  | .invalidStart => "invalid start byte"
  | .invalidContinuation => "invalid continuation byte"
  | .unexpectedEnd => "unexpected end of data"

end ScriptHost.Utf8
