import ScriptHost.Text.Utf16
import ScriptHost.Text.Utf8

/-!
# Character encodings

The encodings in which a script file may be stored.  `Charset.ofName?` finds one by any of its
names, and `Charset.decode` reads bytes in it or says what is wrong with them.
-/

namespace ScriptHost

/-- A character encoding. -/
inductive Charset
  | utf8
  /-- UTF-8 with a byte order mark that is dropped. -/
  | utf8Marked
  | ascii
  | latin1
  /-- UTF-16 in the byte order of its mark, least byte first without one. -/
  | utf16
  | utf16Little
  | utf16Big
deriving DecidableEq

namespace Charset

/-- The names of each encoding. -/
def names : List (Charset × List String) :=
  [(utf8, ["utf-8", "utf8", "u8", "utf", "cp65001"]),
    (utf8Marked, ["utf-8-sig", "utf8-sig"]),
    (ascii, ["ascii", "us-ascii", "646", "ansi-x3.4-1968", "iso646-us", "us"]),
    (latin1, ["latin-1", "latin1", "latin", "l1", "iso-8859-1", "iso8859-1", "iso8859", "8859",
      "cp819"]),
    (utf16, ["utf-16", "utf16", "u16"]),
    (utf16Little, ["utf-16-le", "utf-16le", "unicodelittleunmarked"]),
    (utf16Big, ["utf-16-be", "utf-16be", "unicodebigunmarked"])]

/-- A name in lower case, with hyphens for underscores and blanks. -/
def normalName (t : Text) : String :=
  String.ofList <| t.map fun c =>
    let a := c.ascii
    if a == '_' || a == ' ' then '-' else a.toLower

/-- The encoding of a name. -/
def ofName? (t : Text) : Option Charset :=
  (names.find? fun entry => entry.2.contains (normalName t)).map (·.1)

/-- The text of bytes below 128. -/
def decodeAscii : List UInt8 → Except String Text
  | [] => .ok []
  | b :: rest =>
    if b.toNat < 128 then return CodePoint.ofNat b.toNat :: (← decodeAscii rest)
    else .error "ordinal not in range(128)"

/-- The text of pairs of bytes; `unit` joins a pair. -/
def decodePairs (unit : UInt8 → UInt8 → Nat) : List UInt8 → Except String Text
  | [] => .ok []
  | [_] => .error "truncated data"
  | a :: b :: rest =>
    let u := unit a b
    if 0xD800 ≤ u && u < 0xDC00 then
      match rest with
      | [] => .error "unexpected end of data"
      | [_] => .error "unexpected end of data"
      | c :: d :: rest =>
        let v := unit c d
        if 0xDC00 ≤ v && v < 0xE000 then
          return Utf16.joinPair u.toUInt16 v.toUInt16 :: (← decodePairs unit rest)
        else .error "illegal UTF-16 surrogate"
    else if 0xDC00 ≤ u && u < 0xE000 then .error "illegal encoding"
    else return CodePoint.ofNat u :: (← decodePairs unit rest)

/-- A pair of bytes, least first. -/
def littleUnit (a b : UInt8) : Nat := a.toNat + 256 * b.toNat

/-- A pair of bytes, greatest first. -/
def bigUnit (a b : UInt8) : Nat := 256 * a.toNat + b.toNat

/-- The text of bytes in UTF-8. -/
def decodeUtf8 (bytes : List UInt8) : Except String Text :=
  match Utf8.decode bytes with
  | .ok t => .ok t
  | .error e => .error e.defect.reason

/-- The text of bytes in an encoding, or the reason why there is none. -/
def decode (charset : Charset) (bytes : List UInt8) : Except String Text :=
  match charset with
  | utf8 => decodeUtf8 bytes
  | utf8Marked =>
    match bytes with
    | 0xEF :: 0xBB :: 0xBF :: rest => decodeUtf8 rest
    | _ => decodeUtf8 bytes
  | ascii => decodeAscii bytes
  | latin1 => .ok (bytes.map fun b => CodePoint.ofNat b.toNat)
  | utf16 =>
    match bytes with
    | 0xFF :: 0xFE :: rest => decodePairs littleUnit rest
    | 0xFE :: 0xFF :: rest => decodePairs bigUnit rest
    | _ => decodePairs littleUnit bytes
  | utf16Little => decodePairs littleUnit bytes
  | utf16Big => decodePairs bigUnit bytes

end Charset

end ScriptHost
