import ScriptHost.Host.Fault

/-!
# File paths

A path is a sequence of names, relative to the working directory unless it starts at the root.
Empty names and single dots are dropped when a path is read; double dots are kept.
-/

namespace ScriptHost

/-- A file path. -/
structure FilePath where
  /-- The leading slashes: none for a relative path. -/
  root : Text
  names : List Text
deriving DecidableEq

namespace FilePath

/-- The names between the slashes of a text, empty ones and single dots left out. -/
def namesIn (t : Text) : List Text :=
  (Text.splitOn '/' t).filter fun name => !name.isEmpty && name != [CodePoint.ofChar '.']

/-- The path that a text denotes. Exactly two leading slashes are kept as they are. -/
def ofText (t : Text) : FilePath :=
  let root : Text :=
    match t with
    | a :: rest =>
      if a.ascii == '/' then
        match rest with
        | b :: more => if b.ascii == '/' && !Text.startsWith more "/" then "//" else "/"
        | [] => "/"
      else []
    | [] => []
  { root, names := namesIn t }

/-- The text of a path; the working directory itself shows as a dot. -/
def toText (p : FilePath) : Text :=
  let joined := p.root ++ Text.joinWith "/" p.names
  if joined.isEmpty then "." else joined

/-- The path that a value denotes. -/
def ofValue (v : HostValue) : Except Fault FilePath :=
  match v with
  | .str t => .ok (ofText t)
  | .strMember _ => .ok (ofText (Failure.shown v))
  | .bytes _ =>
    .error (.worded .type
      "argument should be a str object or an os.PathLike object returning str, not <class 'bytes'>")
  | _ =>
    .error (.worded .type
      (Text.ofString ("expected str, bytes or os.PathLike object, not " ++ v.typeName)))

/-- A code point that stands for a byte that is no UTF-8. -/
def isEscapedByte (c : CodePoint) : Bool := 0xDC80 ≤ c.val && c.val ≤ 0xDCFF

/-- The first surrogate that stands for no byte, with its position and the length of the run of
surrogates that it opens. -/
def unencodable? (position : Nat) : Text → Option (CodePoint × Nat × Nat)
  | [] => none
  | c :: rest =>
    if c.isSurrogate && !isEscapedByte c then
      some (c, position, 1 + (rest.takeWhile (·.isSurrogate)).length)
    else unencodable? (position + 1) rest

-- The sum of a list starts at the numeral `0`, whatever other zeros there are.
attribute [local instance (1100)] Zero.ofOfNat0

/-- The number of bytes of a name. -/
def byteLength (t : Text) : Nat :=
  (t.map fun c => if isEscapedByte c then 1 else (Utf8.encodePoint c).length).sum

/-- Refuses a path that cannot be handed to the file system. -/
def check (p : FilePath) : Except Fault Unit := do
  let t := p.toText
  match unencodable? 0 t with
  | some (c, position, length) => throw (.loneSurrogate c position length)
  | none => pure ()
  if t.any (·.val == 0) then throw (.worded .value "embedded null byte")

end FilePath

end ScriptHost
