import ScriptHost.Host.Fault

/-!
# Writing JSON

The JSON text of a host value: items after a comma and a blank, a blank after each colon.  A
`Style` says whether other characters than ASCII are escaped and whether keys are sorted.  The
dialect has three words beyond JSON: `NaN`, `Infinity` and `-Infinity`.
-/

namespace ScriptHost.Json

/-- How a text is written. -/
structure Style where
  /-- Escapes every character that is not ASCII. -/
  ascii : Bool
  /-- Writes the entries of an object in the order of their keys. -/
  sorted : Bool

/-- The style of everything that crosses to a script. -/
def wire : Style := { ascii := true, sorted := false }

/-- The style of logged arguments. -/
def canonical : Style := { ascii := false, sorted := true }

/-- The escape of a 16-bit unit. -/
def unitEscape (n : Nat) : Text :=
  ('\\' :: 'u' :: Text.hexDigits 4 n).map CodePoint.ofChar

/-- The escape of a code point by number, as a surrogate pair above U+FFFF. -/
def pointEscape (c : CodePoint) : Text :=
  if c.val < 0x10000 then unitEscape c.val
  else
    let v := c.val - 0x10000
    unitEscape (0xD800 + v / 0x400) ++ unitEscape (0xDC00 + v % 0x400)

/-- One code point inside quotes. -/
def writePoint (asciiOnly : Bool) (c : CodePoint) : Text :=
  match c.ascii with
  | '"' => "\\\""
  | '\\' => "\\\\"
  | '\n' => "\\n"
  | '\r' => "\\r"
  | '\t' => "\\t"
  | '\x08' => "\\b"
  | '\x0c' => "\\f"
  | _ =>
    if c.val < 0x20 then pointEscape c
    else if asciiOnly && 0x7E < c.val then pointEscape c
    else [c]

/-- A text in quotes. -/
def writeString (asciiOnly : Bool) (t : Text) : Text :=
  CodePoint.ofChar '"' :: t.flatMap (writePoint asciiOnly) ++ [CodePoint.ofChar '"']

/-- An integer in decimal. -/
def writeInt (i : Int) : Except Fault Text :=
  match decimalOf? i with
  | some t => .ok t
  | none => .error .integerTooLong

/-- A float. -/
def writeFloat (x : Float) : Text := Text.ofString (Decimal.jsonStyle.write x)

/-- A truth value. -/
def writeBool (b : Bool) : Text := if b then "true" else "false"

/-- The text of a key before it is quoted. -/
def keyText : HostValue → Except Fault Text
  | .str s | .strMember s => .ok s
  | .float x => .ok (writeFloat x)
  | .bool b => .ok (writeBool b)
  | .none => .ok "null"
  | .int i | .intMember i => writeInt i
  | v => .error (.keyNotSerializable v.typeName)

/-- The number that a key stands for in comparisons, as a fraction. -/
def keyNumber? : HostValue → Option Float
  | .bool b => some (if b then 1.0 else 0.0)
  | .int i | .intMember i => some (Binary.ofInt i)
  | .float x => some x
  | _ => none

/-- Whether a key comes before another one, for keys that have an order. -/
def keyLt? (a b : HostValue) : Option Bool :=
  match a.text?, b.text? with
  | some s, some t => some (Text.lt s t)
  | none, none =>
    match keyNumber? a, keyNumber? b with
    | some x, some y => some (x < y)
    | _, _ => none
  | _, _ => none

/-- Checks that each key has an order with the one before it. -/
def checkOrder : List HostValue → Except Fault Unit
  | a :: b :: rest =>
    match keyLt? b a with
    | some _ => checkOrder (b :: rest)
    | none => .error (.unorderable b.typeName a.typeName)
  | _ => .ok ()

/-- Entries in the order of their keys; entries of one key keep their order. -/
def sortEntries {α : Type} (entries : List (HostValue × α)) : List (HostValue × α) :=
  entries.mergeSort fun a b => !(keyLt? b.1 a.1).getD false

/-- The items of a container between brackets. -/
def bracketed (opening closing : String) (items : List Text) : Text :=
  opening ++ Text.joinWith ", " items ++ closing

mutual

/-- The JSON text of a host value. -/
def write (style : Style) : HostValue → Except Fault Text
  | .none => .ok "null"
  | .bool b => .ok (writeBool b)
  | .int i | .intMember i => writeInt i
  | .float x => .ok (writeFloat x)
  | .str s | .strMember s => .ok (writeString style.ascii s)
  | .list xs | .tuple xs => do return bracketed "[" "]" (← writeItems style xs)
  | .dict es => do
    if style.sorted then checkOrder (es.map (·.1))
    let written := writeEntries style es
    let ordered := if style.sorted then sortEntries written else written
    return bracketed "\x7b" "\x7d" (← ordered.mapM (·.2))
  | v => .error (.notSerializable v.typeName)

/-- The texts of the items of a list. -/
def writeItems (style : Style) : List HostValue → Except Fault (List Text)
  | [] => .ok []
  | v :: rest => do return (← write style v) :: (← writeItems style rest)

/-- The texts of the entries of an object, each with its key. -/
def writeEntries (style : Style) :
    List (HostValue × HostValue) → List (HostValue × Except Fault Text)
  | [] => []
  | (k, v) :: rest =>
    (k, do return writeString style.ascii (← keyText k) ++ ": " ++ (← write style v))
      :: writeEntries style rest

end

/-- A line break and the indentation of a depth, two blanks a level. -/
def lineBreak (depth : Nat) : Text :=
  CodePoint.ofChar '\n' :: List.replicate (2 * depth) (CodePoint.ofChar ' ')

/-- The items of a container on lines of their own, or an empty pair of brackets. -/
def bracketedLines (opening closing : String) (depth : Nat) (items : List Text) : Text :=
  if items.isEmpty then opening ++ closing
  else opening ++ lineBreak (depth + 1) ++ Text.joinWith ("," ++ lineBreak (depth + 1)) items
    ++ lineBreak depth ++ closing

mutual

/-- The JSON text of a host value over several lines, in ASCII. -/
def writeLines (depth : Nat) : HostValue → Except Fault Text
  | .list xs | .tuple xs => do
    return bracketedLines "[" "]" depth (← writeLineItems (depth + 1) xs)
  | .dict es => do
    return bracketedLines "\x7b" "\x7d" depth (← writeLineEntries (depth + 1) es)
  | v => write wire v

/-- The texts of the items of a list, each at a given depth. -/
def writeLineItems (depth : Nat) : List HostValue → Except Fault (List Text)
  | [] => .ok []
  | v :: rest => do return (← writeLines depth v) :: (← writeLineItems depth rest)

/-- The texts of the entries of an object, each at a given depth. -/
def writeLineEntries (depth : Nat) : List (HostValue × HostValue) → Except Fault (List Text)
  | [] => .ok []
  | (k, v) :: rest => do
    return (writeString true (← keyText k) ++ ": " ++ (← writeLines depth v))
      :: (← writeLineEntries depth rest)

end

end ScriptHost.Json
