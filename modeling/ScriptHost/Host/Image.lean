import ScriptHost.Json.Writer

/-!
# Script images of host values

`HostValue.image` turns a host value into plain data, by the first rule that fits: data stays as it
is, an enumeration member gives its value, an object with a script method gives that method's
result, a record shows its tagged fields, and mappings, lists and tuples go through member by
member.  `HostValue.Representable` is the same contract as a predicate.
-/

namespace ScriptHost

/-- A character that opens a plain identifier: an ASCII letter, the underscore, the dollar sign. -/
def isPlainStart (c : CodePoint) : Bool :=
  (0x41 ≤ c.val && c.val ≤ 0x5A) || (0x61 ≤ c.val && c.val ≤ 0x7A) || c.val == 0x5F
    || c.val == 0x24

/-- A character that continues a plain identifier. -/
def isPlainPart (c : CodePoint) : Bool := isPlainStart c || c.isDigit

/-- Plain identifier characters up to the end, or up to a line feed that ends the text. -/
def isPlainTail : Text → Bool
  | [] => true
  | [c] => isPlainPart c || c.val == 0x0A
  | c :: rest => isPlainPart c && isPlainTail rest

/-- Whether a text is a plain identifier; one line feed may follow it. -/
def isIdentifierText : Text → Bool
  | [] => false
  | c :: rest => isPlainStart c && isPlainTail rest

namespace HostValue

/-- Whether a value is a text that is a plain identifier. -/
def isIdentifier (v : HostValue) : Bool :=
  match v.text? with
  | some t => isIdentifierText t
  | Option.none => false

/-- The script name that a field's tag declares: the tag up to its first comma, if that is an
identifier. -/
def tagName? (tag : HostValue) : Except Fault (Option Text) :=
  match tag.text? with
  | some t =>
    let name := t.takeWhile (· != CodePoint.ofChar ',')
    .ok (if isIdentifierText name then some name else Option.none)
  | Option.none => .error (.tagNotText tag)

/-- The attributes of fields with the script names they declare, in field order. -/
def declaredNames : List (Text × HostValue × HostValue) → Except Fault (List (Text × Text))
  | [] => .ok []
  | (field, tag, _) :: rest => do
    let name? ← tagName? tag
    let names ← declaredNames rest
    return match name? with
      | some name => (field, name) :: names
      | Option.none => names

/-- The script names of a record or record type, by attribute. -/
def fieldNames : HostValue → Except Fault (List (Text × Text))
  | record fields | recordType fields => declaredNames fields
  | _ => .error .notRecord

/-- The result of calling an attribute without arguments, unless it calls back into host code. -/
def callAttribute : Attribute → Except Fault HostValue
  | .method result => .ok result
  | .failing cls args => .error (.raised cls args)
  | .unbound name => .error (.unboundMethod name)
  | .plain (function _ (.returns v)) => .ok v
  | .plain (function _ (.raises cls args)) => .error (.raised cls args)
  | .plain (object _ _ _ (some v)) => .ok v
  | .plain v => .ok v
  | .absent => .ok .none

mutual

/-- The plain data that a script sees of a host value. -/
def image : HostValue → Except Fault HostValue
  | none => .ok none
  | bool b => .ok (bool b)
  | int i => .ok (int i)
  | float x => .ok (float x)
  | str s => .ok (str s)
  | intMember i => .ok (intMember i)
  | strMember s => .ok (strMember s)
  | member v => image v
  | enumeration v => .error (.unrepresentable (enumeration v).typeName)
  | list xs => do return list (← imageItems xs)
  | tuple xs => do return list (← imageItems xs)
  | dict es => do return dict (← imageEntries es)
  | mappingView es => do return dict (← imageEntries es)
  | set xs => .error (.unrepresentable (set xs).typeName)
  | bytes bs => .error (.unrepresentable (bytes bs).typeName)
  | complex re im => .error (.unrepresentable (complex re im).typeName)
  | record fields => do
    let _ ← declaredNames fields
    let named ← imageFields fields
    return dict ((named.foldl (fun acc e => insertEntry acc e.1 e.2) []).map fun e =>
      (str e.1, e.2))
  | recordType fields => .error (.unrepresentable (recordType fields).typeName)
  | object name toScript exports call => imageOf (object name toScript exports call).typeName toScript
  | classObject metaName name toScript exports =>
    imageOf (classObject metaName name toScript exports).typeName toScript
  | function id behaviour => .error (.unrepresentable (function id behaviour).typeName)

/-- The image of what a script method gives; a value without one has no image. -/
def imageOf (typeName : String) : Attribute → Except Fault HostValue
  | .method result => image result
  | .failing cls args => .error (.raised cls args)
  | .unbound name => .error (.unboundMethod name)
  | .plain _ => .error (.unrepresentable typeName)
  | .absent => .error (.unrepresentable typeName)

/-- The images of the items of a list. -/
def imageItems : List HostValue → Except Fault (List HostValue)
  | [] => .ok []
  | v :: rest => do return (← image v) :: (← imageItems rest)

/-- The images of the entries of a mapping; every key is a text. -/
def imageEntries : List (HostValue × HostValue) → Except Fault (List (HostValue × HostValue))
  | [] => .ok []
  | (k, v) :: rest =>
    if k.text?.isSome then do return (k, ← image v) :: (← imageEntries rest)
    else .error (.keyNotText k.typeName)

/-- The images of the tagged fields of a record, by script name, in field order. -/
def imageFields : List (Text × HostValue × HostValue) → Except Fault (List (Text × HostValue))
  | [] => .ok []
  | (_, tag, v) :: rest => do
    match ← tagName? tag with
    | some name => return (name, ← image v) :: (← imageFields rest)
    | Option.none => imageFields rest

end

/-- The JSON text of a value's image: a script expression that denotes it. -/
def literal (v : HostValue) : Except Fault Text := do Json.write Json.wire (← image v)

mutual

/-- Plain data: what every image consists of. -/
def isData : HostValue → Bool
  | none | bool _ | int _ | float _ | str _ | intMember _ | strMember _ => true
  | list xs => allData xs
  | dict es => allEntriesData es
  | _ => false

/-- Whether all items are plain data. -/
def allData : List HostValue → Bool
  | [] => true
  | v :: rest => isData v && allData rest

/-- Whether all keys are texts and all values plain data. -/
def allEntriesData : List (HostValue × HostValue) → Bool
  | [] => true
  | (k, v) :: rest => k.text?.isSome && isData v && allEntriesData rest

end

mutual

/-- The declared contract: the values that have a script image. -/
def isRepresentable : HostValue → Bool
  | none | bool _ | int _ | float _ | str _ | intMember _ | strMember _ => true
  | member v => isRepresentable v
  | list xs | tuple xs => allRepresentable xs
  | dict es | mappingView es => allEntriesRepresentable es
  | record fields => allFieldsRepresentable fields
  | object _ (.method result) _ _ => isRepresentable result
  | classObject _ _ (.method result) _ => isRepresentable result
  | _ => false

/-- Whether all items are representable. -/
def allRepresentable : List HostValue → Bool
  | [] => true
  | v :: rest => isRepresentable v && allRepresentable rest

/-- Whether all keys are texts and all values representable. -/
def allEntriesRepresentable : List (HostValue × HostValue) → Bool
  | [] => true
  | (k, v) :: rest => k.text?.isSome && isRepresentable v && allEntriesRepresentable rest

/-- Whether all fields whose tag declares a name have representable values. -/
def allFieldsRepresentable : List (Text × HostValue × HostValue) → Bool
  | [] => true
  | (_, tag, v) :: rest =>
    (match tag.text? with
      | some t =>
        !isIdentifierText (t.takeWhile (· != CodePoint.ofChar ',')) || isRepresentable v
      | Option.none => true)
    && allFieldsRepresentable rest

end

/-- The items that iterating over a value gives. -/
def iterate : HostValue → Except Fault (List HostValue)
  | list xs | tuple xs | set xs => .ok xs
  | dict es | mappingView es => .ok (es.map (·.1))
  | str s | strMember s => .ok (s.map fun c => str [c])
  | bytes bs => .ok (bs.map fun b => int b.toNat)
  | enumeration v => .ok [member v]
  | v => .error (.notIterable v.typeName)

/-- What stands for the arguments of a call that has none. -/
def placeholder : HostValue := .str "undefined"

/-- The argument list of a call: nothing, or nothing in it, becomes the placeholder alone. -/
def normalizeArguments (args : HostValue) : Except Fault (List HostValue) :=
  if args.isTruthy then args.iterate else .ok [placeholder]

end HostValue

end ScriptHost
