import ScriptHost.Builtin.Method
import ScriptHost.Decimal.Binary
import ScriptHost.Host.FaultClass
import ScriptHost.Text.CodePoint

/-!
# Host values

The values that host code hands to the runtime and gets back: plain data, enumeration members,
records with tagged fields, objects with capabilities, and functions.
-/

namespace ScriptHost

mutual

/-- A host value. -/
inductive HostValue
  | none
  | bool (b : Bool)
  | int (i : Int)
  | float (x : Float)
  | str (s : Text)
  /-- A member of an enumeration whose members are integers. -/
  | intMember (i : Int)
  /-- A member of an enumeration whose members are texts. -/
  | strMember (s : Text)
  /-- A member of any other enumeration. -/
  | member (v : HostValue)
  /-- An enumeration itself, with the value of its only member. -/
  | enumeration (v : HostValue)
  | list (items : List HostValue)
  | tuple (items : List HostValue)
  | dict (entries : List (HostValue × HostValue))
  /-- A read-only view of a dictionary. -/
  | mappingView (entries : List (HostValue × HostValue))
  | set (items : List HostValue)
  | bytes (bs : List UInt8)
  | complex (re im : Int)
  /-- A record: attribute name, script tag and value of each field. -/
  | record (fields : List (Text × HostValue × HostValue))
  /-- A record type: attribute name and script tag of each field, with a default value. -/
  | recordType (fields : List (Text × HostValue × HostValue))
  /-- An object with a script image, exported members, and a result when it is called. -/
  | object (typeName : String) (toScript exports : Attribute) (call : Option HostValue)
  /-- A class, with the name of its own type. -/
  | classObject (metaName name : String) (toScript exports : Attribute)
  | function (id : Nat) (behaviour : Behaviour)

/-- An attribute of an object. -/
inductive Attribute
  | absent
  /-- Present, but not callable. -/
  | plain (v : HostValue)
  /-- A method without arguments that returns a value. -/
  | method (result : HostValue)
  /-- A method that raises. -/
  | failing (cls : FaultClass) (args : List HostValue)
  /-- A method looked up on its class, which cannot be called without an object. -/
  | unbound (name : String)

/-- What a host function does. -/
inductive Behaviour
  /-- Lists its arguments. -/
  | args
  /-- Counts its arguments. -/
  | count
  /-- Returns its only argument. -/
  | first
  /-- Adds two arguments. -/
  | add
  /-- Sorts what its argument iterates over. -/
  | keys
  /-- Names the type of its argument. -/
  | type
  /-- Takes one argument and an optional second one. -/
  | default
  /-- Takes nothing and returns nothing. -/
  | none
  /-- Counts its own calls. -/
  | counter
  /-- Returns its argument, except on the second call. -/
  | failSecond
  /-- Returns a fixed value. -/
  | returns (v : HostValue)
  /-- Raises. -/
  | raises (cls : FaultClass) (args : List HostValue)
  /-- Calls a script function with its own arguments. -/
  | runFunction (name : HostValue)
  /-- Registers a module. -/
  | register (name value : HostValue)
  /-- Logs its arguments. -/
  | console (m : ConsoleMethod)
  /-- Matches a pattern. -/
  | regex (m : RegexMethod)

end

namespace HostValue

instance : Inhabited HostValue := ⟨.none⟩

/-- The name of a value's type. -/
def typeName : HostValue → String
  | none => "NoneType"
  | bool _ => "bool"
  | int _ => "int"
  | float _ => "float"
  | str _ => "str"
  | intMember _ | strMember _ | member _ => "Level"
  | enumeration _ => "EnumType"
  | list _ => "list"
  | tuple _ => "tuple"
  | dict _ => "dict"
  | mappingView _ => "mappingproxy"
  | set _ => "set"
  | bytes _ => "bytes"
  | complex _ _ => "complex"
  | record _ => "Record"
  | recordType _ => "type"
  | object name _ _ _ => name
  | .classObject metaName _ _ _ => metaName
  | function _ _ => "function"

/-- The text of a value that is a text: a string, or a member of an enumeration of texts. -/
def text? : HostValue → Option Text
  | str s | strMember s => some s
  | _ => Option.none

/-- The class name of a value that is a class. -/
def className? : HostValue → Option String
  | enumeration _ => some "Level"
  | recordType _ => some "Record"
  | .classObject _ name _ _ => some name
  | _ => Option.none

/-- Whether a value is a class. -/
def isClass (v : HostValue) : Bool := v.className?.isSome

/-- Whether a value can be called. -/
def isCallable : HostValue → Bool
  | function _ _ => true
  | object _ _ _ call => call.isSome
  | v => v.isClass

/-- The entries of a mapping. -/
def entries? : HostValue → Option (List (HostValue × HostValue))
  | dict es | mappingView es => some es
  | _ => Option.none

/-- The items of a list or tuple. -/
def items? : HostValue → Option (List HostValue)
  | list xs | tuple xs => some xs
  | _ => Option.none

/-- A dictionary with text keys. -/
def ofFields (entries : List (String × HostValue)) : HostValue :=
  .dict (entries.map fun e => (.str (Text.ofString e.1), e.2))

/-- A text value from a string. -/
def ofString (s : String) : HostValue := .str (Text.ofString s)

/-- The attribute that gives a value its script image. -/
def toScriptAttribute : HostValue → Attribute
  | object _ toScript _ _ => toScript
  | .classObject _ _ toScript _ => toScript
  | _ => .absent

/-- The attribute that gives a module its members. -/
def exportsAttribute : HostValue → Attribute
  | object _ _ exports _ => exports
  | .classObject _ _ _ exports => exports
  | _ => .absent

/-- The value under a text key, the first one that matches. -/
def lookup? (key : String) : HostValue → Option HostValue
  | dict es =>
    (es.find? fun e => match e.1 with
      | str s => s == Text.ofString key
      | _ => false).map (·.2)
  | _ => Option.none

/-- Puts a value under a text key: in place if the key is there, else at the end. -/
def insertEntry (entries : List (Text × HostValue)) (key : Text) (v : HostValue) :
    List (Text × HostValue) :=
  match entries with
  | [] => [(key, v)]
  | (k, w) :: rest => if k = key then (k, v) :: rest else (k, w) :: insertEntry rest key v

/-- The number that a value is, if it is one. -/
def number? : HostValue → Option (Int ⊕ Float)
  | bool b => some (.inl (if b then 1 else 0))
  | int i | intMember i => some (.inl i)
  | float x => some (.inr x)
  | _ => Option.none

/-- Whether two numbers are equal. -/
def sameNumber : Int ⊕ Float → Int ⊕ Float → Bool
  | .inl i, .inl j => i == j
  | .inl i, .inr x | .inr x, .inl i => Binary.toInt? x == some i
  | .inr x, .inr y => x == y

mutual

/-- Whether two values are the same key of a dictionary. Numbers of one value are one key. -/
def sameKey : HostValue → HostValue → Bool
  | none, none => true
  | str s, str t | str s, strMember t | strMember s, str t | strMember s, strMember t => s == t
  | tuple xs, tuple ys => sameKeys xs ys
  | bytes bs, bytes cs => bs == cs
  | v, w =>
    match v.number?, w.number? with
    | some a, some b => sameNumber a b
    | _, _ => false

/-- Whether two lists of values agree key by key. -/
def sameKeys : List HostValue → List HostValue → Bool
  | [], [] => true
  | v :: vs, w :: ws => sameKey v w && sameKeys vs ws
  | _, _ => false

end

/-- Puts a value under a key: in place if the key is there, else at the end. -/
def insertKey (entries : List (HostValue × HostValue)) (key v : HostValue) :
    List (HostValue × HostValue) :=
  match entries with
  | [] => [(key, v)]
  | (k, w) :: rest => if sameKey k key then (k, v) :: rest else (k, w) :: insertKey rest key v

/-- The entries of a dictionary that is given entry by entry. -/
def distinctEntries (entries : List (HostValue × HostValue)) : List (HostValue × HostValue) :=
  entries.foldl (fun acc e => insertKey acc e.1 e.2) []

end HostValue

namespace Attribute

instance : Inhabited Attribute := ⟨.absent⟩

/-- Whether the attribute is there. -/
def isPresent : Attribute → Bool
  | absent => false
  | _ => true

/-- Whether the attribute is there and can be called. -/
def isCallable : Attribute → Bool
  | absent => false
  | plain v => v.isCallable
  | _ => true

end Attribute

namespace Behaviour

/-- The name under which a function reports its arity faults. -/
def functionName : Behaviour → String
  | args => "args"
  | count => "count"
  | first => "first"
  | add => "add"
  | keys => "keys"
  | type => "type"
  | default => "default"
  | none => "none"
  | counter => "counter"
  | failSecond => "fail_second"
  | returns _ => "returns"
  | raises _ _ => "raises"
  | runFunction _ => "run_func"
  | register _ _ => "register"
  | console m => "ConsoleModule." ++ m.memberName
  | regex m => "RegexModule." ++ m.hostName

/-- The names of the required parameters, the number of optional ones, and whether any further
arguments are taken. -/
def parameters : Behaviour → List String × Nat × Bool
  | first => (["x"], 0, false)
  | add => (["a", "b"], 0, false)
  | keys => (["obj"], 0, false)
  | type => (["x"], 0, false)
  | default => (["a"], 1, false)
  | none => ([], 0, false)
  | counter => ([], 0, false)
  | failSecond => (["x"], 0, false)
  | _ => ([], 0, true)

end Behaviour

end ScriptHost
