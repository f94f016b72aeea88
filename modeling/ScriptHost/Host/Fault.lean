import ScriptHost.Host.Display
import ScriptHost.Text.Utf8

/-!
# Faults

What a host operation can end in instead of a value.  A `Failure` is one of the runtime's own
failures; a `Fault` is that or anything else, by cause.  `Fault.cls` is its class and
`Fault.message` its wording.
-/

namespace ScriptHost

/-- One of the runtime's own failures. Path, name and reason are host values, since host code may
build a failure from any of them. -/
structure Failure where
  kind : FailureKind
  /-- The message without the path. -/
  body : HostValue
  path : HostValue
  name : Option HostValue
  reason : Option HostValue
  /-- The class of the fault that led to this failure. -/
  cause : Option FaultClass

namespace Failure

/-- The display of a value, empty for one that has none. -/
def shown (v : HostValue) : Text := v.display.getD []

/-- The script path is no regular file. -/
def notRegularFile (path : Text) (cause : Option FaultClass) : Failure :=
  { kind := .notRegularFile, body := .ofString "illegal js file: not a regular file",
    path := .str path, name := none, reason := none, cause }

/-- The script file could not be opened, read or decoded. -/
def unreadable (path : Text) (reason : HostValue) (cause : Option FaultClass) : Failure :=
  { kind := .unreadable, body := .str ("failed to read script - " ++ shown reason),
    path := .str path, name := none, reason := some reason, cause }

/-- A built-in module could not be registered. -/
def initialization (message : Text) (cause : Option FaultClass) : Failure :=
  { kind := .initialization, body := .str message, path := .none, name := none, reason := none,
    cause }

/-- A capability could not be bound. -/
def moduleRegistration (name reason : HostValue) (cause : Option FaultClass) : Failure :=
  { kind := .moduleRegistration
    body := .str ("module <" ++ shown name ++ "> registration failed - " ++ shown reason)
    path := .none, name := some name, reason := some reason, cause }

/-- The script could not be parsed or its top level threw. -/
def scriptExecution (message : Text) (cause : Option FaultClass) : Failure :=
  { kind := .scriptExecution, body := .str message, path := .none, name := none, reason := none,
    cause }

/-- Nothing is bound under a name. -/
def functionNotFound (name : HostValue) : Failure :=
  { kind := .functionNotFound, body := .str ("js function <" ++ shown name ++ "> not be found")
    path := .none, name := some name, reason := none, cause := none }

/-- A binding is no function. -/
def notExportable (name reason : HostValue) (cause : Option FaultClass) : Failure :=
  { kind := .notExportable
    body := .str ("export js function <" ++ shown name ++ "> error - " ++ shown reason)
    path := .none, name := some name, reason := some reason, cause }

/-- A script function faulted. -/
def functionRuntime (name message : HostValue) (cause : Option FaultClass) : Failure :=
  { kind := .functionRuntime
    body := .str ("function " ++ shown name ++ " run failed - " ++ shown message)
    path := .none, name := some name, reason := some message, cause }

/-- The failure with the script file it originated from. -/
def withPath (f : Failure) (path : HostValue) : Failure := { f with path := .str (shown path) }

/-- The message: the path first, when there is one. A body that is no text has no message of its
own. -/
def message? (f : Failure) : Option Text :=
  if f.path.isTruthy then some (shown f.path ++ ": " ++ shown f.body) else f.body.text?

/-- The message, empty where there is none. -/
def message (f : Failure) : Text := f.message?.getD []

/-- The report of a failure: class, code, message and path. -/
def report (f : Failure) : List (String × HostValue) :=
  [("error_type", .ofString f.kind.className), ("code", .ofString f.kind.code),
    ("message", .str f.message), ("path", f.path)]

end Failure

/-- What a host operation ends in instead of a value. -/
inductive Fault
  /-- Host code raised with some arguments. -/
  | raised (cls : FaultClass) (args : List HostValue)
  /-- One of the runtime's own failures. -/
  | failure (f : Failure)
  /-- A value has no script image. -/
  | unrepresentable (typeName : String)
  /-- A mapping has a key that is no text. -/
  | keyNotText (typeName : String)
  /-- A member of a capability has a name that is no text. -/
  | memberNotText (typeName : String)
  /-- A record field carries a tag that is no text. -/
  | tagNotText (tag : HostValue)
  /-- Fields were asked of a value that is no record. -/
  | notRecord
  /-- A class was given where an object is wanted. -/
  | classCapability (name : String)
  /-- A method was called on a class. -/
  | unboundMethod (name : String)
  /-- A value has no JSON form. -/
  | notSerializable (typeName : String)
  /-- A key has no JSON form. -/
  | keyNotSerializable (typeName : String)
  /-- Two values have no order. -/
  | unorderable (left right : String)
  /-- An integer has too many digits to be written. -/
  | integerTooLong
  /-- A run of digits is too long to be read. -/
  | digitsTooMany (count : Nat)
  /-- A JSON text is malformed: what is wrong, and where. -/
  | jsonSyntax (problem : String) (line column position : Nat)
  /-- JSON was read from something that is no text. -/
  | jsonNotText (typeName : String)
  /-- A function was called with too few arguments. -/
  | missingArguments (function : String) (parameters : List String)
  /-- A function was called with too many arguments. -/
  | excessArguments (function : String) (required optional given : Nat)
  /-- Arguments came from a value that has no items. -/
  | argumentsNotIterable (function typeName : String)
  /-- Items were asked of a value that has none. -/
  | notIterable (typeName : String)
  /-- A script text is no text. -/
  | scriptNotText (typeName : String)
  /-- A text for the engine holds the zero character. -/
  | embeddedNull
  /-- A text with surrogates has no UTF-8 form: the first run of them, its first point, its place
  and its length. -/
  | loneSurrogate (point : CodePoint) (position length : Nat)
  /-- Bytes are no UTF-8. -/
  | notUtf8 (e : Utf8.DecodeError)
  /-- The engine raised. -/
  | script (message : Text)
  /-- The engine raised because calls nest too deep. -/
  | stackOverflow (message : Text)
  /-- The engine refused to take a function. -/
  | functionNotAdded
  /-- The engine takes no argument of this type. -/
  | unsupportedArgument (typeName : String)
  /-- Anything else, with its wording. -/
  | worded (cls : FaultClass) (message : Text)

namespace Fault

/-- The class of a fault. -/
def cls : Fault → FaultClass
  | raised c _ | worded c _ => c
  | failure f => .failure f.kind
  | unrepresentable _ | keyNotText _ | memberNotText _ | notRecord | classCapability _
  | unboundMethod _ | notSerializable _ | keyNotSerializable _ | unorderable _ _
  | jsonNotText _ | missingArguments _ _ | excessArguments _ _ _ _ | argumentsNotIterable _ _
  | notIterable _ | scriptNotText _ | functionNotAdded | unsupportedArgument _ => .type
  | tagNotText (.bytes _) => .type
  | tagNotText _ => .missingAttribute
  | integerTooLong | digitsTooMany _ | embeddedNull => .value
  | jsonSyntax _ _ _ _ => .jsonSyntax
  | loneSurrogate _ _ _ => .encode
  | notUtf8 _ => .decode
  | script _ => .script
  | stackOverflow _ => .stackOverflow

/-- The message of a fault that host code raised, unless its arguments cannot be shown. A missing
key is shown in quotes. -/
def raisedMessage? (cls : FaultClass) (args : List HostValue) : Option Text :=
  match args with
  | [] => some []
  | [v] => if cls == .key then v.describe else v.display
  | _ => (HostValue.tuple args).describe

/-- The number of things in words, with the noun in the right number. -/
def counted (n : Nat) (noun : String) : String :=
  Nat.repr n ++ " " ++ noun ++ (if n = 1 then "" else "s")

/-- The end of an enumeration of three or more quoted names. -/
def proseTail : List String → String
  | [] => ""
  | [a] => "and '" ++ a ++ "'"
  | a :: rest => "'" ++ a ++ "', " ++ proseTail rest

/-- Quoted names joined as in prose. -/
def prose : List String → String
  | [] => ""
  | [a] => "'" ++ a ++ "'"
  | [a, b] => "'" ++ a ++ "' and '" ++ b ++ "'"
  | names => proseTail names

/-- A code point by number, as decoding messages show it. -/
def shownPoint (c : CodePoint) : String := String.ofList ((Text.numberEscape c).map (·.ascii))

/-- The wording of a fault, empty for one that cannot be worded. -/
def message : Fault → Text
  | raised c args => (raisedMessage? c args).getD []
  | failure f => f.message
  | unrepresentable t => Text.ofString ("cannot represent " ++ t ++ " as a script value")
  | keyNotText t => Text.ofString ("object keys must be str, got " ++ t)
  | memberNotText t => Text.ofString ("member names must be str, got " ++ t)
  | tagNotText (.bytes _) => "a bytes-like object is required, not 'str'"
  | tagNotText v =>
    Text.ofString <|
      match v.className? with
      | some name => "type object '" ++ name ++ "' has no attribute 'split'"
      | none => "'" ++ v.typeName ++ "' object has no attribute 'split'"
  | notRecord => "must be called with a dataclass type or instance"
  | classCapability name =>
    Text.ofString ("cannot register class " ++ name ++ ", register an instance")
  | unboundMethod name =>
    Text.ofString (name ++ "() missing 1 required positional argument: 'self'")
  | notSerializable t => Text.ofString ("Object of type " ++ t ++ " is not JSON serializable")
  | keyNotSerializable t =>
    Text.ofString ("keys must be str, int, float, bool or None, not " ++ t)
  | unorderable l r =>
    Text.ofString ("'<' not supported between instances of '" ++ l ++ "' and '" ++ r ++ "'")
  | integerTooLong =>
    Text.ofString ("Exceeds the limit (4300 digits) for integer string conversion; "
      ++ "use sys.set_int_max_str_digits() to increase the limit")
  | digitsTooMany count =>
    Text.ofString ("Exceeds the limit (4300 digits) for integer string conversion: value has "
      ++ Nat.repr count ++ " digits; use sys.set_int_max_str_digits() to increase the limit")
  | jsonSyntax problem line column position =>
    Text.ofString (problem ++ ": line " ++ Nat.repr line ++ " column " ++ Nat.repr column
      ++ " (char " ++ Nat.repr position ++ ")")
  | jsonNotText t =>
    Text.ofString ("the JSON object must be str, bytes or bytearray, not " ++ t)
  | missingArguments f names =>
    Text.ofString (f ++ "() missing " ++ counted names.length "required positional argument"
      ++ ": " ++ prose names)
  | excessArguments f required optional given =>
    let most := required + optional
    let taken :=
      if optional = 0 then counted most "positional argument"
      else "from " ++ Nat.repr required ++ " to " ++ counted most "positional argument"
    Text.ofString (f ++ "() takes " ++ taken ++ " but " ++ Nat.repr given
      ++ (if given = 1 then " was given" else " were given"))
  | argumentsNotIterable f t =>
    Text.ofString (f ++ "() argument after * must be an iterable, not " ++ t)
  | notIterable t => Text.ofString ("'" ++ t ++ "' object is not iterable")
  | scriptNotText t => Text.ofString ("script must be str, got " ++ t)
  | embeddedNull => "embedded null character"
  | loneSurrogate c position length =>
    let what :=
      if length ≤ 1 then "character '" ++ shownPoint c ++ "' in position " ++ Nat.repr position
      else "characters in position " ++ Nat.repr position ++ "-"
        ++ Nat.repr (position + length - 1)
    Text.ofString ("'utf-8' codec can't encode " ++ what ++ ": surrogates not allowed")
  | notUtf8 e =>
    let what :=
      if e.length = 1 then
        "byte 0x" ++ String.ofList (Text.hexDigits 2 e.byte.toNat) ++ " in position "
          ++ Nat.repr e.start
      else "bytes in position " ++ Nat.repr e.start ++ "-" ++ Nat.repr (e.start + e.length - 1)
    Text.ofString ("'utf-8' codec can't decode " ++ what ++ ": " ++ e.defect.reason)
  | script m | stackOverflow m => m
  | functionNotAdded => "Failed adding the callable."
  | unsupportedArgument t =>
    Text.ofString ("Unsupported type when converting a Python object to quickjs: " ++ t ++ ".")
  | worded _ m => m

/-- The wording of a fault, unless it cannot be worded: what host code raised may hold an integer
that is too long to be written. -/
def message? : Fault → Option Text
  | raised c args => raisedMessage? c args
  | f => some f.message

/-- A fault as the text `Class: message`. -/
def classAndMessage (f : Fault) : Text := Text.ofString f.cls.name ++ ": " ++ f.message

end Fault

end ScriptHost
