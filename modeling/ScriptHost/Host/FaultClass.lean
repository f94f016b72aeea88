/-!
# Classes of faults

Every fault a host call can end in has a class, and classes stand in a small hierarchy: whoever
handles a class handles the classes below it.  The nine classes of the runtime itself form a
family of their own.
-/

namespace ScriptHost

/-- The runtime's own failures. -/
inductive FailureKind
  /-- A failure of no special kind. -/
  | general
  /-- A script path is missing, a directory, or a special file. -/
  | notRegularFile
  /-- A script file could not be opened, read or decoded. -/
  | unreadable
  /-- A built-in module could not be registered during construction. -/
  | initialization
  /-- A capability could not be bound into the script's globals. -/
  | moduleRegistration
  /-- A script could not be parsed or its top level threw. -/
  | scriptExecution
  /-- Nothing is bound under the requested function name. -/
  | functionNotFound
  /-- A binding exists but is no function. -/
  | notExportable
  /-- A script function faulted while it ran. -/
  | functionRuntime
deriving DecidableEq, Inhabited

namespace FailureKind

/-- The class name that answers and reports show. -/
def className : FailureKind → String
  | general => "JSVMError"
  | notRegularFile => "NotRegularFileError"
  | unreadable => "IOReadError"
  | initialization => "InitializationError"
  | moduleRegistration => "ModuleRegistrationError"
  | scriptExecution => "ScriptExecutionError"
  | functionNotFound => "FunctionNotFoundError"
  | notExportable => "ExportError"
  | functionRuntime => "FunctionRuntimeError"

/-- The stable code of a failure. -/
def code : FailureKind → String
  | general => "JSVM_ERROR"
  | notRegularFile => "NOT_REGULAR_FILE"
  | unreadable => "IO_READ"
  | initialization => "INITIALIZATION"
  | moduleRegistration => "MODULE_REGISTRATION"
  | scriptExecution => "SCRIPT_EXECUTION"
  | functionNotFound => "FUNCTION_NOT_FOUND"
  | notExportable => "EXPORT"
  | functionRuntime => "FUNCTION_RUNTIME"

/-- All failure kinds. -/
def all : List FailureKind :=
  [general, notRegularFile, unreadable, initialization, moduleRegistration, scriptExecution,
    functionNotFound, notExportable, functionRuntime]

/-- The kind with a given class name. -/
def ofClassName? (name : String) : Option FailureKind := all.find? fun k => k.className == name

end FailureKind

/-- The class of a fault. -/
inductive FaultClass
  | exception
  | missingAttribute
  | decode
  | encode
  | fileNotFound
  | index
  | jsonSyntax
  | key
  | lookup
  | notADirectory
  | operatingSystem
  | overflow
  | pattern
  | recursion
  | script
  | stackOverflow
  | type
  | value
  | failure (kind : FailureKind)
  /-- A class that only host code uses. -/
  | named (name : String)
deriving DecidableEq, Inhabited

namespace FaultClass

/-- The word that reports use for a class. -/
def name : FaultClass → String
  | exception => "Exception"
  | missingAttribute => "AttributeError"
  | decode => "UnicodeDecodeError"
  | encode => "UnicodeEncodeError"
  | fileNotFound => "FileNotFoundError"
  | index => "IndexError"
  | jsonSyntax => "JSONDecodeError"
  | key => "KeyError"
  | lookup => "LookupError"
  | notADirectory => "NotADirectoryError"
  | operatingSystem => "OSError"
  | overflow => "OverflowError"
  | pattern => "error"
  | recursion => "RecursionError"
  | script => "JSException"
  | stackOverflow => "StackOverflow"
  | type => "TypeError"
  | value => "ValueError"
  | failure kind => kind.className
  | named name => name

/-- The classes with a fixed word. -/
def fixed : List FaultClass :=
  [exception, missingAttribute, decode, encode, fileNotFound, index, jsonSyntax, key, lookup,
    notADirectory, operatingSystem, overflow, recursion, type, value]

/-- The class with a given word. -/
def ofName (word : String) : FaultClass :=
  match fixed.find? fun c => c.name == word with
  | some c => c
  | none => named word

/-- Faults of a wrong value: the class itself, text that no codec takes, and malformed JSON. -/
def isValue : FaultClass → Bool
  | value | decode | encode | jsonSyntax => true
  | named name => name == "UnicodeError" || name == "UnicodeTranslateError"
  | _ => false

/-- Faults of a wrong type. -/
def isType : FaultClass → Bool
  | type => true
  | _ => false

/-- Exceptions of the engine. -/
def isScript : FaultClass → Bool
  | script | stackOverflow => true
  | _ => false

/-- The faults that a registration answers for: wrong types, wrong values and script exceptions. -/
def isRegistrationFault (c : FaultClass) : Bool := c.isType || c.isValue || c.isScript

/-- The runtime's own failures. -/
def isFailure : FaultClass → Bool
  | failure _ => true
  | _ => false

end FaultClass

end ScriptHost
