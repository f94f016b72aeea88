/-!
# Methods of the built-in modules

The two built-in modules, `console` and `regex`, by what their members are called.
-/

namespace ScriptHost

/-- The methods of the console module. -/
inductive ConsoleMethod
  | log | info | debug | warn | error
deriving DecidableEq

namespace ConsoleMethod

/-- All methods, in the order in which the module shows them. -/
def all : List ConsoleMethod := [log, info, debug, warn, error]

/-- The name that scripts use. -/
def memberName : ConsoleMethod → String
  | log => "log"
  | info => "info"
  | debug => "debug"
  | warn => "warn"
  | error => "error"

end ConsoleMethod

/-- The methods of the regex module. -/
inductive RegexMethod
  | test | find | findAll | groups | replace | split
deriving DecidableEq

namespace RegexMethod

/-- All methods, in the order in which the module shows them. -/
def all : List RegexMethod := [test, find, findAll, groups, replace, split]

/-- The name that scripts use. -/
def memberName : RegexMethod → String
  | test => "test"
  | find => "find"
  | findAll => "findAll"
  | groups => "groups"
  | replace => "replace"
  | split => "split"

/-- The name that host code uses. -/
def hostName : RegexMethod → String
  | findAll => "find_all"
  | m => m.memberName

/-- The names of the parameters. -/
def parameters : RegexMethod → List String
  | replace => ["pattern", "text", "replacement"]
  | _ => ["pattern", "text"]

end RegexMethod

end ScriptHost
