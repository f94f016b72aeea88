import ScriptHost.Json.Writer

/-!
# Built-in module: console

Script logging.  Texts are logged as they are, any other value in canonical JSON, with blanks
between them.
-/

namespace ScriptHost

/-- The level of a log record. -/
inductive LogLevel
  | debug | info | warning | error
deriving DecidableEq, Inhabited

namespace LogLevel

/-- The name of a level. -/
def name : LogLevel → String
  | debug => "DEBUG"
  | info => "INFO"
  | warning => "WARNING"
  | error => "ERROR"

/-- The order of the levels. -/
def rank : LogLevel → Nat
  | debug => 10
  | info => 20
  | warning => 30
  | error => 40

end LogLevel

/-- A log record. -/
structure LogRecord where
  logger : Text
  level : LogLevel
  message : Text
deriving DecidableEq

namespace ConsoleMethod

/-- The level at which a method logs. -/
def level : ConsoleMethod → LogLevel
  | log | info => .info
  | debug => .debug
  | warn => .warning
  | error => .error

end ConsoleMethod

namespace Console

/-- The text of one logged value. -/
def part (v : HostValue) : Except Fault Text :=
  match v with
  | .str t => .ok t
  | .strMember t => .ok t
  | _ => Json.write Json.canonical v

/-- The texts of logged values. -/
def parts : List HostValue → Except Fault (List Text)
  | [] => .ok []
  | v :: rest => do return (← part v) :: (← parts rest)

/-- The text of logged values, with blanks between them. -/
def format (args : List HostValue) : Except Fault Text := return Text.joinWith " " (← parts args)

end Console

end ScriptHost
