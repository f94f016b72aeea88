import ScriptHost.CommandLine.Help
import ScriptHost.Instance.ScriptEngine

/-!
# The command line program

`run` loads a script file and calls one of its functions; `check` loads it and lists its functions.
What the program prints and its exit code are a function of its words and of the files it sees.
-/

namespace ScriptHost.CommandLine

/-- What a run of the program leaves behind. -/
structure Outcome where
  exitCode : Nat
  stdout : Text
  stderr : Text
  /-- A fault that the program does not answer for. -/
  escaped : Option Fault

/-! ## Commands -/

/-- The option for JSON output. -/
def jsonOption : OptionSpec :=
  { short := some 'j', long := "--json-output", takesValue := false, help := "Output as JSON",
    shownDefault := none }

/-- The option that names a function. -/
def functionOption : OptionSpec :=
  { short := some 'f', long := "--func", takesValue := true, help := "Function to call",
    shownDefault := some "main" }

/-- The option that gives one argument. -/
def argumentOption : OptionSpec :=
  { short := some 'a', long := "--arg", takesValue := true,
    help := "Argument as JSON (repeatable)", shownDefault := none }

/-- The option for more log records. -/
def verboseOption : OptionSpec :=
  { short := some 'v', long := "--verbose", takesValue := false,
    help := "Show debug logging, including console.debug output", shownDefault := none }

/-- The command that calls a function. -/
def runCommand : CommandSpec :=
  { name := "run", summary := "Load SCRIPT and call one of its functions."
    options := [functionOption, argumentOption, jsonOption, helpOption]
    argument := some "SCRIPT" }

/-- The command that lists the functions. -/
def checkCommand : CommandSpec :=
  { name := "check", summary := "Load SCRIPT, run its top level and list the functions it defines."
    options := [jsonOption, helpOption], argument := some "SCRIPT" }

/-- The commands, in alphabetical order. -/
def commands : List CommandSpec := [checkCommand, runCommand]

/-- The program as a whole. -/
def program : CommandSpec :=
  { name := "", summary := "jsvm CLI - Embedded JavaScript runtime."
    options := [verboseOption, helpOption], argument := none }

/-! ## Arguments -/

/-- The value of one argument: what it denotes as JSON, or else the text itself. -/
def decodeArgument (raw : Text) : HostValue :=
  match Json.read raw with
  | .ok v => v
  | .error _ => .str raw

/-- The values of arguments. -/
def decodeArguments (raws : List Text) : List HostValue := raws.map decodeArgument

/-! ## Output -/

/-- The least level that the program shows. -/
def threshold (verbose : Bool) : LogLevel := if verbose then .debug else .info

/-- The log as the program shows it, the latest record given first. -/
def shownLog (verbose : Bool) (log : List LogRecord) : Text :=
  let shown := log.reverse.filter fun r => (threshold verbose).rank ≤ r.level.rank
  shown.flatMap fun r =>
    Text.ofString r.level.name ++ " " ++ r.logger ++ ": " ++ r.message ++ "\n"

/-- A text with surrogates written as escapes, as the error stream takes it. -/
def escaped (t : Text) : Text :=
  t.flatMap fun c =>
    if c.isSurrogate then "\\u" ++ (Text.hexDigits 4 c.val).map CodePoint.ofChar else [c]

/-- The report of a failure as JSON or as a line. -/
def failureText (json : Bool) (marker : Text) (members : List (String × HostValue))
    (f : Failure) : Except Fault Text :=
  if json then do return (← Json.writeLines 0 (.ofFields (members ++ f.report))) ++ "\n"
  else .ok (marker ++ f.message ++ "\n")

/-! ## Running -/

/-- What a command leaves: the log, and either output or a fault. -/
structure Effect where
  log : List LogRecord
  result : Except Fault Text

/-- The effect of something done on a fresh instance. -/
def effectOf (body : ScriptEngine.EngineM Text) : Effect :=
  match body ScriptEngine.fresh with
  | .ok t (_, i) => { log := i.log, result := .ok t }
  | .error f (_, i) => { log := i.log, result := .error f }

/-- The outcome of an effect, given how failures are shown. -/
def outcomeOf (verbose : Bool) (showFailure : Failure → Except Fault Text) (e : Effect) :
    Outcome :=
  let log := shownLog verbose e.log
  let fails (f : Fault) : Outcome :=
    { exitCode := 1, stdout := [], stderr := escaped log, escaped := some f }
  match e.result with
  | .ok t =>
    match Utf8.firstSurrogate? t with
    | none => { exitCode := 0, stdout := t, stderr := escaped log, escaped := none }
    | some (position, c) =>
      fails (.loneSurrogate c position ((t.drop position).takeWhile (·.isSurrogate)).length)
  | .error (.failure g) =>
    match showFailure g with
    | .ok t => { exitCode := 1, stdout := [], stderr := escaped (log ++ t), escaped := none }
    | .error f => fails f
  | .error f => fails f

/-- Calls a function of a script file. -/
def runScript (files : FileTree) (path function : Text) (args : List Text) (json : Bool) :
    ScriptEngine.EngineM Text := do
  let X := ScriptEngine.interpreter
  let plan := { Blueprint.standard with config := { Config.standard with entrypoint := .str function } }
  X.constructFrom plan files (.str path)
  let result ← X.runEntrypoint (.list (decodeArguments args))
  let text ←
    if json then
      HostM.ofExcept (Json.writeLines 0 (.ofFields
        [("success", .bool true), ("function", .str function), ("result", result)]))
    else
      match result with
      | .str t => pure t
      | v => HostM.ofExcept (Json.write Json.wire v)
  return text ++ "\n"

/-- Lists the functions of a script file. -/
def checkScript (files : FileTree) (path : Text) (json : Bool) : ScriptEngine.EngineM Text := do
  let X := ScriptEngine.interpreter
  X.constructFrom .standard files (.str path)
  let names ← X.functionNames
  if json then
    let text ← HostM.ofExcept (Json.writeLines 0 (.ofFields
      [("valid", .bool true), ("script", .str path), ("functions", .list (names.map .str))]))
    return text ++ "\n"
  else
    let listed : Text := if names.isEmpty then "(none)" else Text.joinWith ", " names
    return "✓ " ++ path ++ " loaded\n  Functions: " ++ listed ++ "\n"

/-- An answer of the program that ran nothing. -/
def shown (exitCode : Nat) (stdout stderr : Text) : Outcome :=
  { exitCode, stdout, stderr := escaped stderr, escaped := none }

/-- Does what a command is asked for, once its words are read. -/
def perform (files : FileTree) (verbose : Bool) (c : CommandSpec) (p : Parsed) (path : Text) :
    Outcome :=
  let json := p.has "--json-output"
  match FilePath.check (FilePath.ofText path) with
  | .error f => { exitCode := 1, stdout := [], stderr := [], escaped := some f }
  | .ok () =>
    if c.name = "run" then
      let function := ((p.valuesOf "--func").getLast?).getD "main"
      outcomeOf verbose
        (failureText json "Error: " [("success", .bool false), ("function", .str function)])
        (effectOf (runScript files path function (p.valuesOf "--arg") json))
    else
      outcomeOf verbose (failureText json "✗ " [("valid", .bool false)])
        (effectOf (checkScript files path json))

/-- Runs a command with its words. -/
def runCommandWords (files : FileTree) (verbose : Bool) (path : String) (c : CommandSpec)
    (words : List Text) : Outcome :=
  let misused (m : Misuse) : Outcome := shown 2 [] (m.report path c [])
  match parse c.options true words with
  | .error m => misused m
  | .ok p =>
    if p.has "--help" then shown 0 (Text.ofString (helpPage path c [])) []
    else
      match p.allArguments with
      | [] => misused (.argumentMissing (c.argument.getD ""))
      | [script] => perform files verbose c p script
      | _ :: more => misused (.argumentsUnexpected more)

/-- Runs the program under a name, with the words that follow the name. -/
def run (files : FileTree) (name : String) (words : List Text) : Outcome :=
  let page := helpPage name program commands
  let misused (m : Misuse) : Outcome := shown 2 [] (m.report name program commands)
  if words.isEmpty then shown 2 [] (Text.ofString page)
  else
    match parse program.options false words with
    | .error m => misused m
    | .ok p =>
      if p.has "--help" then shown 0 (Text.ofString page) []
      else
        match p.remaining with
        | [] => misused .commandMissing
        | word :: rest =>
          match commands.find? fun c => Text.ofString c.name == word with
          | some c =>
            runCommandWords files (p.has "--verbose") (name ++ " " ++ c.name) c rest
          | none =>
            match parse program.options false (word :: rest) with
            | .error m => misused m
            | .ok q =>
              if q.has "--help" then shown 0 (Text.ofString page) []
              else misused (.noSuchCommand word)

end ScriptHost.CommandLine
