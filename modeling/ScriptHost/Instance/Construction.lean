import ScriptHost.File.ScriptText
import ScriptHost.Instance.Capability
import ScriptHost.Instance.FunctionNames

/-!
# Building an instance

An instance is built in a fixed order: the bridge and the applier are evaluated on the fresh
engine, the functions that are already there are noted, the built-in modules are registered, and
the script's top level runs.
-/

namespace ScriptHost

/-- The options of an instance. -/
structure Config where
  registerBuiltins : HostValue
  entrypoint : HostValue
  loggerName : HostValue

namespace Config

/-- The options unless others are given. -/
def standard : Config :=
  { registerBuiltins := .bool true, entrypoint := .ofString "main", loggerName := .ofString "jsvm" }

/-- The options with one of them replaced. -/
def setOption (c : Config) (name : Text) (v : HostValue) : Except Fault Config :=
  if name = "register_builtins" then .ok { c with registerBuiltins := v }
  else if name = "entrypoint" then .ok { c with entrypoint := v }
  else if name = "logger_name" then .ok { c with loggerName := v }
  else
    .error (.worded .type
      ("RuntimeConfig.__init__() got an unexpected keyword argument '" ++ name ++ "'"))

/-- The options with some of them replaced. -/
def ofOptions (options : List (Text × HostValue)) : Except Fault Config :=
  options.foldlM (fun c e => c.setOption e.1 e.2) standard

end Config

/-- The logger that a name stands for; the empty name stands for the outermost logger. -/
def loggerCalled (name : Text) : Text := if name.isEmpty then "root" else name

/-- The name of the logger that a value asks for. -/
def loggerNamed (v : HostValue) : Except Fault Text :=
  if !v.isTruthy then .ok (loggerCalled [])
  else
    match v.text? with
    | some t => .ok (loggerCalled t)
    | none => .error (.worded .type "A logger name must be a string")

/-- What an instance is built from, its script apart. -/
structure Blueprint where
  config : Config
  /-- The logger, unless the configuration names it. -/
  logger : Option Text
  /-- The modules that count as built in, by name. -/
  builtins : List (HostValue × HostValue)

/-- The methods of a module as host functions. -/
def moduleOf (typeName : String) (members : List (String × Behaviour)) : HostValue :=
  .object typeName .absent
    (.method (.ofFields (members.map fun (name, b) => (name, .function 0 b)))) none

/-- The built-in modules. -/
def builtinModules : List (String × HostValue) :=
  [("console", moduleOf "ConsoleModule" (ConsoleMethod.all.map fun m => (m.memberName, .console m))),
    ("regex", moduleOf "RegexModule" (RegexMethod.all.map fun m => (m.memberName, .regex m)))]

/-- The names of the members of a built-in module, in order. -/
def builtinMembers (name : String) : List HostValue :=
  match builtinModules.find? fun e => e.1 == name with
  | some (_, m) =>
    match m.exportsAttribute with
    | .method (.dict es) => es.map (·.1)
    | _ => []
  | none => []

namespace Blueprint

/-- The blueprint with nothing special. -/
def standard : Blueprint :=
  { config := .standard, logger := none,
    builtins := builtinModules.map fun (name, m) => (.ofString name, m) }

end Blueprint

namespace Interpreter

variable {E V : Type}

/-- The text that defines the bridge: a function of the engine that calls a host function over
JSON text, and throws what the host raises. -/
def bridgeSource : Text :=
  Text.ofString <| "\n"
    ++ "globalThis.__jsvm_bridge = function (raw) \x7b\n"
    ++ "    return function () \x7b\n"
    ++ "        var reply = JSON.parse(raw(JSON.stringify(Array.prototype.slice.call(arguments))));\n"
    ++ "        if (Object.prototype.hasOwnProperty.call(reply, \"error\")) \x7b\n"
    ++ "            throw new Error(reply.error);\n"
    ++ "        \x7d\n"
    ++ "        return reply.value;\n"
    ++ "    \x7d;\n"
    ++ "\x7d;\n"

/-- The logger of constructions. -/
def constructionLogger : Text := "jsvm.runtime.vm"

/-- Prepares a fresh engine. -/
def prepare (X : Interpreter E V) : HostM E V Unit := do
  let _ ← X.run bridgeSource
  let applier ← X.run applierSource
  HostM.modifyInstance fun i => { i with applier }
  let functions ← X.globalFunctions
  HostM.modifyInstance fun i => { i with baseline := functions.filterMap (·.text?) }

/-- Registers modules as built in. -/
def registerBuiltins (X : Interpreter E V) : List (HostValue × HostValue) → HostM E V Unit
  | [] => pure ()
  | (name, m) :: rest => do
    tryCatch (X.register name m) fun f =>
      match f with
      | .failure g =>
        if g.kind = .moduleRegistration then
          throw (.failure (.initialization ("register built-in modules failed - " ++ g.message)
            (some f.cls)))
        else throw f
      | f => throw f
    X.registerBuiltins rest

/-- Runs the top level of the script. -/
def runTopLevel (X : Interpreter E V) (script : Text) : HostM E V Unit := do
  tryCatch (do let _ ← X.run script) fun f => do
    if f.cls.isScript || f.cls.isValue then
      let reason ← HostM.wording f
      HostM.record constructionLogger .debug ("Script top level failed: " ++ reason)
      throw (.failure (.scriptExecution ("script execution failed - " ++ reason) (some f.cls)))
    else throw f

/-- Builds an instance up to the script's top level; gives the text that is to run there. -/
def setUp (X : Interpreter E V) (plan : Blueprint) (script : HostValue) : HostM E V Text := do
  let source ← HostM.ofExcept (ScriptText.ofValue script)
  let logger ←
    match plan.logger with
    | some name => pure (loggerCalled name)
    | none => HostM.ofExcept (loggerNamed plan.config.loggerName)
  HostM.modifyInstance fun i =>
    { i with script := source, logger, entrypoint := plan.config.entrypoint }
  X.prepare
  if plan.config.registerBuiltins.isTruthy then X.registerBuiltins plan.builtins
  return source.text?.getD []

/-- Builds an instance for a script. -/
def construct (X : Interpreter E V) (plan : Blueprint) (script : HostValue) :
    HostM E V Unit := do
  X.runTopLevel (← X.setUp plan script)
  let names := (← HostM.registry).names
  HostM.record constructionLogger .debug
    ("Runtime ready with modules " ++ Failure.shown (.list names))

/-- Builds an instance for the script in a file. A failure names the file. -/
def constructFrom (X : Interpreter E V) (plan : Blueprint) (files : FileTree)
    (path : HostValue) : HostM E V Unit := do
  let script ← HostM.ofExcept (ScriptText.load files path ScriptText.defaultEncoding)
  tryCatch (X.construct plan (.str script)) fun f =>
    match f with
    | .failure g => throw (.failure (g.withPath path))
    | f => throw f

/-- Calls the entrypoint. -/
def runEntrypoint (X : Interpreter E V) (args : HostValue) : HostM E V HostValue := do
  X.invoke (← HostM.instance_).entrypoint args

end Interpreter

end ScriptHost
