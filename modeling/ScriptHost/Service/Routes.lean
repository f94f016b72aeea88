import ScriptHost.Instance.ScriptEngine
import ScriptHost.Service.Message

/-!
# The routes of the service

Scripts come in request bodies, and each request has an instance of its own.
-/

namespace ScriptHost.Service

/-- The version of the library. -/
def version : String := "1.0.0"

/-- What the service answers. -/
inductive Route
  | description
  | health
  | readiness
  | run
  | check
deriving DecidableEq

namespace Route

/-- All routes. -/
def all : List Route := [description, health, readiness, run, check]

/-- The path of a route. -/
def path : Route → String
  | description => "/"
  | health => "/api/v1/health"
  | readiness => "/api/v1/health/ready"
  | run => "/api/v1/run"
  | check => "/api/v1/check"

/-- The method of a route. -/
def verb : Route → String
  | run | check => "POST"
  | _ => "GET"

/-- The route with exactly a path. -/
def withPath? (path : Text) : Option Route := all.find? fun r => Text.ofString r.path == path

/-- A path without the slashes at its end. -/
def withoutSlashes (path : Text) : Text :=
  (path.reverse.dropWhile fun c => c.ascii == '/').reverse

/-- The route of a path. Slashes at the end lead to the path without them. -/
def ofPath? (path : Text) : Option Route :=
  (withPath? path).or (if path = "/" then none else withPath? (withoutSlashes path))

end Route

/-- A response with the log of what was done for it, the latest record first. -/
structure Reply where
  response : Response
  log : List LogRecord

namespace Reply

/-- A reply without a log. -/
def quiet (response : Response) : Reply := { response, log := [] }

end Reply

/-- The names of the built-in modules. -/
def moduleNames : List HostValue := builtinModules.map fun e => .ofString e.1

/-- What the service says of itself. -/
def description : HostValue :=
  .ofFields
    [("name", .ofString "jsvm API"), ("version", .ofString version), ("docs", .ofString "/docs"),
      ("health", .ofString Route.health.path),
      ("endpoints", .ofFields
        [("run", .ofString Route.run.path), ("check", .ofString Route.check.path)]),
      ("builtin_modules", .list moduleNames)]

/-- What the service says of its health. -/
def healthReport : HostValue :=
  .ofFields [("status", .ofString "healthy"), ("version", .ofString version),
    ("service", .ofString "jsvm-api")]

/-- Does something on a fresh instance; gives its outcome and the log. -/
def onFresh (body : ScriptEngine.EngineM HostValue) : Except Fault HostValue × List LogRecord :=
  match body ScriptEngine.fresh with
  | .ok v (_, i) => (.ok v, i.log)
  | .error f (_, i) => (.error f, i.log)

/-- Builds an instance for a script. -/
def load (script : HostValue) : ScriptEngine.EngineM Unit :=
  ScriptEngine.interpreter.construct .standard script

/-- Whether the engine evaluates a small script. -/
def readiness : Reply :=
  let (outcome, log) := onFresh do
    load (.ofString "function main() \x7b return 1 \x7d")
    ScriptEngine.interpreter.runEntrypoint .none
  let report (ready : Bool) : Reply :=
    { response := .carrying (.ofFields
        [("ready", .bool ready), ("checks", .ofFields [("runtime", .bool ready)])]), log }
  match outcome with
  | .ok v => report (HostValue.sameKey v (.int 1))
  | .error (.failure _) => report false
  | .error _ => { response := .internalError, log }

/-- The fields of a request to run a script. -/
def runFields : List FieldSpec :=
  [{ name := "script", type := .text, default := none },
    { name := "function", type := .text, default := some (.ofString "main") },
    { name := "args", type := .list, default := some (.list []) }]

/-- The fields of a request to check a script. -/
def checkFieldSpecs : List FieldSpec := [{ name := "script", type := .text, default := none }]

/-- Runs a function of a script; `elapsed` is the time it took. -/
def runRequest (elapsed : Float) (script function args : HostValue) : Reply :=
  let (outcome, log) := onFresh do
    load script
    ScriptEngine.interpreter.invoke function args
  let report (success : Bool) (result error errorType : HostValue) : Response :=
    .carrying (.ofFields
      [("success", .bool success), ("function", function), ("execution_time_ms", .float elapsed),
        ("result", result), ("error", error), ("error_type", errorType)])
  match outcome with
  | .ok v => { response := report true v .none .none, log }
  | .error (.failure g) =>
    let record : LogRecord :=
      { logger := "api.routes.run", level := .info
        message := "Run of " ++ Failure.shown function ++ " failed: " ++ g.message }
    { response := report false .none (.str g.message) (.ofString g.kind.className),
      log := record :: log }
  | .error _ => { response := .internalError, log }

/-- Checks a script and lists its functions. -/
def checkRequest (script : HostValue) : Reply :=
  let (outcome, log) := onFresh do
    load script
    return .list ((← ScriptEngine.interpreter.functionNames).map .str)
  let report (valid : Bool) (functions error errorType : HostValue) : Response :=
    .carrying (.ofFields
      [("valid", .bool valid), ("functions", functions), ("error", error),
        ("error_type", errorType)])
  match outcome with
  | .ok names => { response := report true names .none .none, log }
  | .error (.failure g) =>
    { response := report false (.list []) (.str g.message) (.ofString g.kind.className), log }
  | .error _ => { response := .internalError, log }

/-- The reply of a route to a request with the right method. -/
def Route.reply (route : Route) (elapsed : Float) (r : Request) : Reply :=
  match route with
  | description => .quiet (.carrying Service.description)
  | health => .quiet (.carrying healthReport)
  | readiness => Service.readiness
  | run =>
    match r.readBody.fields runFields with
    | .ok [script, function, args] => runRequest elapsed script function args
    | .ok _ => .quiet .internalError
    | .error refusal => .quiet refusal
  | check =>
    match r.readBody.fields checkFieldSpecs with
    | .ok [script] => checkRequest script
    | .ok _ => .quiet .internalError
    | .error refusal => .quiet refusal

/-- The reply to a request that asks for no permission. -/
def dispatch (elapsed : Float) (r : Request) : Reply :=
  match Route.ofPath? r.location with
  | none => .quiet (.detail 404 "Not Found")
  | some route =>
    if r.verb = Text.ofString route.verb then route.reply elapsed r
    else .quiet (.detail 405 "Method Not Allowed")

end ScriptHost.Service
