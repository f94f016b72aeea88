import ScriptHost.Service.Routes

/-!
# Exchanges with other origins

A request from another origin learns whether that origin is admitted.  Before it sends a request
proper, such an origin may ask for permission.
-/

namespace ScriptHost.Service

/-- The methods that other origins may use. -/
def admittedMethods : List Text := ["GET", "POST"]

/-- What has become of a request. -/
structure Exchange where
  response : Response
  /-- The origin that may read the response, if the request names its own. -/
  allowedOrigin : Option Text
  /-- The log, the latest record first. -/
  log : List LogRecord

/-- The origin that a permission is given to. -/
def permittedOrigin (origins : List Text) (origin : Text) : Option Text :=
  if origins.contains "*" then some "*"
  else if origins.contains origin then some origin
  else none

/-- The origin that may read a response. A request that carries cookies is answered to its own
origin only. -/
def readingOrigin (origins : List Text) (r : Request) (origin : Text) : Option Text :=
  if origins.contains "*" && (r.header? "cookie").isSome then some origin
  else permittedOrigin origins origin

/-- The answer to an origin that asks for permission to use a method. -/
def permission (origins : List Text) (origin method : Text) : Response :=
  let originFailures : List Text :=
    if (permittedOrigin origins origin).isSome then [] else ["origin"]
  let methodFailures : List Text := if admittedMethods.contains method then [] else ["method"]
  let failures := originFailures ++ methodFailures
  if failures.isEmpty then { status := 200, content := .text "OK" }
  else
    { status := 400, content := .text ("Disallowed CORS " ++ Text.joinWith ", " failures) }

/-- A response as it arrives: one to a request for the head alone has no content. -/
def received (r : Request) (response : Response) : Response :=
  if r.verb = ("HEAD" : Text) then { response with content := .text [] } else response

/-- The exchange that a request begins; `elapsed` is the time that running a script takes. -/
def exchange (origins : List Text) (elapsed : Float) (r : Request) : Exchange :=
  match r.header? "origin" with
  | none =>
    let reply := dispatch elapsed r
    { response := received r reply.response, allowedOrigin := none, log := reply.log }
  | some origin =>
    match r.header? "access-control-request-method" with
    | some method =>
      if r.verb = ("OPTIONS" : Text) then
        { response := permission origins origin method
          allowedOrigin := permittedOrigin origins origin, log := [] }
      else ordinary origin
    | none => ordinary origin
where
  /-- The exchange that begins with a request proper from an origin. -/
  ordinary (origin : Text) : Exchange :=
    let reply := dispatch elapsed r
    { response := received r reply.response
      allowedOrigin :=
        if reply.response.status = 500 then none else readingOrigin origins r origin
      log := reply.log }

/-- The log of the service's start, the latest record first. -/
def startLog : List LogRecord :=
  let (_, log) := onFresh do
    load (.ofString "function main() \x7b\x7d")
    return .none
  let names := builtinModules.map fun e => Text.ofString e.1
  { logger := "api.main", level := .info
    message := "jsvm API ready (engine warm, built-in modules: "
      ++ Text.joinWith ", " names ++ ")" } :: log

/-- The log of the service's stop. -/
def stopLog : List LogRecord :=
  [{ logger := "api.main", level := .info, message := "jsvm API stopped" }]

/-- An exchange between start and stop of the service. -/
def Exchange.within (e : Exchange) : Exchange := { e with log := stopLog ++ e.log ++ startLog }

end ScriptHost.Service
