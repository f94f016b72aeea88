import ScriptHost.Builtin.Regex
import ScriptHost.Host.Order
import ScriptHost.Json.Reader

/-!
# Calls of host functions

`Behaviour.run` is what a host function does with its arguments once their number has been checked.
`HostFunction.reply` is the same call over the wire: arguments come as JSON text, and the reply is
JSON text with either a value or the text of a fault.
-/

namespace ScriptHost

namespace Behaviour

/-- Checks the number of arguments. -/
def checkArity (b : Behaviour) (given : Nat) : Except Fault Unit :=
  let (required, optional, variadic) := b.parameters
  if given < required.length then
    .error (.missingArguments b.functionName (required.drop given))
  else if !variadic && required.length + optional < given then
    .error (.excessArguments b.functionName required.length optional given)
  else .ok ()

/-- Whether a function needs the runtime it was registered with. -/
def needsRuntime : Behaviour → Bool
  | runFunction _ | register _ _ | console _ => true
  | _ => false

/-- What a function does with its arguments; `calls` counts its calls, this one included. -/
def run (b : Behaviour) (calls : Nat) (arguments : List HostValue) : Except Fault HostValue := do
  b.checkArity arguments.length
  let one := arguments.headD .none
  let two := (arguments.drop 1).headD .none
  match b with
  | args => return .list arguments
  | count => return .int arguments.length
  | first => return one
  | add => HostValue.sum one two
  | keys => return .list (← HostValue.sorted (← one.iterate))
  | type => return .ofString one.typeName
  | default => return .list [one, if arguments.length < 2 then .int 10 else two]
  | none => return .none
  | counter => return .int calls
  | failSecond =>
    if calls = 2 then throw (.raised .value [.ofString "second call"])
    return one
  | returns v => return v
  | raises cls values => throw (.raised cls values)
  | regex m => m.call arguments
  | runFunction _ | register _ _ | console _ => return .none

end Behaviour

/-- How often each host function has been called. -/
structure CallCounts where
  counts : List (Nat × Nat)

namespace CallCounts

/-- No call so far. -/
def empty : CallCounts := { counts := [] }

/-- The number of calls of a function. -/
def get (c : CallCounts) (id : Nat) : Nat := ((c.counts.find? (·.1 == id)).map (·.2)).getD 0

/-- One more call of a function. -/
def increment (c : CallCounts) (id : Nat) : CallCounts :=
  { counts := (id, c.get id + 1) :: c.counts.filter (·.1 != id) }

end CallCounts

/-- A call of a function that needs no runtime. A call with a wrong number of arguments does not
count. -/
def CallCounts.call (c : CallCounts) (id : Nat) (b : Behaviour) (arguments : List HostValue) :
    Except Fault HostValue × CallCounts :=
  match b.checkArity arguments.length with
  | .error f => (.error f, c)
  | .ok () =>
    let c := c.increment id
    (b.run (c.get id) arguments, c)

namespace HostFunction

/-- The name under which a callable value reports faults of its argument list. -/
def reportName : HostValue → String
  | .function _ (.console m) => "jsvm.modules.console." ++ (Behaviour.console m).functionName
  | .function _ (.regex m) => "jsvm.modules.regex." ++ (Behaviour.regex m).functionName
  | .function _ b => b.functionName
  | v => v.className?.getD v.typeName

/-- The arguments that a payload denotes: nothing for an empty one, else the items of its value. -/
def arguments (function payload : HostValue) : Except Fault (List HostValue) := do
  if !payload.isTruthy then return []
  let v ←
    match payload with
    | .bytes bs =>
      match Utf8.decode bs with
      | .ok t => Json.read t
      | .error e => throw (.notUtf8 e)
    | _ =>
      match payload.text? with
      | some t => Json.read t
      | none => throw (.jsonNotText payload.typeName)
  match v.iterate with
  | .ok items => return items
  | .error _ => throw (.argumentsNotIterable (reportName function) v.typeName)

/-- The text of a reply with one member. -/
def replyText (key : String) (v : HostValue) : Except Fault Text :=
  Json.write Json.wire (.ofFields [(key, v)])

/-- What a fault is reported as: its message, or its class where that is empty. -/
def faultText (f : Fault) : Text :=
  let message := f.message
  if message.isEmpty then Text.ofString f.cls.name else message

/-- The reply for the outcome of a call, and the fault it reports, if it reports one. -/
def reply (outcome : Except Fault HostValue) : Text × Option Fault :=
  let written : Except Fault Text := do replyText "value" (← (← outcome).image)
  match written with
  | .ok t => (t, none)
  | .error f =>
    match replyText "error" (.str (faultText f)) with
    | .ok t => (t, some f)
    | .error g => (g.message, some f)

end HostFunction

end ScriptHost
