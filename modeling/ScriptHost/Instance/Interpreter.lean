import ScriptHost.Builtin.Console
import ScriptHost.Instance.Registry

/-!
# Instances and the engines they drive

An `Instance` is what the host keeps for one embedded script: its registry, its log, and what it
was built from.  An `Interpreter` is all that an instance asks of a script engine.  Both are
independent of what the engine is: `E` is the state of the engine, and `V` is how the host refers
to an object of it.
-/

namespace ScriptHost

/-- A value that has come out of an engine: plain data, or a reference to an object of the
engine. -/
inductive Passed (V : Type)
  | plain (v : HostValue)
  | handle (h : V)

/-- What the host keeps for one embedded script. -/
structure Instance (V : Type) where
  registry : Registry
  counts : CallCounts
  /-- The log, the latest record first. -/
  log : List LogRecord
  /-- The name of the logger that scripts log to. -/
  logger : Text
  /-- The function that a run calls. -/
  entrypoint : HostValue
  script : HostValue
  /-- The global functions that were there before the script. -/
  baseline : List Text
  /-- The function of the engine that applies a function to a list. -/
  applier : Passed V

namespace Instance

/-- An instance before it is built. -/
def blank (V : Type) : Instance V :=
  { registry := .empty, counts := .empty, log := [], logger := "jsvm", entrypoint := .none,
    script := .none, baseline := [], applier := .plain .none }

end Instance

/-- What the host does with an engine and an instance. -/
abbrev HostM (E V α : Type) := EStateM Fault (E × Instance V) α

namespace HostM

variable {E V α : Type}

/-- The instance as it is. -/
def instance_ : HostM E V (Instance V) := return (← get).2

/-- Changes the instance. -/
def modifyInstance (f : Instance V → Instance V) : HostM E V Unit := modify fun (e, i) => (e, f i)

/-- The registry as it is. -/
def registry : HostM E V Registry := return (← get).2.registry

/-- Changes the registry. -/
def modifyRegistry (f : Registry → Registry) : HostM E V Unit :=
  modifyInstance fun i => { i with registry := f i.registry }

/-- A pure outcome. -/
def ofExcept (r : Except Fault α) : HostM E V α :=
  match r with
  | .ok a => pure a
  | .error f => throw f

/-- Adds a record to the log. -/
def record (logger : Text) (level : LogLevel) (message : Text) : HostM E V Unit :=
  modifyInstance fun i => { i with log := { logger, level, message } :: i.log }

/-- Goes on in another way after a fault of the engine; any other fault stays. -/
def orOnScriptFault (body : HostM E V α) (other : Fault → HostM E V α) : HostM E V α :=
  tryCatch body fun f => if f.cls.isScript then other f else throw f

/-- A value in a message. -/
def show_ (v : HostValue) : HostM E V Text :=
  match v.display with
  | some t => pure t
  | none => throw .integerTooLong

/-- The wording of a fault, where a further failure or the log needs it. -/
def wording (f : Fault) : HostM E V Text :=
  match f.message? with
  | some t => pure t
  | none => throw .integerTooLong

end HostM

/-- A script engine, as an instance sees it. -/
structure Interpreter (E V : Type) where
  /-- The value of a script text. -/
  evaluate : Text → HostM E V (Passed V)
  /-- Calls a function of the engine. -/
  call : V → List (Passed V) → HostM E V (Passed V)
  /-- The JSON text of an object of the engine, if it has one. -/
  dataText : V → HostM E V (Option Text)
  /-- Puts the host function with a number under its hidden global. -/
  addFunction : Nat → HostM E V Unit

/-- Refuses a text that an engine does not take: one with surrogates, or with the zero
character. -/
def checkCode (t : Text) : Except Fault Unit :=
  match Utf8.firstSurrogate? t with
  | some (position, c) =>
    .error (.loneSurrogate c position ((t.drop position).takeWhile (·.isSurrogate)).length)
  | none => if t.any (·.val == 0) then .error .embeddedNull else .ok ()

namespace Interpreter

variable {E V : Type}

/-- Evaluates a text if the engine takes it. -/
def run (X : Interpreter E V) (code : Text) : HostM E V (Passed V) := do
  HostM.ofExcept (checkCode code)
  X.evaluate code

/-- The host value of what came out of the engine. An object goes through its JSON text; one
without a JSON text is nothing. -/
def toHost (X : Interpreter E V) : Passed V → HostM E V HostValue
  | .plain v => pure v
  | .handle h => do
    match ← X.dataText h with
    | none => return .none
    | some t => HostM.ofExcept (Json.read t)

/-- The script value of a host value: data that is no object stays with the host. -/
def ofHost (X : Interpreter E V) (v : HostValue) : HostM E V (Passed V) := do
  let image ← HostM.ofExcept v.image
  match image with
  | .list _ | .dict _ => X.run ("(" ++ (← HostM.ofExcept (Json.write Json.wire image)) ++ ")")
  | _ => return .plain image

/-- The script list of host values. -/
def listOfHost (X : Interpreter E V) (items : List HostValue) : HostM E V (Passed V) := do
  X.run ("(" ++ (← HostM.ofExcept (HostValue.literal (.list items))) ++ ")")

end Interpreter

end ScriptHost
