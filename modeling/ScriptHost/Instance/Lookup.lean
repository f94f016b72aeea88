import ScriptHost.Instance.Interpreter

/-!
# Looking up functions

A name is looked up afresh for each call.  An identifier is looked up as a variable, which covers
lexical bindings and globals; any other name, and an identifier that cannot be read as a variable,
is looked up as a key of the global object.  A name is never evaluated as code.
-/

namespace ScriptHost

/-- The expression that reads a name from the global object. -/
def globalReference (name : HostValue) : Except Fault Text := do
  return "globalThis[" ++ (← Json.write Json.wire name) ++ "]"

/-- A function found under a name. -/
structure Located (V : Type) where
  name : HostValue
  function : V

namespace Interpreter

variable {E V : Type}

/-- What `typeof` says of the binding under a name. -/
def kind (X : Interpreter E V) (name : HostValue) : HostM E V (Passed V) := do
  let global : HostM E V (Passed V) := do
    X.run ("typeof " ++ (← HostM.ofExcept (globalReference name)))
  if name.isIdentifier then
    HostM.orOnScriptFault (X.run ("typeof " ++ Failure.shown name)) fun _ => global
  else global

/-- The kind of a binding in a message. -/
def kindText : Passed V → HostM E V Text
  | .plain v => HostM.show_ v
  | .handle _ => pure "[object]"

/-- The failure of a lookup that the engine faults on. -/
def notExported {α : Type} (name : HostValue) (f : Fault) : HostM E V α := do
  throw (.failure (.notExportable name (.str (← HostM.wording f)) (some f.cls)))

/-- The value of the binding under a name. -/
def binding (X : Interpreter E V) (name : HostValue) : HostM E V (Passed V) := do
  let reference ← HostM.ofExcept (globalReference name)
  let expression := if name.isIdentifier then name.text?.getD [] else reference
  HostM.orOnScriptFault (X.run expression) fun _ =>
    HostM.orOnScriptFault (X.run reference) (notExported name)

/-- The function under a name. -/
def locate (X : Interpreter E V) (name : HostValue) : HostM E V (Located V) := do
  if (name.text?.getD []).isEmpty then
    throw (.failure (.functionNotFound (.str (← HostM.show_ name))))
  let kind ← kindText (← HostM.orOnScriptFault (X.kind name) (notExported name))
  if kind = "undefined" then throw (.failure (.functionNotFound name))
  if kind ≠ "function" then
    throw (.failure (.notExportable name (.str ("binding is " ++ kind ++ ", not a function")) none))
  match ← X.binding name with
  | .handle function => return { name, function }
  | .plain _ =>
    throw (.failure
      (.notExportable name (.ofString "binding could not be exported as a callable") none))

end Interpreter

end ScriptHost
