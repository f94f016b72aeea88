import ScriptHost.Instance.Lookup

/-!
# Calling script functions

A function is found by name and applied to a list that the engine itself builds from the arguments.
Whatever goes wrong after the function has been found is one failure, with the function's name.
-/

namespace ScriptHost.Interpreter

variable {E V : Type}

/-- The function that applies a function to the items of a list. -/
def applierSource : Text := "(function (fn, args) \x7b return fn.apply(undefined, args); \x7d)"

/-- Calls what has come out of the engine. -/
def callPassed (X : Interpreter E V) (f : Passed V) (args : List (Passed V)) :
    HostM E V (Passed V) :=
  match f with
  | .handle h => X.call h args
  | .plain v =>
    throw (.worded .type (Text.ofString ("'" ++ v.typeName ++ "' object is not callable")))

/-- The logger of calls. -/
def invocationLogger : Text := "jsvm.runtime.invoker"

/-- The failure of a call under a name, once its log record is written. -/
def failCall {α : Type} (name : HostValue) (f : Fault) : HostM E V α := do
  let shown := Failure.shown name
  let reason ← HostM.wording f
  if f.cls.isScript then
    HostM.record invocationLogger .warning ("Function " ++ shown ++ " threw: " ++ reason)
    throw (.failure (.functionRuntime name (.str reason) (some f.cls)))
  else
    HostM.record invocationLogger .warning ("Function " ++ shown ++ " failed: " ++ reason)
    throw (.failure (.functionRuntime name (.str f.classAndMessage) (some f.cls)))

/-- Calls the function under a name through an applier, and gives its result to the host. -/
def invokeThrough (X : Interpreter E V) (applier : Passed V) (name args : HostValue) :
    HostM E V HostValue := do
  let items ← HostM.ofExcept (HostValue.normalizeArguments args)
  let found ← X.locate name
  tryCatch
    (do
      let list ← X.listOfHost items
      X.toHost (← X.callPassed applier [.handle found.function, list]))
    (failCall name)

/-- Calls the function under a name. -/
def invoke (X : Interpreter E V) (name args : HostValue) : HostM E V HostValue := do
  X.invokeThrough (← HostM.instance_).applier name args

/-- Calls the function under a name through an applier made for this call. -/
def invokeAfresh (X : Interpreter E V) (name args : HostValue) : HostM E V HostValue := do
  X.invokeThrough (← X.run applierSource) name args

end ScriptHost.Interpreter
