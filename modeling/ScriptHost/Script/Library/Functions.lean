import ScriptHost.Script.Library.Objects

/-!
# Methods of functions and errors

Calling, binding and showing functions; making errors and showing them.
-/

namespace ScriptHost.Script.Library

open Eval

variable {σ : Type}

/-- Refuses a value that cannot be called. -/
def needCallable (v : Value) : Eval σ Unit := do
  if !(← isCallable v) then typeFault "not a function"

/-- The text of a function without a script text. -/
def nativeText (name : Utf16) : Utf16 :=
  Utf16.ofString "function " ++ name ++ Utf16.ofString "() \x7b\n    [native code]\n\x7d"

/-- The text of a function. -/
def functionText (I : Interp σ) (v : Value) : Eval σ Value := do
  needCallable v
  match v with
  | .object r =>
    match (← object r).kind with
    | .closure c => return .string (Utf16.ofText c.code.info.source)
    | _ =>
      let name ← do
        match ← getProperty I r "name" with
        | .undefined => pure ∅
        | n => toText I n
      return .string (nativeText name)
  | _ => return .undefined

/-- A function with a receiver and first arguments that are settled. -/
def bindFunction (I : Interp σ) (this_ : Value) (args : Array Value) : Eval σ Value := do
  needCallable this_
  match this_ with
  | .object target =>
    let fixed := args.extract 1 args.size
    let proto ← Eval.prototypeOf I target
    let r ← allocate (.bare (.bound target (arg args 0) fixed) proto)
    let length ← do
      match ← ownProperty I target "length" with
      | some _ =>
        match ← getProperty I target "length" with
        | .int i => pure (.int (if i.toInt ≤ fixed.size then 0 else Int32.ofInt (i.toInt - fixed.size)))
        | .float x => pure (Value.ofFloat (max 0.0 (x - Float.ofNat fixed.size)))
        | _ => pure (.int 0)
      | none => pure (Value.int 0)
    let name ← do
      match ← getProperty I target "name" with
      | .string s => pure s
      | _ => pure ∅
    putProperty r "length" (.readOnly length)
    putProperty r "name" (.readOnly (.string (Utf16.ofString "bound " ++ name)))
    return .object r
  | _ => return .undefined

/-- Methods of functions. -/
def functionMethod (I : Interp σ) (f : FunctionMethod) (this_ : Value) (args : Array Value) :
    Eval σ Value := do
  match f with
  | .call => I.call this_ (arg args 0) (args.extract 1 args.size)
  | .apply =>
    needCallable this_
    if (arg args 1).isNullish then I.call this_ (arg args 0) #[]
    else I.call this_ (arg args 0) (← argumentList I (arg args 1))
  | .bind => bindFunction I this_ args
  | .toString => functionText I this_
  | .hasInstance => return .bool (← Operator.ordinaryInstanceOf I (arg args 0) this_)

/-- The prototype of a class of errors. -/
def errorIntrinsic (cls : Nat) : Intrinsic :=
  match cls with
  | 1 => .evalErrorPrototype
  | 2 => .rangeErrorPrototype
  | 3 => .referenceErrorPrototype
  | 4 => .syntaxErrorPrototype
  | 5 => .typeErrorPrototype
  | 6 => .uriErrorPrototype
  | 7 => .internalErrorPrototype
  | 8 => .aggregateErrorPrototype
  | _ => .errorPrototype

/-- Makes an error of a class. -/
def makeError (I : Interp σ) (cls : Nat) (newTarget : Option Ref) (args : Array Value) :
    Eval σ Value := do
  let proto ← instancePrototype I newTarget (errorIntrinsic cls)
  let r ← allocate (.bare .error (some proto))
  let isAggregate := cls == 8
  let message := arg args (if isAggregate then 1 else 0)
  if !message.isUndefined then
    putProperty r "message" (.hidden (.string (← toText I message)))
  if isAggregate then
    let items ← itemsOf I (arg args 0)
    putProperty r "errors" (.hidden (.object (← newArray items)))
  putProperty r "stack" (.hidden (.string (← trace 1)))
  return .object r

/-- The text of an error: its name and its message, if they are not empty. -/
def errorText (I : Interp σ) (this_ : Value) : Eval σ Value := do
  let r ← needObject this_
  let part (key : String) (absent : Utf16) : Eval σ Utf16 := do
    match ← getProperty I r key with
    | .undefined => return absent
    | v => toText I v
  let name ← part "name" "Error"
  let message ← part "message" ∅
  if name.isEmpty then return .string message
  else if message.isEmpty then return .string name
  else return .string (name ++ Utf16.ofString ": " ++ message)

end ScriptHost.Script.Library
