import ScriptHost.Script.Library.Dates
import ScriptHost.Script.Library.JsonText
import ScriptHost.Script.Library.Texts
import ScriptHost.Script.Realm
import ScriptHost.Script.Statement

/-!
# The engine

Calls of all kinds of functions, and `interp`, the evaluator that nests a given number of levels
deep.  What a function of the host does is a parameter.
-/

namespace ScriptHost.Script

open Eval Library

variable {σ : Type}

namespace Engine

/-- The greatest number of calls under way at once. -/
def callLimit : Nat := 5000

/-- The text that a function written as parameters and a body stands for. -/
def functionSource (I : Interp σ) (before : String) (args : Array Value) : Eval σ Utf16 := do
  let texts ← args.toList.mapM (toText I)
  let params := Utf16.joinWith "," texts.dropLast
  let body := texts.getLast?.getD ∅
  return Utf16.ofString ("(" ++ before ++ " anonymous(") ++ params ++ Utf16.ofString "\n) \x7b\n"
    ++ body ++ Utf16.ofString "\n\x7d)"

/-- What the constructor of functions makes of parameters and a body. -/
def makeFunction (I : Interp σ) (before : String) (args : Array Value) : Eval σ Value := do
  let source ← functionSource I before args
  I.evaluateText { scope := 0, strict := false, records := true } false source

/-- What a native constructor makes; without `new` there is no new target. -/
def makeNative (I : Interp σ) (k : ConstructorKind) (self : Ref) (newTarget : Option Ref)
    (args : Array Value) : Eval σ Value := do
  match k with
  | .object => makeObject I newTarget (some self) args
  | .function => makeFunction I "function" args
  | .generatorFunction => makeFunction I "function *" args
  | .asyncFunction => makeFunction I "async function" args
  | .asyncGeneratorFunction => makeFunction I "async function *" args
  | .error cls => makeError I cls newTarget args
  | .array => makeArray I newTarget args
  | .number => makeNumber I newTarget args
  | .boolean => makeBoolean I newTarget args
  | .string => makeString I newTarget args
  | .symbol => makeSymbol I newTarget args
  | .bigint => makeBigInt I newTarget args
  | .date => makeDate I newTarget args
  | .regexp => makeRegexp I newTarget args
  | .proxy => makeProxy newTarget args
  | .map | .weakMap => makeCollection I true newTarget args
  | .set | .weakSet => makeCollection I false newTarget args
  | .promise => makePromise I newTarget args
  | .opaqueClass i =>
    if newTarget.isNone then typeFault "must be called with new"
    let p ← instancePrototype I newTarget .objectPrototype
    return .object (← allocate (.bare (.opaqueKind (opaqueClassNames.getD i "")) (some p)))
  | .abstractView => typeFault "cannot be called"

/-- What a native function does. -/
def runNative (I : Interp σ) (f : Native) (self : Ref) (this_ : Value) (args : Array Value) :
    Eval σ Value := do
  match f with
  | .constructor k => makeNative I k self none args
  | .objectFunction f => objectFunction I f args
  | .objectMethod f => objectMethod I f this_ args
  | .functionMethod f => functionMethod I f this_ args
  | .arrayFunction f => arrayFunction I f this_ args
  | .arrayMethod f => arrayMethod I f this_ args
  | .stringFunction f => stringFunction I f args
  | .stringMethod f => stringMethod I f this_ args
  | .numberFunction f => return numberFunction f args
  | .numberMethod f => numberMethod I f this_ args
  | .booleanMethod f => booleanMethod f this_
  | .symbolFunction f => symbolFunction I f this_ args
  | .bigIntFunction f => bigIntFunction I f this_ args
  | .mathFunction f => mathFunction I f args
  | .jsonFunction f => jsonFunction I f args
  | .reflectFunction f => reflectFunction I f args
  | .globalFunction f => globalFunction I f args
  | .collectionMethod isMap f => collectionMethod I isMap f this_ args
  | .promiseFunction f => promiseFunction I f this_ args
  | .dateFunction f => dateFunction I f this_ args
  | .regexpMethod f => regexpMethod I f this_
  | .iteratorMethod f => iteratorMethod I (Callable.runGenerator I) f this_ args
  | .errorToString => errorText I this_
  | .species => return this_
  | .nothing => return .undefined
  | .thrower => typeFault "invalid property access"
  | .proxyRevocable => makeRevocableProxy args
  | .revoke p => revokeProxy p
  | .host id => I.host id args

/-- A native call, as it shows in a trace. -/
def nativeFrame (self : Ref) : Frame :=
  { callee := some self, isNative := true, strict := false, line := none }

/-- Refuses a call when too many are under way. -/
def checkDepth : Eval σ Unit := do
  if callLimit < (← machine).depth then fail "InternalError" "stack overflow"

/-- Calls a function. -/
def callValue (I : Interp σ) (f this_ : Value) (args : Array Value) : Eval σ Value := do
  checkDepth
  match f with
  | .object r =>
    match (← object r).kind with
    | .closure c => Callable.callClosure I r c this_ args
    | .native n => withFrame (nativeFrame r) (runNative I n r this_ args)
    | .bound target receiver fixed => I.call (.object target) receiver (fixed ++ args)
    | .proxy target handler true =>
      let t ← proxyTarget target
      match ← proxyTrap I handler "apply" with
      | none => I.call (.object t) this_ args
      | some trap =>
        let list ← newArray args
        I.call trap (refValue handler) #[.object t, this_, .object list]
    | _ => typeFault "not a function"
  | _ => typeFault "not a function"

/-- Constructs with a function. -/
def constructValue (I : Interp σ) (r : Ref) (args : Array Value) (newTarget : Ref) :
    Eval σ Value := do
  checkDepth
  match (← object r).kind with
  | .closure c => Callable.constructClosure I r c args newTarget
  | .native (.constructor k) =>
    withFrame (nativeFrame r) (makeNative I k r (some newTarget) args)
  | .bound target _ fixed =>
    I.construct target (fixed ++ args) (if newTarget == r then target else newTarget)
  | .proxy target handler _ =>
    let t ← proxyTarget target
    match ← proxyTrap I handler "construct" with
    | none => I.construct t args newTarget
    | some trap =>
      let list ← newArray args
      let v ← I.call trap (refValue handler) #[.object t, .object list, .object newTarget]
      if !v.isObject then typeFault "not an object"
      return v
  | _ => typeFault "not a constructor"

/-- Gives an object another prototype; tells whether it did. -/
def trySetPrototype (I : Interp σ) (r : Ref) (p : Option Ref) : Eval σ Bool := do
  changePrototype I r p
  return true

/-- What the host does when a script calls one of its functions. -/
abbrev HostCall (σ : Type) := Interp σ → Nat → Array Value → Eval σ Value

/-- The evaluator that nests a number of levels deep. -/
def interp (host : HostCall σ) : Nat → Interp σ
  | 0 =>
    { call := fun _ _ _ => throw .exhausted, construct := fun _ _ _ => throw .exhausted,
      evaluate := fun _ _ => throw .exhausted, execute := fun _ _ => throw .exhausted,
      evaluateText := fun _ _ _ => throw .exhausted, own := fun _ _ => throw .exhausted,
      get := fun _ _ _ => throw .exhausted, set := fun _ _ _ _ => throw .exhausted,
      has := fun _ _ => throw .exhausted, delete := fun _ _ => throw .exhausted,
      define := fun _ _ _ => throw .exhausted, ownKeys := fun _ => throw .exhausted,
      prototypeOf := fun _ => throw .exhausted, setPrototype := fun _ _ => throw .exhausted,
      isExtensible := fun _ => throw .exhausted, preventExtensions := fun _ => throw .exhausted,
      host := fun _ _ => throw .exhausted }
  | n + 1 =>
    { call := fun f this_ args => callValue (interp host n) f this_ args
      construct := fun r args t => constructValue (interp host n) r args t
      evaluate := fun site e => Expression.evaluate (interp host n) site e
      execute := fun site s => Statement.execute (interp host n) site s
      evaluateText := fun site direct s => Statement.evaluateText (interp host n) site direct s
      own := fun r k => ownProperty (interp host n) r k
      get := fun r k v => getOf (interp host n) r k v
      set := fun r k v receiver => do setAlong (interp host n) k v receiver (← chainBound) r
      has := fun r k => hasProperty (interp host n) r k
      delete := fun r k => deleteOwn (interp host n) r k
      define := fun r k d => defineOwn (interp host n) r k d
      ownKeys := fun r => keysOf (interp host n) r
      prototypeOf := fun r => Eval.prototypeOf (interp host n) r
      setPrototype := fun r p => trySetPrototype (interp host n) r p
      isExtensible := fun r => Eval.isExtensible (interp host n) r
      preventExtensions := fun r => Eval.preventExtensions (interp host n) r
      host := fun id args => host (interp host n) id args }

/-- How many levels deep evaluation may nest. -/
def nesting : Nat := 2 ^ 40

end Engine

end ScriptHost.Script
