import ScriptHost.Script.Library.Collections
import ScriptHost.Script.Variable

/-!
# Functions of scripts

Making function objects, taking values apart into patterns, and running the body of a function.
-/

namespace ScriptHost.Script

open Eval Library

variable {σ : Type}

namespace Callable

/-! ## Function objects -/

/-- The name of a function under a key. -/
def nameForKey (k : PropertyKey) : Eval σ Name := do
  match k with
  | .name n => return n
  | .symbol id =>
    match ← symbolDescription id with
    | some d => return Utf16.ofString "[" ++ d ++ Utf16.ofString "]"
    | none => return ∅

/-- The prototype of a function object, by what kind of function it is. -/
def functionPrototype (i : FunctionInfo) : Intrinsic :=
  match i.isGenerator, i.isAsync with
  | true, true => .asyncGeneratorFunctionPrototype
  | true, false => .generatorFunctionPrototype
  | false, true => .asyncFunctionPrototype
  | false, false => .functionPrototype

/-- Makes a function object with a name and a home. -/
def makeWith (site : Site) (f : Function) (name : Name) (home : Option Ref) : Eval σ Ref := do
  let i := f.info
  let scope ←
    if i.bindsName then openScope (Variable.childScope site.scope) else pure site.scope
  let r ← allocate (.bare (.closure ⟨f, scope, home, []⟩) (some (functionPrototype i).ref))
  if i.bindsName then Variable.bind scope ⟨name, some (.object r), false, !i.strict⟩
  putProperty r "length" (.readOnly (Value.ofNat i.arity))
  putProperty r "name" (.readOnly (.string name))
  if i.isGenerator then
    let proto := if i.isAsync then Intrinsic.asyncGeneratorPrototype else Intrinsic.generatorPrototype
    let p ← allocate (.bare .ordinary (some proto.ref))
    putProperty r "prototype" ⟨.data (.object p) true, false, false⟩
  else if i.kind == .plain && !i.isAsync then
    let p ← newObject
    putProperty p "constructor" (.hidden (.object r))
    putProperty r "prototype" ⟨.data (.object p) true, false, false⟩
  return r

/-- Makes a function object. -/
def make (site : Site) (f : Function) : Eval σ Ref :=
  makeWith site f (f.info.name.getD ∅) none

/-! ## Patterns -/

/-- How the names of a pattern get their values. -/
inductive Assigning
  /-- A declared variable gets its first value. -/
  | first
  /-- A variable that exists is assigned to. -/
  | again
deriving DecidableEq

/-- Gives a name its value. -/
def giveName (I : Interp σ) (site : Site) (how : Assigning) (n : Name) (v : Value) :
    Eval σ Unit :=
  match how with
  | .first => Variable.give site.scope n v
  | .again => Variable.write I site.scope n v site.strict

/-- Assigns to a place. -/
def assignPlace (I : Interp σ) (site : Site) (target : Expr) (v : Value) : Eval σ Unit := do
  match target with
  | .name n _ => Variable.write I site.scope n v site.strict
  | .member o k _ line =>
    let base ← I.evaluate site o
    reachLine line
    setMember I base (.name k) v site.strict
  | .index o k _ line =>
    let base ← I.evaluate site o
    let key ← I.evaluate site k
    reachLine line
    setMember I base (← toKey I key) v site.strict
  | _ => fail "SyntaxError" "invalid assignment left-hand side"

/-- A value, or a default in place of undefined. -/
def withDefault (I : Interp σ) (site : Site) (v : Value) (d : Option Expr) : Eval σ Value := do
  match d with
  | none => return v
  | some e => if v.isUndefined then I.evaluate site e else return v

/-- The key that is written in a pattern, an object or a class. -/
def keyOf (I : Interp σ) (site : Site) : Key → Eval σ PropertyKey
  | .fixed k => return k
  | .computed e => do toKey I (← I.evaluate site e)

mutual

/-- Takes a value apart. -/
def bindPattern (I : Interp σ) (site : Site) (how : Assigning) : Pattern → Value → Eval σ Unit
  | .name n line, v => do
    reachLine line
    giveName I site how n v
  | .place e, v => assignPlace I site e v
  | .array items rest, v => do
    let it ← iterate I v
    let done ← bindItems I site how it items false
    match rest with
    | none => if !done then it.close I
    | some p => do
      let left ← if done then pure #[] else it.collect I manyRounds #[]
      let r ← newArray left
      bindPattern I site how p (.object r)
  | .object properties rest, v => do
    let r ← toObject v
    let used ← bindProperties I site how v properties
    match rest with
    | none => pure ()
    | some p => do
      let out ← newObject
      copyListed I out (.object r) used false
      bindPattern I site how p (.object out)

/-- Takes the items of an iteration apart; tells whether the iteration is at its end. -/
def bindItems (I : Interp σ) (site : Site) (how : Assigning) (it : Iteration) :
    List (Option (Pattern × Option Expr)) → Bool → Eval σ Bool
  | [], done => return done
  | item :: rest, done => do
    let step ← if done then pure none else it.step I
    let done := done || step.isNone
    match item with
    | none => pure ()
    | some (p, d) => do
      let bound : Eval σ Unit := do
        let v ← withDefault I site (step.getD .undefined) d
        bindPattern I site how p v
      try bound
      catch e =>
        if !done then it.abandon I
        throw e
    bindItems I site how it rest done

/-- Takes the properties of a value apart; gives their keys. -/
def bindProperties (I : Interp σ) (site : Site) (how : Assigning) (v : Value) :
    List (Key × Pattern × Option Expr) → Eval σ (List PropertyKey)
  | [] => return []
  | (key, p, d) :: rest => do
    let k ← keyOf I site key
    let x ← withDefault I site (← getMember I v k) d
    bindPattern I site how p x
    return k :: (← bindProperties I site how v rest)

end

/-! ## Declarations -/

/-- Binds in a scope what a block or body declares: lexical variables without a value, functions
with theirs, and other variables as undefined. -/
def declareAll (site : Site) : List Declaration → Eval σ Unit
  | [] => return ()
  | d :: rest => do
    match d with
    | .var n => Variable.bindVariable site.scope n
    | .lexical n constant => Variable.bind site.scope ⟨n, none, !constant, false⟩
    | .function f => do
      let r ← make site f
      Variable.bind site.scope (Variable.mutableBinding (f.info.name.getD ∅) (.object r))
    declareAll site rest

/-- Runs statements in order until one of them leaves. -/
def executeAll (I : Interp σ) (site : Site) : List Stmt → Eval σ Completion
  | [] => return .normal
  | s :: rest => do
    match ← I.execute site s with
    | .normal => executeAll I site rest
    | other => return other

/-! ## Calls -/

/-- The object that holds the arguments of a call. -/
def makeArguments (callee : Ref) (strict : Bool) (args : Array Value) : Eval σ Ref := do
  let r ← allocate (.bare .arguments (some Intrinsic.objectPrototype.ref))
  let mut i := 0
  for v in args do
    putProperty r (.ofIndex i) (.plain v)
    i := i + 1
  putProperty r "length" (.hidden (Value.ofNat args.size))
  putProperty r KnownSymbol.iterator.key (.hidden (.object Intrinsic.arrayValues.ref))
  if strict then
    putProperty r "callee"
      ⟨.accessor (some Intrinsic.thrower.ref) (some Intrinsic.thrower.ref), false, false⟩
  else putProperty r "callee" (.hidden (.object callee))
  return r

/-- The receiver that a function sees: in sloppy code always an object. -/
def receiverFor (strict : Bool) (v : Value) : Eval σ Value := do
  if strict then return v
  match v with
  | .undefined | .null => return .object Intrinsic.globalObject.ref
  | .object _ => return v
  | v => return .object (← toObject v)

/-- Binds parameters to arguments. -/
def bindParameters (I : Interp σ) (site : Site) :
    List (Pattern × Option Expr) → Option Pattern → List Value → Eval σ Unit
  | [], none, _ => return ()
  | [], some p, args => do
    let r ← newArray args.toArray
    bindPattern I site .first p (.object r)
  | (.name n _, none) :: rest, after, args => do
    Variable.bind site.scope (Variable.mutableBinding n (args.headD .undefined))
    bindParameters I site rest after args.tail
  | (p, d) :: rest, after, args => do
    let v ← withDefault I site (args.headD .undefined) d
    bindPattern I site .first p v
    bindParameters I site rest after args.tail

/-- Makes the properties of the fields that a class gives its instances. -/
def makeFields (I : Interp σ) (fields : List FieldTemplate) (instance_ : Ref) : Eval σ Unit := do
  for f in fields do
    let v ←
      match f.init with
      | some g => I.call (.object g) (.object instance_) #[]
      | none => pure .undefined
    createProperty I instance_ f.key v

/-- What a function has to bind besides its parameters. -/
structure Entry where
  callee : Ref
  closure : Closure
  receiver : Option Value
  newTarget : Value

/-- Opens the scope of a call and binds the parameters and what the body declares. -/
def enter (I : Interp σ) (e : Entry) (args : Array Value) : Eval σ Site := do
  let f := e.closure.code
  let i := f.info
  let isArrow := i.kind == .arrow
  let call : Option CallBindings :=
    if isArrow then none
    else some ⟨e.receiver, e.callee, e.newTarget, e.closure.home⟩
  let scope ← openScope { bindings := #[], parent := some e.closure.scope, call, holdsVariables := true }
  let site : Site := { scope, strict := i.strict, records := false }
  if i.usesArguments && !isArrow && i.kind != .fieldValue then
    let r ← makeArguments e.callee i.strict args
    Variable.bind scope (Variable.mutableBinding "arguments" (.object r))
  bindParameters I site f.params f.rest args.toList
  declareAll site f.declarations
  return site

/-- The value that a body gives. -/
def resultOf : Completion → Value
  | .returned v => v
  | _ => .undefined

/-- Runs the body of a function to its end. -/
def runBody (I : Interp σ) (e : Entry) (args : Array Value) : Eval σ Value := do
  let site ← enter I e args
  return resultOf (← executeAll I site e.closure.code.body)

/-- The call of a function, as it shows in a trace. -/
def frameOf (callee : Ref) (i : FunctionInfo) : Frame :=
  { callee := some callee, isNative := false, strict := i.strict,
    line := if i.hasLines then some i.line else none }

/-- Runs an asynchronous function up to its first wait. -/
def runAsync (body : Eval σ Value) : Eval σ Value := do
  let state : PromiseState ←
    try
      let v ← body
      pure (.settled true v)
    catch e =>
      match e with
      | .thrown v => pure (.settled false v)
      | .suspended => pure .pending
      | other => throw other
  return .object (← newPromise state)

/-- The generator that a call of a generator function gives. -/
def newGenerator (I : Interp σ) (r : Ref) (i : FunctionInfo) (receiver : Value)
    (args : Array Value) : Eval σ Value := do
  let ordinary :=
    if i.isAsync then Intrinsic.asyncGeneratorPrototype else Intrinsic.generatorPrototype
  let proto ← instancePrototype I (some r) ordinary
  let kind : ObjectKind := if i.isAsync then .ordinary else .generator (.waiting r receiver args)
  return .object (← allocate (.bare kind (some proto)))

/-- Runs the body of a generator function from its start. -/
def runGenerator (I : Interp σ) (r : Ref) (receiver : Value) (args : Array Value) :
    Eval σ Value := do
  match (← object r).kind with
  | .closure c =>
    withFrame (frameOf r c.code.info) do
      runBody I ⟨r, c, some receiver, .undefined⟩ args
  | _ => return .undefined

/-- Calls a function of a script. -/
def callClosure (I : Interp σ) (r : Ref) (c : Closure) (receiver : Value) (args : Array Value) :
    Eval σ Value := do
  let i := c.code.info
  if i.kind == .baseConstructor || i.kind == .derivedConstructor then
    typeFault "class constructors must be invoked with 'new'"
  let receiver ← if i.kind == .arrow then pure receiver else receiverFor i.strict receiver
  if i.isGenerator then newGenerator I r i receiver args
  else
    let run : Eval σ Value :=
      withFrame (frameOf r i) (runBody I ⟨r, c, some receiver, .undefined⟩ args)
    if i.isAsync then runAsync run else run

/-- The receiver that a construction ends with: a result that is an object, or else the receiver it
started with. -/
def constructed (derived : Bool) (site : Site) (result : Value) : Eval σ Value := do
  match result with
  | .object _ => return result
  | .undefined => Variable.receiver site.scope
  | _ =>
    if derived then typeFault "derived class constructor must return an object or undefined"
    else Variable.receiver site.scope

/-- Constructs with a function of a script. -/
def constructClosure (I : Interp σ) (r : Ref) (c : Closure) (args : Array Value)
    (newTarget : Ref) : Eval σ Value := do
  let i := c.code.info
  let derived := i.kind == .derivedConstructor
  let receiver : Option Value ←
    if derived then pure none
    else do
      let proto ← instancePrototype I (some newTarget) .objectPrototype
      pure (some (.object (← allocate (.bare .ordinary (some proto)))))
  withFrame (frameOf r i) do
    match receiver with
    | some (.object o) => makeFields I c.fields o
    | _ => pure ()
    let site ← enter I ⟨r, c, receiver, .object newTarget⟩ args
    let result := resultOf (← executeAll I site c.code.body)
    constructed derived site result

end Callable

end ScriptHost.Script
