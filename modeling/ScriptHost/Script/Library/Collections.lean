import ScriptHost.Script.Library.Functions

/-!
# Maps, sets, iterators and promises

Maps and sets keep their entries in the order of insertion; a deleted entry leaves its place empty
so that those who go through the collection do not lose their way.  Promises are settled or not, but
what waits for them never runs.
-/

namespace ScriptHost.Script.Library

open Eval

variable {σ : Type}

/-- The entries of the collection that a receiver is. -/
def collectionOf (isMap : Bool) (this_ : Value) :
    Eval σ (Ref × Array (Option (Value × Value))) := do
  match this_ with
  | .object r =>
    match (← object r).kind with
    | .collection m entries =>
      if m == isMap then return (r, entries) else refuse
    | _ => refuse
  | _ => refuse
where
  /-- Refuses another receiver. -/
  refuse {α : Type} : Eval σ α :=
    typeFault ((if isMap then "Map" else "Set") ++ " object expected")

/-- A key as it is kept: the zero below zero counts as zero. -/
def keptKey (v : Value) : Value :=
  match v with
  | .float x => Value.ofFloat (if x == 0.0 then 0.0 else x)
  | v => v

/-- The place of a key. -/
def entryPlace (entries : Array (Option (Value × Value))) (k : Value) : Option Nat :=
  entries.findIdx? fun e => e.any fun e => e.1.sameValueZero k

/-- Puts an entry. -/
def putEntry (r : Ref) (isMap : Bool) (k v : Value) : Eval σ Unit := do
  let k := keptKey k
  updateObject r fun o =>
    match o.kind with
    | .collection _ entries =>
      match entryPlace entries k with
      | some i => { o with kind := .collection isMap (entries.modify i fun _ => some (k, v)) }
      | none => { o with kind := .collection isMap (entries.push (some (k, v))) }
    | _ => o

/-- An iterator over a collection. -/
def collectionIterator (r : Ref) (isMap : Bool) (mode : IterationMode) : Eval σ Value := do
  let proto := if isMap then Intrinsic.mapIteratorPrototype else Intrinsic.setIteratorPrototype
  return .object (← allocate (.bare (.collectionIterator (some r) 0 mode) (some proto.ref)))

/-- Calls a function with the entries of a collection from a place on, also those that are added
meanwhile. -/
def forEntries (I : Interp σ) (r : Ref) (isMap : Bool) (f receiver : Value) :
    Nat → Nat → Eval σ Unit
  | 0, _ => throw .exhausted
  | fuel + 1, i => do
    let (_, entries) ← collectionOf isMap (.object r)
    match entries[i]? with
    | none => return ()
    | some none => forEntries I r isMap f receiver fuel (i + 1)
    | some (some (k, v)) =>
      let _ ← I.call f receiver #[v, k, .object r]
      forEntries I r isMap f receiver fuel (i + 1)

/-- Methods of maps and sets. -/
def collectionMethod (I : Interp σ) (isMap : Bool) (f : CollectionMethod) (this_ : Value)
    (args : Array Value) : Eval σ Value := do
  let (r, entries) ← collectionOf isMap this_
  let k := keptKey (arg args 0)
  match f with
  | .set =>
    putEntry r isMap k (arg args 1)
    return this_
  | .add =>
    putEntry r isMap k k
    return this_
  | .get =>
    match entries.find? fun e => e.any fun e => e.1.sameValueZero k with
    | some (some (_, v)) => return v
    | _ => return .undefined
  | .has => return .bool (entryPlace entries k).isSome
  | .delete =>
    match entryPlace entries k with
    | some i =>
      setKind r (.collection isMap (entries.modify i fun _ => none))
      return .bool true
    | none => return .bool false
  | .clear =>
    setKind r (.collection isMap (entries.map fun _ => none))
    return .undefined
  | .size => return Value.ofNat (entries.filter (·.isSome)).size
  | .forEach =>
    needCallable (arg args 0)
    forEntries I r isMap (arg args 0) (arg args 1) manyRounds 0
    return .undefined
  | .values => collectionIterator r isMap .values
  | .keys => collectionIterator r isMap .keys
  | .entries => collectionIterator r isMap .entries

/-- What the constructor of maps or sets makes. -/
def makeCollection (I : Interp σ) (isMap : Bool) (newTarget : Option Ref) (args : Array Value) :
    Eval σ Value := do
  if newTarget.isNone then typeFault "must be called with new"
  let p ← instancePrototype I newTarget (if isMap then .mapPrototype else .setPrototype)
  let r ← allocate (.bare (.collection isMap #[]) (some p))
  let source := arg args 0
  if !source.isNullish then
    let adder ← getProperty I r (if isMap then "set" else "add")
    if !(← isCallable adder) then typeFault "set/add is not a function"
    for v in ← itemsOf I source do
      if isMap then
        if !v.isObject then typeFault "not an object"
        let k ← getMember I v "0"
        let x ← getMember I v "1"
        let _ ← I.call adder (.object r) #[k, x]
      else
        let _ ← I.call adder (.object r) #[v]
  return .object r

/-! ## Iterators -/

/-- What an iteration gives for a key and its value. -/
def byMode (mode : IterationMode) (k v : Value) : Eval σ Value := do
  match mode with
  | .keys => return k
  | .values => return v
  | .entries => return .object (← newArray #[k, v])

/-- The first entry of a collection from a place on, with its place. -/
def entryFrom (entries : Array (Option (Value × Value))) : Nat → Nat →
    Option (Nat × Value × Value)
  | 0, _ => none
  | fuel + 1, i =>
    match entries[i]? with
    | some (some (k, v)) => some (i, k, v)
    | some none => entryFrom entries fuel (i + 1)
    | none => none

/-- Starts a generator that has not started: runs its function to the end and keeps what it gives. -/
def startGenerator (run : Ref → Value → Array Value → Eval σ Value) (r f : Ref) (receiver : Value)
    (args : Array Value) : Eval σ (List Value × Except Value Value) := do
  setKind r (.generator .running)
  modifyMachine fun m => { m with yields := [] :: m.yields }
  let given : Eval σ (List Value) := do
    let m ← machine
    modifyMachine fun m => { m with yields := m.yields.drop 1 }
    return (m.yields.headD []).reverse
  try
    let v ← run f receiver args
    return (← given, .ok v)
  catch e =>
    let items ← given
    match e with
    | .thrown v => return (items, .error v)
    | other => throw other

/-- The next step of a generator: what it gives, or its end. -/
def generatorStep (r : Ref) (items : List Value) (ending : Except Value Value) : Eval σ Value := do
  match items with
  | v :: rest =>
    setKind r (.generator (.resting rest ending))
    stepResult v false
  | [] =>
    setKind r (.generator (.resting [] (.ok .undefined)))
    match ending with
    | .ok v => stepResult v true
    | .error v => throwValue v

/-- The state of the generator that a receiver is. -/
def generatorOf (this_ : Value) : Eval σ (Ref × GeneratorState) := do
  match this_ with
  | .object r =>
    match (← object r).kind with
    | .generator s => return (r, s)
    | _ => typeFault "not a generator"
  | _ => typeFault "not a generator"

/-- Methods of iterators. `run` runs the body of a generator. -/
def iteratorMethod (I : Interp σ) (run : Ref → Value → Array Value → Eval σ Value)
    (f : IteratorMethod) (this_ : Value) (args : Array Value) : Eval σ Value := do
  match f with
  | .self => return this_
  | .nextOfArray =>
    let r ← needObject this_
    match (← object r).kind with
    | .arrayIterator none _ _ => stepResult .undefined true
    | .arrayIterator (some a) i mode =>
      let n ← lengthOf I a
      if n ≤ i then
        setKind r (.arrayIterator none i mode)
        stepResult .undefined true
      else
        setKind r (.arrayIterator (some a) (i + 1) mode)
        match mode with
        | .keys => stepResult (Value.ofNat i) false
        | _ =>
          let v ← getProperty I a (.ofIndex i)
          stepResult (← byMode mode (Value.ofNat i) v) false
    | _ => typeFault "Array Iterator object expected"
  | .nextOfCollection =>
    let r ← needObject this_
    match (← object r).kind with
    | .collectionIterator none _ _ => stepResult .undefined true
    | .collectionIterator (some c) i mode =>
      match (← object c).kind with
      | .collection _ entries =>
        match entryFrom entries (entries.size + 1) i with
        | none =>
          setKind r (.collectionIterator none i mode)
          stepResult .undefined true
        | some (j, k, v) =>
          setKind r (.collectionIterator (some c) (j + 1) mode)
          stepResult (← byMode mode k v) false
      | _ => stepResult .undefined true
    | _ => typeFault "Map Iterator object expected"
  | .nextOfString =>
    let r ← needObject this_
    match (← object r).kind with
    | .stringIterator s i =>
      match s.units[i]?, s.units[i + 1]? with
      | none, _ => stepResult .undefined true
      | some u, v? =>
        let n := if Utf16.isHigh u && v?.any Utf16.isLow then 2 else 1
        setKind r (.stringIterator s (i + n))
        stepResult (.string (s.extract i (i + n))) false
    | _ => typeFault "String Iterator object expected"
  | .generatorNext =>
    let (r, state) ← generatorOf this_
    match state with
    | .running => typeFault "generator is already running"
    | .resting items ending => generatorStep r items ending
    | .waiting f receiver callArgs =>
      let (items, ending) ← startGenerator run r f receiver callArgs
      generatorStep r items ending
  | .generatorReturn =>
    let (r, state) ← generatorOf this_
    match state with
    | .running => typeFault "generator is already running"
    | _ =>
      setKind r (.generator (.resting [] (.ok .undefined)))
      stepResult (arg args 0) true
  | .generatorThrow =>
    let (r, state) ← generatorOf this_
    match state with
    | .running => typeFault "generator is already running"
    | _ =>
      setKind r (.generator (.resting [] (.ok .undefined)))
      throwValue (arg args 0)

/-! ## Promises -/

/-- A new promise. -/
def newPromise (state : PromiseState) : Eval σ Ref :=
  allocate (.bare (.promise state) (some Intrinsic.promisePrototype.ref))

/-- The promise that a receiver is. -/
def promiseOf (this_ : Value) : Eval σ PromiseState := do
  match this_ with
  | .object r =>
    match (← object r).kind with
    | .promise s => return s
    | _ => typeFault "not an object"
  | _ => typeFault "not an object"

/-- Settles a promise that is pending. -/
def settlePromise (r : Ref) (fulfil : Bool) (v : Value) : Eval σ Unit := do
  match (← object r).kind with
  | .promise .pending => setKind r (.promise (.settled fulfil v))
  | _ => pure ()

/-- The promise of a value: the value itself if it is one. -/
def promiseOfValue (v : Value) : Eval σ Value := do
  let isPromise ←
    match v with
    | .object r => do
      match (← object r).kind with
      | .promise _ => pure true
      | _ => pure false
    | _ => pure false
  if isPromise then return v else return .object (← newPromise (.settled true v))

/-- What the constructor of promises makes. -/
def makePromise (I : Interp σ) (newTarget : Option Ref) (args : Array Value) : Eval σ Value := do
  if newTarget.isNone then typeFault "must be called with new"
  needCallable (arg args 0)
  let p ← instancePrototype I newTarget .promisePrototype
  let r ← allocate (.bare (.promise .pending) (some p))
  let resolve ← newNative (.promiseFunction (.settle r true)) ∅ 1
  let reject ← newNative (.promiseFunction (.settle r false)) ∅ 1
  try
    let _ ← I.call (arg args 0) .undefined #[.object resolve, .object reject]
  catch e =>
    match e with
    | .thrown v => settlePromise r false v
    | other => throw other
  return .object r

/-- Functions and methods of promises. -/
def promiseFunction (I : Interp σ) (f : PromiseFunction) (this_ : Value) (args : Array Value) :
    Eval σ Value := do
  match f with
  | .resolve =>
    let _ ← needObject this_
    promiseOfValue (arg args 0)
  | .reject =>
    let _ ← needObject this_
    return .object (← newPromise (.settled false (arg args 0)))
  | .all | .allSettled | .any | .race =>
    let _ ← needObject this_
    let _ ← itemsOf I (arg args 0)
    return .object (← newPromise .pending)
  | .then_ | .finally_ =>
    let _ ← promiseOf this_
    return .object (← newPromise .pending)
  | .catch_ => invoke I this_ "then" #[.undefined, arg args 0]
  | .settle r fulfil =>
    settlePromise r fulfil (arg args 0)
    return .undefined

end ScriptHost.Script.Library
