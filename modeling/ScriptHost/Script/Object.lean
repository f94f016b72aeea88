import ScriptHost.Script.Native
import ScriptHost.Script.Syntax

/-!
# Objects and scopes

The heap of a script: objects with their properties, scopes with their variables, symbols, and the
calls under way.  The first objects of the heap are fixed: they are the ones that `Intrinsic` lists.
-/

namespace ScriptHost.Script

/-- What a property holds. -/
inductive Slot
  | data (value : Value) (writable : Bool)
  | accessor (getter setter : Option Ref)
deriving Inhabited

/-- A property with its attributes. -/
structure Property where
  slot : Slot
  enumerable : Bool
  configurable : Bool
deriving Inhabited

namespace Property

/-- A property as an assignment makes it. -/
def plain (v : Value) : Property := ⟨.data v true, true, true⟩

/-- A property that is not listed, as those of native objects are. -/
def hidden (v : Value) : Property := ⟨.data v true, false, true⟩

/-- A property that is not listed and can only be redefined. -/
def readOnly (v : Value) : Property := ⟨.data v false, false, true⟩

/-- A property that never changes. -/
def fixed (v : Value) : Property := ⟨.data v false, false, false⟩

/-- A property that is computed on each reading. -/
def computed (getter setter : Option Ref) : Property := ⟨.accessor getter setter, false, true⟩

end Property

/-- Properties in the order in which they were made. -/
structure PropertyTable where
  entries : Array (PropertyKey × Property)
deriving Inhabited

namespace PropertyTable

/-- No property. -/
def empty : PropertyTable := ⟨#[]⟩

/-- The place of a key. -/
def place? (t : PropertyTable) (k : PropertyKey) : Option Nat := t.entries.findIdx? (·.1 == k)

/-- The property under a key. -/
def get? (t : PropertyTable) (k : PropertyKey) : Option Property :=
  (t.place? k).bind fun i => t.entries[i]?.map (·.2)

/-- Puts a property under a key. A new key goes to the end. -/
def put (t : PropertyTable) (k : PropertyKey) (p : Property) : PropertyTable :=
  match t.place? k with
  | some i => ⟨t.entries.modify i fun _ => (k, p)⟩
  | none => ⟨t.entries.push (k, p)⟩

/-- Takes a key out. -/
def erase (t : PropertyTable) (k : PropertyKey) : PropertyTable :=
  ⟨t.entries.filter (·.1 != k)⟩

/-- The keys: array indices in ascending order, then names, then symbols, each in the order of
making. -/
def keys (t : PropertyTable) : List PropertyKey :=
  let all := t.entries.toList.map (·.1)
  let indices := all.filterMap fun k => k.arrayIndex?.map fun i => (i, k)
  let names := all.filter fun k =>
    k.arrayIndex?.isNone && (match k with
      | .name _ => true
      | .symbol _ => false)
  let symbols := all.filter fun k =>
    match k with
    | .name _ => false
    | .symbol _ => true
  (indices.mergeSort fun a b => a.1 ≤ b.1).map (·.2) ++ names ++ symbols

end PropertyTable

/-- A field that a class gives each of its instances. -/
structure FieldTemplate where
  key : PropertyKey
  /-- The function that computes the initial value. -/
  init : Option Ref

/-- A function of a script with what it holds on to. -/
structure Closure where
  code : Function
  /-- The scope it was made in. -/
  scope : Nat
  /-- The object it is a method of. -/
  home : Option Ref
  /-- The fields of the instances, for a class. -/
  fields : List FieldTemplate

/-- What an iteration goes through. -/
inductive IterationMode
  | keys | values | entries
deriving DecidableEq

/-- What has become of a promise. -/
inductive PromiseState
  | pending
  | settled (fulfilled : Bool) (v : Value)

/-- Where a generator has got to. -/
inductive GeneratorState
  /-- Not started: the function, and the receiver and arguments of its call. -/
  | waiting (function : Ref) (receiver : Value) (args : Array Value)
  | running
  /-- What is still to come, and how it ends. -/
  | resting (items : List Value) (ending : Except Value Value)

/-- What an object is apart from its properties. -/
inductive ObjectKind
  | ordinary
  /-- An array: the items at the indices below the length that are plain properties without gaps,
  the length, and whether the length can change. -/
  | array (items : Array Value) (length : Nat) (growing : Bool)
  | closure (c : Closure)
  | native (f : Native)
  | bound (target : Ref) (receiver : Value) (args : Array Value)
  /-- A primitive as an object. -/
  | wrapper (v : Value)
  | error
  | arguments
  | date (time : Float)
  | regexp (source flags : Utf16)
  | collection (isMap : Bool) (entries : Array (Option (Value × Value)))
  | promise (state : PromiseState)
  | generator (state : GeneratorState)
  | arrayIterator (target : Option Ref) (position : Nat) (mode : IterationMode)
  | collectionIterator (target : Option Ref) (position : Nat) (mode : IterationMode)
  | stringIterator (s : Utf16) (position : Nat)
  | proxy (target handler : Option Ref) (callable : Bool)
  /-- An object that only passes through. -/
  | opaqueKind (name : String)

/-- An object. -/
structure Object where
  kind : ObjectKind
  prototype : Option Ref
  extensible : Bool
  properties : PropertyTable

instance : Inhabited Object := ⟨⟨.ordinary, none, true, .empty⟩⟩

namespace Object

/-- An object without properties. -/
def bare (kind : ObjectKind) (prototype : Option Ref) : Object :=
  { kind, prototype, extensible := true, properties := .empty }

/-- Whether an object can be called. -/
def isCallable (o : Object) : Bool :=
  match o.kind with
  | .closure _ | .native _ | .bound _ _ _ => true
  | .proxy _ _ callable => callable
  | _ => false

end Object

/-- A variable: its value unless it has none yet, and whether it may be assigned. -/
structure Binding where
  name : Name
  value : Option Value
  writable : Bool
  /-- Whether an assignment that is not allowed goes unnoticed. -/
  silent : Bool
deriving Inhabited

/-- What a call binds apart from variables. -/
structure CallBindings where
  /-- The receiver, unless it does not exist yet. -/
  receiver : Option Value
  callee : Ref
  newTarget : Value
  home : Option Ref

/-- A scope: its variables, the scope around it, and what the call binds if it belongs to one. -/
structure Scope where
  bindings : Array Binding
  parent : Option Nat
  call : Option CallBindings
  /-- Whether variables declared by evaluated text go here. -/
  holdsVariables : Bool
deriving Inhabited

/-- A call under way. -/
structure Frame where
  /-- The function, or none for a script text. -/
  callee : Option Ref
  isNative : Bool
  strict : Bool
  /-- The line reached, if lines are known. -/
  line : Option Nat
deriving Inhabited

/-- The objects that every heap starts with. -/
inductive Intrinsic
  | objectPrototype | functionPrototype | globalObject
  | arrayPrototype | stringPrototype | numberPrototype | booleanPrototype | symbolPrototype
  | bigIntPrototype
  | errorPrototype | evalErrorPrototype | rangeErrorPrototype | referenceErrorPrototype
  | syntaxErrorPrototype | typeErrorPrototype | uriErrorPrototype | internalErrorPrototype
  | aggregateErrorPrototype
  | iteratorPrototype | arrayIteratorPrototype | stringIteratorPrototype
  | mapIteratorPrototype | setIteratorPrototype
  | generatorPrototype | generatorFunctionPrototype
  | asyncFunctionPrototype | asyncGeneratorPrototype | asyncGeneratorFunctionPrototype
  | mapPrototype | setPrototype | promisePrototype | datePrototype | regexpPrototype
  | promiseConstructor
  | arrayValues | thrower
deriving DecidableEq, Inhabited

/-- The place of an intrinsic object in the heap. -/
def Intrinsic.ref (i : Intrinsic) : Ref := ⟨i.ctorIdx⟩

/-- The number of intrinsic objects. -/
def Intrinsic.count : Nat := Intrinsic.thrower.ctorIdx + 1

/-- Symbols that the language itself uses. -/
inductive KnownSymbol
  | toPrimitive | iterator | match_ | matchAll | replace | search | split | toStringTag
  | isConcatSpreadable | hasInstance | species | unscopables | asyncIterator
deriving DecidableEq

namespace KnownSymbol

/-- All of them in the order of their numbers. -/
def all : List (KnownSymbol × String) :=
  [(toPrimitive, "toPrimitive"), (iterator, "iterator"), (match_, "match"),
    (matchAll, "matchAll"), (replace, "replace"), (search, "search"), (split, "split"),
    (toStringTag, "toStringTag"), (isConcatSpreadable, "isConcatSpreadable"),
    (hasInstance, "hasInstance"), (species, "species"), (unscopables, "unscopables"),
    (asyncIterator, "asyncIterator")]

/-- The number of a symbol. -/
def id (s : KnownSymbol) : Nat := s.ctorIdx

/-- The key of a symbol. -/
def key (s : KnownSymbol) : PropertyKey := .symbol s.id

end KnownSymbol

/-- The state of a script engine. -/
structure Machine where
  objects : Array Object
  /-- The scopes; the first one holds the lexical variables of scripts. -/
  scopes : Array Scope
  /-- The descriptions of the symbols. -/
  symbols : Array (Option Utf16)
  /-- The symbols that are shared under a name. -/
  sharedSymbols : List (Utf16 × Nat)
  /-- The calls under way, the innermost first. -/
  frames : List Frame
  /-- The value of the last expression statement of the script text under way. -/
  completion : Value
  depth : Nat
  randomSeed : UInt64
  /-- What a generator that is under way has given so far, the last first. -/
  yields : List (List Value)

/-- What ends an evaluation before its time. -/
inductive Signal
  | thrown (v : Value)
  /-- An optional link that leads nowhere. -/
  | skipped
  /-- A wait for something that never happens while the script runs. -/
  | suspended
  /-- A script that goes on for too long or nests too deep. -/
  | exhausted

/-- Evaluations in an engine that is part of a host with state `σ`. -/
abbrev Eval (σ α : Type) := EStateM Signal (Machine × σ) α

namespace Eval

variable {σ : Type}

/-- The machine as it is. -/
def machine : Eval σ Machine := return (← get).1

/-- Changes the machine. -/
def modifyMachine (f : Machine → Machine) : Eval σ Unit := modify fun (m, h) => (f m, h)

/-- An object. -/
def object (r : Ref) : Eval σ Object := return (← get).1.objects[r.index]?.getD default

/-- Changes an object. -/
def updateObject (r : Ref) (f : Object → Object) : Eval σ Unit :=
  modify fun (m, h) => ({ m with objects := m.objects.modify r.index f }, h)

/-- Puts an object on the heap. -/
def allocate (o : Object) : Eval σ Ref := do
  let r : Ref := ⟨(← get).1.objects.size⟩
  modify fun (m, h) => ({ m with objects := m.objects.push o }, h)
  return r

/-- A new object without properties. -/
def newObject : Eval σ Ref :=
  allocate (.bare .ordinary (some Intrinsic.objectPrototype.ref))

/-- A new array. -/
def newArray (items : Array Value) : Eval σ Ref :=
  allocate (.bare (.array items items.size true) (some Intrinsic.arrayPrototype.ref))

/-- Changes what an object is apart from its properties. -/
def setKind (r : Ref) (kind : ObjectKind) : Eval σ Unit :=
  updateObject r fun o => { o with kind }

/-- Puts a property into the table of an object. -/
def putProperty (r : Ref) (k : PropertyKey) (p : Property) : Eval σ Unit :=
  updateObject r fun o => { o with properties := o.properties.put k p }

/-- Takes a property out of the table of an object. -/
def eraseProperty (r : Ref) (k : PropertyKey) : Eval σ Unit :=
  updateObject r fun o => { o with properties := o.properties.erase k }

/-- A scope. -/
def scope (i : Nat) : Eval σ Scope := return (← get).1.scopes[i]?.getD default

/-- Changes a scope. -/
def updateScope (i : Nat) (f : Scope → Scope) : Eval σ Unit :=
  modify fun (m, h) => ({ m with scopes := m.scopes.modify i f }, h)

/-- Opens a scope. -/
def openScope (s : Scope) : Eval σ Nat := do
  let i := (← get).1.scopes.size
  modify fun (m, h) => ({ m with scopes := m.scopes.push s }, h)
  return i

/-- Makes a symbol. -/
def newSymbol (description : Option Utf16) : Eval σ Nat := do
  let i := (← get).1.symbols.size
  modify fun (m, h) => ({ m with symbols := m.symbols.push description }, h)
  return i

/-- The description of a symbol. -/
def symbolDescription (id : Nat) : Eval σ (Option Utf16) :=
  return ((← get).1.symbols[id]?).getD none

/-- Whether a value can be called. -/
def isCallable (v : Value) : Eval σ Bool := do
  match v with
  | .object r => return (← object r).isCallable
  | _ => return false

/-- Throws a value. -/
def throwValue {α : Type} (v : Value) : Eval σ α := throw (.thrown v)

/-- The text of a key in a message. -/
def keyText (k : PropertyKey) : Eval σ Utf16 := do
  match k with
  | .name n => return n
  | .symbol id => return (← symbolDescription id).getD ∅

/-- The number of a line in parentheses. -/
def lineText : Option Nat → String
  | some n => ":" ++ Nat.repr n
  | none => ""

/-- The name that a function shows in a trace: its own property, if that is a text. -/
def functionName (r : Ref) : Eval σ Utf16 := do
  match (← object r).properties.get? "name" with
  | some ⟨.data (.string s) _, _, _⟩ =>
    return if s.isEmpty then Utf16.ofString "<anonymous>" else s
  | _ => return Utf16.ofString "<anonymous>"

/-- The line of a trace for a call. -/
def frameText (f : Frame) : Eval σ Utf16 := do
  let name ←
    match f.callee with
    | some r => functionName r
    | none => pure (Utf16.ofString "<eval>")
  let place := if f.isNative then " (native)\n" else " (<input>" ++ lineText f.line ++ ")\n"
  return Utf16.ofString "    at " ++ name ++ Utf16.ofString place

/-- The trace of the calls under way, without the innermost `skipped` ones. -/
def trace (skipped : Nat) : Eval σ Utf16 := do
  let lines ← ((← get).1.frames.drop skipped).mapM frameText
  return lines.foldl (· ++ ·) ∅

/-- The prototype of a class of errors. -/
def errorPrototype (cls : Nat) : Ref := ⟨Intrinsic.errorPrototype.ref.index + cls⟩

/-- The number of a class of errors. -/
def errorClass (name : String) : Nat := (errorClassNames.findIdx? (· == name)).getD 0

/-- Makes an error. -/
def newError (cls : String) (message : Utf16) : Eval σ Ref := do
  let r ← allocate (.bare .error (some (errorPrototype (errorClass cls))))
  putProperty r "message" (.hidden (.string message))
  putProperty r "stack" (.hidden (.string (← trace 0)))
  return r

/-- Throws an error with a message. -/
def failText {α : Type} (cls : String) (message : Utf16) : Eval σ α := do
  throwValue (.object (← newError cls message))

/-- Throws an error with a plain message. -/
def fail {α : Type} (cls message : String) : Eval σ α := failText cls (Utf16.ofString message)

/-- Throws the error of a text that cannot be read, with the place reached in front of the trace. -/
def failSyntax {α : Type} (message : Text) (line : Nat) : Eval σ α := do
  let r ← allocate (.bare .error (some (errorPrototype (errorClass "SyntaxError"))))
  putProperty r "message" (.hidden (.string (Utf16.ofText message)))
  putProperty r "fileName" (.hidden (.string (Utf16.ofString "<input>")))
  putProperty r "lineNumber" (.hidden (.int (Int32.ofNat line)))
  let place := Utf16.ofString ("    at <input>:" ++ Nat.repr line ++ "\n")
  putProperty r "stack" (.hidden (.string (place ++ (← trace 0))))
  throwValue (.object r)

/-- Throws a type error with a plain message. -/
def typeFault {α : Type} (message : String) : Eval σ α := fail "TypeError" message

/-- Throws an error about a name: what stands before it, the name, and what stands after it. -/
def failAbout {α : Type} (cls before : String) (k : PropertyKey) (after : String) : Eval σ α := do
  failText cls (Utf16.ofString before ++ (← keyText k) ++ Utf16.ofString after)

/-- Whether the code under way is strict. -/
def isStrict : Eval σ Bool := return ((← get).1.frames.head?).any (·.strict)

/-- Notes the line that the code under way has reached. -/
def reachLine (line : Nat) : Eval σ Unit :=
  modify fun (m, h) =>
    match m.frames with
    | [] => (m, h)
    | f :: rest =>
      if f.line.isSome && f.line != some line then
        ({ m with frames := { f with line := some line } :: rest }, h)
      else (m, h)

/-- Runs something while a call is under way. -/
def withFrame {α : Type} (f : Frame) (body : Eval σ α) : Eval σ α := do
  modifyMachine fun m => { m with frames := f :: m.frames, depth := m.depth + 1 }
  let leave : Eval σ Unit :=
    modifyMachine fun m => { m with frames := m.frames.drop 1, depth := m.depth - 1 }
  try
    let a ← body
    leave
    return a
  catch e =>
    leave
    throw e

end Eval

end ScriptHost.Script
