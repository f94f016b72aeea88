import ScriptHost.Script.Operator

/-!
# Variables

Looking names up in scopes, and what a script or a body declares before it runs.  Names that no
scope binds are properties of the global object; the outermost scope holds the lexical variables of
all scripts.
-/

namespace ScriptHost.Script

open Eval

variable {σ : Type}

namespace Variable

/-- Where a name is bound. -/
inductive Place
  | binding (scope index : Nat)
  | global

/-- The place of a name in the bindings of a scope. -/
def indexIn (s : Scope) (n : Name) : Option Nat := s.bindings.findIdx? (·.name == n)

/-- Looks a name up from a scope outwards. -/
def findFrom (n : Name) : Nat → Nat → Eval σ Place
  | 0, _ => return .global
  | fuel + 1, i => do
    let s ← scope i
    match indexIn s n with
    | some j => return .binding i j
    | none =>
      match s.parent with
      | some p => findFrom n fuel p
      | none => return .global

/-- Looks a name up. -/
def find (start : Nat) (n : Name) : Eval σ Place := do
  findFrom n ((← get).1.scopes.size + 1) start

/-- The binding at a place. -/
def bindingAt (i j : Nat) : Eval σ Binding := return ((← scope i).bindings[j]?).getD default

/-- Changes the binding at a place. -/
def updateBinding (i j : Nat) (f : Binding → Binding) : Eval σ Unit :=
  updateScope i fun s => { s with bindings := s.bindings.modify j f }

/-- Adds a binding to a scope. -/
def bind (i : Nat) (b : Binding) : Eval σ Unit :=
  updateScope i fun s =>
    match indexIn s b.name with
    | some j => { s with bindings := s.bindings.modify j fun _ => b }
    | none => { s with bindings := s.bindings.push b }

/-- A variable with a value. -/
def mutableBinding (n : Name) (v : Value) : Binding := ⟨n, some v, true, false⟩

/-- Adds a variable without a value to a scope, unless the name is bound there. -/
def bindVariable (i : Nat) (n : Name) : Eval σ Unit :=
  updateScope i fun s =>
    if (indexIn s n).isSome then s
    else { s with bindings := s.bindings.push (mutableBinding n .undefined) }

/-- Throws the error of a name that is bound nowhere. -/
def failUndefined {α : Type} (n : Name) : Eval σ α :=
  failAbout "ReferenceError" "'" (.name n) "' is not defined"

/-- Throws the error of a name whose variable has no value yet. -/
def failUninitialized {α : Type} (n : Name) : Eval σ α :=
  failAbout "ReferenceError" "" (.name n) " is not initialized"

/-- The value of a global property, unless there is none. -/
def readGlobal? (I : Interp σ) (n : Name) : Eval σ (Option Value) := do
  let g := Intrinsic.globalObject.ref
  if ← hasProperty I g (.name n) then return some (← getProperty I g (.name n)) else return none

/-- The value of a name, unless it is bound nowhere. -/
def read? (I : Interp σ) (start : Nat) (n : Name) : Eval σ (Option Value) := do
  match ← find start n with
  | .binding i j =>
    match (← bindingAt i j).value with
    | some v => return some v
    | none => failUninitialized n
  | .global => readGlobal? I n

/-- The value of a name. -/
def read (I : Interp σ) (start : Nat) (n : Name) : Eval σ Value := do
  match ← read? I start n with
  | some v => return v
  | none => failUndefined n

/-- Assigns to a name whose place is known. -/
def writeAt (I : Interp σ) (p : Place) (n : Name) (v : Value) (strict : Bool) : Eval σ Unit := do
  match p with
  | .binding i j =>
    let b ← bindingAt i j
    if b.value.isNone then failUninitialized n
    if b.writable then updateBinding i j fun b => { b with value := some v }
    else if !b.silent then Refusal.readOnly.raise (.name n)
  | .global =>
    let g := Intrinsic.globalObject.ref
    if strict && !(← hasProperty I g (.name n)) then failUndefined n
    setMember I (.object g) (.name n) v strict

/-- Assigns to a name. -/
def write (I : Interp σ) (start : Nat) (n : Name) (v : Value) (strict : Bool) : Eval σ Unit := do
  writeAt I (← find start n) n v strict

/-- Gives a declared variable of a scope its first value. -/
def give (i : Nat) (n : Name) (v : Value) : Eval σ Unit :=
  updateScope i fun s =>
    match indexIn s n with
    | some j => { s with bindings := s.bindings.modify j fun b => { b with value := some v } }
    | none => { s with bindings := s.bindings.push (mutableBinding n v) }

/-- The scope that variables declared by evaluated text go to, or none for the global object. -/
def variableScopeFrom : Nat → Nat → Eval σ (Option Nat)
  | 0, _ => return none
  | fuel + 1, i => do
    let s ← scope i
    if s.holdsVariables then return some i
    match s.parent with
    | some p => variableScopeFrom fuel p
    | none => return none

/-- The scope that variables declared by evaluated text go to, or none for the global object. -/
def variableScope (start : Nat) : Eval σ (Option Nat) := do
  variableScopeFrom ((← get).1.scopes.size + 1) start

/-- What the innermost call around a scope binds, with the scope that holds it. -/
def callFrom : Nat → Nat → Eval σ (Option (Nat × CallBindings))
  | 0, _ => return none
  | fuel + 1, i => do
    let s ← scope i
    match s.call with
    | some c => return some (i, c)
    | none =>
      match s.parent with
      | some p => callFrom fuel p
      | none => return none

/-- What the innermost call around a scope binds, with the scope that holds it. -/
def callAt (start : Nat) : Eval σ (Option (Nat × CallBindings)) := do
  callFrom ((← get).1.scopes.size + 1) start

/-- The receiver. -/
def receiver (start : Nat) : Eval σ Value := do
  match ← callAt start with
  | some (_, c) =>
    match c.receiver with
    | some v => return v
    | none => fail "ReferenceError" "this is not initialized"
  | none => return .object Intrinsic.globalObject.ref

/-- A scope without variables inside another one. -/
def childScope (parent : Nat) : Scope :=
  { bindings := #[], parent := some parent, call := none, holdsVariables := false }

/-! ## Declarations of scripts -/

/-- The names that declarations bind, and whether each is lexical. -/
def declaredName : Declaration → Name × Bool
  | .var n => (n, false)
  | .lexical n _ => (n, true)
  | .function f => (f.info.name.getD ∅, false)

/-- Refuses the declarations of a script that clash with what is there. -/
def checkGlobal (d : Declaration) : Eval σ Unit := do
  let (n, isLexical) := declaredName d
  let clash {α : Type} : Eval σ α := failAbout "SyntaxError" "redeclaration of '" (.name n) "'"
  let lexical ← scope 0
  let g ← object Intrinsic.globalObject.ref
  let own := g.own? (.name n)
  if (indexIn lexical n).isSome then clash
  if isLexical then
    if own.any (!·.configurable) then clash
  else
    match own with
    | none =>
      if !g.extensible then
        failAbout "TypeError" "cannot define variable '" (.name n) "'"
    | some p =>
      match d with
      | .function _ =>
        let overwritable :=
          p.configurable || (p.enumerable && (match p.slot with
            | .data _ w => w
            | .accessor _ _ => false))
        if !overwritable then
          failAbout "TypeError" "cannot define variable '" (.name n) "'"
      | _ => pure ()

/-- Makes a global variable. -/
def defineGlobalVariable (I : Interp σ) (n : Name) (configurable : Bool) : Eval σ Unit := do
  let g ← object Intrinsic.globalObject.ref
  if (g.own? (.name n)).isNone then
    match ← defineOwn I Intrinsic.globalObject.ref (.name n)
        (.ofProperty ⟨.data .undefined true, true, configurable⟩) with
    | none => pure ()
    | some refusal => refusal.raise (.name n)

/-- Makes a global function. -/
def defineGlobalFunction (I : Interp σ) (n : Name) (f : Value) (configurable : Bool) :
    Eval σ Unit := do
  let g ← object Intrinsic.globalObject.ref
  let fresh : Descriptor := .ofProperty ⟨.data f true, true, configurable⟩
  let d : Descriptor :=
    match g.own? (.name n) with
    | some p => if p.configurable then fresh else .ofValue f
    | none => fresh
  match ← defineOwn I Intrinsic.globalObject.ref (.name n) d with
  | none => pure ()
  | some refusal => refusal.raise (.name n)

end Variable

end ScriptHost.Script
