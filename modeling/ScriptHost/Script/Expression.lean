import ScriptHost.Script.Callable
import ScriptHost.Script.Library.Globals

/-!
# Evaluation of expressions

The value of an expression in a scope.  The parts of an expression are evaluated by the evaluator
one level down.
-/

namespace ScriptHost.Script

open Eval Library

variable {σ : Type}

namespace Expression

/-- The values of arguments or items; a hole counts as undefined. -/
def elements (I : Interp σ) (site : Site) : List Element → Array Value → Eval σ (Array Value)
  | [], acc => return acc
  | .item e :: rest, acc => do
    let v ← I.evaluate site e
    elements I site rest (acc.push v)
  | .hole :: rest, acc => elements I site rest (acc.push .undefined)
  | .spread e :: rest, acc => do
    let v ← I.evaluate site e
    let items ← itemsOf I v
    elements I site rest (acc ++ items)

/-- Fills an array from a place on; a hole leaves its place empty. -/
def fillArray (I : Interp σ) (site : Site) (r : Ref) : List Element → Nat → Eval σ Nat
  | [], n => return n
  | .item e :: rest, n => do
    let v ← I.evaluate site e
    createProperty I r (.ofIndex n) v
    fillArray I site r rest (n + 1)
  | .hole :: rest, n => fillArray I site r rest (n + 1)
  | .spread e :: rest, n => do
    let v ← I.evaluate site e
    let items ← itemsOf I v
    let mut i := n
    for x in items do
      createProperty I r (.ofIndex i) x
      i := i + 1
    fillArray I site r rest i

/-- Whether an element is a hole. -/
def isHole : Element → Bool
  | .hole => true
  | _ => false

/-- An array. -/
def array (I : Interp σ) (site : Site) (items : List Element) : Eval σ Value := do
  if items.any isHole then
    let r ← newArray #[]
    let n ← fillArray I site r items 0
    updateObject r (·.resized n)
    return .object r
  else return .object (← newArray (← elements I site items #[]))

/-- The text before the name of a getter or setter. -/
def prefixedName (before : String) (n : Name) : Name := Utf16.ofString before ++ n

/-- Gives a function value made in the place of a key the name of the key. -/
def nameValue (e : Expr) (v : Value) (k : PropertyKey) : Eval σ Unit := do
  let nameless :=
    match e with
    | .function f => f.info.name.isNone
    | .classValue (.mk none none _ _ _ _ _) => true
    | _ => false
  if nameless then
    match v with
    | .object r =>
      match (← object r).properties.get? "name" with
      | some ⟨.data (.string s) _, _, _⟩ =>
        if s.isEmpty then
          putProperty r "name" (.readOnly (.string (← Callable.nameForKey k)))
      | _ => pure ()
    | _ => pure ()

/-- Defines a method, getter or setter of an object. -/
def defineMember (I : Interp σ) (site : Site) (r : Ref) (kind : MemberKind) (key : PropertyKey)
    (f : Function) (enumerable : Bool) : Eval σ Unit := do
  let n ← Callable.nameForKey key
  let accessor (d : Option (Option Ref)) (e : Option (Option Ref)) : Descriptor :=
    ⟨none, none, d, e, some enumerable, some true⟩
  match kind with
  | .getter =>
    let g ← Callable.makeWith site f (prefixedName "get " n) (some r)
    defineOrFail I r key (accessor (some (some g)) none)
  | .setter =>
    let s ← Callable.makeWith site f (prefixedName "set " n) (some r)
    defineOrFail I r key (accessor none (some (some s)))
  | _ =>
    let m ← Callable.makeWith site f n (some r)
    defineOrFail I r key (.ofProperty ⟨.data (.object m) true, enumerable, true⟩)

/-- The members of an object, in order. -/
def members (I : Interp σ) (site : Site) (r : Ref) : List Member → Eval σ Unit
  | [] => return ()
  | m :: rest => do
    match m with
    | .value key e => do
      let k ← Callable.keyOf I site key
      let v ← I.evaluate site e
      match key with
      | .computed _ => nameValue e v k
      | .fixed _ => pure ()
      createProperty I r k v
    | .method key f => do defineMember I site r .method (← Callable.keyOf I site key) f true
    | .getter key f => do defineMember I site r .getter (← Callable.keyOf I site key) f true
    | .setter key f => do defineMember I site r .setter (← Callable.keyOf I site key) f true
    | .spread e => do copyListed I r (← I.evaluate site e) [] false
    | .prototype e => do
      match ← I.evaluate site e with
      | .object p => updateObject r fun o => { o with prototype := some p }
      | .null => updateObject r fun o => { o with prototype := none }
      | _ => pure ()
    members I site r rest

/-- An object. -/
def objectValue (I : Interp σ) (site : Site) (ms : List Member) : Eval σ Value := do
  let r ← newObject
  members I site r ms
  return .object r

/-! ## Links -/

/-- The base of an optional link: one that leads nowhere ends the chain. -/
def throughOptional (optional : Bool) (base : Value) : Eval σ Unit := do
  if optional && base.isNullish then throw .skipped

/-- Runs a chain of links; one that leads nowhere gives undefined. -/
def chained {α : Type} (nothing : α) (body : Eval σ α) : Eval σ α := do
  try body
  catch e =>
    match e with
    | .skipped => return nothing
    | other => throw other

/-- The object that `super` looks into. -/
def superBase (I : Interp σ) (site : Site) : Eval σ Value := do
  match ← Variable.callAt site.scope with
  | some (_, c) =>
    match c.home with
    | some h =>
      match ← Eval.prototypeOf I h with
      | some p => return .object p
      | none => return .null
    | none => return .undefined
  | none => return .undefined

/-- The value of an expression together with the receiver of a call to it. -/
def reference (I : Interp σ) (site : Site) : Expr → Eval σ (Value × Value)
  | .member o k optional line => do
    let base ← I.evaluate site o
    throughOptional optional base
    reachLine line
    return (base, ← getMember I base (.name k))
  | .index o k optional line => do
    let base ← I.evaluate site o
    throughOptional optional base
    let key ← I.evaluate site k
    reachLine line
    let key ← toKey I key
    return (base, ← getMember I base key)
  | .superMember k line => do
    let this_ ← Variable.receiver site.scope
    let key ← toKey I (← I.evaluate site k)
    reachLine line
    match ← superBase I site with
    | .object p => return (this_, ← getOf I p key this_)
    | other => return (this_, ← getMember I other key)
  | .chain e => chained (.undefined, .undefined) (reference I site e)
  | e => do return (.undefined, ← I.evaluate site e)

/-- Whether a value is the function that evaluates texts. -/
def isTextEvaluator (v : Value) : Eval σ Bool := do
  match v with
  | .object r =>
    match (← object r).kind with
    | .native (.globalFunction .eval) => return true
    | _ => return false
  | _ => return false

/-- Whether an expression is the name under which a text is evaluated where it stands. -/
def namesTextEvaluator : Expr → Bool
  | .name n _ => n == Utf16.ofString "eval"
  | _ => false

/-- A call. -/
def call (I : Interp σ) (site : Site) (callee : Expr) (args : List Element) (optional : Bool)
    (line : Nat) : Eval σ Value := do
  let (receiver, f) ← reference I site callee
  throughOptional optional f
  let values ← elements I site args #[]
  reachLine line
  let isDirect ← if namesTextEvaluator callee then isTextEvaluator f else pure false
  if isDirect then
    match arg values 0 with
    | .string s => I.evaluateText { site with records := true } true s
    | v => return v
  else I.call f receiver values

/-- A construction. -/
def construct (I : Interp σ) (site : Site) (callee : Expr) (args : List Element) (line : Nat) :
    Eval σ Value := do
  let f ← I.evaluate site callee
  let values ← elements I site args #[]
  reachLine line
  match f with
  | .object r =>
    if !(← isConstructor f) then typeFault "not a constructor"
    I.construct r values r
  | _ => typeFault "not a function"

/-- The construction of the parent of a class. -/
def superCall (I : Interp σ) (site : Site) (args : List Element) (line : Nat) :
    Eval σ Value := do
  match ← Variable.callAt site.scope with
  | none => fail "SyntaxError" "super() is only valid in a derived class constructor"
  | some (scope, c) =>
    let parent ← Eval.prototypeOf I c.callee
    let values ← elements I site args #[]
    reachLine line
    let parentValue := refValue parent
    if !(← isConstructor parentValue) then typeFault "not a constructor"
    match parent, c.newTarget with
    | some p, .object t =>
      let this_ ← I.construct p values t
      match ← Variable.callAt site.scope with
      | some (_, ⟨some _, _, _, _⟩) =>
        fail "ReferenceError" "'this' can be initialized only once"
      | _ => pure ()
      updateScope scope fun s =>
        { s with call := s.call.map fun c => { c with receiver := some this_ } }
      match (← object c.callee).kind, this_ with
      | .closure k, .object o => Callable.makeFields I k.fields o
      | _, _ => pure ()
      return this_
    | _, _ => return .undefined

/-! ## Assignments -/

/-- A place to assign to whose parts have been evaluated. -/
inductive Target
  | name (n : Name)
  | property (base : Value) (key : PropertyKey) (receiver : Value)

/-- Evaluates the parts of a place. -/
def target (I : Interp σ) (site : Site) : Expr → Eval σ Target
  | .name n line => do
    reachLine line
    return .name n
  | .member o k _ line => do
    let base ← I.evaluate site o
    reachLine line
    return .property base (.name k) base
  | .index o k _ line => do
    let base ← I.evaluate site o
    let key ← I.evaluate site k
    reachLine line
    if base.isNullish then
      let _ ← getMember I base (← toKey I key)
    return .property base (← toKey I key) base
  | .superMember k line => do
    let this_ ← Variable.receiver site.scope
    let key ← toKey I (← I.evaluate site k)
    reachLine line
    return .property (← superBase I site) key this_
  | _ => fail "SyntaxError" "invalid assignment left-hand side"

/-- The value at a place. -/
def readTarget (I : Interp σ) (site : Site) : Target → Eval σ Value
  | .name n => Variable.read I site.scope n
  | .property base k receiver =>
    match base with
    | .object r => getOf I r k receiver
    | v => getMember I v k

/-- Assigns to a place. -/
def writeTarget (I : Interp σ) (site : Site) (t : Target) (v : Value) : Eval σ Unit := do
  match t with
  | .name n => Variable.write I site.scope n v site.strict
  | .property base k receiver =>
    match base, receiver with
    | .object r, .object _ =>
      match ← setAlong I k v receiver (← chainBound) r with
      | some refusal => if site.strict then refusal.raise k
      | none => pure ()
    | _, _ => setMember I base k v site.strict

/-- An assignment. -/
def assign (I : Interp σ) (site : Site) (place e : Expr) : Eval σ Value := do
  match place with
  | .name n line =>
    let v ← I.evaluate site e
    reachLine line
    Variable.write I site.scope n v site.strict
    return v
  | .index o k _ line =>
    let base ← I.evaluate site o
    let key ← I.evaluate site k
    let v ← I.evaluate site e
    reachLine line
    setMember I base (← toKey I key) v site.strict
    return v
  | _ =>
    let t ← target I site place
    let v ← I.evaluate site e
    writeTarget I site t v
    return v

/-- Whether a logical operator takes its second operand. -/
def takesSecond (op : LogicalOp) (first : Value) : Bool :=
  match op with
  | .and => first.isTruthy
  | .or => !first.isTruthy
  | .coalesce => first.isNullish

/-- Deletes a place. -/
def deletePlace (I : Interp σ) (site : Site) : Expr → Eval σ Value
  | .member o k optional line => do
    let base ← I.evaluate site o
    throughOptional optional base
    reachLine line
    remove base (.name k)
  | .index o k optional line => do
    let base ← I.evaluate site o
    throughOptional optional base
    let key ← I.evaluate site k
    reachLine line
    remove base (← toKey I key)
  | .superMember _ _ => fail "ReferenceError" "unsupported reference to 'super'"
  | .name n _ => do
    match ← Variable.find site.scope n with
    | .binding _ _ => return .bool false
    | .global =>
      return .bool (← deleteOwn I Intrinsic.globalObject.ref (.name n)).isNone
  | .chain e => chained (.bool true) (deletePlace I site e)
  | e => do
    let _ ← I.evaluate site e
    return .bool true
where
  /-- Deletes a property; a refusal is an error in strict code. -/
  remove (base : Value) (k : PropertyKey) : Eval σ Value := do
    let r ← toObject base
    match ← deleteOwn I r k with
    | none => return .bool true
    | some refusal =>
      if site.strict then refusal.raise k
      return .bool false

/-! ## Classes -/

/-- The constructor of a class that writes none. -/
def ordinaryConstructor (derived : Bool) (line : Nat) : Function :=
  let info : FunctionInfo :=
    { name := none, kind := if derived then .derivedConstructor else .baseConstructor,
      isGenerator := false, isAsync := false, strict := true, arity := 0, usesArguments := false,
      bindsName := false, source := [], line, hasLines := false }
  let args := Utf16.ofString "args"
  if derived then
    .mk info [] (some (.name args line)) []
      [.expression (.superCall [.spread (.name args line)] line)]
  else .mk info [] none [] []

/-- A member that is to be made once all methods are there. -/
structure PendingField where
  isStatic : Bool
  template : FieldTemplate

/-- Makes the methods of a class and gathers its fields. -/
def classMembers (I : Interp σ) (site : Site) (ctor proto : Ref) :
    List ClassMember → Eval σ (List PendingField)
  | [] => return []
  | .mk isStatic kind key f :: rest => do
    let home := if isStatic then ctor else proto
    let k ← Callable.keyOf I site key
    let field : List PendingField ←
      match kind, f with
      | .field, some f => do
        let g ← Callable.makeWith site f ∅ (some home)
        pure [⟨isStatic, ⟨k, some g⟩⟩]
      | .field, none => pure [⟨isStatic, ⟨k, none⟩⟩]
      | kind, some f => do
        defineMember I site home kind k f false
        pure []
      | _, none => pure []
    return field ++ (← classMembers I site ctor proto rest)

/-- The parents of a class: the prototype of its prototype and that of its constructor. -/
def classParents (I : Interp σ) (site : Site) (parent : Option Expr) :
    Eval σ (Option Ref × Ref) := do
  match parent with
  | none => return (some Intrinsic.objectPrototype.ref, Intrinsic.functionPrototype.ref)
  | some e =>
    let v ← I.evaluate site e
    match v with
    | .null => return (none, Intrinsic.functionPrototype.ref)
    | _ =>
      if !(← isConstructor v) then typeFault "parent class must be constructor"
      match v with
      | .object r =>
        match ← getProperty I r "prototype" with
        | .object p => return (some p, r)
        | .null => return (none, r)
        | _ => typeFault "parent prototype must be an object or null"
      | _ => typeFault "parent class must be constructor"

/-- A class. -/
def classValue (I : Interp σ) (site : Site) : ClassTree → Eval σ Value
  | .mk name inferred parent ctor members source line => do
    let scope ← openScope (Variable.childScope site.scope)
    let site : Site := { scope, strict := true, records := false }
    match name with
    | some n => Variable.bind scope ⟨n, none, false, false⟩
    | none => pure ()
    let (protoParent, ctorParent) ← classParents I site parent
    let f := ctor.getD (ordinaryConstructor parent.isSome line)
    let f := f.withInfo { f.info with source }
    let proto ← allocate (.bare .ordinary protoParent)
    let r ← Callable.makeWith site f ((name <|> inferred).getD ∅) (some proto)
    updateObject r fun o => { o with prototype := some ctorParent }
    putProperty r "prototype" (.fixed (.object proto))
    putProperty proto "constructor" (.hidden (.object r))
    let fields ← classMembers I site r proto members
    let instanceFields := (fields.filter (!·.isStatic)).map (·.template)
    match (← object r).kind with
    | .closure c => setKind r (.closure { c with fields := instanceFields })
    | _ => pure ()
    match name with
    | some n => Variable.give scope n (.object r)
    | none => pure ()
    Callable.makeFields I ((fields.filter (·.isStatic)).map (·.template)) r
    return .object r

/-! ## Everything else -/

/-- The texts of a template between the texts of its values. -/
def template (I : Interp σ) (site : Site) : List Utf16 → List Expr → Utf16 → Eval σ Utf16
  | chunk :: chunks, e :: rest, acc => do
    let v ← I.evaluate site e
    let t ← toText I v
    template I site chunks rest (acc ++ chunk ++ t)
  | chunks, _, acc => return chunks.foldl (· ++ ·) acc

/-- The first argument of the function that a template is passed to. -/
def templateObject (cooked : List (Option Utf16)) (raw : List Utf16) : Eval σ Ref := do
  let values := cooked.map fun s =>
    match s with
    | some s => Value.string s
    | none => Value.undefined
  let t ← newArray values.toArray
  let r ← newArray (raw.map Value.string).toArray
  putProperty t "raw" (.fixed (.object r))
  return t

/-- Gives values to whoever goes through the generator under way. -/
def giveAway (vs : List Value) : Eval σ Unit :=
  modifyMachine fun m =>
    match m.yields with
    | given :: rest => { m with yields := (vs.reverse ++ given) :: rest }
    | [] => m

/-- The value of an expression. -/
def evaluate (I : Interp σ) (site : Site) (e : Expr) : Eval σ Value := do
  match e with
  | .literal v => return v
  | .template chunks parts => return .string (← template I site chunks parts ∅)
  | .taggedTemplate tag cooked raw parts line =>
    let (receiver, f) ← reference I site tag
    let t ← templateObject cooked raw
    let values ← parts.mapM (I.evaluate site)
    reachLine line
    I.call f receiver (#[.object t] ++ values.toArray)
  | .name n line =>
    reachLine line
    Variable.read I site.scope n
  | .this => Variable.receiver site.scope
  | .newTarget =>
    match ← Variable.callAt site.scope with
    | some (_, c) => return c.newTarget
    | none => return .undefined
  | .array items => array I site items
  | .object ms => objectValue I site ms
  | .function f => return .object (← Callable.make site f)
  | .classValue c => classValue I site c
  | .regexp source flags => newRegexp Intrinsic.regexpPrototype.ref source flags
  | .unary op e => Operator.unary I op (← I.evaluate site e)
  | .typeOf (.name n line) =>
    reachLine line
    return .ofString (← Operator.typeName ((← Variable.read? I site.scope n).getD .undefined))
  | .typeOf e => return .ofString (← Operator.typeName (← I.evaluate site e))
  | .deletion e => deletePlace I site e
  | .update isPrefixed increment place =>
    let t ← target I site place
    let old ← toNumeric I (← readTarget I site t)
    let new := Operator.step increment old
    writeTarget I site t new
    return if isPrefixed then new else old
  | .binary op a b =>
    let x ← I.evaluate site a
    let y ← I.evaluate site b
    Operator.binary I op x y
  | .logical op a b =>
    let x ← I.evaluate site a
    if takesSecond op x then I.evaluate site b else return x
  | .conditional test yes no =>
    if (← I.evaluate site test).isTruthy then I.evaluate site yes else I.evaluate site no
  | .assign place e => assign I site place e
  | .compound op place e =>
    let t ← target I site place
    let old ← readTarget I site t
    let v ← Operator.binary I op old (← I.evaluate site e)
    writeTarget I site t v
    return v
  | .logicalAssign op place e =>
    let t ← target I site place
    let old ← readTarget I site t
    if takesSecond op old then
      let v ← I.evaluate site e
      writeTarget I site t v
      return v
    else return old
  | .destructure p e =>
    let v ← I.evaluate site e
    Callable.bindPattern I site .again p v
    return v
  | .sequence a b =>
    let _ ← I.evaluate site a
    I.evaluate site b
  | .member _ _ _ _ | .index _ _ _ _ | .superMember _ _ => return (← reference I site e).2
  | .superCall args line => superCall I site args line
  | .call callee args optional line => call I site callee args optional line
  | .construct callee args line => construct I site callee args line
  | .chain e => chained .undefined (I.evaluate site e)
  | .yielding delegate operand =>
    let v ←
      match operand with
      | some e => I.evaluate site e
      | none => pure .undefined
    if delegate then giveAway (← itemsOf I v).toList else giveAway [v]
    return .undefined
  | .awaiting e =>
    let _ ← I.evaluate site e
    throw .suspended

end Expression

end ScriptHost.Script
