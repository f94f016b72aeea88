import ScriptHost.Script.Operator

/-!
# Functions on objects

The functions of `Object` and `Reflect`, and the methods that all objects have.
-/

namespace ScriptHost.Script.Library

open Eval

variable {σ : Type}

/-- An argument; one that is left out is undefined. -/
def arg (args : Array Value) (i : Nat) : Value := args[i]?.getD .undefined

/-- The prototype of what a constructor makes, for the function that stands behind `new`. -/
def instancePrototype (I : Interp σ) (newTarget : Option Ref) (ordinary : Intrinsic) :
    Eval σ Ref := do
  match newTarget with
  | none => return ordinary.ref
  | some t =>
    match ← getProperty I t "prototype" with
    | .object p => return p
    | _ => return ordinary.ref

/-- The object that a value has to be. -/
def needObject (v : Value) : Eval σ Ref := do
  match v with
  | .object r => return r
  | _ => typeFault "not an object"

/-- The callable that an attribute of a descriptor has to be. -/
def accessorOf (v : Value) (message : String) : Eval σ (Option Ref) := do
  match v with
  | .undefined => return none
  | .object r => if ← isCallable v then return some r else typeFault message
  | _ => typeFault message

/-- Reads a descriptor from the object that shows it. -/
def readDescriptor (I : Interp σ) (v : Value) : Eval σ Descriptor := do
  let r ← needObject v
  let part (name : String) : Eval σ (Option Value) := do
    if ← hasProperty I r name then return some (← getProperty I r name) else return none
  let enumerable ← part "enumerable"
  let configurable ← part "configurable"
  let value ← part "value"
  let writable ← part "writable"
  let getter ← do
    match ← part "get" with
    | some g => pure (some (← accessorOf g "invalid getter"))
    | none => pure none
  let setter ← do
    match ← part "set" with
    | some s => pure (some (← accessorOf s "invalid setter"))
    | none => pure none
  if (getter.isSome || setter.isSome) && (value.isSome || writable.isSome) then
    typeFault "cannot have setter/getter and value or writable"
  return ⟨value, writable.map (·.isTruthy), getter, setter, enumerable.map (·.isTruthy),
    configurable.map (·.isTruthy)⟩

/-- Defines a property; a refusal is an error. -/
def defineOrFail (I : Interp σ) (r : Ref) (k : PropertyKey) (d : Descriptor) : Eval σ Unit := do
  match ← defineOwn I r k d with
  | none => pure ()
  | some refusal => refusal.raise k

/-- The value of a key. -/
def keyAsValue : PropertyKey → Value
  | .name n => .string n
  | .symbol id => .symbol id

/-- Defines the properties that an object lists descriptors for. -/
def defineAll (I : Interp σ) (r : Ref) (properties : Value) : Eval σ Unit := do
  let p ← toObject properties
  let mut pending : Array (PropertyKey × Descriptor) := #[]
  for k in ← keysOf I p do
    match ← ownProperty I p k with
    | some q =>
      if q.enumerable then
        pending := pending.push (k, ← readDescriptor I (← getProperty I p k))
    | none => pure ()
  for (k, d) in pending do
    defineOrFail I r k d

/-- Copies the listed properties of a value to an object. -/
def copyListed (I : Interp σ) (target : Ref) (source : Value) (skipped : List PropertyKey)
    (assigning : Bool) : Eval σ Unit := do
  if source.isNullish then return ()
  let s ← toObject source
  for k in ← keysOf I s do
    if !skipped.contains k then
      match ← ownProperty I s k with
      | some p =>
        if p.enumerable then
          let v ← getProperty I s k
          if assigning then setProperty I target k v else createProperty I target k v
      | none => pure ()

/-- Lets no property of an object be added or redefined, or written if `frozen`. -/
def harden (I : Interp σ) (r : Ref) (frozen : Bool) : Eval σ Unit := do
  let _ ← Eval.preventExtensions I r
  for k in ← keysOf I r do
    let d : Descriptor ← do
      match ← ownProperty I r k with
      | some ⟨.data _ _, _, _⟩ =>
        pure ⟨none, if frozen then some false else none, none, none, none, some false⟩
      | _ => pure ⟨none, none, none, none, none, some false⟩
    defineOrFail I r k d

/-- Whether no property of an object can be added or redefined, or written if `frozen`. -/
def isHardened (I : Interp σ) (r : Ref) (frozen : Bool) : Eval σ Bool := do
  for k in ← keysOf I r do
    match ← ownProperty I r k with
    | some p =>
      if p.configurable then return false
      match p.slot with
      | .data _ true => if frozen then return false
      | _ => pure ()
    | none => pure ()
  return !(← Eval.isExtensible I r)

/-- The prototype that a value stands for. -/
def prototypeArgument (v : Value) : Eval σ (Option Ref) := do
  match v with
  | .object p => return some p
  | .null => return none
  | _ => typeFault "not a prototype"

/-- The array of given keys of an object, of the values under them, or of both. -/
def listing (I : Interp σ) (r : Ref) (mode : IterationMode) : Eval σ Value := do
  let mut items : Array Value := #[]
  for n in ← listedKeys I r do
    match mode with
    | .keys => items := items.push (.string n)
    | .values => items := items.push (← getProperty I r (.name n))
    | .entries =>
      let v ← getProperty I r (.name n)
      items := items.push (.object (← newArray #[.string n, v]))
  return .object (← newArray items)

/-- The two parts of an entry. -/
def entryParts (I : Interp σ) (v : Value) : Eval σ (Value × Value) := do
  let r ← needObject v
  let k ← getProperty I r "0"
  let x ← getProperty I r "1"
  return (k, x)

/-- Functions of `Object`. -/
def objectFunction (I : Interp σ) (f : ObjectFunction) (args : Array Value) : Eval σ Value := do
  let v := arg args 0
  match f with
  | .create =>
    let proto ← prototypeArgument v
    let r ← allocate (.bare .ordinary proto)
    if !(arg args 1).isUndefined then defineAll I r (arg args 1)
    return .object r
  | .getPrototypeOf =>
    match ← Eval.prototypeOf I (← toObject v) with
    | some p => return .object p
    | none => return .null
  | .setPrototypeOf =>
    if v.isNullish then typeFault "not an object"
    let p ← prototypeArgument (arg args 1)
    match v with
    | .object r => changePrototype I r p
    | _ => pure ()
    return v
  | .defineProperty =>
    let r ← needObject v
    let k ← toKey I (arg args 1)
    defineOrFail I r k (← readDescriptor I (arg args 2))
    return v
  | .defineProperties =>
    let r ← needObject v
    defineAll I r (arg args 1)
    return v
  | .getOwnPropertyNames =>
    let r ← toObject v
    let names := (← keysOf I r).filter fun k =>
      match k with
      | .name _ => true
      | .symbol _ => false
    return .object (← newArray (names.map keyAsValue).toArray)
  | .getOwnPropertySymbols =>
    let r ← toObject v
    let symbols := (← keysOf I r).filter fun k =>
      match k with
      | .name _ => false
      | .symbol _ => true
    return .object (← newArray (symbols.map keyAsValue).toArray)
  | .keys => listing I (← toObject v) .keys
  | .values => listing I (← toObject v) .values
  | .entries => listing I (← toObject v) .entries
  | .isExtensible =>
    match v with
    | .object r => return .bool (← Eval.isExtensible I r)
    | _ => return .bool false
  | .preventExtensions =>
    match v with
    | .object r =>
      if !(← Eval.preventExtensions I r) then typeFault "proxy preventExtensions handler returned false"
      return v
    | _ => return v
  | .getOwnPropertyDescriptor =>
    let r ← toObject v
    match ← ownProperty I r (← toKey I (arg args 1)) with
    | some p => return .object (← showDescriptor p)
    | none => return .undefined
  | .getOwnPropertyDescriptors =>
    let r ← toObject v
    let out ← newObject
    for k in ← keysOf I r do
      match ← ownProperty I r k with
      | some p => createProperty I out k (.object (← showDescriptor p))
      | none => pure ()
    return .object out
  | .is => return .bool (Value.sameValue v (arg args 1))
  | .assign =>
    let r ← toObject v
    for s in args.toList.drop 1 do
      copyListed I r s [] true
    return .object r
  | .seal =>
    match v with
    | .object r => harden I r false
    | _ => pure ()
    return v
  | .freeze =>
    match v with
    | .object r => harden I r true
    | _ => pure ()
    return v
  | .isSealed =>
    match v with
    | .object r => return .bool (← isHardened I r false)
    | _ => return .bool true
  | .isFrozen =>
    match v with
    | .object r => return .bool (← isHardened I r true)
    | _ => return .bool true
  | .fromEntries =>
    let out ← newObject
    for e in ← itemsOf I v do
      let (k, x) ← entryParts I e
      createProperty I out (← toKey I k) x
    return .object out
  | .hasOwn =>
    let r ← toObject v
    return .bool (← ownProperty I r (← toKey I (arg args 1))).isSome

/-- The word for the kind of an object. -/
def kindWord (o : Object) : String :=
  match o.kind with
  | .array _ _ _ => "Array"
  | .closure _ | .native _ | .bound _ _ _ => "Function"
  | .error => "Error"
  | .wrapper (.bool _) => "Boolean"
  | .wrapper (.int _) | .wrapper (.float _) => "Number"
  | .wrapper (.string _) => "String"
  | .date _ => "Date"
  | .regexp _ _ => "RegExp"
  | .arguments => "Arguments"
  | .proxy _ _ true => "Function"
  | _ => "Object"

/-- The text of a value as an object. -/
def objectText (I : Interp σ) (v : Value) : Eval σ Value := do
  match v with
  | .undefined => return .ofString "[object Undefined]"
  | .null => return .ofString "[object Null]"
  | _ =>
    let r ← toObject v
    let isArr ← isArray (← chainBound) (.object r)
    let o ← object r
    let word ← do
      match ← getProperty I r KnownSymbol.toStringTag.key with
      | .string s => pure s
      | _ => pure (Utf16.ofString (if isArr then "Array" else kindWord o))
    return .string (Utf16.ofString "[object " ++ word ++ Utf16.ofString "]")

/-- The accessor that a value finds under a key, along the prototypes. -/
def lookUpAccessor (I : Interp σ) (k : PropertyKey) (getter : Bool) : Nat → Ref → Eval σ Value
  | 0, _ => return .undefined
  | fuel + 1, r => do
    match ← ownProperty I r k with
    | some ⟨.accessor g s, _, _⟩ =>
      match if getter then g else s with
      | some f => return .object f
      | none => return .undefined
    | some _ => return .undefined
    | none =>
      match ← Eval.prototypeOf I r with
      | some p => lookUpAccessor I k getter fuel p
      | none => return .undefined

/-- Whether an object is a prototype of another one. -/
def isPrototypeAlong (I : Interp σ) (p : Ref) : Nat → Ref → Eval σ Bool
  | 0, _ => return false
  | fuel + 1, r => do
    match ← Eval.prototypeOf I r with
    | some q => if q == p then return true else isPrototypeAlong I p fuel q
    | none => return false

/-- Methods that all objects have. -/
def objectMethod (I : Interp σ) (f : ObjectMethod) (this_ : Value) (args : Array Value) :
    Eval σ Value := do
  match f with
  | .toString => objectText I this_
  | .toLocaleString => invoke I this_ "toString" #[]
  | .valueOf => return .object (← toObject this_)
  | .hasOwnProperty =>
    let k ← toKey I (arg args 0)
    let r ← toObject this_
    return .bool (← ownProperty I r k).isSome
  | .isPrototypeOf =>
    match arg args 0 with
    | .object v => return .bool (← isPrototypeAlong I (← toObject this_) (← chainBound) v)
    | _ => return .bool false
  | .propertyIsEnumerable =>
    let k ← toKey I (arg args 0)
    let r ← toObject this_
    return .bool ((← ownProperty I r k).any (·.enumerable))
  | .getPrototype =>
    match ← Eval.prototypeOf I (← toObject this_) with
    | some p => return .object p
    | none => return .null
  | .setPrototype =>
    if this_.isNullish then typeFault "cannot convert to object"
    match this_, arg args 0 with
    | .object r, .object p => changePrototype I r (some p)
    | .object r, .null => changePrototype I r none
    | _, _ => pure ()
    return .undefined
  | .defineGetter | .defineSetter =>
    let r ← toObject this_
    let k ← toKey I (arg args 0)
    match arg args 1 with
    | .object g =>
      if !(← isCallable (.object g)) then typeFault "not a function"
      let d : Descriptor :=
        if f == .defineGetter then ⟨none, none, some (some g), none, some true, some true⟩
        else ⟨none, none, none, some (some g), some true, some true⟩
      defineOrFail I r k d
      return .undefined
    | _ => typeFault "not a function"
  | .lookupGetter | .lookupSetter =>
    let r ← toObject this_
    let k ← toKey I (arg args 0)
    lookUpAccessor I k (f == .lookupGetter) (← chainBound) r

/-- The arguments that a list stands for. -/
def argumentList (I : Interp σ) (v : Value) : Eval σ (Array Value) := do
  match v with
  | .object _ => listItems I v
  | _ => typeFault "not a object"

/-- Whether a value can construct. -/
def isConstructor (v : Value) : Eval σ Bool := do
  go (← chainBound) v
where
  /-- Looks behind bindings and proxies. -/
  go : Nat → Value → Eval σ Bool
    | 0, _ => return false
    | fuel + 1, v => do
      match v with
      | .object r =>
        match (← object r).kind with
        | .closure c =>
          let i := c.code.info
          return i.kind == .baseConstructor || i.kind == .derivedConstructor
            || (i.kind == .plain && !i.isGenerator && !i.isAsync)
        | .native f => return f.isConstructor
        | .bound t _ _ => go fuel (.object t)
        | .proxy (some t) _ true => go fuel (.object t)
        | _ => return false
      | _ => return false

/-- Functions of `Reflect`. -/
def reflectFunction (I : Interp σ) (f : ReflectFunction) (args : Array Value) : Eval σ Value := do
  let v := arg args 0
  match f with
  | .apply =>
    if !(← isCallable v) then typeFault "not a function"
    I.call v (arg args 1) (← argumentList I (arg args 2))
  | .construct =>
    let target := if args.size < 3 then v else arg args 2
    if !(← isConstructor v) || !(← isConstructor target) then typeFault "not a constructor"
    let items ← argumentList I (arg args 1)
    match v, target with
    | .object c, .object t => I.construct c items t
    | _, _ => return .undefined
  | .defineProperty =>
    let r ← needObject v
    let k ← toKey I (arg args 1)
    return .bool (← defineOwn I r k (← readDescriptor I (arg args 2))).isNone
  | .deleteProperty =>
    let r ← needObject v
    return .bool (← deleteOwn I r (← toKey I (arg args 1))).isNone
  | .get =>
    let r ← needObject v
    let k ← toKey I (arg args 1)
    getOf I r k (if args.size < 3 then v else arg args 2)
  | .getOwnPropertyDescriptor =>
    let _ ← needObject v
    objectFunction I .getOwnPropertyDescriptor args
  | .getPrototypeOf =>
    let _ ← needObject v
    objectFunction I .getPrototypeOf args
  | .has =>
    let r ← needObject v
    return .bool (← hasProperty I r (← toKey I (arg args 1)))
  | .isExtensible =>
    let r ← needObject v
    return .bool (← Eval.isExtensible I r)
  | .ownKeys =>
    let r ← needObject v
    return .object (← newArray ((← keysOf I r).map keyAsValue).toArray)
  | .preventExtensions =>
    let r ← needObject v
    return .bool (← Eval.preventExtensions I r)
  | .set =>
    let r ← needObject v
    let k ← toKey I (arg args 1)
    let receiver := if args.size < 4 then v else arg args 3
    return .bool (← setAlong I k (arg args 2) receiver (← chainBound) r).isNone
  | .setPrototypeOf =>
    let r ← needObject v
    let p ← prototypeArgument (arg args 1)
    try
      changePrototype I r p
      return .bool true
    catch e =>
      match e with
      | .thrown _ => return .bool false
      | other => throw other

/-- What the constructor of plain objects makes. -/
def makeObject (I : Interp σ) (newTarget : Option Ref) (self : Option Ref) (args : Array Value) :
    Eval σ Value := do
  if newTarget.isSome && newTarget != self then
    let p ← instancePrototype I newTarget .objectPrototype
    return .object (← allocate (.bare .ordinary (some p)))
  else if (arg args 0).isNullish then return .object (← newObject)
  else return .object (← toObject (arg args 0))

end ScriptHost.Script.Library
