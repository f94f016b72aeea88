import ScriptHost.Script.Number
import ScriptHost.Script.Object

/-!
# Access to properties

Reading, writing, defining and deleting properties, and the conversions of objects that they rest
on.  Whatever may run code of the script goes through an `Interp`, the evaluator one level of
nesting down.
-/

namespace ScriptHost.Script

/-- How a statement ends. -/
inductive Completion
  | normal
  | leave (label : Option Name)
  | again (label : Option Name)
  | returned (v : Value)

/-- Where an expression or statement is evaluated. -/
structure Site where
  scope : Nat
  strict : Bool
  /-- Whether expression statements give the value of the script text. -/
  records : Bool

/-- A property as asked for: parts may be left open. -/
structure Descriptor where
  value : Option Value
  writable : Option Bool
  getter : Option (Option Ref)
  setter : Option (Option Ref)
  enumerable : Option Bool
  configurable : Option Bool

namespace Descriptor

/-- The descriptor that asks for exactly a property. -/
def ofProperty (p : Property) : Descriptor :=
  match p.slot with
  | .data v w => ⟨some v, some w, none, none, some p.enumerable, some p.configurable⟩
  | .accessor g s => ⟨none, none, some g, some s, some p.enumerable, some p.configurable⟩

/-- The descriptor that only asks for a value. -/
def ofValue (v : Value) : Descriptor := ⟨some v, none, none, none, none, none⟩

/-- Whether a descriptor speaks of a computed property. -/
def isAccessor (d : Descriptor) : Bool := d.getter.isSome || d.setter.isSome

/-- Whether a descriptor speaks of a stored property. -/
def isData (d : Descriptor) : Bool := d.value.isSome || d.writable.isSome

/-- The property that a descriptor makes where there is none. -/
def fresh (d : Descriptor) : Property :=
  let slot : Slot :=
    if d.isAccessor then .accessor (d.getter.getD none) (d.setter.getD none)
    else .data (d.value.getD .undefined) (d.writable.getD false)
  ⟨slot, d.enumerable.getD false, d.configurable.getD false⟩

/-- The property that a descriptor makes of one that is there. -/
def mergedWith (d : Descriptor) (p : Property) : Property :=
  let slot : Slot :=
    if d.isAccessor then
      match p.slot with
      | .accessor g s => .accessor (d.getter.getD g) (d.setter.getD s)
      | .data _ _ => .accessor (d.getter.getD none) (d.setter.getD none)
    else if d.isData then
      match p.slot with
      | .data v w => .data (d.value.getD v) (d.writable.getD w)
      | .accessor _ _ => .data (d.value.getD .undefined) (d.writable.getD false)
    else p.slot
  ⟨slot, d.enumerable.getD p.enumerable, d.configurable.getD p.configurable⟩

/-- Whether a property that cannot be redefined admits a descriptor. -/
def admittedBy (d : Descriptor) (p : Property) : Bool :=
  p.configurable ||
    (d.configurable != some true && (d.enumerable.all (· == p.enumerable)) &&
      match p.slot with
      | .data v w =>
        !d.isAccessor &&
          (w || (d.writable != some true && d.value.all (Value.sameValue v)))
      | .accessor g s =>
        !d.isData && d.getter.all (· == g) && d.setter.all (· == s))

end Descriptor

/-- Why a property is not written, made or deleted. -/
inductive Refusal
  | readOnly
  | lengthFixed
  | noSetter
  | notExtensible
  | notConfigurable
  | notObject
  | notDeletable
  | proxyRefused
deriving DecidableEq

/-- The evaluator one level of nesting down. -/
structure Interp (σ : Type) where
  /-- Calls a function with a receiver and arguments. -/
  call : Value → Value → Array Value → Eval σ Value
  /-- Constructs with a function, for the function that stands behind `new`. -/
  construct : Ref → Array Value → Ref → Eval σ Value
  evaluate : Site → Expr → Eval σ Value
  execute : Site → Stmt → Eval σ Completion
  /-- Evaluates a text inside a piece of code. -/
  evaluateText : Site → Bool → Utf16 → Eval σ Value
  own : Ref → PropertyKey → Eval σ (Option Property)
  get : Ref → PropertyKey → Value → Eval σ Value
  set : Ref → PropertyKey → Value → Value → Eval σ (Option Refusal)
  has : Ref → PropertyKey → Eval σ Bool
  delete : Ref → PropertyKey → Eval σ (Option Refusal)
  define : Ref → PropertyKey → Descriptor → Eval σ (Option Refusal)
  ownKeys : Ref → Eval σ (List PropertyKey)
  prototypeOf : Ref → Eval σ (Option Ref)
  setPrototype : Ref → Option Ref → Eval σ Bool
  isExtensible : Ref → Eval σ Bool
  preventExtensions : Ref → Eval σ Bool
  /-- Calls a function of the host. -/
  host : Nat → Array Value → Eval σ Value

namespace Refusal

/-- Throws the error that a refusal is in strict code. -/
def raise {σ α : Type} (k : PropertyKey) : Refusal → Eval σ α
  | readOnly => Eval.failAbout "TypeError" "'" k "' is read-only"
  | lengthFixed => Eval.typeFault "'length' is read-only"
  | noSetter => Eval.typeFault "no setter for property"
  | notExtensible => Eval.typeFault "object is not extensible"
  | notConfigurable => Eval.typeFault "property is not configurable"
  | notObject => Eval.typeFault "not an object"
  | notDeletable => Eval.typeFault "could not delete property"
  | proxyRefused => Eval.typeFault "proxy: inconsistent set"

end Refusal

namespace Object

/-- The properties that an object has by itself, proxies apart. -/
def own? (o : Object) (k : PropertyKey) : Option Property :=
  match o.kind with
  | .array items length growing =>
    match k.arrayIndex? with
    | some i =>
      match items[i]? with
      | some v => some (.plain v)
      | none => o.properties.get? k
    | none =>
      if k.isNamed "length" then some ⟨.data (Value.ofNat length) growing, false, false⟩
      else o.properties.get? k
  | .wrapper (.string s) =>
    match k.arrayIndex?.bind s.unitAt? with
    | some u => some ⟨.data (.string u) false, true, false⟩
    | none =>
      if k.isNamed "length" then some (.fixed (Value.ofNat s.length)) else o.properties.get? k
  | _ => o.properties.get? k

/-- The keys of the properties that an object has by itself, proxies apart. -/
def ownKeys (o : Object) : List PropertyKey :=
  match o.kind with
  | .array items _ _ =>
    let dense := (List.range items.size).map PropertyKey.ofIndex
    let (indices, others) := o.properties.keys.partition (·.arrayIndex?.isSome)
    dense ++ indices ++ ("length" : PropertyKey) :: others
  | .wrapper (.string s) =>
    let dense := (List.range s.length).map PropertyKey.ofIndex
    let (indices, others) := o.properties.keys.partition (·.arrayIndex?.isSome)
    dense ++ indices ++ ("length" : PropertyKey) :: others
  | _ => o.properties.keys

/-- An array whose items from a place on are kept as properties. -/
def spilledFrom (o : Object) (i : Nat) : Object :=
  match o.kind with
  | .array items length growing =>
    let spilled := (items.extract i items.size).foldl
      (fun (t, j) v => (PropertyTable.put t (.ofIndex j) (.plain v), j + 1)) (o.properties, i)
    { o with kind := .array (items.extract 0 i) length growing, properties := spilled.1 }
  | _ => o

/-- Puts a property that is known to be allowed. -/
def place (o : Object) (k : PropertyKey) (p : Property) : Object :=
  match o.kind, k.arrayIndex? with
  | .array items length growing, some i =>
    let isPlain : Option Value :=
      match p with
      | ⟨.data v true, true, true⟩ => some v
      | _ => none
    if i < items.size then
      match isPlain with
      | some v => { o with kind := .array (items.modify i fun _ => v) length growing }
      | none =>
        let o := o.spilledFrom i
        { o with properties := o.properties.put k p }
    else
      match isPlain with
      | some v =>
        if i = items.size && (o.properties.get? k).isNone then
          { o with kind := .array (items.push v) (max length (i + 1)) growing }
        else
          { o with
            kind := .array items (max length (i + 1)) growing
            properties := o.properties.put k p }
      | none =>
        { o with
          kind := .array items (max length (i + 1)) growing
          properties := o.properties.put k p }
  | _, _ => { o with properties := o.properties.put k p }

/-- Takes out a property that may be deleted. -/
def remove (o : Object) (k : PropertyKey) : Object :=
  match o.kind, k.arrayIndex? with
  | .array items length growing, some i =>
    if i < items.size then
      let o := o.spilledFrom (i + 1)
      match o.kind with
      | .array kept _ _ => { o with kind := .array kept.pop length growing }
      | _ => o
    else { o with properties := o.properties.erase k }
  | _, _ => { o with properties := o.properties.erase k }

/-- An array of another length; items past it go. -/
def resized (o : Object) (n : Nat) : Object :=
  match o.kind with
  | .array items _ growing =>
    { o with
      kind := .array (if n < items.size then items.extract 0 n else items) n growing
      properties :=
        ⟨o.properties.entries.filter fun e => e.1.arrayIndex?.all (· < n)⟩ }
  | _ => o

end Object

namespace Eval

variable {σ : Type}

/-! ## Reading -/

/-- The value of a property for a receiver. -/
def readSlot (I : Interp σ) (p : Property) (receiver : Value) : Eval σ Value :=
  match p.slot with
  | .data v _ => pure v
  | .accessor (some g) _ => I.call (.object g) receiver #[]
  | .accessor none _ => pure .undefined

/-- The trap of a proxy, unless the handler leaves the operation to the target. -/
def proxyTrap (I : Interp σ) (handler : Option Ref) (name : String) :
    Eval σ (Option Value) := do
  match handler with
  | none => typeFault "revoked proxy"
  | some h =>
    let f ← I.get h name (.object h)
    return if f.isNullish then none else some f

/-- The value that a key stands for in a trap. -/
def keyValue : PropertyKey → Value
  | .name n => .string n
  | .symbol id => .symbol id

/-- The value of an optional reference. -/
def refValue : Option Ref → Value
  | some r => .object r
  | none => .null

/-- The target of a proxy. -/
def proxyTarget (target : Option Ref) : Eval σ Ref := do
  match target with
  | some t => return t
  | none => typeFault "revoked proxy"

/-- Reads a property along the prototypes; `fuel` bounds their number. -/
def getAlong (I : Interp σ) (k : PropertyKey) (receiver : Value) : Nat → Ref → Eval σ Value
  | 0, _ => throw .exhausted
  | fuel + 1, r => do
    let o ← object r
    match o.kind with
    | .proxy target handler _ =>
      let t ← proxyTarget target
      match ← proxyTrap I handler "get" with
      | none => I.get t k receiver
      | some f => I.call f (refValue handler) #[.object t, keyValue k, receiver]
    | _ =>
      match o.own? k with
      | some p => readSlot I p receiver
      | none =>
        match o.prototype with
        | some p => getAlong I k receiver fuel p
        | none => return .undefined

/-- The number of prototypes that a chain can have at most. -/
def chainBound : Eval σ Nat := return (← get).1.objects.size + 1

/-- Reads a property of an object for a receiver. -/
def getOf (I : Interp σ) (r : Ref) (k : PropertyKey) (receiver : Value) : Eval σ Value := do
  getAlong I k receiver (← chainBound) r

/-- Reads a property of an object. -/
def getProperty (I : Interp σ) (r : Ref) (k : PropertyKey) : Eval σ Value :=
  getOf I r k (.object r)

/-- The prototype that a primitive takes its properties from. -/
def primitivePrototype : Value → Option Intrinsic
  | .string _ => some .stringPrototype
  | .int _ | .float _ => some .numberPrototype
  | .bool _ => some .booleanPrototype
  | .symbol _ => some .symbolPrototype
  | .bigint _ => some .bigIntPrototype
  | _ => none

/-- Reads a property of a value. -/
def getMember (I : Interp σ) (v : Value) (k : PropertyKey) : Eval σ Value := do
  match v with
  | .object r => getProperty I r k
  | .undefined => failAbout "TypeError" "cannot read property '" k "' of undefined"
  | .null => failAbout "TypeError" "cannot read property '" k "' of null"
  | .string s =>
    match k.arrayIndex?.bind s.unitAt? with
    | some u => return .string u
    | none =>
      if k.isNamed "length" then return Value.ofNat s.length
      else getOf I Intrinsic.stringPrototype.ref k v
  | v =>
    match primitivePrototype v with
    | some p => getOf I p.ref k v
    | none => return .undefined

/-- Whether an object has a property, by itself or from its prototypes. -/
def hasAlong (I : Interp σ) (k : PropertyKey) : Nat → Ref → Eval σ Bool
  | 0, _ => throw .exhausted
  | fuel + 1, r => do
    let o ← object r
    match o.kind with
    | .proxy target handler _ =>
      let t ← proxyTarget target
      match ← proxyTrap I handler "has" with
      | none => I.has t k
      | some f => return (← I.call f (refValue handler) #[.object t, keyValue k]).isTruthy
    | _ =>
      if (o.own? k).isSome then return true
      match o.prototype with
      | some p => hasAlong I k fuel p
      | none => return false

/-- Whether an object has a property. -/
def hasProperty (I : Interp σ) (r : Ref) (k : PropertyKey) : Eval σ Bool := do
  hasAlong I k (← chainBound) r

/-! ## Calls -/

/-- Calls a method of a value. -/
def invoke (I : Interp σ) (v : Value) (k : PropertyKey) (args : Array Value) : Eval σ Value := do
  let f ← getMember I v k
  I.call f v args

/-- The method of a value under a key, unless there is none. -/
def methodOf (I : Interp σ) (v : Value) (k : PropertyKey) : Eval σ (Option Value) := do
  let f ← getMember I v k
  if f.isNullish then return none
  if !(← isCallable f) then typeFault "not a function"
  return some f

/-! ## Conversions -/

/-- What a conversion to a primitive would rather have. -/
inductive Hint
  | any | number | string
deriving DecidableEq

/-- The text of a hint. -/
def Hint.text : Hint → String
  | any => "default"
  | number => "number"
  | string => "string"

/-- Tries methods in order until one gives a primitive. -/
def primitiveBy (I : Interp σ) (v : Value) : List String → Eval σ Value
  | [] => typeFault "toPrimitive"
  | name :: rest => do
    let f ← getMember I v name
    if ← isCallable f then
      let p ← I.call f v #[]
      if p.isObject then primitiveBy I v rest else return p
    else primitiveBy I v rest

/-- The primitive of a value, by its ordinary methods. -/
def ordinaryPrimitive (I : Interp σ) (v : Value) (hint : Hint) : Eval σ Value :=
  primitiveBy I v (if hint == .string then ["toString", "valueOf"] else ["valueOf", "toString"])

/-- The primitive of a value. -/
def toPrimitive (I : Interp σ) (v : Value) (hint : Hint) : Eval σ Value := do
  match v with
  | .object _ =>
    let f ← getMember I v KnownSymbol.toPrimitive.key
    if f.isNullish then ordinaryPrimitive I v hint
    else
      let p ← I.call f v #[Value.ofString hint.text]
      if p.isObject then typeFault "toPrimitive" else return p
  | _ => return v

/-- The text of a primitive. -/
def primitiveText (v : Value) : Eval σ Utf16 := do
  match v with
  | .undefined => return "undefined"
  | .null => return "null"
  | .bool b => return if b then "true" else "false"
  | .int i => return Number.intText i
  | .float x => return Number.floatText x
  | .string s => return s
  | .bigint i => return Utf16.ofText (Text.ofInt i)
  | .symbol _ => typeFault "cannot convert symbol to string"
  | .object _ => return "[object Object]"

/-- The text of a value. -/
def toText (I : Interp σ) (v : Value) : Eval σ Utf16 := do
  primitiveText (← toPrimitive I v .string)

/-- The number of a primitive that may be a big integer. -/
def primitiveNumeric (v : Value) : Eval σ Value := do
  match v with
  | .int _ | .float _ | .bigint _ => return v
  | .undefined => return .float Binary.nan
  | .null => return .int 0
  | .bool b => return .int (if b then 1 else 0)
  | .string s => return Number.ofText s.toText
  | .symbol _ => typeFault "cannot convert symbol to number"
  | .object _ => return .float Binary.nan

/-- The number or big integer of a value. -/
def toNumeric (I : Interp σ) (v : Value) : Eval σ Value := do
  match v with
  | .int _ | .float _ | .bigint _ => return v
  | _ => primitiveNumeric (← toPrimitive I v .number)

/-- The number of a value. -/
def toNumber (I : Interp σ) (v : Value) : Eval σ Value := do
  match ← toNumeric I v with
  | .bigint _ => typeFault "cannot convert bigint to number"
  | n => return n

/-- The double of a value. -/
def toDouble (I : Interp σ) (v : Value) : Eval σ Float := return Number.toFloat (← toNumber I v)

/-- The integer of a value, without its fraction. -/
def toInteger (I : Interp σ) (v : Value) : Eval σ Int := return Number.integer (← toNumber I v)

/-- The integer of 32 bits of a value. -/
def toInt32 (I : Interp σ) (v : Value) : Eval σ Int32 := return Number.int32 (← toNumber I v)

/-- A value as a length. -/
def toLength (I : Interp σ) (v : Value) : Eval σ Nat := do
  return (min (← toInteger I v) (2 ^ 53 - 1)).toNat

/-- A value as the key of a property. -/
def toKey (I : Interp σ) (v : Value) : Eval σ PropertyKey := do
  match ← toPrimitive I v .string with
  | .symbol id => return .symbol id
  | p => return .name (← primitiveText p)

/-- A value as an object. -/
def toObject (v : Value) : Eval σ Ref := do
  match v with
  | .object r => return r
  | .undefined | .null => typeFault "cannot convert to object"
  | v =>
    allocate (.bare (.wrapper v) ((primitivePrototype v).map Intrinsic.ref))

/-- The length of something like an array. -/
def lengthOf (I : Interp σ) (r : Ref) : Eval σ Nat := do
  match (← object r).kind with
  | .array _ length _ => return length
  | _ => toLength I (← getProperty I r "length")

/-- A place from the start, or from the end if it is below zero, within a length. -/
def clampIndex (i : Int) (length : Nat) : Nat :=
  if i < 0 then (i + length).toNat else min i.toNat length

/-- The place that an argument says, or a given one if it is left out. -/
def indexArgument (I : Interp σ) (v : Value) (length absent : Nat) : Eval σ Nat := do
  if v.isUndefined then return absent
  return clampIndex (← toInteger I v) length

/-! ## Writing and defining -/

/-- The length that a value asks for. -/
def toArrayLength (I : Interp σ) (v : Value) : Eval σ Nat := do
  let n ← toNumber I v
  let x := Number.toFloat n
  match Binary.toInt? x with
  | some i => if 0 ≤ i && i < 2 ^ 32 then return i.toNat else fail "RangeError" "invalid array length"
  | none => fail "RangeError" "invalid array length"

/-- Gives an array another length. -/
def resize (I : Interp σ) (r : Ref) (d : Descriptor) : Eval σ (Option Refusal) := do
  let wanted ← d.value.mapM (toArrayLength I)
  let o ← object r
  match o.kind with
  | .array _ length growing =>
    let asked : Descriptor := { d with value := wanted.map Value.ofNat }
    let current : Property := ⟨.data (Value.ofNat length) growing, false, false⟩
    if !asked.admittedBy current then
      return some (if growing || d.isAccessor then .notConfigurable else .readOnly)
    match wanted with
    | some n => updateObject r (·.resized n)
    | none => pure ()
    if d.writable == some false then
      updateObject r fun o =>
        match o.kind with
        | .array items length _ => { o with kind := .array items length false }
        | _ => o
    return none
  | _ => return none

/-- Whether an object is an array. -/
def isArrayObject (o : Object) : Bool :=
  match o.kind with
  | .array _ _ _ => true
  | _ => false

/-- Whether a key lies past the end of an array that cannot grow. -/
def isPastEnd (o : Object) (k : PropertyKey) : Bool :=
  match o.kind with
  | .array _ length growing => !growing && k.arrayIndex?.any (length ≤ ·)
  | _ => false

/-- The object that shows a property. -/
def showDescriptor (p : Property) : Eval σ Ref := do
  let r ← newObject
  let optional (f : Option Ref) : Value :=
    match f with
    | some f => .object f
    | none => .undefined
  match p.slot with
  | .data v w =>
    putProperty r "value" (.plain v)
    putProperty r "writable" (.plain (.bool w))
  | .accessor g s =>
    putProperty r "get" (.plain (optional g))
    putProperty r "set" (.plain (optional s))
  putProperty r "enumerable" (.plain (.bool p.enumerable))
  putProperty r "configurable" (.plain (.bool p.configurable))
  return r

/-- The object that shows a descriptor. -/
def askDescriptor (d : Descriptor) : Eval σ Ref := do
  let r ← newObject
  let optional (f : Option Ref) : Value :=
    match f with
    | some f => .object f
    | none => .undefined
  let put (k : String) (v : Option Value) : Eval σ Unit :=
    match v with
    | some v => putProperty r k (.plain v)
    | none => pure ()
  put "value" d.value
  put "writable" (d.writable.map .bool)
  put "get" (d.getter.map optional)
  put "set" (d.setter.map optional)
  put "enumerable" (d.enumerable.map .bool)
  put "configurable" (d.configurable.map .bool)
  return r

/-- Defines a property of an object. -/
def defineOwn (I : Interp σ) (r : Ref) (k : PropertyKey) (d : Descriptor) :
    Eval σ (Option Refusal) := do
  let o ← object r
  match o.kind with
  | .proxy target handler _ =>
    let t ← proxyTarget target
    match ← proxyTrap I handler "defineProperty" with
    | none => I.define t k d
    | some f =>
      let shown ← askDescriptor d
      let ok ← I.call f (refValue handler) #[.object t, keyValue k, .object shown]
      return if ok.isTruthy then none else some .proxyRefused
  | _ =>
    if isArrayObject o && k.isNamed "length" then resize I r d
    else
      match o.own? k with
      | some p =>
        if !d.admittedBy p then return some .notConfigurable
        updateObject r (·.place k (d.mergedWith p))
        return none
      | none =>
        if isPastEnd o k then return some .lengthFixed
        if !o.extensible then return some .notExtensible
        updateObject r (·.place k d.fresh)
        return none

/-- Makes a plain property of an object that is known to admit it. -/
def createProperty (I : Interp σ) (r : Ref) (k : PropertyKey) (v : Value) : Eval σ Unit := do
  match ← defineOwn I r k (.ofProperty (.plain v)) with
  | none => pure ()
  | some refusal => refusal.raise k

/-- Writes a stored value at the receiver of a write. -/
def writeAt (I : Interp σ) (k : PropertyKey) (v receiver : Value) : Eval σ (Option Refusal) := do
  match receiver with
  | .object target =>
    let o ← object target
    match o.kind with
    | .proxy _ _ _ =>
      match ← I.own target k with
      | some ⟨.accessor _ _, _, _⟩ => return some .noSetter
      | some ⟨.data _ false, _, _⟩ => return some .readOnly
      | some _ => defineOwn I target k (.ofValue v)
      | none => defineOwn I target k (.ofProperty (.plain v))
    | _ =>
      match o.own? k with
      | some ⟨.accessor _ _, _, _⟩ => return some .noSetter
      | some ⟨.data _ false, _, _⟩ => return some .readOnly
      | some p =>
        if isArrayObject o && k.isNamed "length" then resize I target (.ofValue v)
        else
          updateObject target (·.place k { p with slot := .data v true })
          return none
      | none =>
        if !o.extensible then return some .notExtensible
        defineOwn I target k (.ofProperty (.plain v))
  | _ => return some .notObject

/-- Writes a property along the prototypes; `fuel` bounds their number. -/
def setAlong (I : Interp σ) (k : PropertyKey) (v receiver : Value) :
    Nat → Ref → Eval σ (Option Refusal)
  | 0, _ => throw .exhausted
  | fuel + 1, r => do
    let o ← object r
    match o.kind with
    | .proxy target handler _ =>
      let t ← proxyTarget target
      match ← proxyTrap I handler "set" with
      | none => I.set t k v receiver
      | some f =>
        let ok ← I.call f (refValue handler) #[.object t, keyValue k, v, receiver]
        return if ok.isTruthy then none else some .proxyRefused
    | _ =>
      match o.own? k with
      | some ⟨.data _ true, _, _⟩ => writeAt I k v receiver
      | some ⟨.data _ false, _, _⟩ => return some .readOnly
      | some ⟨.accessor _ (some f), _, _⟩ =>
        let _ ← I.call (.object f) receiver #[v]
        return none
      | some ⟨.accessor _ none, _, _⟩ => return some .noSetter
      | none =>
        match o.prototype with
        | some p => setAlong I k v receiver fuel p
        | none => writeAt I k v receiver

/-- Writes a property of an object; tells why not, if it is refused. -/
def trySet (I : Interp σ) (r : Ref) (k : PropertyKey) (v : Value) : Eval σ (Option Refusal) := do
  setAlong I k v (.object r) (← chainBound) r

/-- Writes a property of an object; a refusal is an error. -/
def setProperty (I : Interp σ) (r : Ref) (k : PropertyKey) (v : Value) : Eval σ Unit := do
  match ← trySet I r k v with
  | none => pure ()
  | some refusal => refusal.raise k

/-- Writes a property of a value; a refusal is an error in strict code. -/
def setMember (I : Interp σ) (target : Value) (k : PropertyKey) (v : Value) (strict : Bool) :
    Eval σ Unit := do
  let refusal ←
    match target with
    | .object r => trySet I r k v
    | .undefined => failAbout "TypeError" "cannot set property '" k "' of undefined"
    | .null => failAbout "TypeError" "cannot set property '" k "' of null"
    | _ =>
      match primitivePrototype target with
      | some p => setAlong I k v target (← chainBound) p.ref
      | none => pure none
  match refusal with
  | some refusal => if strict then refusal.raise k
  | none => pure ()

/-- Deletes a property of an object; tells why not, if it is refused. -/
def deleteOwn (I : Interp σ) (r : Ref) (k : PropertyKey) : Eval σ (Option Refusal) := do
  let o ← object r
  match o.kind with
  | .proxy target handler _ =>
    let t ← proxyTarget target
    match ← proxyTrap I handler "deleteProperty" with
    | none => I.delete t k
    | some f =>
      let ok ← I.call f (refValue handler) #[.object t, keyValue k]
      return if ok.isTruthy then none else some .notDeletable
  | _ =>
    match o.own? k with
    | none => return none
    | some p =>
      if !p.configurable then return some .notDeletable
      updateObject r (·.remove k)
      return none

/-- The property that an object has by itself. -/
def ownProperty (I : Interp σ) (r : Ref) (k : PropertyKey) : Eval σ (Option Property) := do
  let o ← object r
  match o.kind with
  | .proxy target handler _ =>
    let t ← proxyTarget target
    match ← proxyTrap I handler "getOwnPropertyDescriptor" with
    | none => I.own t k
    | some f =>
      match ← I.call f (refValue handler) #[.object t, keyValue k] with
      | .object d =>
        let v ← I.get d "value" (.object d)
        let flag (name : String) : Eval σ Bool := return (← I.get d name (.object d)).isTruthy
        return some ⟨.data v (← flag "writable"), ← flag "enumerable", ← flag "configurable"⟩
      | _ => return none
  | _ => return o.own? k

/-- The items of something like an array. -/
def listItems (I : Interp σ) (v : Value) : Eval σ (Array Value) := do
  match v with
  | .object r =>
    let o ← object r
    match o.kind with
    | .array items length _ =>
      if items.size = length then return items
      else
        (List.range length).toArray.mapM fun i => getProperty I r (.ofIndex i)
    | _ =>
      let n ← lengthOf I r
      (List.range n).toArray.mapM fun i => getProperty I r (.ofIndex i)
  | _ => typeFault "not an object"

/-- The keys of the properties that an object has by itself. -/
def keysOf (I : Interp σ) (r : Ref) : Eval σ (List PropertyKey) := do
  let o ← object r
  match o.kind with
  | .proxy target handler _ =>
    let t ← proxyTarget target
    match ← proxyTrap I handler "ownKeys" with
    | none => I.ownKeys t
    | some f =>
      let listed ← I.call f (refValue handler) #[.object t]
      let items ← listItems I listed
      items.toList.filterMapM fun v =>
        match v with
        | .string s => return some (.name s)
        | .symbol id => return some (.symbol id)
        | _ => typeFault "proxy: properties must be strings or symbols"
  | _ => return o.ownKeys

/-- The prototype of an object. -/
def prototypeOf (I : Interp σ) (r : Ref) : Eval σ (Option Ref) := do
  let o ← object r
  match o.kind with
  | .proxy target handler _ =>
    let t ← proxyTarget target
    match ← proxyTrap I handler "getPrototypeOf" with
    | none => I.prototypeOf t
    | some f =>
      match ← I.call f (refValue handler) #[.object t] with
      | .object p => return some p
      | .null => return none
      | _ => typeFault "proxy: inconsistent prototype"
  | _ => return o.prototype

/-- Whether an object is on the chain of prototypes of another one. -/
def isOnChain (target : Ref) : Nat → Ref → Eval σ Bool
  | 0, _ => return false
  | fuel + 1, r => do
    if r == target then return true
    match (← object r).prototype with
    | some p => isOnChain target fuel p
    | none => return false

/-- Gives an object another prototype; a refusal is an error. -/
def changePrototype (I : Interp σ) (r : Ref) (p : Option Ref) : Eval σ Unit := do
  let o ← object r
  match o.kind with
  | .proxy target handler _ =>
    let t ← proxyTarget target
    match ← proxyTrap I handler "setPrototypeOf" with
    | none => let _ ← I.setPrototype t p
    | some f =>
      let ok ← I.call f (refValue handler) #[.object t, refValue p]
      if !ok.isTruthy then typeFault "proxy: bad prototype"
  | _ =>
    if o.prototype == p then return ()
    if !o.extensible then typeFault "object is not extensible"
    match p with
    | some q =>
      if ← isOnChain r (← chainBound) q then typeFault "circular prototype chain"
    | none => pure ()
    updateObject r fun o => { o with prototype := p }

/-- Whether properties may be added to an object. -/
def isExtensible (I : Interp σ) (r : Ref) : Eval σ Bool := do
  let o ← object r
  match o.kind with
  | .proxy target handler _ =>
    let t ← proxyTarget target
    match ← proxyTrap I handler "isExtensible" with
    | none => I.isExtensible t
    | some f => return (← I.call f (refValue handler) #[.object t]).isTruthy
  | _ => return o.extensible

/-- Lets no property be added to an object any more. -/
def preventExtensions (I : Interp σ) (r : Ref) : Eval σ Bool := do
  let o ← object r
  match o.kind with
  | .proxy target handler _ =>
    let t ← proxyTarget target
    match ← proxyTrap I handler "preventExtensions" with
    | none => I.preventExtensions t
    | some f => return (← I.call f (refValue handler) #[.object t]).isTruthy
  | _ =>
    updateObject r fun o => { o with extensible := false }
    return true

/-- The keys of the listed properties with text keys that an object has by itself. -/
def listedKeys (I : Interp σ) (r : Ref) : Eval σ (List Name) := do
  (← keysOf I r).filterMapM fun k => do
    match k with
    | .symbol _ => return none
    | .name n =>
      match ← ownProperty I r k with
      | some p => return if p.enumerable then some n else none
      | none => return none

/-- Whether a value counts as an array, also behind proxies. -/
def isArray : Nat → Value → Eval σ Bool
  | 0, _ => return false
  | fuel + 1, v => do
    match v with
    | .object r =>
      match (← object r).kind with
      | .array _ _ _ => return true
      | .proxy (some t) _ _ => isArray fuel (.object t)
      | .proxy none _ _ => typeFault "revoked proxy"
      | _ => return false
    | _ => return false

/-- A native function object. -/
def newNative (f : Native) (name : Utf16) (length : Nat) : Eval σ Ref := do
  let r ← allocate (.bare (.native f) (some Intrinsic.functionPrototype.ref))
  putProperty r "length" (.readOnly (Value.ofNat length))
  putProperty r "name" (.readOnly (.string name))
  return r

/-- The object that one step of an iteration gives. -/
def stepResult (v : Value) (done : Bool) : Eval σ Value := do
  let r ← newObject
  putProperty r "value" (.plain v)
  putProperty r "done" (.plain (.bool done))
  return .object r

/-! ## Iteration -/

/-- A value that is gone through item by item: the iterator and its method. -/
structure Iteration where
  iterator : Value
  next : Value

/-- Starts to go through a value. -/
def iterate (I : Interp σ) (v : Value) : Eval σ Iteration := do
  let f ← getMember I v KnownSymbol.iterator.key
  if !(← isCallable f) then typeFault "value is not iterable"
  let iterator ← I.call f v #[]
  if !iterator.isObject then typeFault "not an object"
  let next ← getMember I iterator "next"
  return ⟨iterator, next⟩

/-- The next item, unless there is none. -/
def Iteration.step (I : Interp σ) (it : Iteration) : Eval σ (Option Value) := do
  let result ← I.call it.next it.iterator #[]
  if !result.isObject then typeFault "iterator must return an object"
  if (← getMember I result "done").isTruthy then return none
  return some (← getMember I result "value")

/-- Ends an iteration before its time. -/
def Iteration.close (I : Interp σ) (it : Iteration) : Eval σ Unit := do
  let f ← getMember I it.iterator "return"
  if f.isNullish then return ()
  let r ← I.call f it.iterator #[]
  if !r.isObject then typeFault "not an object"

/-- Ends an iteration because of an error, which stays the one that counts. -/
def Iteration.abandon (I : Interp σ) (it : Iteration) : Eval σ Unit := do
  try
    let f ← getMember I it.iterator "return"
    if !f.isNullish then
      let _ ← I.call f it.iterator #[]
  catch e =>
    match e with
    | .thrown _ => pure ()
    | other => throw other

/-- A number of rounds that no run reaches. -/
def manyRounds : Nat := 2 ^ 40

/-- Gathers the items that are left. -/
def Iteration.collect (I : Interp σ) (it : Iteration) :
    Nat → Array Value → Eval σ (Array Value)
  | 0, _ => throw .exhausted
  | n + 1, acc => do
    match ← it.step I with
    | none => return acc
    | some v => it.collect I n (acc.push v)

/-- Whether arrays are gone through as they were made. -/
def arraysIteratePlainly : Eval σ Bool := do
  let proto ← object Intrinsic.arrayPrototype.ref
  let iteratorProto ← object Intrinsic.arrayIteratorPrototype.ref
  let isData (p : Option Property) (r : Ref) : Bool :=
    match p with
    | some ⟨.data (.object f) _, _, _⟩ => f == r
    | _ => false
  let untouched :=
    match iteratorProto.properties.get? "next" with
    | some ⟨.data (.object f) _, _, _⟩ => some f
    | _ => none
  let isNext ←
    match untouched with
    | none => pure false
    | some f =>
      match (← object f).kind with
      | .native (.iteratorMethod .nextOfArray) => pure true
      | _ => pure false
  return isNext && isData (proto.properties.get? KnownSymbol.iterator.key) Intrinsic.arrayValues.ref

/-- All items of a value that is gone through. -/
def itemsOf (I : Interp σ) (v : Value) : Eval σ (Array Value) := do
  let plain : Option (Array Value) ←
    match v with
    | .object r =>
      let o ← object r
      match o.kind with
      | .array items length _ =>
        if items.size = length && o.prototype == some Intrinsic.arrayPrototype.ref
            && o.properties.entries.isEmpty then
          if ← arraysIteratePlainly then pure (some items) else pure none
        else pure none
      | _ => pure none
    | _ => pure none
  match plain with
  | some items => return items
  | none =>
    let it ← iterate I v
    it.collect I manyRounds #[]

end Eval

end ScriptHost.Script
