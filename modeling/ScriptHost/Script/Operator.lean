import ScriptHost.Script.Access

/-!
# Operators

What the operators do with values.  Operands are converted first, the left one before the right
one; big integers do not mix with numbers.
-/

namespace ScriptHost.Script.Operator

open Eval

variable {σ : Type}

/-- Refuses operands of which one is a big integer and the other is not. -/
def mixed {α : Type} : Eval σ α := typeFault "cannot convert to bigint"

/-- The greatest size of a big integer, in bits. -/
def bigLimit : Nat := 2 ^ 20

/-- A big integer, unless it is too large. -/
def bigResult (i : Int) : Eval σ Value := do
  if bigLimit < i.natAbs.log2 then fail "RangeError" "integer is too large"
  return .bigint i

/-- Arithmetic on big integers. -/
def bigArithmetic (op : BinaryOp) (a b : Int) : Eval σ Value := do
  match op with
  | .add => bigResult (a + b)
  | .sub => bigResult (a - b)
  | .mul => bigResult (a * b)
  | .div =>
    if b = 0 then fail "RangeError" "division by zero"
    bigResult (Int.tdiv a b)
  | .rem =>
    if b = 0 then fail "RangeError" "division by zero"
    bigResult (Int.tmod a b)
  | .pow =>
    if b < 0 then fail "RangeError" "negative exponent"
    if 1 < a.natAbs && bigLimit < b.toNat * a.natAbs.log2 then
      fail "RangeError" "integer is too large"
    if a.natAbs ≤ 1 then
      bigResult (if a = -1 && b % 2 = 1 then -1 else if b = 0 then 1 else a.natAbs)
    else bigResult (Number.bigPow a b.toNat)
  | .shiftLeft =>
    if bigLimit < b then fail "RangeError" "integer is too large"
    bigResult (if b < -bigLimit then (if a < 0 then -1 else 0) else Number.shift a b)
  | .shiftRight =>
    if b < -bigLimit then fail "RangeError" "integer is too large"
    bigResult (if bigLimit < b then (if a < 0 then -1 else 0) else Number.shift a (-b))
  | .shiftRightZero => typeFault "bigint operands are forbidden for >>>"
  | .bitAnd => bigResult (Number.bitwise Bool.and a b)
  | .bitOr => bigResult (Number.bitwise Bool.or a b)
  | .bitXor => bigResult (Number.bitwise Bool.xor a b)
  | _ => return .undefined

/-- Arithmetic on numbers. -/
def numberArithmetic (op : BinaryOp) (a b : Value) : Value :=
  let shiftCount := Number.uint32 b % 32
  match op with
  | .add => Number.add a b
  | .sub => Number.sub a b
  | .mul => Number.mul a b
  | .div => Number.div a b
  | .rem => Number.rem a b
  | .pow => Number.pow a b
  | .shiftLeft => .int (Int32.ofInt ((Number.int32 a).toInt * 2 ^ shiftCount))
  | .shiftRight => .int (Int32.ofInt (Int.fdiv (Number.int32 a).toInt (2 ^ shiftCount)))
  | .shiftRightZero => Value.ofNat (Number.uint32 a / 2 ^ shiftCount)
  | .bitAnd => .int (Number.int32 a &&& Number.int32 b)
  | .bitOr => .int (Number.int32 a ||| Number.int32 b)
  | .bitXor => .int (Number.int32 a ^^^ Number.int32 b)
  | _ => .undefined

/-- Arithmetic on converted operands. -/
def arithmetic (op : BinaryOp) (a b : Value) : Eval σ Value := do
  match a, b with
  | .bigint a, .bigint b => bigArithmetic op a b
  | .bigint _, _ | _, .bigint _ => mixed
  | a, b => return numberArithmetic op a b

/-- The sum of two values, or the text that their texts make together. -/
def add (I : Interp σ) (a b : Value) : Eval σ Value := do
  match a, b with
  | .int _, .int _ => return Number.add a b
  | _, _ =>
    let a ← toPrimitive I a .any
    let b ← toPrimitive I b .any
    match a, b with
    | .string _, _ | _, .string _ => return .string ((← primitiveText a) ++ (← primitiveText b))
    | _, _ => arithmetic .add (← primitiveNumeric a) (← primitiveNumeric b)

/-- Compares an integer with a double: whether it is less, or nothing if there is no order. -/
def intLessFloat (a : Int) (x : Float) : Option Bool :=
  if x.isNaN then none
  else if x.isInf then some (0.0 < x)
  else
    let t := Number.truncated x
    some (a < t || (a = t && Binary.ofInt t < x))

/-- Compares a double with an integer: whether it is less, or nothing if there is no order. -/
def floatLessInt (x : Float) (a : Int) : Option Bool :=
  if x.isNaN then none
  else if x.isInf then some (x < 0.0)
  else
    let t := Number.truncated x
    some (t < a || (a = t && x < Binary.ofInt t))

/-- Whether one primitive is less than another, or nothing if they have no order. -/
def primitiveLess (a b : Value) : Eval σ (Option Bool) := do
  match a, b with
  | .string s, .string t => return some (s.lt t)
  | .bigint i, .string t =>
    match Number.bigIntOfText? t.toText with
    | some j => return some (i < j)
    | none => return none
  | .string s, .bigint j =>
    match Number.bigIntOfText? s.toText with
    | some i => return some (i < j)
    | none => return none
  | _, _ =>
    let a ← primitiveNumeric a
    let b ← primitiveNumeric b
    match a, b with
    | .bigint i, .bigint j => return some (i < j)
    | .bigint i, b => return intLessFloat i (Number.toFloat b)
    | a, .bigint j => return floatLessInt (Number.toFloat a) j
    | a, b =>
      let x := Number.toFloat a
      let y := Number.toFloat b
      return if x.isNaN || y.isNaN then none else some (x < y)

/-- Compares two values. -/
def compare (I : Interp σ) (op : BinaryOp) (a b : Value) : Eval σ Value := do
  let a ← toPrimitive I a .number
  let b ← toPrimitive I b .number
  match op with
  | .less => return .bool ((← primitiveLess a b).getD false)
  | .greater => return .bool ((← primitiveLess b a).getD false)
  | .lessEq => return .bool ((← primitiveLess b a) == some false)
  | _ => return .bool ((← primitiveLess a b) == some false)

/-- Whether an integer and a double are the same number. -/
def intEqualsFloat (i : Int) (x : Float) : Bool := Binary.toInt? x == some i

/-- Equality of primitives with conversions. -/
def looselyEqualPrimitives (a b : Value) : Bool :=
  let number (v : Value) : Value :=
    match v with
    | .string s => Number.ofText s.toText
    | .bool b => .int (if b then 1 else 0)
    | v => v
  match a, b with
  | .undefined, .null | .null, .undefined => true
  | .undefined, .undefined | .null, .null => true
  | .undefined, _ | _, .undefined | .null, _ | _, .null => false
  | .string s, .string t => s == t
  | .symbol i, .symbol j => i == j
  | .symbol _, _ | _, .symbol _ => false
  | .bigint i, .bigint j => i == j
  | .bigint i, .string t => Number.bigIntOfText? t.toText == some i
  | .string s, .bigint j => Number.bigIntOfText? s.toText == some j
  | .bigint i, b => intEqualsFloat i (Number.toFloat (number b))
  | a, .bigint j => intEqualsFloat j (Number.toFloat (number a))
  | a, b => Number.toFloat (number a) == Number.toFloat (number b)

/-- Equality with conversions. -/
def looselyEquals (I : Interp σ) (a b : Value) : Eval σ Bool := do
  match a, b with
  | .object r, .object s => return r == s
  | .object _, .undefined | .object _, .null | .undefined, .object _ | .null, .object _ =>
    return false
  | .object _, b => return looselyEqualPrimitives (← toPrimitive I a .any) b
  | a, .object _ => return looselyEqualPrimitives a (← toPrimitive I b .any)
  | a, b => return looselyEqualPrimitives a b

/-- Whether an object inherits from what a function gives to its instances. -/
def inheritsFrom (I : Interp σ) (v callee : Value) : Eval σ Bool := do
  match v with
  | .object r =>
    match ← getMember I callee "prototype" with
    | .object p => go p (← chainBound) r
    | _ => typeFault "operand 'prototype' property is not an object"
  | _ => return false
where
  /-- Follows the prototypes. -/
  go (p : Ref) : Nat → Ref → Eval σ Bool
    | 0, _ => return false
    | fuel + 1, r => do
      match ← Eval.prototypeOf I r with
      | none => return false
      | some q => if q == p then return true else go p fuel q

/-- The function behind the bindings of a function to a receiver. -/
def behindBindings : Nat → Value → Eval σ Value
  | 0, v => return v
  | fuel + 1, v => do
    match v with
    | .object r =>
      match (← object r).kind with
      | .bound target _ _ => behindBindings fuel (.object target)
      | _ => return v
    | _ => return v

/-- Whether a value is an instance of a function, by the ordinary rule. -/
def ordinaryInstanceOf (I : Interp σ) (v callee : Value) : Eval σ Bool := do
  if !(← isCallable callee) then return false
  inheritsFrom I v (← behindBindings (← chainBound) callee)

/-- Whether a value is an instance of a function. -/
def instanceOf (I : Interp σ) (v callee : Value) : Eval σ Bool := do
  if !callee.isObject then typeFault "invalid 'instanceof' right operand"
  let f ← getMember I callee KnownSymbol.hasInstance.key
  if !f.isNullish then return (← I.call f callee #[v]).isTruthy
  if !(← isCallable callee) then typeFault "invalid 'instanceof' right operand"
  ordinaryInstanceOf I v callee

/-- An operator with two operands. -/
def binary (I : Interp σ) (op : BinaryOp) (a b : Value) : Eval σ Value := do
  match op with
  | .add => add I a b
  | .less | .lessEq | .greater | .greaterEq => compare I op a b
  | .looseEq => return .bool (← looselyEquals I a b)
  | .looseNe => return .bool !(← looselyEquals I a b)
  | .strictEq => return .bool (Value.strictEquals a b)
  | .strictNe => return .bool !(Value.strictEquals a b)
  | .instanceOf => return .bool (← instanceOf I a b)
  | .isIn =>
    match b with
    | .object r => return .bool (← hasProperty I r (← toKey I a))
    | _ => typeFault "invalid 'in' operand"
  | _ =>
    let a ← toNumeric I a
    let b ← toNumeric I b
    arithmetic op a b

/-- An operator with one operand. -/
def unary (I : Interp σ) (op : UnaryOp) (v : Value) : Eval σ Value := do
  match op with
  | .not => return .bool !v.isTruthy
  | .void => return .undefined
  | .plus =>
    match ← toNumeric I v with
    | .bigint _ => typeFault "bigint argument with unary +"
    | n => return n
  | .negate =>
    match ← toNumeric I v with
    | .bigint i => return .bigint (-i)
    | n => return Number.neg n
  | .complement =>
    match ← toNumeric I v with
    | .bigint i => return .bigint (-i - 1)
    | n => return .int (~~~ (Number.int32 n))

/-- A number or big integer with one added or taken away. -/
def step (increment : Bool) (n : Value) : Value :=
  match n with
  | .bigint i => .bigint (if increment then i + 1 else i - 1)
  | n => if increment then Number.add n (.int 1) else Number.sub n (.int 1)

/-- What `typeof` says of a value. -/
def typeName (v : Value) : Eval σ String := do
  if ← isCallable v then return "function" else return v.primitiveTypeName

end ScriptHost.Script.Operator
