import ScriptHost.Script.Library.Functions

/-!
# Numbers, Booleans, symbols and big integers

Their constructors, functions and methods, and the functions of `Math`.
-/

namespace ScriptHost.Script.Library

open Eval

variable {σ : Type}

/-- The primitive that a receiver is or holds. -/
def heldPrimitive (this_ : Value) : Eval σ Value := do
  match this_ with
  | .object r =>
    match (← object r).kind with
    | .wrapper v => return v
    | _ => return .undefined
  | v => return v

/-- The number that a receiver is or holds. -/
def heldNumber (this_ : Value) : Eval σ Value := do
  match ← heldPrimitive this_ with
  | .int i => return .int i
  | .float x => return .float x
  | _ => typeFault "not a number"

/-- The base that an argument asks for. -/
def baseArgument (I : Interp σ) (v : Value) : Eval σ Nat := do
  if v.isUndefined then return 10
  let i ← toInteger I v
  if i < 2 || 36 < i then fail "RangeError" "radix must be between 2 and 36"
  return i.toNat

/-- A number in a base. -/
def numberInBase (base : Nat) (v : Value) : Utf16 :=
  match v with
  | .int i => Utf16.ofString (Number.intInBase base i.toInt)
  | v =>
    let x := Number.toFloat v
    if base = 10 then Number.floatText x else Utf16.ofString (Number.floatInBase base x)

/-- The number of digits that an argument asks for. -/
def digitsArgument (I : Interp σ) (v : Value) (least : Nat) : Eval σ Nat := do
  let i ← toInteger I v
  if i < least || 100 < i then fail "RangeError" "invalid number of digits"
  return i.toNat

/-- Whether a double is a number with a decimal. -/
def isFiniteNumber (x : Float) : Bool := !(x.isNaN || x.isInf)

/-- Methods of numbers. -/
def numberMethod (I : Interp σ) (f : NumberMethod) (this_ : Value) (args : Array Value) :
    Eval σ Value := do
  let v ← heldNumber this_
  let x := Number.toFloat v
  match f with
  | .valueOf => return v
  | .toString => return .string (numberInBase (← baseArgument I (arg args 0)) v)
  | .toLocaleString => return .string (numberInBase 10 v)
  | .toFixed =>
    let n ← digitsArgument I (arg args 0) 0
    if !isFiniteNumber x || 1e21 ≤ x.abs then return .string (numberInBase 10 v)
    return .ofString (Number.toFixed x n)
  | .toExponential =>
    let i ← toInteger I (arg args 0)
    if !isFiniteNumber x then return .string (numberInBase 10 v)
    if (arg args 0).isUndefined then return .ofString (Number.toExponential x none)
    if i < 0 || 100 < i then fail "RangeError" "invalid number of digits"
    return .ofString (Number.toExponential x (some i.toNat))
  | .toPrecision =>
    if (arg args 0).isUndefined then return .string (numberInBase 10 v)
    let i ← toInteger I (arg args 0)
    if !isFiniteNumber x then return .string (numberInBase 10 v)
    if i < 1 || 100 < i then fail "RangeError" "invalid number of digits"
    return .ofString (Number.toPrecision x i.toNat)

/-- Whether a double is an integer. -/
def isIntegral (x : Float) : Bool := (Binary.toInt? x).isSome

/-- Functions of `Number`. -/
def numberFunction (f : NumberFunction) (args : Array Value) : Value :=
  match (arg args 0).toFloat? with
  | none => .bool false
  | some x =>
    .bool (match f with
      | .isNaN => x.isNaN
      | .isFinite => isFiniteNumber x
      | .isInteger => isIntegral x
      | .isSafeInteger => isIntegral x && x.abs ≤ 9007199254740991.0)

/-- What the constructor of numbers makes. -/
def makeNumber (I : Interp σ) (newTarget : Option Ref) (args : Array Value) : Eval σ Value := do
  let v ←
    if args.isEmpty then pure (.int 0)
    else do
      match ← toNumeric I (arg args 0) with
      | .bigint i => pure (Value.ofInt i)
      | v => pure v
  match newTarget with
  | none => return v
  | some _ =>
    let p ← instancePrototype I newTarget .numberPrototype
    return .object (← allocate (.bare (.wrapper v) (some p)))

/-- What the constructor of Booleans makes. -/
def makeBoolean (I : Interp σ) (newTarget : Option Ref) (args : Array Value) : Eval σ Value := do
  let v : Value := .bool (arg args 0).isTruthy
  match newTarget with
  | none => return v
  | some _ =>
    let p ← instancePrototype I newTarget .booleanPrototype
    return .object (← allocate (.bare (.wrapper v) (some p)))

/-- Methods of Booleans. -/
def booleanMethod (f : BooleanMethod) (this_ : Value) : Eval σ Value := do
  match ← heldPrimitive this_ with
  | .bool b =>
    match f with
    | .toString => return .ofString (if b then "true" else "false")
    | .valueOf => return .bool b
  | _ => typeFault "not a boolean"

/-- What the constructor of symbols makes. -/
def makeSymbol (I : Interp σ) (newTarget : Option Ref) (args : Array Value) : Eval σ Value := do
  if newTarget.isSome then typeFault "not a constructor"
  let d ← if (arg args 0).isUndefined then pure none else do pure (some (← toText I (arg args 0)))
  return .symbol (← newSymbol d)

/-- The symbol that a receiver is or holds. -/
def heldSymbol (this_ : Value) : Eval σ Nat := do
  match ← heldPrimitive this_ with
  | .symbol id => return id
  | _ => typeFault "not a symbol"

/-- Functions and methods of symbols. -/
def symbolFunction (I : Interp σ) (f : SymbolFunction) (this_ : Value) (args : Array Value) :
    Eval σ Value := do
  match f with
  | .toString =>
    let d ← symbolDescription (← heldSymbol this_)
    return .string (Utf16.ofString "Symbol(" ++ d.getD ∅ ++ Utf16.ofString ")")
  | .valueOf | .toPrimitive => return .symbol (← heldSymbol this_)
  | .description =>
    match ← symbolDescription (← heldSymbol this_) with
    | some d => return .string d
    | none => return .undefined
  | .for_ =>
    let key ← toText I (arg args 0)
    match (← machine).sharedSymbols.find? (·.1 == key) with
    | some (_, id) => return .symbol id
    | none =>
      let id ← newSymbol (some key)
      modifyMachine fun m => { m with sharedSymbols := (key, id) :: m.sharedSymbols }
      return .symbol id
  | .keyFor =>
    match arg args 0 with
    | .symbol id =>
      match (← machine).sharedSymbols.find? (·.2 == id) with
      | some (key, _) => return .string key
      | none => return .undefined
    | _ => typeFault "not a symbol"

/-- The big integer of a value. -/
def toBigInt (I : Interp σ) (v : Value) : Eval σ Int := do
  match ← toPrimitive I v .number with
  | .bigint i => return i
  | .bool b => return if b then 1 else 0
  | .string s =>
    match Number.bigIntOfText? s.toText with
    | some i => return i
    | none => fail "SyntaxError" "invalid bigint literal"
  | _ => typeFault "cannot convert to bigint"

/-- What the constructor of big integers makes. -/
def makeBigInt (I : Interp σ) (newTarget : Option Ref) (args : Array Value) : Eval σ Value := do
  if newTarget.isSome then typeFault "not a constructor"
  let v ← toPrimitive I (arg args 0) .number
  match v with
  | .int i => return .bigint i.toInt
  | .float x =>
    if !isFiniteNumber x then fail "RangeError" "cannot convert NaN or Infinity to bigint"
    match Binary.toInt? x with
    | some i => return .bigint i
    | none => fail "RangeError" "cannot convert to bigint: not an integer"
  | v => return .bigint (← toBigInt I v)

/-- The number of bits that an argument says. -/
def bitsArgument (I : Interp σ) (v : Value) : Eval σ Nat := do
  let i ← toInteger I v
  if i < 0 || 2 ^ 53 ≤ i then fail "RangeError" "invalid array index"
  return i.toNat

/-- Functions and methods of big integers. -/
def bigIntFunction (I : Interp σ) (f : BigIntFunction) (this_ : Value) (args : Array Value) :
    Eval σ Value := do
  let held : Eval σ Int := do
    match ← heldPrimitive this_ with
    | .bigint i => return i
    | _ => typeFault "not a bigint"
  match f with
  | .valueOf => return .bigint (← held)
  | .toString =>
    let i ← held
    return .ofString (Number.intInBase (← baseArgument I (arg args 0)) i)
  | .asUintN =>
    let bits ← bitsArgument I (arg args 0)
    let i ← toBigInt I (arg args 1)
    if i.natAbs.log2 < bits && 0 ≤ i then return .bigint i
    return .bigint (i % (2 ^ bits : Nat))
  | .asIntN =>
    let bits ← bitsArgument I (arg args 0)
    let i ← toBigInt I (arg args 1)
    if i.natAbs.log2 + 2 ≤ bits then return .bigint i
    return .bigint (Number.wrapSigned bits i)

/-! ## Mathematics -/

/-- A double rounded to the nearest integer, a half going up. -/
def roundHalfUp (x : Float) : Float :=
  if !isFiniteNumber x || 4503599627370496.0 ≤ x.abs then x
  else
    let r := (x + 0.5).floor
    let r := if r - x > 0.5 then r - 1.0 else r
    if r == 0.0 && (x < 0.0 || Binary.isNegativeZero x) then Binary.ofRatio true 0 1 else r

/-- The integer part of a double, as a double. -/
def truncateFloat (x : Float) : Float := if x < 0.0 then x.ceil else x.floor

/-- A power of the base of natural logarithms, less one, also for small exponents. -/
def expm1 (x : Float) : Float :=
  if x.abs < 1e-5 then x + x * x / 2.0 + x * x * x / 6.0 else Float.exp x - 1.0

/-- The natural logarithm of one more than a number, also for small numbers. -/
def log1p (x : Float) : Float :=
  if x.abs < 1e-5 then x - x * x / 2.0 + x * x * x / 3.0 else Float.log (1.0 + x)

/-- The smaller of two doubles, a NaN winning and the zero below zero counting as smaller. -/
def lesser (a b : Float) : Float :=
  if a.isNaN || b.isNaN then Binary.nan
  else if a == 0.0 && b == 0.0 then (if Binary.isNegativeZero a then a else b)
  else if a < b then a else b

/-- The greater of two doubles, a NaN winning and the zero below zero counting as smaller. -/
def greater (a b : Float) : Float :=
  if a.isNaN || b.isNaN then Binary.nan
  else if a == 0.0 && b == 0.0 then (if Binary.isNegativeZero a then b else a)
  else if b < a then a else b

/-- The next number of a sequence that looks like chance. -/
def nextRandom (seed : UInt64) : UInt64 :=
  let x := seed ^^^ (seed >>> 12)
  let x := x ^^^ (x <<< 25)
  x ^^^ (x >>> 27)

/-- The number of zero bits before the first one of 32. -/
def leadingZeros (n : Nat) : Nat := if n = 0 then 32 else 31 - n.log2

/-- A function of one double. -/
def singleFunction : MathFunction → Float → Float
  | .abs, x => x.abs
  | .floor, x => x.floor
  | .ceil, x => x.ceil
  | .round, x => roundHalfUp x
  | .sqrt, x => x.sqrt
  | .acos, x => x.acos
  | .asin, x => x.asin
  | .atan, x => x.atan
  | .cos, x => x.cos
  | .exp, x => x.exp
  | .log, x => x.log
  | .sin, x => x.sin
  | .tan, x => x.tan
  | .trunc, x => truncateFloat x
  | .sign, x => if x.isNaN || x == 0.0 then x else if x < 0.0 then -1.0 else 1.0
  | .cosh, x => x.cosh
  | .sinh, x => x.sinh
  | .tanh, x => x.tanh
  | .acosh, x => x.acosh
  | .asinh, x => x.asinh
  | .atanh, x => x.atanh
  | .expm1, x => expm1 x
  | .log1p, x => log1p x
  | .log2, x => x.log2
  | .log10, x => x.log10
  | .cbrt, x => x.cbrt
  | .fround, x => x.toFloat32.toFloat
  | _, x => x

/-- Functions of `Math`. -/
def mathFunction (I : Interp σ) (f : MathFunction) (args : Array Value) : Eval σ Value := do
  match f with
  | .min | .max =>
    let mut acc : Option Float := none
    for v in args do
      let x ← toDouble I v
      acc := some (match acc with
        | none => x
        | some a => if f == .min then lesser a x else greater a x)
    return Value.ofFloat (acc.getD (Binary.infinity (f == .max)))
  | .atan2 => return Value.ofFloat (Float.atan2 (← toDouble I (arg args 0)) (← toDouble I (arg args 1)))
  | .pow =>
    return Value.ofFloat (Number.power (← toDouble I (arg args 0)) (← toDouble I (arg args 1)))
  | .hypot =>
    let mut total := 0.0
    let mut unbounded := false
    for v in args do
      let x ← toDouble I v
      if x.isInf then unbounded := true
      total := total + x * x
    return Value.ofFloat (if unbounded then Binary.infinity false else total.sqrt)
  | .random =>
    let seed := nextRandom (← machine).randomSeed
    modifyMachine fun m => { m with randomSeed := seed }
    return Value.ofFloat (Binary.ofRatio false (seed.toNat / 2 ^ 12) (2 ^ 52))
  | .imul =>
    let a ← toInt32 I (arg args 0)
    let b ← toInt32 I (arg args 1)
    return .int (a * b)
  | .clz32 => return Value.ofNat (leadingZeros (Number.uint32 (← toNumber I (arg args 0))))
  | f => return Value.ofFloat (singleFunction f (← toDouble I (arg args 0)))

end ScriptHost.Script.Library
