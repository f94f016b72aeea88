import ScriptHost.Decimal.Binary
import ScriptHost.Text.Utf16

/-!
# Script values

A script value is a primitive or a reference to an object.  Numbers have two forms: integers of 32
bits, and doubles.  Which form an operation gives is visible to the host, so it is part of the
value.
-/

namespace ScriptHost.Script

/-- A reference to an object of the heap. -/
structure Ref where
  index : Nat
deriving DecidableEq, Inhabited

/-- A script value. -/
inductive Value
  | undefined
  | null
  | bool (b : Bool)
  | int (i : Int32)
  | float (x : Float)
  | string (s : Utf16)
  | bigint (i : Int)
  | symbol (id : Nat)
  | object (r : Ref)
deriving Inhabited

/-- A variable or property name. -/
abbrev Name := Utf16

/-- The key of a property. -/
inductive PropertyKey
  | name (n : Name)
  | symbol (id : Nat)
deriving DecidableEq, Inhabited

namespace PropertyKey

instance : Coe String PropertyKey := ⟨fun s => .name (Utf16.ofString s)⟩

/-- The value of a run of decimal digits without a leading zero. -/
def decimalValue? (units : Array UInt16) : Option Nat :=
  if units.isEmpty || 10 < units.size then none
  else if !units.all fun u => 0x30 ≤ u.toNat && u.toNat ≤ 0x39 then none
  else if 1 < units.size && units[0]? == some 0x30 then none
  else some (units.foldl (fun n u => 10 * n + (u.toNat - 0x30)) 0)

/-- The array index that a key denotes. -/
def arrayIndex? : PropertyKey → Option Nat
  | name n => (decimalValue? n.units).filter (· < 2 ^ 32 - 1)
  | symbol _ => none

/-- The key of an array index. -/
def ofIndex (i : Nat) : PropertyKey := .name (Utf16.ofString (Nat.repr i))

/-- Whether a key is the name of a given string. -/
def isNamed (k : PropertyKey) (s : String) : Bool := k == .name (Utf16.ofString s)

end PropertyKey

namespace Value

/-- A string value. -/
def ofString (s : String) : Value := .string (Utf16.ofString s)

/-- The least integer of 32 bits. -/
def minInt : Int := -(2 ^ 31)

/-- The greatest integer of 32 bits. -/
def maxInt : Int := 2 ^ 31 - 1

/-- An integer as a number: in 32 bits if it fits, else as the nearest double. -/
def ofInt (i : Int) : Value :=
  if minInt ≤ i && i ≤ maxInt then .int (Int32.ofInt i) else .float (Binary.ofInt i)

/-- A natural number as a number. -/
def ofNat (n : Nat) : Value := ofInt n

/-- A double as a number: in 32 bits if it is an integer that fits, and not the zero below zero. -/
def ofFloat (x : Float) : Value :=
  let i := (Binary.truncate? x).getD 0
  if minInt ≤ i && i ≤ maxInt && (Binary.ofInt i).toBits == x.toBits then .int (Int32.ofInt i)
  else .float x

/-- The double of an integer of 32 bits. -/
def intToFloat (i : Int32) : Float := Binary.ofInt i.toInt

/-- Whether a value is undefined. -/
def isUndefined : Value → Bool
  | undefined => true
  | _ => false

/-- Whether a value is undefined or null. -/
def isNullish : Value → Bool
  | undefined | null => true
  | _ => false

/-- Whether a value is an object. -/
def isObject : Value → Bool
  | object _ => true
  | _ => false

/-- The object that a value refers to. -/
def ref? : Value → Option Ref
  | object r => some r
  | _ => none

/-- The key that a string names. -/
def keyOfString (s : Utf16) : PropertyKey := .name s

/-- Whether a value counts as true. -/
def isTruthy : Value → Bool
  | undefined | null => false
  | bool b => b
  | int i => i != 0
  | float x => !(x == 0.0 || x.isNaN)
  | string s => !s.isEmpty
  | bigint i => i != 0
  | symbol _ | object _ => true

/-- The number of a numeric value as a double. -/
def toFloat? : Value → Option Float
  | int i => some (intToFloat i)
  | float x => some x
  | _ => none

/-- Strict equality. -/
def strictEquals : Value → Value → Bool
  | undefined, undefined | null, null => true
  | bool a, bool b => a == b
  | string a, string b => a == b
  | bigint a, bigint b => a == b
  | symbol a, symbol b => a == b
  | object a, object b => a == b
  | int a, int b => a == b
  | int a, float y => intToFloat a == y
  | float x, int b => x == intToFloat b
  | float x, float y => x == y
  | _, _ => false

/-- Equality in which a NaN equals itself and the two zeros are one value. -/
def sameValueZero (a b : Value) : Bool :=
  match a.toFloat?, b.toFloat? with
  | some x, some y => x == y || (x.isNaN && y.isNaN)
  | _, _ => strictEquals a b

/-- Equality in which a NaN equals itself and the two zeros differ. -/
def sameValue (a b : Value) : Bool :=
  match a.toFloat?, b.toFloat? with
  | some x, some y =>
    (x.isNaN && y.isNaN) || (x == y && Binary.isNegativeZero x == Binary.isNegativeZero y)
  | _, _ => strictEquals a b

/-- What `typeof` says of a primitive, and of an object that cannot be called. -/
def primitiveTypeName : Value → String
  | undefined => "undefined"
  | null => "object"
  | bool _ => "boolean"
  | int _ | float _ => "number"
  | string _ => "string"
  | bigint _ => "bigint"
  | symbol _ => "symbol"
  | object _ => "object"

end Value

end ScriptHost.Script
