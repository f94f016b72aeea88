import ScriptHost.Decimal.Style
import ScriptHost.Host.Value
import ScriptHost.Text.Quoted

/-!
# Values in messages

`HostValue.describe` is the form a value takes inside a container; `HostValue.display` is the form
it takes by itself, which differs for texts and enumeration members.  Both fail on an integer of
more than 4300 digits, which has no decimal form here.
-/

namespace ScriptHost

/-- The greatest number of digits of an integer that is written or read in decimal. -/
def maxIntegerDigits : Nat := 4300

/-- An integer in decimal, unless it is too long. -/
def decimalOf? (i : Int) : Option Text :=
  let digits := Nat.toDigits 10 i.natAbs
  if maxIntegerDigits < digits.length then none
  else some ((if i < 0 then '-' :: digits else digits).map CodePoint.ofChar)

namespace HostValue

mutual

/-- The form of a value inside a container. -/
def describe : HostValue → Option Text
  | none => some "None"
  | bool b => some (if b then "True" else "False")
  | int i => decimalOf? i
  | float x => some (Text.ofString (Decimal.hostStyle.write x))
  | str s => some s.quoted
  | intMember i => (decimalOf? i).map fun t => "<Level.MEMBER: " ++ t ++ ">"
  | strMember s => some ("<Level.MEMBER: " ++ s.quoted ++ ">")
  | member v => v.describe.map fun t => "<Level.MEMBER: " ++ t ++ ">"
  | enumeration _ => some "<enum 'Level'>"
  | list xs => (describeAll xs).map fun ts => "[" ++ Text.joinWith ", " ts ++ "]"
  | tuple xs => (describeAll xs).map fun ts =>
      match ts with
      | [t] => "(" ++ t ++ ",)"
      | _ => "(" ++ Text.joinWith ", " ts ++ ")"
  | dict es => (describeEntries es).map fun ts => "\x7b" ++ Text.joinWith ", " ts ++ "\x7d"
  | mappingView es => (describeEntries es).map fun ts =>
      "mappingproxy(\x7b" ++ Text.joinWith ", " ts ++ "\x7d)"
  | set [] => some "set()"
  | set xs => (describeAll xs).map fun ts => "\x7b" ++ Text.joinWith ", " ts ++ "\x7d"
  | bytes bs => some (Text.quotedBytes bs)
  | complex re im =>
    some ((if re = 0 then ([] : Text) else "(" ++ Text.ofInt re ++ (if 0 ≤ im then "+" else ""))
      ++ Text.ofInt im ++ "j" ++ (if re = 0 then ([] : Text) else ")"))
  | record fields => (describeFields fields).map fun ts =>
      "Record(" ++ Text.joinWith ", " ts ++ ")"
  | recordType _ => some "<class 'Record'>"
  | object name _ _ _ => some ("<" ++ Text.ofString name ++ " object>")
  | classObject _ name _ _ => some ("<class '" ++ Text.ofString name ++ "'>")
  | function _ behaviour => some ("<function " ++ Text.ofString behaviour.functionName ++ ">")

/-- The forms of the items of a container. -/
def describeAll : List HostValue → Option (List Text)
  | [] => some []
  | v :: rest => do return (← v.describe) :: (← describeAll rest)

/-- The forms of the entries of a mapping. -/
def describeEntries : List (HostValue × HostValue) → Option (List Text)
  | [] => some []
  | (k, v) :: rest => do
    return ((← k.describe) ++ ": " ++ (← v.describe)) :: (← describeEntries rest)

/-- The forms of the fields of a record. -/
def describeFields : List (Text × HostValue × HostValue) → Option (List Text)
  | [] => some []
  | (name, _, v) :: rest => do
    return (name ++ "=" ++ (← v.describe)) :: (← describeFields rest)

end

/-- The form of a value by itself. -/
def display : HostValue → Option Text
  | str s => some s
  | intMember i => decimalOf? i
  | strMember _ | member _ => some "Level.MEMBER"
  | v => v.describe

/-- Whether a value counts as true. -/
def isTruthy : HostValue → Bool
  | none => false
  | bool b => b
  | int i | intMember i => i != 0
  | float x => x != 0.0
  | str s | strMember s => !s.isEmpty
  | list xs | tuple xs | set xs => !xs.isEmpty
  | dict es | mappingView es => !es.isEmpty
  | bytes bs => !bs.isEmpty
  | complex re im => re != 0 || im != 0
  | _ => true

end HostValue

end ScriptHost
