import ScriptHost.Host.Image

/-!
# Order and sum of host values

Numbers, texts and sequences have an order each; nothing else has one.  Numbers, texts, lists and
tuples can be added to their like.
-/

namespace ScriptHost.HostValue

/-- Whether a number is below another one; an integer and a double compare as exact numbers. -/
def numberLt : Int ⊕ Float → Int ⊕ Float → Bool
  | .inl i, .inl j => i < j
  | .inl i, .inr x => if x.isInf then 0 < x else lt (fun n => i < n) (Binary.ofInt i < x) x
  | .inr x, .inl i => if x.isInf then x < 0 else lt (fun n => n < i) (x < Binary.ofInt i) x
  | .inr x, .inr y => x < y
where
  /-- The exact answer for an integral double, and the rounded one for the others: a double with
  a fraction is so small that no integer is rounded past it. -/
  lt (exact : Int → Bool) (rounded : Bool) (x : Float) : Bool :=
    match Binary.toInt? x with
    | some n => exact n
    | Option.none => rounded

mutual

/-- Whether two items of sequences are the same.  What is not a number is the same as itself. -/
def sameItem : HostValue → HostValue → Bool
  | list xs, list ys | tuple xs, tuple ys => sameItems xs ys
  | dict es, dict fs => es.length == fs.length && entriesWithin es fs
  | float x, float y => x == y || x.isNaN && y.isNaN
  | v, w => sameKey v w

/-- Whether two lists of items agree item by item. -/
def sameItems : List HostValue → List HostValue → Bool
  | [], [] => true
  | v :: vs, w :: ws => sameItem v w && sameItems vs ws
  | _, _ => false

/-- Whether each entry is also among other ones. -/
def entriesWithin : List (HostValue × HostValue) → List (HostValue × HostValue) → Bool
  | [], _ => true
  | (key, v) :: rest, fs =>
    (match fs.find? fun e => sameKey e.1 key with
      | some e => sameItem v e.2
      | Option.none => false) && entriesWithin rest fs

end

mutual

/-- Whether a value comes before another one. -/
def comesBefore : HostValue → HostValue → Except Fault Bool
  | list xs, list ys => listBefore xs ys
  | tuple xs, tuple ys => listBefore xs ys
  | v, w =>
    match v.number?, w.number?, v.text?, w.text? with
    | some a, some b, _, _ => .ok (numberLt a b)
    | _, _, some s, some t => .ok (Text.lt s t)
    | _, _, _, _ => .error (.unorderable v.typeName w.typeName)

/-- Whether a sequence comes before another one: the first items that differ decide. -/
def listBefore : List HostValue → List HostValue → Except Fault Bool
  | _, [] => .ok false
  | [], _ :: _ => .ok true
  | v :: vs, w :: ws => if sameItem v w then listBefore vs ws else comesBefore v w

end

/-- The longest beginning of a list in which no item comes before the one in front of it, `last`
being in front of the first, and the rest. -/
def ascending (last : HostValue) :
    List HostValue → Except Fault (List HostValue × List HostValue)
  | [] => .ok ([], [])
  | v :: rest => do
    if ← comesBefore v last then return ([], v :: rest)
    let (run, others) ← ascending v rest
    return (v :: run, others)

/-- The longest beginning of a list in which each item comes before the one in front of it, `last`
being in front of the first, and the rest. -/
def descending (last : HostValue) :
    List HostValue → Except Fault (List HostValue × List HostValue)
  | [] => .ok ([], [])
  | v :: rest => do
    if !(← comesBefore v last) then return ([], v :: rest)
    let (run, others) ← descending v rest
    return (v :: run, others)

/-- Where a value belongs between two places of an ordered list, after its equals.  Each question
halves what is left. -/
def place (items : Array HostValue) (v : HostValue) (low high : Nat) : Except Fault Nat :=
  if low < high then
    let middle := low + (high - low) / 2
    match comesBefore v (items.getD middle .none) with
    | .ok true => place items v low middle
    | .ok false => place items v (middle + 1) high
    | .error e => .error e
  else .ok low
termination_by high - low

/-- Puts a value into an ordered list, after its equals. -/
def insertOrdered (items : List HostValue) (v : HostValue) : Except Fault (List HostValue) := do
  let i ← place items.toArray v 0 items.length
  return items.take i ++ v :: items.drop i

/-- Items in ascending order; equal items keep their order.  The run that the list begins with is
taken as it is, or turned around, and each further item is put into its place. -/
def sorted : List HostValue → Except Fault (List HostValue)
  | v :: w :: rest => do
    if ← comesBefore w v then
      let (run, others) ← descending w rest
      others.foldlM insertOrdered (v :: w :: run).reverse
    else
      let (run, others) ← ascending w rest
      others.foldlM insertOrdered (v :: w :: run)
  | items => .ok items

/-- An integer as a double, unless it is too large for one. -/
def floatOfInt (i : Int) : Except Fault Float :=
  let x := Binary.ofInt i
  if x.isInf then .error (.worded .overflow "int too large to convert to float") else .ok x

/-- The sum of two values. -/
def sum (v w : HostValue) : Except Fault HostValue :=
  match v.number?, w.number? with
  | some (.inl i), some (.inl j) => .ok (int (i + j))
  | some (.inl i), some (.inr y) => do return float ((← floatOfInt i) + y)
  | some (.inr x), some (.inl j) => do return float (x + (← floatOfInt j))
  | some (.inr x), some (.inr y) => .ok (float (x + y))
  | _, _ =>
    match v, w with
    | list xs, list ys => .ok (list (xs ++ ys))
    | tuple xs, tuple ys => .ok (tuple (xs ++ ys))
    | bytes bs, bytes cs => .ok (bytes (bs ++ cs))
    | _, _ =>
      match v.text?, w.text? with
      | some s, some t => .ok (str (s ++ t))
      | some _, Option.none => cannotConcatenate "str" w
      | Option.none, _ =>
        match v with
        | list _ => cannotConcatenate "list" w
        | tuple _ => cannotConcatenate "tuple" w
        | bytes _ =>
          .error (.worded .type (Text.ofString ("can't concat " ++ w.typeName ++ " to bytes")))
        | _ =>
          .error (.worded .type (Text.ofString ("unsupported operand type(s) for +: '"
            ++ v.typeName ++ "' and '" ++ w.typeName ++ "'")))
where
  /-- Refuses to add a value of another type to a sequence. -/
  cannotConcatenate (kind : String) (w : HostValue) : Except Fault HostValue :=
    .error (.worded .type (Text.ofString ("can only concatenate " ++ kind ++ " (not \""
      ++ w.typeName ++ "\") to " ++ kind)))

end ScriptHost.HostValue
