import ScriptHost.Script.Library.Functions

/-!
# Arrays

The functions of `Array` and the methods of arrays.  The methods work on anything that has a length
and items under the numbers below it.
-/

namespace ScriptHost.Script.Library

open Eval

variable {σ : Type}

/-- The key of a place in an array. -/
def indexKey (i : Nat) : PropertyKey := .ofIndex i

/-- Reads an item. -/
def itemAt (I : Interp σ) (r : Ref) (i : Nat) : Eval σ Value := getProperty I r (indexKey i)

/-- Reads an item, unless there is none at the place. -/
def itemAt? (I : Interp σ) (r : Ref) (i : Nat) : Eval σ (Option Value) := do
  if ← hasProperty I r (indexKey i) then return some (← itemAt I r i) else return none

/-- Deletes a property; a refusal is an error. -/
def deleteOrFail (I : Interp σ) (r : Ref) (k : PropertyKey) : Eval σ Unit := do
  match ← deleteOwn I r k with
  | none => pure ()
  | some refusal => refusal.raise k

/-- Writes a length. -/
def setLength (I : Interp σ) (r : Ref) (n : Nat) : Eval σ Unit :=
  setProperty I r "length" (Value.ofNat n)

/-- Goes through the places of an array that hold something, from the first one on. -/
def forItems {α : Type} (I : Interp σ) (r : Ref) (length : Nat)
    (step : α → Nat → Value → Eval σ (Except Value α)) : Nat → α → Eval σ (Except Value α)
  | 0, a => return .ok a
  | n + 1, a => do
    let i := length - (n + 1)
    match ← itemAt? I r i with
    | none => forItems I r length step n a
    | some v =>
      match ← step a i v with
      | .ok a => forItems I r length step n a
      | .error e => return .error e

/-- Goes through all places of an array, whether they hold anything or not. -/
def forPlaces {α : Type} (I : Interp σ) (r : Ref) (length : Nat)
    (step : α → Nat → Value → Eval σ (Except Value α)) : Nat → α → Eval σ (Except Value α)
  | 0, a => return .ok a
  | n + 1, a => do
    let i := length - (n + 1)
    match ← step a i (← itemAt I r i) with
    | .ok a => forPlaces I r length step n a
    | .error e => return .error e

/-- A new array of the same class as a given one. -/
def arrayLike (I : Interp σ) (r : Ref) (length : Nat) : Eval σ Ref := do
  let plain : Eval σ Ref := do
    let a ← newArray #[]
    if length != 0 then updateObject a (·.resized length)
    return a
  if !(← isArray (← chainBound) (.object r)) then plain
  else
    let c ← getProperty I r "constructor"
    let c ←
      match c with
      | .object k => do
        match ← getProperty I k KnownSymbol.species.key with
        | .null => pure .undefined
        | s => pure s
      | c => pure c
    match c with
    | .undefined => plain
    | .object k =>
      match (← object k).kind with
      | .native (.constructor .array) => plain
      | _ =>
        if !(← isConstructor c) then typeFault "not a constructor"
        match ← I.construct k #[Value.ofNat length] k with
        | .object a => return a
        | _ => plain
    | _ => typeFault "not a constructor"

/-- Appends items to an array whose end is known. -/
def appendItems (I : Interp σ) (r : Ref) (start : Nat) (items : Array Value) : Eval σ Nat := do
  let mut n := start
  for v in items do
    createProperty I r (indexKey n) v
    n := n + 1
  return n

/-- Whether the items of a value are put in one by one where arrays are joined. -/
def isSpreadable (I : Interp σ) (v : Value) : Eval σ Bool := do
  match v with
  | .object r =>
    match ← getProperty I r KnownSymbol.isConcatSpreadable.key with
    | .undefined => isArray (← chainBound) v
    | s => return s.isTruthy
  | _ => return false

/-- Puts the items of values after one another. -/
def concat (I : Interp σ) (r : Ref) (args : Array Value) : Eval σ Value := do
  let out ← arrayLike I r 0
  let mut n := 0
  for v in #[.object r] ++ args do
    if ← isSpreadable I v then
      match v with
      | .object s =>
        let length ← lengthOf I s
        for i in List.range length do
          match ← itemAt? I s i with
          | some x => createProperty I out (indexKey (n + i)) x
          | none => pure ()
        n := n + length
      | _ => pure ()
    else
      createProperty I out (indexKey n) v
      n := n + 1
  setLength I out n
  return .object out

/-- The texts of the items with a separator between neighbours. -/
def join (I : Interp σ) (r : Ref) (separator : Utf16) (localized : Bool) : Eval σ Value := do
  let length ← lengthOf I r
  let mut out : Utf16 := ∅
  for i in List.range length do
    if i != 0 then out := out ++ separator
    let v ← itemAt I r i
    if !v.isNullish then
      let t ← if localized then invoke I v "toLocaleString" #[] else pure v
      out := out ++ (← toText I t)
  return .string out

/-- Merges two sorted lists; the left one wins a tie. -/
def mergeWith {α : Type} (le : α → α → Eval σ Bool) :
    Nat → List α → List α → List α → Eval σ (List α)
  | _, acc, [], ys => return acc.reverse ++ ys
  | _, acc, xs, [] => return acc.reverse ++ xs
  | 0, acc, xs, ys => return acc.reverse ++ xs ++ ys
  | n + 1, acc, x :: xs, y :: ys => do
    if ← le x y then mergeWith le n (x :: acc) xs (y :: ys)
    else mergeWith le n (y :: acc) (x :: xs) ys

/-- Sorts a list, keeping the order of equal items; `fuel` bounds how often it is halved. -/
def sortWith {α : Type} (le : α → α → Eval σ Bool) : Nat → List α → Eval σ (List α)
  | 0, xs => return xs
  | fuel + 1, xs => do
    match xs with
    | [] | [_] => return xs
    | _ =>
      let half := xs.length / 2
      let left ← sortWith le fuel (xs.take half)
      let right ← sortWith le fuel (xs.drop half)
      mergeWith le xs.length [] left right

/-- Whether one item comes no later than another, by a function of the script. -/
def comparedBy (I : Interp σ) (f a b : Value) : Eval σ Bool := do
  let n ← toDouble I (← I.call f .undefined #[a, b])
  return !(0.0 < n)

/-- Sorts an array in place: by a function, or by the texts of the items. -/
def sort (I : Interp σ) (r : Ref) (f : Value) : Eval σ Value := do
  let length ← lengthOf I r
  let mut gathered : List Value := []
  let mut undefineds := 0
  for i in List.range length do
    match ← itemAt? I r i with
    | some .undefined => undefineds := undefineds + 1
    | some v => gathered := v :: gathered
    | none => pure ()
  let items := gathered.reverse
  let sorted ←
    if f.isUndefined then do
      let keyed ← items.mapM fun v => do return (← toText I v, v)
      let keyed ← sortWith (fun a b => return !(b.1.lt a.1)) 64 keyed
      pure (keyed.map (·.2))
    else sortWith (comparedBy I f) 64 items
  let all := sorted ++ List.replicate undefineds .undefined
  let mut n := 0
  for v in all do
    setProperty I r (indexKey n) v
    n := n + 1
  for i in List.range (length - n) do
    if ← hasProperty I r (indexKey (n + i)) then deleteOrFail I r (indexKey (n + i))
  return .object r

/-- Moves an item from one place to another, or the lack of one. -/
def moveItem (I : Interp σ) (r : Ref) (source target : Nat) : Eval σ Unit := do
  match ← itemAt? I r source with
  | some v => setProperty I r (indexKey target) v
  | none => deleteOrFail I r (indexKey target)

/-- Takes `removed` items out at a place and puts others in. -/
def splice (I : Interp σ) (r : Ref) (args : Array Value) : Eval σ Value := do
  let length ← lengthOf I r
  let start ← indexArgument I (arg args 0) length 0
  let removed : Nat ←
    if args.size = 0 then pure 0
    else if args.size = 1 then pure (length - start)
    else do
      let n ← toInteger I (arg args 1)
      pure (min n.toNat (length - start))
  let items := args.extract 2 args.size
  let out ← arrayLike I r removed
  for i in List.range removed do
    match ← itemAt? I r (start + i) with
    | some v => createProperty I out (indexKey i) v
    | none => pure ()
  setLength I out removed
  let tail := length - start - removed
  if items.size < removed then
    for i in List.range tail do
      moveItem I r (start + removed + i) (start + items.size + i)
    for i in (List.range (removed - items.size)).reverse do
      deleteOrFail I r (indexKey (start + items.size + tail + i))
  else if removed < items.size then
    for i in (List.range tail).reverse do
      moveItem I r (start + removed + i) (start + items.size + i)
  let mut n := start
  for v in items do
    setProperty I r (indexKey n) v
    n := n + 1
  setLength I r (start + items.size + tail)
  return .object out

/-- Turns an array around in place. -/
def reverse (I : Interp σ) (r : Ref) : Eval σ Value := do
  let length ← lengthOf I r
  for low in List.range (length / 2) do
    let high := length - 1 - low
    let a ← itemAt? I r low
    let b ← itemAt? I r high
    match b with
    | some v => setProperty I r (indexKey low) v
    | none => deleteOrFail I r (indexKey low)
    match a with
    | some v => setProperty I r (indexKey high) v
    | none => deleteOrFail I r (indexKey high)
  return .object r

/-- Appends the items of an array, those of arrays inside it up to a depth. -/
def flatten (I : Interp σ) (out : Ref) : Nat → Nat → Ref → Nat → Eval σ Nat
  | 0, _, _, _ => throw .exhausted
  | fuel + 1, depth, r, start => do
    let length ← lengthOf I r
    let mut n := start
    for i in List.range length do
      match ← itemAt? I r i with
      | none => pure ()
      | some v =>
        match v with
        | .object s =>
          if 0 < depth && (← isArray (← chainBound) v) then
            n ← flatten I out fuel (depth - 1) s n
          else
            createProperty I out (indexKey n) v
            n := n + 1
        | _ =>
          createProperty I out (indexKey n) v
          n := n + 1
    return n

/-- Folds the items of an array with a function, in the order of the given places. -/
def fold (I : Interp σ) (r : Ref) (f : Value) (places : List Nat) (first : Option Value) :
    Eval σ Value := do
  let mut acc := first
  for i in places do
    match ← itemAt? I r i with
    | none => pure ()
    | some v =>
      match acc with
      | none => acc := some v
      | some a => acc := some (← I.call f .undefined #[a, v, Value.ofNat i, .object r])
  match acc with
  | some v => return v
  | none => typeFault "empty array"

/-- An iterator over an array. -/
def arrayIterator (r : Ref) (mode : IterationMode) : Eval σ Value := do
  return .object (← allocate (.bare (.arrayIterator (some r) 0 mode)
    (some Intrinsic.arrayIteratorPrototype.ref)))

/-- The value in an outcome. -/
def outcomeValue : Except Value Value → Value
  | .ok v => v
  | .error v => v

/-- Methods of arrays. -/
def arrayMethod (I : Interp σ) (f : ArrayMethod) (this_ : Value) (args : Array Value) :
    Eval σ Value := do
  let r ← toObject this_
  let self : Value := .object r
  let first := arg args 0
  let receiver := arg args 1
  let ask (v : Value) (i : Nat) : Eval σ Value :=
    I.call first receiver #[v, Value.ofNat i, self]
  match f with
  | .concat => concat I r args
  | .every =>
    let n ← lengthOf I r
    needCallable first
    return outcomeValue (← forItems I r n (fun a i v => do
      if (← ask v i).isTruthy then return .ok a else return .error (.bool false)) n (.bool true))
  | .some_ =>
    let n ← lengthOf I r
    needCallable first
    return outcomeValue (← forItems I r n (fun a i v => do
      if (← ask v i).isTruthy then return .error (.bool true) else return .ok a) n (.bool false))
  | .forEach =>
    let n ← lengthOf I r
    needCallable first
    return outcomeValue (← forItems I r n (fun a i v => do
      let _ ← ask v i
      return .ok a) n .undefined)
  | .map =>
    let n ← lengthOf I r
    needCallable first
    let out ← arrayLike I r n
    let _ ← forItems I r n (fun (a : Unit) i v => do
      createProperty I out (indexKey i) (← ask v i)
      return .ok a) n ()
    return .object out
  | .filter =>
    let n ← lengthOf I r
    needCallable first
    let out ← arrayLike I r 0
    let _ ← forItems I r n (fun (k : Nat) i v => do
      if (← ask v i).isTruthy then
        createProperty I out (indexKey k) v
        return .ok (k + 1)
      else return .ok k) n 0
    return .object out
  | .reduce =>
    let n ← lengthOf I r
    needCallable first
    fold I r first (List.range n) args[1]?
  | .reduceRight =>
    let n ← lengthOf I r
    needCallable first
    fold I r first (List.range n).reverse args[1]?
  | .fill =>
    let n ← lengthOf I r
    let start ← indexArgument I (arg args 1) n 0
    let stop ← indexArgument I (arg args 2) n n
    for i in List.range (stop - start) do
      setProperty I r (indexKey (start + i)) first
    return self
  | .find =>
    let n ← lengthOf I r
    needCallable first
    return outcomeValue (← forPlaces I r n (fun a i v => do
      if (← ask v i).isTruthy then return .error v else return .ok a) n .undefined)
  | .findIndex =>
    let n ← lengthOf I r
    needCallable first
    return outcomeValue (← forPlaces I r n (fun a i v => do
      if (← ask v i).isTruthy then return .error (Value.ofNat i) else return .ok a) n (.int (-1)))
  | .indexOf =>
    let n ← lengthOf I r
    let start ← indexArgument I (arg args 1) n 0
    return outcomeValue (← forItems I r n (fun a i v => do
      if v.strictEquals first then return .error (Value.ofNat i) else return .ok a)
      (n - start) (.int (-1)))
  | .lastIndexOf =>
    let n ← lengthOf I r
    let start : Int ←
      if args.size < 2 then pure ((n : Int) - 1)
      else do
        let i ← toInteger I (arg args 1)
        pure (if i < 0 then i + n else min i ((n : Int) - 1))
    for i in (List.range (start + 1).toNat).reverse do
      match ← itemAt? I r i with
      | some v => if v.strictEquals first then return Value.ofNat i
      | none => pure ()
    return .int (-1)
  | .includes =>
    let n ← lengthOf I r
    let start ← indexArgument I (arg args 1) n 0
    return outcomeValue (← forPlaces I r n (fun a _ v => do
      if v.sameValueZero first then return .error (.bool true) else return .ok a)
      (n - start) (.bool false))
  | .join =>
    let separator ← if first.isUndefined then pure (Utf16.ofString ",") else toText I first
    join I r separator false
  | .toString =>
    let f ← getProperty I r "join"
    if ← isCallable f then I.call f self #[] else objectText I self
  | .toLocaleString => join I r "," true
  | .pop =>
    let n ← lengthOf I r
    if n = 0 then
      setLength I r 0
      return .undefined
    let v ← itemAt I r (n - 1)
    deleteOrFail I r (indexKey (n - 1))
    setLength I r (n - 1)
    return v
  | .push =>
    let n ← lengthOf I r
    let mut i := n
    for v in args do
      setProperty I r (indexKey i) v
      i := i + 1
    setLength I r i
    return Value.ofNat i
  | .shift =>
    let n ← lengthOf I r
    if n = 0 then
      setLength I r 0
      return .undefined
    let v ← itemAt I r 0
    for i in List.range (n - 1) do
      moveItem I r (i + 1) i
    deleteOrFail I r (indexKey (n - 1))
    setLength I r (n - 1)
    return v
  | .unshift =>
    let n ← lengthOf I r
    if args.size != 0 then
      for i in (List.range n).reverse do
        moveItem I r i (i + args.size)
      let mut i := 0
      for v in args do
        setProperty I r (indexKey i) v
        i := i + 1
    setLength I r (n + args.size)
    return Value.ofNat (n + args.size)
  | .reverse => reverse I r
  | .sort =>
    if !first.isUndefined then needCallable first
    sort I r first
  | .slice =>
    let n ← lengthOf I r
    let start ← indexArgument I first n 0
    let stop ← indexArgument I (arg args 1) n n
    let out ← arrayLike I r (stop - start)
    for i in List.range (stop - start) do
      match ← itemAt? I r (start + i) with
      | some v => createProperty I out (indexKey i) v
      | none => pure ()
    setLength I out (stop - start)
    return .object out
  | .splice => splice I r args
  | .copyWithin =>
    let n ← lengthOf I r
    let target ← indexArgument I first n 0
    let start ← indexArgument I (arg args 1) n 0
    let stop ← indexArgument I (arg args 2) n n
    let count := min (stop - start) (n - target)
    let places := List.range count
    for i in if start < target then places.reverse else places do
      moveItem I r (start + i) (target + i)
    return self
  | .flatMap =>
    let n ← lengthOf I r
    needCallable first
    let out ← arrayLike I r 0
    let _ ← forItems I r n (fun (k : Nat) i v => do
      let x ← ask v i
      match x with
      | .object s =>
        if ← isArray (← chainBound) x then return .ok (← flatten I out 1 0 s k)
        else
          createProperty I out (indexKey k) x
          return .ok (k + 1)
      | _ =>
        createProperty I out (indexKey k) x
        return .ok (k + 1)) n 0
    return .object out
  | .flat =>
    let depth : Int ← if first.isUndefined then pure 1 else toInteger I first
    let out ← arrayLike I r 0
    let depth := (min depth 1000).toNat
    let _ ← flatten I out (depth + 1) depth r 0
    return .object out
  | .values => arrayIterator r .values
  | .keys => arrayIterator r .keys
  | .entries => arrayIterator r .entries

/-- A new instance of what makes arrays. -/
def constructedArray (I : Interp σ) (maker : Value) (args : Array Value) : Eval σ Ref := do
  if ← isConstructor maker then
    match maker with
    | .object c =>
      match ← I.construct c args c with
      | .object r => return r
      | _ => newArray #[]
    | _ => newArray #[]
  else newArray #[]

/-- Functions of `Array`. -/
def arrayFunction (I : Interp σ) (f : ArrayFunction) (this_ : Value) (args : Array Value) :
    Eval σ Value := do
  match f with
  | .isArray => return .bool (← isArray (← chainBound) (arg args 0))
  | .of =>
    let r ← constructedArray I this_ #[Value.ofNat args.size]
    let n ← appendItems I r 0 args
    setLength I r n
    return .object r
  | .from_ =>
    let source := arg args 0
    let f := arg args 1
    if !f.isUndefined then needCallable f
    let mapped (v : Value) (i : Nat) : Eval σ Value := do
      if f.isUndefined then return v else I.call f (arg args 2) #[v, Value.ofNat i]
    let iterates ← getMember I source KnownSymbol.iterator.key
    if !iterates.isNullish then
      let items ← itemsOf I source
      let r ← constructedArray I this_ #[]
      let mut i := 0
      for v in items do
        createProperty I r (indexKey i) (← mapped v i)
        i := i + 1
      setLength I r i
      return .object r
    else
      let o ← toObject source
      let n ← lengthOf I o
      let r ← constructedArray I this_ #[Value.ofNat n]
      for i in List.range n do
        createProperty I r (indexKey i) (← mapped (← itemAt I o i) i)
      setLength I r n
      return .object r

/-- What the constructor of arrays makes: of one number, an array of that length. -/
def makeArray (I : Interp σ) (newTarget : Option Ref) (args : Array Value) : Eval σ Value := do
  let proto ← instancePrototype I newTarget .arrayPrototype
  match args.toList with
  | [.int i] =>
    if i < 0 then fail "RangeError" "invalid array length"
    let r ← allocate (.bare (.array #[] 0 true) (some proto))
    updateObject r (·.resized i.toInt.toNat)
    return .object r
  | [.float x] =>
    let n ← toArrayLength I (.float x)
    let r ← allocate (.bare (.array #[] 0 true) (some proto))
    updateObject r (·.resized n)
    return .object r
  | _ => return .object (← allocate (.bare (.array args args.size true) (some proto)))

end ScriptHost.Script.Library
