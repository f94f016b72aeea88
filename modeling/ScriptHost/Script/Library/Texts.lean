import ScriptHost.Script.Library.Arrays
import ScriptHost.Unicode.Case

/-!
# Texts

The functions of `String` and the methods of texts.  Places in a text count units of 16 bits.
-/

namespace ScriptHost.Script.Library

open Eval

variable {σ : Type}

/-- The text that a receiver stands for. -/
def receiverText (I : Interp σ) (this_ : Value) : Eval σ Utf16 := do
  if this_.isNullish then typeFault "null or undefined are forbidden"
  toText I this_

/-- The place of an argument within a text. -/
def clampTo (i : Int) (length : Nat) : Nat := min i.toNat length

/-- Refuses a regular expression where a text is wanted. -/
def refuseRegexp (v : Value) : Eval σ Unit := do
  match v with
  | .object r =>
    match (← object r).kind with
    | .regexp _ _ => typeFault "regexp not supported"
    | _ => pure ()
  | _ => pure ()

/-- A unit as a value. -/
def unitValue (u : UInt16) : Value := .string ⟨#[u]⟩

/-- The pieces of a text between the places where a separator stands. -/
def splitPieces (s separator : Utf16) : Nat → Nat → List Utf16 → List Utf16
  | 0, _, acc => acc.reverse
  | fuel + 1, start, acc =>
    match s.indexOf? separator start with
    | some i => splitPieces s separator fuel (i + separator.length) (s.extract start i :: acc)
    | none => (s.extract start s.length :: acc).reverse

/-- The pieces of a text. -/
def splitText (s separator : Utf16) : List Utf16 :=
  if separator.isEmpty then s.units.toList.map fun u => ⟨#[u]⟩
  else splitPieces s separator (s.length + 1) 0 []

/-- A method that an argument brings along under a symbol. -/
def broughtMethod (I : Interp σ) (v : Value) (symbol : KnownSymbol) : Eval σ (Option Value) := do
  if v.isNullish then return none
  methodOf I v symbol.key

/-- What stands for a match in a replacement text: `$$`, `$&`, and what stands before or after. -/
def expandReplacement (s found : Utf16) (place : Nat) : List UInt16 → List UInt16
  | [] => []
  | d :: m :: rest =>
    if d = 0x24 then
      if m = 0x24 then 0x24 :: expandReplacement s found place rest
      else if m = 0x26 then found.units.toList ++ expandReplacement s found place rest
      else if m = 0x60 then (s.extract 0 place).units.toList ++ expandReplacement s found place rest
      else if m = 0x27 then
        (s.extract (place + found.length) s.length).units.toList
          ++ expandReplacement s found place rest
      else d :: expandReplacement s found place (m :: rest)
    else d :: expandReplacement s found place (m :: rest)
  | d :: rest => d :: expandReplacement s found place rest

/-- The places where a text stands in another one, from a place on. -/
def occurrences (s part : Utf16) : Nat → Nat → List Nat
  | 0, _ => []
  | fuel + 1, start =>
    match s.indexOf? part start with
    | some i => i :: occurrences s part fuel (i + max 1 part.length)
    | none => []

/-- Replaces a text inside another one, everywhere or at its first place. -/
def replaceText (I : Interp σ) (this_ : Value) (args : Array Value) (everywhere : Bool) :
    Eval σ Value := do
  if this_.isNullish then typeFault "cannot convert to object"
  match ← broughtMethod I (arg args 0) .replace with
  | some f => I.call f (arg args 0) #[this_, arg args 1]
  | none =>
    let s ← toText I this_
    let part ← toText I (arg args 0)
    let by_ := arg args 1
    let calls ← isCallable by_
    let template ← if calls then pure ∅ else toText I by_
    let places := occurrences s part (if everywhere then s.length + 1 else 1) 0
    let mut out : Utf16 := ∅
    let mut start := 0
    for i in places do
      let replacement ←
        if calls then do
          toText I (← I.call by_ .undefined #[.string part, Value.ofNat i, .string s])
        else pure ⟨(expandReplacement s part i template.units.toList).toArray⟩
      out := out ++ s.extract start i ++ replacement
      start := i + part.length
    return .string (out ++ s.extract start s.length)

/-- The filling of a text up to a length. -/
def padding (filler : Utf16) (n : Nat) : Utf16 :=
  if filler.isEmpty then ∅
  else
    let times := n / filler.length + 1
    let all := (List.replicate times filler).foldl (· ++ ·) ∅
    all.extract 0 n

/-- A text filled up to a length. -/
def padText (I : Interp σ) (s : Utf16) (args : Array Value) (atStart : Bool) : Eval σ Value := do
  let n ← toInteger I (arg args 0)
  if n ≤ s.length then return .string s
  let filler ← if (arg args 1).isUndefined then pure (Utf16.ofString " ") else toText I (arg args 1)
  if 2 ^ 30 ≤ n then fail "RangeError" "invalid string length"
  let fill := padding filler (n.toNat - s.length)
  return .string (if atStart then fill ++ s else s ++ fill)

/-- The code point that starts at a place. -/
def pointStartingAt (s : Utf16) (i : Nat) : Option Nat :=
  match s.units[i]?, s.units[i + 1]? with
  | some u, some v => if Utf16.isHigh u && Utf16.isLow v then some (Utf16.joinPair u v).val else some u.toNat
  | some u, none => some u.toNat
  | none, _ => none

/-- A text inside a markup element. -/
def marked (I : Interp σ) (s : Utf16) (element attribute_ : String) (v : Value) :
    Eval σ Value := do
  let attributeText : Utf16 ←
    if attribute_.isEmpty then pure ∅
    else do
      let t ← toText I v
      let quoted : Utf16 :=
        ⟨t.units.flatMap fun u =>
          if u = 0x22 then (Utf16.ofString "&quot;").units else #[u]⟩
      pure (Utf16.ofString (" " ++ attribute_ ++ "=\"") ++ quoted ++ Utf16.ofString "\"")
  return .string (Utf16.ofString ("<" ++ element) ++ attributeText ++ Utf16.ofString ">" ++ s
    ++ Utf16.ofString ("</" ++ element ++ ">"))

/-- The text that a receiver holds. -/
def heldText (this_ : Value) : Eval σ Utf16 := do
  match this_ with
  | .string s => return s
  | .object r =>
    match (← object r).kind with
    | .wrapper (.string s) => return s
    | _ => typeFault "not a string"
  | _ => typeFault "not a string"

/-- A method that takes a regular expression, or makes one of its argument. -/
def byRegexp (I : Interp σ) (this_ : Value) (args : Array Value) (symbol : KnownSymbol) :
    Eval σ Value := do
  if this_.isNullish then typeFault "cannot convert to object"
  match ← broughtMethod I (arg args 0) symbol with
  | some f => I.call f (arg args 0) #[this_]
  | none => typeFault "not a function"

/-- Where a part stands, for the methods that look for one. -/
def partArgument (I : Interp σ) (args : Array Value) : Eval σ Utf16 := do
  refuseRegexp (arg args 0)
  toText I (arg args 0)

/-- Methods of texts. -/
def stringMethod (I : Interp σ) (f : StringMethod) (this_ : Value) (args : Array Value) :
    Eval σ Value := do
  match f with
  | .toString | .valueOf => return .string (← heldText this_)
  | .match_ => byRegexp I this_ args .match_
  | .matchAll => byRegexp I this_ args .matchAll
  | .search => byRegexp I this_ args .search
  | .replace => replaceText I this_ args false
  | .replaceAll => replaceText I this_ args true
  | .split =>
    if this_.isNullish then typeFault "cannot convert to object"
    match ← broughtMethod I (arg args 0) .split with
    | some f => I.call f (arg args 0) #[this_, arg args 1]
    | none =>
      let s ← toText I this_
      let limit : Nat ←
        if (arg args 1).isUndefined then pure (2 ^ 32 - 1)
        else do pure (Number.uint32 (← toNumber I (arg args 1)))
      let separator ← toText I (arg args 0)
      let pieces : List Utf16 :=
        if (arg args 0).isUndefined then [s]
        else if s.isEmpty && separator.isEmpty then []
        else splitText s separator
      return .object (← newArray ((pieces.take limit).map Value.string).toArray)
  | _ =>
    let s ← receiverText I this_
    let first := arg args 0
    match f with
    | .charCodeAt =>
      let i ← toInteger I first
      if i < 0 then return .float Binary.nan
      match s.units[i.toNat]? with
      | some u => return Value.ofNat u.toNat
      | none => return .float Binary.nan
    | .charAt =>
      let i ← toInteger I first
      if i < 0 then return .string ∅
      return .string ((s.unitAt? i.toNat).getD ∅)
    | .codePointAt =>
      let i ← toInteger I first
      if i < 0 then return .undefined
      match pointStartingAt s i.toNat with
      | some n => return Value.ofNat n
      | none => return .undefined
    | .concat =>
      let mut out := s
      for v in args do
        out := out ++ (← toText I v)
      return .string out
    | .indexOf =>
      let part ← toText I first
      let start := clampTo (← toInteger I (arg args 1)) s.length
      match s.indexOf? part start with
      | some i => return Value.ofNat i
      | none => return .int (-1)
    | .lastIndexOf =>
      let part ← toText I first
      let x ← toDouble I (arg args 1)
      let start := if x.isNaN then s.length else clampTo (Number.integer (.float x)) s.length
      match s.lastIndexOf? part start with
      | some i => return Value.ofNat i
      | none => return .int (-1)
    | .includes =>
      let part ← partArgument I args
      let start := clampTo (← toInteger I (arg args 1)) s.length
      return .bool (s.indexOf? part start).isSome
    | .startsWith =>
      let part ← partArgument I args
      let start := clampTo (← toInteger I (arg args 1)) s.length
      return .bool (s.matchesAt part start)
    | .endsWith =>
      let part ← partArgument I args
      let stop ←
        if (arg args 1).isUndefined then pure s.length
        else do pure (clampTo (← toInteger I (arg args 1)) s.length)
      return .bool (part.length ≤ stop && s.matchesAt part (stop - part.length))
    | .substring =>
      let a := clampTo (← toInteger I first) s.length
      let b ←
        if (arg args 1).isUndefined then pure s.length
        else do pure (clampTo (← toInteger I (arg args 1)) s.length)
      return .string (s.extract (min a b) (max a b))
    | .substr =>
      let a := clampIndex (← toInteger I first) s.length
      let n : Int ←
        if (arg args 1).isUndefined then pure (s.length : Int) else toInteger I (arg args 1)
      return .string (s.extract a (min s.length (a + (min n s.length).toNat)))
    | .slice =>
      let a ← indexArgument I first s.length 0
      let b ← indexArgument I (arg args 1) s.length s.length
      return .string (s.extract a b)
    | .repeat_ =>
      let n ← toInteger I first
      if n < 0 || 2 ^ 31 ≤ n then fail "RangeError" "invalid repeat count"
      if 2 ^ 30 ≤ n * s.length then fail "RangeError" "invalid string length"
      return .string ((List.replicate (if s.isEmpty then 0 else n.toNat) s).foldl (· ++ ·) ∅)
    | .padEnd => padText I s args false
    | .padStart => padText I s args true
    | .trim => return .string (Utf16.ofText (Number.trim s.toText))
    | .trimEnd => return .string (Utf16.ofText (Number.trimEnd s.toText))
    | .trimStart => return .string (Utf16.ofText (Number.trimStart s.toText))
    | .localeCompare =>
      let t ← toText I first
      return .int (if s.lt t then -1 else if t.lt s then 1 else 0)
    | .normalize =>
      if !first.isUndefined then
        let form ← toText I first
        if !(["NFC", "NFD", "NFKC", "NFKD"].any fun n => Utf16.ofString n == form) then
          fail "RangeError" "bad normalization form"
      return .string s
    | .toLowerCase | .toLocaleLowerCase =>
      return .string (Utf16.ofText (s.toText.flatMap Unicode.fullLower))
    | .toUpperCase | .toLocaleUpperCase =>
      return .string (Utf16.ofText (s.toText.flatMap Unicode.fullUpper))
    | .iterator =>
      return .object (← allocate (.bare (.stringIterator s 0)
        (some Intrinsic.stringIteratorPrototype.ref)))
    | .anchor => marked I s "a" "name" first
    | .big => marked I s "big" "" first
    | .blink => marked I s "blink" "" first
    | .bold => marked I s "b" "" first
    | .fixed => marked I s "tt" "" first
    | .fontcolor => marked I s "font" "color" first
    | .fontsize => marked I s "font" "size" first
    | .italics => marked I s "i" "" first
    | .link => marked I s "a" "href" first
    | .small => marked I s "small" "" first
    | .strike => marked I s "strike" "" first
    | .sub => marked I s "sub" "" first
    | .sup => marked I s "sup" "" first
    | _ => return .string s

/-- Functions of `String`. -/
def stringFunction (I : Interp σ) (f : StringFunction) (args : Array Value) : Eval σ Value := do
  match f with
  | .fromCharCode =>
    let units ← args.mapM fun v => do
      return (Number.uint32 (← toNumber I v) % 2 ^ 16).toUInt16
    return .string ⟨units⟩
  | .fromCodePoint =>
    let points ← args.toList.mapM fun v => do
      match Binary.toInt? (← toDouble I v) with
      | some i =>
        if 0 ≤ i && i < 0x110000 then return CodePoint.ofNat i.toNat
        else fail "RangeError" "invalid code point"
      | none => fail "RangeError" "invalid code point"
    return .string ⟨(Utf16.encode points).toArray⟩
  | .raw =>
    let cooked ← toObject (arg args 0)
    let raw ← toObject (← getProperty I cooked "raw")
    let n ← lengthOf I raw
    let mut out : Utf16 := ∅
    for i in List.range n do
      out := out ++ (← toText I (← itemAt I raw i))
      if i + 1 < n && i + 1 < args.size then
        out := out ++ (← toText I (arg args (i + 1)))
    return .string out

/-- What the constructor of texts makes. -/
def makeString (I : Interp σ) (newTarget : Option Ref) (args : Array Value) : Eval σ Value := do
  let s : Utf16 ←
    match args.toList.head? with
    | none => pure ∅
    | some (.symbol id) =>
      if newTarget.isSome then typeFault "cannot convert symbol to string"
      let d ← symbolDescription id
      pure (Utf16.ofString "Symbol(" ++ d.getD ∅ ++ Utf16.ofString ")")
    | some v => toText I v
  match newTarget with
  | none => return .string s
  | some _ =>
    let p ← instancePrototype I newTarget .stringPrototype
    return .object (← allocate (.bare (.wrapper (.string s)) (some p)))

end ScriptHost.Script.Library
