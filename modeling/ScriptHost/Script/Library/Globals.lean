import ScriptHost.Script.Library.Scalars
import ScriptHost.Text.Utf8

/-!
# Functions of the global object

Reading numbers, escaping texts for addresses, and what regular expression objects and proxies show
of themselves.
-/

namespace ScriptHost.Script.Library

open Eval

variable {σ : Type}

/-- Throws the error of an address. -/
def failAddress {α : Type} (message : String) : Eval σ α := fail "URIError" message

/-- The characters with a meaning of their own in an address. -/
def reservedInAddress : List Char := [';', '/', '?', ':', '@', '&', '=', '+', '$', ',', '#']

/-- The characters other than letters and digits that need no escape. -/
def plainInAddress : List Char := ['-', '_', '.', '!', '~', '*', '\'', '(', ')']

/-- A letter or digit of ASCII. -/
def isAsciiWord (c : Char) : Bool := c.isAlphanum

/-- An escape of a byte. -/
def byteEscape (b : Nat) : List UInt16 :=
  let digit (d : Nat) : UInt16 := (Number.digitChar (d % 16)).toUpper.toNat.toUInt16
  [0x25, digit (b / 16), digit b]

/-- Escapes a text; reserved characters only if `component`. -/
def encodeAddress (component : Bool) : List UInt16 → Eval σ (List UInt16)
  | [] => return []
  | u :: rest => do
    let c := Char.ofNat u.toNat
    if u.toNat < 128 && (isAsciiWord c || plainInAddress.contains c
        || (!component && reservedInAddress.contains c)) then
      return u :: (← encodeAddress component rest)
    else if Utf16.isLow u then failAddress "invalid character"
    else if Utf16.isHigh u then
      match rest with
      | v :: rest =>
        if !Utf16.isLow v then failAddress "expecting surrogate pair"
        let bytes := Utf8.encodePoint (Utf16.joinPair u v)
        return bytes.flatMap (fun b => byteEscape b.toNat) ++ (← encodeAddress component rest)
      | [] => failAddress "expecting surrogate pair"
    else
      let bytes := Utf8.encodePoint (.ofNat u.toNat)
      return bytes.flatMap (fun b => byteEscape b.toNat) ++ (← encodeAddress component rest)

/-- The value of a hexadecimal digit. -/
def hexUnit? (u : UInt16) : Option Nat := (CodePoint.ofNat u.toNat).hexValue?

/-- The byte of the escape at the start of units. -/
def escapedByte (us : List UInt16) : Eval σ (Nat × List UInt16) := do
  match us with
  | p :: rest =>
    if p != 0x25 then failAddress "expecting %"
    match rest with
    | a :: b :: rest =>
      match hexUnit? a, hexUnit? b with
      | some x, some y => return (16 * x + y, rest)
      | _, _ => failAddress "expecting hex digit"
    | _ => failAddress "expecting hex digit"
  | [] => failAddress "expecting %"

/-- Reads `n` continuation bytes, each as an escape. -/
def continuationBytes : Nat → Nat → List UInt16 → Eval σ (Nat × List UInt16)
  | 0, v, us => return (v, us)
  | n + 1, v, us => do
    let (b, rest) ← escapedByte us
    if b / 64 != 2 then return (0, rest)
    continuationBytes n (64 * v + b % 64) rest

/-- Resolves the escapes of a text; those of reserved characters only if `component`. -/
def decodeAddress (component : Bool) : Nat → List UInt16 → Eval σ (List UInt16)
  | 0, _ => return []
  | _, [] => return []
  | fuel + 1, u :: rest => do
    if u != 0x25 then return u :: (← decodeAddress component fuel rest)
    let (b, after) ← escapedByte (u :: rest)
    if b < 128 then
      if !component && reservedInAddress.contains (Char.ofNat b) then
        return u :: (← decodeAddress component fuel rest)
      else return b.toUInt16 :: (← decodeAddress component fuel after)
    else
      let (count, least, start) :=
        if 0xC0 ≤ b && b ≤ 0xDF then (1, 0x80, b % 32)
        else if 0xE0 ≤ b && b ≤ 0xEF then (2, 0x800, b % 16)
        else if 0xF0 ≤ b && b ≤ 0xF7 then (3, 0x10000, b % 8)
        else (0, 1, 0)
      let (v, after) ← continuationBytes count start after
      if v < least || 0x110000 ≤ v || (0xD800 ≤ v && v < 0xE000) then failAddress "malformed UTF-8"
      return Utf16.encodePoint (.ofNat v) ++ (← decodeAddress component fuel after)

/-- Escapes units by number. -/
def escapeUnits : List UInt16 → List UInt16
  | [] => []
  | u :: rest =>
    let c := Char.ofNat u.toNat
    if u.toNat < 128 && (isAsciiWord c || ['@', '*', '_', '+', '-', '.', '/'].contains c) then
      u :: escapeUnits rest
    else if u.toNat < 256 then byteEscape u.toNat ++ escapeUnits rest
    else
      [0x25, 0x75] ++ (byteEscape (u.toNat / 256)).drop 1 ++ (byteEscape (u.toNat % 256)).drop 1
        ++ escapeUnits rest

/-- The number of hexadecimal digits, if all are. -/
def hexUnits? (us : List UInt16) : Option Nat :=
  (us.mapM hexUnit?).map fun ds => ds.foldl (fun n d => 16 * n + d) 0

/-- Resolves escapes by number. -/
def unescapeUnits : Nat → List UInt16 → List UInt16
  | 0, us => us
  | _, [] => []
  | fuel + 1, u :: rest =>
    if u != 0x25 then u :: unescapeUnits fuel rest
    else
      let long := if rest.head? == some 0x75 && 5 ≤ rest.length then hexUnits? ((rest.drop 1).take 4) else none
      let short := if 2 ≤ rest.length then hexUnits? (rest.take 2) else none
      match long, short with
      | some n, _ => n.toUInt16 :: unescapeUnits fuel (rest.drop 5)
      | none, some n => n.toUInt16 :: unescapeUnits fuel (rest.drop 2)
      | none, none => u :: unescapeUnits fuel rest

/-- Functions of the global object. Evaluating a text goes to the outermost scope. -/
def globalFunction (I : Interp σ) (f : GlobalFunction) (args : Array Value) : Eval σ Value := do
  let first := arg args 0
  match f with
  | .parseInt =>
    let t ← toText I first
    return Number.parseInt t.toText (← toInt32 I (arg args 1))
  | .parseFloat => return Number.parseFloat (← toText I first).toText
  | .isNaN => return .bool (← toDouble I first).isNaN
  | .isFinite => return .bool (isFiniteNumber (← toDouble I first))
  | .encodeUri =>
    let s ← toText I first
    return .string ⟨(← encodeAddress false s.units.toList).toArray⟩
  | .encodeUriComponent =>
    let s ← toText I first
    return .string ⟨(← encodeAddress true s.units.toList).toArray⟩
  | .decodeUri =>
    let s ← toText I first
    return .string ⟨(← decodeAddress false (s.length + 1) s.units.toList).toArray⟩
  | .decodeUriComponent =>
    let s ← toText I first
    return .string ⟨(← decodeAddress true (s.length + 1) s.units.toList).toArray⟩
  | .escape =>
    let s ← toText I first
    return .string ⟨(escapeUnits s.units.toList).toArray⟩
  | .unescape =>
    let s ← toText I first
    return .string ⟨(unescapeUnits (s.length + 1) s.units.toList).toArray⟩
  | .dateClock => return .int 0
  | .eval =>
    match first with
    | .string s => I.evaluateText { scope := 0, strict := false, records := true } false s
    | v => return v

/-! ## Regular expression objects -/

/-- The flags that a regular expression may have. -/
def regexpFlags : List Char := ['g', 'i', 'm', 's', 'u', 'y']

/-- Whether flags are known and occur once. -/
def validFlags : List Char → Bool
  | [] => true
  | c :: rest => regexpFlags.contains c && !rest.contains c && validFlags rest

/-- The characters of a text; what is not ASCII shows as U+FFFF. -/
def asciiChars (s : Utf16) : List Char := s.toText.map CodePoint.ascii

/-- A new regular expression object. -/
def newRegexp (proto : Ref) (source flags : Utf16) : Eval σ Value := do
  if !validFlags (asciiChars flags) then fail "SyntaxError" "invalid regular expression flags"
  let r ← allocate (.bare (.regexp source flags) (some proto))
  putProperty r "lastIndex" ⟨.data (.int 0) true, false, false⟩
  return .object r

/-- What the constructor of regular expressions makes. -/
def makeRegexp (I : Interp σ) (newTarget : Option Ref) (args : Array Value) : Eval σ Value := do
  let given ←
    match arg args 0 with
    | .object r => do
      match (← object r).kind with
      | .regexp s f => pure (some (s, f))
      | _ => pure none
    | _ => pure none
  let source ←
    match given with
    | some (s, _) => pure s
    | none => if (arg args 0).isUndefined then pure ∅ else toText I (arg args 0)
  let flags ←
    if (arg args 1).isUndefined then pure ((given.map (·.2)).getD ∅) else toText I (arg args 1)
  newRegexp (← instancePrototype I newTarget .regexpPrototype) source flags

/-- Methods of regular expression objects. -/
def regexpMethod (I : Interp σ) (f : RegExpMethod) (this_ : Value) : Eval σ Value := do
  let r ← needObject this_
  match f with
  | .toString =>
    let source ← toText I (← getProperty I r "source")
    let flags ← toText I (← getProperty I r "flags")
    return .string (Utf16.ofString "/" ++ source ++ Utf16.ofString "/" ++ flags)
  | _ =>
    match (← object r).kind with
    | .regexp source flags =>
      match f with
      | .source => return .string (if source.isEmpty then "(?:)" else source)
      | .flags =>
        let chars := asciiChars flags
        return .ofString (String.ofList (regexpFlags.filter chars.contains))
      | .hasFlag c => return .bool ((asciiChars flags).contains c)
      | _ => return .undefined
    | _ =>
      if r == Intrinsic.regexpPrototype.ref then
        match f with
        | .source => return .ofString "(?:)"
        | .flags => return .string ∅
        | _ => return .undefined
      typeFault "RegExp object expected"

/-! ## Proxies -/

/-- A proxy of an object. -/
def newProxy (target handler : Value) : Eval σ Ref := do
  match target, handler with
  | .object t, .object h =>
    let callable ← isCallable target
    allocate (.bare (.proxy (some t) (some h) callable) none)
  | _, _ => typeFault "not an object"

/-- What the constructor of proxies makes. -/
def makeProxy (newTarget : Option Ref) (args : Array Value) : Eval σ Value := do
  if newTarget.isNone then typeFault "must be called with new"
  return .object (← newProxy (arg args 0) (arg args 1))

/-- A proxy together with a function that revokes it. -/
def makeRevocableProxy (args : Array Value) : Eval σ Value := do
  let p ← newProxy (arg args 0) (arg args 1)
  let f ← newNative (.revoke p) ∅ 0
  let r ← newObject
  putProperty r "proxy" (.plain (.object p))
  putProperty r "revoke" (.plain (.object f))
  return .object r

/-- Revokes a proxy. -/
def revokeProxy (p : Ref) : Eval σ Value := do
  updateObject p fun o =>
    match o.kind with
    | .proxy _ _ callable => { o with kind := .proxy none none callable }
    | _ => o
  return .undefined

end ScriptHost.Script.Library
