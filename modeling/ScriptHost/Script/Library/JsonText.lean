import ScriptHost.Script.Library.Objects

/-!
# Data as text

The functions of `JSON`.  The reader is more lenient than the format inside texts, where it admits
the escapes of scripts; the writer follows the format and escapes surrogates without a partner.
-/

namespace ScriptHost.Script.Library

open Eval

variable {σ : Type}

namespace JsonText

/-! ## Reading -/

/-- What a text of data denotes. -/
inductive Data
  | null
  | bool (b : Bool)
  | number (v : Value)
  | text (s : Utf16)
  | list (items : List Data)
  | record (members : List (Name × Data))
deriving Inhabited

/-- What a reader of data stands at. -/
inductive JsonToken
  | eof
  | symbol (c : CodePoint)
  | text (s : Utf16)
  | number (v : Value)
  | word (w : String)

/-- A reader of data: the text that is left, the line, and the token at hand with its text. -/
structure JsonReader where
  rest : Text
  line : Nat
  token : JsonToken
  tokenText : Text

/-- Readers of data. -/
abbrev ReadJson (α : Type) := StateT JsonReader (Except SyntaxFault) α

/-- Fails in a line. -/
def failAtLine {α : Type} (message : Text) (line : Nat) : ReadJson α := throw ⟨message, line⟩

/-- The value of a hexadecimal escape of a length, and what follows. -/
def hexEscape? (n : Nat) (t : Text) : Option (Nat × Text) :=
  if (t.take n).length < n then none
  else ((t.take n).mapM CodePoint.hexValue?).map fun ds =>
    (ds.foldl (fun v d => 16 * v + d) 0, t.drop n)

/-- What stands for an escape, after its backslash; nothing for one that is malformed. -/
def unescape? : Text → Option (List UInt16 × Text)
  | [] => none
  | c :: rest =>
    match c.ascii with
    | 'b' => some ([8], rest)
    | 'f' => some ([12], rest)
    | 'n' => some ([10], rest)
    | 'r' => some ([13], rest)
    | 't' => some ([9], rest)
    | 'v' => some ([11], rest)
    | 'x' => (hexEscape? 2 rest).map fun (v, r) => (Utf16.encodePoint (.ofNat v), r)
    | 'u' =>
      match rest with
      | brace :: inner =>
        if brace.val = 0x7B then
          let digits := inner.takeWhile fun d => d.hexValue?.isSome
          match inner.drop digits.length with
          | close :: after =>
            let v := digits.foldl (fun v d => 16 * v + (d.hexValue?.getD 0)) 0
            if close.val = 0x7D && !digits.isEmpty && v < 0x110000 then
              some (Utf16.encodePoint (.ofNat v), after)
            else none
          | [] => none
        else (hexEscape? 4 rest).map fun (v, r) => (Utf16.encodePoint (.ofNat v), r)
      | [] => none
    | _ =>
      if c.isDigit then none
      else if c.val = 0x0A || c.val = 0x0D || c.val = 0x2028 || c.val = 0x2029 then some ([], rest)
      else some (Utf16.encodePoint c, rest)

/-- Reads a text up to its closing quote. -/
def readQuoted (line : Nat) : Nat → Text → Array UInt16 → ReadJson (Utf16 × Text)
  | 0, _, _ => failAtLine "unexpected end of string" line
  | fuel + 1, t, acc => do
    match t with
    | [] => failAtLine "unexpected end of string" line
    | c :: rest =>
      if c.val < 0x20 then failAtLine "invalid character in a JSON string" line
      else if c.val = 0x22 then return (⟨acc⟩, rest)
      else if c.val = 0x5C then
        if rest.isEmpty then failAtLine "unexpected end of string" line
        match unescape? rest with
        | some (units, rest) => readQuoted line fuel rest (units.foldl Array.push acc)
        | none => failAtLine "malformed escape sequence in string literal" line
      else readQuoted line fuel rest ((Utf16.encodePoint c).foldl Array.push acc)

/-- A character of a word. -/
def isWordPoint (c : CodePoint) : Bool :=
  c.isDigit || (0x41 ≤ c.val && c.val ≤ 0x5A) || (0x61 ≤ c.val && c.val ≤ 0x7A) || c.val = 0x5F
    || c.val = 0x24

/-- Goes to the next token. -/
def advance : Nat → ReadJson Unit
  | 0 => pure ()
  | fuel + 1 => do
    let r ← get
    let single (c : CodePoint) (rest : Text) : ReadJson Unit :=
      set { r with rest, token := .symbol c, tokenText := [c] }
    let number : ReadJson Unit := do
      let (negative, digits) := Number.spanSign r.rest
      match Number.spanDecimal? negative digits with
      | some (v, rest) =>
        set { r with
          rest, token := .number v,
          tokenText := r.rest.take (r.rest.length - rest.length) }
      | none => pure ()
    let startsNumber (t : Text) : Bool := (t.head?).any (·.isDigit)
    match r.rest with
    | [] => set { r with token := .eof, tokenText := [] }
    | c :: rest =>
      match c.ascii with
      | '"' =>
        let (s, after) ← readQuoted r.line (rest.length + 1) rest #[]
        set { r with
          rest := after, token := .text s,
          tokenText := r.rest.take (r.rest.length - after.length) }
      | '\n' =>
        set { r with rest, line := r.line + 1 }
        advance fuel
      | '\r' =>
        let rest := if (rest.head?).any (·.val = 0x0A) then rest.drop 1 else rest
        set { r with rest, line := r.line + 1 }
        advance fuel
      | ' ' | '\t' =>
        set { r with rest }
        advance fuel
      | '0' => if startsNumber rest then single c rest else number
      | '-' => if startsNumber rest then number else single c rest
      | _ =>
        if c.isDigit then number
        else if isWordPoint c then
          let word := r.rest.takeWhile isWordPoint
          set { r with
            rest := r.rest.drop word.length, token := .word ((Text.toString? word).getD ""),
            tokenText := word }
        else if 128 ≤ c.val then failAtLine "unexpected character" r.line
        else single c rest

/-- Goes to the next token. -/
def next : ReadJson Unit := do advance ((← get).rest.length + 1)

/-- Whether a given character is at hand. -/
def atSymbol (n : Nat) : ReadJson Bool := do
  match (← get).token with
  | .symbol c => return c.val = n
  | _ => return false

/-- Takes a character that has to be at hand. -/
def expectSymbol (n : Nat) : ReadJson Unit := do
  if ← atSymbol n then next
  else
    let c := CodePoint.ofNat n
    failAtLine ("expecting '" ++ [c] ++ "'") (← get).line

/-- Refuses the token at hand. -/
def failUnexpectedToken {α : Type} : ReadJson α := do
  let r ← get
  match r.token with
  | .eof => failAtLine "unexpected end of input" r.line
  | _ => failAtLine ("unexpected token: '" ++ r.tokenText ++ "'") r.line

/-- Reads items separated by commas, `n` at most. -/
def readItems (item : ReadJson Data) : Nat → ReadJson (List Data)
  | 0 => pure []
  | n + 1 => do
    let d ← item
    if ← atSymbol 0x2C then
      next
      return d :: (← readItems item n)
    else return [d]

/-- Reads members separated by commas, `n` at most. -/
def readMembers (item : ReadJson Data) : Nat → ReadJson (List (Name × Data))
  | 0 => pure []
  | n + 1 => do
    match (← get).token with
    | .text s =>
      next
      expectSymbol 0x3A
      let d ← item
      if ← atSymbol 0x2C then
        next
        return (s, d) :: (← readMembers item n)
      else return [(s, d)]
    | _ => failAtLine "expecting property name" (← get).line

/-- Reads a value that nests at most `fuel` levels deep. -/
def readData : Nat → ReadJson Data
  | 0 => failUnexpectedToken
  | fuel + 1 => do
    match (← get).token with
    | .text s =>
      next
      return .text s
    | .number v =>
      next
      return .number v
    | .word "true" =>
      next
      return .bool true
    | .word "false" =>
      next
      return .bool false
    | .word "null" =>
      next
      return .null
    | .symbol c =>
      if c.val = 0x7B then
        next
        let members ←
          if ← atSymbol 0x7D then pure []
          else do readMembers (readData fuel) ((← get).rest.length + 2)
        expectSymbol 0x7D
        return .record members
      else if c.val = 0x5B then
        next
        let items ←
          if ← atSymbol 0x5D then pure []
          else do readItems (readData fuel) ((← get).rest.length + 2)
        expectSymbol 0x5D
        return .list items
      else failUnexpectedToken
    | _ => failUnexpectedToken

/-- Reads a whole text. -/
def readWhole (t : Text) : ReadJson Data := do
  next
  let d ← readData (t.length + 2)
  match (← get).token with
  | .eof => return d
  | _ => failAtLine "unexpected data at the end" (← get).line

/-- What a text denotes. -/
def read (t : Text) : Except SyntaxFault Data :=
  let start : JsonReader := { rest := t, line := 1, token := .eof, tokenText := [] }
  ((readWhole t).run start).map (·.1)

mutual

/-- Makes the value of data. -/
def build (I : Interp σ) : Data → Eval σ Value
  | .null => return .null
  | .bool b => return .bool b
  | .number v => return v
  | .text s => return .string s
  | .list items => do return .object (← newArray (← buildItems I items).toArray)
  | .record members => do
    let r ← newObject
    buildMembers I r members
    return .object r

/-- Makes the values of items. -/
def buildItems (I : Interp σ) : List Data → Eval σ (List Value)
  | [] => return []
  | d :: rest => do
    let v ← build I d
    return v :: (← buildItems I rest)

/-- Makes the members of an object; a later one takes the place of an earlier one of its name. -/
def buildMembers (I : Interp σ) (r : Ref) : List (Name × Data) → Eval σ Unit
  | [] => return ()
  | (n, d) :: rest => do
    createProperty I r (.name n) (← build I d)
    buildMembers I r rest

end

/-- The value of a text. -/
def readValue (I : Interp σ) (t : Text) : Eval σ Value := do
  match read t with
  | .ok d => build I d
  | .error e => failSyntax e.message e.line

/-- Passes a value and what is inside it through a function, the inside first. -/
def revive (I : Interp σ) (f : Value) : Nat → Ref → PropertyKey → Eval σ Value
  | 0, _, _ => fail "InternalError" "stack overflow"
  | fuel + 1, holder, k => do
    let v ← getProperty I holder k
    match v with
    | .object r =>
      let keys : List PropertyKey ←
        if ← isArray (← chainBound) v then
          pure ((List.range (← lengthOf I r)).map PropertyKey.ofIndex)
        else do pure ((← listedKeys I r).map .name)
      for key in keys do
        match ← revive I f fuel r key with
        | .undefined => let _ ← deleteOwn I r key
        | x => let _ ← defineOwn I r key (.ofProperty (.plain x))
    | _ => pure ()
    I.call f (.object holder) #[keyAsValue k, v]

/-! ## Writing -/

/-- An escape by number. -/
def unitEscape (n : Nat) : List UInt16 :=
  let digit (d : Nat) : UInt16 := (Number.digitChar (d % 16)).toNat.toUInt16
  [0x5C, 0x75, digit (n / 4096), digit (n / 256), digit (n / 16), digit n]

/-- A code point inside quotes. -/
def quotedPoint (c : CodePoint) : List UInt16 :=
  match c.ascii with
  | '\t' => [0x5C, 0x74]
  | '\r' => [0x5C, 0x72]
  | '\n' => [0x5C, 0x6E]
  | '\x08' => [0x5C, 0x62]
  | '\x0c' => [0x5C, 0x66]
  | '"' => [0x5C, 0x22]
  | '\\' => [0x5C, 0x5C]
  | _ => if c.val < 32 || c.isSurrogate then unitEscape c.val else Utf16.encodePoint c

/-- A text in quotes. -/
def quoted (s : Utf16) : Utf16 :=
  ⟨(s.toText.foldl (fun acc c => (quotedPoint c).foldl Array.push acc) #[0x22]).push 0x22⟩

/-- How values are written. -/
structure Writing where
  replacer : Option Value
  /-- The names of the members that are written, if not all are. -/
  members : Option (List Name)
  gap : Utf16

/-- The value that is written in place of a value; undefined if none is. -/
def replaced (I : Interp σ) (w : Writing) (holder : Ref) (k : PropertyKey) (v : Value) :
    Eval σ Value := do
  let converts :=
    match v with
    | .object _ | .bigint _ => true
    | _ => false
  let v ←
    if converts then do
      let f ← getMember I v "toJSON"
      if ← isCallable f then I.call f v #[keyAsValue k] else pure v
    else pure v
  let v ←
    match w.replacer with
    | some f => I.call f (.object holder) #[keyAsValue k, v]
    | none => pure v
  match v with
  | .object _ => if ← isCallable v then return .undefined else return v
  | .symbol _ => return .undefined
  | v => return v

/-- Parts in brackets, on lines of their own if there is an indent. -/
def enclosed (opening closing : String) (gap indent : Utf16) (parts : List Utf16) : Utf16 :=
  if parts.isEmpty then Utf16.ofString (opening ++ closing)
  else if gap.isEmpty then
    Utf16.ofString opening ++ Utf16.joinWith "," parts ++ Utf16.ofString closing
  else
    let inner := Utf16.ofString "\n" ++ indent ++ gap
    Utf16.ofString opening ++ inner ++ Utf16.joinWith (Utf16.ofString "," ++ inner) parts
      ++ Utf16.ofString "\n" ++ indent ++ Utf16.ofString closing

/-- The text of a value that has been passed through `replaced`; undefined has none. `open_` are the
objects that it stands in. -/
def write (I : Interp σ) (w : Writing) :
    Nat → List Ref → Utf16 → Value → Eval σ (Option Utf16)
  | 0, _, _, _ => fail "InternalError" "stack overflow"
  | fuel + 1, open_, indent, v => do
    match v with
    | .undefined | .symbol _ => return none
    | .null => return some "null"
    | .bool b => return some (if b then "true" else "false")
    | .int i => return some (Number.intText i)
    | .float x => return some (if x.isNaN || x.isInf then "null" else Number.floatText x)
    | .string s => return some (quoted s)
    | .bigint _ => typeFault "bigint are forbidden in JSON.stringify"
    | .object r =>
      match (← object r).kind with
      | .wrapper (.string _) => return some (quoted (← toText I v))
      | .wrapper (.bool b) => return some (if b then "true" else "false")
      | .wrapper (.int _) | .wrapper (.float _) =>
        write I w fuel open_ indent (← toNumber I v)
      | .wrapper (.bigint _) => typeFault "bigint are forbidden in JSON.stringify"
      | _ =>
        if open_.contains r then typeFault "circular reference"
        let inside := r :: open_
        let deeper := indent ++ w.gap
        if ← isArray (← chainBound) v then
          let n ← lengthOf I r
          let parts ← (List.range n).mapM fun i => do
            let k := PropertyKey.ofIndex i
            let x ← replaced I w r k (← getProperty I r k)
            return (← write I w fuel inside deeper x).getD "null"
          return some (enclosed "[" "]" w.gap indent parts)
        else
          let names ←
            match w.members with
            | some ns => pure ns
            | none => listedKeys I r
          let parts ← names.filterMapM fun n => do
            let x ← replaced I w r (.name n) (← getProperty I r (.name n))
            match ← write I w fuel inside deeper x with
            | none => return none
            | some t =>
              let colon := Utf16.ofString (if w.gap.isEmpty then ":" else ": ")
              return some (quoted n ++ colon ++ t)
          return some (enclosed "\x7b" "\x7d" w.gap indent parts)

/-- The names that an array of names and numbers stands for, each once. -/
def memberNames (I : Interp σ) (items : Array Value) : Eval σ (List Name) := do
  let mut names : List Name := []
  for v in items do
    let n : Option Name ←
      match v with
      | .string s => pure (some s)
      | .int _ | .float _ => do pure (some (← toText I v))
      | .object r =>
        match (← object r).kind with
        | .wrapper (.string _) | .wrapper (.int _) | .wrapper (.float _) => do
          pure (some (← toText I v))
        | _ => pure none
      | _ => pure none
    match n with
    | some n => if !names.contains n then names := n :: names
    | none => pure ()
  return names.reverse

/-- The indent that an argument asks for: at most ten units. -/
def gapOf (I : Interp σ) (v : Value) : Eval σ Utf16 := do
  let v ←
    match v with
    | .object r =>
      match (← object r).kind with
      | .wrapper (.string _) => do pure (.string (← toText I v))
      | .wrapper (.int _) | .wrapper (.float _) => toNumber I v
      | _ => pure v
    | v => pure v
  match v with
  | .int _ | .float _ =>
    let n := (min (Number.integer v) 10).toNat
    return ⟨(List.replicate n 0x20).toArray⟩
  | .string s => return s.extract 0 10
  | _ => return ∅

/-- The text of a value, if it has one. -/
def stringify (I : Interp σ) (v replacer space : Value) : Eval σ Value := do
  let w : Writing ← do
    let gap ← gapOf I space
    if ← isCallable replacer then pure ⟨some replacer, none, gap⟩
    else if ← isArray (← chainBound) replacer then
      pure ⟨none, some (← memberNames I (← listItems I replacer)), gap⟩
    else pure ⟨none, none, gap⟩
  let holder ← newObject
  createProperty I holder "" v
  let x ← replaced I w holder "" v
  match ← write I w 100000 [] ∅ x with
  | some t => return .string t
  | none => return .undefined

end JsonText

/-- Functions of `JSON`. -/
def jsonFunction (I : Interp σ) (f : JsonFunction) (args : Array Value) : Eval σ Value := do
  match f with
  | .parse =>
    let t ← toText I (arg args 0)
    let v ← JsonText.readValue I t.toText
    let f := arg args 1
    if ← isCallable f then
      let holder ← newObject
      createProperty I holder "" v
      JsonText.revive I f 100000 holder ""
    else return v
  | .stringify => JsonText.stringify I (arg args 0) (arg args 1) (arg args 2)

end ScriptHost.Script.Library
