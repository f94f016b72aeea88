import ScriptHost.Script.Syntax
import ScriptHost.Script.Token

/-!
# Reading scripts

The state of a reader of scripts: the token at hand, and for each function that is open what it
has declared so far.  Declarations are checked against one another as they are read.
-/

namespace ScriptHost.Script

/-- What a name in a block was declared as. -/
inductive LexicalKind
  | variable | function | caught
deriving DecidableEq

/-- A block that is open. -/
structure OpenBlock where
  id : Nat
  names : List (Name × LexicalKind)
  /-- The declarations of the block, the last one first. -/
  declarations : List Declaration

/-- What an unlabeled or labeled exit may leave. -/
structure OpenExit where
  labels : List Name
  isLoop : Bool
  isSwitch : Bool

/-- A function that is open, or the script itself. -/
structure OpenFunction where
  /-- Whether this is a script rather than a function. -/
  isScript : Bool
  kind : FunctionKind
  isGenerator : Bool
  isAsync : Bool
  strict : Bool
  superCallAllowed : Bool
  superAllowed : Bool
  line : Nat
  hasLines : Bool
  usesArguments : Bool
  params : List Name
  /-- The open blocks, the innermost first; the last one is the body. -/
  blocks : List OpenBlock
  nextBlock : Nat
  /-- Variables with the blocks around their declarations. -/
  declared : List (Name × List Nat)
  exits : List OpenExit

/-- The state of a reader of scripts. -/
structure Reading where
  source : Array CodePoint
  token : Token
  cursor : Cursor
  /-- The line of the last token that was taken, and the position after it. -/
  lastLine : Nat
  lastStop : Nat
  /-- The open functions, the innermost first. -/
  functions : List OpenFunction

/-- Readers of scripts. -/
abbrev Read (α : Type) := EStateM SyntaxFault Reading α

namespace Read

/-- Fails in the line reached. -/
def failText {α : Type} (message : Text) : Read α := do
  throw ⟨message, (← get).cursor.line⟩

/-- Fails in the line reached, with a plain message. -/
def fail {α : Type} (message : String) : Read α := failText (Text.ofString message)

/-- Runs a reading function that may fail. -/
def lift {α : Type} (r : Except SyntaxFault α) : Read α :=
  match r with
  | .ok a => pure a
  | .error e => throw e

/-- The token at hand. -/
def token : Read Token := return (← get).token

/-- Marks in the innermost function that something stands in a line. -/
def noteLine (line : Nat) : List OpenFunction → List OpenFunction
  | [] => []
  | f :: rest => if f.line = line || f.hasLines then f :: rest else { f with hasLines := true } :: rest

/-- Whether the code at hand is strict. -/
def isStrict : Read Bool := return ((← get).functions.head?).any (·.strict)

/-- Goes to the next token. -/
def next : Read Unit := do
  let r ← get
  let (token, cursor) ← lift (scan r.source (← isStrict) r.cursor)
  set { r with
    token, cursor, lastLine := r.token.line, lastStop := r.token.stop,
    functions := noteLine r.token.line r.functions }

/-- The token after the one at hand. -/
def peek : Read Token := do
  let r ← get
  return (← lift (scan r.source (← isStrict) r.cursor)).1

/-- Reads the token at hand once more, in strict code. -/
def rescan : Read Unit := do
  let r ← get
  let (token, cursor) ←
    lift (scan r.source (← isStrict) { position := r.token.start, line := r.token.line })
  set { r with token := { token with afterNewline := r.token.afterNewline }, cursor }
/-- Goes to a token that was read in another way. -/
def replaceToken (t : Token) (c : Cursor) : Read Unit :=
  modify fun r => { r with token := t, cursor := c }

/-- Whether a token is an operator or bracket. -/
def isPunct (t : Token) (s : String) : Bool :=
  match t.kind with
  | .punct p => p == s
  | _ => false

/-- Whether the token at hand is an operator or bracket. -/
def at_ (s : String) : Read Bool := return isPunct (← token) s

/-- Takes an operator or bracket if it is at hand. -/
def accept (s : String) : Read Bool := do
  if ← at_ s then
    next
    return true
  else return false

/-- Takes a bracket or separator that has to be at hand. -/
def expect (s : String) : Read Unit := do
  if !(← accept s) then fail ("expecting '" ++ s ++ "'")

/-- The words that are never names. -/
def reservedWords : List String :=
  ["null", "false", "true", "if", "else", "return", "var", "this", "delete", "void", "typeof", "new",
    "in", "instanceof", "do", "while", "for", "break", "continue", "switch", "case", "default",
    "throw", "try", "catch", "finally", "function", "debugger", "with", "class", "const", "enum",
    "export", "extends", "import", "super"]

/-- The words that are no names in strict code. -/
def strictWords : List String :=
  ["implements", "interface", "let", "package", "private", "protected", "public", "static", "yield"]

/-- The innermost open function. -/
def current : Read (Option OpenFunction) := return (← get).functions.head?

/-- Changes the innermost open function. -/
def modifyCurrent (f : OpenFunction → OpenFunction) : Read Unit :=
  modify fun r =>
    match r.functions with
    | [] => r
    | g :: rest => { r with functions := f g :: rest }

/-- Whether a word is reserved in the code at hand. -/
def isReserved (w : String) : Read Bool := do
  if reservedWords.contains w then return true
  match ← current with
  | none => return false
  | some f =>
    return (f.strict && strictWords.contains w) || (f.isGenerator && w == "yield")
      || (f.isAsync && w == "await")

/-- Whether a token is a given keyword. -/
def isKeyword (t : Token) (w : String) : Bool :=
  match t.kind with
  | .word v escaped => v == w && !escaped
  | _ => false

/-- Whether the keyword at hand is a given one. -/
def atKeyword (w : String) : Read Bool := return isKeyword (← token) w

/-- Takes a keyword if it is at hand. -/
def acceptKeyword (w : String) : Read Bool := do
  if ← atKeyword w then
    next
    return true
  else return false

/-- The name that a token is, unless it is a keyword. An escaped keyword counts as a name here. -/
def nameOf? (t : Token) : Read (Option String) := do
  match t.kind with
  | .word w escaped => if !escaped && (← isReserved w) then return none else return some w
  | _ => return none

/-- Whether the token at hand is a name. -/
def atName : Read Bool := return (← nameOf? (← token)).isSome

/-- Refuses a keyword written with an escape. -/
def refuseEscapedKeyword : Read Unit := do
  match (← token).kind with
  | .word w true => if ← isReserved w then fail ("'" ++ w ++ "' is a reserved identifier")
  | _ => pure ()

/-- Ends a statement: a semicolon, or a place where one may be left out. -/
def expectEnd : Read Unit := do
  let t ← token
  if isPunct t ";" then next
  else
    match t.kind with
    | .eof => pure ()
    | _ =>
      if isPunct t "\x7d" || t.afterNewline then pure () else fail "expecting ';'"

/-- Repeats a reader until it gives a result, `n` times at most. -/
def repeatFor {α : Type} (step : Read (Option α)) : Nat → Read α
  | 0 => fail "unexpected end of input"
  | n + 1 => do
    match ← step with
    | some a => return a
    | none => repeatFor step n

/-- Repeats a reader until it gives a result, at most as often as there are characters. -/
def repeatUntil {α : Type} (step : Read (Option α)) : Read α := do
  repeatFor step ((← get).source.size + 2)

/-- Gathers what a reader gives, with word of whether more may follow, until it gives nothing. -/
def gatherFor {α : Type} (step : Read (Option (α × Bool))) : Nat → List α → Read (List α)
  | 0, acc => return acc.reverse
  | n + 1, acc => do
    match ← step with
    | none => return acc.reverse
    | some (a, false) => return (a :: acc).reverse
    | some (a, true) => gatherFor step n (a :: acc)

/-- Gathers what a reader gives, at most as often as there are characters. -/
def gather {α : Type} (step : Read (Option (α × Bool))) : Read (List α) := do
  gatherFor step ((← get).source.size + 2) []

/-- What stands after a bracketed part. -/
structure Skipped where
  /-- The token after the closing bracket. -/
  after : Token
  /-- Whether a semicolon stands directly between the outermost brackets. -/
  hasSemicolon : Bool

/-- Whether a slash after a token starts a regular expression. -/
def regexpFollows (t : Token) : Bool :=
  match t.kind with
  | .punct p => !(p == ")" || p == "]" || p == "\x7d" || p == "++" || p == "--")
  | .word w _ => w == "return" || w == "typeof" || w == "in" || w == "of" || w == "case"
      || w == "delete" || w == "void" || w == "instanceof" || w == "new" || w == "throw"
      || w == "else" || w == "do"
  | .number _ | .string _ | .template _ _ _ | .privateName _ => false
  | _ => true

/-- Skips tokens up to the bracket that closes the one at hand. `open_` are the brackets open so
far, the innermost first. -/
def skipBrackets (source : Array CodePoint) (strict : Bool) :
    Nat → List String → Token → Cursor → Bool → Except SyntaxFault Skipped
  | 0, _, t, _, semicolon => .ok ⟨t, semicolon⟩
  | fuel + 1, open_, t, c, semicolon => do
    let advance (open_ : List String) (semicolon : Bool) : Except SyntaxFault Skipped := do
      let (t2, c2) ← scan source strict c
      if open_.isEmpty then return ⟨t2, semicolon⟩
      if (isPunct t2 "/" || isPunct t2 "/=") && regexpFollows t then
        let (_, _, stop) ← readRegexp source t2
        let skipped : Token := { t2 with kind := .string ⟨#[]⟩, stop }
        skipBrackets source strict fuel open_ skipped { c2 with position := stop } semicolon
      else skipBrackets source strict fuel open_ t2 c2 semicolon
    match t.kind with
    | .eof => return ⟨t, semicolon⟩
    | .template _ _ false => advance ("\x60" :: open_) semicolon
    | .punct p =>
      if p == "(" then advance (")" :: open_) semicolon
      else if p == "[" then advance ("]" :: open_) semicolon
      else if p == "\x7b" then advance ("\x7d" :: open_) semicolon
      else if p == "\x7d" && open_.head? == some "\x60" then
        let (t2, c2) ← readTemplatePart source t
        match t2.kind with
        | .template _ _ true =>
          let (t3, c3) ← scan source strict c2
          if open_.tail.isEmpty then return ⟨t3, semicolon⟩
          skipBrackets source strict fuel open_.tail t3 c3 semicolon
        | _ =>
          let (t3, c3) ← scan source strict c2
          skipBrackets source strict fuel open_ t3 c3 semicolon
      else if p == ")" || p == "]" || p == "\x7d" then
        if open_.head? == some p then advance open_.tail semicolon
        else return ⟨{ t with kind := .eof }, semicolon⟩
      else if p == ";" then advance open_ (semicolon || open_.length = 1)
      else advance open_ semicolon
    | _ => advance open_ semicolon

/-- What stands after the bracketed part at hand. A malformed token ends the search. -/
def skipped : Read Skipped := do
  let r ← get
  match skipBrackets r.source (← isStrict) (r.source.size + 2) [] r.token r.cursor false with
  | .ok s => return s
  | .error _ => return ⟨{ r.token with kind := .eof }, false⟩

/-! ## Declarations -/

/-- Opens a block. -/
def openBlock : Read Unit :=
  modifyCurrent fun f =>
    { f with
      blocks := { id := f.nextBlock, names := [], declarations := [] } :: f.blocks
      nextBlock := f.nextBlock + 1 }

/-- Closes the innermost block; gives its declarations in order. -/
def closeBlock : Read (List Declaration) := do
  match ← current with
  | none => return []
  | some f =>
    match f.blocks with
    | [] => return []
    | b :: rest =>
      modifyCurrent fun g => { g with blocks := rest }
      return b.declarations.reverse

/-- Changes the body block of a function. -/
def modifyLast (g : OpenBlock → OpenBlock) : List OpenBlock → List OpenBlock
  | [] => []
  | [b] => [g b]
  | b :: rest => b :: modifyLast g rest

/-- Adds a declaration to the body of the function at hand. -/
def declareInBody (d : Declaration) : Read Unit :=
  modifyCurrent fun f =>
    { f with blocks := modifyLast (fun b => { b with declarations := d :: b.declarations }) f.blocks }

/-- What a name is in a block, if it is declared there. -/
def OpenBlock.find? (b : OpenBlock) (n : Name) : Option LexicalKind :=
  (b.names.find? (·.1 == n)).map (·.2)

/-- Refuses names that no code may declare. -/
def checkDeclaredName (n : Name) : Read Unit := do
  match ← current with
  | none => pure ()
  | some f =>
    if f.isGenerator && n == Utf16.ofString "yield" then fail "yield is a reserved identifier"
    if f.strict && (n == Utf16.ofString "arguments" || n == Utf16.ofString "eval") then
      fail "invalid variable name in strict mode"

/-- Declares a variable of the function at hand. -/
def declareVar (n : Name) : Read Unit := do
  checkDeclaredName n
  match ← current with
  | none => pure ()
  | some f =>
    let clash := f.blocks.any fun b =>
      match OpenBlock.find? b n with
      | some .caught | none => false
      | some _ => true
    if clash then fail "invalid redefinition of lexical identifier"
    modifyCurrent fun f =>
      { f with declared := (n, f.blocks.map (·.id)) :: f.declared }
    declareInBody (.var n)

/-- Declares a name of the innermost block. -/
def declareLexical (n : Name) (kind : LexicalKind) (d : Declaration) : Read Unit := do
  checkDeclaredName n
  match ← current with
  | none => pure ()
  | some f =>
    match f.blocks with
    | [] => pure ()
    | b :: outer =>
      match OpenBlock.find? b n with
      | some old =>
        if f.strict || kind != .function || old != .function then
          fail "invalid redefinition of lexical identifier"
      | none => pure ()
      if (outer.head?.bind (OpenBlock.find? · n)) == some .caught && kind != .caught then
        fail "invalid redefinition of lexical identifier"
      if outer.isEmpty && kind != .function && f.params.contains n then
        fail "invalid redefinition of parameter name"
      if f.declared.any fun v => v.1 == n && v.2.contains b.id then
        fail (if f.isScript then "invalid redefinition of global identifier"
          else "invalid redefinition of a variable")
      modifyCurrent fun f =>
        match f.blocks with
        | [] => f
        | b :: outer =>
          let b := { b with names := (n, kind) :: b.names, declarations := d :: b.declarations }
          { f with blocks := b :: outer }

/-- Declares the parameter of a handler in the innermost block. -/
def declareCaught (n : Name) : Read Unit :=
  modifyCurrent fun f =>
    match f.blocks with
    | [] => f
    | b :: outer => { f with blocks := { b with names := (n, .caught) :: b.names } :: outer }

/-- Refuses names that only variables may have. -/
def checkLexicalName (n : Name) : Read Unit := do
  if n == Utf16.ofString "let" || n == Utf16.ofString "undefined" then
    fail "invalid lexical variable name"

/-- Declares a name in a way. -/
def declare (kind : DeclarationKind) (n : Name) : Read Unit := do
  match kind with
  | .var => declareVar n
  | .mutable =>
    checkLexicalName n
    declareLexical n .variable (.lexical n false)
  | .constant =>
    checkLexicalName n
    declareLexical n .variable (.lexical n true)

/-- Notes that the name of the argument list is used, in the function that has one. -/
def noteArguments : List OpenFunction → List OpenFunction
  | [] => []
  | f :: rest =>
    if f.kind == .arrow then f :: noteArguments rest
    else { f with usesArguments := true } :: rest

/-- Opens a function. -/
def openFunction (f : OpenFunction) : Read Unit :=
  modify fun r => { r with functions := f :: r.functions }

/-- Closes the innermost function. -/
def closeFunction : Read (Option OpenFunction) := do
  let r ← get
  set { r with functions := r.functions.drop 1 }
  return r.functions.head?

/-- Reads something that may be left by an exit. -/
def withExit {α : Type} (e : OpenExit) (body : Read α) : Read α := do
  modifyCurrent fun f => { f with exits := e :: f.exits }
  let a ← body
  modifyCurrent fun f => { f with exits := f.exits.drop 1 }
  return a

end Read

end ScriptHost.Script
