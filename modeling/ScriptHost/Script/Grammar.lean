import ScriptHost.Script.Reading

/-!
# The grammar of scripts

Reading a script into a tree.  `Grammar` holds the readers that refer to one another; each reader
below takes one that may nest one level less deep, and `grammarOf` ties them together.  The order
in which tokens are looked at settles which of several faults is reported.
-/

namespace ScriptHost.Script

open Read

/-- What a pattern is read for. -/
inductive PatternUse
  | declaration (kind : DeclarationKind)
  | parameter
  | handler
  | assignment
deriving DecidableEq

/-- What kinds of statement a place admits. -/
structure StatementPlace where
  admitsFunctions : Bool
  admitsDeclarations : Bool

/-- What is known of a function before its parameters are read. -/
structure FunctionStart where
  kind : FunctionKind
  isGenerator : Bool
  isAsync : Bool
  name : Option Name
  bindsName : Bool
  start : Nat
  line : Nat

/-- The readers that refer to one another. -/
structure Grammar where
  /-- An expression without commas; `admitsIn` says whether the operator `in` may occur. -/
  assignment : Bool → Read Expr
  expression : Bool → Read Expr
  unary : Read Expr
  statement : StatementPlace → Read Stmt
  function : FunctionStart → Read Function
  pattern : PatternUse → Read Pattern

/-- A name as it is bound. -/
def nameOf (w : String) : Name := Utf16.ofString w

/-- The text of the token at hand. -/
def tokenText : Read Text := do
  let r ← get
  return between r.source r.token.start r.token.stop

/-- Refuses the token at hand as the start of an expression. -/
def failUnexpected {α : Type} : Read α := do
  failText ("unexpected token in expression: '" ++ (← tokenText) ++ "'")

/-! ## Keys and members -/

/-- What the words before a key say of a member. -/
inductive MemberRole
  | value | getter | setter
  | method (isGenerator isAsync : Bool)
deriving DecidableEq

/-- A key with its role, and the name that stands for itself if there is one. -/
structure MemberHead where
  key : Key
  role : MemberRole
  shorthand : Option String

/-- Whether the token at hand ends a key. -/
def endsKey : Read Bool := do
  let t ← token
  return isPunct t ":" || isPunct t "," || isPunct t "\x7d" || isPunct t "("

/-- Whether the token at hand ends a key in a class. -/
def endsClassKey : Read Bool := do
  let t ← token
  return isPunct t "=" || isPunct t ";" || isPunct t "\x7d" || isPunct t "("

/-- The key of a number. -/
def numberKey (v : Value) : PropertyKey :=
  match v with
  | .int i => .name (Utf16.ofString (toString i.toInt))
  | .float x => .name (Utf16.ofString (Decimal.scriptStyle.write x))
  | .bigint i => .name (Utf16.ofText (Text.ofInt i))
  | _ => ""

/-- Reads a key with the words before it. -/
def readMemberHead (G : Grammar) (admitsMethods inClass : Bool) : Read MemberHead := do
  let ends : Read Bool := if inClass then endsClassKey else endsKey
  let wordKey (w : String) (role : MemberRole) : MemberHead :=
    { key := .fixed (nameOf w |> .name), role, shorthand := none }
  let plainKey (role : MemberRole) : Read MemberHead := do
    match (← token).kind with
    | .word w escaped =>
      let reserved ← isReserved w
      next
      let shorthand :=
        if reserved && !escaped || role != .value then none else some w
      return { wordKey w role with shorthand }
    | .string s => next; return { key := .fixed (.name s), role, shorthand := none }
    | .number v => next; return { key := .fixed (numberKey v), role, shorthand := none }
    | .punct "[" => do
      next
      let e ← G.expression true
      expect "]"
      return { key := .computed e, role, shorthand := none }
    | _ => fail "invalid property name"
  let methodKey (role : MemberRole) : Read MemberHead := do
    let head ← plainKey role
    if !(← at_ "(") then fail "invalid property name"
    return head
  if !admitsMethods then return ← plainKey .value
  let t ← token
  if isKeyword t "get" || isKeyword t "set" then
    let w := if isKeyword t "get" then "get" else "set"
    next
    if ← ends then return { wordKey w .value with shorthand := some w }
    methodKey (if w == "get" then .getter else .setter)
  else if isPunct t "*" then
    next
    methodKey (.method true false)
  else if isKeyword t "async" && !(← peek).afterNewline then
    next
    if ← ends then return { wordKey "async" .value with shorthand := some "async" }
    if ← accept "*" then methodKey (.method true true) else methodKey (.method false true)
  else plainKey .value

/-- The name that a key gives to a function. -/
def keyName? : Key → Option Name
  | .fixed (.name n) => some n
  | _ => none

/-- The start of a function that is a member. -/
def memberStart (kind : FunctionKind) (isGenerator isAsync : Bool) (key : Key) (start line : Nat) :
    FunctionStart :=
  { kind, isGenerator, isAsync, name := keyName? key, bindsName := false, start, line }

/-- Reads one member of an object. -/
def readMember (G : Grammar) : Read Member := do
  let t ← token
  if ← accept "..." then return .spread (← G.assignment true)
  let head ← readMemberHead G true false
  let method (kind : FunctionKind) (isGenerator isAsync : Bool) : Read Function :=
    G.function (memberStart kind isGenerator isAsync head.key t.start t.line)
  match head.role with
  | .getter => return .getter head.key (← method .getter false false)
  | .setter => return .setter head.key (← method .setter false false)
  | .method isGenerator isAsync => return .method head.key (← method .method isGenerator isAsync)
  | .value => do
    if ← at_ "(" then return .method head.key (← method .method false false)
    match head.shorthand with
    | some w =>
      if !(← at_ ":") then
        if w == "arguments" then
          modify fun r => { r with functions := noteArguments r.functions }
        return .value head.key (.name (nameOf w) (← get).lastLine)
    | none => pure ()
    expect ":"
    let e ← G.assignment true
    match head.key with
    | .fixed k =>
      if k.isNamed "__proto__" then return .prototype e
      match k with
      | .name n => return .value head.key (e.nameAs n)
      | .symbol _ => return .value head.key e
    | .computed _ => return .value head.key e

/-- Whether a member sets the prototype. -/
def isPrototype : Member → Bool
  | .prototype _ => true
  | _ => false

/-- Reads an object from its opening brace on. -/
def readObject (G : Grammar) : Read Expr := do
  next
  let members ← gather do
    if ← at_ "\x7d" then return none
    let m ← readMember G
    return some (m, ← accept ",")
  if 1 < (members.filter isPrototype).length then fail "duplicate __proto__ property name"
  expect "\x7d"
  return .object members

/-- Reads an array from its opening bracket on. -/
def readArray (G : Grammar) : Read Expr := do
  next
  let items ← gather do
    if ← at_ "]" then return none
    if ← accept "," then return some (.hole, true)
    let item : Element ←
      if ← accept "..." then pure (.spread (← G.assignment true))
      else pure (.item (← G.assignment true))
    return some (item, ← accept ",")
  expect "]"
  return .array items

/-- Reads arguments from their opening parenthesis on. -/
def readArguments (G : Grammar) : Read (List Element) := do
  next
  let items ← gather do
    if ← at_ ")" then return none
    let item : Element ←
      if ← accept "..." then pure (.spread (← G.assignment true))
      else pure (.item (← G.assignment true))
    if ← at_ ")" then return some (item, false)
    expect ","
    return some (item, true)
  expect ")"
  return items

/-- Reads the substitutions and further parts of a template whose first part is at hand: cooked and
raw texts, and the substituted expressions. -/
def readTemplate (G : Grammar) :
    Read (List (Option Utf16) × List Utf16 × List Expr) := do
  let parts ← gather do
    match (← token).kind with
    | .template cooked raw true => do
      next
      return some ((cooked, raw, none), false)
    | .template cooked raw false => do
      next
      let e ← G.expression true
      if !(← at_ "\x7d") then fail "expected '\x7d' after template expression"
      let r ← get
      let (t, c) ← lift (readTemplatePart r.source r.token)
      replaceToken t c
      return some ((cooked, raw, some e), true)
    | _ => return none
  return (parts.map (·.1), parts.map (·.2.1), parts.filterMap (·.2.2))

/-! ## Patterns -/

/-- Whether an expression is a place to assign to. -/
def isPlace : Expr → Bool
  | .name _ _ | .member _ _ false _ | .index _ _ false _ | .superMember _ _ => true
  | _ => false

/-- Refuses an expression that is no place to assign to. -/
def checkPlace (e : Expr) (message : String) : Read Unit := do
  match e with
  | .name n _ =>
    if (← isStrict) && (n == nameOf "eval" || n == nameOf "arguments") then
      fail "invalid lvalue in strict mode"
  | _ => if !isPlace e then fail message

/-- Binds a name that a pattern holds. -/
def bindName (use : PatternUse) (n : Name) : Read Unit :=
  match use with
  | .declaration kind => declare kind n
  | .parameter => modifyCurrent fun f => { f with params := f.params ++ [n] }
  | .handler => declareCaught n
  | .assignment => pure ()

/-- The pattern of an expression that is assigned to. -/
def placePattern : Expr → Pattern
  | .name n line => .name n line
  | e => .place e

/-- Reads a name or place of a pattern. -/
def readPatternLeaf (G : Grammar) (use : PatternUse) : Read Pattern := do
  if use == .assignment then
    let e ← G.unary
    checkPlace e "invalid destructuring target"
    return placePattern e
  match ← nameOf? (← token) with
  | none => fail "invalid destructuring target"
  | some w =>
    refuseEscapedKeyword
    if (← isStrict) && (w == "eval" || w == "arguments") then fail "invalid destructuring target"
    next
    bindName use (nameOf w)
    return .name (nameOf w) (← get).lastLine

/-- Reads a part of a pattern: a pattern in brackets, a name, or a place. -/
def readPatternPart (G : Grammar) (use : PatternUse) : Read Pattern := do
  if (← at_ "[") || (← at_ "\x7b") then
    if use != .assignment then return ← G.pattern use
    let after := (← skipped).after
    if isPunct after "," || isPunct after "=" || isPunct after "]" || isPunct after "\x7d" then
      G.pattern use
    else readPatternLeaf G use
  else readPatternLeaf G use

/-- The name that a pattern gives to a function assigned to it. -/
def patternName? : Pattern → Option Name
  | .name n _ => some n
  | _ => none

/-- Reads the default after a part of a pattern, if there is one. -/
def readDefault (G : Grammar) (p : Pattern) : Read (Option Expr) := do
  if ← accept "=" then
    let e ← G.assignment true
    return some (match patternName? p with
      | some n => e.nameAs n
      | none => e)
  else return none

/-- Reads an array pattern from its opening bracket on. -/
def readArrayPattern (G : Grammar) (use : PatternUse) : Read Pattern := do
  next
  let parts ← gather do
    if ← at_ "]" then return none
    if ← accept "," then return some ((none, none), true)
    if ← accept "..." then
      let p ← readPatternPart G use
      if !(← at_ "]") then fail "rest element must be the last one"
      return some ((none, some p), false)
    let p ← readPatternPart G use
    let d ← readDefault G p
    if ← at_ "]" then return some ((some (p, d), none), false)
    expect ","
    return some ((some (p, d), none), true)
  expect "]"
  let rest := parts.findSome? (·.2)
  let items := parts.filter (·.2.isNone)
  return .array (items.map (·.1)) rest

/-- Reads an object pattern from its opening brace on. -/
def readObjectPattern (G : Grammar) (use : PatternUse) : Read Pattern := do
  next
  let parts ← gather do
    if ← at_ "\x7d" then return none
    if ← accept "..." then
      let p ← readPatternLeaf G use
      if !(← at_ "\x7d") then fail "assignment rest property must be last"
      return some ((none, some p), false)
    let head ← readMemberHead G false false
    let line := (← get).lastLine
    let p : Pattern ←
      match head.shorthand with
      | some w =>
        if ← at_ ":" then do
          next
          readPatternPart G use
        else do
          if (← isStrict) && (w == "eval" || w == "arguments") then
            fail "invalid destructuring target"
          bindName use (nameOf w)
          pure (.name (nameOf w) line)
      | none => do
        expect ":"
        readPatternPart G use
    let d ← readDefault G p
    if ← at_ "\x7d" then return some ((some (head.key, p, d), none), false)
    expect ","
    return some ((some (head.key, p, d), none), true)
  expect "\x7d"
  return .object (parts.filterMap (·.1)) (parts.findSome? (·.2))

/-- Reads a pattern in brackets. -/
def readPattern (G : Grammar) (use : PatternUse) : Read Pattern := do
  if ← at_ "[" then readArrayPattern G use else readObjectPattern G use

/-! ## Functions -/

/-- Reads the strictness marks at the start of a body; the tokens stay to be read as
statements. -/
def readDirectives : Read Unit := do
  let saved ← get
  let strict ← gather do
    match (← token).kind with
    | .string _ =>
      let r ← get
      let text := between r.source (r.token.start + 1) (r.token.stop - 1)
      next
      let t ← token
      let ended ←
        if ← accept ";" then pure true
        else
          match t.kind with
          | .eof => pure true
          | _ => pure (isPunct t "\x7d" || t.afterNewline)
      if ended then return some (text == ("use strict" : Text), true) else return none
    | _ => return none
  set saved
  if strict.any id then
    modifyCurrent fun f => { f with strict := true }
    rescan

/-- Whether a name occurs twice. -/
def hasRepeated : List Name → Bool
  | [] => false
  | n :: rest => rest.contains n || hasRepeated rest

/-- Checks the names of a function and its parameters once its strictness is known. -/
def checkFunctionNames (start : FunctionStart) (simple : Bool) : Read Unit := do
  match ← current with
  | none => pure ()
  | some f =>
    let forbidden : List Name := [nameOf "eval", nameOf "arguments"]
    if f.strict then
      if start.name.any forbidden.contains && start.kind == .plain then
        fail "invalid function name in strict code"
      if f.params.any forbidden.contains then fail "invalid argument name in strict code"
    if (f.strict || !simple || start.kind != .plain) && hasRepeated f.params then
      fail "duplicate argument names not allowed in this context"

/-- Reads a parameter with its default. -/
def readParameter (G : Grammar) : Read (Pattern × Option Expr) := do
  if (← at_ "[") || (← at_ "\x7b") then
    let p ← G.pattern .parameter
    return (p, ← readDefault G p)
  match ← nameOf? (← token) with
  | none => fail "missing formal parameter"
  | some w =>
    refuseEscapedKeyword
    next
    bindName .parameter (nameOf w)
    let p : Pattern := .name (nameOf w) (← get).lastLine
    return (p, ← readDefault G p)

/-- Reads the parameters in parentheses; the last one may take the remaining arguments. -/
def readParameters (G : Grammar) :
    Read (List (Pattern × Option Expr) × Option Pattern) := do
  expect "("
  let parts ← gather do
    if ← at_ ")" then return none
    if ← accept "..." then
      let (p, _) ← readParameter G
      if !(← at_ ")") then fail "expecting ')'"
      return some ((none, some p), false)
    let p ← readParameter G
    if ← at_ ")" then return some ((some p, none), false)
    expect ","
    return some ((some p, none), true)
  expect ")"
  return (parts.filterMap (·.1), parts.findSome? (·.2))

/-- The place of the statements of a body. -/
def bodyPlace : StatementPlace := { admitsFunctions := true, admitsDeclarations := true }

/-- Whether a parameter is a plain name without default. -/
def isSimpleParameter : Pattern × Option Expr → Bool
  | (.name _ _, none) => true
  | _ => false

/-- The number of parameters before the first one with a default. -/
def arityOf : List (Pattern × Option Expr) → Nat
  | (_, none) :: rest => arityOf rest + 1
  | _ => 0

/-- Reads statements up to a closing brace, which stays at hand. -/
def readStatements (G : Grammar) : Read (List Stmt) :=
  gather do
    if ← at_ "\x7d" then return none
    return some (← G.statement bodyPlace, true)

/-- Whether a body ends by leaving the function. -/
def endsByLeaving (body : List Stmt) : Bool :=
  match body.getLast? with
  | some (.returning _) | some (.throwing _ _) => true
  | _ => false

/-- Reads a function from its parameters on. -/
def readFunction (G : Grammar) (start : FunctionStart) : Read Function := do
  let outer ← current
  let isArrow := start.kind == .arrow
  let inherits := isArrow || start.kind == .fieldValue
  let ofOuter (p : OpenFunction → Bool) : Bool := inherits && outer.any p
  let constructs := start.kind == .derivedConstructor
  let hasHome := start.kind != .plain && !inherits
  openFunction
    { isScript := false, kind := start.kind, isGenerator := start.isGenerator,
      isAsync := start.isAsync, strict := outer.any (·.strict),
      superCallAllowed := constructs || ofOuter (·.superCallAllowed),
      superAllowed := hasHome || ofOuter (·.superAllowed), line := start.line, hasLines := false,
      usesArguments := false, params := [],
      blocks := [{ id := 0, names := [], declarations := [] }], nextBlock := 1, declared := [],
      exits := [] }
  let (params, rest) ←
    if isArrow && !(← at_ "(") then do
      let p ← readParameter G
      pure ([p], none)
    else readParameters G
  let simple := params.all isSimpleParameter && rest.isNone
  if start.kind == .getter && !params.isEmpty || start.kind == .setter && params.length != 1 then
    fail "invalid number of arguments for getter or setter"
  if isArrow then expect "=>"
  let body ←
    if isArrow && !(← at_ "\x7b") then do
      checkFunctionNames start simple
      let e ← G.assignment true
      pure [.returning (some e)]
    else do
      expect "\x7b"
      readDirectives
      checkFunctionNames start simple
      let body ← readStatements G
      if endsByLeaving body then
        let before := (← current).any (·.hasLines)
        next
        modifyCurrent fun f => { f with hasLines := before }
      else next
      pure body
  let declarations ← closeBlock
  let closed ← closeFunction
  let r ← get
  let info : FunctionInfo :=
    { name := start.name, kind := start.kind, isGenerator := start.isGenerator,
      isAsync := start.isAsync, strict := closed.any (·.strict), arity := arityOf params,
      usesArguments := closed.any (·.usesArguments), bindsName := start.bindsName,
      source := between r.source start.start r.lastStop, line := start.line,
      hasLines := closed.any (·.hasLines) }
  return .mk info params rest declarations body

/-- Takes the word `function` and a star after it; tells whether there was a star. -/
def readFunctionWord : Read Bool := do
  next
  accept "*"

/-- Reads a function expression from its first word on. -/
def readFunctionExpression (G : Grammar) (isAsync : Bool) : Read Expr := do
  let t ← token
  if isAsync then next
  let isGenerator ← readFunctionWord
  let name ← do
    match ← nameOf? (← token) with
    | some w => do
      refuseEscapedKeyword
      next
      pure (some (nameOf w))
    | none => pure none
  return .function (← G.function
    { kind := .plain, isGenerator, isAsync, name, bindsName := name.isSome, start := t.start,
      line := t.line })

/-- Reads an arrow function from its parameters on. -/
def readArrow (G : Grammar) (isAsync : Bool) (start line : Nat) : Read Expr := do
  return .function (← G.function
    { kind := .arrow, isGenerator := false, isAsync, name := none, bindsName := false, start,
      line })

/-! ## Classes -/

/-- Reads a member of a class, if one follows: its constructor or another member. -/
def readClassMember (G : Grammar) (isDerived : Bool) :
    Read (Option Function × Option ClassMember) := do
  let t ← token
  let isStatic ← do
    if isKeyword t "static" then
      let p ← peek
      if isPunct p "(" || isPunct p "=" || isPunct p ";" || isPunct p "\x7d" then pure false
      else do
        next
        pure true
    else pure false
  let head ← readMemberHead G true true
  let method (kind : FunctionKind) (isGenerator isAsync : Bool) : Read Function :=
    G.function (memberStart kind isGenerator isAsync head.key t.start t.line)
  let member (kind : MemberKind) (f : Option Function) : Option Function × Option ClassMember :=
    (none, some (.mk isStatic kind head.key f))
  match head.role with
  | .getter => return member .getter (some (← method .getter false false))
  | .setter => return member .setter (some (← method .setter false false))
  | .method isGenerator isAsync =>
    return member .method (some (← method .method isGenerator isAsync))
  | .value => do
    if ← at_ "(" then
      let isConstructor :=
        !isStatic && (match head.key with
          | .fixed k => k.isNamed "constructor"
          | .computed _ => false)
      if isConstructor then
        let kind := if isDerived then .derivedConstructor else .baseConstructor
        return (some (← method kind false false), none)
      return member .method (some (← method .method false false))
    if ← at_ "=" then
      let start := (← peek).start
      next
      openFunction
        { isScript := false, kind := .fieldValue, isGenerator := false, isAsync := false,
          strict := true, superCallAllowed := false, superAllowed := true, line := t.line,
          hasLines := false, usesArguments := false, params := [],
          blocks := [{ id := 0, names := [], declarations := [] }], nextBlock := 1,
          declared := [], exits := [] }
      let e ← G.assignment true
      let closed ← closeFunction
      expectEnd
      let e := match keyName? head.key with
        | some n => e.nameAs n
        | none => e
      let info : FunctionInfo :=
        { name := none, kind := .fieldValue, isGenerator := false, isAsync := false,
          strict := true, arity := 0, usesArguments := false, bindsName := false,
          source := between (← get).source start (← get).lastStop, line := t.line,
          hasLines := closed.any (·.hasLines) }
      return member .field (some (.mk info [] none [] [.returning (some e)]))
    expectEnd
    return member .field none

/-- Reads a class from its first word on: its tree, with the name it has. -/
def readClass (G : Grammar) (nameRequired : Bool) : Read (Option String × ClassTree) := do
  let t ← token
  next
  let strictBefore ← isStrict
  modifyCurrent fun f => { f with strict := true }
  let name ← nameOf? (← token)
  match name with
  | some _ => do
    refuseEscapedKeyword
    next
  | none => if nameRequired then fail "class statement requires a name"
  let parent ←
    if ← acceptKeyword "extends" then do pure (some (← G.unary)) else pure none
  expect "\x7b"
  let parts ← gather do
    if ← at_ "\x7d" then return none
    if ← accept ";" then return some ((none, none), true)
    return some (← readClassMember G parent.isSome, true)
  expect "\x7d"
  modifyCurrent fun f => { f with strict := strictBefore }
  let constructors := parts.filterMap (·.1)
  if 1 < constructors.length then fail "property constructor appears more than once"
  let r ← get
  return (name, .mk (name.map nameOf) none parent constructors.head? (parts.filterMap (·.2))
    (between r.source t.start r.lastStop) t.line)

/-! ## Expressions -/

/-- Notes the use of a name that has a meaning of its own. -/
def noteName (w : String) : Read Unit := do
  if w == "arguments" || w == "eval" then
    modify fun r => { r with functions := noteArguments r.functions }

/-- Reads what stands after the word `super`. -/
def readSuper (G : Grammar) : Read Expr := do
  next
  let f ← current
  if ← at_ "(" then
    if !f.any (·.superCallAllowed) then fail "super() is only valid in a derived class constructor"
    let args ← readArguments G
    return .superCall args (← get).lastLine
  else if ← at_ "." then
    if !f.any (·.superAllowed) then fail "'super' is only valid in a method"
    next
    let line := (← get).lastLine
    match (← token).kind with
    | .word w _ =>
      next
      return .superMember (.literal (.string (nameOf w))) line
    | _ => fail "expecting field name"
  else if ← at_ "[" then
    if !f.any (·.superAllowed) then fail "'super' is only valid in a method"
    next
    let line := (← get).lastLine
    let key ← G.expression true
    expect "]"
    return .superMember key line
  else fail "invalid use of 'super'"

/-- Reads a class expression. -/
def readClassExpression (G : Grammar) : Read Expr := do
  let (_, c) ← readClass G false
  return .classValue c

/-- Reads a regular expression whose opening slash is at hand. -/
def readRegexpExpression : Read Expr := do
  let r ← get
  let (source, flags, stop) ← lift (readRegexp r.source r.token)
  replaceToken { r.token with stop } { r.cursor with position := stop }
  next
  return .regexp source flags

/-- Whether a word is followed by an assignment of a pattern. -/
def assignsPattern : Read Bool := do return isPunct (← skipped).after "="

/-- Reads an expression that starts with a word. -/
def readWord (G : Grammar) (w : String) (escaped : Bool) : Read Expr := do
  let constant (v : Value) : Read Expr := do
    next
    return .literal v
  if !escaped && (← isReserved w) then
    match w with
    | "function" => readFunctionExpression G false
    | "class" => readClassExpression G
    | "null" => constant .null
    | "true" => constant (.bool true)
    | "false" => constant (.bool false)
    | "this" =>
      next
      return .this
    | "super" => readSuper G
    | "import" =>
      next
      expect "("
      fail "unsupported keyword: import"
    | _ => failUnexpected
  else
    refuseEscapedKeyword
    if w == "async" && !escaped then
      let p ← peek
      if isKeyword p "function" && !p.afterNewline then return ← readFunctionExpression G true
    next
    noteName w
    return .name (nameOf w) (← get).lastLine

/-- Reads an expression that no operator or link follows. -/
def readPrimary (G : Grammar) : Read Expr := do
  let t ← token
  match t.kind with
  | .number v =>
    next
    return .literal v
  | .string s =>
    next
    return .literal (.string s)
  | .template _ _ _ => do
    let (cooked, _, parts) ← readTemplate G
    if cooked.any (·.isNone) then fail "malformed escape sequence in string literal"
    return .template (cooked.map (·.getD ∅)) parts
  | .word w escaped => readWord G w escaped
  | .punct p =>
    match p with
    | "(" => do
      next
      let e ← G.expression true
      expect ")"
      return e
    | "[" => do
      if ← assignsPattern then
        let pattern ← G.pattern .assignment
        expect "="
        return .destructure pattern (← G.assignment true)
      readArray G
    | "\x7b" => do
      if ← assignsPattern then
        let pattern ← G.pattern .assignment
        expect "="
        return .destructure pattern (← G.assignment true)
      readObject G
    | "/" | "/=" => readRegexpExpression
    | _ => failUnexpected
  | _ => failUnexpected

/-- What one link adds to an expression: the longer expression, whether the link is optional, or
nothing if no link follows. -/
def readLink (G : Grammar) (admitsCalls : Bool) (e : Expr) : Read (Option (Expr × Bool)) := do
  let t ← token
  let field (optional : Bool) : Read Expr := do
    let line := (← get).lastLine
    match (← token).kind with
    | .word w _ =>
      next
      return .member e (nameOf w) optional line
    | .privateName w =>
      next
      return .member e (nameOf ("#" ++ w)) optional line
    | _ => fail "expecting field name"
  let element (optional : Bool) : Read Expr := do
    next
    let line := (← get).lastLine
    let key ← G.expression true
    expect "]"
    return .index e key optional line
  let callOf (optional : Bool) : Read Expr := do
    let args ← readArguments G
    return .call e args optional (← get).lastLine
  match t.kind with
  | .punct "." =>
    next
    return some (← field false, false)
  | .punct "?." =>
    if !admitsCalls then fail "new keyword cannot be used with an optional chain"
    next
    if ← at_ "(" then return some (← callOf true, true)
    if ← at_ "[" then return some (← element true, true)
    return some (← field true, true)
  | .punct "[" => return some (← element false, false)
  | .punct "(" => if admitsCalls then return some (← callOf false, false) else return none
  | .template _ _ _ => do
    let (cooked, raw, parts) ← readTemplate G
    return some (.taggedTemplate e cooked raw parts (← get).lastLine, false)
  | _ => return none

/-- Reads the links after an expression, `n` at most; `optional` says whether one was optional. -/
def readLinks (G : Grammar) (admitsCalls : Bool) : Nat → Expr → Bool → Read Expr
  | 0, e, _ => return e
  | n + 1, e, optional => do
    match ← readLink G admitsCalls e with
    | some (longer, isOptional) => readLinks G admitsCalls n longer (optional || isOptional)
    | none => return if optional then .chain e else e

/-- Reads a construction from the word `new` on, without the links after it; `n` bounds how often
the word may be repeated. -/
def readNew (G : Grammar) : Nat → Read Expr
  | 0 => failUnexpected
  | n + 1 => do
    next
    if ← accept "." then
      if !(← acceptKeyword "target") then fail "expecting target"
      if (← get).functions.all fun f => f.isScript || f.kind == .arrow then
        fail "new.target only allowed within functions"
      return .newTarget
    let fuel := (← get).source.size
    let callee ←
      if ← atKeyword "new" then readNew G n
      else do
        let e ← readPrimary G
        readLinks G false fuel e false
    let args ← if ← at_ "(" then readArguments G else pure []
    return .construct callee args (← get).lastLine

/-- Reads an expression with all its links. -/
def readLinked (G : Grammar) : Read Expr := do
  let fuel := (← get).source.size
  let e ← if ← atKeyword "new" then readNew G fuel else readPrimary G
  readLinks G true fuel e false

/-- Reads an operand with a sign of increment or decrement after it, if there is one. -/
def readPostfix (G : Grammar) : Read Expr := do
  let e ← readLinked G
  let t ← token
  if !t.afterNewline && (isPunct t "++" || isPunct t "--") then
    checkPlace e "invalid increment/decrement operand"
    next
    return .update false (isPunct t "++") e
  return e

/-- The operator with one operand that a token is. -/
def unaryOp? (t : Token) : Option UnaryOp :=
  if isPunct t "-" then some .negate
  else if isPunct t "+" then some .plus
  else if isPunct t "!" then some .not
  else if isPunct t "~" then some .complement
  else if isKeyword t "void" then some .void
  else none

/-- Reads an expression that starts with an operator, or has none; tells whether it started with an
operator that a power must not follow. -/
def readUnary (G : Grammar) : Read (Expr × Bool) := do
  let t ← token
  match unaryOp? t with
  | some op =>
    next
    return (.unary op (← G.unary), true)
  | none =>
    if isPunct t "++" || isPunct t "--" then
      next
      let e ← G.unary
      checkPlace e "invalid increment/decrement operand"
      return (.update true (isPunct t "++") e, false)
    else if isKeyword t "typeof" then
      next
      return (.typeOf (← G.unary), true)
    else if isKeyword t "delete" then
      next
      let e ← G.unary
      match e with
      | .name _ _ => if ← isStrict then fail "cannot delete a direct reference in strict mode"
      | _ => pure ()
      return (.deletion e, true)
    else if isKeyword t "await" && (← current).any (·.isAsync) then
      next
      return (.awaiting (← G.unary), true)
    else return (← readPostfix G, false)

/-- Reads a power, which groups to the right. -/
def readPower (G : Grammar) : Nat → Read Expr
  | 0 => failUnexpected
  | n + 1 => do
    let (base, guarded) ← readUnary G
    if ← at_ "**" then
      if guarded then
        fail "unparenthesized unary expression can't appear on the left-hand side of '**'"
      next
      return .binary .pow base (← readPower G n)
    return base

/-- Operators with two operands by how tightly they bind, the tightest first. -/
def binaryLevels : List (List (String × BinaryOp)) :=
  [[("*", .mul), ("/", .div), ("%", .rem)], [("+", .add), ("-", .sub)],
    [("<<", .shiftLeft), (">>", .shiftRight), (">>>", .shiftRightZero)],
    [("<", .less), (">", .greater), ("<=", .lessEq), (">=", .greaterEq)],
    [("==", .looseEq), ("!=", .looseNe), ("===", .strictEq), ("!==", .strictNe)],
    [("&", .bitAnd)], [("^", .bitXor)], [("|", .bitOr)]]

/-- The operator of a level that a token is. -/
def binaryOp? (level : List (String × BinaryOp)) (admitsIn : Bool) (t : Token) :
    Option BinaryOp :=
  match t.kind with
  | .punct p => (level.find? (·.1 == p)).map (·.2)
  | .word w false =>
    if level.any (·.1 == "<") then
      if w == "instanceof" then some .instanceOf
      else if w == "in" && admitsIn then some .isIn
      else none
    else none
  | _ => none

/-- Reads operands of one level, grouped to the left; `n` bounds their number. -/
def readBinaryTail (operand : Read Expr) (level : List (String × BinaryOp)) (admitsIn : Bool) :
    Nat → Expr → Read Expr
  | 0, left => return left
  | n + 1, left => do
    match binaryOp? level admitsIn (← token) with
    | none => return left
    | some op =>
      next
      let right ← operand
      readBinaryTail operand level admitsIn n (.binary op left right)

/-- Reads an expression of the given levels, the loosest of them first. -/
def readBinary (G : Grammar) (admitsIn : Bool) : List (List (String × BinaryOp)) → Read Expr
  | [] => do readPower G ((← get).source.size + 1)
  | level :: tighter => do
    let operand := readBinary G admitsIn tighter
    let left ← operand
    readBinaryTail operand level admitsIn ((← get).source.size + 1) left

/-- Reads operands of a logical operator, grouped to the left. -/
def readLogicalTail (operand : Read Expr) (punct : String) (op : LogicalOp) :
    Nat → Expr → Read Expr
  | 0, left => return left
  | n + 1, left => do
    if ← accept punct then
      let right ← operand
      readLogicalTail operand punct op n (.logical op left right)
    else return left

/-- Reads an expression with logical operators, or with fallbacks. The two do not mix. -/
def readLogical (G : Grammar) (admitsIn : Bool) : Read Expr := do
  let fuel := (← get).source.size + 1
  let binary := readBinary G admitsIn binaryLevels.reverse
  let conjunction : Read Expr := do readLogicalTail binary "&&" .and fuel (← binary)
  let first ← binary
  if ← at_ "??" then
    let e ← readLogicalTail binary "??" .coalesce fuel first
    if (← at_ "&&") || (← at_ "||") then fail "cannot mix ?? with && or ||"
    return e
  let e ← readLogicalTail binary "&&" .and fuel first
  let e ← readLogicalTail conjunction "||" .or fuel e
  if ← at_ "??" then fail "cannot mix ?? with && or ||"
  return e

/-- Reads an expression with a condition, if there is one. -/
def readConditional (G : Grammar) (admitsIn : Bool) : Read Expr := do
  let test ← readLogical G admitsIn
  if ← accept "?" then
    let yes ← G.assignment true
    expect ":"
    let no ← G.assignment admitsIn
    return .conditional test yes no
  return test

/-- The operator of a compound assignment. -/
def compoundOp? (p : String) : Option BinaryOp :=
  match p with
  | "+=" => some .add
  | "-=" => some .sub
  | "*=" => some .mul
  | "/=" => some .div
  | "%=" => some .rem
  | "**=" => some .pow
  | "<<=" => some .shiftLeft
  | ">>=" => some .shiftRight
  | ">>>=" => some .shiftRightZero
  | "&=" => some .bitAnd
  | "|=" => some .bitOr
  | "^=" => some .bitXor
  | _ => none

/-- The operator of a logical assignment. -/
def logicalAssignOp? (p : String) : Option LogicalOp :=
  match p with
  | "&&=" => some .and
  | "||=" => some .or
  | "??=" => some .coalesce
  | _ => none

/-- A value assigned to a place, named after it if the place is a name. -/
def namedFor (target value : Expr) : Expr :=
  match target with
  | .name n _ => value.nameAs n
  | _ => value

/-- Reads the operand of a generator's pause. -/
def readYield (G : Grammar) (admitsIn : Bool) : Read Expr := do
  next
  let t ← token
  let ends :=
    t.afterNewline || isPunct t ";" || isPunct t ")" || isPunct t "]" || isPunct t "\x7d"
      || isPunct t "," || isPunct t ":" || (match t.kind with
        | .eof => true
        | _ => false)
  if ends then return .yielding false none
  let delegate ← accept "*"
  return .yielding delegate (some (← G.assignment admitsIn))

/-- Whether an arrow function without a word before it starts here. -/
def arrowFollows : Read Bool := do
  let t ← token
  if isPunct t "(" then return isPunct (← skipped).after "=>"
  match ← nameOf? t with
  | some _ => return isPunct (← peek) "=>"
  | none => return false

/-- Whether an arrow function after the word `async` starts here. -/
def asyncArrowFollows : Read Bool := do
  let t ← token
  if !isKeyword t "async" then return false
  let p ← peek
  if p.afterNewline then return false
  match p.kind with
  | .word w _ =>
    if w == "function" then return false
    let saved ← get
    next
    let found ← arrowFollows
    set saved
    return found
  | .punct "(" =>
    let saved ← get
    next
    let found ← arrowFollows
    set saved
    return found
  | _ => return false

/-- Reads an expression without commas. -/
def readAssignment (G : Grammar) (admitsIn : Bool) : Read Expr := do
  let t ← token
  if isKeyword t "yield" && (← current).any (·.isGenerator) then return ← readYield G admitsIn
  if ← arrowFollows then return ← readArrow G false t.start t.line
  if ← asyncArrowFollows then
    next
    return ← readArrow G true t.start t.line
  let target ← readConditional G admitsIn
  match (← token).kind with
  | .punct "=" => do
    next
    checkPlace target "invalid assignment left-hand side"
    return .assign target (namedFor target (← G.assignment admitsIn))
  | .punct p =>
    match compoundOp? p, logicalAssignOp? p with
    | some op, _ => do
      next
      checkPlace target "invalid assignment left-hand side"
      return .compound op target (← G.assignment admitsIn)
    | none, some op => do
      next
      checkPlace target "invalid assignment left-hand side"
      return .logicalAssign op target (namedFor target (← G.assignment admitsIn))
    | none, none => return target
  | _ => return target

/-- Reads further expressions after commas. -/
def readCommas (G : Grammar) (admitsIn : Bool) : Nat → Expr → Read Expr
  | 0, e => return e
  | n + 1, e => do
    if ← accept "," then readCommas G admitsIn n (.sequence e (← G.assignment admitsIn))
    else return e

/-- Reads an expression. -/
def readExpression (G : Grammar) (admitsIn : Bool) : Read Expr := do
  let e ← G.assignment admitsIn
  readCommas G admitsIn ((← get).source.size + 1) e

/-! ## Statements -/

/-- Whether the word `let` at hand starts a declaration. -/
def letDeclares (place : StatementPlace) : Read Bool := do
  let t ← token
  if !isKeyword t "let" then return false
  if ← isStrict then return true
  let p ← peek
  let starts ←
    match p.kind with
    | .punct q => pure (q == "[" || q == "\x7b")
    | .word w escaped =>
      pure ((escaped || !(← isReserved w)) || w == "let" || w == "yield" || w == "await")
    | _ => pure false
  return starts && (!p.afterNewline || place.admitsDeclarations)

/-- Reads one declared name or pattern with its value. -/
def readDeclarator (G : Grammar) (kind : DeclarationKind) (admitsIn : Bool) :
    Read (Pattern × Option Expr) := do
  match ← nameOf? (← token) with
  | some w => do
    refuseEscapedKeyword
    if w == "let" && kind != .var then fail "'let' is not a valid lexical identifier"
    next
    declare kind (nameOf w)
    let p : Pattern := .name (nameOf w) (← get).lastLine
    if ← accept "=" then return (p, some ((← G.assignment admitsIn).nameAs (nameOf w)))
    if kind == .constant then fail "missing initializer for const variable"
    return (p, none)
  | none => do
    if ((← at_ "[") || (← at_ "\x7b")) && (← assignsPattern) then
      let p ← G.pattern (.declaration kind)
      expect "="
      return (p, some (← G.assignment admitsIn))
    fail "variable name expected"

/-- Reads declared names with their values. -/
def readDeclarators (G : Grammar) (kind : DeclarationKind) (admitsIn : Bool) :
    Read (List (Pattern × Option Expr)) :=
  gather do
    let d ← readDeclarator G kind admitsIn
    return some (d, ← accept ",")

/-- Reads a block in braces. -/
def readBlock (G : Grammar) : Read Stmt := do
  expect "\x7b"
  openBlock
  let body ← readStatements G
  let declarations ← closeBlock
  next
  return .block declarations body

/-- Reads an expression in parentheses. -/
def readParenthesized (G : Grammar) : Read Expr := do
  expect "("
  let e ← G.expression true
  expect ")"
  return e

/-- The place of a statement that stands alone. -/
def singlePlace : StatementPlace := { admitsFunctions := false, admitsDeclarations := false }

/-- Reads the body of a loop. -/
def readLoopBody (G : Grammar) (labels : List Name) : Read Stmt :=
  withExit { labels, isLoop := true, isSwitch := false } (G.statement singlePlace)

/-- Reads the rest of a loop over something, after its opening parenthesis. -/
def readForEach (G : Grammar) (labels : List Name) : Read Stmt := do
  openBlock
  let kind? : Option DeclarationKind ← do
    if ← atKeyword "var" then pure (some .var)
    else if ← atKeyword "const" then pure (some .constant)
    else if ← letDeclares bodyPlace then pure (some .mutable)
    else pure none
  let head : LoopHead ←
    match kind? with
    | some kind => do
      next
      if (← at_ "[") || (← at_ "\x7b") then
        pure (.declared kind (← G.pattern (.declaration kind)))
      else
        match ← nameOf? (← token) with
        | some w => do
          refuseEscapedKeyword
          if w == "let" && kind != .var then fail "'let' is not a valid lexical identifier"
          next
          declare kind (nameOf w)
          pure (.declared kind (.name (nameOf w) (← get).lastLine))
        | none => fail "variable name expected"
    | none => do
      if (← at_ "[") || (← at_ "\x7b") then
        let after := (← skipped).after
        if isKeyword after "of" || isKeyword after "in" then
          pure (.assigned (← G.pattern .assignment))
        else do
          let e ← readLinked G
          checkPlace e "invalid for in/of left hand-side"
          pure (.assigned (placePattern e))
      else do
        let e ← readLinked G
        checkPlace e "invalid for in/of left hand-side"
        pure (.assigned (placePattern e))
  let isOf ← atKeyword "of"
  if !isOf && !(← atKeyword "in") then
    fail "expected 'of' or 'in' in for control expression"
  next
  let e ← if isOf then G.assignment true else G.expression true
  expect ")"
  let body ← readLoopBody G labels
  let declarations ← closeBlock
  return if isOf then .forOf labels declarations head e body
    else .forIn labels declarations head e body

/-- Reads a loop from the word `for` on. -/
def readFor (G : Grammar) (labels : List Name) : Read Stmt := do
  next
  let counts ← do
    if ← at_ "(" then pure (← skipped).hasSemicolon else pure true
  expect "("
  if !counts then return ← readForEach G labels
  openBlock
  let init : Option Stmt ← do
    if ← at_ ";" then pure none
    else
      let kind? : Option DeclarationKind ← do
        if ← atKeyword "var" then pure (some .var)
        else if ← atKeyword "const" then pure (some .constant)
        else if ← letDeclares bodyPlace then pure (some .mutable)
        else pure none
      match kind? with
      | some kind => do
        next
        pure (some (.declare kind (← readDeclarators G kind false)))
      | none => do pure (some (.expression (← G.expression false)))
  expect ";"
  let test ← if ← at_ ";" then pure none else do pure (some (← G.expression true))
  expect ";"
  let update ← if ← at_ ")" then pure none else do pure (some (← G.expression true))
  expect ")"
  let body ← readLoopBody G labels
  let declarations ← closeBlock
  return .forLoop labels declarations init test update body

/-- Reads a statement that leaves a loop, or goes on with its next round. -/
def readExit (isContinue : Bool) : Read Stmt := do
  next
  let t ← token
  let exits := ((← current).map (·.exits)).getD []
  let label ← do
    if t.afterNewline then pure none else nameOf? t
  match label with
  | some w =>
    let n := nameOf w
    next
    if !exits.any fun e => e.labels.contains n && (e.isLoop || !isContinue) then
      fail "break/continue label not found"
    expectEnd
    return if isContinue then .again (some n) else .leave (some n)
  | none =>
    if isContinue && !exits.any (·.isLoop) then fail "continue must be inside loop"
    if !isContinue && !exits.any fun e => e.isLoop || e.isSwitch then
      fail "break must be inside loop or switch"
    expectEnd
    return if isContinue then .again none else .leave none

/-- Reads a choice among cases. -/
def readSwitch (G : Grammar) (labels : List Name) : Read Stmt := do
  next
  let e ← readParenthesized G
  expect "\x7b"
  openBlock
  let cases ← withExit { labels, isLoop := false, isSwitch := true } <| gather do
    if ← at_ "\x7d" then return none
    let test ←
      if ← acceptKeyword "case" then do
        let test ← G.expression true
        pure (some test)
      else if ← acceptKeyword "default" then pure none
      else fail "invalid switch statement"
    expect ":"
    let body ← gather do
      if (← at_ "\x7d") || (← atKeyword "case") || (← atKeyword "default") then return none
      return some (← G.statement bodyPlace, true)
    return some ((test, body), true)
  if 1 < (cases.filter (·.1.isNone)).length then fail "duplicate default"
  let declarations ← closeBlock
  expect "\x7d"
  return .select e declarations cases

/-- Reads a protected block with what handles and follows it. -/
def readTry (G : Grammar) : Read Stmt := do
  next
  let body ← readBlock G
  let handler ←
    if ← acceptKeyword "catch" then do
      openBlock
      let param ←
        if ← at_ "\x7b" then pure none
        else do
          expect "("
          let p : Pattern ←
            if (← at_ "[") || (← at_ "\x7b") then G.pattern .handler
            else
              match ← nameOf? (← token) with
              | some w => do
                refuseEscapedKeyword
                next
                declareCaught (nameOf w)
                pure (.name (nameOf w) (← get).lastLine)
              | none => fail "identifier expected"
          expect ")"
          pure (some p)
      expect "\x7b"
      openBlock
      let statements ← readStatements G
      let declarations ← closeBlock
      let _ ← closeBlock
      next
      pure (some (param, declarations, statements))
    else pure none
  let finalizer ←
    if ← acceptKeyword "finally" then do pure (some (← readBlock G)) else pure none
  if handler.isNone && finalizer.isNone then fail "expecting catch or finally"
  return .attempt body handler finalizer

/-- Reads a function declaration. Inside a block of sloppy code its name is also a variable of the
function around it, unless that clashes. -/
def readFunctionDeclaration (G : Grammar) (isAsync : Bool) : Read Stmt := do
  let t ← token
  if isAsync then next
  let isGenerator ← readFunctionWord
  match ← nameOf? (← token) with
  | none => fail "function name expected"
  | some w =>
    refuseEscapedKeyword
    next
    let n := nameOf w
    let start : FunctionStart :=
      { kind := .plain, isGenerator, isAsync, name := some n, bindsName := false,
        start := t.start, line := t.line }
    let f? ← current
    let blocks := (f?.map (·.blocks)).getD []
    if blocks.length ≤ 1 then
      if (blocks.head?.bind (OpenBlock.find? · n)).isSome then
        fail "invalid redefinition of lexical identifier"
      modifyCurrent fun f =>
        { f with declared := (n, f.blocks.map (·.id)) :: f.declared }
      let f ← G.function start
      declareInBody (.function f)
      return .empty
    else
      let clashes := blocks.any fun b =>
        match OpenBlock.find? b n with
        | some .variable => true
        | some .function => blocks.head?.map (·.id) != some b.id
        | _ => false
      let alsoVariable :=
        !(f?.any (·.strict)) && !isGenerator && !isAsync && !clashes
          && !(f?.any (·.params.contains n))
      let place := blocks.head?.map (·.id)
      declareLexical n .function (.var n)
      let f ← G.function start
      modifyCurrent fun g =>
        { g with
          blocks := g.blocks.map fun b =>
            if some b.id == place then
              { b with
                declarations := .function f :: b.declarations.filter fun d =>
                  match d with
                  | .var m => m != n
                  | _ => true }
            else b }
      if alsoVariable then
        declareInBody (.var n)
        return .blockFunction n
      return .empty

/-- Reads the statement that a label is put on. -/
def readLabeled (G : Grammar) (place : StatementPlace) (labels : List Name) (n : Name)
    (continueWith : List Name → Read Stmt) : Read Stmt := do
  if ((← current).map (·.exits)).getD [] |>.any (·.labels.contains n) then
    fail "duplicate label name"
  if (← atKeyword "for") || (← atKeyword "while") || (← atKeyword "do") then
    return .labeled n (← continueWith (n :: labels))
  withExit { labels := [n], isLoop := false, isSwitch := false } do
    return .labeled n (← G.statement { place with admitsDeclarations := false })

/-- Reads a loop with the labels put on it, or a choice among cases. -/
def readLoop (G : Grammar) (labels : List Name) : Read Stmt := do
  if ← atKeyword "for" then readFor G labels
  else if ← atKeyword "while" then
    next
    let test ← readParenthesized G
    return .whileLoop labels test (← readLoopBody G labels)
  else
    next
    let body ← readLoopBody G labels
    if !(← acceptKeyword "while") then fail "expecting 'while'"
    let test ← readParenthesized G
    let _ ← accept ";"
    return .doLoop labels body test

/-- Reads a statement that starts with a reserved word, if it does. -/
def readKeywordStatement (G : Grammar) (place : StatementPlace) (w : String) :
    Read (Option Stmt) := do
  match w with
  | "return" =>
    if (← current).any (·.isScript) then fail "return not in a function"
    next
    let t ← token
    let ends :=
      t.afterNewline || isPunct t ";" || isPunct t "\x7d" || (match t.kind with
        | .eof => true
        | _ => false)
    let e ← if ends then pure none else do pure (some (← G.expression true))
    expectEnd
    return some (.returning e)
  | "throw" =>
    next
    if (← token).afterNewline then fail "line terminator not allowed after throw"
    let e ← G.expression true
    let line := (← get).lastLine
    expectEnd
    return some (.throwing e line)
  | "const" | "var" =>
    if w == "const" && !place.admitsDeclarations then
      fail "lexical declarations can't appear in single-statement context"
    next
    let kind : DeclarationKind := if w == "const" then .constant else .var
    let items ← readDeclarators G kind true
    expectEnd
    return some (.declare kind items)
  | "if" =>
    next
    let test ← readParenthesized G
    let inner : StatementPlace :=
      { admitsFunctions := !(← isStrict), admitsDeclarations := false }
    openBlock
    let yes ← G.statement inner
    let yesDeclarations ← closeBlock
    let yes := if yesDeclarations.isEmpty then yes else .block yesDeclarations [yes]
    let no ←
      if ← acceptKeyword "else" then do
        openBlock
        let no ← G.statement inner
        let noDeclarations ← closeBlock
        pure (some (if noDeclarations.isEmpty then no else .block noDeclarations [no]))
      else pure none
    return some (.conditional test yes no)
  | "for" | "while" | "do" =>
    return some (← withExit { labels := [], isLoop := false, isSwitch := false } (readLoop G []))
  | "break" => return some (← readExit false)
  | "continue" => return some (← readExit true)
  | "switch" => return some (← readSwitch G [])
  | "try" => return some (← readTry G)
  | "with" =>
    if ← isStrict then fail "invalid keyword: with"
    fail "unsupported keyword: with"
  | "function" =>
    if !place.admitsFunctions
        || (!place.admitsDeclarations && isPunct (← peek) "*") then
      fail "function declarations can't appear in single-statement context"
    return some (← readFunctionDeclaration G false)
  | "class" =>
    if !place.admitsDeclarations then
      fail "class declarations can't appear in single-statement context"
    let (name, c) ← readClass G true
    let n := nameOf (name.getD "")
    declareLexical n .variable (.lexical n false)
    return some (.classDeclaration n c)
  | "debugger" =>
    next
    expectEnd
    return some .empty
  | "enum" | "export" | "extends" => fail ("unsupported keyword: " ++ w)
  | _ => return none

/-- Reads a statement that is an expression. -/
def readExpressionStatement (G : Grammar) : Read Stmt := do
  let e ← G.expression true
  expectEnd
  return .expression e

/-- Reads a statement that starts with a name, unless it is an expression. -/
def readNameStatement (G : Grammar) (place : StatementPlace) (w : String) : Read Stmt := do
  if isPunct (← peek) ":" then
    let n := nameOf w
    next
    next
    return ← readLabeled G place [] n (readLoop G)
  if ← letDeclares place then
    if !place.admitsDeclarations then
      fail "lexical declarations can't appear in single-statement context"
    next
    let items ← readDeclarators G .mutable true
    expectEnd
    return .declare .mutable items
  if ← atKeyword "async" then
    let p ← peek
    if isKeyword p "function" && !p.afterNewline then
      if !place.admitsDeclarations then
        fail "function declarations can't appear in single-statement context"
      return ← readFunctionDeclaration G true
  readExpressionStatement G

/-- Reads a statement. -/
def readStatement (G : Grammar) (place : StatementPlace) : Read Stmt := do
  let t ← token
  match t.kind with
  | .punct "\x7b" => readBlock G
  | .punct ";" => do
    next
    return .empty
  | .word w escaped =>
    if !escaped && (← isReserved w) && w != "let" then
      match ← readKeywordStatement G place w with
      | some s => return s
      | none => readExpressionStatement G
    else do
      refuseEscapedKeyword
      readNameStatement G place w
  | _ => readExpressionStatement G

/-! ## Whole scripts -/

/-- The readers that may nest a number of levels deep. -/
def grammarOf : Nat → Grammar
  | 0 =>
    { assignment := fun _ => fail "stack overflow", expression := fun _ => fail "stack overflow",
      unary := fail "stack overflow", statement := fun _ => fail "stack overflow",
      function := fun _ => fail "stack overflow", pattern := fun _ => fail "stack overflow" }
  | n + 1 =>
    { assignment := fun admitsIn => readAssignment (grammarOf n) admitsIn,
      expression := fun admitsIn => readExpression (grammarOf n) admitsIn,
      unary := do readPower (grammarOf n) 1,
      statement := fun place => readStatement (grammarOf n) place,
      function := fun start => readFunction (grammarOf n) start,
      pattern := fun use => readPattern (grammarOf n) use }

/-- Reads a whole script. -/
def readProgram (G : Grammar) : Read Program := do
  next
  readDirectives
  let body ← gather do
    match (← token).kind with
    | .eof => return none
    | _ => return some (← G.statement bodyPlace, true)
  let declarations ← closeBlock
  let closed ← closeFunction
  return { declarations, body, strict := closed.any (·.strict),
           hasLines := closed.any (·.hasLines) }

/-- The tree of a script text; `strict` says whether the code around it is strict. -/
def parseProgram (t : Text) (strict : Bool) : Except SyntaxFault Program :=
  let source := t.toArray
  let start : Reading :=
    { source, token := { kind := .eof, start := 0, stop := 0, line := 1, afterNewline := false },
      cursor := { position := 0, line := 1 }, lastLine := 1, lastStop := 0,
      functions :=
        [{ isScript := true, kind := .plain, isGenerator := false, isAsync := false, strict,
           superCallAllowed := false, superAllowed := false, line := 1, hasLines := false,
           usesArguments := false, params := [],
           blocks := [{ id := 0, names := [], declarations := [] }], nextBlock := 1,
           declared := [], exits := [] }] }
  match (readProgram (grammarOf (8 * source.size + 64))).run start with
  | .ok p _ => .ok p
  | .error e _ => .error e

end ScriptHost.Script
