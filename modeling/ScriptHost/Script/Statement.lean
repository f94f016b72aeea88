import ScriptHost.Script.Expression
import ScriptHost.Script.Grammar

/-!
# Execution of statements

Running statements, and evaluating texts inside running code.
-/

namespace ScriptHost.Script

open Eval Library

variable {σ : Type}

namespace Statement

/-- Notes the value of a script text. -/
def recordValue (site : Site) (v : Value) : Eval σ Unit := do
  if site.records then modifyMachine fun m => { m with completion := v }

/-- Opens a scope for declarations, if there are any. -/
def openBlock (site : Site) (declarations : List Declaration) : Eval σ Site := do
  if declarations.isEmpty then return site
  let scope ← openScope (Variable.childScope site.scope)
  let inner : Site := { site with scope }
  Callable.declareAll inner declarations
  return inner

/-- Declares one name or pattern with its value. -/
def declareOne (I : Interp σ) (site : Site) (kind : DeclarationKind) (p : Pattern)
    (init : Option Expr) : Eval σ Unit := do
  match kind, init with
  | .var, none => pure ()
  | .var, some e => Callable.bindPattern I site .again p (← I.evaluate site e)
  | _, none => Callable.bindPattern I site .first p .undefined
  | _, some e => Callable.bindPattern I site .first p (← I.evaluate site e)

/-- Whether the end of a loop's body means that the loop goes on. -/
def goesOn (labels : List Name) : Completion → Bool
  | .normal | .again none => true
  | .again (some l) => labels.contains l
  | _ => false

/-- How a loop ends when its body ends otherwise. -/
def loopEnd (labels : List Name) : Completion → Completion
  | .leave none => .normal
  | .leave (some l) => if labels.contains l then .normal else .leave (some l)
  | other => other

/-- Repeats a round until one does not go on; `n` bounds the rounds. -/
def repeatRounds (round : Eval σ (Option Completion)) : Nat → Eval σ Completion
  | 0 => throw .exhausted
  | n + 1 => do
    match ← round with
    | some c => return c
    | none => repeatRounds round n

/-- A loop that tests before each round. -/
def whileLoop (I : Interp σ) (site : Site) (labels : List Name) (test : Expr) (body : Stmt) :
    Eval σ Completion :=
  repeatRounds
    (do
      if !(← I.evaluate site test).isTruthy then return some .normal
      let c ← I.execute site body
      return if goesOn labels c then none else some (loopEnd labels c))
    manyRounds

/-- A loop that tests after each round. -/
def doLoop (I : Interp σ) (site : Site) (labels : List Name) (body : Stmt) (test : Expr) :
    Eval σ Completion :=
  repeatRounds
    (do
      let c ← I.execute site body
      if !goesOn labels c then return some (loopEnd labels c)
      return if (← I.evaluate site test).isTruthy then none else some .normal)
    manyRounds

/-- A copy of a scope, for the next round of a loop. -/
def copyScope (site : Site) : Eval σ Site := do
  let s ← scope site.scope
  return { site with scope := ← openScope s }

/-- The rounds of a loop with a test and an update. -/
def forRounds (I : Interp σ) (labels : List Name) (own : Bool) (test update : Option Expr)
    (body : Stmt) : Nat → Site → Eval σ Completion
  | 0, _ => throw .exhausted
  | n + 1, site => do
    let holds ←
      match test with
      | some e => do pure (← I.evaluate site e).isTruthy
      | none => pure true
    if !holds then return .normal
    let c ← I.execute site body
    if !goesOn labels c then return loopEnd labels c
    let site ← if own then copyScope site else pure site
    match update with
    | some e => let _ ← I.evaluate site e
    | none => pure ()
    forRounds I labels own test update body n site

/-- Binds the variable of a loop over something to an item, in a scope of the round. -/
def enterRound (I : Interp σ) (site : Site) (declarations : List Declaration) (head : LoopHead)
    (v : Value) : Eval σ Site := do
  let inner ← openBlock site declarations
  match head with
  | .declared .var p => Callable.bindPattern I inner .again p v
  | .declared _ p => Callable.bindPattern I inner .first p v
  | .assigned p => Callable.bindPattern I inner .again p v
  return inner

/-- The rounds of a loop over given items. -/
def listRounds (I : Interp σ) (site : Site) (labels : List Name) (declarations : List Declaration)
    (head : LoopHead) (body : Stmt) (wanted : Name → Eval σ Bool) :
    List Name → Eval σ Completion
  | [] => return .normal
  | n :: rest => do
    if ← wanted n then
      let inner ← enterRound I site declarations head (.string n)
      let c ← I.execute inner body
      if !goesOn labels c then return loopEnd labels c
    listRounds I site labels declarations head body wanted rest

/-- The listed names of an object and its prototypes, each once. -/
def allListed (I : Interp σ) : Nat → Ref → List Name → List Name → Eval σ (List Name)
  | 0, _, _, acc => return acc
  | fuel + 1, r, hidden, acc => do
    let own := (← keysOf I r).filterMap fun k =>
      match k with
      | .name n => some n
      | .symbol _ => none
    let listed ← listedKeys I r
    let acc := acc ++ listed.filter fun n => !hidden.contains n
    match ← Eval.prototypeOf I r with
    | some p => allListed I fuel p (hidden ++ own) acc
    | none => return acc

/-- A loop over the names of an object. -/
def forIn (I : Interp σ) (site : Site) (labels : List Name) (declarations : List Declaration)
    (head : LoopHead) (e : Expr) (body : Stmt) : Eval σ Completion := do
  let v ← I.evaluate site e
  if v.isNullish then return .normal
  let r ← toObject v
  let names ← allListed I (← chainBound) r [] []
  listRounds I site labels declarations head body
    (fun n => hasProperty I r (.name n)) names

/-- The rounds of a loop over an iteration. -/
def ofRounds (I : Interp σ) (site : Site) (labels : List Name) (declarations : List Declaration)
    (head : LoopHead) (body : Stmt) (it : Iteration) : Nat → Eval σ Completion
  | 0 => throw .exhausted
  | n + 1 => do
    match ← it.step I with
    | none => return .normal
    | some v =>
      let round : Eval σ Completion := do
        let inner ← enterRound I site declarations head v
        I.execute inner body
      let c ←
        try round
        catch signal =>
          it.abandon I
          throw signal
      if goesOn labels c then ofRounds I site labels declarations head body it n
      else
        it.close I
        return loopEnd labels c

/-- A loop over the items of a value. -/
def forOf (I : Interp σ) (site : Site) (labels : List Name) (declarations : List Declaration)
    (head : LoopHead) (e : Expr) (body : Stmt) : Eval σ Completion := do
  let v ← I.evaluate site e
  let it ← iterate I v
  ofRounds I site labels declarations head body it manyRounds

/-- Runs what handles an error. -/
def handle (I : Interp σ) (site : Site)
    (handler : Option Pattern × List Declaration × List Stmt) (v : Value) :
    Eval σ Completion := do
  let (param, declarations, body) := handler
  let scope ← openScope (Variable.childScope site.scope)
  let inner : Site := { site with scope }
  match param with
  | some p => Callable.bindPattern I inner .first p v
  | none => pure ()
  let inner ← openBlock inner declarations
  Callable.executeAll I inner body

/-- Runs a protected statement with what handles its errors. -/
def guarded (I : Interp σ) (site : Site) (body : Stmt)
    (handler : Option (Option Pattern × List Declaration × List Stmt)) : Eval σ Completion := do
  match handler with
  | none => I.execute site body
  | some h =>
    let outcome : Except Value Completion ←
      try
        let c ← I.execute site body
        pure (.ok c)
      catch signal =>
        match signal with
        | .thrown v => pure (.error v)
        | other => throw other
    match outcome with
    | .ok c => return c
    | .error v => handle I site h v

/-- Runs a protected statement with what handles its errors and what follows in any case. -/
def attempt (I : Interp σ) (site : Site) (body : Stmt)
    (handler : Option (Option Pattern × List Declaration × List Stmt)) (finalizer : Option Stmt) :
    Eval σ Completion := do
  match finalizer with
  | none => guarded I site body handler
  | some f =>
    let outcome : Except Signal Completion ←
      try
        let c ← guarded I site body handler
        pure (.ok c)
      catch signal => pure (.error signal)
    match outcome with
    | .error .exhausted => throw .exhausted
    | .error .suspended => throw .suspended
    | _ =>
      let saved := (← machine).completion
      match ← I.execute site f with
      | .normal =>
        recordValue site saved
        match outcome with
        | .ok c => return c
        | .error signal => throw signal
      | other => return other

/-- Runs the cases of a choice from a given one on. -/
def runCases (I : Interp σ) (site : Site) : List (Option Expr × List Stmt) → Eval σ Completion
  | [] => return .normal
  | (_, body) :: rest => do
    match ← Callable.executeAll I site body with
    | .normal => runCases I site rest
    | other => return other

/-- The cases from the first one on whose value is a given one. -/
def matchingCases (I : Interp σ) (site : Site) (v : Value) :
    List (Option Expr × List Stmt) → Eval σ (Option (List (Option Expr × List Stmt)))
  | [] => return none
  | (test, body) :: rest => do
    match test with
    | none => matchingCases I site v rest
    | some e =>
      let x ← I.evaluate site e
      if v.strictEquals x then return some ((test, body) :: rest) else matchingCases I site v rest

/-- A choice among cases. -/
def select (I : Interp σ) (site : Site) (e : Expr) (declarations : List Declaration)
    (cases : List (Option Expr × List Stmt)) : Eval σ Completion := do
  let v ← I.evaluate site e
  let inner ← openBlock site declarations
  let chosen ← matchingCases I inner v cases
  let run := chosen.getD (cases.dropWhile (·.1.isSome))
  match ← runCases I inner run with
  | .leave none => return .normal
  | other => return other

/-- Makes a function of a block a variable of the function around it too. -/
def liftFunction (I : Interp σ) (site : Site) (n : Name) : Eval σ Unit := do
  let v ← Variable.read I site.scope n
  match ← Variable.variableScope site.scope with
  | some i => Variable.give i n v
  | none => setMember I (.object Intrinsic.globalObject.ref) (.name n) v false

/-- Runs a statement. -/
def execute (I : Interp σ) (site : Site) (s : Stmt) : Eval σ Completion := do
  match s with
  | .expression e =>
    let v ← I.evaluate site e
    recordValue site v
    return .normal
  | .declare kind items =>
    for (p, init) in items do
      declareOne I site kind p init
    return .normal
  | .blockFunction n =>
    liftFunction I site n
    return .normal
  | .classDeclaration n c =>
    let v ← I.evaluate site (.classValue c)
    Variable.give site.scope n v
    return .normal
  | .returning none => return .returned .undefined
  | .returning (some e) => return .returned (← I.evaluate site e)
  | .conditional test yes no =>
    recordValue site .undefined
    if (← I.evaluate site test).isTruthy then I.execute site yes
    else
      match no with
      | some s => I.execute site s
      | none => return .normal
  | .forLoop labels declarations init test update body =>
    recordValue site .undefined
    let inner ← openBlock site declarations
    match init with
    | some s => let _ ← I.execute { inner with records := false } s
    | none => pure ()
    forRounds I labels (!declarations.isEmpty) test update body manyRounds inner
  | .forIn labels declarations head e body =>
    recordValue site .undefined
    forIn I site labels declarations head e body
  | .forOf labels declarations head e body =>
    recordValue site .undefined
    forOf I site labels declarations head e body
  | .whileLoop labels test body =>
    recordValue site .undefined
    whileLoop I site labels test body
  | .doLoop labels body test =>
    recordValue site .undefined
    doLoop I site labels body test
  | .leave label => return .leave label
  | .again label => return .again label
  | .throwing e line =>
    let v ← I.evaluate site e
    reachLine line
    throwValue v
  | .attempt body handler finalizer =>
    recordValue site .undefined
    attempt I site body handler finalizer
  | .select e declarations cases =>
    recordValue site .undefined
    select I site e declarations cases
  | .block declarations body =>
    let inner ← openBlock site declarations
    Callable.executeAll I inner body
  | .labeled n body =>
    match ← I.execute site body with
    | .leave (some l) => return if l == n then .normal else .leave (some l)
    | other => return other
  | .empty => return .normal

/-! ## Texts -/

/-- Reads a script text; a text that cannot be read is an error of the script. -/
def parse (t : Text) (strict : Bool) : Eval σ Program := do
  match parseProgram t strict with
  | .ok p => return p
  | .error e => failSyntax e.message e.line

/-- The call of a script text, as it shows in a trace. -/
def textFrame (p : Program) : Frame :=
  { callee := none, isNative := false, strict := p.strict,
    line := if p.hasLines then some 1 else none }

/-- Runs the statements of a text and gives the value of the last expression statement. -/
def runText (I : Interp σ) (site : Site) (body : List Stmt) : Eval σ Value := do
  let saved := (← machine).completion
  modifyMachine fun m => { m with completion := .undefined }
  let restore : Eval σ Value := do
    let v := (← machine).completion
    modifyMachine fun m => { m with completion := saved }
    return v
  try
    let _ ← Callable.executeAll I site body
    restore
  catch signal =>
    let _ ← restore
    throw signal

/-- Declares the variables of an evaluated text where they belong. -/
def declareOutside (I : Interp σ) (outer : Option Nat) (site : Site) :
    List Declaration → Eval σ Unit
  | [] => return ()
  | d :: rest => do
    match d, outer with
    | .var n, some i => Variable.bindVariable i n
    | .var n, none => Variable.defineGlobalVariable I n true
    | .function f, some i => do
      let r ← Callable.make site f
      Variable.give i (f.info.name.getD ∅) (.object r)
    | .function f, none => do
      let r ← Callable.make site f
      Variable.defineGlobalFunction I (f.info.name.getD ∅) (.object r) true
    | .lexical n constant, _ => Variable.bind site.scope ⟨n, none, !constant, false⟩
    declareOutside I outer site rest

/-- Evaluates a text inside running code: `direct` says whether it sees the scope it stands in. -/
def evaluateText (I : Interp σ) (around : Site) (direct : Bool) (s : Utf16) : Eval σ Value := do
  let p ← parse s.toText (direct && around.strict)
  let frame := textFrame p
  withFrame frame do
    let outer ← if direct then Variable.variableScope around.scope else pure none
    let own := { Variable.childScope around.scope with holdsVariables := p.strict }
    let scope ← openScope own
    let site : Site := { scope, strict := p.strict, records := true }
    if p.strict then Callable.declareAll site p.declarations
    else declareOutside I outer site p.declarations
    runText I site p.body

/-- Declares the variables of a script. -/
def declareGlobal (I : Interp σ) (site : Site) : List Declaration → Eval σ Unit
  | [] => return ()
  | d :: rest => do
    match d with
    | .var n => Variable.defineGlobalVariable I n false
    | .lexical n constant => Variable.bind 0 ⟨n, none, !constant, false⟩
    | .function f => do
      let r ← Callable.make site f
      Variable.defineGlobalFunction I (f.info.name.getD ∅) (.object r) false
    declareGlobal I site rest

/-- Runs a script: its declarations are checked together before any of them takes effect. -/
def runScript (I : Interp σ) (t : Text) : Eval σ Value := do
  let p ← parse t false
  withFrame (textFrame p) do
    let site : Site := { scope := 0, strict := p.strict, records := true }
    for d in p.declarations do
      Variable.checkGlobal d
    declareGlobal I site p.declarations
    runText I site p.body

end Statement

end ScriptHost.Script
