import ScriptHost.Instance.Construction
import ScriptHost.Script.Engine

/-!
# Instances over the script engine

The script engine as an `Interpreter`.  Values that cross between host and engine as plain data go
through UTF-8 and end at a zero character; faults cross as texts.  The engine calls back into the
instance when a script calls a hidden global: that is `hostCall`, and `interpreter` ties the knot.
-/

namespace ScriptHost.ScriptEngine

open Script Script.Eval

/-- The state of an instance, as the engine carries it along. -/
abbrev Host := Instance Value

/-- What the host does with the engine. -/
abbrev EngineM (α : Type) := HostM Machine Value α

/-! ## Out of the engine -/

/-- A text up to its first zero character. -/
def upToZero (t : Text) : Text := t.takeWhile fun c => c.val != 0

/-- A text of the engine as a host text. -/
def hostText (s : Utf16) : Except Fault Text :=
  match Utf8.decode (Utf8.encodeAll (upToZero s.toText)) with
  | .ok t => .ok t
  | .error e => .error (.notUtf8 e)

/-- What stands for one byte that cannot be decoded. -/
def replacement : CodePoint := CodePoint.ofNat 0xFFFD

/-- A text of the engine as a host text, with each byte of a lone surrogate replaced. -/
def lossyText (s : Utf16) : Text :=
  (upToZero s.toText).flatMap fun c =>
    if c.isSurrogate then [replacement, replacement, replacement] else [c]

/-- A value on its way out of the engine. -/
def passed (v : Value) : Except Fault (Passed Value) :=
  match v with
  | .undefined | .null | .symbol _ => .ok (.plain .none)
  | .bool b => .ok (.plain (.bool b))
  | .int i => .ok (.plain (.int i.toInt))
  | .float x => .ok (.plain (.float x))
  | .string s => do return .plain (.str (← hostText s))
  | .bigint i =>
    let count := (Nat.toDigits 10 i.natAbs).length
    if maxIntegerDigits < count then .error (.digitsTooMany count) else .ok (.plain (.int i))
  | .object r => .ok (.handle (.object r))

/-! ## Into the engine -/

/-- Refuses an argument of a type that the engine does not take. -/
def checkArgument : Passed Value → Except Fault Unit
  | .handle _ => .ok ()
  | .plain v =>
    match v with
    | .none | .bool _ | .int _ | .intMember _ | .float _ | .str _ | .strMember _ => .ok ()
    | v => .error (.unsupportedArgument v.typeName)

/-- An integer on its way into the engine: its low 32 bits if it has at most 64, else the nearest
double. -/
def numberIn (i : Int) : Except Fault Value :=
  if -(2 ^ 63) ≤ i && i < 2 ^ 63 then .ok (.int (Int32.ofInt i))
  else do return .float (← HostValue.floatOfInt i)

/-- A value on its way into the engine. -/
def valueIn : Passed Value → Except Fault Value
  | .handle v => .ok v
  | .plain v =>
    match v with
    | .none => .ok .null
    | .bool b => .ok (.bool b)
    | .int i | .intMember i => numberIn i
    | .float x => .ok (Value.ofFloat x)
    | .str t | .strMember t =>
      match Utf8.firstSurrogate? t with
      | some (position, c) =>
        .error (.loneSurrogate c position ((t.drop position).takeWhile (·.isSurrogate)).length)
      | none => .ok (.string (Utf16.ofText (upToZero t)))
    | v => .error (.unsupportedArgument v.typeName)

/-- Arguments on their way into the engine: first all types are checked. -/
def valuesIn (args : List (Passed Value)) : Except Fault (List Value) := do
  args.forM checkArgument
  args.mapM valueIn

/-! ## Faults -/

/-- Something that may fail, or nothing. -/
def attempt {α : Type} (body : Eval Host α) : Eval Host (Option α) :=
  tryCatch (do return some (← body)) fun _ => pure none

/-- The fault that a thrown value is to the host: its text and its stack, if it has them. -/
def thrownFault (I : Interp Host) (v : Value) : Eval Host Fault := do
  let text ← attempt (toText I v)
  let stack ←
    if v.isNullish then pure none
    else attempt (do toText I (← getMember I v "stack"))
  match text with
  | none =>
    return .script "(Failed obtaining QuickJS error string. Concurrency issue?)"
  | some text =>
    let shown := lossyText text
    let message := shown ++ "\n" ++ ((stack.map lossyText).getD [])
    let overflow := Utf16.ofString "stack overflow"
    return if ((Utf16.ofText shown).indexOf? overflow 0).isSome then .stackOverflow message
      else .script message

/-- The fault of a script that goes on for too long. -/
def exhausted : Fault := .stackOverflow "InternalError: stack overflow\n"

/-- Runs the engine; whatever ends it before its time is a fault. -/
def perform {α : Type} (I : Interp Host) (body : Eval Host α) : EngineM α := fun s =>
  match body s with
  | .ok a s => .ok a s
  | .error (.thrown v) s =>
    match thrownFault I v s with
    | .ok f s => .error f s
    | .error _ s => .error exhausted s
  | .error _ s => .error exhausted s

/-! ## The interpreter -/

/-- Puts a host function under its hidden global. -/
def addFunction (I : Interp Host) (id : Nat) : EngineM Unit := fun s =>
  let name := Utf16.ofText (Registry.hiddenName id)
  let body : Eval Host Unit := do
    let f ← newNative (.host id) name 0
    setProperty I Intrinsic.globalObject.ref (.name name) (.object f)
  match body s with
  | .ok () s => .ok () s
  | .error _ s => .error .functionNotAdded s

/-- The engine as an instance sees it, with an evaluator for its code. -/
def interpreterOver (I : Interp Host) : Interpreter Machine Value :=
  { evaluate := fun t => do HostM.ofExcept (passed (← perform I (Statement.runScript I t)))
    call := fun f args => do
      let values ← HostM.ofExcept (valuesIn args)
      HostM.ofExcept (passed (← perform I (I.call f .undefined values.toArray)))
    dataText := fun v => do
      match ← perform I (Library.JsonText.stringify I v .undefined .undefined) with
      | .string s => return some (← HostM.ofExcept (hostText s))
      | _ => return none
    addFunction := addFunction I }

/-- The argument of a hidden global as a host value. -/
def payload (v : Value) : Except Fault HostValue := do
  match ← passed v with
  | .plain v => return v
  | .handle _ => return .object "Object" .absent .absent none

/-- What happens when a script calls the hidden global with a number. -/
def hostCall : Engine.HostCall Host := fun I id args s =>
  let reply : EngineM Text := do
    match (← HostM.registry).function? id, args.toList with
    | some f, [v] => do (interpreterOver I).replyTo f (← HostM.ofExcept (payload v))
    | _, _ => throw .functionNotAdded
  match reply s with
  | .ok t s => .ok (.string (Utf16.ofText t)) s
  | .error _ s => Eval.fail "InternalError" "Python call failed." s

/-- The evaluator of scripts that can call the host. -/
def evaluator : Interp Host := Engine.interp hostCall Engine.nesting

/-- The engine as an instance sees it. -/
def interpreter : Interpreter Machine Value := interpreterOver evaluator

/-- The state before an instance is built. -/
def fresh : Machine × Host := (Realm.machine, Instance.blank Value)

end ScriptHost.ScriptEngine
