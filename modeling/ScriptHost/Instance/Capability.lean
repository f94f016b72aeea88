import ScriptHost.Instance.Invocation

/-!
# Registering capabilities

A capability is rendered as a script expression: mappings and lists member by member, plain leaves
as literals, and each callable leaf as a call of the bridge on a hidden global that is issued for
it.  `register` assigns the expression to a global; if that fails, the functions issued on the way
are released, and the instance has the modules that it had before.
-/

namespace ScriptHost

/-- What is done while a capability is rendered: the functions issued so far go along, whatever
the outcome. -/
abbrev BuildM (E V α : Type) := EStateM Fault (List Nat × E × Instance V) α

namespace BuildM

variable {E V α : Type}

/-- A step of the host that issues nothing for the capability. -/
def lift (body : HostM E V α) : BuildM E V α := fun (ids, s) =>
  match body s with
  | .ok a s => .ok a (ids, s)
  | .error f s => .error f (ids, s)

/-- Renders from scratch; the outcome comes with the functions issued for it. -/
def outcome (body : BuildM E V α) : HostM E V (Except Fault α × List Nat) := fun s =>
  match body ([], s) with
  | .ok a (ids, s) => .ok (.ok a, ids) s
  | .error f (ids, s) => .ok (.error f, ids) s

/-- A pure outcome. -/
def ofExcept (r : Except Fault α) : BuildM E V α := lift (HostM.ofExcept r)

end BuildM

namespace Interpreter

variable {E V : Type}

/-- The global that makes a script function of a hidden one. -/
def bridgeName : Text := "__jsvm_bridge"

/-- The logger of registrations. -/
def registryLogger : Text := "jsvm.runtime.registry"

/-- Takes functions out of the engine's globals. -/
def release (X : Interpreter E V) : List Nat → HostM E V Unit
  | [] => pure ()
  | id :: rest => do
    let _ ← X.run ("delete globalThis[" ++ Json.writeString true (Registry.hiddenName id) ++ "];")
    HostM.modifyRegistry fun r => r.retire id
    X.release rest

/-- Evaluates the assignment of a rendered capability to the global of a name. -/
def assign (X : Interpreter E V) (key : Text) (expression : BuildM E V Text) :
    BuildM E V Unit := do
  let value ← expression
  let _ ← BuildM.lift (X.run
    ("globalThis[" ++ Json.writeString true key ++ "] = " ++ value ++ ";"))

/-- Registers a capability that is rendered in a given way. -/
def registerRendered (X : Interpreter E V) (name capability : HostValue)
    (expression : BuildM E V Text) : HostM E V Unit := do
  let key := name.text?.getD []
  if key.isEmpty then
    throw (.failure (.moduleRegistration (.str (← HostM.show_ name))
      (.ofString "module name must be a non-empty string") none))
  let (outcome, ids) ← BuildM.outcome (X.assign key expression)
  match outcome with
  | .error f =>
    if f.cls.isRegistrationFault then
      X.release ids
      let reason ← HostM.wording f
      throw (.failure (.moduleRegistration name (.str reason) (some f.cls)))
    throw f
  | .ok () =>
    let registry ← HostM.registry
    if registry.contains key then
      HostM.record registryLogger .debug
        ("Module " ++ Failure.shown name ++ " re-registered, replacing prior binding")
    HostM.modifyRegistry fun r => r.unbind key
    X.release (registry.boundTo key)
    HostM.modifyRegistry fun r => r.bind key name capability ids

/-- Issues a host function under a hidden global; gives the expression for it. -/
def bindFunction (X : Interpreter E V) (path target : HostValue) : BuildM E V Text := do
  let id := (← BuildM.lift HostM.registry).nextId
  BuildM.lift (HostM.modifyRegistry fun r => r.issue { path, target })
  BuildM.lift (X.addFunction id)
  BuildM.lift (HostM.modifyRegistry fun r => r.enliven id)
  modify fun (ids, s) => (ids ++ [id], s)
  return bridgeName ++ "(" ++ Registry.hiddenName id ++ ")"

/-- The path of a member. -/
def memberPath (path key : HostValue) : HostValue :=
  .str (Failure.shown path ++ "." ++ Failure.shown key)

/-- The path of an item. -/
def itemPath (path : HostValue) (i : Nat) : HostValue :=
  .str (Failure.shown path ++ "[" ++ Text.ofNat i ++ "]")

/-- A member of a rendered mapping. -/
def renderedMember (key : Text) (value : Text) : Text :=
  Json.writeString true key ++ ": " ++ value

/-- What a host function does that registers nothing. -/
def callPlain (X : Interpreter E V) (id : Nat) (b : Behaviour) (args : List HostValue) :
    HostM E V HostValue := do
  HostM.ofExcept (b.checkArity args.length)
  HostM.modifyInstance fun i => { i with counts := i.counts.increment id }
  match b with
  | .runFunction name => X.invoke name (.list args)
  | .console m => do
    let text ← HostM.ofExcept (Console.format args)
    HostM.record (← HostM.instance_).logger m.level text
    return .none
  | b => do HostM.ofExcept (b.run ((← HostM.instance_).counts.get id) args)

/-- Refuses a class, which is no capability. -/
def refuseClass (v : HostValue) : BuildM E V Text := throw (.classCapability (v.className?.getD ""))

mutual

/-- The expression for a capability. -/
def build (X : Interpreter E V) (path : HostValue) : HostValue → BuildM E V Text
  | .dict es | .mappingView es => do
    return Json.bracketed "\x7b" "\x7d" (← X.buildMembers path es)
  | .list xs | .tuple xs => do return Json.bracketed "[" "]" (← X.buildItems path 0 xs)
  | .object typeName toScript exports call =>
    if exports.isCallable then X.buildExports path exports
    else if call.isSome && !toScript.isPresent then
      X.bindFunction path (.object typeName toScript exports call)
    else BuildM.ofExcept (HostValue.literal (.object typeName toScript exports call))
  | .function id b => X.bindFunction path (.function id b)
  | .enumeration v => refuseClass (.enumeration v)
  | .recordType fields => refuseClass (.recordType fields)
  | .classObject metaName name toScript exports =>
    refuseClass (.classObject metaName name toScript exports)
  | v => BuildM.ofExcept v.literal
termination_by structural v => v

/-- The expression for what a module exports. -/
def buildExports (X : Interpreter E V) (path : HostValue) : Attribute → BuildM E V Text
  | .method result => X.build path result
  | .failing cls args => throw (.raised cls args)
  | .unbound name => throw (.unboundMethod name)
  | .plain v => X.buildCalled path v
  | .absent => BuildM.ofExcept HostValue.none.literal
termination_by structural a => a

/-- The expression for what calling a value without arguments gives. -/
def buildCalled (X : Interpreter E V) (path : HostValue) : HostValue → BuildM E V Text
  | .object _ _ _ (some v) => X.build path v
  | .function id b => X.buildReturned path id b
  | v => throw (.unrepresentable (v.className?.getD v.typeName))
termination_by structural v => v

/-- The expression for what a host function returns when it is called without arguments. -/
def buildReturned (X : Interpreter E V) (path : HostValue) (id : Nat) :
    Behaviour → BuildM E V Text
  | .returns v => X.build path v
  | .register name v => do
    BuildM.lift (X.registerRendered name v (X.build name v))
    BuildM.ofExcept HostValue.none.literal
  | b => do BuildM.ofExcept (← BuildM.lift (X.callPlain id b [])).literal
termination_by structural b => b

/-- The members of a mapping. -/
def buildMembers (X : Interpreter E V) (path : HostValue) :
    List (HostValue × HostValue) → BuildM E V (List Text)
  | [] => pure []
  | (key, v) :: rest =>
    match key.text? with
    | some t => do
      let value ← X.build (memberPath path key) v
      return renderedMember t value :: (← X.buildMembers path rest)
    | none => throw (.memberNotText key.typeName)
termination_by structural es => es

/-- The items of a list, the first of them at place `i`. -/
def buildItems (X : Interpreter E V) (path : HostValue) (i : Nat) :
    List HostValue → BuildM E V (List Text)
  | [] => pure []
  | v :: rest => do
    let value ← X.build (itemPath path i) v
    return value :: (← X.buildItems path (i + 1) rest)
termination_by structural xs => xs

end

/-- Registers a capability under a name. -/
def register (X : Interpreter E V) (name capability : HostValue) : HostM E V Unit :=
  X.registerRendered name capability (X.build name capability)

/-- Calls a host function. -/
def callHost (X : Interpreter E V) (target : HostValue) (args : List HostValue) :
    HostM E V HostValue := do
  match target with
  | .function _ (.register name v) => do
    X.register name v
    return .none
  | .function id b => X.callPlain id b args
  | .object _ _ _ (some v) => return v
  | v => throw (.worded .type (Text.ofString ("'" ++ v.typeName ++ "' object is not callable")))

/-- The reply of a host function to a payload. A fault goes to the log and into the reply. -/
def replyTo (X : Interpreter E V) (f : HostFunction) (payload : HostValue) :
    HostM E V Text := do
  let call : HostM E V HostValue := do
    X.callHost f.target (← HostM.ofExcept (HostFunction.arguments f.target payload))
  let outcome : Except Fault HostValue ← tryCatch (do return .ok (← call)) (fun e => pure (.error e))
  let (text, fault?) := HostFunction.reply outcome
  match fault? with
  | some fault =>
    let reason ← HostM.wording fault
    HostM.record registryLogger .debug
      ("Host function " ++ Failure.shown f.path ++ " raised: " ++ reason)
  | none => pure ()
  return text

end Interpreter

end ScriptHost
