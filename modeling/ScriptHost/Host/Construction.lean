import ScriptHost.Host.Image

/-!
# Building failures and field declarations from host arguments

Host code may build any of the runtime's failures itself, and may declare record fields with
further options.  Both check their arguments here.
-/

namespace ScriptHost

namespace FailureKind

/-- The required parameters of a kind's constructor, and the number of optional ones. -/
def parameters : FailureKind → List String × Nat
  | general | initialization | scriptExecution => (["message"], 1)
  | notRegularFile => (["path"], 0)
  | unreadable => (["path", "reason"], 0)
  | moduleRegistration | notExportable => (["name", "reason"], 0)
  | functionNotFound => (["name"], 0)
  | functionRuntime => (["name", "message"], 0)

/-- The name under which a kind's constructor reports its arity faults. -/
def constructorName (k : FailureKind) : String :=
  let owner :=
    match k with
    | initialization | scriptExecution => general
    | k => k
  owner.className ++ ".__init__"

end FailureKind

namespace Failure

/-- A failure from arguments whose number has been checked. -/
def ofChecked (kind : FailureKind) (args : List HostValue) : Failure :=
  let first := args.headD .none
  let second := (args.drop 1).headD .none
  match kind with
  | .notRegularFile => notRegularFile (shown first) none
  | .unreadable => unreadable (shown first) second none
  | .moduleRegistration => moduleRegistration first second none
  | .functionNotFound => functionNotFound first
  | .notExportable => notExportable first second none
  | .functionRuntime => functionRuntime first second none
  | .general | .initialization | .scriptExecution =>
    { kind, body := first, path := second, name := none, reason := none, cause := none }

/-- The failure of a kind that some arguments make. -/
def ofArguments (kind : FailureKind) (args : List HostValue) : Except Fault Failure :=
  let (required, optional) := kind.parameters
  if args.length < required.length then
    .error (.missingArguments kind.constructorName (required.drop args.length))
  else if required.length + optional < args.length then
    .error (.excessArguments kind.constructorName (required.length + 1) optional
      (args.length + 1))
  else .ok (ofChecked kind args)

/-- The message of a failure, or the fault of one whose message is no text. -/
def checkedMessage (f : Failure) : Except Fault Text :=
  match f.message? with
  | some t => .ok t
  | none =>
    .error (.worded .type
      (Text.ofString ("__str__ returned non-string (type " ++ f.body.typeName ++ ")")))

end Failure

/-- A declared record field: its metadata, with the script tag in it, and its default. -/
structure FieldDeclaration where
  metadata : List (HostValue × HostValue)
  default : HostValue

namespace FieldDeclaration

/-- The metadata key of the script tag. -/
def tagKey : HostValue := .ofString "json"

/-- The entries of a sequence of pairs. -/
def entriesOfPairs : Nat → List HostValue → Except Fault (List (HostValue × HostValue))
  | _, [] => .ok []
  | index, v :: rest => do
    match v.iterate with
    | .error _ =>
      throw (.worded .type (Text.ofString ("cannot convert dictionary update sequence element #"
        ++ Nat.repr index ++ " to a sequence")))
    | .ok [key, value] =>
      return (key, value) :: (← entriesOfPairs (index + 1) rest)
    | .ok items =>
      throw (.worded .value (Text.ofString ("dictionary update sequence element #"
        ++ Nat.repr index ++ " has length " ++ Nat.repr items.length ++ "; 2 is required")))

/-- The entries that a metadata option gives. -/
def metadataEntries (v : HostValue) : Except Fault (List (HostValue × HostValue)) :=
  if !v.isTruthy then .ok []
  else
    match v.entries? with
    | some es => .ok es
    | none => do
      return HostValue.distinctEntries (← entriesOfPairs 0 (← v.iterate))

/-- The options that a field takes. -/
def options : List String :=
  ["default", "default_factory", "init", "repr", "hash", "compare", "metadata", "kw_only"]

/-- The field with a script tag and further options. -/
def ofOptions (tag : HostValue) (given : List (Text × HostValue)) :
    Except Fault FieldDeclaration := do
  let option? (name : String) : Option HostValue :=
    (given.find? fun e => e.1 == Text.ofString name).map (·.2)
  let metadata ← metadataEntries ((option? "metadata").getD .none)
  match given.find? fun e => !options.any fun name => Text.ofString name == e.1 with
  | some (name, _) =>
    throw (.worded .type ("field() got an unexpected keyword argument '" ++ name ++ "'"))
  | none => pure ()
  if (option? "default").isSome && (option? "default_factory").isSome then
    throw (.worded .value "cannot specify both default and default_factory")
  return { metadata := HostValue.insertKey metadata tagKey tag, default := (option? "default").getD .none }

end FieldDeclaration

end ScriptHost
