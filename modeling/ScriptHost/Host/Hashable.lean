import ScriptHost.Host.Fault

/-!
# Values that can be looked up

A value can be looked up in a table unless its content may change.
-/

namespace ScriptHost.HostValue

mutual

/-- The type that keeps a value from being looked up, if there is one. -/
def unhashable? : HostValue → Option String
  | list xs => some (list xs).typeName
  | dict es => some (dict es).typeName
  | mappingView es => some (mappingView es).typeName
  | set xs => some (set xs).typeName
  | record fs => some (record fs).typeName
  | tuple xs => unhashableIn? xs
  | _ => Option.none

/-- The type that keeps one of some values from being looked up. -/
def unhashableIn? : List HostValue → Option String
  | [] => Option.none
  | v :: rest => (unhashable? v).or (unhashableIn? rest)

end

/-- Refuses a value that cannot be looked up. -/
def checkHashable (v : HostValue) : Except Fault Unit :=
  match v.unhashable? with
  | some name => .error (.worded .type (Text.ofString ("unhashable type: '" ++ name ++ "'")))
  | Option.none => .ok ()

end ScriptHost.HostValue
