import ScriptHost.Unicode.Blank

/-!
# Allowed origins

The origins that the service admits are configured as one text with commas between them.
-/

namespace ScriptHost.Service

/-- The comma. -/
def comma : CodePoint := CodePoint.ofChar ','

/-- The origins that a configuration text lists: its trimmed segments, blank ones left out. -/
def listedOrigins (t : Text) : List Text :=
  ((Text.splitOn comma t).map Unicode.trim).filter fun s => !s.isEmpty

/-- The origins that the service admits. Without any in the configuration it admits all. -/
def originsOf (configured : Option Text) : List Text :=
  let listed := listedOrigins (configured.getD "*")
  if listed.isEmpty then ["*"] else listed

end ScriptHost.Service
