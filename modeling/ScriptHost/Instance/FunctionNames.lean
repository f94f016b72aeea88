import ScriptHost.Instance.Lookup
import ScriptHost.Unicode.Blank
import ScriptHost.Unicode.Word

/-!
# The functions of a script

Which global functions a script defines.  Functions that are properties of the global object come
first, in the engine's order.  Lexical bindings are no such properties, so their names are scanned
from the script text, and each is looked up.
-/

namespace ScriptHost

namespace LexicalScan

/-- A character that opens a scanned name. -/
def isNameStart (c : CodePoint) : Bool := isPlainStart c

/-- A character that continues a scanned name: a word character of any script, or a dollar sign. -/
def isNamePart (c : CodePoint) : Bool := Unicode.isWord c || c.val == 0x24

/-- The name and what follows it, after a declaring word: blanks and then a name. -/
def nameAfterWord? (t : Text) : Option (Text × Text) :=
  match t with
  | [] => none
  | c :: _ =>
    if !Unicode.isBlank c then none
    else
      match t.dropWhile Unicode.isBlank with
      | [] => none
      | d :: rest =>
        if isNameStart d then some (d :: rest.takeWhile isNamePart, rest.dropWhile isNamePart)
        else none

/-- The name that a declaration here declares, and what follows it. -/
def declared? (t : Text) : Option (Text × Text) :=
  if Text.startsWith t "let" then nameAfterWord? (t.drop 3)
  else if Text.startsWith t "const" then nameAfterWord? (t.drop 5)
  else none

/-- The declared names of a text of at most `n` characters; `inWord` tells whether a word
character stands before it. -/
def namesFrom : Nat → Bool → Text → List Text
  | 0, _, _ => []
  | _ + 1, _, [] => []
  | n + 1, inWord, c :: rest =>
    let next := namesFrom n (Unicode.isWord c) rest
    if inWord then next
    else
      match declared? (c :: rest) with
      | none => next
      | some (name, rest) => name :: namesFrom n (name.getLast?.any Unicode.isWord) rest

/-- The names after the words `let` and `const` in a script text, in order. -/
def names (script : Text) : List Text := namesFrom script.length false script

end LexicalScan

namespace Interpreter

variable {E V : Type}

/-- The text whose value lists the functions among the properties of the global object. -/
def globalFunctionsSource : Text :=
  "JSON.stringify(Object.getOwnPropertyNames(globalThis).filter(function (k) \x7b" ++
    Text.ofString " return typeof globalThis[k] === 'function'; \x7d))"

/-- The items of the list that a script text gives as JSON. -/
def jsonItems (X : Interpreter E V) (source : Text) : HostM E V (List HostValue) := do
  match ← X.run source with
  | .plain v =>
    match v.text? with
    | some t => HostM.ofExcept do (← Json.read t).iterate
    | none => throw (.jsonNotText v.typeName)
  | .handle _ => throw (.jsonNotText "Object")

/-- The functions among the properties of the global object, as the engine lists them. -/
def globalFunctions (X : Interpreter E V) : HostM E V (List HostValue) :=
  X.jsonItems globalFunctionsSource

/-- The text whose value lists the hidden globals. -/
def hiddenGlobalsSource : Text :=
  "JSON.stringify(Object.getOwnPropertyNames(globalThis).filter(function (k) \x7b" ++
    Text.ofString " return k.indexOf('__jsvm') === 0; \x7d))"

/-- The properties of the global object that stand for the bridge and for host functions. -/
def hiddenGlobals (X : Interpreter E V) : HostM E V (List HostValue) :=
  X.jsonItems hiddenGlobalsSource

/-- The listed functions that are neither hidden by name nor stand-ins for host functions. -/
def ownFunctions (hidden : List Text) : List HostValue → Except Fault (List Text)
  | [] => .ok []
  | v :: rest => do
    v.checkHashable
    match v.text? with
    | none =>
      throw (.worded .missingAttribute
        (Text.ofString ("'" ++ v.typeName ++ "' object has no attribute 'startswith'")))
    | some name =>
      let names ← ownFunctions hidden rest
      return if hidden.contains name || Text.startsWith name Registry.hiddenPrefix then names
        else name :: names

/-- The names with the scanned ones that denote functions added at the end. -/
def addLexical (X : Interpreter E V) (hidden : List Text) (names : List Text) :
    List Text → HostM E V (List Text)
  | [] => pure names
  | name :: rest => do
    if hidden.contains name || names.contains name then X.addLexical hidden names rest
    else
      let isFunction :=
        match ← X.kind (.str name) with
        | .plain (.str t) => t == ("function" : Text)
        | _ => false
      X.addLexical hidden (if isFunction then names ++ [name] else names) rest

/-- The names of the global functions that the script defines. -/
def functionNames (X : Interpreter E V) : HostM E V (List Text) := do
  let i ← HostM.instance_
  let hidden := i.registry.modules.map (·.1) ++ i.baseline
  let listed ← X.globalFunctions
  let names ← HostM.ofExcept (ownFunctions hidden listed)
  X.addLexical hidden names (LexicalScan.names (i.script.text?.getD []))

end Interpreter

end ScriptHost
