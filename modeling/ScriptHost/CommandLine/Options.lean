import ScriptHost.CommandLine.Suggestion

/-!
# Reading a command line

Options come before, between or after the other arguments, long ones in full or with `=` and a
value, short ones one after the other behind one dash.  After `--` nothing is an option.
-/

namespace ScriptHost.CommandLine

/-- An option of a command. -/
structure OptionSpec where
  short : Option Char
  /-- The long name with its dashes. -/
  long : String
  takesValue : Bool
  help : String
  /-- The value that stands unless one is given, if the help text shows it. -/
  shownDefault : Option String
deriving DecidableEq

namespace OptionSpec

/-- The short name with its dash. -/
def shortName? (o : OptionSpec) : Option String := o.short.map fun c => String.ofList ['-', c]

end OptionSpec

/-- A command: what it is about, its options, and the name of its argument. -/
structure CommandSpec where
  name : String
  summary : String
  options : List OptionSpec
  /-- The argument that the command wants; a group of commands wants a command instead. -/
  argument : Option String
deriving DecidableEq

/-- What is wrong with a command line. -/
inductive Misuse
  | noSuchOption (name : Text) (alike : List Text)
  | valueMissing (name : Text)
  | valueUnwanted (name : Text)
  | argumentMissing (name : String)
  | argumentsUnexpected (args : List Text)
  | noSuchCommand (name : Text)
  | commandMissing
deriving DecidableEq

/-- The options of a command line in the order in which they are given, and the rest of it. -/
structure Parsed where
  options : List (OptionSpec × Option Text)
  /-- The other arguments before the end of the options. -/
  arguments : List Text
  /-- The arguments after the end of the options. -/
  remaining : List Text
deriving DecidableEq

namespace Parsed

/-- Nothing read yet. -/
def empty : Parsed := { options := [], arguments := [], remaining := [] }

/-- With one more option. -/
def addOption (p : Parsed) (o : OptionSpec) (v : Option Text) : Parsed :=
  { p with options := p.options ++ [(o, v)] }

/-- With one more argument. -/
def addArgument (p : Parsed) (t : Text) : Parsed := { p with arguments := p.arguments ++ [t] }

/-- Whether an option is given. -/
def has (p : Parsed) (long : String) : Bool := p.options.any fun e => e.1.long == long

/-- The values of an option. -/
def valuesOf (p : Parsed) (long : String) : List Text :=
  p.options.filterMap fun e => if e.1.long == long then e.2 else none

/-- All arguments. -/
def allArguments (p : Parsed) : List Text := p.arguments ++ p.remaining

end Parsed

/-- What reading one option gives: the option with its value, and what follows. -/
abbrev OptionRead := Except Misuse (List (OptionSpec × Option Text) × List Text)

/-- Takes the value of an option. -/
def takeValue (name : Text) (o : OptionSpec) (rest : List Text) :
    Except Misuse ((OptionSpec × Option Text) × List Text) :=
  match rest with
  | [] => .error (.valueMissing name)
  | v :: rest => .ok ((o, some v), rest)

/-- The option with a long name. -/
def longOption? (options : List OptionSpec) (name : Text) : Option OptionSpec :=
  options.find? fun o => Text.ofString o.long == name

/-- Reads the option with a long name, and a value if one is attached. -/
def readLong (o : OptionSpec) (name : Text) (attached : Option Text) (rest : List Text) :
    OptionRead :=
  if o.takesValue then do
    let (e, rest) ← takeValue name o (attached.toList ++ rest)
    return ([e], rest)
  else if attached.isSome then .error (.valueUnwanted name)
  else .ok ([(o, none)], rest)

/-- Reads short options behind a dash. -/
def readShorts (options : List OptionSpec) (dash : CodePoint) : Text → List Text → OptionRead
  | [], rest => .ok ([], rest)
  | c :: more, rest =>
    let name : Text := [dash, c]
    match options.find? fun o => o.short.map CodePoint.ofChar == some c with
    | none => .error (.noSuchOption name [])
    | some o =>
      if o.takesValue then do
        let (e, rest) ← takeValue name o (if more.isEmpty then rest else more :: rest)
        return ([e], rest)
      else do
        let (es, rest) ← readShorts options dash more rest
        return ((o, none) :: es, rest)

/-- The name and the attached value of a long option. -/
def splitAttached (t : Text) : Text × Option Text :=
  let name := t.takeWhile (· != CodePoint.ofChar '=')
  match t.dropWhile (· != CodePoint.ofChar '=') with
  | [] => (name, none)
  | _ :: value => (name, some value)

/-- Reads the options of one word. -/
def readOption (options : List OptionSpec) (word : Text) (rest : List Text) : OptionRead :=
  let (name, attached) := splitAttached word
  match longOption? options name with
  | some o => readLong o name attached rest
  | none =>
    if Text.startsWith word "--" then
      .error (.noSuchOption name
        (Suggestion.closeMatches name (options.map fun o => Text.ofString o.long)))
    else
      match word with
      | dash :: letters => readShorts options dash letters rest
      | [] => .ok ([], rest)

/-- Whether a word is read as options. -/
def isOptionWord (word : Text) : Bool := Text.startsWith word "-" && 1 < word.length

/-- Reads a command line of at most `fuel` words; `interspersed` tells whether options may follow
an argument. -/
def readWords (options : List OptionSpec) (interspersed : Bool) :
    Nat → List Text → Parsed → Except Misuse Parsed
  | 0, words, p => .ok { p with remaining := words }
  | _ + 1, [], p => .ok p
  | fuel + 1, word :: rest, p =>
    if word = ("--" : Text) then .ok { p with remaining := rest }
    else if isOptionWord word then do
      let (es, rest) ← readOption options word rest
      readWords options interspersed fuel rest { p with options := p.options ++ es }
    else if interspersed then readWords options interspersed fuel rest (p.addArgument word)
    else .ok { p with remaining := word :: rest }

/-- Reads a command line. -/
def parse (options : List OptionSpec) (interspersed : Bool) (words : List Text) :
    Except Misuse Parsed :=
  readWords options interspersed (words.length + 1) words .empty

end ScriptHost.CommandLine
