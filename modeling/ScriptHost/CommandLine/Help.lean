import ScriptHost.CommandLine.Options
import ScriptHost.Text.Quoted

/-!
# Help and usage texts

The help page of a command, and the texts that answer a misused command line.
-/

namespace ScriptHost.CommandLine

/-- The option that asks for help. Every command has it. -/
def helpOption : OptionSpec :=
  { short := none, long := "--help", takesValue := false, help := "Show this message and exit.",
    shownDefault := none }

namespace OptionSpec

/-- The names of an option as a help page shows them. -/
def shownNames (o : OptionSpec) : String :=
  (match o.shortName? with
    | some s => s ++ ", "
    | none => "")
    ++ o.long ++ (if o.takesValue then " TEXT" else "")

/-- What a help page says of an option. -/
def shownHelp (o : OptionSpec) : String :=
  match o.shownDefault with
  | some d => o.help ++ "  [default: " ++ d ++ "]"
  | none => o.help

end OptionSpec

/-- A text with blanks up to a width. -/
def padded (width : Nat) (s : String) : String :=
  s ++ String.ofList (List.replicate (width - s.length) ' ')

/-- Rows of two columns. -/
def columns (rows : List (String × String)) : String :=
  let width := (rows.map (·.1.length)).foldl max 0
  String.join (rows.map fun (l, r) => "  " ++ padded (width + 2) l ++ r ++ "\n")

/-- What follows the options in the usage line of a command. -/
def CommandSpec.wants (c : CommandSpec) : String := c.argument.getD "COMMAND [ARGS]..."

/-- The usage line of a command, which is called by a path of names. -/
def usageLine (path : String) (c : CommandSpec) : String :=
  "Usage: " ++ path ++ " [OPTIONS] " ++ c.wants ++ "\n"

/-- The help page of a command with some commands under it. -/
def helpPage (path : String) (c : CommandSpec) (commands : List CommandSpec) : String :=
  usageLine path c ++ "\n  " ++ c.summary ++ "\n\nOptions:\n"
    ++ columns (c.options.map fun o => (o.shownNames, o.shownHelp))
    ++ (if commands.isEmpty then ""
      else "\nCommands:\n" ++ columns (commands.map fun d => (d.name, d.summary)))

namespace Misuse

/-- A hint at names that are alike. -/
def hint (alike : List Text) : Text :=
  match alike with
  | [] => []
  | [t] => " Did you mean " ++ t.quoted ++ "?"
  | ts => " (Possible options: " ++ Text.joinWith ", " (ts.map Text.quoted) ++ ")"

/-- What is wrong, in words. -/
def message (commands : List Text) : Misuse → Text
  | noSuchOption name alike => "No such option " ++ name.quoted ++ "." ++ hint alike
  | valueMissing name => "Option " ++ name.quoted ++ " requires an argument."
  | valueUnwanted name => "Option " ++ name.quoted ++ " does not take a value."
  | argumentMissing name => Text.ofString ("Missing argument '" ++ name ++ "'.")
  | argumentsUnexpected args =>
    Text.ofString (if args.length = 1 then "Got unexpected extra argument ("
      else "Got unexpected extra arguments (") ++ Text.joinWith " " args ++ ")"
  | noSuchCommand name =>
    "No such command " ++ name.quoted ++ "." ++ hint (Suggestion.closeMatches name commands)
  | commandMissing => "Missing command."

/-- Whether the usage line goes with the message. -/
def showsUsage : Misuse → Bool
  | valueMissing _ | valueUnwanted _ => false
  | _ => true

/-- The text that answers a misused command line. -/
def report (m : Misuse) (path : String) (c : CommandSpec) (commands : List CommandSpec) : Text :=
  let names := commands.map fun d => Text.ofString d.name
  (if m.showsUsage then
      Text.ofString (usageLine path c ++ "Try '" ++ path ++ " --help' for help.\n\n")
    else [])
    ++ "Error: " ++ m.message names ++ "\n"

end Misuse

end ScriptHost.CommandLine
