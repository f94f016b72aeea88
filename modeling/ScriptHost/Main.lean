import ScriptHost.CommandLine.Program

/-!
# The executable

Reads the one file that a command line names, runs the program on it, and prints what it leaves.
-/

open ScriptHost

namespace ScriptHost.Main

/-- A string as a text of the library. -/
def textOf (s : String) : Text := Text.ofString s

/-- A text of the library as a string. -/
def stringOf (t : Text) : String := String.ofList (t.map fun c => c.toChar?.getD '\uFFFD')

/-- What is found under a path: nothing, or a node of a file tree. -/
def lookUp (path : String) : IO (Option FileNode) := do
  try
    let bytes ← IO.FS.readBinFile path
    return some (.regular bytes.toList)
  catch
    | .noFileOrDirectory _ _ _ => return none
    | .inappropriateType _ _ _ => return some .directory
    | e => return some (.unreadable e.toString)

/-- The file tree that holds what is found under each of some paths. -/
def treeOf : List String → IO FileTree
  | [] => return FileTree.empty
  | path :: rest => do
    let tree ← treeOf rest
    match ← lookUp path with
    | some node => return tree.insert (textOf path) node
    | none => return tree

end ScriptHost.Main

/-- Runs the program. -/
def main (words : List String) : IO UInt32 := do
  let files ← ScriptHost.Main.treeOf words
  let o := CommandLine.run files "jsvm" (words.map ScriptHost.Main.textOf)
  (← IO.getStdout).putStr (ScriptHost.Main.stringOf o.stdout)
  (← IO.getStderr).putStr (ScriptHost.Main.stringOf o.stderr)
  match o.escaped with
  | some f => (← IO.getStderr).putStrLn (ScriptHost.Main.stringOf f.classAndMessage)
  | none => pure ()
  return o.exitCode.toUInt32
