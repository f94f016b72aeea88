import ScriptHost.File.Tree
import ScriptHost.Text.Charset

/-!
# Script texts

A script comes as a text from host code or from a regular file.  Directories and special files are
refused before anything is read.
-/

namespace ScriptHost.ScriptText

/-- The script text that host code gives directly, as it is. -/
def ofValue (v : HostValue) : Except Fault HostValue :=
  match v.text? with
  | some _ => .ok v
  | none => .error (.scriptNotText v.typeName)

/-- The text of a file's bytes in an encoding. -/
def decode (path encoding : Text) (bytes : List UInt8) : Except Fault Text :=
  match Charset.ofName? encoding with
  | none => .error (.worded .lookup ("unknown encoding: " ++ encoding))
  | some charset =>
    match charset.decode bytes with
    | .ok t => .ok t
    | .error reason =>
      let what : Text :=
        "not valid " ++ encoding ++ " text (" ++ Text.ofString reason ++ ")"
      .error (.failure (.unreadable path (.str what) (some .decode)))

/-- The text of the script file at a path. -/
def load (tree : FileTree) (path : HostValue) (encoding : Text) : Except Fault Text := do
  let p ← FilePath.ofValue path
  p.check
  let shown := p.toText
  match tree.find p with
  | .error e => throw (.failure (.notRegularFile shown (some e.cls)))
  | .ok (.regular bytes) => decode shown encoding bytes
  | .ok (.unreadable reason) =>
    throw (.failure (.unreadable shown (.str reason) (some .operatingSystem)))
  | .ok _ => throw (.failure (.notRegularFile shown none))

/-- The encoding of script files unless another is asked for. -/
def defaultEncoding : Text := "utf-8"

end ScriptHost.ScriptText
