import ScriptHost.File.Path

/-!
# File trees

A working directory with what lies under it.  `FileTree.find` walks a path through the tree,
following links, and says what is there or why nothing can be.
-/

namespace ScriptHost

/-- What a name in a directory stands for. -/
inductive FileNode
  | regular (bytes : List UInt8)
  /-- A regular file whose bytes cannot be read, with the reason. -/
  | unreadable (reason : Text)
  | directory
  /-- A pipe or a device. -/
  | special
  | link (target : Text)
deriving DecidableEq

/-- Why a path leads nowhere. -/
inductive PathError
  | missing
  | notDirectory
  | nameTooLong
  | tooManyLinks
deriving DecidableEq

/-- The class of a path error. -/
def PathError.cls : PathError → FaultClass
  | missing => .fileNotFound
  | notDirectory => .notADirectory
  | nameTooLong | tooManyLinks => .operatingSystem

/-- A working directory: the paths in it with what they stand for. -/
structure FileTree where
  entries : List (List Text × FileNode)

namespace FileTree

/-- The empty working directory. -/
def empty : FileTree := { entries := [] }

/-- What stands at a path of the tree, links not followed. -/
def node? (t : FileTree) (names : List Text) : Option FileNode :=
  if names.isEmpty then some .directory
  else (t.entries.find? (·.1 == names)).map (·.2)

/-- The proper beginnings of a path. -/
def parents : List Text → List (List Text)
  | [] => []
  | name :: rest => [] :: (parents rest).map (name :: ·)

/-- Puts a node at a path, with the directories that lead to it. -/
def insert (t : FileTree) (path : Text) (node : FileNode) : FileTree :=
  let names := FilePath.namesIn path
  let missing := (parents names).filter fun p => (t.node? p).isNone
  { entries := t.entries ++ missing.map (·, .directory) ++ [(names, node)] }

/-- What stands at the paths outside the working directory that are known. -/
def outside (path : Text) : Option FileNode :=
  if path = "/proc/self/mem" then some (.unreadable "Input/output error")
  else if path = "/dev/null" || path = "/dev/zero" || path = "/dev/tty" then some .special
  else if path = "/" || path = "/dev" || path = "/proc" || path = "/tmp" || path = "/etc" then
    some .directory
  else none

/-- The greatest number of bytes of a name. -/
def maxNameLength : Nat := 255

/-- The greatest number of bytes of a path. -/
def maxPathLength : Nat := 4095

/-- The greatest number of links on a walk. -/
def maxLinks : Nat := 40

/-- Takes name after name from a directory; `here` are its names, none outside the tree. At a link
`follow` takes over, with the directory that holds the link. -/
def step (t : FileTree) (follow : Option (List Text) → List Text → Except PathError FileNode) :
    Option (List Text) → List Text → Except PathError FileNode
  | _, [] => .ok .directory
  | here, name :: rest =>
    if maxNameLength < FilePath.byteLength name then .error .nameTooLong
    else if name = ".." then step t follow (here.map List.dropLast) rest
    else
      match here.bind fun names => (t.node? (names ++ [name])).map (names ++ [name], ·) with
      | none => .error .missing
      | some (names, .directory) => step t follow (some names) rest
      | some (_, .link target) =>
        if Text.startsWith target "/" then
          match outside target, rest with
          | some .directory, _ :: _ => .error .missing
          | some node, [] => .ok node
          | some _, _ :: _ => .error .notDirectory
          | none, _ => .error .missing
        else follow here (FilePath.namesIn target ++ rest)
      | some (_, node) => if rest.isEmpty then .ok node else .error .notDirectory

/-- Walks from a directory over a number of links less one. -/
def walk (t : FileTree) : Nat → Option (List Text) → List Text → Except PathError FileNode
  | 0, _, _ => .error .tooManyLinks
  | links + 1, here, names => t.step (walk t links) here names

/-- What a path leads to, links followed. -/
def find (t : FileTree) (p : FilePath) : Except PathError FileNode :=
  let text := p.toText
  if maxPathLength < FilePath.byteLength text then .error .nameTooLong
  else if p.root.isEmpty then t.walk (maxLinks + 1) (some []) p.names
  else
    match outside text with
    | some node => .ok node
    | none => .error .missing

end FileTree

end ScriptHost
