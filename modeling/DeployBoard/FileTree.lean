import DeployBoard.Text.Utf8

/-!
# `FileTree` — directories, files and paths

A tree holds files and directories. A path leads through it, from the top or from a working directory: two dots go up, one dot and
an empty part stay, and every part but the last has to be a directory.
-/

namespace DeployBoard

/-- **A file or a directory.** -/
inductive FileTree where
  | file (bytes : List Nat)
  | directory (entries : List (String × FileTree))
  deriving Inhabited

/-- **What stands at a path**, for a reader of texts. -/
inductive FileState where
  | missing
  /-- There is something, but it is no text. -/
  | unreadable
  | text (text : String)
  deriving DecidableEq, Repr

namespace FileTree

/-- Nothing. -/
def empty : FileTree := .directory []

/-- The parts of a path, from its slashes; `part` holds, in reverse, the part being read. -/
def splitPath (part : List Char) : List Char → List String
  | [] => [String.ofList part.reverse]
  | c :: cs => if c = '/' then String.ofList part.reverse :: splitPath [] cs else splitPath (c :: part) cs

/-- The tree that parts lead to from the first of `trail`, which holds the way back to the top. -/
def follow : List FileTree → List String → Option (List FileTree)
  | trail, [] => some trail
  | .directory entries :: up, part :: rest =>
    if part = "" ∨ part = "." then follow (.directory entries :: up) rest
    else if part = ".." then follow (if up.isEmpty then [.directory entries] else up) rest
    else (entries.lookup part).bind fun child => follow (child :: .directory entries :: up) rest
  | _, _ => none

/-- **What a path leads to**, if anything; `directory` is the path of the working directory. -/
def find? (top : FileTree) (directory path : String) : Option FileTree :=
  if path = "" then none
  else
    let start := if path.startsWith "/" then some [top] else follow [top] (splitPath [] directory.toList)
    (start.bind fun trail => follow trail (splitPath [] path.toList)).bind List.head?

/-- The bytes of a file. -/
def bytes? : FileTree → Option (List Nat)
  | .file bytes => some bytes
  | .directory _ => none

/-- What stands at a path. -/
def stateOf : Option FileTree → FileState
  | none => .missing
  | some (.directory _) => .unreadable
  | some (.file bytes) =>
    match Text.decodeUtf8? bytes with
    | some cs => .text (String.ofList cs)
    | none => .unreadable

/-- Puts an entry into a directory, replacing the one of that name. -/
def setEntry (name : String) (child : FileTree) : List (String × FileTree) → List (String × FileTree)
  | [] => [(name, child)]
  | (n, t) :: rest => if n = name then (n, child) :: rest else (n, t) :: setEntry name child rest

/-- **Puts a tree at the place that parts lead to**, and directories above it where there are none. -/
def place (child : FileTree) : List String → FileTree → FileTree
  | [], _ => child
  | part :: rest, tree =>
    let entries := match tree with
      | .directory entries => entries
      | .file _ => []
    if part = "" ∨ part = "." then place child rest tree
    else .directory (setEntry part (place child rest ((entries.lookup part).getD empty)) entries)

end FileTree

end DeployBoard
