import AmountReport.Files.Opened
import AmountReport.Text.Lines

/-!
# File trees

A tree of folders, files, symbolic links and devices, as a program sees it from its working folder,
and the rule by which a path is followed through it. `Tree.opener` names the reason where a path
leads nowhere: a name that does not exist, a file in the place of a folder, a name or a path that is
too long, links that do not come to an end.
-/

namespace AmountReport.Files

inductive Node
  | file (contents : List UInt8)
  | folder (entries : List (String × Node))
  | link (target : String)
  | device
  deriving Inhabited

/-- The nodes in a folder, by name. -/
abbrev Folder := List (String × Node)

/-- Cuts a path at its slashes. -/
def components (path : String) : List String :=
  (Text.splitAt '/' path.toList).map String.ofList

/-- Whether a path begins at the root. -/
def isAbsolute (path : String) : Bool := path.toList.head? = some '/'

/-- The most bytes of a name. -/
def nameLimit : Nat := 255

/-- A path has to be shorter, in bytes. -/
def pathLimit : Nat := 4096

/-- The most links that are followed on one path. -/
def linkLimit : Nat := 40

/-- A place in a tree: the names that lead to it from the root, the last one first. -/
abbrev Place := List String

/-- What stands at a place. -/
def Folder.node? (root : Folder) : Place → Option Node
  | [] => some (.folder root)
  | name :: above =>
    match root.node? above with
    | some (.folder entries) => entries.lookup name
    | _ => none

/-- Follows names from a place. A link's target takes the place of its name; `links` more of them
may be followed. -/
def Folder.locate (root : Folder) (links : Nat) (place : Place) : List String → Except Fault Place
  | [] => .ok place
  | name :: rest =>
    if name = "" ∨ name = "." then root.locate links place rest
    else if name = ".." then root.locate links place.tail rest
    else if nameLimit < name.utf8ByteSize then .error (.ofErrno 36)
    else match root.node? (name :: place) with
      | none => .error (.ofErrno 2)
      | some (.folder _) => root.locate links (name :: place) rest
      | some (.link target) =>
        match links with
        | 0 => .error (.ofErrno 40)
        | links + 1 =>
          root.locate links (if isAbsolute target then [] else place) (components target ++ rest)
      | some (.file _) | some .device =>
        if rest.isEmpty then .ok (name :: place) else .error (.ofErrno 20)
termination_by path => (links, path.length)

/-- A tree as it is seen from the working folder. -/
structure Tree where
  /-- The folder at the top. -/
  root : Folder
  /-- The working folder. -/
  here : Place := []

namespace Tree

/-- Where a path begins. -/
def start (t : Tree) (path : String) : Place :=
  if isAbsolute path then [] else t.here

/-- The place that a path leads to. -/
def locate (t : Tree) (path : String) : Except Fault Place :=
  if path.toList.contains '\x00' then .error .nulInPath
  else if path.isEmpty then .error (.ofErrno 2)
  else if pathLimit ≤ path.utf8ByteSize then .error (.ofErrno 36)
  else t.root.locate linkLimit (t.start path) (components path)

/-- Opens what a path leads to. -/
def opener (t : Tree) : Opener := fun path => do
  let place ← t.locate path
  match t.root.node? place with
  | some (.file contents) => return .file contents
  | _ => return .other

end Tree

end AmountReport.Files
