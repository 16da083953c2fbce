import AmountReport.Files.Tree

/-!
# Writing into a tree

Folders, files and links are made at the end of a path, and the folders on the way to them where
they are missing. Links are followed here as in reading: a file is written into the file that a link
leads to, or made where the link leads. What exists is not replaced, but for the contents of a file.
-/

namespace AmountReport.Files

/-- Puts a node into a folder, in the place of one of the same name. -/
def Folder.put (name : String) (node : Node) : Folder → Folder
  | [] => [(name, node)]
  | (n, old) :: more =>
    if n = name then (name, node) :: more else (n, old) :: Folder.put name node more

/-- The entries of a node that is a folder. -/
def Node.entries : Option Node → Folder
  | some (.folder entries) => entries
  | _ => []

/-- Puts a node at the end of some names, which lead through folders. -/
def Folder.putAt (node : Node) : List String → Folder → Folder
  | [], folder => folder
  | [name], folder => folder.put name node
  | name :: rest, folder =>
    folder.put name (.folder (Folder.putAt node rest (Node.entries (folder.lookup name))))

namespace Tree

/-- Puts a node at a place. -/
def put (t : Tree) (place : Place) (node : Node) : Tree :=
  { t with root := t.root.putAt node place.reverse }

/-- Whether a node of this name can be made in the folder at a place. -/
def isFree (t : Tree) (place : Place) (name : String) : Except Fault Bool :=
  if name = "" ∨ name = "." ∨ name = ".." then .ok false
  else if nameLimit < name.utf8ByteSize then .error (.ofErrno 36)
  else match t.root.node? place with
    | some (.folder entries) => .ok (entries.lookup name).isNone
    | _ => .error (.ofErrno 20)

/-- Goes on by one name, and makes a folder of that name if there is nothing. -/
def enter (t : Tree) (place : Place) (name : String) : Except Fault (Tree × Place) := do
  if ← t.isFree place name then
    return (t.put (name :: place) (.folder []), name :: place)
  else
    return (t, ← t.root.locate linkLimit place [name])

/-- Goes along names from a place, and makes the folders that are missing. -/
def enterAll (t : Tree) (place : Place) (names : List String) : Except Fault (Tree × Place) :=
  names.foldlM (fun (t, place) name => t.enter place name) (t, place)

/-- Makes a folder, if there is none. -/
def makeFolder (t : Tree) (path : String) : Except Fault Tree :=
  Prod.fst <$> t.enterAll (t.start path) (components path)

/-- Makes a link. -/
def makeLink (t : Tree) (path target : String) : Except Fault Tree := do
  let names := components path
  let (t, place) ← t.enterAll (t.start path) names.dropLast
  let name := names.getLastD ""
  if ← t.isFree place name then return t.put (name :: place) (.link target)
  else throw (.ofErrno 17)

/-- Writes a file in the folder at a place, or where a link of its name leads. -/
def write (t : Tree) (contents : List UInt8) (links : Nat) (place : Place) (name : String) :
    Except Fault Tree := do
  if ← t.isFree place name then return t.put (name :: place) (.file contents)
  else match t.root.node? (name :: place), links with
    | some (.file _), _ => return t.put (name :: place) (.file contents)
    | some .device, _ => return t
    | some (.link _), 0 => throw (.ofErrno 40)
    | some (.link target), links + 1 =>
      let names := components target
      let folder ← t.root.locate links (if isAbsolute target then [] else place) names.dropLast
      t.write contents links folder (names.getLastD "")
    | _, _ => throw (.ofErrno 21)

/-- Writes a file. -/
def writeFile (t : Tree) (path : String) (contents : List UInt8) : Except Fault Tree := do
  let names := components path
  let (t, place) ← t.enterAll (t.start path) names.dropLast
  t.write contents linkLimit place (names.getLastD "")

end Tree

end AmountReport.Files
