import Issuance.Storage.Writing
/-!
A disk: one tree of folders, files and links, in which the root of a store lies somewhere.

A key is joined to the real path of the root, and the real path of the result is taken, in which no
empty component, no `.` or `..` and no link is left. The key is refused unless the text of that path
begins with the one of the root, followed by a slash. What a store does to the disk is given as the
list of the changes, so that it can be told which files were touched.
-/

namespace Issuance
namespace Storage

/-- The text of a place, from the root of the disk. -/
def absolute (place : Path) : String := "/" ++ keyOf place

/-- Two texts of paths in one. A second one that begins with a slash leaves the first one behind. -/
def join (front back : String) : String :=
  if back.toList.head? = some '/' then back
  else if front.toList.getLast?.getD '/' = '/' then front ++ back
  else front ++ "/" ++ back

/-- The normal form of a text that begins with a slash. Just two slashes at its beginning stay. -/
def normal (text : String) : String :=
  (if (text.toList.takeWhile (· = '/')).length = 2 then "/" else "") ++
    absolute (destination [] text)

/-- Whether a component of a path is the name of something in the place before it. -/
def isName (component : String) : Bool :=
  !(component = "" || component = "." || component = "..")

/-- Follows components from a place. A link is entered by a function of the place before it, its own
place and its target. If it cannot be, the rest is joined to the text that is left of it. -/
def follow (links : List (Path × String)) (enter : Path → Path → String → Except String Path) :
    Path → List String → Except String Path
  | place, [] => .ok place
  | place, component :: rest =>
    let here := walk place component
    match if isName component then Assoc.get? here links else none with
    | none => follow links enter here rest
    | some target =>
      match enter place here target with
      | .ok there => follow links enter there rest
      | .error left => .error (join left (keyOf rest))

/-- Enters a link, unless it is one of those that are being entered. They are never more than the
links of the disk, so this number is deep enough. -/
def enter (links : List (Path × String)) :
    Nat → List Path → Path → Path → String → Except String Path
  | 0, _, _, here, _ => .error (absolute here)
  | depth + 1, pending, place, here, target =>
    if here ∈ pending then .error (absolute here)
    else
      follow links (enter links depth (here :: pending))
        (if target.toList.head? = some '/' then [] else place) (components target)

/-- A tree of folders, files and links, and the folder where relative paths begin. -/
structure Disk (α : Type) where
  working : Path
  folders : List Path
  files : List (Path × α)
  links : List (Path × String)

/-- A store as it is set up: its name, and the text of the path of its root. -/
structure Store where
  name : String
  root : String

namespace Disk

variable {α : Type}

/-- The place that a text of a path leads to, or the text that is left at a link that leads back to
itself. -/
def realPath (disk : Disk α) (text : String) : Except String Path :=
  follow disk.links (enter disk.links disk.links.length [])
    (if text.toList.head? = some '/' then [] else disk.working) (components text)

def realText (disk : Disk α) (text : String) : String :=
  match disk.realPath text with
  | .ok place => absolute place
  | .error left => normal left

/-- The folders and files alone, with all paths from the root of the disk. -/
def tree (disk : Disk α) : Volume α := ⟨"", [], false, false, disk.folders, disk.files⟩

def replay (disk : Disk α) (changes : List (Change α)) : Disk α :=
  let tree := disk.tree.replay changes
  { disk with folders := tree.folders, files := tree.files }

/-- The place of the file that a key leads to. -/
def placeFor (disk : Disk α) (store : Store) (key : String) : Except IoFault Path :=
  let root := disk.realText store.root
  let found := disk.realText (join root key)
  if found = root || !(root ++ "/").toList.isPrefixOf found.toList then
    .error (.escapingKey key)
  else .ok (destination [] found)

/-- The place of the file that a reference leads to. -/
def locate (disk : Disk α) (store : Store) (ref : String) : Except IoFault Path := do
  let r ← Reference.ofText ref
  if r.store = store.name then disk.placeFor store r.key
  else .error (.foreignReference ref store.name)

def put (conditions : Conditions α) (disk : Disk α) (store : Store) (key : String) (content : α) :
    Except IoFault StoredObject × List (Change α) :=
  match disk.placeFor store key with
  | .error fault => (.error fault, [])
  | .ok place =>
    let (written, changes) := disk.tree.writePlan conditions place content
    (written.map fun () => ⟨⟨store.name, key⟩, false⟩, changes)

def read (disk : Disk α) (store : Store) (ref : String) : Except IoFault α := do
  disk.tree.lookup (← disk.locate store ref)

def contains (disk : Disk α) (store : Store) (ref : String) : Bool :=
  match disk.locate store ref with
  | .ok place => disk.tree.isFile place
  | .error _ => false

def delete (disk : Disk α) (store : Store) (ref : String) :
    Except IoFault Bool × List (Change α) :=
  match disk.locate store ref with
  | .error _ => (.ok false, [])
  | .ok place =>
    match disk.tree.lookup place with
    | .ok _ => (.ok true, [.removal place])
    | .error fault => (if fault.isMissing then .ok false else .error fault, [])

/-- The way from one place to another one, up and down again. -/
def relative : Path → Path → Path
  | name :: start, other :: place =>
    if name = other then relative start place
    else List.replicate (start.length + 1) ".." ++ other :: place
  | start, place => List.replicate start.length ".." ++ place

/-- The references to the files below the folder that a key prefix leads to. -/
def list (disk : Disk α) (store : Store) (keyPrefix : String) :
    Except IoFault (List Reference) := do
  let root := destination [] (disk.realText store.root)
  let base ← if keyPrefix.isEmpty then pure root else disk.placeFor store keyPrefix
  return (disk.tree.filesBelow base).map fun place => ⟨store.name, keyOf (relative root place)⟩

end Disk
end Storage
end Issuance
