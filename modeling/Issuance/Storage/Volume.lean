import Issuance.Assoc
import Issuance.Storage.Path
/-!
One store: a tree of folders and files below a root.

Putting a file makes the folders on the way to it. A file in the place of a folder, or a folder in
the place of a file, refuses the operation. Nothing but a file is ever taken away.
-/

namespace Issuance
namespace Storage

/-- A store with a name. `blocked` tells that a file stands at its root, and `full` that it
refuses to write. -/
structure Volume (α : Type) where
  name : String
  root : Path
  blocked : Bool
  full : Bool
  folders : List Path
  files : List (Path × α)

/-- Where a file was put, and whether that was the store of second choice. -/
structure StoredObject where
  ref : Reference
  usesFallback : Bool
deriving DecidableEq, Repr

namespace Volume

variable {α : Type}

def empty (name : String) (root : Path) : Volume α := ⟨name, root, false, false, [], []⟩

def file? (v : Volume α) (path : Path) : Option α := Assoc.get? path v.files

/-- Whether a folder is at a path; the root counts as one. -/
def isFolder (v : Volume α) (path : Path) : Bool := path.isEmpty || v.folders.contains path

def maxNameBytes : Nat := 255

def isTooLong (name : String) : Bool := maxNameBytes < name.utf8ByteSize

/-- What stands in the way of reaching the contents of a folder, the way to it being `before`. -/
def obstacle? (v : Volume α) (before : Path) : Path → Option IoFault
  | [] => none
  | name :: rest =>
    let here := before ++ [name]
    if isTooLong name then some .nameTooLong
    else if v.isFolder here then v.obstacle? here rest
    else if (v.file? here).isSome then some .notDirectory
    else some .missing

/-- The file at a path, or why there is none to be had. -/
def lookup (v : Volume α) (path : Path) : Except IoFault α :=
  if v.blocked then .error .notDirectory
  else
    match v.obstacle? [] path.dropLast with
    | some fault => .error fault
    | none =>
      if (path.getLast?.map isTooLong).getD false then .error .nameTooLong
      else if v.isFolder path then .error .isDirectory
      else
        match v.file? path with
        | some content => .ok content
        | none => .error .missing

/-- Makes the folders of a way, as far as nothing stands in it. -/
def makeFolders (v : Volume α) (before : Path) : Path → Except IoFault Unit × Volume α
  | [] => (.ok (), v)
  | name :: rest =>
    let here := before ++ [name]
    if isTooLong name then (.error .nameTooLong, v)
    else if (v.file? here).isSome then
      (.error (if rest.isEmpty then .exists else .notDirectory), v)
    else if v.isFolder here then v.makeFolders here rest
    else { v with folders := v.folders ++ [here] }.makeFolders here rest

def write (v : Volume α) (path : Path) (content : α) : Except IoFault Unit × Volume α :=
  if v.blocked then (.error (if path.length ≤ 1 then .exists else .notDirectory), v)
  else
    match v.makeFolders [] path.dropLast with
    | (.error fault, v) => (.error fault, v)
    | (.ok (), v) =>
      if (path.getLast?.map isTooLong).getD false then (.error .nameTooLong, v)
      else if v.isFolder path then (.error .isDirectory, v)
      else (.ok (), { v with files := Assoc.put path content v.files })

/-- The path that a reference leads to in this store. -/
def locate (v : Volume α) (ref : String) : Except IoFault Path := do
  let r ← Reference.ofText ref
  if r.store = v.name then resolve v.root r.key
  else .error (.foreignReference ref v.name)

def put (v : Volume α) (key : String) (content : α) : Except IoFault StoredObject × Volume α :=
  if v.full then (.error .noSpace, v)
  else
    match resolve v.root key with
    | .error fault => (.error fault, v)
    | .ok path =>
      let (result, v) := v.write path content
      (result.map fun () => ⟨⟨v.name, key⟩, false⟩, v)

def read (v : Volume α) (ref : String) : Except IoFault α := do
  v.lookup (← v.locate ref)

/-- Whether a file is at a path, with nothing in the way of it. -/
def isFile (v : Volume α) (path : Path) : Bool :=
  !v.blocked && (v.obstacle? [] path.dropLast).isNone && !(path.getLast?.map isTooLong).getD false
    && !v.isFolder path && (v.file? path).isSome

/-- Whether a reference leads to a file. One that leads nowhere does not. -/
def contains (v : Volume α) (ref : String) : Bool :=
  match v.locate ref with
  | .ok path => v.isFile path
  | .error _ => false

/-- Takes away the file that a reference leads to; false if nothing is there. -/
def delete (v : Volume α) (ref : String) : Except IoFault Bool × Volume α :=
  match v.locate ref with
  | .error _ => (.ok false, v)
  | .ok path =>
    match v.lookup path with
    | .ok _ => (.ok true, { v with files := Assoc.erase path v.files })
    | .error fault => (if fault.isMissing then .ok false else .error fault, v)

/-- The order in which a walk meets files: those of a folder before those of its subfolders, and
each by name. -/
def meetsBefore : Path → Path → Bool
  | [], _ => true
  | _, [] => false
  | [a], [b] => a ≤ b
  | [_], _ => true
  | _, [_] => false
  | a :: p, b :: q => if a = b then meetsBefore p q else a ≤ b

/-- The files below a folder, in the order of a walk. -/
def filesBelow (v : Volume α) (folder : Path) : List Path :=
  if v.blocked || !v.isFolder folder then []
  else
    let inside := (v.files.map (·.1)).filter fun path =>
      folder.isPrefixOf path && folder.length < path.length
    inside.mergeSort meetsBefore

/-- The references to the files below the folder that a key prefix leads to. -/
def list (v : Volume α) (keyPrefix : String) : Except IoFault (List Reference) := do
  let folder ← if keyPrefix.isEmpty then pure [] else resolve v.root keyPrefix
  return (v.filesBelow folder).map fun path => ⟨v.name, keyOf path⟩

end Volume
end Storage
end Issuance
