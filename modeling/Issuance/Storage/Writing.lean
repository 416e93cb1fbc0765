import Issuance.Storage.Vault
/-!
Writing a file step by step, where the file system may refuse each of the steps.

The folders on the way are made. The content goes into a scratch file next to the place of the file,
under a name that is free there, and the scratch file is moved to that place. Whatever goes wrong
after the scratch file was made, it is taken away again if it is still there.
-/

namespace Issuance
namespace Storage

/-- A single change of a tree of folders and files. -/
inductive Change (α : Type)
  | folder (path : Path)
  | file (path : Path) (content : α)
  | move (source target : Path)
  | removal (path : Path)
deriving Repr

/-- What the file system does while a file is written: the names that it offers for the scratch
file, and which steps it refuses. The content may break off after a part of it is written. -/
structure Conditions (α : Type) where
  names : List String
  root? : Option IoFault
  folder? : Path → Option IoFault
  scratch? : Option IoFault
  content? : Option (α × IoFault)
  move? : Option IoFault

/-- Conditions under which no step is refused. -/
def Conditions.fair {α : Type} (names : List String) : Conditions α :=
  ⟨names, none, fun _ => none, none, none, none⟩

namespace Volume

variable {α : Type}

def change (v : Volume α) : Change α → Volume α
  | .folder path => { v with folders := v.folders ++ [path] }
  | .file path content => { v with files := Assoc.put path content v.files }
  | .move source target =>
    match v.file? source with
    | some content => { v with files := Assoc.put target content (Assoc.erase source v.files) }
    | none => v
  | .removal path => { v with files := Assoc.erase path v.files }

def replay (v : Volume α) (changes : List (Change α)) : Volume α := changes.foldl change v

/-- The folders that are made on a way, as far as nothing stands in it and none is refused. -/
def folderPlan (conditions : Conditions α) (v : Volume α) (before : Path) :
    Path → Except IoFault Unit × List (Change α)
  | [] => (.ok (), [])
  | name :: rest =>
    let here := before ++ [name]
    if isTooLong name then (.error .nameTooLong, [])
    else if (v.file? here).isSome then
      (.error (if rest.isEmpty then .exists else .notDirectory), [])
    else if v.isFolder here then folderPlan conditions v here rest
    else
      match conditions.folder? here with
      | some fault => (.error fault, [])
      | none =>
        let (made, others) := folderPlan conditions (v.change (.folder here)) here rest
        (made, .folder here :: others)

/-- Why the scratch file cannot be moved to a path. -/
def moveFault? (conditions : Conditions α) (v : Volume α) (path : Path) : Option IoFault :=
  match conditions.move? with
  | some fault => some fault
  | none =>
    if (path.getLast?.map isTooLong).getD false then some .nameTooLong
    else if v.isFolder path then some .isDirectory
    else none

/-- The content goes through a scratch file. If that has the name of the file itself, it is not
moved, so it is taken away, and then there is nothing to set permissions for. -/
def movePlan (conditions : Conditions α) (v : Volume α) (scratch path : Path) (content : α) :
    Except IoFault Unit × List (Change α) :=
  match conditions.content? with
  | some (part, fault) => (.error fault, [.file scratch part, .removal scratch])
  | none =>
    match v.moveFault? conditions path with
    | some fault => (.error fault, [.file scratch content, .removal scratch])
    | none =>
      if scratch = path then
        (.error .missing, [.file scratch content, .move scratch path, .removal scratch])
      else (.ok (), [.file scratch content, .move scratch path])

/-- Whether neither a folder nor a file is at a path. -/
def isVacant (v : Volume α) (path : Path) : Bool := !v.isFolder path && (v.file? path).isNone

def scratchPlan (conditions : Conditions α) (v : Volume α) (path : Path) (content : α) :
    Except IoFault Unit × List (Change α) :=
  match conditions.scratch? with
  | some fault => (.error fault, [])
  | none =>
    match conditions.names.find? fun name => v.isVacant (path.dropLast ++ [name]) with
    | some name => v.movePlan conditions (path.dropLast ++ [name]) path content
    | none => (.error .exists, [])

def writePlan (conditions : Conditions α) (v : Volume α) (path : Path) (content : α) :
    Except IoFault Unit × List (Change α) :=
  if v.blocked then (.error (if path.length ≤ 1 then .exists else .notDirectory), [])
  else
    match conditions.root?, v.folderPlan conditions [] path.dropLast with
    | some fault, _ => (.error fault, [])
    | none, (.error fault, folders) => (.error fault, folders)
    | none, (.ok (), folders) =>
      let (written, others) := (v.replay folders).scratchPlan conditions path content
      (written, folders ++ others)

def writeThrough (conditions : Conditions α) (v : Volume α) (path : Path) (content : α) :
    Except IoFault Unit × Volume α :=
  let (written, changes) := v.writePlan conditions path content
  (written, v.replay changes)

def putThrough (conditions : Conditions α) (v : Volume α) (key : String) (content : α) :
    Except IoFault StoredObject × Volume α :=
  if v.full then (.error .noSpace, v)
  else
    match resolve v.root key with
    | .error fault => (.error fault, v)
    | .ok path =>
      let (written, v) := v.writeThrough conditions path content
      (written.map fun () => ⟨⟨v.name, key⟩, false⟩, v)

end Volume

/-- Puts a file into the first store that takes it, each under its own conditions. -/
def Vault.putThrough {α : Type} (first second : Conditions α) (vault : Vault α) (key : String)
    (content : α) : Except IoFault StoredObject × Vault α :=
  let (tried, primary) := vault.primary.putThrough first key content
  match tried, vault.secondary with
  | .ok stored, _ => (.ok stored, { vault with primary })
  | .error fault, none => (.error fault, { vault with primary })
  | .error _, some volume =>
    let (tried, secondary) := volume.putThrough second key content
    (tried.map fun stored => { stored with usesFallback := true },
      { vault with primary, secondary := some secondary })

end Storage
end Issuance
