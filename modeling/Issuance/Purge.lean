import Issuance.Template.Removal
/-!
Taking out stored files that nothing refers to.

Only files below the folders of certificates and templates are looked at. A file stays if a
certificate or a template refers to it by exactly the reference under which it is listed.
-/

namespace Issuance
namespace Purge

def folders : List String := ["certificates/", "templates/"]

/-- What a purge has done so far. -/
structure Report where
  scanned : Nat
  deleted : Nat
  kept : Nat
  errors : Nat
  samples : List String
deriving DecidableEq, Repr

def Report.start : Report := ⟨0, 0, 0, 0, []⟩

/-- A report names at most this many files. -/
def maxSamples : Nat := 5

/-- Every reference in use. -/
def refsInUse (l : Ledger) : List String :=
  l.certificates.map (·.fileRef) ++ l.templates.flatMap Template.refs

/-- Adds a file that nothing refers to to the samples, if there is room. -/
def Report.withSample (r : Report) (ref : String) : Report :=
  if r.samples.length < maxSamples then { r with samples := r.samples ++ [ref] } else r

def purgeOne (dryRun : Bool) (inUse : List String) (r : Report) (ref : String) : Work Report := do
  let r := { r with scanned := r.scanned + 1 }
  if inUse.contains ref then return { r with kept := r.kept + 1 }
  else
    let r := r.withSample ref
    if dryRun then return r
    else
      match ← Work.discard ref with
      | .ok _ => return { r with deleted := r.deleted + 1 }
      | .error _ => return { r with errors := r.errors + 1 }

def purgeAll (dryRun : Bool) (inUse : List String) (r : Report) : List String → Work Report
  | [] => return r
  | ref :: rest => do
    let r ← purgeOne dryRun inUse r ref
    purgeAll dryRun inUse r rest

def listed (folder : String) : Work (List String) := do
  match (← get).vault.list folder with
  | .ok refs => return refs.map (·.text)
  | .error fault => throw (.defect (.io fault))

/-- Looks at the files of some folders, and of a folder only when those before are done. -/
def purgeFolders (dryRun : Bool) (inUse : List String) (r : Report) :
    List String → Work Report
  | [] => return r
  | folder :: rest => do
    let refs ← listed folder
    let r ← purgeAll dryRun inUse r refs
    purgeFolders dryRun inUse r rest

/-- Takes out every file that nothing refers to, or with `dryRun` only counts them. -/
def run (dryRun : Bool) : Work Report := do
  let inUse := refsInUse (← Work.ledger)
  purgeFolders dryRun inUse .start folders

end Purge
end Issuance
