import Issuance.Storage.Volume
/-!
A store that may have a second one behind it.

Files go to the first store; if it refuses, they go to the second. A reference names its store, so
a file is read from where it was put. References to unknown stores are left to the first one.
-/

namespace Issuance
namespace Storage

/-- One store, or two of which the second takes what the first refuses. `locked` tells that
nothing may be taken away. -/
structure Vault (α : Type) where
  primary : Volume α
  secondary : Option (Volume α)
  locked : Bool

/-- Why two stores make no vault. -/
inductive VaultFault
  | sameName
deriving DecidableEq, Repr

def VaultFault.message : VaultFault → String
  | .sameName => "primary and secondary storage need distinct names"

namespace Vault

variable {α : Type}

def single (volume : Volume α) : Vault α := ⟨volume, none, false⟩

/-- A vault of two stores, which must have different names. -/
def pair (primary secondary : Volume α) : Except VaultFault (Vault α) :=
  if primary.name = secondary.name then .error .sameName
  else .ok ⟨primary, some secondary, false⟩

/-- Puts a file into the first store that takes it. If the last one refuses too, its refusal is
reported. -/
def put (vault : Vault α) (key : String) (content : α) :
    Except IoFault StoredObject × Vault α :=
  let (first, primary) := vault.primary.put key content
  match first, vault.secondary with
  | .ok stored, _ => (.ok stored, { vault with primary })
  | .error fault, none => (.error fault, { vault with primary })
  | .error _, some volume =>
    let (second, secondary) := volume.put key content
    (second.map fun stored => { stored with usesFallback := true },
      { vault with primary, secondary := some secondary })

def volumeFor (vault : Vault α) (ref : String) : Except IoFault (Volume α) :=
  match vault.secondary with
  | none => .ok vault.primary
  | some secondary => do
    let r ← Reference.ofText ref
    return if r.store = secondary.name then secondary else vault.primary

def read (vault : Vault α) (ref : String) : Except IoFault α := do
  (← vault.volumeFor ref).read ref

/-- Whether a reference leads to a file. With two stores a malformed reference is refused. -/
def contains (vault : Vault α) (ref : String) : Except IoFault Bool := do
  return (← vault.volumeFor ref).contains ref

def withVolume (vault : Vault α) (volume : Volume α) : Vault α :=
  match vault.secondary with
  | some secondary =>
    if volume.name = secondary.name then { vault with secondary := some volume }
    else { vault with primary := volume }
  | none => { vault with primary := volume }

/-- Takes away the file that a reference leads to; false if nothing is there. -/
def delete (vault : Vault α) (ref : String) : Except IoFault Bool × Vault α :=
  if vault.locked then (.error .denied, vault)
  else
    match vault.volumeFor ref with
    | .error fault => (.error fault, vault)
    | .ok volume =>
      let (result, volume) := volume.delete ref
      (result, vault.withVolume volume)

/-- The references to the files below a key prefix, those of the first store first. -/
def list (vault : Vault α) (keyPrefix : String) : Except IoFault (List Reference) := do
  let first ← vault.primary.list keyPrefix
  match vault.secondary with
  | none => return first
  | some secondary => return first ++ (← secondary.list keyPrefix)

end Vault
end Storage
end Issuance
