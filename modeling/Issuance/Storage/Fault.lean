import Issuance.Text.Quoted
/-!
Why a store or a connection refuses an operation.
-/

namespace Issuance

/-- A refusal of a file system or a connection, or of a reference before either is asked. -/
inductive IoFault
  | missing
  | notDirectory
  | isDirectory
  | exists
  | nameTooLong
  | noSpace
  | denied
  | malformedReference (shown : String)
  | foreignReference (ref store : String)
  | escapingKey (key : String)
  | stated (text : String)
deriving DecidableEq, Repr

namespace IoFault

def number? : IoFault → Option Nat
  | .missing => some 2
  | .denied => some 13
  | .exists => some 17
  | .notDirectory => some 20
  | .isDirectory => some 21
  | .noSpace => some 28
  | .nameTooLong => some 36
  | _ => none

def message : IoFault → String
  | .missing => "No such file or directory"
  | .notDirectory => "Not a directory"
  | .isDirectory => "Is a directory"
  | .exists => "File exists"
  | .nameTooLong => "File name too long"
  | .noSpace => "No space left on device"
  | .denied => "Permission denied"
  | .malformedReference shown => "Malformed storage reference: " ++ shown
  | .foreignReference ref store =>
    "Reference " ++ Text.quoted ref ++ " does not belong to " ++ Text.quoted store
  | .escapingKey key => "Storage key escapes root: " ++ Text.quoted key
  | .stated text => text

/-- The wording with the number of a file-system refusal in front. -/
def detail (fault : IoFault) : String :=
  match fault.number? with
  | some n => "[Errno " ++ toString n ++ "] " ++ fault.message
  | none => fault.message

def isMissing : IoFault → Bool
  | .missing | .malformedReference _ | .foreignReference _ _ | .escapingKey _ => true
  | _ => false

end IoFault
end Issuance
