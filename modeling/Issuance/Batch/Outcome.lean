import Issuance.Certificate.View
/-!
What a batch reports: one result for each participant, and a summary.
-/

namespace Issuance
namespace Batch

/-- How far a participant's certificate has come. -/
inductive Progress
  | notStarted
  | resolving
  | codeAssigned
  | rendered
  | persisted
deriving DecidableEq, Repr

def Progress.word : Progress → String
  | .notStarted => "NotStarted"
  | .resolving => "Resolving"
  | .codeAssigned => "CodeAssigned"
  | .rendered => "Rendered"
  | .persisted => "Persisted"

structure Success where
  certificateId : Int
  codes : CodePair
  fileRef : String
  serial : Int
  usesFallback : Bool
deriving DecidableEq, Repr

/-- Why a participant got no certificate, and how far it had come. -/
structure Setback where
  failure : Failure
  progress : Progress
deriving DecidableEq, Repr

inductive Outcome
  | success (s : Success)
  | setback (s : Setback)
deriving DecidableEq, Repr

structure Result where
  participantId : Int
  participantName : Option String
  outcome : Outcome
deriving DecidableEq, Repr

namespace Outcome

def isSuccess : Outcome → Bool
  | .success _ => true
  | .setback _ => false

def isAlreadyIssued : Outcome → Bool
  | .success _ => false
  | .setback s => s.failure.reason == ErrorKind.alreadyIssued.code

def toMembers : Outcome → List (String × Json)
  | .success s => [("status", .str "success"), ("certificateId", .int s.certificateId),
      ("certificateCode", .str s.codes.certificate),
      ("verificationCode", .str s.codes.verification), ("fileRef", .str s.fileRef),
      ("serialNumber", .int s.serial), ("usesFallbackStorage", .bool s.usesFallback)]
  | .setback s => [("status", .str "error"), ("reason", .str s.failure.reason),
      ("error", .str s.failure.message), ("state", .str s.progress.word)]

end Outcome

def Result.toJson (r : Result) : Json :=
  .obj ([("participantId", .int r.participantId), ("participantName", .optStr r.participantName)]
    ++ r.outcome.toMembers)

structure Summary where
  total : Nat
  successful : Nat
  failed : Nat
deriving DecidableEq, Repr

def summarize (results : List Result) : Summary :=
  let successful := (results.filter (·.outcome.isSuccess)).length
  ⟨results.length, successful, results.length - successful⟩

def toMembers (results : List Result) : List (String × Json) :=
  let s := summarize results
  [("results", .arr (results.map Result.toJson)),
    ("summary", .obj [("total", .int s.total), ("successful", .int s.successful),
      ("failed", .int s.failed)])]

end Batch
end Issuance
