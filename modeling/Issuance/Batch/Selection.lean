import Issuance.Attendance
import Issuance.Batch.Outcome
import Issuance.Json.Integer
/-!
Who takes part in a batch.

Without a request every eligible registration does. A request names registrations in any order and
spelling; those that are eligible take part in order of check-in, and each of the others gets a
result that says why it does not.
-/

namespace Issuance
namespace Batch

/-- The id that a requested value stands for. -/
def requestedId (raw : Json) : Except Failure Int :=
  match raw.toInteger with
  | .ok id => .ok id
  | .error .unusable => .error (.error (.request (.participantId raw.shown)))
  | .error .unbounded => .error (Canvas.NotIntegral.failure .unbounded)

def requestedIds (raws : List Json) : Except Failure (List Int) :=
  (raws.mapM requestedId).map distinct

/-- The result of a requested id that does not take part. -/
def rejection (l : Ledger) (eventId id : Int) : Result :=
  match l.registration? id with
  | none => ⟨id, none, .setback ⟨.error (.notRegistered id eventId), .notStarted⟩⟩
  | some r =>
    if r.eventId = eventId then
      ⟨id, r.name, .setback ⟨.error (.notAttended id eventId), .notStarted⟩⟩
    else ⟨id, none, .setback ⟨.error (.notRegistered id eventId), .notStarted⟩⟩

/-- Refuses ids that cannot be looked up. -/
def checkIds : List Int → Work Unit
  | [] => return
  | id :: rest => do
    checkId id
    checkIds rest

/-- The registrations that take part, and the results of those that do not. -/
def select (eventId : Int) (request : Option (List Json)) :
    Work (List Registration × List Result) := do
  let l ← Work.ledger
  let eligible := l.eligible eventId
  match request with
  | none => return (eligible, [])
  | some raws =>
    let requested ← Work.ofFailure (requestedIds raws)
    let selected := eligible.filter fun r => requested.contains r.id
    let others := requested.filter fun id => !(selected.map (·.id)).contains id
    checkIds others
    return (selected, others.map (rejection l eventId))

end Batch
end Issuance
