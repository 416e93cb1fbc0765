import Issuance.Batch.Attempt
import Issuance.Batch.Selection
/-!
Batches: certificates for the participants of an event from one template.

The template, its mapping, the event and the request are checked before anything else happens.
From then on the batch runs to its end, whatever happens to single participants.
-/

namespace Issuance
namespace Batch

structure Options where
  catalog : Catalog
  verifyBase : String
  renderTimeout : Number

/-- The participants' results, in order. A participant who already held a certificate leaves the
serial number to the next one. -/
def issueAll (commission : Commission) : Int → List Registration → Office → List Result × Office
  | _, [], office => ([], office)
  | serial, registration :: rest, office =>
    let (outcome, office) := Attempt.complete commission ⟨registration, serial⟩ office
    let next := if outcome.isAlreadyIssued then serial else serial + 1
    let (results, office) := issueAll commission next rest office
    (⟨registration.id, registration.name, outcome⟩ :: results, office)

def checkEvent (template : Template) (event : Event) : Except Error Unit :=
  match template.eventId with
  | none => .ok ()
  | some id =>
    if id = event.id then .ok () else .error (.request (.otherEvent template.id id event.id))

def run (options : Options) (eventId templateId : Int) (request : Option (List Json)) :
    Work (List Result) := do
  let template ← requireTemplate templateId
  Work.ofError template.requireReady
  let event ← requireEvent eventId
  Work.ofError (checkEvent template event)
  let (participants, rejected) ← select event.id request
  if participants.isEmpty then Work.fail .noEligibleParticipants
  let source ← Work.ofFailure template.source
  let commission : Commission :=
    { event, templateId := template.id, source, catalog := options.catalog
      verifyAddress := .ofSetting options.verifyBase, renderTimeout := options.renderTimeout }
  let office ← get
  let (results, office) := issueAll commission (office.ledger.nextSerial event.id) participants office
  set office
  return results ++ rejected

end Batch
end Issuance
