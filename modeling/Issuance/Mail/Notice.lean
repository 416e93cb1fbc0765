import Issuance.Certificate.Lookup
import Issuance.Json.Integer
import Issuance.Mail.Wording
/-!
Mailing certificates to their holders, one message for each certificate.

A certificate is marked as sent, with the time, exactly when its message was sent. One whose file
cannot be read gets no message.
-/

namespace Issuance
namespace Mail

structure Entry where
  certificateId : Int
  participantName : Option String
  email : Option String
  error : Option String
deriving DecidableEq, Repr

def Entry.isSent (e : Entry) : Bool := e.error.isNone

def Entry.toJson (e : Entry) : Json :=
  let common := [("certificateId", Json.int e.certificateId),
    ("participantName", .optStr e.participantName), ("email", .optStr e.email)]
  match e.error with
  | none => .obj (common ++ [("status", .str "sent")])
  | some text => .obj (common ++ [("status", .str "error"), ("error", .str text)])

def requestedCertificates (raws : List Json) : Except Failure (List Int) :=
  raws.mapM fun raw =>
    match raw.toInteger with
    | .ok id => .ok id
    | .error .unusable => .error (.error (.request (.notIntegers "certificateIds")))
    | .error .unbounded => .error (Canvas.NotIntegral.failure .unbounded)

/-- Refuses ids that cannot be looked up. -/
def checkCertificateIds : List Int → Work Unit
  | [] => return
  | id :: rest => do
    checkId id
    checkCertificateIds rest

/-- The requested certificates of an event, or all of them, by serial number and id. -/
def chosen (eventId : Int) (request : Option (List Json)) : Work (List Certificate) := do
  let all := (← Work.ledger).certificatesOf eventId
  match request with
  | none => return all
  | some raws =>
    let ids ← Work.ofFailure (requestedCertificates raws)
    checkCertificateIds ids
    return all.filter fun c => ids.contains c.id

def letterFor (event : Event) (address : VerifyAddress) (message : Option String)
    (c : Certificate) (content : Content) : Letter :=
  let title := (Json.optStr (match c.eventTitle with
    | some t => if t.isEmpty then event.title else some t
    | none => event.title)).display
  { recipients := .ofText? c.participantEmail
    subject := certificateSubject title
    body := certificateBody (Json.optStr c.participantName).display title c.codes.verification
      (address.url c.codes.verification) message
    attachments := [⟨c.downloadName, mediaType c.fileFormat, content⟩] }

/-- Sends a letter through the office's mail server. -/
def sendLetter (letter : Letter) : Work Outcome := do
  let office ← get
  let (result, calls) := send (office.mailServer.after office.mailCalls.length) letter
  set { office with mailCalls := office.mailCalls ++ calls }
  Work.ofFailure (result.mapError Failure.defect)

def markSent (c : Certificate) : Work Unit := do
  let office ← get
  Work.changeLedger (·.putCertificate
    { c with emailSent := true, emailSentAt := some office.clock.naive })

def mailOne (event : Event) (address : VerifyAddress) (message : Option String)
    (c : Certificate) : Work Entry := do
  let entry := Entry.mk c.id c.participantName c.participantEmail
  match (← get).vault.read c.fileRef with
  | .error _ => return entry (some "Certificate file unavailable")
  | .ok content =>
    let outcome ← sendLetter (letterFor event address message c content)
    if outcome.ok then
      markSent c
      return entry none
    else return entry (some outcome.detail)

def mailAll (event : Event) (address : VerifyAddress) (message : Option String) :
    List Certificate → Work (List Entry)
  | [] => return []
  | c :: rest => do
    let entry ← mailOne event address message c
    let entries ← mailAll event address message rest
    return entry :: entries

/-- Mails the requested certificates of an event, or all of them. -/
def notify (eventId : Int) (address : VerifyAddress) (request : Option (List Json))
    (message : Option String) : Work (List Entry) := do
  let event ← requireEvent eventId
  let certificates ← chosen event.id request
  mailAll event address message certificates

/-- The entries as data, with their counts. -/
def entriesJson (entries : List Entry) : List (String × Json) :=
  let sent := (entries.filter Entry.isSent).length
  [("results", .arr (entries.map Entry.toJson)),
    ("summary", .obj [("total", .int entries.length), ("sent", .int sent),
      ("failed", .int (entries.length - sent))])]

end Mail
end Issuance
