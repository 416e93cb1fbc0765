import Issuance.Batch.Run
import Issuance.Mail.Notice
import Issuance.Template.Mapping
import Issuance.Template.Removal
import Issuance.Template.Upload
import Issuance.Web.Request
/-!
The web service: what each request does, and how it is answered.

An error of the engine is answered with its payload and its status. Any other failure is answered
by a bare status.
-/

namespace Issuance
namespace Web

inductive Resource
  | health
  | dataFields
  | templates
  | template (id : Nat)
  | mapping (id : Nat)
  | generation (event : Nat)
  | certificates (event : Nat)
  | participants (event : Nat)
  | mailing (event : Nat)
  | verification (code : String)
  | download (code : String)
deriving DecidableEq, Repr

namespace Resource

def number? (segment : String) : Option Nat :=
  let cs := segment.toList
  if !cs.isEmpty && cs.all Char.isDigit then Text.natural? cs else none

def ofSegments? : List String → Option Resource
  | ["health"] => some .health
  | ["certificates", "data-fields"] => some .dataFields
  | ["certificates", "templates"] => some .templates
  | ["certificates", "templates", id] => (number? id).map .template
  | ["certificates", "templates", id, "mapping"] => (number? id).map .mapping
  | ["certificates", "events", id, "generate"] => (number? id).map .generation
  | ["certificates", "events", id, "certificates"] => (number? id).map .certificates
  | ["certificates", "events", id, "participants"] => (number? id).map .participants
  | ["certificates", "events", id, "email"] => (number? id).map .mailing
  | ["certificates", "verify", code] => if code.isEmpty then none else some (.verification code)
  | ["certificates", "download", code] => if code.isEmpty then none else some (.download code)
  | _ => none

end Resource

def answer (members : List (String × Json)) (status : Nat) : Response :=
  ⟨status, some (.obj (("ok", .bool true) :: members)), none⟩

def bare (status : Nat) : Response := ⟨status, none, none⟩

/-- An integer that a request may leave out, or give as an empty text. -/
def optionalInteger (raw : Json) (field : String) : Except Failure (Option Int) :=
  match raw with
  | .null => .ok none
  | .str "" => .ok none
  | _ =>
    match raw.toInteger with
    | .ok n => .ok (some n)
    | .error .unusable => .error (.error (.request (.notInteger field)))
    | .error .unbounded => .error (Canvas.NotIntegral.failure .unbounded)

/-- A list that a request may leave out. -/
def optionalList (raw : Json) (field : String) : Except Error (Option (List Json)) :=
  match raw with
  | .null => .ok none
  | .arr items => .ok (some items)
  | _ => .error (.request (.notList field))

/-- A text that a request may leave out. -/
def optionalText (raw : Json) (field : String) : Except Error (Option String) :=
  match raw with
  | .null => .ok none
  | .str s => .ok (some s)
  | _ => .error (.request (.notText field))

def requireMembers (r : Request) : Work Json :=
  match r.members with
  | some members => return members
  | none => Work.fail (.request .notObject)

def listFields : Work Response := do
  let fields := (← get).catalog.fields
  return answer [("fields", .arr (fields.map DataField.toJson))] 200

/-- The draft in a form. Of assets with one name the last counts, in the place of the first. -/
def draftOf (form : Form) (eventId : Option Int) : TemplateDraft :=
  let file := form.file.filter (!·.name.isEmpty)
  { name := Assoc.get? "name" form.fields
    kind := some (Text.trim ((Assoc.get? "kind" form.fields).getD ""))
    eventId
    fileName := file.map (·.name)
    file := file.map (·.content)
    canvas := match Assoc.get? "canvasSpec" form.fields with
      | some text => .value (.str text)
      | none => .nothing
    assets := (form.assets.filter (!·.name.isEmpty)).foldl
      (fun assets asset => Assoc.put asset.name asset.content assets) [] }

def createFromForm (form : Form) : Work Response := do
  let eventId ← Work.ofFailure
    (optionalInteger (.optStr (Assoc.get? "eventId" form.fields)) "eventId")
  if let some id := eventId then discard (requireEvent id)
  let template ← createTemplate (← get).catalog (draftOf form eventId)
  return answer [("template", .obj template.toMembers)] 201

def listTemplates (query : List (String × String)) : Work Response := do
  let eventId ← Work.ofFailure (optionalInteger (.optStr (Assoc.get? "eventId" query)) "eventId")
  if let some id := eventId then checkId id
  let templates := (← Work.ledger).templatesFor eventId
  return answer [("templates", .arr (templates.map fun t => .obj t.toMembers))] 200

def showTemplate (id : Nat) : Work Response := do
  let template ← requireTemplate id
  return answer [("template", .obj template.toMembersWithMissing)] 200

def changeMapping (r : Request) (id : Nat) : Work Response := do
  let members ← requireMembers r
  let .obj proposed := members.getOrNull "placeholderMapping"
    | Work.fail (.request .mappingMissing)
  let template ← requireTemplate id
  let changed ← setMapping (← get).catalog template (.obj proposed)
  return answer [("template", .obj changed.toMembersWithMissing)] 200

def batchOptions (office : Office) : Batch.Options :=
  ⟨office.catalog, office.settings.verifyBase, office.settings.renderTimeout⟩

def generate (r : Request) (eventId : Nat) : Work Response := do
  let members ← requireMembers r
  let templateId ← Work.ofFailure
    (optionalInteger (members.getOrNull "templateId") "templateId")
  let some templateId := templateId | Work.fail (.request .templateIdMissing)
  let request ← Work.ofError
    (optionalList (members.getOrNull "participantIds") "participantIds")
  let results ← Batch.run (batchOptions (← get)) eventId templateId request
  return answer (Batch.toMembers results) 200

def listCertificates (eventId : Nat) : Work Response := do
  let event ← requireEvent eventId
  let certificates := (← Work.ledger).certificatesOf event.id
  return answer [("certificates", .arr (certificates.map Certificate.toJson))] 200

def attendeeJson (a : Ledger.Attendee) : Json :=
  .obj [("id", .int a.1.id), ("name", .optStr a.1.name), ("email", .optStr a.1.email),
    ("checkedInAt", .str a.2.iso)]

def listParticipants (eventId : Nat) : Work Response := do
  let event ← requireEvent eventId
  let attendees := (← Work.ledger).attendees event.id
  return answer [("participants", .arr (attendees.map attendeeJson))] 200

def mailCertificates (r : Request) (eventId : Nat) : Work Response := do
  let members ← requireMembers r
  let request ← Work.ofError
    (optionalList (members.getOrNull "certificateIds") "certificateIds")
  let message ← Work.ofError (optionalText (members.getOrNull "message") "message")
  let message := (message.map Text.trim).filter (!·.isEmpty)
  let address := VerifyAddress.ofSetting (← get).settings.verifyBase
  let entries ← Mail.notify eventId address request message
  return answer (Mail.entriesJson entries) 200

def verify (code : String) : Work Response := do
  let view ← verifyCode code
  return answer [("certificate", .obj view)] 200

/-- Hands out the file of a certificate. -/
def handOut (code : String) : Work Response := do
  let c ← findForDownload code
  match (← get).vault.read c.fileRef with
  | .error _ => Work.fail .artifactNotFound
  | .ok content => return ⟨200, none, some ⟨c.downloadName, mediaType c.fileFormat, content⟩⟩

/-- What a method does with a resource, if the resource has the method. -/
def handle? (r : Request) : Resource → Option (Work Response)
  | .health => if r.method = "GET" then some (return bare 200) else none
  | .dataFields => if r.method = "GET" then some listFields else none
  | .templates =>
    match r.method with
    | "GET" => some (listTemplates r.target.query)
    | "POST" => some (createFromForm r.form)
    | _ => none
  | .template id =>
    match r.method with
    | "GET" => some (showTemplate id)
    | "DELETE" => some do
        deleteTemplate id
        return answer [] 200
    | _ => none
  | .mapping id => if r.method = "PUT" then some (changeMapping r id) else none
  | .generation id => if r.method = "POST" then some (generate r id) else none
  | .certificates id => if r.method = "GET" then some (listCertificates id) else none
  | .participants id => if r.method = "GET" then some (listParticipants id) else none
  | .mailing id => if r.method = "POST" then some (mailCertificates r id) else none
  | .verification code => if r.method = "GET" then some (verify code) else none
  | .download code => if r.method = "GET" then some (handOut code) else none

def failureResponse : Failure → Response
  | .error e => ⟨e.status, some e.payload, none⟩
  | .defect _ => bare 500

def perform (work : Work Response) (office : Office) : Response × Office :=
  match work.run.run office with
  | (.ok response, office) => (response, office)
  | (.error failure, office) => (failureResponse failure, office)

/-- The status of an answer that points to a tidier path. -/
def movedStatus : Nat := 308

/-- The answer to a request for something at no resource. Doubled slashes are pointed out if
without them the request would be for something. -/
def respondElsewhere (r : Request) : Response :=
  match Resource.ofSegments? r.target.tidied.segments with
  | none => bare 404
  | some resource =>
    if (handle? r resource).isSome then bare movedStatus else bare 405

/-- The answer to a request. Every resource can be asked for its methods, and one that can be read
can be asked for the status alone. -/
def respond (r : Request) (office : Office) : Response × Office :=
  match Resource.ofSegments? r.target.segments with
  | none => (respondElsewhere r, office)
  | some resource =>
    match r.method with
    | "OPTIONS" => (bare 200, office)
    | "HEAD" =>
      match handle? { r with method := "GET" } resource with
      | none => (bare 405, office)
      | some work =>
        let (response, office) := perform work office
        (bare response.status, office)
    | _ =>
      match handle? r resource with
      | none => (bare 405, office)
      | some work => perform work office

end Web
end Issuance
