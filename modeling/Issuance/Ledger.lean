import Issuance.Calendar
import Issuance.Code
import Issuance.Field
/-!
The ledger: events, registrations, attendances, templates and certificates, each with an id.

New rows get the id after the highest one of their table. The ledger refuses a second certificate
for a registration of an event, and a code that another certificate has.
-/

namespace Issuance

structure Event where
  id : Int
  title : Option String
  description : Option String
  location : Option String
  startDate : Option Timepoint
  endDate : Option Timepoint
  organizer : Option String
deriving DecidableEq, Repr

structure Registration where
  id : Int
  eventId : Int
  name : Option String
  email : Option String
  phone : Option String
  organization : Option String
  status : String
  code : Option String
  createdAt : Option Timepoint
deriving DecidableEq, Repr

structure Attendance where
  id : Int
  registrationId : Int
  checkedInAt : Moment
deriving DecidableEq, Repr

/-- The kinds of templates, by the words that are stored. -/
inductive TemplateKind
  | deck
  | canvas
deriving DecidableEq, Repr

namespace TemplateKind

def word : TemplateKind → String
  | .deck => "flatDocument"
  | .canvas => "canvas"

def ofWord? (s : String) : Option TemplateKind :=
  [deck, canvas].find? (·.word == s)

end TemplateKind

/-- A template. One without an event serves every event. The canvas is kept as it was stored. -/
structure Template where
  id : Int
  eventId : Option Int
  name : String
  kind : String
  fileName : Option String
  contentRef : Option String
  placeholders : List String
  mapping : Mapping
  canvas : Json
  createdAt : Option Moment
deriving Repr

/-- An issued certificate with what it said when it was issued. -/
structure Certificate where
  id : Int
  eventId : Int
  registrationId : Int
  templateId : Option Int
  codes : CodePair
  serial : Int
  fileRef : String
  fileFormat : Option String
  usesFallback : Bool
  participantName : Option String
  participantEmail : Option String
  eventTitle : Option String
  eventDate : Option Timepoint
  eventLocation : Option String
  emailSent : Bool
  emailSentAt : Option Moment
  issuedAt : Option Moment
deriving DecidableEq, Repr

structure Ledger where
  events : List Event
  registrations : List Registration
  attendances : List Attendance
  templates : List Template
  certificates : List Certificate

namespace Ledger

def empty : Ledger := ⟨[], [], [], [], []⟩

/-- The id for a new row of a table with the given ids. -/
def nextId (ids : List Int) : Int := ids.foldl max 0 + 1

def event? (l : Ledger) (id : Int) : Option Event := l.events.find? (·.id == id)

def registration? (l : Ledger) (id : Int) : Option Registration :=
  l.registrations.find? (·.id == id)

def attendance? (l : Ledger) (registrationId : Int) : Option Attendance :=
  l.attendances.find? (·.registrationId == registrationId)

def template? (l : Ledger) (id : Int) : Option Template := l.templates.find? (·.id == id)

def putTemplate (l : Ledger) (t : Template) : Ledger :=
  { l with templates := l.templates.map fun old => if old.id = t.id then t else old }

def putCertificate (l : Ledger) (c : Certificate) : Ledger :=
  { l with certificates := l.certificates.map fun old => if old.id = c.id then c else old }

def holds (l : Ledger) (eventId registrationId : Int) : Bool :=
  l.certificates.any fun c => c.eventId == eventId && c.registrationId == registrationId

def codesTaken (l : Ledger) (codes : CodePair) : Bool :=
  l.certificates.any fun c =>
    c.codes.certificate == codes.certificate || c.codes.verification == codes.verification

/-- Whether the ledger takes a new certificate. -/
def accepts (l : Ledger) (c : Certificate) : Bool :=
  !l.holds c.eventId c.registrationId && !l.codesTaken c.codes

def nextCertificateId (l : Ledger) : Int := nextId (l.certificates.map (·.id))

/-- Enters a certificate under the next id, if the ledger takes it. -/
def enter? (l : Ledger) (c : Certificate) : Option (Certificate × Ledger) :=
  if l.accepts c then
    let entered := { c with id := l.nextCertificateId }
    some (entered, { l with certificates := l.certificates ++ [entered] })
  else none

/-- The certificates of an event, by serial number and id. -/
def certificatesOf (l : Ledger) (eventId : Int) : List Certificate :=
  (l.certificates.filter (·.eventId == eventId)).mergeSort fun a b =>
    a.serial < b.serial || (a.serial == b.serial && a.id ≤ b.id)

/-- The serial number after the highest of an event. -/
def nextSerial (l : Ledger) (eventId : Int) : Int :=
  match ((l.certificates.filter (·.eventId == eventId)).map (·.serial)).max? with
  | some highest => highest + 1
  | none => 1

end Ledger
end Issuance
