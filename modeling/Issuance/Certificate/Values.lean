import Issuance.Catalog
import Issuance.Ledger
/-!
The values that the fields of a catalog have for one participant of an event.
-/

namespace Issuance

/-- Where codes are verified: an address without slashes at its end, or nothing. -/
structure VerifyAddress where
  base : String
deriving DecidableEq, Repr

namespace VerifyAddress

def ofSetting (setting : String) : VerifyAddress := ⟨Text.trimEnd (· = '/') setting⟩

/-- The address at which a code is verified; without a base it is the code itself. -/
def url (address : VerifyAddress) (code : String) : String :=
  if address.base.isEmpty then code else address.base ++ "/" ++ code

end VerifyAddress

/-- An optional text, or another one in place of a missing or empty one. -/
def textOr (text : Option String) (other : String) : String :=
  match text with
  | some s => if s.isEmpty then other else s
  | none => other

/-- Everything the values of one participant are taken from. A registration that is not entered
in the ledger has no `enteredAs`. -/
structure Award where
  event : Event
  registration : Registration
  enteredAs : Option Int
  attendedAt : Option Timepoint
  serial : Int
  codes : Option CodePair
  issuedOn : Option Timepoint

namespace Award

def registrationLabel (enteredAs : Option Int) : String :=
  "REG-" ++ (enteredAs.map toString).getD "None"

/-- The values known whether or not codes are drawn. -/
def plainValues (a : Award) : FieldValues :=
  [("participant_name", textOr a.registration.name ""),
    ("participant_email", textOr a.registration.email ""),
    ("participant_phone", textOr a.registration.phone ""),
    ("participant_organization", textOr a.registration.organization ""),
    ("event_title", textOr a.event.title ""),
    ("event_description", textOr a.event.description ""),
    ("event_location", textOr a.event.location ""),
    ("event_start_date", longDate a.event.startDate),
    ("event_end_date", longDate a.event.endDate),
    ("event_date_range", dateRange a.event.startDate a.event.endDate),
    ("event_organizer", textOr a.event.organizer "Event Organizer"),
    ("registration_date", longDate a.registration.createdAt),
    ("attendance_date", longDate a.attendedAt),
    ("registration_id", textOr a.registration.code (registrationLabel a.enteredAs)),
    ("certificate_issue_date", longDate a.issuedOn),
    ("certificate_serial", Text.padded 3 a.serial)]

def codeValues (address : VerifyAddress) (codes : CodePair) : FieldValues :=
  [("certificate_code", codes.certificate), ("verification_code", codes.verification),
    ("certificate_url", address.url codes.verification)]

def allValues (address : VerifyAddress) (a : Award) : FieldValues :=
  match a.codes with
  | some codes => a.plainValues ++ codeValues address codes
  | none => a.plainValues

/-- The values of the fields of a catalog, in its order. Fields without a source are left out. -/
def values (catalog : Catalog) (address : VerifyAddress) (a : Award) : FieldValues :=
  catalog.keys.filterMap fun key =>
    (Assoc.get? key (a.allValues address)).map fun value => (key, value)

end Award
end Issuance
