import Issuance.Error
/-!
The catalog of data fields: what a template may be mapped to.

A catalog is built from a list of declarations, and building refuses repeated keys and unknown
categories or types. The order of the declarations is the order of the catalog.
-/

namespace Issuance

inductive FieldCategory
  | participant
  | event
  | registration
  | system
deriving DecidableEq, Repr

namespace FieldCategory

def word : FieldCategory → String
  | .participant => "participant"
  | .event => "event"
  | .registration => "registration"
  | .system => "system"

def ofWord? (s : String) : Option FieldCategory :=
  [participant, event, registration, system].find? (·.word == s)

end FieldCategory

inductive FieldType
  | text
  | date
  | number
  | email
  | phone
deriving DecidableEq, Repr

namespace FieldType

def word : FieldType → String
  | .text => "text"
  | .date => "date"
  | .number => "number"
  | .email => "email"
  | .phone => "phone"

def ofWord? (s : String) : Option FieldType :=
  [text, date, number, email, phone].find? (·.word == s)

end FieldType

structure DataField where
  key : String
  label : String
  category : FieldCategory
  dataType : FieldType
  description : String
  sample : Option String
deriving DecidableEq, Repr

def DataField.toJson (f : DataField) : Json :=
  .obj [("key", .str f.key), ("label", .str f.label), ("description", .str f.description),
    ("category", .str f.category.word), ("dataType", .str f.dataType.word),
    ("example", .optStr f.sample)]

/-- A field as it is declared, before its words are checked. -/
structure FieldDeclaration where
  key : String
  label : String
  category : String
  dataType : String
  description : String
  sample : Option String
deriving Repr

/-- A list of fields, each with a key of its own. -/
structure Catalog where
  fields : List DataField
  keys_nodup : (fields.map DataField.key).Nodup

namespace Catalog

inductive Fault
  | duplicateKey (key : String)
  | unknownCategory (word : String)
  | unknownType (word : String)
deriving DecidableEq, Repr

def Fault.message : Fault → String
  | .duplicateKey key => "Duplicate data field key: " ++ Text.quoted key
  | .unknownCategory word => "Unknown data field category: " ++ Text.quoted word
  | .unknownType word => "Unknown data field type: " ++ Text.quoted word

def empty : Catalog := ⟨[], List.nodup_nil⟩

def keys (catalog : Catalog) : List String :=
  catalog.fields.map DataField.key

def contains (catalog : Catalog) (key : String) : Bool :=
  catalog.keys.contains key

def get? (catalog : Catalog) (key : String) : Option DataField :=
  catalog.fields.find? (·.key == key)

def push (catalog : Catalog) (field : DataField) (fresh : field.key ∉ catalog.keys) : Catalog where
  fields := catalog.fields ++ [field]
  keys_nodup := by
    simp only [keys] at fresh
    simp only [List.map_append, List.map_cons, List.map_nil, List.nodup_append]
    exact ⟨catalog.keys_nodup, by simp, by
      intro key known other declared same
      simp only [List.mem_singleton] at declared
      exact fresh (declared ▸ same ▸ known)⟩

/-- Adds a declared field. A repeated key is noticed before an unknown word. -/
def declare (catalog : Catalog) (d : FieldDeclaration) : Except Fault Catalog :=
  if known : d.key ∈ catalog.keys then .error (.duplicateKey d.key)
  else
    match FieldCategory.ofWord? d.category, FieldType.ofWord? d.dataType with
    | none, _ => .error (.unknownCategory d.category)
    | some _, none => .error (.unknownType d.dataType)
    | some category, some dataType =>
      .ok (catalog.push ⟨d.key, d.label, category, dataType, d.description, d.sample⟩ known)

/-- The catalog of some declarations. The first one at fault decides the refusal. -/
def ofDeclarations (ds : List FieldDeclaration) : Except Fault Catalog :=
  ds.foldlM declare empty

/-- The field with the key, or the error about an unknown one. -/
def resolve (catalog : Catalog) (key : String) : Except Error DataField :=
  match catalog.get? key with
  | some field => .ok field
  | none => .error (.unknownFields [key] "")

/-- The fields that every event has. -/
def standard : Catalog where
  fields := [
    ⟨"participant_name", "Participant Name", .participant, .text,
      "Full name of the participant", some "John Doe"⟩,
    ⟨"participant_email", "Participant Email", .participant, .email,
      "Email address of the participant", some "john@example.com"⟩,
    ⟨"participant_phone", "Participant Phone", .participant, .phone,
      "Phone number from registration", some "+1234567890"⟩,
    ⟨"participant_organization", "Participant Organization", .participant, .text,
      "Organization name from registration", some "Tech Corp"⟩,
    ⟨"event_title", "Event Title", .event, .text,
      "Name of the event", some "Tech Conference 2025"⟩,
    ⟨"event_description", "Event Description", .event, .text,
      "Event description", some "Annual technology conference"⟩,
    ⟨"event_location", "Event Location", .event, .text,
      "Event venue or location", some "New York Convention Center"⟩,
    ⟨"event_start_date", "Event Start Date", .event, .date,
      "Event start date", some "January 15, 2025"⟩,
    ⟨"event_end_date", "Event End Date", .event, .date,
      "Event end date", some "January 17, 2025"⟩,
    ⟨"event_date_range", "Event Date Range", .event, .text,
      "Complete date range", some "January 15, 2025 - January 17, 2025"⟩,
    ⟨"event_organizer", "Event Organizer", .event, .text,
      "Name of the event organizer", some "Event Management Inc."⟩,
    ⟨"registration_date", "Registration Date", .registration, .date,
      "Date when participant registered", some "December 1, 2024"⟩,
    ⟨"attendance_date", "Attendance Date", .registration, .date,
      "Date when participant attended", some "January 15, 2025"⟩,
    ⟨"registration_id", "Registration ID", .registration, .text,
      "Unique registration identifier", some "REG-12345"⟩,
    ⟨"certificate_code", "Certificate Code", .system, .text,
      "Code the recipient holds and shares", some "CERT-7K2M9QX4LD3A"⟩,
    ⟨"verification_code", "Verification Code", .system, .text,
      "Code used for public verification", some "VERIFY-Q8N3ZL0M4T7W2KXA"⟩,
    ⟨"certificate_issue_date", "Certificate Issue Date", .system, .date,
      "Date when certificate was issued", some "January 20, 2025"⟩,
    ⟨"certificate_serial", "Certificate Serial Number", .system, .number,
      "Sequential certificate number", some "001"⟩,
    ⟨"certificate_url", "Certificate URL", .system, .text,
      "URL for certificate verification", some "https://verify.example.com/VERIFY-Q8N3ZL0M4T7W2KXA"⟩]
  keys_nodup := by decide

end Catalog
end Issuance
