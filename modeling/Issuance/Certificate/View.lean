import Issuance.Ledger
/-!
What is told about an issued certificate: to its issuer, to the public, and as a file name.
-/

namespace Issuance

def Json.optInt : Option Int → Json
  | some n => .int n
  | none => .null

def Json.optMoment : Option Moment → Json
  | some m => .str m.iso
  | none => .null

namespace Certificate

def toJson (c : Certificate) : Json :=
  .obj [("id", .int c.id), ("eventId", .int c.eventId),
    ("registrationId", .int c.registrationId), ("templateId", .optInt c.templateId),
    ("certificateCode", .str c.codes.certificate),
    ("verificationCode", .str c.codes.verification), ("serialNumber", .int c.serial),
    ("fileRef", .str c.fileRef), ("fileFormat", .optStr c.fileFormat),
    ("usesFallbackStorage", .bool c.usesFallback),
    ("participantName", .optStr c.participantName),
    ("participantEmail", .optStr c.participantEmail), ("emailSent", .bool c.emailSent),
    ("issuedAt", .optMoment c.issuedAt)]

/-- The name under which the file is handed out. Blanks in the participant's name become
underscores. -/
def downloadName (c : Certificate) : String :=
  let name := match c.participantName with
    | some s => if s.isEmpty then "participant" else s
    | none => "participant"
  "certificate_" ++ "_".intercalate (Text.words name) ++ "_" ++ Text.padded 3 c.serial ++ "."
    ++ (Json.optStr c.fileFormat).display

/-- What a third party needs to confirm the certificate. Codes and ids stay private. -/
def publicView (c : Certificate) : List (String × Json) :=
  [("valid", .bool true), ("participantName", .optStr c.participantName),
    ("participantEmail", .optStr c.participantEmail), ("eventTitle", .optStr c.eventTitle),
    ("eventDate", .str (longDate c.eventDate)), ("eventLocation", .optStr c.eventLocation),
    ("issuedAt", .optMoment c.issuedAt),
    ("issuedOn", .str (longDate (c.issuedAt.map .moment))),
    ("fileFormat", .optStr c.fileFormat), ("downloadName", .str c.downloadName)]

end Certificate

def mediaType (format : Option String) : String :=
  match format with
  | some "pptx" => "application/vnd.openxmlformats-officedocument.presentationml.presentation"
  | some "png" => "image/png"
  | _ => "application/octet-stream"

end Issuance
