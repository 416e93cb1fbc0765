import Issuance.Canvas.Validation
import Issuance.Storage.Fault
/-!
The errors that issuing certificates reports, by cause.

Each error has a kind, which gives its code and its status, a wording, and for some kinds data of
its own. A failure is such an error, or a defect that no kind of error covers.
-/

namespace Issuance

inductive ErrorKind
  | engine
  | invalidRequest
  | unsupportedFormat
  | unknownField
  | incompleteMapping
  | noEligibleParticipants
  | templateNotFound
  | eventNotFound
  | notFound
  | notEligible
  | alreadyIssued
  | missingFieldValue
  | assetUnavailable
  | renderFailure
  | renderTimeout
  | storageUnavailable
  | codeSpaceExhausted
deriving DecidableEq, Repr

namespace ErrorKind

def all : List ErrorKind :=
  [engine, invalidRequest, unsupportedFormat, unknownField, incompleteMapping,
    noEligibleParticipants, templateNotFound, eventNotFound, notFound, notEligible, alreadyIssued,
    missingFieldValue, assetUnavailable, renderFailure, renderTimeout, storageUnavailable,
    codeSpaceExhausted]

def code : ErrorKind → String
  | .engine => "CertificateEngineError"
  | .invalidRequest => "InvalidRequest"
  | .unsupportedFormat => "UnsupportedFormat"
  | .unknownField => "UnknownField"
  | .incompleteMapping => "IncompleteMapping"
  | .noEligibleParticipants => "NoEligibleParticipants"
  | .templateNotFound => "TemplateNotFound"
  | .eventNotFound => "EventNotFound"
  | .notFound => "NotFound"
  | .notEligible => "NotEligible"
  | .alreadyIssued => "AlreadyIssued"
  | .missingFieldValue => "MissingFieldValue"
  | .assetUnavailable => "AssetUnavailable"
  | .renderFailure => "RenderFailure"
  | .renderTimeout => "RenderTimeout"
  | .storageUnavailable => "StorageUnavailable"
  | .codeSpaceExhausted => "CodeSpaceExhausted"

def status : ErrorKind → Nat
  | .invalidRequest | .unsupportedFormat | .unknownField | .incompleteMapping
  | .noEligibleParticipants | .notEligible => 400
  | .templateNotFound | .eventNotFound | .notFound => 404
  | .alreadyIssued => 409
  | .missingFieldValue | .assetUnavailable => 422
  | .storageUnavailable => 503
  | .engine | .renderFailure | .renderTimeout | .codeSpaceExhausted => 500

def isRenderFailure : ErrorKind → Bool
  | .renderFailure | .renderTimeout => true
  | _ => false

def ofCode? (s : String) : Option ErrorKind :=
  all.find? (·.code == s)

end ErrorKind

inductive RequestFault
  | notObject
  | notInteger (field : String)
  | notList (field : String)
  | notIntegers (field : String)
  | notText (field : String)
  | templateIdMissing
  | nameMissing
  | mappingMissing
  | mappingValues
  | participantId (shown : String)
  | otherEvent (template event given : Int)
deriving DecidableEq, Repr

def RequestFault.message : RequestFault → String
  | .notObject => "Invalid request payload."
  | .notInteger field => field ++ " must be an integer"
  | .notList field => field ++ " must be a list"
  | .notIntegers field => field ++ " must be a list of integers"
  | .notText field => field ++ " must be a string"
  | .templateIdMissing => "templateId is required"
  | .nameMissing => "Template name is required"
  | .mappingMissing => "Valid placeholder mapping is required"
  | .mappingValues => "Mapping values must be data field keys"
  | .participantId shown => "Invalid participant id " ++ shown
  | .otherEvent template event given =>
    s!"Template {template} belongs to event {event}, not {given}"

/-- What is wrong with a template's content. -/
inductive FormatFault
  | notDeck
  | deckMissing
  | deckName
  | kind (shown : String)
  | canvas (fault : Canvas.Fault)
deriving DecidableEq, Repr

def FormatFault.message : FormatFault → String
  | .notDeck => "Template is not a valid PowerPoint (.pptx) document"
  | .deckMissing => "Flat-document templates need a .pptx file"
  | .deckName => "Flat-document templates must be .pptx files"
  | .kind shown =>
    "Unsupported template kind " ++ shown ++ "; expected one of flatDocument, canvas"
  | .canvas fault => fault.message

/-- What keeps a template from being drawn. -/
inductive DrawingFault
  | unknownKind (template kind : String)
  | backgroundColor (color : String)
  | unreadableImage (ref : String)
  | element (kind reason : String)
deriving DecidableEq, Repr

def DrawingFault.message : DrawingFault → String
  | .unknownKind template kind =>
    "Template " ++ template ++ " has unknown kind " ++ Text.quoted kind
  | .backgroundColor color => "Invalid background colour " ++ Text.quoted color
  | .unreadableImage ref => "Asset " ++ Text.quoted ref ++ " is not a readable image"
  | .element kind reason => "Could not draw " ++ kind ++ " element: " ++ reason

inductive StoredThing
  | artifact
  | upload
deriving DecidableEq, Repr

def StoredThing.word : StoredThing → String
  | .artifact => "certificate artifact"
  | .upload => "template upload"

/-- An error by its cause. `stated` is one with a wording from outside; a wording that is empty
stands for the one of the kind or of the cause. -/
inductive Error
  | stated (kind : ErrorKind) (note : String)
  | request (fault : RequestFault)
  | format (fault : FormatFault)
  | unknownFields (keys : List String) (note : String)
  | incompleteMapping (missing : List String)
  | noEligibleParticipants
  | templateNotFound (id : Int)
  | eventNotFound (id : Int)
  | certificateNotFound
  | artifactNotFound
  | notRegistered (participant event : Int)
  | notAttended (participant event : Int)
  | alreadyIssued (participant event : Int)
  | missingFieldValue (key : String)
  | assetUnavailable (ref : Option String) (note : String)
  | drawing (fault : DrawingFault)
  | renderTimeout (limit : String) (participant : Int)
  | storageUnavailable (thing : StoredThing) (detail : String)
  | codeSpaceExhausted (attempts : Nat)
deriving DecidableEq, Repr

namespace Error

/-- The error about a mapping that names what is no placeholder of the template. -/
def notPlaceholders (keys : List String) : Error :=
  .unknownFields keys ("Not placeholders of this template: " ++ ", ".intercalate keys)

def kind : Error → ErrorKind
  | .stated kind _ => kind
  | .request _ => .invalidRequest
  | .format _ => .unsupportedFormat
  | .unknownFields .. => .unknownField
  | .incompleteMapping _ => .incompleteMapping
  | .noEligibleParticipants => .noEligibleParticipants
  | .templateNotFound _ => .templateNotFound
  | .eventNotFound _ => .eventNotFound
  | .certificateNotFound | .artifactNotFound => .notFound
  | .notRegistered .. | .notAttended .. => .notEligible
  | .alreadyIssued .. => .alreadyIssued
  | .missingFieldValue _ => .missingFieldValue
  | .assetUnavailable .. => .assetUnavailable
  | .drawing _ => .renderFailure
  | .renderTimeout .. => .renderTimeout
  | .storageUnavailable .. => .storageUnavailable
  | .codeSpaceExhausted _ => .codeSpaceExhausted

/-- A wording, or another one in place of an empty one. -/
def orElse (note other : String) : String := if note.isEmpty then other else note

def message : Error → String
  | .stated kind note => orElse note kind.code
  | .request fault => fault.message
  | .format fault => fault.message
  | .unknownFields keys note => orElse note ("Unknown field(s): " ++ ", ".intercalate keys)
  | .incompleteMapping missing => "Please map all placeholders: " ++ ", ".intercalate missing
  | .noEligibleParticipants => "No eligible participants found"
  | .templateNotFound id => s!"Template {id} not found"
  | .eventNotFound id => s!"Event {id} not found"
  | .certificateNotFound => "Certificate not found"
  | .artifactNotFound => "Certificate file not found"
  | .notRegistered participant event =>
    s!"Participant {participant} is not registered for event {event}"
  | .notAttended participant event =>
    s!"Participant {participant} has not attended event {event}"
  | .alreadyIssued participant event =>
    s!"Participant {participant} already holds a certificate for event {event}"
  | .missingFieldValue key => "No value resolved for field " ++ Text.quoted key
  | .assetUnavailable ref note =>
    orElse note ("Asset unavailable: " ++ (Json.optStr ref).shown)
  | .drawing fault => fault.message
  | .renderTimeout limit participant =>
    s!"Rendering exceeded {limit}s for participant {participant}"
  | .storageUnavailable thing detail => "Could not store " ++ thing.word ++ ": " ++ detail
  | .codeSpaceExhausted attempts => s!"Could not draw unused codes after {attempts} attempts"

def code (e : Error) : String := e.kind.code

def status (e : Error) : Nat := e.kind.status

/-- The data that go with some kinds of errors in an answer. -/
def answerData : Error → List (String × Json)
  | .unknownFields keys _ => [("keys", .arr (keys.map .str))]
  | .incompleteMapping missing => [("missing", .arr (missing.map .str))]
  | _ => []

def payload (e : Error) : Json :=
  .obj ([("ok", .bool false), ("error", .str e.code), ("message", .str e.message)]
    ++ e.answerData)

end Error

/-- A failure outside the kinds of errors. -/
inductive Defect
  | badValue (text : String)
  | refusedCheckIn
  | overflow (text : String)
  | breakdown (text : String)
  | io (fault : IoFault)
  | noCodesLeft
  | misshapen (text : String)
deriving DecidableEq, Repr

def Defect.message : Defect → String
  | .badValue text => text
  | .refusedCheckIn => "Only confirmed registrations can be checked in."
  | .overflow text => text
  | .breakdown text => text
  | .io fault => fault.detail
  | .noCodesLeft => ""
  | .misshapen text => text

inductive Failure
  | error (e : Error)
  | defect (d : Defect)
deriving DecidableEq, Repr

/-- How a refused description fails: by an error of its format, except where its text cannot even be
read. -/
def Canvas.Fault.failure : Canvas.Fault → Failure
  | .overlong digits => .defect (.badValue (Canvas.Fault.overlong digits).message)
  | fault => .error (.format (.canvas fault))

def Failure.reason : Failure → String
  | .error e => e.code
  | .defect _ => "UnexpectedError"

def Failure.message : Failure → String
  | .error e => e.message
  | .defect d => d.message

end Issuance
