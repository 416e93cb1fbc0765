import Issuance.Canvas.Drawing
import Issuance.Certificate.View
import Issuance.Deck.Fill
/-!
What a template is drawn from, and the drawing of one certificate.
-/

namespace Issuance

/-- What a template is drawn from: a stored deck, or a canvas description. -/
inductive TemplateSource
  | deck (ref : Option String) (mapping : Mapping)
  | canvas (spec : Canvas.Spec) (mapping : Mapping)
deriving Repr

/-- A drawn certificate: its content and the format of its file. -/
structure Artifact where
  content : Content
  format : String
deriving Repr

namespace TemplateSource

def format : TemplateSource → String
  | .deck .. => "pptx"
  | .canvas .. => "png"

/-- The source of a template with the given parts. An empty canvas is one without settings. -/
def of (id : Option Int) (kind : String) (ref : Option String) (mapping : Mapping)
    (canvas : Json) : Except Failure TemplateSource :=
  match TemplateKind.ofWord? kind with
  | some .deck => .ok (.deck ref mapping)
  | some .canvas =>
    match Canvas.Spec.ofJson (if canvas.isEmpty then .obj [] else canvas) with
    | .ok spec => .ok (.canvas spec mapping)
    | .error fault => .error fault.failure
  | none => .error (.error (.drawing (.unknownKind (Json.optInt id).display kind)))

/-- A deck filled in, from the file that a reference leads to. -/
def drawDeck (read : String → Except IoFault Content) (ref : Option String) (mapping : Mapping)
    (values : FieldValues) : Except Failure Artifact := do
  let content ← match ref with
    | none => throw (.error (.assetUnavailable none ""))
    | some r =>
      if r.isEmpty then throw (.error (.assetUnavailable ref ""))
      else (read r).mapError fun _ => .error (.assetUnavailable ref "")
  let some found := content.deck? | throw (.error (.format .notDeck))
  let filled ← found.fill (mapping.find values false)
  return ⟨.deck filled, "pptx"⟩

/-- Paints on an easel, and gives the picture with the easel as it was left. -/
def drawCanvas (read : String → Except IoFault Content) (fonts : Canvas.FontShelf)
    (spec : Canvas.Spec) (mapping : Mapping) (values : FieldValues) (easel : Canvas.Easel) :
    Except Failure Artifact × Canvas.Easel :=
  let studio : Canvas.Studio := ⟨read, fonts, mapping.find values true⟩
  let (result, easel) := (Canvas.paint studio spec).run.run easel
  (result.map fun picture => ⟨.picture picture, "png"⟩, easel)

def draw (source : TemplateSource) (read : String → Except IoFault Content)
    (fonts : Canvas.FontShelf) (values : FieldValues) : Except Failure Artifact :=
  match source with
  | .deck ref mapping => drawDeck read ref mapping values
  | .canvas spec mapping => (drawCanvas read fonts spec mapping values .fresh).1

end TemplateSource

namespace Template

def missing (t : Template) : List String := t.mapping.missing t.placeholders

def isReady (t : Template) : Bool := t.missing.isEmpty

/-- Refuses a template with placeholders that are mapped to nothing. -/
def requireReady (t : Template) : Except Error Unit :=
  if t.isReady then .ok () else .error (.incompleteMapping t.missing)

def source (t : Template) : Except Failure TemplateSource :=
  TemplateSource.of (some t.id) t.kind t.contentRef t.mapping t.canvas

def mappingJson (mapping : Mapping) : Json :=
  .obj (mapping.map fun (p, key) => (p, .optStr key))

def toMembers (t : Template) : List (String × Json) :=
  [("id", .int t.id), ("eventId", .optInt t.eventId), ("name", .str t.name),
    ("kind", .str t.kind), ("fileName", .optStr t.fileName),
    ("extractedPlaceholders", .arr (t.placeholders.map .str)),
    ("placeholderMapping", mappingJson t.mapping), ("canvasSpec", t.canvas),
    ("createdAt", .optMoment t.createdAt)]

/-- The row with the placeholders that are mapped to nothing. -/
def toMembersWithMissing (t : Template) : List (String × Json) :=
  t.toMembers ++ [("missingPlaceholders", .arr (t.missing.map .str))]

end Template
end Issuance
