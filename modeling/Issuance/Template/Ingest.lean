import Issuance.Catalog
import Issuance.Template.Source
/-!
Taking in templates: the placeholders of a deck, or the checked description of a canvas.
-/

namespace Issuance

inductive CanvasInput
  | nothing
  | value (json : Json)
  | bytes (bs : List UInt8)
deriving Repr

structure Ingested where
  placeholders : List String
  spec : Option Canvas.Spec
deriving Repr

/-- The placeholders of a deck, in reading order. -/
def Deck.placeholders (deck : Deck) : List String :=
  Placeholder.extract (deck.paragraphs.map text)

def ingestDeck (content : Option Content) : Except Error (List String) :=
  match content with
  | none => .error (.format .deckMissing)
  | some c =>
    if c.isEmpty then .error (.format .deckMissing)
    else
      match c.deck? with
      | some deck => .ok deck.placeholders
      | none => .error (.format .notDeck)

/-- The description handed in. Nothing is an empty object. -/
def CanvasInput.read : CanvasInput → Except Canvas.Fault Canvas.Spec
  | .nothing => Canvas.Spec.ofObject (.obj [])
  | .value json => Canvas.Spec.ofJson json
  | .bytes bs => Canvas.Spec.ofBytes bs

/-- The checked description handed in, which names only fields of the catalog. -/
def ingestCanvas (catalog : Catalog) (input : CanvasInput) : Except Failure Canvas.Spec := do
  let spec ← input.read.mapError Canvas.Fault.failure
  match spec.referencedFields.filter (!catalog.contains ·) with
  | [] => return spec
  | unknown => throw (.error (.unknownFields unknown ""))

def unknownKind (kind : Option String) : Error :=
  .format (.kind (Json.optStr kind).shown)

/-- Takes in a template of a kind, with references for names that were uploaded. -/
def ingest (catalog : Catalog) (kind : Option String) (file : Option Content)
    (input : CanvasInput) (assets : List (String × String)) : Except Failure Ingested :=
  match kind.bind TemplateKind.ofWord? with
  | some .deck =>
    ((ingestDeck file).mapError Failure.error).map fun placeholders => ⟨placeholders, none⟩
  | some .canvas => (ingestCanvas catalog input).map fun spec => ⟨[], some (spec.withAssets assets)⟩
  | none => .error (.error (unknownKind kind))

end Issuance
