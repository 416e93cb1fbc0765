import Issuance.Office
import Issuance.Template.Ingest
import Issuance.Text.FileName
/-!
Making templates from uploaded files and descriptions.

Everything is checked before the first file is stored. The names of stored files take the place of
the names that were uploaded.
-/

namespace Issuance

/-- A template as it is handed in. `file` is the main file, `assets` are files by name. -/
structure TemplateDraft where
  name : Option String
  kind : Option String
  eventId : Option Int
  fileName : Option String
  file : Option Content
  canvas : CanvasInput
  assets : List (String × Content)

def deckExtension : String := ".pptx"

/-- The folder of a new upload, named by its number. -/
def uploadFolder (number : Nat) : String :=
  "templates/" ++ String.ofList (Text.hexDigits 32 number)

/-- Stores an uploaded file in a folder of its own and gives its reference. -/
def storeUpload (fileName : String) (content : Content) : Work String := do
  let office ← get
  let number := office.uploads + 1
  set { office with uploads := number }
  let safeName := Text.safeFileName fileName
  let key := uploadFolder number ++ "/" ++ (if safeName.isEmpty then "upload" else safeName)
  match ← Work.store key content with
  | .ok stored => return stored.ref.text
  | .error fault => Work.fail (.storageUnavailable .upload fault.detail)

/-- Stores files one after the other and gives their references by name. -/
def storeUploads : List (String × Content) → Work (List (String × String))
  | [] => return []
  | (name, content) :: rest => do
    let ref ← storeUpload name content
    let refs ← storeUploads rest
    return (name, ref) :: refs

/-- The main file of a draft, if it has a name and is not empty. -/
def TemplateDraft.mainFile? (draft : TemplateDraft) : Option (String × Content) :=
  match draft.fileName, draft.file with
  | some name, some content =>
    if name.isEmpty || content.isEmpty then none else some (name, content)
  | _, _ => none

/-- The background of a canvas: its own, or else the main file. -/
def withMainFile (spec : Canvas.Spec) (main : Option (String × Content)) : Canvas.Spec :=
  match spec.background, main with
  | none, some (name, _) => { spec with background := some name }
  | _, _ => spec

def enterTemplate (template : Template) : Work Template := do
  let office ← get
  let id := Ledger.nextId (office.ledger.templates.map (·.id))
  let entered := { template with id, createdAt := some office.clock.naive }
  Work.changeLedger fun l => { l with templates := l.templates ++ [entered] }
  return entered

def createCanvas (catalog : Catalog) (name : String) (draft : TemplateDraft) : Work Template := do
  let spec ← Work.ofFailure (ingestCanvas catalog draft.canvas)
  let assetRefs ← storeUploads draft.assets
  let mainRefs ← storeUploads draft.mainFile?.toList
  let refs := mainRefs ++ assetRefs
  let stored := (withMainFile spec draft.mainFile?).withAssets refs
  enterTemplate
    { id := 0, eventId := draft.eventId, name, kind := TemplateKind.canvas.word
      fileName := draft.fileName, contentRef := none, placeholders := [], mapping := []
      canvas := stored.toJson, createdAt := none }

def createDeck (name : String) (draft : TemplateDraft) : Work Template := do
  let placeholders ← Work.ofError (ingestDeck draft.file)
  let ref ← storeUpload (draft.fileName.getD "") (draft.file.getD (.bytes []))
  enterTemplate
    { id := 0, eventId := draft.eventId, name, kind := TemplateKind.deck.word
      fileName := draft.fileName, contentRef := some ref, placeholders
      mapping := placeholders.map fun p => (p, some "")
      canvas := .null, createdAt := none }

def isDeckName (fileName : Option String) : Bool :=
  (Text.lower (fileName.getD "")).endsWith deckExtension

/-- Makes a template. A missing name is noticed first, then the name of the file. -/
def createTemplate (catalog : Catalog) (draft : TemplateDraft) : Work Template := do
  let name := Text.trim (draft.name.getD "")
  if name.isEmpty then Work.fail (.request .nameMissing)
  match draft.kind.bind TemplateKind.ofWord? with
  | some .deck =>
    if !isDeckName draft.fileName then Work.fail (.format .deckName)
    createDeck name draft
  | some .canvas => createCanvas catalog name draft
  | none => Work.fail (unknownKind draft.kind)

end Issuance
