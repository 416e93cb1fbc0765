import Issuance.Office
import Issuance.Template.Source
/-!
Listing and removing templates.
-/

namespace Issuance

namespace Template

def filledText? : Json → Option String
  | .str s => if s.isEmpty then none else some s
  | _ => none

def imageSource? (element : Json) : Option String :=
  match element.getOrNull "type" with
  | .str "image" => filledText? (element.getOrNull "src")
  | _ => none

/-- The files that a stored canvas refers to: its background and the sources of its images. -/
def canvasRefs (canvas : Json) : List String :=
  (filledText? (canvas.getOrNull "background")).toList
    ++ ((canvas.getOrNull "elements").asArr?.getD []).filterMap imageSource?

def deckRefs (t : Template) : List String :=
  match t.contentRef with
  | some ref => if ref.isEmpty then [] else [ref]
  | none => []

def refs (t : Template) : List String := t.deckRefs ++ canvasRefs t.canvas

end Template

namespace Ledger

/-- Removes a template. Certificates made from it stay and name no template. -/
def removeTemplate (l : Ledger) (id : Int) : Ledger :=
  { l with
    templates := l.templates.filter fun t => t.id ≠ id
    certificates := l.certificates.map fun c =>
      if c.templateId = some id then { c with templateId := none } else c }

/-- A newer template comes first, and of equally old ones the higher id. One without a time comes
last. -/
def listedBefore (a b : Template) : Bool :=
  match a.createdAt, b.createdAt with
  | some x, some y => y.ticks < x.ticks || (x.ticks == y.ticks && b.id ≤ a.id)
  | some _, none => true
  | none, some _ => false
  | none, none => b.id ≤ a.id

/-- The templates, or those that serve an event, in the order of the list. -/
def templatesFor (l : Ledger) (eventId : Option Int) : List Template :=
  let serves := fun (t : Template) =>
    match eventId with
    | none => true
    | some id => t.eventId == some id || t.eventId.isNone
  (l.templates.filter serves).mergeSort listedBefore

end Ledger

/-- Takes out files as far as that can be done. -/
def discardAll : List String → Work Unit
  | [] => return
  | ref :: rest => do
    let _ ← Work.discard ref
    discardAll rest

/-- Removes a template, and then the files it refers to. -/
def deleteTemplate (id : Int) : Work Unit := do
  let template ← requireTemplate id
  Work.changeLedger (·.removeTemplate template.id)
  discardAll template.refs

end Issuance
