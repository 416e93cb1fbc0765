import Issuance.Office
import Issuance.Template.Source
/-!
Mapping placeholders to fields.
-/

namespace Issuance

/-- A value of a proposed mapping: a text, or nothing. -/
def mappingValue? : Json → Option (Option String)
  | .null => some none
  | .str s => some (some s)
  | _ => none

/-- A mapping that was checked against a template and a catalog: its keys are placeholders, and
its values are empty or field keys. -/
def checkMapping (catalog : Catalog) (placeholders : List String) (proposed : Json) :
    Except Error Mapping := do
  let .obj members := proposed | throw (.request .mappingMissing)
  let unknownKeys := (members.map (·.1)).filter (!placeholders.contains ·)
  if !unknownKeys.isEmpty then throw (.notPlaceholders unknownKeys)
  let some mapping := members.mapM fun (p, value) => (mappingValue? value).map (p, ·)
    | throw (.request .mappingValues)
  let unknownFields := (mapping.filterMap (·.2)).filter fun key =>
    !key.isEmpty && !catalog.contains key
  if !unknownFields.isEmpty then throw (.unknownFields unknownFields "")
  return mapping

/-- The mapping of a template with the entries of another one in place of its own. Only
placeholders are kept, in their order. -/
def mergeMapping (placeholders : List String) (old new : Mapping) : Mapping :=
  let kept := placeholders.map fun p => (p, (Assoc.get? p old).getD (some ""))
  new.foldl (fun merged (p, key) => Assoc.put p (some (key.getD "")) merged) kept

/-- Maps placeholders of a template to fields. An empty value takes a mapping back. -/
def setMapping (catalog : Catalog) (template : Template) (proposed : Json) : Work Template := do
  let mapping ← Work.ofError (checkMapping catalog template.placeholders proposed)
  let changed :=
    { template with mapping := mergeMapping template.placeholders template.mapping mapping }
  Work.changeLedger (·.putTemplate changed)
  return changed

end Issuance
