import Mathlib.Data.List.Forall2
import Issuance.Proofs.Canvas.Reading
import Issuance.Template.Upload
/-!
Putting references in place of uploaded names. Nothing else in a description changes, and what was
acceptable can still be read back.
-/

namespace Issuance
namespace Canvas

variable {assets : List (String × String)}

/-- What stands for a name afterwards: its reference, or the name itself if it has none. -/
inductive StandsFor (assets : List (String × String)) (name : String) : String → Prop
  | ref (ref : String) (uploaded : Assoc.get? name assets = some ref) : StandsFor assets name ref
  | name (foreign : Assoc.get? name assets = none) : StandsFor assets name name

/-- An element of which nothing but the source of a picture may have been renamed. -/
inductive Element.Renamed (assets : List (String × String)) : Element → Element → Prop
  | text (e : TextElement) : Renamed assets (.text e) (.text e)
  | image (e : ImageElement) (src : String) (source : StandsFor assets e.src src) :
      Renamed assets (.image e) (.image { e with src })
  | symbol (e : SymbolElement) : Renamed assets (.symbol e) (.symbol e)

/-- A description of which nothing but the background and the sources of pictures may have been
renamed. -/
structure Spec.Renamed (assets : List (String × String)) (spec later : Spec) : Prop where
  width : later.width = spec.width
  height : later.height = spec.height
  backgroundColor : later.backgroundColor = spec.backgroundColor
  background : Option.Rel (StandsFor assets) spec.background later.background
  elements : List.Forall₂ (Element.Renamed assets) spec.elements later.elements
  referencedFields : later.referencedFields = spec.referencedFields

theorem standsFor_getD (name : String) :
    StandsFor assets name ((Assoc.get? name assets).getD name) := by
  cases uploaded : Assoc.get? name assets with
  | none => exact .name uploaded
  | some ref => exact .ref ref uploaded

theorem StandsFor.ne_empty {name ref : String} (stands : StandsFor assets name ref)
    (filled : name ≠ "") (refs : ∀ entry ∈ assets, entry.2 ≠ "") : ref ≠ "" := by
  cases stands with
  | ref _ uploaded => exact refs _ (Assoc.mem_of_get? uploaded)
  | name foreign => exact filled

namespace Spec

/-- The fields that a canvas names do not depend on where its pictures are stored. -/
theorem referencedFields_withAssets (spec : Spec) (assets : List (String × String)) :
    (spec.withAssets assets).referencedFields = spec.referencedFields := by
  have contents : ∀ e : Element, (Element.withAssets assets e).content = e.content := by
    intro e
    cases e <;> rfl
  simp only [referencedFields, withAssets, List.foldl_map, contents]

theorem renamed_withAssets (spec : Spec) (assets : List (String × String)) :
    Renamed assets spec (spec.withAssets assets) where
  width := rfl
  height := rfl
  backgroundColor := rfl
  background := by
    change Option.Rel _ spec.background (spec.background.map _)
    cases spec.background with
    | none => exact .none
    | some name => exact .some (standsFor_getD name)
  elements := by
    change List.Forall₂ _ spec.elements (spec.elements.map _)
    induction spec.elements with
    | nil => exact .nil
    | cons e rest ih =>
        refine .cons ?_ ih
        cases e with
        | text e => exact .text e
        | image e => exact .image e _ (standsFor_getD e.src)
        | symbol e => exact .symbol e
  referencedFields := referencedFields_withAssets spec assets

end Spec

theorem Element.Renamed.isAcceptable {e later : Element} (renamed : e.Renamed assets later)
    (acceptable : e.IsAcceptable) (refs : ∀ entry ∈ assets, entry.2 ≠ "") : later.IsAcceptable := by
  cases renamed with
  | text e => exact acceptable
  | image e src source => exact ⟨acceptable.1, acceptable.2.1, source.ne_empty acceptable.2.2 refs⟩
  | symbol e => exact acceptable

theorem isAcceptable_of_renamed {elements later : List Element}
    (renamed : List.Forall₂ (Element.Renamed assets) elements later)
    (acceptable : ∀ e ∈ elements, e.IsAcceptable) (refs : ∀ entry ∈ assets, entry.2 ≠ "") :
    ∀ e ∈ later, e.IsAcceptable := by
  induction renamed with
  | nil => exact fun _ none => absurd none List.not_mem_nil
  | cons first rest ih =>
      rw [List.forall_mem_cons] at acceptable ⊢
      exact ⟨first.isAcceptable acceptable.1 refs, ih acceptable.2⟩

theorem Spec.Renamed.isAcceptable {spec later : Spec} (renamed : spec.Renamed assets later)
    (acceptable : spec.IsAcceptable) (refs : ∀ entry ∈ assets, entry.2 ≠ "") :
    later.IsAcceptable where
  width := renamed.width ▸ acceptable.width
  height := renamed.height ▸ acceptable.height
  background := by
    intro empty
    have background := renamed.background
    rw [empty] at background
    cases own : spec.background with
    | none =>
        rw [own] at background
        cases background
    | some name =>
        rw [own] at background
        cases background with
        | some stands =>
            refine stands.ne_empty ?_ refs rfl
            rintro rfl
            exact acceptable.background own
  elements := isAcceptable_of_renamed renamed.elements acceptable.elements refs

/-- The main file becomes the background of a description that has none of its own. -/
theorem withMainFile_eq (spec : Spec) (main : Option (String × Content)) :
    withMainFile spec main =
      { spec with background := spec.background.or (main.map Prod.fst) } := by
  obtain ⟨width, height, color, background, elements⟩ := spec
  cases background with
  | none =>
      cases main with
      | none => rfl
      | some file => rfl
  | some name => rfl

theorem isAcceptable_withMainFile {spec : Spec} (acceptable : spec.IsAcceptable)
    (draft : TemplateDraft) : (withMainFile spec draft.mainFile?).IsAcceptable := by
  have named : ∀ file ∈ draft.mainFile?, file.1 ≠ "" := by
    intro file member
    unfold TemplateDraft.mainFile? at member
    split at member
    · split at member
      · cases member
      · next filled =>
          cases member
          rw [Bool.or_eq_true, not_or, String.isEmpty_iff] at filled
          exact filled.1
    · cases member
  rw [withMainFile_eq]
  refine ⟨acceptable.width, acceptable.height, ?_, acceptable.elements⟩
  cases own : spec.background with
  | some name =>
      rw [Option.some_or, ← own]
      exact acceptable.background
  | none =>
      rw [Option.none_or]
      intro empty
      obtain ⟨file, member, none⟩ := Option.map_eq_some_iff.1 empty
      exact named file member none

end Canvas
end Issuance
