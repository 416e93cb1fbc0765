import Issuance.Proofs.Template.Changes
/-!
The records of templates: where each of them comes from, and the files that a record refers to.

A deck refers to the file that was uploaded for it; a canvas, to whatever its background and its
pictures name.
-/

namespace Issuance

/-- The references in a stored canvas are those of its description, as far as they are not empty. -/
theorem canvasRefs_toJson (spec : Canvas.Spec) :
    Template.canvasRefs spec.toJson = spec.refs.filter fun ref => !ref.isEmpty := by
  have background : spec.toJson.getOrNull "background" = .optStr spec.background := rfl
  have elements : (spec.toJson.getOrNull "elements").asArr? =
      some (spec.elements.map Canvas.Element.toJson) := rfl
  have sources : (spec.elements.map Canvas.Element.toJson).filterMap Template.imageSource? =
      spec.pictures.filter fun ref => !ref.isEmpty := by
    unfold Canvas.Spec.pictures
    induction spec.elements with
    | nil => rfl
    | cons element rest ih =>
        rw [List.map_cons, List.filterMap_cons, ih, List.filterMap_cons]
        cases element with
        | text e => rfl
        | symbol e => rfl
        | image e =>
            have source : Template.imageSource? (Canvas.Element.image e).toJson =
                if e.src.isEmpty then none else some e.src := rfl
            rw [source]
            cases filled : e.src.isEmpty with
            | true => simp only [if_true, List.filter_cons, filled, Bool.not_true,
                Bool.false_eq_true, if_false]
            | false => simp only [Bool.false_eq_true, if_false, List.filter_cons, filled,
                Bool.not_false, if_true]
  unfold Template.canvasRefs Canvas.Spec.refs
  rw [background, elements, Option.getD_some, sources, List.filter_append]
  congr 1
  cases spec.background with
  | none => rfl
  | some name =>
      change (if name.isEmpty then none else some name : Option String).toList = _
      cases filled : name.isEmpty with
      | true => simp [filled]
      | false => simp [filled]

/-- A template as it is on record: a deck with its uploaded file, or a canvas with its
description. -/
inductive Template.IsRecorded (t : Template) : Prop
  | deck (ref : String) (kind : t.kind = TemplateKind.deck.word) (contentRef : t.contentRef = some ref)
      (uploaded : IsUploadRef ref) (noCanvas : t.canvas = .null) : IsRecorded t
  | canvas (spec : Canvas.Spec) (kind : t.kind = TemplateKind.canvas.word)
      (noFile : t.contentRef = none) (canvas : t.canvas = spec.toJson) : IsRecorded t

theorem IsNew.isRecorded {catalog : Catalog} {office : Office} {t : Template}
    (new : IsNew catalog office t) : t.IsRecorded := by
  cases new with
  | deck ref store fileName number content found kind contentRef placeholders mapping isDeck counted
      located there uploaded noCanvas =>
      exact .deck ref kind contentRef uploaded noCanvas
  | canvas spec kind placeholders mapping canvas known noFile =>
      exact .canvas spec kind noFile canvas

theorem Template.IsRecorded.withMapping {t : Template} (recorded : t.IsRecorded) (mapping : Mapping) :
    Template.IsRecorded { t with mapping } := by
  cases recorded with
  | deck ref kind contentRef uploaded noCanvas => exact .deck ref kind contentRef uploaded noCanvas
  | canvas spec kind noFile canvas => exact .canvas spec kind noFile canvas

theorem ne_empty_of_text {ref : Storage.Reference} : ref.text ≠ "" := by
  intro empty
  have chars := congrArg String.toList empty
  rw [Storage.Reference.text, String.toList_append, String.toList_append] at chars
  cases List.append_eq_nil_iff.1 (List.append_eq_nil_iff.1 chars).1 with
  | intro _ colon => cases colon

/-- What the rows of a ledger refer to. -/
inductive Ledger.RefersTo (l : Ledger) : String → Prop
  | certificate (c : Certificate) (member : c ∈ l.certificates) : RefersTo l c.fileRef
  | source (t : Template) (member : t ∈ l.templates) (ref : String) (here : t.contentRef = some ref) :
      RefersTo l ref
  | background (t : Template) (member : t ∈ l.templates) (spec : Canvas.Spec)
      (canvas : t.canvas = spec.toJson) (ref : String) (here : spec.background = some ref) :
      RefersTo l ref
  | picture (t : Template) (member : t ∈ l.templates) (spec : Canvas.Spec)
      (canvas : t.canvas = spec.toJson) (e : Canvas.ImageElement)
      (here : .image e ∈ spec.elements) : RefersTo l e.src

theorem mem_canvasRefs_toJson {spec : Canvas.Spec} {ref : String} (filled : ref ≠ "") :
    ref ∈ Template.canvasRefs spec.toJson ↔
      spec.background = some ref ∨ ∃ e, .image e ∈ spec.elements ∧ e.src = ref := by
  have notEmpty : (!ref.isEmpty) = true := by
    rw [Bool.not_eq_true', String.isEmpty_eq_false_iff]
    exact filled
  rw [canvasRefs_toJson, List.mem_filter, and_iff_left notEmpty, Canvas.Spec.mem_refs]

theorem Template.mem_deckRefs {t : Template} {ref : String} (filled : ref ≠ "") :
    ref ∈ t.deckRefs ↔ t.contentRef = some ref := by
  unfold Template.deckRefs
  cases t.contentRef with
  | none => exact ⟨fun none => absurd none List.not_mem_nil, nofun⟩
  | some other =>
      simp only [Option.some.injEq]
      split
      · next empty =>
          refine ⟨fun none => absurd none List.not_mem_nil, ?_⟩
          rintro rfl
          exact absurd (String.isEmpty_iff.1 empty) filled
      · rw [List.mem_singleton, eq_comm]

/-- What a purge takes to be in use is what the rows refer to. -/
theorem mem_refsInUse_iff {l : Ledger} (recorded : ∀ t ∈ l.templates, t.IsRecorded) {ref : String}
    (filled : ref ≠ "") : ref ∈ Purge.refsInUse l ↔ l.RefersTo ref := by
  unfold Purge.refsInUse
  rw [List.mem_append, List.mem_map, List.mem_flatMap]
  constructor
  · rintro (⟨c, member, rfl⟩ | ⟨t, member, cited⟩)
    · exact .certificate c member
    · rcases List.mem_append.1 cited with source | shown
      · exact .source t member ref ((Template.mem_deckRefs filled).1 source)
      · cases recorded t member with
        | deck other kind contentRef uploaded noCanvas =>
            rw [noCanvas] at shown
            cases shown
        | canvas spec kind noFile canvas =>
            rw [canvas, mem_canvasRefs_toJson filled] at shown
            rcases shown with here | ⟨e, present, rfl⟩
            · exact .background t member spec canvas ref here
            · exact .picture t member spec canvas e present
  · intro refers
    cases refers with
    | certificate c member => exact Or.inl ⟨c, member, rfl⟩
    | source t member _ here =>
        exact Or.inr ⟨t, member, List.mem_append_left _ ((Template.mem_deckRefs filled).2 here)⟩
    | background t member spec canvas _ here =>
        refine Or.inr ⟨t, member, List.mem_append_right _ ?_⟩
        rw [canvas, mem_canvasRefs_toJson filled]
        exact Or.inl here
    | picture t member spec canvas e here =>
        refine Or.inr ⟨t, member, List.mem_append_right _ ?_⟩
        rw [canvas, mem_canvasRefs_toJson filled]
        exact Or.inr ⟨e, here, rfl⟩

namespace Office

theorem isRecorded_step {step : Step} {office : Office} (sound : office.Sound)
    (recorded : ∀ t ∈ office.ledger.templates, t.IsRecorded) :
    ∀ t ∈ (step.run office).ledger.templates, t.IsRecorded := by
  cases step with
  | change circumstances => exact recorded
  | operation op =>
      refine (op.reshapes sound).forall_templates ?_ ?_ recorded
      · exact fun _ _ _ t mapping _ _ known => known.withMapping _
      · exact fun _ _ _ t _ _ _ new => new.isRecorded

theorem isRecorded_through {history : List Step} (ordinary : ∀ step ∈ history, Step.IsOrdinary step)
    {office : Office} (sound : office.Sound)
    (recorded : ∀ t ∈ office.ledger.templates, t.IsRecorded) :
    ∀ t ∈ (office.through history).ledger.templates, t.IsRecorded :=
  holds_through (P := fun office => ∀ t ∈ office.ledger.templates, t.IsRecorded) ordinary
    (fun _ _ _ => isRecorded_step) sound recorded

theorem IsReachable.isRecorded {office : Office} (reachable : office.IsReachable) :
    ∀ t ∈ office.ledger.templates, t.IsRecorded := by
  obtain ⟨start, history, fresh, ordinary, rfl⟩ := reachable
  apply isRecorded_through ordinary fresh.sound
  rw [fresh.templates]
  exact fun _ none => absurd none List.not_mem_nil

end Office
end Issuance
