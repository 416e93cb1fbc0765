import Issuance.Proofs.Template.Calls
/-!
Canvases come back as they were accepted. Whatever can be read as a description is read back from
its own structured data, also after the uploaded names have been replaced; so a stored canvas gives
the description that was accepted, and its references lead to the files that were uploaded.
-/

namespace Issuance

theorem Template.source_of_canvas {t : Template} {spec : Canvas.Spec}
    (kind : t.kind = TemplateKind.canvas.word) (canvas : t.canvas = spec.toJson)
    (acceptable : spec.IsAcceptable) : t.source = .ok (.canvas spec t.mapping) := by
  have known : TemplateKind.ofWord? TemplateKind.canvas.word = some .canvas := by decide
  have filled : spec.toJson.isEmpty = false := rfl
  unfold Template.source TemplateSource.of
  rw [kind, known, canvas]
  simp only [filled, Bool.false_eq_true, if_false, Canvas.Spec.ofJson_toJson acceptable]

theorem read_of_ingestCanvas {catalog : Catalog} {input : CanvasInput} {spec : Canvas.Spec}
    (ingested : ingestCanvas catalog input = .ok spec) : input.read = .ok spec := by
  unfold ingestCanvas at ingested
  obtain ⟨read, done, ingested⟩ := bind_eq_ok_iff.1 ingested
  split at ingested
  · cases ingested
    exact mapError_eq_ok_iff.1 done
  · cases ingested

theorem IsMadeCanvas.isAcceptable {catalog : Catalog} {draft : TemplateDraft} {office : Office}
    {t : Template} {accepted : Canvas.Spec} {refs : List (String × String)}
    (made : IsMadeCanvas catalog draft office t accepted refs) :
    ((withMainFile accepted draft.mainFile?).withAssets refs).IsAcceptable := by
  have first := CanvasInput.isAcceptable_of_read (read_of_ingestCanvas made.ingested)
  apply (Canvas.Spec.renamed_withAssets _ refs).isAcceptable
  · exact Canvas.isAcceptable_withMainFile first draft
  · exact filled_of_hasUpload made.stored

/-- A canvas stays as it was made, from a description that was accepted; what was uploaded for it is
sheltered since. -/
theorem Office.exists_creation_of_canvas {start : Office} (fresh : start.IsFresh)
    {history : List Step} (ordinary : ∀ step ∈ history, Step.IsOrdinary step) {t : Template}
    (member : t ∈ (start.through history).ledger.templates)
    (kind : t.kind = TemplateKind.canvas.word) :
    ∃ (creation : Creation) (accepted : Canvas.Spec) (refs : List (String × String)),
      creation.IsIn start history ∧ creation.made = t ∧
      IsMadeCanvas creation.catalog creation.draft (start.through history) t accepted refs := by
  obtain ⟨creation, isIn, -, same⟩ :=
    Office.exists_creation fresh ordinary (Office.template?_of_mem fresh ordinary member)
  obtain ⟨between, entered, made⟩ := isIn.isMade ordinary fresh.sound
  rw [same] at kind
  rcases made.origin with deck | ⟨accepted, refs, canvas⟩
  · have impossible : TemplateKind.canvas.word = TemplateKind.deck.word := kind.symm.trans deck.kind
    exact absurd impossible (by decide)
  · have unchanged : creation.made = t := by
      rw [same]
      unfold Template.withValues
      rw [canvas.placeholders, List.map_nil, ← canvas.mapping, ← canvas.placeholders]
    have entering : Office.Refiles between creation.office := by
      rw [entered]
      exact .of_eq made.uploaded.frame.sound rfl rfl
    have sheltered := Office.shelters_through (isIn.ordinary_after ordinary)
      (isIn.sound_office ordinary fresh.sound)
    rw [← isIn.through] at sheltered
    rw [unchanged] at canvas
    refine ⟨creation, accepted, refs, isIn, unchanged, canvas.ingested, ?_, canvas.kind,
      canvas.canvas, canvas.placeholders, canvas.mapping⟩
    exact canvas.stored.imp fun _ _ has => has.later (entering.shelters.trans sheltered)

/-- An uploaded file can be read under its reference, unless it has been taken out. -/
def Office.Serves (office : Office) (file : String × Content) (entry : String × String) : Prop :=
  ∃ store path, office.vault.location? entry.2 = some (store, path) ∧
    (office.vault.fileAt store path = none ∨ office.vault.read entry.2 = .ok file.2)

namespace Launch

/-- A canvas that shows an uploaded seal on uploaded paper. -/
def poster : TemplateDraft :=
  ⟨some "Poster", some "canvas", none, some "paper.png", some (.bytes [1]),
    .value (.obj [("elements", .arr [.obj [("type", .str "image"), ("x", .int 0), ("y", .int 0),
      ("width", .int 9), ("height", .int 9), ("src", .str "seal.png")]])]),
    [("seal.png", .bytes [2])]⟩

def posterHistory : List Step :=
  [.change circumstances, .operation (.createTemplate .standard poster),
    .operation (.setMapping .standard 1 (.obj []))]

end Launch

end Issuance
