import Issuance.Proofs.Template.Records
import Issuance.Proofs.Upkeep
/-!
How templates come to be, and what becomes of the files that were uploaded for them: each can be
read as it was uploaded until it is taken out, for nothing else is ever put in its place.
-/

namespace Issuance

open Office

/-- At a place there is nothing, or a given content to be read. -/
def Office.Shelves (office : Office) (store : String) (path : Storage.Path) (content : Content) :
    Prop :=
  office.vault.fileAt store path = none ∨ office.vault.readAt store path = some content

/-- What was at the places of earlier uploads is there still, or has been taken out. -/
structure Office.Shelters (office later : Office) : Prop where
  more : office.uploads ≤ later.uploads
  located : ∀ ref, later.vault.location? ref = office.vault.location? ref
  shelves : later.HasDistinctFolders → ∀ number ∈ Set.Icc 1 office.uploads,
    ∀ store fileName content, office.Shelves store (uploadPath number fileName) content →
      later.Shelves store (uploadPath number fileName) content

namespace Office

theorem Refiles.shelters {office later : Office} (refiles : Refiles office later) :
    Shelters office later where
  more := refiles.more
  located := refiles.located
  shelves := by
    intro distinct number counted store fileName content shelved
    rcases shelved with gone | there
    · left
      rcases (refiles.spares distinct).files store fileName number counted with same | absent
      · exact same.trans gone
      · exact absent
    · cases refiles with
      | puts touched more frame places =>
          right
          exact frame.reads store _ content (Refiles.apart places distinct counted store fileName)
            there
      | clears gone uploads frame fewer clear =>
          rcases fewer store (uploadPath number fileName) with same | absent
          · right
            apply Storage.Vault.readAt_of_isClear
            · exact clear store _ (Storage.Vault.isClear_of_readAt there)
            · exact same.trans (Storage.Vault.fileAt_of_readAt there)
          · exact Or.inl absent

namespace Shelters

theorem refl (office : Office) : Shelters office office :=
  ⟨Nat.le_refl _, fun _ => rfl, fun _ _ _ _ _ _ shelved => shelved⟩

theorem trans {first second third : Office} (early : Shelters first second)
    (late : Shelters second third) : Shelters first third where
  more := Nat.le_trans early.more late.more
  located := fun ref => (late.located ref).trans (early.located ref)
  shelves := by
    intro distinct number counted store fileName content shelved
    refine late.shelves distinct number ⟨counted.1, Nat.le_trans counted.2 early.more⟩ store fileName
      content ?_
    exact early.shelves (distinct.of_le late.more) number counted store fileName content shelved

end Shelters

theorem shelters_through {history : List Step} (ordinary : ∀ step ∈ history, Step.IsOrdinary step)
    {office : Office} (sound : office.Sound) : Shelters office (office.through history) := by
  refine holds_through (P := Shelters office) ordinary ?_ sound (Shelters.refl office)
  intro step _ current sound sheltered
  exact sheltered.trans (refiles_step step sound).shelters

/-- An uploaded file with the reference that it got: it can be read under it, or has been taken
out. -/
structure HasUpload (office : Office) (file : String × Content) (entry : String × String) : Prop where
  named : entry.1 = file.1
  filled : entry.2 ≠ ""
  place : ∃ store number fileName, number ∈ Set.Icc 1 office.uploads ∧
    office.vault.location? entry.2 = some (store, uploadPath number fileName) ∧
    (office.HasDistinctFolders → office.Shelves store (uploadPath number fileName) file.2)

theorem HasUpload.later {office later : Office} {file : String × Content} {entry : String × String}
    (has : office.HasUpload file entry) (shelters : Shelters office later) :
    later.HasUpload file entry where
  named := has.named
  filled := has.filled
  place := by
    obtain ⟨store, number, fileName, counted, located, shelved⟩ := has.place
    refine ⟨store, number, fileName, ⟨counted.1, Nat.le_trans counted.2 shelters.more⟩,
      (shelters.located _).trans located, fun distinct => ?_⟩
    exact shelters.shelves distinct number counted store fileName _
      (shelved (distinct.of_le shelters.more))

theorem HasUpload.read {office : Office} (sound : office.vault.Sound) {file : String × Content}
    {entry : String × String} (has : office.HasUpload file entry)
    (distinct : office.HasDistinctFolders) :
    ∃ store path, office.vault.location? entry.2 = some (store, path) ∧
      (office.vault.fileAt store path = none ∨ office.vault.read entry.2 = .ok file.2) := by
  obtain ⟨store, number, fileName, -, located, shelved⟩ := has.place
  refine ⟨store, _, located, (shelved distinct).imp_right fun there => ?_⟩
  exact (Storage.Vault.read_eq_ok_iff sound).2 ⟨store, _, located, there⟩

end Office

theorem hasUpload_storeUpload {fileName ref : String} {content : Content} {office later : Office}
    (sound : office.vault.Sound)
    (done : (storeUpload fileName content).perform office = (.ok ref, later)) :
    Uploaded office later ∧ later.HasUpload (fileName, content) (fileName, ref) := by
  obtain ⟨after, uploaded, ⟨failure, failed⟩ |
    ⟨other, store, number, performed, counted, located, there, spelled⟩⟩ :=
    storeUpload_cases fileName content sound
  · rw [failed] at done
    cases (Prod.mk.inj done).1
  · rw [performed] at done
    cases done
    obtain ⟨_, _, _, -, rfl⟩ := spelled
    refine ⟨uploaded, rfl, ne_empty_of_text, store, number, fileName, counted, located, fun _ => Or.inr ?_⟩
    obtain ⟨store', path, place, inside⟩ :=
      (Storage.Vault.read_eq_ok_iff uploaded.frame.sound).1 there
    rw [located] at place
    cases place
    exact inside

/-- Files that are stored one after the other can all be read under their references. -/
theorem hasUpload_storeUploads {files : List (String × Content)} {refs : List (String × String)}
    {office later : Office} (sound : office.vault.Sound)
    (done : (storeUploads files).perform office = (.ok refs, later)) :
    Uploaded office later ∧ List.Forall₂ later.HasUpload files refs := by
  induction files generalizing office refs with
  | nil =>
      cases done
      exact ⟨Uploaded.refl sound, .nil⟩
  | cons file rest ih =>
      rw [storeUploads, Work.perform_bind_eq_ok_iff] at done
      obtain ⟨ref, between, first, done⟩ := done
      obtain ⟨others, after, remaining, done⟩ := Work.perform_bind_eq_ok_iff.1 done
      cases done
      obtain ⟨uploaded, has⟩ := hasUpload_storeUpload sound first
      obtain ⟨more, hasAll⟩ := ih uploaded.frame.sound remaining
      exact ⟨uploaded.trans more, .cons (has.later (Refiles.of_uploaded more).shelters) hasAll⟩

section

variable {office : Office} {files : List (String × Content)} {refs : List (String × String)}

theorem names_of_hasUpload (has : List.Forall₂ office.HasUpload files refs) :
    refs.map Prod.fst = files.map Prod.fst := by
  induction has with
  | nil => rfl
  | cons first rest ih => rw [List.map_cons, List.map_cons, first.named, ih]

theorem filled_of_hasUpload (has : List.Forall₂ office.HasUpload files refs) :
    ∀ entry ∈ refs, entry.2 ≠ "" := by
  induction has with
  | nil => exact fun _ none => absurd none List.not_mem_nil
  | cons first rest ih => exact List.forall_mem_cons.2 ⟨first.filled, ih⟩

end

theorem perform_enterTemplate_eq_ok_iff {t entered : Template} {office later : Office} :
    (enterTemplate t).perform office = (.ok entered, later) ↔
      entered = office.numbered t ∧ later = office.withTemplate entered := by
  rw [perform_enterTemplate, Prod.mk.injEq, Except.ok.injEq]
  constructor
  · rintro ⟨rfl, rfl⟩
    exact ⟨rfl, rfl⟩
  · rintro ⟨rfl, rfl⟩
    exact ⟨rfl, rfl⟩

/-- A template that was made is a deck or a canvas, each with a name. -/
theorem cases_of_createTemplate {catalog : Catalog} {draft : TemplateDraft} {t : Template}
    {office later : Office}
    (done : (createTemplate catalog draft).perform office = (.ok t, later)) :
    ∃ name, (createDeck name draft).perform office = (.ok t, later) ∨
      (createCanvas catalog name draft).perform office = (.ok t, later) := by
  unfold createTemplate at done
  simp only at done
  refine ⟨Text.trim (draft.name.getD ""), ?_⟩
  split at done
  · cases done
  · split at done
    · split at done
      · cases done
      · exact Or.inl done
    · exact Or.inr done
    · cases done

/-- A deck as it is made: nothing is mapped to its placeholders yet. -/
structure IsMadeDeck (draft : TemplateDraft) (t : Template) : Prop where
  ingested : ingestDeck draft.file = .ok t.placeholders
  kind : t.kind = TemplateKind.deck.word
  mapping : t.mapping = t.placeholders.map fun p => (p, some "")

/-- A canvas as it is made: its uploads are stored, and the description that was accepted refers to
them. -/
structure IsMadeCanvas (catalog : Catalog) (draft : TemplateDraft) (office : Office) (t : Template)
    (accepted : Canvas.Spec) (refs : List (String × String)) : Prop where
  ingested : ingestCanvas catalog draft.canvas = .ok accepted
  stored : List.Forall₂ office.HasUpload (draft.mainFile?.toList ++ draft.assets) refs
  kind : t.kind = TemplateKind.canvas.word
  canvas : t.canvas = ((withMainFile accepted draft.mainFile?).withAssets refs).toJson
  placeholders : t.placeholders = []
  mapping : t.mapping = []

/-- What a template has come from, and where it was entered. -/
structure IsMade (catalog : Catalog) (draft : TemplateDraft) (office between : Office) (t : Template) :
    Prop where
  uploaded : Uploaded office between
  id : t.id = Ledger.nextId (office.ledger.templates.map (·.id))
  origin : IsMadeDeck draft t ∨ ∃ accepted refs, IsMadeCanvas catalog draft between t accepted refs

theorem isMade_of_createDeck {name : String} {draft : TemplateDraft} {t : Template}
    (catalog : Catalog) {office later : Office} (sound : office.vault.Sound)
    (done : (createDeck name draft).perform office = (.ok t, later)) :
    ∃ between, later = between.withTemplate t ∧ IsMade catalog draft office between t := by
  simp only [createDeck, Work.perform_bind_eq_ok_iff, perform_enterTemplate_eq_ok_iff,
    Work.perform_ofError, Prod.mk.injEq, mapError_eq_ok_iff] at done
  obtain ⟨placeholders, _, ⟨ingested, rfl⟩, ref, between, stored, same, entered⟩ := done
  obtain ⟨uploaded, -⟩ := hasUpload_storeUpload sound stored
  refine ⟨between, entered, uploaded, ?_, Or.inl ⟨?_, ?_, ?_⟩⟩
  · rw [same, uploaded.state]
    rfl
  · rw [same]
    exact ingested
  · rw [same]
    rfl
  · rw [same]
    rfl

theorem isMade_of_createCanvas {catalog : Catalog} {name : String} {draft : TemplateDraft}
    {t : Template} {office later : Office} (sound : office.vault.Sound)
    (done : (createCanvas catalog name draft).perform office = (.ok t, later)) :
    ∃ between, later = between.withTemplate t ∧ IsMade catalog draft office between t := by
  simp only [createCanvas, Work.perform_bind_eq_ok_iff, perform_enterTemplate_eq_ok_iff,
    Work.perform_ofFailure, Prod.mk.injEq] at done
  obtain ⟨accepted, _, ⟨ingested, rfl⟩, assetRefs, between, assets, mainRefs, after, main, same,
    entered⟩ := done
  obtain ⟨early, hasAssets⟩ := hasUpload_storeUploads sound assets
  obtain ⟨late, hasMain⟩ := hasUpload_storeUploads early.frame.sound main
  have hasAll : List.Forall₂ after.HasUpload (draft.mainFile?.toList ++ draft.assets)
      (mainRefs ++ assetRefs) := by
    have kept : List.Forall₂ after.HasUpload draft.assets assetRefs :=
      hasAssets.imp fun _ _ has => has.later (Refiles.of_uploaded late).shelters
    exact List.rel_append hasMain kept
  have uploaded := early.trans late
  refine ⟨after, entered, uploaded, ?_, Or.inr ⟨accepted, mainRefs ++ assetRefs, ingested, hasAll,
    ?_, ?_, ?_, ?_⟩⟩
  · rw [same, uploaded.state]
    rfl
  · rw [same]
    rfl
  · rw [same]
    rfl
  · rw [same]
    rfl
  · rw [same]
    rfl

theorem isMade_of_createTemplate {catalog : Catalog} {draft : TemplateDraft} {t : Template}
    {office later : Office} (sound : office.vault.Sound)
    (done : (createTemplate catalog draft).perform office = (.ok t, later)) :
    ∃ between, later = between.withTemplate t ∧ IsMade catalog draft office between t := by
  obtain ⟨name, deck | canvas⟩ := cases_of_createTemplate done
  · exact isMade_of_createDeck catalog sound deck
  · exact isMade_of_createCanvas sound canvas

namespace Office

theorem nodup_ids_step {step : Step} {office : Office} (sound : office.Sound)
    (distinct : (office.ledger.templates.map Template.id).Nodup) :
    ((step.run office).ledger.templates.map Template.id).Nodup := by
  cases step with
  | change circumstances => exact distinct
  | operation op =>
      change ((op.work.after office).ledger.templates.map Template.id).Nodup
      have reshapes := op.reshapes sound
      generalize op.work.after office = later at reshapes
      cases reshapes with
      | none op later templates =>
          rw [templates]
          exact distinct
      | maps other id proposed template mapping found checked later templates =>
          have sameIds : (office.ledger.putTemplate { template with
              mapping := mergeMapping template.placeholders template.mapping mapping }).templates.map
                Template.id = office.ledger.templates.map Template.id := by
            unfold Ledger.putTemplate
            rw [List.map_map]
            refine List.map_congr_left fun old _ => ?_
            simp only [Function.comp_apply]
            split
            · next same => exact same.symm
            · rfl
          rw [templates, sameIds]
          exact distinct
      | makes catalog draft made between later uploaded done entered new =>
          obtain ⟨_, -, isMade⟩ := isMade_of_createTemplate sound.vault done
          have fresh : made.id ∉ office.ledger.templates.map Template.id := by
            intro old
            have below := Ledger.lt_nextId old
            rw [← isMade.id] at below
            exact absurd below (Int.lt_irrefl _)
          rw [entered]
          change ((between.ledger.templates ++ [made]).map Template.id).Nodup
          rw [uploaded.state, List.map_append, List.map_singleton, List.nodup_append]
          refine ⟨distinct, List.nodup_singleton _, ?_⟩
          intro id old other last same
          rw [List.mem_singleton.1 last] at same
          exact fresh (same ▸ old)
      | removes id later templates =>
          rw [templates]
          exact distinct.sublist (List.filter_sublist.map _)

/-- Every template is found under its id. -/
theorem template?_of_mem {start : Office} (fresh : start.IsFresh) {history : List Step}
    (ordinary : ∀ step ∈ history, Step.IsOrdinary step) {t : Template}
    (member : t ∈ (start.through history).ledger.templates) :
    (start.through history).ledger.template? t.id = some t := by
  have begun : (start.ledger.templates.map Template.id).Nodup := by
    rw [fresh.templates]
    exact List.nodup_nil
  have distinct := holds_through
    (P := fun office => (office.ledger.templates.map Template.id).Nodup) ordinary
    (fun _ _ _ => nodup_ids_step) fresh.sound begun
  exact find?_eq_some_of_nodup distinct member rfl

end Office

/-- A step that makes a template, the office that it leaves, and the steps before and after it. -/
structure Creation where
  before : List Step
  catalog : Catalog
  draft : TemplateDraft
  made : Template
  office : Office
  after : List Step

namespace Creation

/-- A history that makes a template in this way. -/
structure IsIn (creation : Creation) (start : Office) (history : List Step) : Prop where
  steps : history =
    creation.before ++ .operation (.createTemplate creation.catalog creation.draft) :: creation.after
  done : (createTemplate creation.catalog creation.draft).perform (start.through creation.before) =
    (.ok creation.made, creation.office)

namespace IsIn

variable {creation : Creation} {start : Office} {history : List Step}

theorem office_eq (isIn : creation.IsIn start history) :
    creation.office = Step.run (.operation (.createTemplate creation.catalog creation.draft))
      (start.through creation.before) := by
  change _ = (Operation.createTemplate creation.catalog creation.draft).work.after _
  rw [Operation.work, Work.after_bind_pure, Work.after, isIn.done]

theorem through (isIn : creation.IsIn start history) :
    start.through history = creation.office.through creation.after := by
  rw [isIn.steps, Office.through_append, isIn.office_eq]
  rfl

/-- The same template is made in a history that goes on. -/
theorem next (isIn : creation.IsIn start history) (step : Step) :
    Creation.IsIn { creation with after := creation.after ++ [step] } start (history ++ [step]) where
  steps := by
    rw [isIn.steps, List.append_assoc, List.cons_append]
  done := isIn.done

section

variable (isIn : creation.IsIn start history)
  (ordinary : ∀ step ∈ history, Step.IsOrdinary step) (sound : start.Sound)

include isIn ordinary

theorem ordinary_after : ∀ step ∈ creation.after, Step.IsOrdinary step := by
  intro step member
  rw [isIn.steps] at ordinary
  exact ordinary step (List.mem_append_right _ (List.mem_cons_of_mem _ member))

include sound

theorem sound_before : (start.through creation.before).Sound := by
  rw [isIn.steps] at ordinary
  have early : ∀ step ∈ creation.before, Step.IsOrdinary step :=
    fun step member => ordinary step (List.mem_append_left _ member)
  exact (advances_through early sound).sound

theorem sound_office : creation.office.Sound := by
  have before := isIn.sound_before ordinary sound
  rw [isIn.office_eq]
  exact (advances_operation _ before).sound

theorem isMade : ∃ between, creation.office = between.withTemplate creation.made ∧
    IsMade creation.catalog creation.draft (start.through creation.before) between creation.made :=
  isMade_of_createTemplate (isIn.sound_before ordinary sound).vault isIn.done

end

end IsIn

end Creation

end Issuance
