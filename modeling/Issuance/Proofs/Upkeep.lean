import Issuance.Proofs.Canvas.Reading
import Issuance.Proofs.Template.Changes
import Issuance.Proofs.Template.Mappings
/-!
The upkeep of templates. Through every history with the standard fields the file of a deck, as long
as it is there, is the one whose placeholders were taken down when it was uploaded, and what a
template asks for is mapped to standard fields only.
-/

namespace Issuance

/-- The folders of all uploads so far are different. -/
def Office.HasDistinctFolders (office : Office) : Prop :=
  Set.InjOn uploadFolder (Set.Icc 1 office.uploads)

/-- A template that is still as it was taken in: any file at the place of a deck has the noted
placeholders, which are mapped to standard fields, and a canvas names standard fields itself. -/
inductive Template.IsIntact (office : Office) (t : Template) : Prop
  | deck (ref store fileName : String) (number : Nat) (kind : t.kind = TemplateKind.deck.word)
      (contentRef : t.contentRef = some ref) (counted : number ∈ Set.Icc 1 office.uploads)
      (located : office.vault.location? ref = some (store, uploadPath number fileName))
      (ingested : ∀ content,
        office.vault.fileAt store (uploadPath number fileName) = some content →
          ∃ found, content.deck? = some found ∧ t.placeholders = found.placeholders)
      (mapped : t.mapping.IsWithin .standard) : IsIntact office t
  | canvas (spec : Canvas.Spec) (kind : t.kind = TemplateKind.canvas.word)
      (placeholders : t.placeholders = []) (mapping : t.mapping = [])
      (canvas : t.canvas = spec.toJson)
      (known : ∀ key ∈ spec.referencedFields, Catalog.standard.contains key = true) :
      IsIntact office t

namespace Office

def IsIntact (office : Office) : Prop := ∀ t ∈ office.ledger.templates, t.IsIntact office

/-- Nothing has been put in the place of an earlier upload. -/
structure Spares (office later : Office) : Prop where
  more : office.uploads ≤ later.uploads
  located : ∀ ref, later.vault.location? ref = office.vault.location? ref
  files : ∀ store fileName, ∀ number ∈ Set.Icc 1 office.uploads,
    later.vault.fileAt store (uploadPath number fileName) =
        office.vault.fileAt store (uploadPath number fileName) ∨
      later.vault.fileAt store (uploadPath number fileName) = none

namespace Spares

theorem of_eq {office later : Office} (uploads : later.uploads = office.uploads)
    (vault : later.vault = office.vault) : Spares office later where
  more := Nat.le_of_eq uploads.symm
  located := fun _ => by rw [vault]
  files := fun _ _ _ _ => Or.inl (by rw [vault])

theorem of_frame {office later : Office} {touched : String → Storage.Path → Prop}
    (uploads : later.uploads = office.uploads)
    (frame : Storage.Vault.Frame touched office.vault later.vault)
    (apart : ∀ store number fileName, ¬touched store (uploadPath number fileName)) :
    Spares office later where
  more := Nat.le_of_eq uploads.symm
  located := frame.located
  files := fun store fileName number _ =>
    Or.inl (frame.files store _ (apart store number fileName))

theorem trans {first second third : Office} (early : Spares first second)
    (late : Spares second third) : Spares first third where
  more := Nat.le_trans early.more late.more
  located := fun ref => (late.located ref).trans (early.located ref)
  files := by
    intro store fileName number counted
    rcases late.files store fileName number ⟨counted.1, Nat.le_trans counted.2 early.more⟩
      with same | gone
    · rw [same]
      exact early.files store fileName number counted
    · exact Or.inr gone

end Spares

theorem HasDistinctFolders.of_le {office later : Office} (distinct : later.HasDistinctFolders)
    (fewer : office.uploads ≤ later.uploads) : office.HasDistinctFolders :=
  Set.InjOn.mono (Set.Icc_subset_Icc_right fewer) distinct

/-- New uploads go to other places than earlier ones. -/
theorem HasDistinctFolders.uploadPath_ne {office later : Office}
    (distinct : later.HasDistinctFolders) {number other : Nat}
    (counted : number ∈ Set.Icc 1 office.uploads) (above : office.uploads < other)
    (below : other ≤ later.uploads) (fileName otherName : String) :
    uploadPath number fileName ≠ uploadPath other otherName := by
  intro same
  have folder : uploadFolder number = uploadFolder other := by
    unfold uploadFolder
    rw [(List.cons.inj (List.cons.inj same).2).1]
  have early := counted.2
  have equal := distinct ⟨counted.1, by omega⟩ ⟨by omega, below⟩ folder
  omega

namespace Refiles

/-- A step with new uploads in folders of their own does not touch earlier ones. -/
theorem apart {office later : Office} {touched : String → Storage.Path → Prop}
    (places : ∀ store path, touched store path → path.head? ≠ some "templates" ∨
      ∃ number fileName, office.uploads < number ∧ number ≤ later.uploads ∧
        path = uploadPath number fileName)
    (distinct : later.HasDistinctFolders) {number : Nat}
    (counted : number ∈ Set.Icc 1 office.uploads) (store fileName : String) :
    ¬touched store (uploadPath number fileName) := by
  intro hit
  rcases places store _ hit with elsewhere | ⟨other, otherName, above, below, same⟩
  · exact elsewhere rfl
  · exact distinct.uploadPath_ne counted above below fileName otherName same

theorem spares {office later : Office} (refiles : Refiles office later)
    (distinct : later.HasDistinctFolders) : Spares office later where
  more := refiles.more
  located := refiles.located
  files := by
    intro store fileName number counted
    cases refiles with
    | puts touched more frame places =>
        exact Or.inl (frame.files store _ (apart places distinct counted store fileName))
    | clears gone uploads frame fewer clear => exact fewer store _

end Refiles

/-- What is certain of all steps: there are no fewer uploads, and if their folders are different,
the templates stay intact. -/
structure Upholds (office later : Office) : Prop where
  more : office.uploads ≤ later.uploads
  intact : later.HasDistinctFolders → office.IsIntact → later.IsIntact

namespace Upholds

theorem refl (office : Office) : Upholds office office := ⟨Nat.le_refl _, fun _ intact => intact⟩

theorem trans {first second third : Office} (early : Upholds first second)
    (late : Upholds second third) : Upholds first third where
  more := Nat.le_trans early.more late.more
  intact := fun distinct intact =>
    late.intact distinct (early.intact (distinct.of_le late.more) intact)

end Upholds
end Office

open Office

theorem Template.IsIntact.of_spares {office later : Office} {t : Template}
    (intact : t.IsIntact office) (spares : Spares office later) : t.IsIntact later := by
  cases intact with
  | deck ref store fileName number kind contentRef counted located ingested mapped =>
      refine .deck ref store fileName number kind contentRef
        ⟨counted.1, Nat.le_trans counted.2 spares.more⟩ ((spares.located ref).trans located) ?_
        mapped
      intro content there
      rcases spares.files store fileName number counted with same | gone
      · exact ingested content (same.symm.trans there)
      · rw [gone] at there
        cases there
  | canvas spec kind placeholders mapping canvas known =>
      exact .canvas spec kind placeholders mapping canvas known

theorem Template.IsIntact.withMapping {office : Office} {t : Template} (intact : t.IsIntact office)
    {proposed : Json} {mapping : Mapping}
    (checked : checkMapping .standard t.placeholders proposed = .ok mapping) :
    Template.IsIntact office
      { t with mapping := mergeMapping t.placeholders t.mapping mapping } := by
  obtain ⟨placed, within⟩ := checkMapping_cases checked
  cases intact with
  | deck ref store fileName number kind contentRef counted located ingested mapped =>
      exact .deck ref store fileName number kind contentRef counted located ingested
        (isWithin_mergeMapping t.placeholders mapped within)
  | canvas spec kind placeholders unmapped canvas known =>
      -- a canvas has no placeholders, so that nothing can be mapped in it
      rw [placeholders] at placed
      have none : mapping = [] := List.map_eq_nil_iff.1 (List.subset_nil.1 placed)
      refine .canvas spec kind placeholders ?_ canvas known
      rw [placeholders, unmapped, none]
      rfl

theorem IsNew.isIntact {office : Office} (sound : office.vault.Sound) {t : Template}
    (new : IsNew .standard office t) : t.IsIntact office := by
  cases new with
  | deck ref store fileName number content found kind contentRef placeholders mapping isDeck
      counted located there =>
      refine .deck ref store fileName number kind contentRef counted located ?_ ?_
      · intro other present
        obtain ⟨store', path, place, read⟩ := (Storage.Vault.read_eq_ok_iff sound).1 there
        rw [located] at place
        obtain ⟨rfl, rfl⟩ := Prod.mk.inj (Option.some.inj place)
        rw [Storage.Vault.fileAt_of_readAt read] at present
        cases present
        exact ⟨found, isDeck, placeholders⟩
      · rw [mapping]
        exact Mapping.isWithin_unmapped _
  | canvas spec kind placeholders mapping canvas known =>
      exact .canvas spec kind placeholders mapping canvas known

namespace Office

/-- What the turns of a batch leave as it was. -/
structure Continues (office later : Office) : Prop where
  templates : later.ledger.templates = office.ledger.templates
  spares : Spares office later
  disturbances : ∀ entry ∈ later.disturbances, entry ∈ office.disturbances

theorem Continues.refl (office : Office) : Continues office office :=
  ⟨rfl, .of_eq rfl rfl, fun _ member => member⟩

theorem Continues.trans {first second third : Office} (early : Continues first second)
    (late : Continues second third) : Continues first third where
  templates := late.templates.trans early.templates
  spares := early.spares.trans late.spares
  disturbances := fun entry member => early.disturbances entry (late.disturbances entry member)

theorem continues_of_completed {commission : Batch.Commission} {candidate : Batch.Candidate}
    {office later : Office} {outcome : Batch.Outcome}
    (completed : Batch.Completed commission candidate office outcome later) :
    Continues office later := by
  cases completed with
  | issued codes artifact place supply vault disturbances generated free fresh drawing received
      fewer =>
      refine ⟨rfl, .of_frame rfl received.frame ?_, fewer⟩
      rintro store number fileName ⟨-, same⟩
      -- certificates and templates lie below different folders
      exact absurd (List.cons.inj same).1 (by decide)
  | setback failure progress supply vault disturbances cause refused fewer =>
      refine ⟨rfl, .of_frame rfl refused.frame ?_, fewer⟩
      exact fun _ _ _ impossible => impossible

theorem continues_turns (commission : Batch.Commission) (serial : Int)
    (participants : List Registration) {office : Office} (sound : office.Sound) :
    (∀ turn ∈ Batch.turns commission serial participants office, Continues office turn.office) ∧
      Continues office (Batch.issueAll commission serial participants office).2 := by
  induction participants generalizing serial office with
  | nil => exact ⟨fun _ none => absurd none List.not_mem_nil, Continues.refl office⟩
  | cons registration rest ih =>
      have completed : Batch.Completed commission ⟨registration, serial⟩ office _ _ :=
        Batch.Attempt.completed_complete sound
      have first := continues_of_completed completed
      obtain ⟨others, last⟩ := ih
        (if (Batch.Attempt.complete commission ⟨registration, serial⟩ office).1.isAlreadyIssued
          then serial else serial + 1) (completed.sound sound)
      refine ⟨?_, first.trans last⟩
      intro turn member
      rcases List.mem_cons.1 member with rfl | later
      · exact Continues.refl office
      · exact first.trans (others turn later)

end Office

/-- Whether an operation takes in and maps templates with the standard fields. -/
def Operation.IsStandard : Operation → Prop
  | .createTemplate catalog _ => catalog = .standard
  | .setMapping catalog _ _ => catalog = .standard
  | _ => True

/-- Whether a step keeps to the standard fields. -/
def Step.IsStandard : Step → Prop
  | .operation op => op.IsStandard
  | .change _ => True

namespace Office

theorem isIntact_operation {op : Operation} (standard : op.IsStandard) {office : Office}
    (sound : office.Sound) (spares : Spares office (op.work.after office))
    (intact : office.IsIntact) : (op.work.after office).IsIntact := by
  have kept : ∀ t ∈ office.ledger.templates, t.IsIntact (op.work.after office) :=
    fun t member => (intact t member).of_spares spares
  refine (op.reshapes sound).forall_templates ?_ ?_ kept
  · rintro catalog id proposed t mapping rfl checked known
    cases standard
    exact known.withMapping checked
  · rintro catalog draft between t rfl uploaded entered new
    cases standard
    rw [entered]
    exact (new.isIntact uploaded.frame.sound).of_spares (.of_eq rfl rfl)

theorem upholds_step {step : Step} (standard : step.IsStandard) {office : Office}
    (sound : office.Sound) : Upholds office (step.run office) where
  more := (refiles_step step sound).more
  intact := by
    intro distinct intact
    have spares := (refiles_step step sound).spares distinct
    cases step with
    | operation op => exact isIntact_operation standard sound spares intact
    | change circumstances => exact fun t member => (intact t member).of_spares spares

theorem upholds_through {history : List Step} (ordinary : ∀ step ∈ history, Step.IsOrdinary step)
    (standard : ∀ step ∈ history, Step.IsStandard step) {office : Office} (sound : office.Sound) :
    Upholds office (office.through history) := by
  refine holds_through (P := Upholds office) ordinary ?_ sound (Upholds.refl office)
  intro step member current sound upheld
  exact upheld.trans (upholds_step (standard step member) sound)

/-- Through every history with the standard fields, the templates stay as they were taken in. -/
theorem isIntact_through {start : Office} (fresh : start.IsFresh) {history : List Step}
    (ordinary : ∀ step ∈ history, Step.IsOrdinary step)
    (standard : ∀ step ∈ history, Step.IsStandard step)
    (distinct : (start.through history).HasDistinctFolders) :
    (start.through history).IsIntact := by
  have begun : start.IsIntact := by
    unfold IsIntact
    rw [fresh.templates]
    exact fun _ none => absurd none List.not_mem_nil
  exact (upholds_through ordinary standard fresh.sound).intact distinct begun

end Office
end Issuance
