import Issuance.Proofs.Template.Canvases
/-!
What the making of a template leaves in the stores. Files are stored one after the other, each at a
place of its own, and no other file is changed. A template that is made refers to the files that
were stored for it, as far as it names them.
-/

namespace Issuance

/-- The files of a canvas, in the order in which they are stored. -/
def TemplateDraft.uploads (draft : TemplateDraft) : List (String × Content) :=
  draft.assets ++ draft.mainFile?.toList

/-- A file with the reference that leads to its place in a new folder. -/
structure IsStoredAs (office later : Office) (file : String × Content) (entry : String × String) :
    Prop where
  name : entry.1 = file.1
  filled : entry.2 ≠ ""
  place : ∃ store, ∃ number ∈ Set.Ioc office.uploads later.uploads,
    later.vault.location? entry.2 = some (store, uploadPath number file.1)
  there : later.HasDistinctFolders → later.vault.read entry.2 = .ok file.2

/-- Files have been stored, and no other file has been added, changed or taken away. -/
structure Stores (files : List (String × Content)) (refs : List (String × String))
    (office later : Office) : Prop where
  uploaded : Uploaded office later
  entries : List.Forall₂ (IsStoredAs office later) files refs
  written : ∀ store path, later.vault.fileAt store path = office.vault.fileAt store path ∨
    ∃ file entry, (file, entry) ∈ files.zip refs ∧
      later.vault.location? entry.2 = some (store, path) ∧
      later.vault.fileAt store path = some file.2

namespace IsStoredAs

variable {first second third : Office} {file : String × Content} {entry : String × String}

/-- Later uploads go to other places. -/
theorem later (stored : IsStoredAs first second file entry) (sound : second.vault.Sound)
    (more : Uploaded second third) : IsStoredAs first third file entry where
  name := stored.name
  filled := stored.filled
  place := by
    obtain ⟨store, number, counted, located⟩ := stored.place
    exact ⟨store, number, ⟨counted.1, Nat.le_trans counted.2 more.more⟩,
      (more.frame.located _).trans located⟩
  there := by
    intro distinct
    obtain ⟨store, number, counted, located⟩ := stored.place
    refine more.frame.read sound (stored.there (distinct.of_le more.more)) ?_
    rintro store' path here ⟨other, otherName, above, below, same⟩
    rw [located] at here
    cases here
    have early : number ∈ Set.Icc 1 second.uploads :=
      ⟨Nat.lt_of_le_of_lt (Nat.zero_le _) counted.1, counted.2⟩
    exact distinct.uploadPath_ne early above below file.1 otherName same

theorem earlier (stored : IsStoredAs second third file entry) (more : Uploaded first second) :
    IsStoredAs first third file entry where
  name := stored.name
  filled := stored.filled
  place := by
    obtain ⟨store, number, counted, located⟩ := stored.place
    exact ⟨store, number, ⟨Nat.lt_of_le_of_lt more.more counted.1, counted.2⟩, located⟩
  there := stored.there

end IsStoredAs

namespace Stores

variable {files more : List (String × Content)} {refs others : List (String × String)}
  {first second third : Office}

theorem ledger (stores : Stores files refs first second) : second.ledger = first.ledger := by
  rw [stores.uploaded.state]

/-- Where no file is different, nothing has been stored. -/
theorem nothing (uploaded : Uploaded first second)
    (same : ∀ store path, second.vault.fileAt store path = first.vault.fileAt store path) :
    Stores [] [] first second :=
  ⟨uploaded, .nil, fun store path => Or.inl (same store path)⟩

theorem append (early : Stores files refs first second) (late : Stores more others second third) :
    Stores (files ++ more) (refs ++ others) first third where
  uploaded := early.uploaded.trans late.uploaded
  entries := by
    refine List.rel_append ?_ ?_
    · exact early.entries.imp fun _ _ stored =>
        stored.later early.uploaded.frame.sound late.uploaded
    · exact late.entries.imp fun _ _ stored => stored.earlier early.uploaded
  written := by
    intro store path
    rw [List.zip_append early.entries.length_eq]
    rcases late.written store path with same | ⟨file, entry, member, located, here⟩
    · rcases early.written store path with unchanged | ⟨file, entry, member, located, here⟩
      · exact Or.inl (same.trans unchanged)
      · exact Or.inr ⟨file, entry, List.mem_append_left _ member,
          (late.uploaded.frame.located _).trans located, same.trans here⟩
    · exact Or.inr ⟨file, entry, List.mem_append_right _ member, located, here⟩

end Stores

/-- Some of the files have been stored, and then one of them could not be. -/
def BreaksOff (files : List (String × Content)) (office later : Office) (failure : Failure) :
    Prop :=
  ∃ front file back refs detail, files = front ++ file :: back ∧
    failure = .error (.storageUnavailable .upload detail) ∧ Stores front refs office later

theorem BreaksOff.ledger {files : List (String × Content)} {office later : Office}
    {failure : Failure} (breaks : BreaksOff files office later failure) :
    later.ledger = office.ledger := by
  obtain ⟨_, _, _, _, _, -, -, stores⟩ := breaks
  exact stores.ledger

theorem BreaksOff.append {files : List (String × Content)} {office later : Office}
    {failure : Failure} (breaks : BreaksOff files office later failure)
    (more : List (String × Content)) : BreaksOff (files ++ more) office later failure := by
  obtain ⟨front, file, back, refs, detail, rfl, reported, stores⟩ := breaks
  refine ⟨front, file, back ++ more, refs, detail, ?_, reported, stores⟩
  rw [List.append_assoc, List.cons_append]

theorem BreaksOff.prepend {files early : List (String × Content)} {refs : List (String × String)}
    {office between later : Office} {failure : Failure} (stores : Stores early refs office between)
    (breaks : BreaksOff files between later failure) :
    BreaksOff (early ++ files) office later failure := by
  obtain ⟨front, file, back, others, detail, rfl, reported, further⟩ := breaks
  refine ⟨early ++ front, file, back, refs ++ others, detail, ?_, reported, stores.append further⟩
  rw [List.append_assoc]

/-- An upload is refused and changes no file, or it is stored. -/
theorem stores_storeUpload_cases (fileName : String) (content : Content) {office : Office}
    (sound : office.vault.Sound) :
    (∃ detail later, (storeUpload fileName content).perform office =
          (.error (.error (.storageUnavailable .upload detail)), later) ∧
        Stores [] [] office later) ∨
      ∃ ref later, (storeUpload fileName content).perform office = (.ok ref, later) ∧
        Stores [(fileName, content)] [(fileName, ref)] office later := by
  have plain := isPlainPath_uploadPath (office.uploads + 1) fileName
  rcases perform_storeUpload_cases fileName content sound with
    ⟨fault, vault, failed, refused⟩ | ⟨stored, vault, done, received⟩
  · refine Or.inl ⟨fault.detail, _, failed, .nothing ⟨rfl, Nat.le_succ _, ?_, refused.locked⟩ ?_⟩
    · exact refused.frame.mono fun _ _ impossible => impossible.elim
    · exact fun store path => refused.frame.files store path id
  · have located : vault.location? stored.ref.text = _ :=
      (received.frame.located _).trans (received.location? sound plain)
    refine Or.inr ⟨_, _, done, ⟨rfl, Nat.le_succ _, ?_, received.locked⟩, ?_, ?_⟩
    · refine received.frame.mono ?_
      rintro store path ⟨-, rfl⟩
      exact ⟨office.uploads + 1, fileName, Nat.lt_succ_self _, Nat.le_refl _, rfl⟩
    · refine .cons ⟨rfl, ne_empty_of_text, ?_, fun _ => received.read sound plain⟩ .nil
      exact ⟨_, office.uploads + 1, ⟨Nat.lt_succ_self _, Nat.le_refl _⟩, located⟩
    · intro store path
      by_cases here : store = stored.ref.store ∧ path = uploadPath (office.uploads + 1) fileName
      · obtain ⟨rfl, rfl⟩ := here
        exact Or.inr ⟨_, _, List.mem_singleton_self _, located,
          Storage.Vault.fileAt_of_readAt received.there⟩
      · exact Or.inl (received.frame.files store path here)

/-- A file with a name that is too long is never stored. -/
theorem unstored_of_isTooLong {fileName : String} (content : Content) {office : Office}
    (sound : office.vault.Sound) (long : Storage.Volume.isTooLong (storedName fileName) = true) :
    ∃ detail later, (storeUpload fileName content).perform office =
          (.error (.error (.storageUnavailable .upload detail)), later) ∧
        Stores [] [] office later := by
  rcases stores_storeUpload_cases fileName content sound with refused | ⟨ref, later, done, -⟩
  · exact refused
  · obtain ⟨after, uploaded, ⟨failure, failed⟩ | ⟨other, store, number, -, -, located, there, -⟩⟩ :=
      storeUpload_cases fileName content sound
    · rw [failed] at done
      cases done
    · obtain ⟨store', path, place, here⟩ :=
        (Storage.Vault.read_eq_ok_iff uploaded.frame.sound).1 there
      rw [located] at place
      cases place
      obtain ⟨v, -, clear⟩ := Storage.Vault.isClear_of_readAt here
      have short := clear.short
      simp only [uploadPath, List.getLast?_cons_cons, List.getLast?_singleton, Option.map_some,
        Option.getD_some, long, Bool.true_eq_false] at short

/-- Files are stored one after the other, until one of them cannot be. -/
theorem stores_storeUploads_cases (files : List (String × Content)) {office : Office}
    (sound : office.vault.Sound) :
    (∃ failure later, (storeUploads files).perform office = (.error failure, later) ∧
        BreaksOff files office later failure) ∨
      ∃ refs later, (storeUploads files).perform office = (.ok refs, later) ∧
        Stores files refs office later := by
  induction files generalizing office with
  | nil => exact Or.inr ⟨[], office, rfl, .nothing (Uploaded.refl sound) fun _ _ => rfl⟩
  | cons file rest ih =>
      obtain ⟨name, content⟩ := file
      rcases stores_storeUpload_cases name content sound with
        ⟨detail, later, failed, stores⟩ | ⟨ref, between, done, stores⟩
      · refine Or.inl ⟨_, later, ?_, [], (name, content), rest, [], detail, rfl, rfl, stores⟩
        rw [storeUploads, Work.perform_bind_of_error failed]
      · rcases ih stores.uploaded.frame.sound with
          ⟨failure, later, failed, breaks⟩ | ⟨refs, later, performed, others⟩
        · refine Or.inl ⟨failure, later, ?_, breaks.prepend stores⟩
          rw [storeUploads, Work.perform_bind_of_ok done, Work.perform_bind_of_error failed]
        · refine Or.inr ⟨(name, ref) :: refs, later, ?_, stores.append others⟩
          rw [storeUploads, Work.perform_bind_of_ok done, Work.perform_bind_of_ok performed]
          rfl

namespace Canvas.Spec

theorem refs_withAssets (spec : Spec) (assets : List (String × String)) :
    (spec.withAssets assets).refs =
      spec.refs.map fun name => (Assoc.get? name assets).getD name := by
  have pictures : (spec.withAssets assets).pictures =
      spec.pictures.map fun name => (Assoc.get? name assets).getD name := by
    change (spec.elements.map (Element.withAssets assets)).filterMap _ = _
    unfold Spec.pictures
    rw [List.filterMap_map, List.map_filterMap]
    refine List.filterMap_congr fun e _ => ?_
    cases e <;> rfl
  have background : (spec.withAssets assets).background =
      spec.background.map fun name => (Assoc.get? name assets).getD name := rfl
  unfold refs
  rw [pictures, background, List.map_append, Option.toList_map]

theorem IsAcceptable.ne_empty_of_mem_refs {spec : Spec} (acceptable : spec.IsAcceptable)
    {ref : String} (member : ref ∈ spec.refs) : ref ≠ "" := by
  rcases mem_refs.1 member with background | ⟨e, among, rfl⟩
  · rintro rfl
    exact acceptable.background background
  · exact (acceptable.elements _ among).2.2

end Canvas.Spec

theorem Template.refs_of_canvas {t : Template} {spec : Canvas.Spec}
    {assets : List (String × String)} (acceptable : spec.IsAcceptable)
    (filled : ∀ entry ∈ assets, entry.2 ≠ "") (noFile : t.contentRef = none)
    (canvas : t.canvas = (spec.withAssets assets).toJson) :
    t.refs = spec.refs.map fun name => (Assoc.get? name assets).getD name := by
  have renamed := (spec.renamed_withAssets assets).isAcceptable acceptable filled
  have all : ∀ ref ∈ (spec.withAssets assets).refs, (!ref.isEmpty) = true := by
    intro ref member
    rw [Bool.not_eq_true', String.isEmpty_eq_false_iff]
    exact renamed.ne_empty_of_mem_refs member
  unfold Template.refs Template.deckRefs
  rw [noFile, canvas, canvasRefs_toJson, List.filter_eq_self.2 all, Canvas.Spec.refs_withAssets]
  rfl

theorem Template.refs_of_deck {t : Template} {ref : String} (contentRef : t.contentRef = some ref)
    (filled : ref ≠ "") (canvas : t.canvas = .null) : t.refs = [ref] := by
  unfold Template.refs Template.deckRefs
  rw [contentRef, canvas]
  simp only [String.isEmpty_iff, filled, if_false]
  rfl

/-- What a new template refers to: a deck to its file, and a canvas to whatever its description
names, with references in place of the names of uploads. Of a main file and an asset with the same
name, the main file is meant. -/
inductive Cites (catalog : Catalog) (draft : TemplateDraft) (t : Template) :
    List (String × Content) → List (String × String) → Prop
  | deck (content : Content) (ref : String) (kind : t.kind = TemplateKind.deck.word)
      (filed : draft.file = some content) (refs : t.refs = [ref]) :
      Cites catalog draft t [(draft.fileName.getD "", content)] [(draft.fileName.getD "", ref)]
  | canvas (accepted : Canvas.Spec) (assetRefs mainRefs : List (String × String))
      (kind : t.kind = TemplateKind.canvas.word)
      (ingested : ingestCanvas catalog draft.canvas = .ok accepted)
      (split : assetRefs.length = draft.assets.length)
      (refs : t.refs = (withMainFile accepted draft.mainFile?).refs.map fun name =>
        (Assoc.get? name (mainRefs ++ assetRefs)).getD name) :
      Cites catalog draft t draft.uploads (assetRefs ++ mainRefs)

/-- What making a template comes to, as far as the stores are concerned: nothing, a part of the
uploads, or a template that refers to them. -/
inductive Deposits (catalog : Catalog) (draft : TemplateDraft) (office : Office) :
    Except Failure Template → Office → Prop
  | refused (failure : Failure) : Deposits catalog draft office (.error failure) office
  | unstored (detail : String) (later : Office) (stores : Stores [] [] office later) :
      Deposits catalog draft office (.error (.error (.storageUnavailable .upload detail))) later
  | brokenOff (failure : Failure) (later : Office)
      (kind : draft.kind.bind TemplateKind.ofWord? = some .canvas)
      (breaks : BreaksOff draft.uploads office later failure) :
      Deposits catalog draft office (.error failure) later
  | made (t : Template) (between : Office) (files : List (String × Content))
      (refs : List (String × String)) (stores : Stores files refs office between)
      (cites : Cites catalog draft t files refs) :
      Deposits catalog draft office (.ok t) (between.withTemplate t)

section

variable (catalog : Catalog) {draft : TemplateDraft} (name : String) {office : Office}
  (sound : office.vault.Sound)

include sound

theorem deposits_createDeck :
    Deposits catalog draft office ((createDeck name draft).perform office).1
      ((createDeck name draft).perform office).2 := by
  unfold createDeck
  cases ingested : ingestDeck draft.file with
  | error e => exact .refused (.error e)
  | ok placeholders =>
      obtain ⟨content, found, filed, -⟩ := deck_of_ingestDeck ingested
      rw [Work.perform_bind_of_ok (Work.perform_ofError (.ok placeholders) office), filed,
        Option.getD_some]
      rcases stores_storeUpload_cases (draft.fileName.getD "") content sound with
        ⟨detail, later, failed, stores⟩ | ⟨ref, between, done, stores⟩
      · rw [Work.perform_bind_of_error failed]
        exact .unstored detail later stores
      · have filled : ref ≠ "" := by
          cases stores.entries with
          | cons stored _ => exact stored.filled
        rw [Work.perform_bind_of_ok done, perform_enterTemplate]
        exact .made _ between _ _ stores
          (.deck content ref rfl filed (Template.refs_of_deck rfl filled rfl))

theorem deposits_createCanvas (kind : draft.kind.bind TemplateKind.ofWord? = some .canvas) :
    Deposits catalog draft office ((createCanvas catalog name draft).perform office).1
      ((createCanvas catalog name draft).perform office).2 := by
  unfold createCanvas
  cases ingested : ingestCanvas catalog draft.canvas with
  | error failure => exact .refused failure
  | ok accepted =>
      rw [Work.perform_bind_of_ok (Work.perform_ofFailure (.ok accepted) office)]
      rcases stores_storeUploads_cases draft.assets sound with
        ⟨failure, later, failed, breaks⟩ | ⟨assetRefs, between, assets, stores⟩
      · rw [Work.perform_bind_of_error failed]
        exact .brokenOff failure later kind (breaks.append _)
      · rw [Work.perform_bind_of_ok assets]
        rcases stores_storeUploads_cases draft.mainFile?.toList stores.uploaded.frame.sound with
          ⟨failure, later, failed, breaks⟩ | ⟨mainRefs, after, main, others⟩
        · rw [Work.perform_bind_of_error failed]
          exact .brokenOff failure later kind (breaks.prepend stores)
        · rw [Work.perform_bind_of_ok main, perform_enterTemplate]
          refine .made _ after _ _ (stores.append others) (.canvas accepted assetRefs mainRefs rfl
            ingested stores.entries.length_eq.symm ?_)
          have acceptable :=
            CanvasInput.isAcceptable_of_read (read_of_ingestCanvas ingested)
          have filled : ∀ entry ∈ mainRefs ++ assetRefs, entry.2 ≠ "" := by
            intro entry member
            have either : entry ∈ assetRefs ++ mainRefs :=
              List.mem_append.2 (List.mem_append.1 member).symm
            obtain ⟨file, -, stored⟩ := exists_of_mem_right (stores.append others).entries either
            exact stored.filled
          exact Template.refs_of_canvas (Canvas.isAcceptable_withMainFile acceptable draft) filled
            rfl rfl

theorem deposits_createTemplate :
    Deposits catalog draft office ((createTemplate catalog draft).perform office).1
      ((createTemplate catalog draft).perform office).2 := by
  unfold createTemplate
  simp only
  split
  · exact .refused _
  · split
    · split
      · exact .refused _
      · exact deposits_createDeck catalog _ sound
    · next kind => exact deposits_createCanvas catalog _ sound kind
    · exact .refused _

end

namespace Launch

/-- A canvas with an asset that it shows and one that it does not name. -/
def sheet : TemplateDraft :=
  ⟨some "Sheet", some "canvas", none, none, none,
    .value (.obj [("elements", .arr [.obj [("type", .str "image"), ("x", .int 0), ("y", .int 0),
      ("width", .int 9), ("height", .int 9), ("src", .str "seal.png")]])]),
    [("seal.png", .bytes [2]), ("spare.png", .bytes [3])]⟩

/-- A canvas with an asset whose name is too long for a store. -/
def scroll : TemplateDraft :=
  { draft with
    assets := [("seal.png", .bytes [2]), (String.ofList (List.replicate 300 'n'), .bytes [3])] }

theorem isReachable_start : start.IsReachable :=
  ⟨start, [], isFresh_start, fun _ none => absurd none List.not_mem_nil, rfl⟩

theorem exists_unstored_scroll :
    ∃ detail later, (createTemplate .standard scroll).perform start =
        (.error (.error (.storageUnavailable .upload detail)), later) ∧
      (later.vault.fileAt "primary" (uploadPath 1 "seal.png")).isSome = true := by
  have first : ((storeUpload "seal.png" (.bytes [2])).perform start).1.isOk = true ∧
      (((storeUpload "seal.png" (.bytes [2])).perform start).2.vault.fileAt "primary"
        (uploadPath 1 "seal.png")).isSome = true := by
    decide +kernel
  have long : Storage.Volume.isTooLong
      (storedName (String.ofList (List.replicate 300 'n'))) = true := by
    unfold storedName Text.safeFileName
    rw [String.toList_ofList]
    decide +kernel
  have named : (Text.trim (scroll.name.getD "")).isEmpty = false := by decide +kernel
  have kind : scroll.kind.bind TemplateKind.ofWord? = some .canvas := by decide +kernel
  obtain ⟨spec, ingested⟩ : ∃ spec, ingestCanvas .standard scroll.canvas = .ok spec :=
    exists_ok_of_isOk (by decide +kernel)
  rcases stores_storeUpload_cases "seal.png" (.bytes [2]) isReachable_start.sound.vault with
    ⟨detail, between, failed, -⟩ | ⟨ref, between, done, stores⟩
  · rw [failed] at first
    cases first.1
  · rw [done] at first
    obtain ⟨detail, later, failed, others⟩ :=
      unstored_of_isTooLong (.bytes [3]) stores.uploaded.frame.sound long
    have storing : (storeUploads scroll.assets).perform start =
        (.error (.error (.storageUnavailable .upload detail)), later) := by
      change (storeUploads [("seal.png", _), (String.ofList (List.replicate 300 'n'), _)]).perform
        start = _
      rw [storeUploads, Work.perform_bind_of_ok done, storeUploads,
        Work.perform_bind_of_error (Work.perform_bind_of_error failed _)]
    refine ⟨detail, later, ?_, ?_⟩
    · unfold createTemplate
      simp only [named, kind, Bool.false_eq_true, if_false]
      unfold createCanvas
      rw [ingested, Work.perform_bind_of_ok (Work.perform_ofFailure (.ok spec) start)]
      exact Work.perform_bind_of_error storing _
    · rcases others.written "primary" (uploadPath 1 "seal.png") with same | ⟨_, _, none, -⟩
      · rw [same]
        exact first.2
      · cases none

theorem exists_made_sheet :
    ∃ t later, (createTemplate .standard sheet).perform start = (.ok t, later) ∧
      t.refs.map later.vault.location? = [some ("primary", uploadPath 1 "seal.png")] ∧
      (later.vault.fileAt "primary" (uploadPath 2 "spare.png")).isSome = true := by
  have made : (((createTemplate .standard sheet).perform start).1.toOption.map fun t =>
      t.refs.map ((createTemplate .standard sheet).perform start).2.vault.location?) =
        some [some ("primary", uploadPath 1 "seal.png")] ∧
      (((createTemplate .standard sheet).perform start).2.vault.fileAt "primary"
        (uploadPath 2 "spare.png")).isSome = true := by
    decide +kernel
  generalize (createTemplate .standard sheet).perform start = performed at made
  obtain ⟨result, later⟩ := performed
  cases result with
  | error failure => cases made.1
  | ok t => exact ⟨t, later, rfl, Option.some.inj made.1, made.2⟩

end Launch

end Issuance
