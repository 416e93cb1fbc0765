import Mathlib
import Issuance.Template.Upload
import Issuance.Proofs.Canvas.Assets
import Issuance.Proofs.Storage.Vaults
import Issuance.Proofs.Work
/-!
Uploads and the making of templates: every upload goes to a folder of its own below the templates,
and a new template is made from what was just taken in and stored.
-/

namespace Issuance

namespace Text

theorem isSafe_of_mem_safeFileName {name : String} {c : Char}
    (inside : c ∈ (safeFileName name).toList) : isSafe c = true := by
  unfold safeFileName stripChars at inside
  rw [String.toList_ofList, List.mem_reverse] at inside
  have kept := List.mem_reverse.1 ((List.dropWhile_sublist _).subset inside)
  exact (List.mem_filter.1 ((List.dropWhile_sublist _).subset kept)).2

theorem exists_ne_dot_of_safeFileName {name : String} (filled : (safeFileName name).isEmpty = false) :
    ∃ c ∈ (safeFileName name).toList, c ≠ '.' := by
  obtain ⟨cs, stripped⟩ : ∃ cs : List Char, safeFileName name =
      String.ofList (cs.dropWhile fun c => decide (c = '.') || decide (c = '_')).reverse :=
    ⟨_, rfl⟩
  rw [stripped] at filled ⊢
  cases ends : cs.dropWhile fun c => decide (c = '.') || decide (c = '_') with
  | nil =>
      rw [ends] at filled
      cases filled
  | cons c rest =>
      have last := List.head?_dropWhile_not (fun c => decide (c = '.') || decide (c = '_')) cs
      rw [ends] at last
      refine ⟨c, ?_, ?_⟩
      · rw [String.toList_ofList, List.mem_reverse]
        exact List.mem_cons_self
      · rintro rfl
        cases last

theorem mem_hexDigits {width n : Nat} {c : Char} (inside : c ∈ hexDigits width n) :
    c ≠ '/' ∧ c ≠ '.' := by
  induction width generalizing n with
  | zero => cases inside
  | succ width ih =>
      rcases List.mem_append.1 inside with earlier | last
      · exact ih earlier
      · have digits : ∀ k < 16, Nat.digitChar k ≠ '/' ∧ Nat.digitChar k ≠ '.' := by decide
        rw [List.mem_singleton.1 last]
        exact digits (n % 16) (Nat.mod_lt n (by decide))

end Text

/-- The name under which an upload is stored in its folder. -/
def storedName (fileName : String) : String :=
  if (Text.safeFileName fileName).isEmpty then "upload" else Text.safeFileName fileName

/-- The place of an upload below the root of its store. -/
def uploadPath (number : Nat) (fileName : String) : Storage.Path :=
  ["templates", String.ofList (Text.hexDigits 32 number), storedName fileName]

theorem keyOf_uploadPath (number : Nat) (fileName : String) :
    uploadFolder number ++ "/" ++ storedName fileName =
      Storage.keyOf (uploadPath number fileName) := by
  have root : "templates/" = "templates" ++ "/" := by decide
  have single : ∀ name : String, Storage.keyOf [name] = name :=
    fun _ => String.intercalate_singleton
  unfold uploadFolder uploadPath
  generalize String.ofList (Text.hexDigits 32 number) = folder
  generalize storedName fileName = name
  rw [Storage.keyOf_cons_cons, Storage.keyOf_cons_cons, single, root]
  simp only [String.append_assoc]

private theorem isPlain_folder (number : Nat) :
    Storage.IsPlain (String.ofList (Text.hexDigits 32 number)) := by
  have last : Nat.digitChar (number % 16) ∈ Text.hexDigits 32 number :=
    List.mem_append_right _ List.mem_cons_self
  refine Storage.isPlain_of_mem (c := Nat.digitChar (number % 16)) ?_ (Text.mem_hexDigits last).2 ?_
  · rw [String.toList_ofList]
    exact last
  · rw [String.toList_ofList]
    exact fun inside => (Text.mem_hexDigits inside).1 rfl

private theorem isPlain_storedName (fileName : String) : Storage.IsPlain (storedName fileName) := by
  unfold storedName
  split
  · exact Storage.isPlain_of_mem (c := 'u') (by decide) (by decide) (by decide)
  · next filled =>
      obtain ⟨c, inside, notDot⟩ :=
        Text.exists_ne_dot_of_safeFileName (eq_false_of_ne_true filled)
      refine Storage.isPlain_of_mem inside notDot ?_
      intro slash
      cases Text.isSafe_of_mem_safeFileName slash

private theorem isPlainPath_below_templates {folder name : String} (first : Storage.IsPlain folder)
    (second : Storage.IsPlain name) : Storage.IsPlainPath ["templates", folder, name] where
  nonempty := List.cons_ne_nil _ _
  plain := by
    intro part member
    simp only [List.mem_cons, List.not_mem_nil, or_false] at member
    rcases member with rfl | rfl | rfl
    · exact Storage.isPlain_of_mem (c := 't') (by decide) (by decide) (by decide)
    · exact first
    · exact second

theorem isPlainPath_uploadPath (number : Nat) (fileName : String) :
    Storage.IsPlainPath (uploadPath number fileName) :=
  isPlainPath_below_templates (isPlain_folder number) (isPlain_storedName fileName)

/-- A reference as uploads get it. -/
def IsUploadRef (ref : String) : Prop :=
  ∃ store number fileName, Storage.IsStoreName store ∧
    ref = Storage.Reference.text ⟨store, Storage.keyOf (uploadPath number fileName)⟩

/-- What storing uploads may have done: later uploads have later numbers, and only their places
have been touched. -/
structure Uploaded (office later : Office) : Prop where
  state : later = { office with uploads := later.uploads, vault := later.vault }
  more : office.uploads ≤ later.uploads
  frame : Storage.Vault.Frame
    (fun _ path => ∃ number fileName, office.uploads < number ∧ number ≤ later.uploads ∧
      path = uploadPath number fileName) office.vault later.vault
  locked : later.vault.locked = office.vault.locked

namespace Uploaded

theorem refl {office : Office} (sound : office.vault.Sound) : Uploaded office office :=
  ⟨rfl, Nat.le_refl _, Storage.Vault.Frame.refl sound, rfl⟩

theorem trans {first second third : Office} (early : Uploaded first second)
    (late : Uploaded second third) : Uploaded first third where
  state := by
    rw [late.state, early.state]
  more := Nat.le_trans early.more late.more
  frame := by
    refine (early.frame.mono ?_).trans (late.frame.mono ?_)
    · rintro store path ⟨number, fileName, above, below, here⟩
      exact ⟨number, fileName, above, Nat.le_trans below late.more, here⟩
    · rintro store path ⟨number, fileName, above, below, here⟩
      exact ⟨number, fileName, Nat.lt_of_le_of_lt early.more above, below, here⟩
  locked := late.locked.trans early.locked

end Uploaded

/-- What storing an upload comes to: its number is used up, and the vault has refused or received
the file. -/
theorem perform_storeUpload_cases (fileName : String) (content : Content) {office : Office}
    (sound : office.vault.Sound) :
    (∃ fault vault, (storeUpload fileName content).perform office =
          (.error (.error (.storageUnavailable .upload (IoFault.detail fault))),
            { office with uploads := office.uploads + 1, vault }) ∧
        Storage.Vault.Refused office.vault vault) ∨
      ∃ stored vault, (storeUpload fileName content).perform office =
          (.ok stored.ref.text, { office with uploads := office.uploads + 1, vault }) ∧
        Storage.Vault.Received office.vault vault (uploadPath (office.uploads + 1) fileName) content
          stored := by
  have plain := isPlainPath_uploadPath (office.uploads + 1) fileName
  unfold storeUpload
  rw [Work.perform_bind, Work.perform_get]
  simp only [Work.perform_bind, Work.perform_set, Work.perform_store]
  have spelled := keyOf_uploadPath (office.uploads + 1) fileName
  unfold storedName at spelled
  rw [spelled]
  rcases Storage.Vault.put_cases sound plain content with
    ⟨fault, vault, refusal, refused⟩ | ⟨stored, vault, done, received⟩
  · rw [refusal]
    exact Or.inl ⟨fault, vault, rfl, refused⟩
  · rw [done]
    exact Or.inr ⟨stored, vault, rfl, received⟩

/-- An upload is stored in a folder of its own, or nothing is stored. -/
theorem storeUpload_cases (fileName : String) (content : Content) {office : Office}
    (sound : office.vault.Sound) :
    ∃ later, Uploaded office later ∧
      ((∃ failure, (storeUpload fileName content).perform office = (.error failure, later)) ∨
        ∃ ref store number, (storeUpload fileName content).perform office = (.ok ref, later) ∧
          number ∈ Set.Icc 1 later.uploads ∧
          later.vault.location? ref = some (store, uploadPath number fileName) ∧
          later.vault.read ref = .ok content ∧ IsUploadRef ref) := by
  have plain := isPlainPath_uploadPath (office.uploads + 1) fileName
  rcases perform_storeUpload_cases fileName content sound with
    ⟨fault, vault, failed, refused⟩ | ⟨stored, vault, done, received⟩
  · refine ⟨_, ⟨rfl, Nat.le_succ _, ?_, refused.locked⟩, Or.inl ⟨_, failed⟩⟩
    exact refused.frame.mono (fun _ _ impossible => impossible.elim)
  · refine ⟨_, ⟨rfl, Nat.le_succ _, ?_, received.locked⟩,
      Or.inr ⟨stored.ref.text, stored.ref.store, office.uploads + 1, done,
        ⟨Nat.le_add_left _ _, Nat.le_refl _⟩, ?_, ?_, ?_⟩⟩
    · refine received.frame.mono ?_
      rintro store path ⟨-, rfl⟩
      exact ⟨office.uploads + 1, fileName, Nat.lt_succ_self _, Nat.le_refl _, rfl⟩
    · exact (received.frame.located _).trans (received.location? sound plain)
    · exact received.read sound plain
    · obtain ⟨v, known⟩ := received.store
      have named : Storage.IsStoreName stored.ref.store :=
        (Storage.Vault.volume?_cases known).1 ▸ (sound.volume known).named
      exact ⟨_, _, _, named, received.text⟩

theorem storeUploads_cases (files : List (String × Content)) {office : Office}
    (sound : office.vault.Sound) :
    Uploaded office ((storeUploads files).after office) := by
  induction files generalizing office with
  | nil => exact Uploaded.refl sound
  | cons file rest ih =>
      obtain ⟨name, content⟩ := file
      obtain ⟨between, uploaded, ⟨failure, failed⟩ | ⟨ref, store, number, done, -⟩⟩ :=
        storeUpload_cases name content sound
      · rw [Work.after, storeUploads, Work.perform_bind_of_error failed]
        exact uploaded
      · have others := ih uploaded.frame.sound
        rw [Work.after] at others
        rw [Work.after, storeUploads, Work.perform_bind_of_ok done, Work.perform_bind]
        cases performed : (storeUploads rest).perform between with
        | mk result later =>
            rw [performed] at others
            cases result with
            | error failure => exact uploaded.trans others
            | ok refs => exact uploaded.trans others

theorem referencedFields_withMainFile (spec : Canvas.Spec) (main : Option (String × Content)) :
    (withMainFile spec main).referencedFields = spec.referencedFields := by
  unfold withMainFile
  split <;> rfl

theorem contains_of_ingestCanvas {catalog : Catalog} {input : CanvasInput} {spec : Canvas.Spec}
    (ingested : ingestCanvas catalog input = .ok spec) :
    ∀ key ∈ spec.referencedFields, catalog.contains key = true := by
  unfold ingestCanvas at ingested
  simp only [bind, Except.bind, pure, Except.pure] at ingested
  split at ingested
  · cases ingested
  · split at ingested
    · next none =>
        cases ingested
        intro key member
        by_contra unknown
        have absent : (!catalog.contains key) = true := by
          rw [Bool.not_eq_true']
          exact eq_false_of_ne_true unknown
        have left : key ∈ spec.referencedFields.filter (!catalog.contains ·) :=
          List.mem_filter.2 ⟨member, absent⟩
        rw [none] at left
        cases left
    · cases ingested

theorem deck_of_ingestDeck {file : Option Content} {placeholders : List String}
    (ingested : ingestDeck file = .ok placeholders) :
    ∃ content found, file = some content ∧ content.deck? = some found ∧
      placeholders = found.placeholders := by
  unfold ingestDeck at ingested
  split at ingested
  · cases ingested
  · next content =>
      split at ingested
      · cases ingested
      · split at ingested
        · next found isDeck =>
            cases ingested
            exact ⟨content, found, rfl, isDeck, rfl⟩
        · cases ingested

/-- A template as it is made: a deck whose placeholders are those of the stored file, or a canvas
that names fields of the catalog only. -/
inductive IsNew (catalog : Catalog) (office : Office) (t : Template) : Prop
  | deck (ref store fileName : String) (number : Nat) (content : Content) (found : Deck)
      (kind : t.kind = TemplateKind.deck.word) (contentRef : t.contentRef = some ref)
      (placeholders : t.placeholders = found.placeholders)
      (mapping : t.mapping = found.placeholders.map fun p => (p, some ""))
      (isDeck : content.deck? = some found) (counted : number ∈ Set.Icc 1 office.uploads)
      (located : office.vault.location? ref = some (store, uploadPath number fileName))
      (there : office.vault.read ref = .ok content) (uploaded : IsUploadRef ref)
      (noCanvas : t.canvas = .null) : IsNew catalog office t
  | canvas (spec : Canvas.Spec) (kind : t.kind = TemplateKind.canvas.word)
      (placeholders : t.placeholders = []) (mapping : t.mapping = [])
      (canvas : t.canvas = spec.toJson)
      (known : ∀ key ∈ spec.referencedFields, catalog.contains key = true)
      (noFile : t.contentRef = none) : IsNew catalog office t

def Office.withTemplate (office : Office) (t : Template) : Office :=
  { office with ledger := { office.ledger with templates := office.ledger.templates ++ [t] } }

/-- A template as it stands in the ledger once it is entered. -/
def Office.numbered (office : Office) (t : Template) : Template :=
  { t with
    id := Ledger.nextId (office.ledger.templates.map (·.id))
    createdAt := some office.clock.naive }

theorem perform_enterTemplate (t : Template) (office : Office) :
    (enterTemplate t).perform office =
      (.ok (office.numbered t), office.withTemplate (office.numbered t)) := rfl

/-- What making a template comes to: perhaps uploads and nothing else, or a new template too. -/
def Creates (catalog : Catalog) (work : Work Template) (office : Office) : Prop :=
  ∃ later, Uploaded office later ∧
    ((∃ failure, work.perform office = (.error failure, later)) ∨
      ∃ t, work.perform office = (.ok t, later.withTemplate t) ∧ IsNew catalog later t)

theorem creates_createDeck (catalog : Catalog) (name : String) (draft : TemplateDraft)
    {office : Office} (sound : office.vault.Sound) :
    Creates catalog (createDeck name draft) office := by
  unfold Creates createDeck
  cases ingested : ingestDeck draft.file with
  | error e => exact ⟨office, Uploaded.refl sound, Or.inl ⟨.error e, rfl⟩⟩
  | ok placeholders =>
      obtain ⟨content, found, filed, isDeck, same⟩ := deck_of_ingestDeck ingested
      rw [Work.perform_bind_of_ok (Work.perform_ofError (.ok placeholders) office)]
      rw [filed, Option.getD_some]
      obtain ⟨later, uploaded, ⟨failure, failed⟩ |
        ⟨ref, store, number, done, counted, located, there, spelled⟩⟩ :=
        storeUpload_cases (draft.fileName.getD "") content sound
      · exact ⟨later, uploaded, Or.inl ⟨failure, Work.perform_bind_of_error failed _⟩⟩
      · rw [Work.perform_bind_of_ok done]
        refine ⟨later, uploaded, Or.inr ⟨_, perform_enterTemplate _ later, ?_⟩⟩
        exact .deck ref store (draft.fileName.getD "") number content found rfl rfl same
          (same ▸ rfl) isDeck counted located there spelled rfl

theorem creates_createCanvas (catalog : Catalog) (name : String) (draft : TemplateDraft)
    {office : Office} (sound : office.vault.Sound) :
    Creates catalog (createCanvas catalog name draft) office := by
  unfold Creates createCanvas
  cases ingested : ingestCanvas catalog draft.canvas with
  | error failure => exact ⟨office, Uploaded.refl sound, Or.inl ⟨failure, rfl⟩⟩
  | ok spec =>
      rw [Work.perform_bind_of_ok (Work.perform_ofFailure (.ok spec) office)]
      have first := storeUploads_cases draft.assets sound
      rw [Work.after] at first
      cases assets : (storeUploads draft.assets).perform office with
      | mk result between =>
          rw [assets] at first
          cases result with
          | error failure =>
              exact ⟨between, first, Or.inl ⟨failure, Work.perform_bind_of_error assets _⟩⟩
          | ok assetRefs =>
              rw [Work.perform_bind_of_ok assets]
              have second := storeUploads_cases draft.mainFile?.toList first.frame.sound
              rw [Work.after] at second
              cases main : (storeUploads draft.mainFile?.toList).perform between with
              | mk result later =>
                  rw [main] at second
                  cases result with
                  | error failure =>
                      exact ⟨later, first.trans second,
                        Or.inl ⟨failure, Work.perform_bind_of_error main _⟩⟩
                  | ok mainRefs =>
                      rw [Work.perform_bind_of_ok main]
                      refine ⟨later, first.trans second,
                        Or.inr ⟨_, perform_enterTemplate _ later, ?_⟩⟩
                      refine .canvas _ rfl rfl rfl rfl ?_ rfl
                      rw [Canvas.Spec.referencedFields_withAssets, referencedFields_withMainFile]
                      exact contains_of_ingestCanvas ingested

theorem creates_createTemplate (catalog : Catalog) (draft : TemplateDraft) {office : Office}
    (sound : office.vault.Sound) : Creates catalog (createTemplate catalog draft) office := by
  have fails : ∀ e, Creates catalog (Work.fail e) office := fun e =>
    ⟨office, Uploaded.refl sound, Or.inl ⟨.error e, rfl⟩⟩
  unfold createTemplate
  simp only
  split
  · exact fails _
  · split
    · split
      · exact fails _
      · exact creates_createDeck catalog _ draft sound
    · exact creates_createCanvas catalog _ draft sound
    · exact fails _

end Issuance
