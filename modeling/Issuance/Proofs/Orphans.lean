import Issuance.Proofs.Durability
import Issuance.Proofs.Template.Records
/-!
A purge takes out exactly the orphans: of the files below its folders those, and only those, to
whose listed reference no row of the ledger refers.

Safety rests on the spelling of references. A row of the office refers to the files of certificates
and uploads by the very references under which they are listed, in whatever vault they are kept.
-/

namespace Issuance

namespace Storage.Vault

theorem eq_of_location?_text {α : Type} {vault : Vault α} {store other : String} {path place : Path}
    (named : IsStoreName store) (plain : IsPlainPath path)
    (found : vault.location? (Reference.text ⟨store, keyOf path⟩) = some (other, place)) :
    other = store ∧ place = path := by
  have parsed := @Reference.ofText_text ⟨store, keyOf path⟩ named (keyOf_ne_empty plain)
  simp only [location?, parsed, Except.toOption, Option.bind_some] at found
  obtain ⟨v, -, here⟩ := Option.bind_eq_some_iff.1 found
  rw [resolve_keyOf plain] at here
  cases here
  exact ⟨rfl, rfl⟩

theorem isStoreName_of_location? {α : Type} {vault : Vault α} (sound : vault.Sound)
    {ref store : String} {path : Path} (place : vault.location? ref = some (store, path)) :
    IsStoreName store := by
  obtain ⟨r, -, found⟩ := Option.bind_eq_some_iff.1 place
  obtain ⟨v, known, here⟩ := Option.bind_eq_some_iff.1 found
  obtain ⟨other, -, same⟩ := Option.map_eq_some_iff.1 here
  obtain ⟨rfl, -⟩ := Prod.mk.inj same
  rw [(volume?_cases known).1]
  exact (sound.volume known).named

end Storage.Vault

/-- A reference that is spelled as the file to which it leads is listed. -/
def IsSpelled (ref : String) : Prop :=
  ∃ store path, Storage.IsStoreName store ∧ Storage.IsPlainPath path ∧
    ref = Storage.Reference.text ⟨store, Storage.keyOf path⟩

theorem IsUploadRef.isSpelled {ref : String} (uploaded : IsUploadRef ref) : IsSpelled ref := by
  obtain ⟨store, number, fileName, named, spelled⟩ := uploaded
  exact ⟨store, _, named, isPlainPath_uploadPath number fileName, spelled⟩

theorem IsUploadRef.ne_empty {ref : String} (uploaded : IsUploadRef ref) : ref ≠ "" := by
  obtain ⟨store, number, fileName, -, rfl⟩ := uploaded
  exact ne_empty_of_text

theorem Office.Sound.isSpelled_fileRef {office : Office} (sound : office.Sound) {c : Certificate}
    (member : c ∈ office.ledger.certificates) : IsSpelled c.fileRef := by
  obtain ⟨store, format, artifact⟩ := sound.kept c member
  exact ⟨store, _, Storage.Vault.isStoreName_of_location? sound.vault artifact.located,
    artifact.plain, artifact.spelled⟩

namespace Purge

/-- Whether a place lies below a folder that a purge looks through. -/
def IsCovered (path : Storage.Path) : Prop :=
  ∃ name ∈ folderNames, ∃ next rest, path = name :: next :: rest

/-- What a purge does that takes out the orphans and nothing else. -/
structure TakesOrphans (office later : Office) (report : Report) : Prop where
  state : later = { office with vault := later.vault }
  taken : ∀ store path content, office.vault.fileAt store path = some content → IsCovered path →
    (later.vault.fileAt store path = none ↔
      ¬office.ledger.RefersTo (Storage.Reference.text ⟨store, Storage.keyOf path⟩))
  spared : ∀ store path content, office.vault.fileAt store path = some content →
    ¬IsCovered path ∨
      office.ledger.RefersTo (Storage.Reference.text ⟨store, Storage.keyOf path⟩) →
    later.vault.fileAt store path = some content ∧ later.vault.readAt store path = some content
  fewer : ∀ store path, office.vault.fileAt store path = none →
    later.vault.fileAt store path = none
  counted : report.scanned = report.deleted + report.kept + report.errors
  faultless : report.errors = 0
  certificates : ∀ c ∈ office.ledger.certificates, ∀ content,
    office.vault.read c.fileRef = .ok content → later.vault.read c.fileRef = .ok content
  decks : ∀ t ∈ office.ledger.templates, t.kind = TemplateKind.deck.word →
    ∃ ref, t.contentRef = some ref ∧ ∀ content,
      office.vault.read ref = .ok content → later.vault.read ref = .ok content
  uploads : ∀ ref, office.ledger.RefersTo ref → IsUploadRef ref → ∀ content,
    office.vault.read ref = .ok content → later.vault.read ref = .ok content

theorem mem_refsBelow_of_isCovered {vault : Storage.Vault Content} (sound : vault.Sound)
    {store : String} {path : Storage.Path} {content : Content} (covered : IsCovered path)
    (there : vault.readAt store path = some content) :
    Storage.Reference.text ⟨store, Storage.keyOf path⟩ ∈ refsBelow vault folderNames := by
  obtain ⟨name, among, next, rest, rfl⟩ := covered
  apply List.mem_flatMap.2
  exact ⟨name, among, List.mem_map_of_mem (Storage.Vault.refsBelow_of_readAt sound there)⟩

theorem isCovered_of_mem_refsBelow {vault : Storage.Vault Content} (sound : vault.Sound)
    {ref : String} (listed : ref ∈ refsBelow vault folderNames) :
    ∃ store path content, vault.location? ref = some (store, path) ∧ IsCovered path ∧
      vault.fileAt store path = some content := by
  obtain ⟨name, among, inside⟩ := List.mem_flatMap.1 listed
  obtain ⟨r, member, rfl⟩ := List.mem_map.1 inside
  obtain ⟨store, next, rest, content, -, place, there⟩ :=
    Storage.Vault.mem_refsBelow sound member
  exact ⟨store, _, content, place, ⟨name, among, next, rest, rfl⟩, there⟩

theorem read_of_swept {dryRun : Bool} {inUse refs : List String} {office later : Office}
    {first report : Report} (swept : Swept dryRun inUse refs office later first report)
    (sound : office.vault.Sound) {ref : String} (spelled : IsSpelled ref) (used : ref ∈ inUse)
    {content : Content} (there : office.vault.read ref = .ok content) :
    later.vault.read ref = .ok content := by
  obtain ⟨store, path, named, plain, rfl⟩ := spelled
  apply swept.cleared.frame.read sound there
  rintro other place here ⟨unused, -⟩
  obtain ⟨rfl, rfl⟩ := Storage.Vault.eq_of_location?_text named plain here
  exact unused used

theorem exists_isClear_of_mem_refsBelow {vault : Storage.Vault Content} (sound : vault.Sound)
    (readable : vault.IsReadable) {ref : String} (listed : ref ∈ refsBelow vault folderNames) :
    ∃ store path, vault.location? ref = some (store, path) ∧ vault.IsClear store path := by
  obtain ⟨store, path, content, place, -, there⟩ := isCovered_of_mem_refsBelow sound listed
  exact ⟨store, path, place, Storage.Vault.isClear_of_readAt (readable store path content there)⟩

/-- Each file that was listed is in use, or the purge has tried to take it out. -/
theorem scanned_of_swept {inUse refs : List String} {office later : Office} {report : Report}
    (swept : Swept false inUse refs office later .start report) :
    report.scanned = report.deleted + report.kept + report.errors := by
  have scanned := swept.scanned
  have kept := swept.kept
  have tried := swept.tried rfl
  have whole : refs.length = refs.countP inUse.contains + refs.countP
      fun ref => decide ¬inUse.contains ref = true := List.length_eq_countP_add_countP _
  have others : (refs.countP fun ref => decide ¬inUse.contains ref = true) =
      refs.countP fun ref => !inUse.contains ref := by
    apply List.countP_congr
    intro ref _
    simp only [decide_eq_true_eq, Bool.not_eq_true, Bool.not_eq_true']
  simp only [Report.start] at scanned kept tried
  omega

section

variable {office later : Office} {report : Report}

theorem text_mem_refsInUse_iff (recorded : ∀ t ∈ office.ledger.templates, t.IsRecorded)
    (r : Storage.Reference) :
    r.text ∈ refsInUse office.ledger ↔ office.ledger.RefersTo r.text :=
  mem_refsInUse_iff recorded ne_empty_of_text

/-- A place elsewhere, or one that a row refers to, is none from which a file is taken. -/
theorem untouched_of_refersTo (sound : office.vault.Sound)
    (recorded : ∀ t ∈ office.ledger.templates, t.IsRecorded) {store : String} {path : Storage.Path}
    (reason : ¬IsCovered path ∨
      office.ledger.RefersTo (Storage.Reference.text ⟨store, Storage.keyOf path⟩)) :
    ¬(Storage.Reference.text ⟨store, Storage.keyOf path⟩ ∉ refsInUse office.ledger ∧
      ∃ ref ∈ refsBelow office.vault folderNames,
        office.vault.location? ref = some (store, path)) := by
  rintro ⟨unused, ref, listed, place⟩
  rcases reason with outside | used
  · obtain ⟨store', path', content, place', covered, -⟩ := isCovered_of_mem_refsBelow sound listed
    rw [place] at place'
    cases place'
    exact outside covered
  · exact unused ((text_mem_refsInUse_iff recorded _).2 used)

/-- An orphan below the folders is among the files that are listed, and so it is taken out. -/
theorem fileAt_of_orphan (sound : office.vault.Sound) (readable : office.vault.IsReadable)
    (unlocked : office.vault.locked = false)
    (swept : Swept false (refsInUse office.ledger) (refsBelow office.vault folderNames) office later
      .start report) {store : String} {path : Storage.Path}
    {content : Content} (there : office.vault.fileAt store path = some content)
    (covered : IsCovered path)
    (unused : Storage.Reference.text ⟨store, Storage.keyOf path⟩ ∉ refsInUse office.ledger) :
    later.vault.fileAt store path = none := by
  have readableHere := readable store path content there
  have listed := mem_refsBelow_of_isCovered sound covered readableHere
  obtain ⟨v, known, -⟩ := Option.bind_eq_some_iff.1 readableHere
  have filed : v.file? path = some content := by
    rw [Storage.Vault.fileAt, known] at there
    exact there
  have plain := (sound.volume known).filed path content filed
  obtain ⟨-, emptied⟩ := swept.emptied rfl unlocked fun ref member =>
    exists_isClear_of_mem_refsBelow sound readable member
  exact emptied _ listed unused store path (Storage.Vault.location?_text sound known plain)

theorem takesOrphans_of_swept (recorded : ∀ t ∈ office.ledger.templates, t.IsRecorded)
    (spelled : ∀ c ∈ office.ledger.certificates, IsSpelled c.fileRef)
    (sound : office.vault.Sound) (readable : office.vault.IsReadable)
    (unlocked : office.vault.locked = false)
    (swept : Swept false (refsInUse office.ledger) (refsBelow office.vault folderNames) office later
      .start report) : TakesOrphans office later report := by
  have frame := swept.cleared.frame
  have untouched := fun store path => @untouched_of_refersTo _ sound recorded store path
  have stays : ∀ ref, office.ledger.RefersTo ref → IsUploadRef ref → ∀ content,
      office.vault.read ref = .ok content → later.vault.read ref = .ok content :=
    fun ref refers uploaded content there => read_of_swept swept sound uploaded.isSpelled
      ((mem_refsInUse_iff recorded uploaded.ne_empty).2 refers) there
  constructor
  · exact swept.cleared.state
  · intro store path content there covered
    constructor
    · intro gone used
      rw [frame.files store path (untouched store path (Or.inr used)), there] at gone
      cases gone
    · intro orphan
      exact fileAt_of_orphan sound readable unlocked swept there covered fun used =>
        orphan ((text_mem_refsInUse_iff recorded _).1 used)
  · intro store path content there reason
    have apart := untouched store path reason
    constructor
    · rw [frame.files store path apart]
      exact there
    · exact frame.reads store path content apart (readable store path content there)
  · intro store path absent
    rcases swept.cleared.fewer store path with same | gone
    · exact same.trans absent
    · exact gone
  · exact scanned_of_swept swept
  · exact (swept.emptied rfl unlocked fun ref listed =>
      exists_isClear_of_mem_refsBelow sound readable listed).1
  · intro c member content there
    exact read_of_swept swept sound (spelled c member)
      (List.mem_append_left _ (List.mem_map_of_mem member)) there
  · intro t member kind
    cases recorded t member with
    | deck ref _ contentRef uploaded noCanvas =>
        exact ⟨ref, contentRef, stays ref (.source t member ref contentRef) uploaded⟩
    | canvas spec other =>
        rw [kind] at other
        exact absurd other (by decide)
  · exact stays

end

/-- With the rows of a reachable office and any files in the stores, a purge takes out exactly the
orphans if nothing keeps it from reading and removing files. For show, it changes nothing, takes
nothing out and counts the same. -/
theorem takes_orphans {recorded office : Office} (reachable : recorded.IsReachable)
    (ledger : office.ledger = recorded.ledger) (sound : office.vault.Sound)
    (readable : office.vault.IsReadable) (unlocked : office.vault.locked = false) :
    ∃ report later, (run false).perform office = (.ok report, later) ∧
      TakesOrphans office later report ∧
      ∃ shown, (run true).perform office = (.ok shown, office) ∧ shown.deleted = 0 ∧
        shown.scanned = report.scanned ∧ shown.kept = report.kept := by
  obtain ⟨report, later, done, swept⟩ := swept_run false sound
  obtain ⟨shown, same, pretended, idle⟩ := swept_run true sound
  obtain ⟨rfl, deleted, -⟩ := idle.idle rfl
  refine ⟨report, later, done, ?_, shown, pretended, deleted, ?_, ?_⟩
  · apply takesOrphans_of_swept _ _ sound readable unlocked swept
    · rw [ledger]
      exact reachable.isRecorded
    · rw [ledger]
      exact fun c => reachable.sound.isSpelled_fileRef
  · exact idle.scanned.trans swept.scanned.symm
  · exact idle.kept.trans swept.kept.symm

end Purge

/-! After the launch a canvas with a picture is made and removed again while nothing can be taken
out of the store. Its picture is an orphan, the certificate is not. -/

namespace Launch

def picturedDraft : TemplateDraft :=
  { draft with
    canvas := .value (.obj [("background", .str "a.png")])
    assets := [("a.png", .bytes [0])] }

def orphanHistory : List Step :=
  history ++ [.operation (.generate options 1 1 none),
    .operation (.createTemplate .standard picturedDraft),
    .change { circumstances with locked := true }, .operation (.deleteTemplate 2),
    .change circumstances]

theorem isReachable_through_orphanHistory : (start.through orphanHistory).IsReachable := by
  refine ⟨start, orphanHistory, isFresh_start, ?_, rfl⟩
  intro step member
  rcases List.mem_append.1 member with early | late
  · exact isOrdinary_history step early
  · simp only [List.mem_cons, List.not_mem_nil, or_false] at late
    rcases late with rfl | rfl | rfl | rfl | rfl
    · trivial
    · trivial
    · exact ⟨isOrdinary_circumstances.codes, isOrdinary_circumstances.unrivalled⟩
    · trivial
    · exact isOrdinary_circumstances

def orphan : Storage.Path := ["templates", "00000000000000000000000000000001", "a.png"]

end Launch

theorem launch_takes_orphans :
    ∃ content certificate report later,
      (Launch.start.through Launch.orphanHistory).vault.fileAt "primary" Launch.orphan =
        some content ∧
      (Launch.start.through Launch.orphanHistory).vault.read Launch.certificate.fileRef =
        .ok certificate ∧
      (Purge.run false).perform (Launch.start.through Launch.orphanHistory) = (.ok report, later) ∧
      later.vault.fileAt "primary" Launch.orphan = none ∧
      later.vault.read Launch.certificate.fileRef = .ok certificate := by
  have facts : ((Launch.start.through Launch.orphanHistory).vault.fileAt "primary"
        Launch.orphan).isSome = true ∧
      Launch.certificate ∈ (Launch.start.through Launch.orphanHistory).ledger.certificates ∧
      ((Launch.start.through Launch.orphanHistory).vault.read
        Launch.certificate.fileRef).isOk = true ∧
      "primary:templates/00000000000000000000000000000001/a.png" ∉
        Purge.refsInUse (Launch.start.through Launch.orphanHistory).ledger ∧
      (Launch.start.through Launch.orphanHistory).vault.locked = false ∧
      ((Launch.start.through Launch.orphanHistory).vault.volumes.all fun v =>
        v.files.all fun file => (v.lookup file.1).isOk) = true := by
    decide +kernel
  have spelled : Storage.Reference.text ⟨"primary", Storage.keyOf Launch.orphan⟩ =
      "primary:templates/00000000000000000000000000000001/a.png" := by
    decide +kernel
  have reachable := Launch.isReachable_through_orphanHistory
  generalize Launch.start.through Launch.orphanHistory = office at *
  obtain ⟨stored, issued, held, unused, unlocked, all⟩ := facts
  have sound := reachable.sound.vault
  obtain ⟨content, there⟩ := Option.isSome_iff_exists.1 stored
  obtain ⟨certificate, readable⟩ := exists_ok_of_isOk held
  obtain ⟨report, later, done, takes, -⟩ :=
    Purge.takes_orphans reachable rfl sound (Storage.Vault.isReadable_of_all sound all) unlocked
  refine ⟨content, certificate, report, later, there, readable, done, ?_, ?_⟩
  · have covered : Purge.IsCovered Launch.orphan :=
      ⟨"templates", by decide, _, _, rfl⟩
    apply (takes.taken "primary" Launch.orphan content there covered).2
    rw [spelled]
    exact fun refers =>
      unused ((mem_refsInUse_iff reachable.isRecorded (by decide)).2 refers)
  · exact takes.certificates Launch.certificate issued certificate readable

end Issuance
