import Issuance.Attendance
import Issuance.Template.Mapping
import Issuance.Proofs.Batch.Runs
import Issuance.Proofs.Mail
import Issuance.Proofs.Purge
import Issuance.Proofs.Template.Uploads
/-!
Histories of the office: its operations one after the other, with the circumstances changing in
between, and what every one of them keeps.

An operation keeps the invariant of the office, and it keeps what was issued; only the removal of a
template may take away the file of a certificate.
-/

namespace Issuance

/-- The operations of the office that change it. -/
inductive Operation
  | createTemplate (catalog : Catalog) (draft : TemplateDraft)
  | setMapping (catalog : Catalog) (template : Int) (proposed : Json)
  | checkIn (registration : Registration) (time : Option Moment)
  | generate (options : Batch.Options) (event template : Int) (request : Option (List Json))
  | mail (event : Int) (address : VerifyAddress) (request : Option (List Json))
      (message : Option String)
  | purge (dryRun : Bool)
  | deleteTemplate (template : Int)

namespace Operation

/-- The work of an operation, whatever it reports. -/
def work : Operation → Work Unit
  | .createTemplate catalog draft => do
      let _ ← Issuance.createTemplate catalog draft
  | .setMapping catalog id proposed => do
      let template ← requireTemplate id
      let _ ← Issuance.setMapping catalog template proposed
  | .checkIn registration time => do
      let _ ← Issuance.checkIn registration time
  | .generate options event template request => do
      let _ ← Batch.run options event template request
  | .mail event address request message => do
      let _ ← Mail.notify event address request message
  | .purge dryRun => do
      let _ ← Purge.run dryRun
  | .deleteTemplate id => Issuance.deleteTemplate id

def isRemoval : Operation → Bool
  | .deleteTemplate _ => true
  | _ => false

end Operation

namespace Operation

theorem setMapping_cases (catalog : Catalog) (id : Int) (proposed : Json) (office : Office) :
    (∃ failure, (setMapping catalog id proposed).work.perform office = (.error failure, office)) ∨
      ∃ template mapping, office.ledger.template? id = some template ∧
        checkMapping catalog template.placeholders proposed = .ok mapping ∧
        (setMapping catalog id proposed).work.perform office = (.ok (), { office with
          ledger := office.ledger.putTemplate { template with
            mapping := mergeMapping template.placeholders template.mapping mapping } }) := by
  rw [work]
  obtain ⟨found, asked⟩ := (looks_requireTemplate id).perform office
  cases found with
  | error failure =>
      rw [Work.perform_bind_of_error asked]
      exact Or.inl ⟨failure, rfl⟩
  | ok template =>
      have known := template_of_requireTemplate asked
      rw [Work.perform_bind_of_ok asked]
      unfold Issuance.setMapping
      cases checked : checkMapping catalog template.placeholders proposed with
      | error e => exact Or.inl ⟨.error e, rfl⟩
      | ok mapping => exact Or.inr ⟨template, mapping, known, checked, rfl⟩

theorem checkIn_cases (registration : Registration) (time : Option Moment) (office : Office) :
    ∃ attendances, (checkIn registration time).work.after office =
      { office with ledger := { office.ledger with attendances } } := by
  rw [work, Work.after_bind_pure]
  unfold Issuance.checkIn
  simp only
  split
  · exact ⟨office.ledger.attendances, rfl⟩
  · have recorded : ∃ attendances, (office.ledger.recordCheckIn registration.id
        (time.getD office.clock).naive).2 = { office.ledger with attendances } := by
      unfold Ledger.recordCheckIn
      split
      · exact ⟨_, rfl⟩
      · exact ⟨_, rfl⟩
    obtain ⟨attendances, same⟩ := recorded
    refine ⟨attendances, ?_⟩
    rw [← same]
    rfl

theorem deleteTemplate_cases (id : Int) (office : Office) :
    (∃ failure, (deleteTemplate id).work.perform office = (.error failure, office)) ∨
      ∃ template, office.ledger.template? id = some template ∧
        (deleteTemplate id).work.perform office = (discardAll template.refs).perform
          { office with ledger := office.ledger.removeTemplate id } := by
  rw [work]
  unfold Issuance.deleteTemplate
  obtain ⟨found, asked⟩ := (looks_requireTemplate id).perform office
  cases found with
  | error failure =>
      rw [Work.perform_bind_of_error asked]
      exact Or.inl ⟨failure, rfl⟩
  | ok template =>
      have known := template_of_requireTemplate asked
      rw [Work.perform_bind_of_ok asked, Work.perform_bind_of_ok (Work.perform_changeLedger _ office),
        Ledger.id_of_template? known]
      exact Or.inr ⟨template, known, rfl⟩

end Operation

/-- What changes around the office: who registers for what, the time, the draws to come, the mail
server, what will go wrong, and which stores refuse to write or to remove. -/
structure Circumstances where
  events : List Event
  registrations : List Registration
  clock : Moment
  codes : CodeSupply
  mailServer : Mail.Server
  disturbances : List (String × Disturbance)
  primaryFull : Bool
  secondaryFull : Bool
  locked : Bool

namespace Circumstances

/-- Codes are drawn at random from the alphabet, and all certificates are issued by the office. -/
structure IsOrdinary (circumstances : Circumstances) : Prop where
  codes : circumstances.codes.IsGenerated
  unrivalled : ∀ entry ∈ circumstances.disturbances, entry.2.isRival = false

end Circumstances

def Office.under (office : Office) (circumstances : Circumstances) : Office :=
  { office with
    ledger := { office.ledger with
      events := circumstances.events
      registrations := circumstances.registrations }
    vault := office.vault.limit circumstances.primaryFull circumstances.secondaryFull
      circumstances.locked
    clock := circumstances.clock
    codes := circumstances.codes
    mailServer := circumstances.mailServer
    disturbances := circumstances.disturbances }

inductive Step
  | operation (op : Operation)
  | change (circumstances : Circumstances)

namespace Step

def run : Step → Office → Office
  | .operation op, office => op.work.after office
  | .change circumstances, office => office.under circumstances

/-- Whether the circumstances stay ordinary. -/
def IsOrdinary : Step → Prop
  | .operation _ => True
  | .change circumstances => circumstances.IsOrdinary

def isRemoval : Step → Bool
  | .operation op => op.isRemoval
  | .change _ => false

end Step

def Office.through (office : Office) (history : List Step) : Office :=
  history.foldl (fun office step => step.run office) office

theorem Office.through_append (office : Office) (first second : List Step) :
    office.through (first ++ second) = (office.through first).through second :=
  List.foldl_append

/-- An office as it is set up: without rows, and with sound stores. -/
def Office.IsFresh (office : Office) : Prop :=
  ∃ settings vault clock, vault.Sound ∧ office = Office.new settings vault clock

/-- An office to which an ordinary history has led since it was set up. -/
def Office.IsReachable (office : Office) : Prop :=
  ∃ (start : Office) (history : List Step), start.IsFresh ∧ (∀ step ∈ history, Step.IsOrdinary step) ∧
    office = start.through history

namespace Office

/-- What was issued stays issued, and every reference still leads where it led. -/
structure Retains (office later : Office) : Prop where
  issues : office.ledger.issues <+: later.ledger.issues
  located : ∀ ref, later.vault.location? ref = office.vault.location? ref
  secondary : later.vault.secondary.map Storage.Volume.name =
    office.vault.secondary.map Storage.Volume.name

/-- Every certificate that could be read still reads the same. -/
def Guards (office later : Office) : Prop :=
  ∀ c ∈ office.ledger.certificates, ∀ content, office.vault.read c.fileRef = .ok content →
    later.vault.read c.fileRef = .ok content

theorem Retains.refl (office : Office) : Retains office office :=
  ⟨List.prefix_rfl, fun _ => rfl, rfl⟩

theorem Retains.trans {first second third : Office} (early : Retains first second)
    (late : Retains second third) : Retains first third :=
  ⟨early.issues.trans late.issues, fun ref => (late.located ref).trans (early.located ref),
    late.secondary.trans early.secondary⟩

/-- A row that is retained is found again with its settled columns. -/
theorem Retains.exists_row {office later : Office} (retains : Retains office later)
    {c : Certificate} (member : c ∈ office.ledger.certificates) :
    ∃ row ∈ later.ledger.certificates, row.issue = c.issue := by
  have settled : c.issue ∈ later.ledger.issues :=
    retains.issues.subset (List.mem_map_of_mem member)
  obtain ⟨row, present, same⟩ := List.mem_map.1 settled
  exact ⟨row, present, same⟩

theorem Guards.trans {first second third : Office} (retains : Retains first second)
    (early : Guards first second) (late : Guards second third) : Guards first third := by
  intro c member content there
  obtain ⟨row, present, same⟩ := retains.exists_row member
  have sameRef := Certificate.fileRef_eq_of_issue_eq same
  rw [← sameRef]
  exact late row present content (sameRef ▸ early c member content there)

/-- Files at other places than those of certificates may come and go. -/
theorem guards_of_frame {office later : Office} (sound : office.Sound)
    {touched : String → Storage.Path → Prop}
    (frame : Storage.Vault.Frame touched office.vault later.vault)
    (apart : ∀ c ∈ office.ledger.certificates, ∀ store path,
      office.vault.location? c.fileRef = some (store, path) → ¬touched store path) :
    Guards office later :=
  fun c member _ there => frame.read sound.vault there (apart c member)

/-- What a step of the office's own is bound to: the invariant stays, what was issued stays, and
if it is `careful`, so do the files. -/
structure Advances (careful : Prop) (office later : Office) : Prop where
  sound : later.Sound
  retains : Retains office later
  guards : careful → Guards office later

theorem Advances.refl {office : Office} (sound : office.Sound) {careful : Prop} :
    Advances careful office office :=
  ⟨sound, Retains.refl office, fun _ _ _ _ there => there⟩

theorem Advances.trans {first second third : Office} {careful : Prop}
    (early : Advances careful first second) (late : Advances careful second third) :
    Advances careful first third where
  sound := late.sound
  retains := early.retains.trans late.retains
  guards := fun care => Guards.trans early.retains (early.guards care) (late.guards care)

/-- Work that issues nothing advances the office if it does not touch the files of certificates. -/
theorem advances_of_frame {office later : Office} (sound : office.Sound) {careful : Prop}
    {touched : String → Storage.Path → Prop}
    (frame : Storage.Vault.Frame touched office.vault later.vault)
    (issues : later.ledger.issues = office.ledger.issues) (codes : later.codes = office.codes)
    (disturbances : later.disturbances = office.disturbances)
    (apart : careful → ∀ c ∈ office.ledger.certificates, ∀ store path,
      office.vault.location? c.fileRef = some (store, path) → ¬touched store path) :
    Advances careful office later where
  sound := by
    refine sound.of_issues_eq frame.sound frame.located issues (codes ▸ sound.codes) ?_
    intro entry member
    exact sound.unrivalled entry (disturbances ▸ member)
  retains := ⟨issues ▸ List.prefix_rfl, frame.located, frame.secondary⟩
  guards := fun care => guards_of_frame sound frame (apart care)

/-- Work on the ledger alone that leaves the settled columns as they are. -/
theorem advances_of_ledger {office : Office} (sound : office.Sound) {careful : Prop}
    {ledger : Ledger} (issues : ledger.issues = office.ledger.issues) :
    Advances careful office { office with ledger } :=
  @advances_of_frame office { office with ledger } sound careful (fun _ _ => False)
    (Storage.Vault.Frame.refl sound.vault) issues rfl rfl (fun _ _ _ _ _ _ impossible => impossible)

theorem advances_of_uploaded {office later : Office} (sound : office.Sound) {careful : Prop}
    (uploaded : Uploaded office later) : Advances careful office later := by
  refine advances_of_frame sound uploaded.frame (by rw [uploaded.state]) (by rw [uploaded.state])
    (by rw [uploaded.state]) ?_
  rintro - c member store path here ⟨number, fileName, -, -, rfl⟩
  obtain ⟨store', format, artifact⟩ := sound.kept c member
  rw [artifact.located] at here
  -- certificates and templates lie below different folders
  have folders := (List.cons.inj (Prod.mk.inj (Option.some.inj here)).2).1
  exact absurd folders (by decide)

theorem advances_of_cleared {office later : Office} (sound : office.Sound)
    {gone : String → Storage.Path → Prop} (cleared : Cleared gone office later) {careful : Prop}
    (apart : careful → ∀ c ∈ office.ledger.certificates, ∀ store path,
      office.vault.location? c.fileRef = some (store, path) → ¬gone store path) :
    Advances careful office later :=
  advances_of_frame sound cleared.frame (by rw [cleared.state]) (by rw [cleared.state])
    (by rw [cleared.state]) apart

theorem advances_createTemplate (catalog : Catalog) (draft : TemplateDraft) {office : Office}
    (sound : office.Sound) {careful : Prop} :
    Advances careful office ((Operation.createTemplate catalog draft).work.after office) := by
  rw [Operation.work, Work.after_bind_pure, Work.after]
  obtain ⟨later, uploaded, ⟨failure, failed⟩ | ⟨t, done, -⟩⟩ :=
    creates_createTemplate catalog draft sound.vault
  · rw [failed]
    exact advances_of_uploaded sound uploaded
  · rw [done]
    have first : Advances careful office later := advances_of_uploaded sound uploaded
    exact first.trans (advances_of_ledger first.sound rfl)

theorem advances_setMapping (catalog : Catalog) (id : Int) (proposed : Json) {office : Office}
    (sound : office.Sound) {careful : Prop} :
    Advances careful office ((Operation.setMapping catalog id proposed).work.after office) := by
  rw [Work.after]
  rcases Operation.setMapping_cases catalog id proposed office with
    ⟨failure, refused⟩ | ⟨template, mapping, -, -, changed⟩
  · rw [refused]
    exact Advances.refl sound
  · rw [changed]
    exact advances_of_ledger sound rfl

theorem advances_checkIn (registration : Registration) (time : Option Moment) {office : Office}
    (sound : office.Sound) {careful : Prop} :
    Advances careful office ((Operation.checkIn registration time).work.after office) := by
  obtain ⟨attendances, changed⟩ := Operation.checkIn_cases registration time office
  rw [changed]
  exact advances_of_ledger sound rfl

theorem advances_mail (event : Int) (address : VerifyAddress) (request : Option (List Json))
    (message : Option String) {office : Office} (sound : office.Sound) {careful : Prop} :
    Advances careful office ((Operation.mail event address request message).work.after office) := by
  rw [Operation.work, Work.after_bind_pure]
  have notified := Mail.notified_notify event address request message sound.ledger
  generalize (Mail.notify event address request message).after office = later at notified ⊢
  have vault : later.vault = office.vault := by rw [notified.state]
  refine @advances_of_frame office later sound careful (fun _ _ => False) ?_ notified.issues
    (by rw [notified.state]) (by rw [notified.state]) (fun _ _ _ _ _ _ impossible => impossible)
  rw [vault]
  exact Storage.Vault.Frame.refl sound.vault

theorem advances_purge (dryRun : Bool) {office : Office} (sound : office.Sound) {careful : Prop} :
    Advances careful office ((Operation.purge dryRun).work.after office) := by
  rw [Operation.work, Work.after_bind_pure]
  refine advances_of_cleared sound (Purge.cleared_run dryRun sound.vault) ?_
  intro _ c member store path here unused
  obtain ⟨store', format, artifact⟩ := sound.kept c member
  rw [artifact.located] at here
  obtain ⟨rfl, rfl⟩ := Prod.mk.inj (Option.some.inj here)
  exact unused (List.mem_append_left _ (List.mem_map.2 ⟨c, member, artifact.spelled⟩))

theorem advances_deleteTemplate (id : Int) {office : Office} (sound : office.Sound) :
    Advances False office ((Operation.deleteTemplate id).work.after office) := by
  rw [Work.after]
  rcases Operation.deleteTemplate_cases id office with ⟨failure, refused⟩ | ⟨template, -, removed⟩
  · rw [refused]
    exact Advances.refl sound
  · rw [removed]
    have first : Advances False office
        { office with ledger := office.ledger.removeTemplate id } :=
      advances_of_ledger sound (Ledger.issues_removeTemplate office.ledger id)
    have cleared := cleared_discardAll template.refs first.sound.vault
    exact first.trans (advances_of_cleared first.sound cleared fun never => never.elim)

theorem advances_of_effect {commission : Batch.Commission} {turns : List Batch.Turn}
    {office later : Office} {rows : List Certificate} (sound : office.Sound) (after : later.Sound)
    (effect : Batch.Effect commission turns office later rows) {careful : Prop} :
    Advances careful office later where
  sound := after
  retains := by
    refine ⟨⟨rows.map Certificate.issue, ?_⟩, effect.frame.located, effect.frame.secondary⟩
    unfold Ledger.issues
    rw [effect.certificates, List.map_append]
  guards := fun _ c member _ there =>
    Batch.read_of_frame sound after effect.frame effect.certificates member there

theorem advances_generate (options : Batch.Options) (event template : Int)
    (request : Option (List Json)) {office : Office} (sound : office.Sound) {careful : Prop} :
    Advances careful office
      ((Operation.generate options event template request).work.after office) := by
  rw [Operation.work, Work.after_bind_pure, Work.after]
  rcases Batch.run_cases options event template request office with
    ⟨failure, refused⟩ | ⟨found, held, source, participants, rejected, -, issued⟩
  · rw [refused]
    exact Advances.refl sound
  · rw [issued]
    obtain ⟨rows, effect, after⟩ := Batch.effect_issueAll (options.commission found held source)
      (office.ledger.nextSerial held.id) participants sound
    exact advances_of_effect sound after effect

theorem advances_operation (op : Operation) {office : Office} (sound : office.Sound) :
    Advances (op.isRemoval = false) office (op.work.after office) := by
  cases op with
  | createTemplate catalog draft => exact advances_createTemplate catalog draft sound
  | setMapping catalog id proposed => exact advances_setMapping catalog id proposed sound
  | checkIn registration time => exact advances_checkIn registration time sound
  | generate options event template request =>
      exact advances_generate options event template request sound
  | mail event address request message => exact advances_mail event address request message sound
  | purge dryRun => exact advances_purge dryRun sound
  | deleteTemplate id =>
      have removed := advances_deleteTemplate id sound
      exact ⟨removed.sound, removed.retains, fun careful => nomatch careful⟩

theorem advances_change {circumstances : Circumstances} (ordinary : circumstances.IsOrdinary)
    {office : Office} (sound : office.Sound) {careful : Prop} :
    Advances careful office (office.under circumstances) := by
  have frame := Storage.Vault.frame_limit sound.vault circumstances.primaryFull
    circumstances.secondaryFull circumstances.locked
  have issues : (office.under circumstances).ledger.issues = office.ledger.issues := rfl
  refine ⟨sound.of_issues_eq frame.sound frame.located issues ordinary.codes ordinary.unrivalled,
    ⟨issues ▸ List.prefix_rfl, frame.located, frame.secondary⟩,
    fun _ => guards_of_frame sound frame ?_⟩
  exact fun _ _ _ _ _ impossible => impossible

theorem advances_step {step : Step} (ordinary : step.IsOrdinary) {office : Office}
    (sound : office.Sound) : Advances (step.isRemoval = false) office (step.run office) := by
  cases step with
  | operation op => exact advances_operation op sound
  | change circumstances => exact advances_change ordinary sound

/-- A whole history keeps the invariant and what was issued; without removals of templates it also
keeps the files of certificates. -/
theorem advances_through {history : List Step} (ordinary : ∀ step ∈ history, Step.IsOrdinary step)
    {office : Office} (sound : office.Sound) :
    Advances (∀ step ∈ history, Step.isRemoval step = false) office (office.through history) := by
  induction history generalizing office with
  | nil => exact Advances.refl sound
  | cons step rest ih =>
      have first := advances_step (ordinary step List.mem_cons_self) sound
      have later := ih (fun other member => ordinary other (List.mem_cons_of_mem step member))
        first.sound
      refine ⟨later.sound, first.retains.trans later.retains, ?_⟩
      intro careful
      exact Guards.trans first.retains (first.guards (careful step List.mem_cons_self))
        (later.guards fun other member => careful other (List.mem_cons_of_mem step member))

/-- What no step takes away holds through a whole history. -/
theorem holds_through {P : Office → Prop} {history : List Step}
    (ordinary : ∀ step ∈ history, Step.IsOrdinary step)
    (kept : ∀ step ∈ history, ∀ office : Office, office.Sound → P office → P (step.run office))
    {office : Office} (sound : office.Sound) (holds : P office) : P (office.through history) := by
  induction history generalizing office with
  | nil => exact holds
  | cons step rest ih =>
      have after := (advances_step (ordinary step List.mem_cons_self) sound).sound
      exact ih (fun other member => ordinary other (List.mem_cons_of_mem step member))
        (fun other member => kept other (List.mem_cons_of_mem step member)) after
        (kept step List.mem_cons_self office sound holds)

theorem IsFresh.templates {office : Office} (fresh : office.IsFresh) :
    office.ledger.templates = [] := by
  obtain ⟨settings, vault, clock, -, rfl⟩ := fresh
  rfl

theorem IsFresh.sound {office : Office} (fresh : office.IsFresh) : office.Sound := by
  obtain ⟨settings, vault, clock, sound, rfl⟩ := fresh
  refine ⟨sound, Ledger.sound_empty, ?_, ?_, ?_⟩
  · exact fun _ none => absurd none List.not_mem_nil
  · exact fun _ none => absurd none List.not_mem_nil
  · exact fun _ none => absurd none List.not_mem_nil

theorem IsReachable.sound {office : Office} (reachable : office.IsReachable) : office.Sound := by
  obtain ⟨start, history, fresh, ordinary, rfl⟩ := reachable
  exact (advances_through ordinary fresh.sound).sound

end Office

/-! A launch with one guest and a plain canvas: the smallest history with something to issue. -/

namespace Launch

def clock : Moment := ⟨⟨2025, 1, 20⟩, 12, 0, 0, 0, none⟩

def guest : Registration :=
  ⟨1, 1, some "Ada", none, none, none, eligibleStatus, none, none⟩

def latecomer : Registration := { guest with id := 2, name := some "Ben" }

def circumstances : Circumstances where
  events := [⟨1, some "Launch", none, none, none, none, none⟩]
  registrations := [guest]
  clock := clock
  codes := .stream [] 0
  mailServer := ⟨[], .none⟩
  disturbances := []
  primaryFull := false
  secondaryFull := false
  locked := false

def draft : TemplateDraft :=
  ⟨some "Plain", some "canvas", none, none, none, .nothing, []⟩

def options : Batch.Options := ⟨.standard, "", .int 30⟩

def start : Office :=
  .new ⟨"", .int 30, ⟨none, []⟩⟩ (.single (.empty "primary" [])) clock

def history : List Step :=
  [.change circumstances, .operation (.checkIn guest none),
    .operation (.createTemplate .standard draft)]

theorem isFresh_start : start.IsFresh :=
  ⟨_, _, clock, Storage.Vault.sound_single
    (Storage.Volume.sound_empty ⟨by decide, by decide⟩ (fun _ none => absurd none List.not_mem_nil)), rfl⟩

theorem isOrdinary_circumstances : circumstances.IsOrdinary :=
  ⟨fun _ none => absurd none List.not_mem_nil, fun _ none => absurd none List.not_mem_nil⟩

theorem isOrdinary_history : ∀ step ∈ history, Step.IsOrdinary step := by
  intro step member
  simp only [history, List.mem_cons, List.not_mem_nil, or_false] at member
  rcases member with rfl | rfl | rfl
  · exact isOrdinary_circumstances
  · trivial
  · trivial

theorem isReachable_through_history : (start.through history).IsReachable :=
  ⟨start, history, isFresh_start, isOrdinary_history, rfl⟩

end Launch
end Issuance
