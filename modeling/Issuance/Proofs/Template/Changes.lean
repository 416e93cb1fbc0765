import Issuance.Proofs.History
/-!
What one step may do to the templates and to the files: statements about templates go through these
lists, whichever operation it was.
-/

namespace Issuance

open Storage

namespace Operation

/-- What an operation may do to the templates: nothing, change the mapping of one that is found,
add one, or take one away. -/
inductive Reshapes (office : Office) : Operation → Office → Prop
  | none (op : Operation) (later : Office)
      (templates : later.ledger.templates = office.ledger.templates) : Reshapes office op later
  | maps (catalog : Catalog) (id : Int) (proposed : Json) (template : Template) (mapping : Mapping)
      (found : office.ledger.template? id = some template)
      (checked : checkMapping catalog template.placeholders proposed = .ok mapping)
      (later : Office)
      (templates : later.ledger.templates = (office.ledger.putTemplate { template with
        mapping := mergeMapping template.placeholders template.mapping mapping }).templates) :
      Reshapes office (.setMapping catalog id proposed) later
  | makes (catalog : Catalog) (draft : TemplateDraft) (t : Template) (between later : Office)
      (uploaded : Uploaded office between)
      (done : (Issuance.createTemplate catalog draft).perform office = (.ok t, later))
      (entered : later = between.withTemplate t) (new : IsNew catalog between t) :
      Reshapes office (.createTemplate catalog draft) later
  | removes (id : Int) (later : Office)
      (templates : later.ledger.templates = (office.ledger.removeTemplate id).templates) :
      Reshapes office (.deleteTemplate id) later

theorem reshapes (op : Operation) {office : Office} (sound : office.Sound) :
    op.Reshapes office (op.work.after office) := by
  cases op with
  | createTemplate catalog draft =>
      rw [work, Work.after_bind_pure, Work.after]
      obtain ⟨between, uploaded, ⟨failure, failed⟩ | ⟨t, done, new⟩⟩ :=
        creates_createTemplate catalog draft sound.vault
      · rw [failed]
        refine .none _ _ ?_
        rw [uploaded.state]
      · rw [done]
        exact .makes catalog draft t between _ uploaded done rfl new
  | setMapping catalog id proposed =>
      rw [Work.after]
      rcases setMapping_cases catalog id proposed office with
        ⟨failure, refused⟩ | ⟨template, mapping, found, checked, done⟩
      · rw [refused]
        exact .none _ _ rfl
      · rw [done]
        exact .maps catalog id proposed template mapping found checked _ rfl
  | checkIn registration time =>
      obtain ⟨attendances, changed⟩ := checkIn_cases registration time office
      rw [changed]
      exact .none _ _ rfl
  | generate options event template request =>
      rw [work, Work.after_bind_pure, Work.after]
      rcases Batch.run_cases options event template request office with
        ⟨failure, refused⟩ | ⟨found, held, source, participants, rejected, -, issued⟩
      · rw [refused]
        exact .none _ _ rfl
      · rw [issued]
        obtain ⟨rows, effect, -⟩ := Batch.effect_issueAll (options.commission found held source)
          (office.ledger.nextSerial held.id) participants sound
        refine .none _ _ ?_
        rw [effect.state]
  | mail event address request message =>
      rw [work, Work.after_bind_pure]
      refine .none _ _ ?_
      rw [(Mail.notified_notify event address request message sound.ledger).state]
  | purge dryRun =>
      rw [work, Work.after_bind_pure]
      refine .none _ _ ?_
      rw [(Purge.cleared_run dryRun sound.vault).state]
  | deleteTemplate id =>
      rw [Work.after]
      rcases deleteTemplate_cases id office with ⟨failure, refused⟩ | ⟨template, -, removed⟩
      · rw [refused]
        exact .none _ _ rfl
      · have cleared := @cleared_discardAll template.refs
          { office with ledger := office.ledger.removeTemplate id } sound.vault
        rw [Work.after, ← removed] at cleared
        refine .removes id _ ?_
        rw [cleared.state]

/-- What holds of new templates and under every mapping that passes the check is kept by all
operations. -/
theorem Reshapes.forall_templates {op : Operation} {office later : Office}
    (reshapes : op.Reshapes office later) {P : Template → Prop}
    (maps : ∀ catalog id proposed t mapping, op = .setMapping catalog id proposed →
      checkMapping catalog t.placeholders proposed = .ok mapping → P t →
        P { t with mapping := mergeMapping t.placeholders t.mapping mapping })
    (makes : ∀ catalog draft between t, op = .createTemplate catalog draft →
      Uploaded office between → later = between.withTemplate t → IsNew catalog between t → P t)
    (before : ∀ t ∈ office.ledger.templates, P t) : ∀ t ∈ later.ledger.templates, P t := by
  intro t member
  cases reshapes with
  | none op later templates =>
      rw [templates] at member
      exact before t member
  | maps catalog id proposed template mapping found checked later templates =>
      rw [templates] at member
      obtain ⟨old, present, changed⟩ := List.mem_map.1 member
      split at changed
      · rw [← changed]
        have known := before template (Ledger.mem_of_template? found)
        exact maps catalog id proposed template mapping rfl checked known
      · rw [← changed]
        exact before old present
  | makes catalog draft made between later uploaded done entered new =>
      have listed : t ∈ between.ledger.templates ++ [made] := by
        rw [entered] at member
        exact member
      rcases List.mem_append.1 listed with older | last
      · rw [uploaded.state] at older
        exact before t older
      · rw [List.mem_singleton.1 last]
        exact makes catalog draft between made rfl uploaded entered new
  | removes id later templates =>
      rw [templates] at member
      exact before t (List.mem_filter.1 member).1

end Operation

namespace Office

/-- What a step may do to the files: put some below other folders than that of the templates or at
the places of new uploads, or take some out. -/
inductive Refiles (office later : Office) : Prop
  | puts (touched : String → Path → Prop) (more : office.uploads ≤ later.uploads)
      (frame : Vault.Frame touched office.vault later.vault)
      (places : ∀ store path, touched store path → path.head? ≠ some "templates" ∨
        ∃ number fileName, office.uploads < number ∧ number ≤ later.uploads ∧
          path = uploadPath number fileName) : Refiles office later
  | clears (gone : String → Path → Prop) (uploads : later.uploads = office.uploads)
      (frame : Vault.Frame gone office.vault later.vault)
      (fewer : ∀ store path, later.vault.fileAt store path = office.vault.fileAt store path ∨
        later.vault.fileAt store path = none)
      (clear : ∀ store path, office.vault.IsClear store path → later.vault.IsClear store path) :
      Refiles office later

namespace Refiles

theorem of_eq {office later : Office} (sound : office.vault.Sound)
    (uploads : later.uploads = office.uploads) (vault : later.vault = office.vault) :
    Refiles office later := by
  refine .puts (fun _ _ => False) (Nat.le_of_eq uploads.symm) ?_ fun _ _ never => never.elim
  rw [vault]
  exact Vault.Frame.refl sound

theorem of_ledger {office later : Office} {ledger : Ledger}
    (refiles : Refiles { office with ledger } later) : Refiles office later := by
  cases refiles with
  | puts touched more frame places => exact .puts touched more frame places
  | clears gone uploads frame fewer clear => exact .clears gone uploads frame fewer clear

theorem more {office later : Office} (refiles : Refiles office later) :
    office.uploads ≤ later.uploads := by
  cases refiles with
  | puts touched more frame places => exact more
  | clears gone uploads frame fewer clear => exact Nat.le_of_eq uploads.symm

theorem located {office later : Office} (refiles : Refiles office later) (ref : String) :
    later.vault.location? ref = office.vault.location? ref := by
  cases refiles with
  | puts touched more frame places => exact frame.located ref
  | clears gone uploads frame fewer clear => exact frame.located ref

theorem of_uploaded {office later : Office} (uploaded : Uploaded office later) :
    Refiles office later :=
  .puts _ uploaded.more uploaded.frame fun _ _ place => Or.inr place

end Refiles

/-- Certificates lie below a folder of their own. -/
theorem refiles_issueAll (commission : Batch.Commission) (serial : Int)
    (participants : List Registration) {office : Office} (sound : office.Sound) :
    Refiles office (Batch.issueAll commission serial participants office).2 := by
  obtain ⟨rows, effect, after⟩ := Batch.effect_issueAll commission serial participants sound
  refine .puts _ ?_ effect.frame ?_
  · rw [effect.state]
  · rintro store path ⟨row, member, here⟩
    have entered : row ∈ (Batch.issueAll commission serial participants office).2.ledger.certificates := by
      rw [effect.certificates]
      exact List.mem_append_right _ member
    obtain ⟨store', format, artifact⟩ := after.kept row entered
    rw [← effect.frame.located, artifact.located] at here
    obtain ⟨-, rfl⟩ := Prod.mk.inj (Option.some.inj here)
    have folder : (Batch.artifactPath row.eventId row.registrationId row.codes.certificate
        format).head? = some "certificates" := rfl
    rw [folder]
    exact Or.inl (by decide)

theorem refiles_purge (dryRun : Bool) {office : Office} (sound : office.vault.Sound) :
    Refiles office ((Purge.run dryRun).after office) := by
  obtain ⟨report, later, done, swept⟩ := Purge.swept_run dryRun sound
  rw [Work.after, done]
  refine .clears _ ?_ swept.cleared.frame swept.cleared.fewer swept.clear
  rw [swept.cleared.state]

theorem refiles_discardAll (refs : List String) {office : Office} (sound : office.vault.Sound) :
    Refiles office ((discardAll refs).after office) := by
  have cleared := cleared_discardAll refs sound
  refine .clears _ ?_ cleared.frame cleared.fewer fun _ _ clear => isClear_discardAll refs sound clear
  rw [cleared.state]

theorem refiles_operation (op : Operation) {office : Office} (sound : office.Sound) :
    Refiles office (op.work.after office) := by
  cases op with
  | createTemplate catalog draft =>
      rw [Operation.work, Work.after_bind_pure, Work.after]
      obtain ⟨later, uploaded, ⟨failure, failed⟩ | ⟨t, done, -⟩⟩ :=
        creates_createTemplate catalog draft sound.vault
      · rw [failed]
        exact .of_uploaded uploaded
      · rw [done]
        exact .puts _ uploaded.more uploaded.frame fun _ _ place => Or.inr place
  | setMapping catalog id proposed =>
      rw [Work.after]
      rcases Operation.setMapping_cases catalog id proposed office with
        ⟨failure, refused⟩ | ⟨template, mapping, -, -, done⟩
      · rw [refused]
        exact .of_eq sound.vault rfl rfl
      · rw [done]
        exact .of_eq sound.vault rfl rfl
  | checkIn registration time =>
      obtain ⟨attendances, changed⟩ := Operation.checkIn_cases registration time office
      rw [changed]
      exact .of_eq sound.vault rfl rfl
  | generate options event template request =>
      rw [Operation.work, Work.after_bind_pure, Work.after]
      rcases Batch.run_cases options event template request office with
        ⟨failure, refused⟩ | ⟨found, held, source, participants, rejected, -, issued⟩
      · rw [refused]
        exact .of_eq sound.vault rfl rfl
      · rw [issued]
        exact refiles_issueAll _ _ participants sound
  | mail event address request message =>
      rw [Operation.work, Work.after_bind_pure]
      have notified := Mail.notified_notify event address request message sound.ledger
      apply Refiles.of_eq sound.vault
      · rw [notified.state]
      · rw [notified.state]
  | purge dryRun =>
      rw [Operation.work, Work.after_bind_pure]
      exact refiles_purge dryRun sound.vault
  | deleteTemplate id =>
      rw [Work.after]
      rcases Operation.deleteTemplate_cases id office with
        ⟨failure, refused⟩ | ⟨template, -, removed⟩
      · rw [refused]
        exact .of_eq sound.vault rfl rfl
      · rw [removed]
        exact .of_ledger (refiles_discardAll template.refs sound.vault)

theorem refiles_step (step : Step) {office : Office} (sound : office.Sound) :
    Refiles office (step.run office) := by
  cases step with
  | operation op => exact refiles_operation op sound
  | change circumstances =>
      refine .puts (fun _ _ => False) (Nat.le_refl _) ?_ fun _ _ never => never.elim
      exact Vault.frame_limit sound.vault circumstances.primaryFull circumstances.secondaryFull
        circumstances.locked

end Office
end Issuance
