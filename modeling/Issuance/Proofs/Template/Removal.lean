import Issuance.Proofs.Durability
/-!
The removal of a template. Its row goes, and so does every file that it cites and that can be
reached; whoever else refers to such a file loses it, and nobody loses any other file.
-/

namespace Issuance

theorem vault_discardAll_of_locked (refs : List String) {office : Office}
    (locked : office.vault.locked = true) :
    ((discardAll refs).after office).vault = office.vault := by
  induction refs generalizing office with
  | nil => rfl
  | cons ref rest ih =>
      have kept : (office.vault.delete ref).2 = office.vault := by
        simp only [Storage.Vault.delete, locked, if_true]
      rw [Work.after, discardAll, Work.perform_bind_of_ok (Work.perform_discard ref office), kept]
      exact ih locked

theorem fileAt_discardAll {refs : List String} {office : Office} (sound : office.vault.Sound)
    (unlocked : office.vault.locked = false) {store : String} {path : Storage.Path}
    (cited : ∃ ref ∈ refs, office.vault.location? ref = some (store, path)) {content : Content}
    (there : office.vault.readAt store path = some content) :
    ((discardAll refs).after office).vault.fileAt store path = none := by
  induction refs generalizing office with
  | nil =>
      obtain ⟨ref, none, -⟩ := cited
      cases none
  | cons ref rest ih =>
      have first := cleared_discard ref sound
      have later := cleared_discardAll rest first.frame.sound
      rw [Work.after, discardAll, Work.perform_bind_of_ok (Work.perform_discard ref office)]
      by_cases here : office.vault.location? ref = some (store, path)
      · -- taken out now, and nothing brings it back
        have gone : ((Work.discard ref).after office).vault.fileAt store path = none :=
          Storage.Vault.fileAt_delete_of_readAt sound unlocked here there
        rcases later.fewer store path with same | absent
        · exact same.trans gone
        · exact absent
      · obtain ⟨other, member, place⟩ := cited
        have among : other ∈ rest := by
          rcases List.mem_cons.1 member with rfl | among
          · exact absurd place here
          · exact among
        refine ih first.frame.sound ?_ ⟨other, among, (first.frame.located other).trans place⟩
          (first.frame.reads store path content here there)
        exact (Storage.Vault.locked_delete office.vault ref).trans unlocked

theorem read_discardAll_iff (refs : List String) {office : Office} (sound : office.vault.Sound)
    {ref : String} {content : Content} (there : office.vault.read ref = .ok content) :
    ((discardAll refs).after office).vault.read ref = .ok content ↔
      office.vault.locked = true ∨
        ∀ cited ∈ refs, office.vault.location? cited ≠ office.vault.location? ref := by
  obtain ⟨store, path, place, readable⟩ := (Storage.Vault.read_eq_ok_iff sound).1 there
  have cleared := cleared_discardAll refs sound
  rw [place]
  constructor
  · intro remains
    cases locked : office.vault.locked with
    | true => exact Or.inl rfl
    | false =>
        refine Or.inr fun cited member same => ?_
        have gone := fileAt_discardAll sound locked ⟨cited, member, same⟩ readable
        obtain ⟨store', path', place', present⟩ :=
          (Storage.Vault.read_eq_ok_iff cleared.frame.sound).1 remains
        rw [cleared.frame.located, place] at place'
        cases place'
        rw [Storage.Vault.fileAt_of_readAt present] at gone
        cases gone
  · rintro (locked | apart)
    · rw [vault_discardAll_of_locked refs locked]
      exact there
    · refine cleared.frame.read sound there ?_
      rintro store' path' here ⟨cited, member, same⟩
      exact apart cited member (same.trans (here.symm.trans place))

theorem after_deleteTemplate {id : Int} {office later : Office} {t : Template}
    (found : office.ledger.template? id = some t)
    (done : (deleteTemplate id).perform office = (.ok (), later)) :
    later = (discardAll t.refs).after
      { office with ledger := office.ledger.removeTemplate id } := by
  have work : (Operation.deleteTemplate id).work.perform office = (.ok (), later) := done
  rcases Operation.deleteTemplate_cases id office with ⟨failure, refused⟩ | ⟨known, same, removed⟩
  · rw [refused] at work
    cases (Prod.mk.inj work).1
  · rw [found] at same
    cases same
    rw [removed] at work
    rw [Work.after, work]

/-- Of the files that certificates and other templates refer to, the removal of a template spares
exactly those that the template does not cite, whichever way the citation is spelled. The rows of
all of them stay; certificates only lose the name of the template. -/
theorem read_deleteTemplate_iff {office later : Office} (reachable : office.IsReachable) {id : Int}
    {t : Template} (found : office.ledger.template? id = some t)
    (done : (deleteTemplate id).perform office = (.ok (), later)) :
    later.ledger = office.ledger.removeTemplate id ∧
      ∀ ref content, office.vault.read ref = .ok content →
        (later.vault.read ref = .ok content ↔ office.vault.locked = true ∨
          ∀ cited ∈ t.refs, office.vault.location? cited ≠ office.vault.location? ref) := by
  have sound := reachable.sound.vault
  rw [after_deleteTemplate found done]
  have cleared := @cleared_discardAll t.refs
    { office with ledger := office.ledger.removeTemplate id } sound
  constructor
  · rw [cleared.state]
  · intro ref content there
    exact @read_discardAll_iff t.refs { office with ledger := office.ledger.removeTemplate id } sound
      ref content there

/-! After the launch a canvas is made that shows the guest's certificate. Its removal takes the
certificate's file along; that of the template from which the certificate was made does not. -/

namespace Launch

def citingDraft : TemplateDraft :=
  { draft with
    canvas := .value (.obj [("background", .str "primary:certificates/1/1/CERT-000000000001.png")]) }

def citingHistory : List Step :=
  history ++ [.operation (.generate options 1 1 none),
    .operation (.createTemplate .standard citingDraft)]

theorem isReachable_through_citingHistory : (start.through citingHistory).IsReachable := by
  refine ⟨start, citingHistory, isFresh_start, ?_, rfl⟩
  intro step member
  rcases List.mem_append.1 member with early | late
  · exact isOrdinary_history step early
  · simp only [List.mem_cons, List.not_mem_nil, or_false] at late
    rcases late with rfl | rfl
    · trivial
    · trivial

end Launch

theorem launch_removal_spares_certificate :
    ∃ t content later,
      (Launch.start.through Launch.citingHistory).ledger.template? 1 = some t ∧
      (deleteTemplate 1).perform (Launch.start.through Launch.citingHistory) = (.ok (), later) ∧
      (Launch.start.through Launch.citingHistory).vault.read Launch.certificate.fileRef =
        .ok content ∧
      later.vault.read Launch.certificate.fileRef = .ok content := by
  have facts : ((Launch.start.through Launch.citingHistory).ledger.template? 1).map
        Template.refs = some [] ∧
      ((Launch.start.through Launch.citingHistory).vault.read
        Launch.certificate.fileRef).isOk = true ∧
      ((deleteTemplate 1).perform (Launch.start.through Launch.citingHistory)).1.isOk = true := by
    decide +kernel
  have reachable := Launch.isReachable_through_citingHistory
  generalize Launch.start.through Launch.citingHistory = office at *
  obtain ⟨known, readable, removed⟩ := facts
  obtain ⟨t, found, refs⟩ := Option.map_eq_some_iff.1 known
  obtain ⟨content, there⟩ := exists_ok_of_isOk readable
  cases done : (deleteTemplate 1).perform office with
  | mk result later =>
      rw [done] at removed
      obtain ⟨_, rfl⟩ := exists_ok_of_isOk removed
      refine ⟨t, content, later, found, rfl, there, ?_⟩
      obtain ⟨-, spared⟩ := read_deleteTemplate_iff reachable found done
      apply (spared _ content there).2
      rw [refs]
      exact Or.inr fun cited none => absurd none List.not_mem_nil

/-- The removal of a template may take the file of a certificate that was issued from another. -/
theorem launch_removal_takes_certificate :
    ¬∀ office : Office, office.IsReachable → ∀ (id : Int) (later : Office),
      (deleteTemplate id).perform office = (.ok (), later) →
        ∀ c ∈ office.ledger.certificates, ∀ content, office.vault.read c.fileRef = .ok content →
          later.vault.read c.fileRef = .ok content := by
  intro spares
  have facts : Launch.certificate ∈
        (Launch.start.through Launch.citingHistory).ledger.certificates ∧
      ((Launch.start.through Launch.citingHistory).vault.read
        Launch.certificate.fileRef).isOk = true ∧
      ((deleteTemplate 2).perform (Launch.start.through Launch.citingHistory)).1.isOk = true ∧
      (((deleteTemplate 2).after (Launch.start.through Launch.citingHistory)).vault.read
        Launch.certificate.fileRef).isOk = false := by
    decide +kernel
  have reachable := Launch.isReachable_through_citingHistory
  generalize Launch.start.through Launch.citingHistory = office at *
  obtain ⟨issued, readable, removed, lost⟩ := facts
  obtain ⟨content, there⟩ := exists_ok_of_isOk readable
  cases done : (deleteTemplate 2).perform office with
  | mk result later =>
      rw [Work.after, done] at lost
      rw [done] at removed
      obtain ⟨_, rfl⟩ := exists_ok_of_isOk removed
      rw [spares office reachable 2 later done _ issued content there] at lost
      cases lost

end Issuance
