import Issuance.Purge
import Issuance.Template.Removal
import Issuance.Proofs.Office
import Issuance.Proofs.Storage.Listings
import Issuance.Proofs.Work
/-!
Taking files out: nothing is ever put in their place. A purge looks at every file below its folders
once, and takes out those whose listed reference is not in use.
-/

namespace Issuance

/-- Files were taken out, of the given places only. -/
structure Cleared (gone : String → Storage.Path → Prop) (office later : Office) : Prop where
  state : later = { office with vault := later.vault }
  frame : Storage.Vault.Frame gone office.vault later.vault
  fewer : ∀ store path, later.vault.fileAt store path = office.vault.fileAt store path ∨
    later.vault.fileAt store path = none

namespace Cleared

variable {gone wider : String → Storage.Path → Prop} {first second third : Office}

theorem refl (sound : first.vault.Sound) : Cleared gone first first :=
  ⟨rfl, Storage.Vault.Frame.refl sound, fun _ _ => Or.inl rfl⟩

theorem trans (early : Cleared gone first second) (late : Cleared gone second third) :
    Cleared gone first third where
  state := by
    rw [late.state, early.state]
  frame := early.frame.trans late.frame
  fewer := by
    intro store path
    rcases late.fewer store path with kept | removed
    · rw [kept]
      exact early.fewer store path
    · exact Or.inr removed

theorem mono (cleared : Cleared gone first second)
    (more : ∀ store path, gone store path → wider store path) : Cleared wider first second :=
  ⟨cleared.state, cleared.frame.mono more, cleared.fewer⟩

end Cleared

theorem cleared_discard (ref : String) {office : Office} (sound : office.vault.Sound) :
    Cleared (fun store path => office.vault.location? ref = some (store, path)) office
      ((Work.discard ref).after office) where
  state := rfl
  frame := Storage.Vault.frame_delete sound ref
  fewer := Storage.Vault.fileAt_delete sound ref

theorem cleared_discardAll (refs : List String) {office : Office} (sound : office.vault.Sound) :
    Cleared (fun store path => ∃ ref ∈ refs, office.vault.location? ref = some (store, path)) office
      ((discardAll refs).after office) := by
  induction refs generalizing office with
  | nil => exact Cleared.refl sound
  | cons ref rest ih =>
      have first := cleared_discard ref sound
      rw [Work.after, discardAll, Work.perform_bind_of_ok (Work.perform_discard ref office)]
      refine (first.mono ?_).trans ((ih first.frame.sound).mono ?_)
      · intro store path here
        exact ⟨ref, List.mem_cons_self, here⟩
      · rintro store path ⟨other, member, here⟩
        exact ⟨other, List.mem_cons_of_mem ref member, (first.frame.located other).symm.trans here⟩

theorem isClear_discardAll (refs : List String) {office : Office} (sound : office.vault.Sound)
    {store : String} {path : Storage.Path} (clear : office.vault.IsClear store path) :
    ((discardAll refs).after office).vault.IsClear store path := by
  induction refs generalizing office with
  | nil => exact clear
  | cons ref rest ih =>
      have first := cleared_discard ref sound
      rw [Work.after, discardAll, Work.perform_bind_of_ok (Work.perform_discard ref office)]
      exact ih first.frame.sound (Storage.Vault.isClear_delete sound ref clear)

namespace Purge

/-- A reference as it is listed: spelled from the place to which it leads. -/
def IsListed (vault : Storage.Vault Content) (ref : String) : Prop :=
  ∃ store path, ref = Storage.Reference.text ⟨store, Storage.keyOf path⟩ ∧
    vault.location? ref = some (store, path)

theorem isListed_of_mem_refsBelow {vault : Storage.Vault Content} (sound : vault.Sound)
    {name ref : String} (listed : ref ∈ (vault.refsBelow name).map (·.text)) :
    IsListed vault ref ∧
      ∀ store path, vault.location? ref = some (store, path) → path.head? = some name := by
  obtain ⟨r, inside, rfl⟩ := List.mem_map.1 listed
  obtain ⟨store, next, rest, content, rfl, place, -⟩ := Storage.Vault.mem_refsBelow sound inside
  refine ⟨⟨store, _, rfl, place⟩, ?_⟩
  intro store' path' here
  rw [place] at here
  cases here
  rfl

/-- What a purge has done when it has looked at some files. -/
structure Swept (dryRun : Bool) (inUse refs : List String) (office later : Office)
    (first report : Report) : Prop where
  scanned : report.scanned = first.scanned + refs.length
  kept : report.kept = first.kept + refs.countP inUse.contains
  tried : dryRun = false → report.deleted + report.errors =
    first.deleted + first.errors + refs.countP fun ref => !inUse.contains ref
  idle : dryRun = true →
    later = office ∧ report.deleted = first.deleted ∧ report.errors = first.errors
  cleared : Cleared (fun store path =>
    Storage.Reference.text ⟨store, Storage.keyOf path⟩ ∉ inUse ∧
      ∃ ref ∈ refs, office.vault.location? ref = some (store, path)) office later
  locked : later.vault.locked = office.vault.locked
  clear : ∀ store path, office.vault.IsClear store path → later.vault.IsClear store path
  listings : ∀ name, (∀ ref ∈ refs, ∀ store path,
    office.vault.location? ref = some (store, path) → path.head? ≠ some name) →
      later.vault.refsBelow name = office.vault.refsBelow name
  emptied : dryRun = false → office.vault.locked = false →
    (∀ ref ∈ refs, ∃ store path, office.vault.location? ref = some (store, path) ∧
      office.vault.IsClear store path) →
    report.errors = first.errors ∧ ∀ ref ∈ refs, ref ∉ inUse → ∀ store path,
      office.vault.location? ref = some (store, path) → later.vault.fileAt store path = none

namespace Swept

variable {dryRun : Bool} {inUse : List String}

theorem nil {office : Office} (sound : office.vault.Sound) (report : Report) :
    Swept dryRun inUse [] office office report report where
  scanned := rfl
  kept := rfl
  tried := fun _ => rfl
  idle := fun _ => ⟨rfl, rfl, rfl⟩
  cleared := Cleared.refl sound
  locked := rfl
  clear := fun _ _ clear => clear
  listings := fun _ _ => rfl
  emptied := fun _ _ _ => ⟨rfl, fun _ none => absurd none List.not_mem_nil⟩

theorem append {refs others : List String} {office between later : Office}
    {first middle report : Report} (early : Swept dryRun inUse refs office between first middle)
    (late : Swept dryRun inUse others between later middle report) :
    Swept dryRun inUse (refs ++ others) office later first report where
  scanned := by
    rw [late.scanned, early.scanned, List.length_append, Nat.add_assoc]
  kept := by
    rw [late.kept, early.kept, List.countP_append, Nat.add_assoc]
  tried := by
    intro real
    rw [late.tried real, early.tried real, List.countP_append, Nat.add_assoc]
  idle := by
    intro dry
    obtain ⟨sameEarly, deletedEarly, errorsEarly⟩ := early.idle dry
    obtain ⟨sameLate, deletedLate, errorsLate⟩ := late.idle dry
    exact ⟨sameLate.trans sameEarly, deletedLate.trans deletedEarly, errorsLate.trans errorsEarly⟩
  cleared := by
    apply (early.cleared.mono _).trans (late.cleared.mono _)
    · rintro store path ⟨unused, ref, member, place⟩
      exact ⟨unused, ref, List.mem_append_left others member, place⟩
    · rintro store path ⟨unused, ref, member, place⟩
      exact ⟨unused, ref, List.mem_append_right refs member,
        (early.cleared.frame.located ref).symm.trans place⟩
  locked := late.locked.trans early.locked
  clear := fun store path clear => late.clear store path (early.clear store path clear)
  listings := by
    intro name apart
    rw [late.listings name, early.listings name]
    · exact fun ref member => apart ref (List.mem_append_left others member)
    · intro ref member store path place
      exact apart ref (List.mem_append_right refs member) store path
        ((early.cleared.frame.located ref).symm.trans place)
  emptied := by
    intro real unlocked reachable
    obtain ⟨errorsEarly, goneEarly⟩ := early.emptied real unlocked
      (fun ref member => reachable ref (List.mem_append_left others member))
    have stillReachable : ∀ ref ∈ others, ∃ store path,
        between.vault.location? ref = some (store, path) ∧
          between.vault.IsClear store path := by
      intro ref member
      obtain ⟨store, path, place, clear⟩ := reachable ref (List.mem_append_right refs member)
      exact ⟨store, path, (early.cleared.frame.located ref).trans place,
        early.clear store path clear⟩
    obtain ⟨errorsLate, goneLate⟩ := late.emptied real (early.locked.trans unlocked) stillReachable
    refine ⟨errorsLate.trans errorsEarly, ?_⟩
    intro ref member unused store path place
    rcases List.mem_append.1 member with before | after
    · -- nothing is ever put in the place of a file that was taken out
      rcases late.cleared.fewer store path with same | absent
      · exact same.trans (goneEarly ref before unused store path place)
      · exact absent
    · exact goneLate ref after unused store path
        ((early.cleared.frame.located ref).trans place)

end Swept

theorem counts_withSample (report : Report) (ref : String) :
    (report.withSample ref).scanned = report.scanned ∧
      (report.withSample ref).deleted = report.deleted ∧
      (report.withSample ref).kept = report.kept ∧
      (report.withSample ref).errors = report.errors := by
  unfold Report.withSample
  split
  · exact ⟨rfl, rfl, rfl, rfl⟩
  · exact ⟨rfl, rfl, rfl, rfl⟩

/-- A file may be left because it is in use, or because the purge is for show. -/
theorem swept_of_left {dryRun : Bool} {inUse : List String} {first report : Report} {ref : String}
    {office : Office} (sound : office.vault.Sound) (scanned : report.scanned = first.scanned + 1)
    (kept : report.kept = first.kept + [ref].countP inUse.contains)
    (deleted : report.deleted = first.deleted) (errors : report.errors = first.errors)
    (left : dryRun = false → ref ∈ inUse) : Swept dryRun inUse [ref] office office first report where
  scanned := scanned
  kept := kept
  tried := by
    intro real
    have used := List.contains_iff_mem.2 (left real)
    rw [List.countP_singleton, used, deleted, errors]
    rfl
  idle := fun _ => ⟨rfl, deleted, errors⟩
  cleared := Cleared.refl sound
  locked := rfl
  clear := fun _ _ clear => clear
  listings := fun _ _ => rfl
  emptied := by
    intro real _ _
    refine ⟨errors, ?_⟩
    intro other member unused
    rw [List.mem_singleton.1 member] at unused
    exact absurd (left real) unused

theorem swept_of_discarded {inUse : List String} {first report : Report} {ref : String}
    {office : Office} (sound : office.vault.Sound) (listed : IsListed office.vault ref)
    (unused : ref ∉ inUse) (scanned : report.scanned = first.scanned + 1)
    (kept : report.kept = first.kept)
    (tried : report.deleted + report.errors = first.deleted + first.errors + 1)
    (failed : report.errors = first.errors ∨
      ∃ fault, (office.vault.delete ref).1 = .error fault) :
    Swept false inUse [ref] office { office with vault := (office.vault.delete ref).2 } first
      report := by
  have absent : inUse.contains ref = false := by
    rw [← Bool.not_eq_true, List.contains_iff_mem]
    exact unused
  constructor
  · exact scanned
  · rw [List.countP_singleton, absent]
    exact kept
  · intro _
    rw [List.countP_singleton, absent]
    exact tried
  · exact nofun
  · apply (cleared_discard ref sound).mono
    intro store path here
    obtain ⟨store', path', spelled, located⟩ := listed
    rw [located] at here
    cases here
    exact ⟨spelled ▸ unused, ref, List.mem_cons_self, located⟩
  · exact Storage.Vault.locked_delete office.vault ref
  · exact fun _ _ => Storage.Vault.isClear_delete sound ref
  · exact fun _ apart => Storage.Vault.refsBelow_delete sound (apart ref List.mem_cons_self)
  · intro _ unlocked reachable
    obtain ⟨store, path, place, clear⟩ := reachable ref List.mem_cons_self
    obtain ⟨⟨done, accepted⟩, gone⟩ :=
      Storage.Vault.delete_of_isClear sound unlocked place clear
    constructor
    · rcases failed with same | ⟨fault, refused⟩
      · exact same
      · rw [refused] at accepted
        cases accepted
    · intro other member _ store' path' place'
      rw [List.mem_singleton.1 member, place] at place'
      cases place'
      exact gone

theorem swept_purgeOne (dryRun : Bool) (inUse : List String) (first : Report) {ref : String}
    {office : Office} (sound : office.vault.Sound) (listed : IsListed office.vault ref) :
    ∃ report later, (purgeOne dryRun inUse first ref).perform office = (.ok report, later) ∧
      Swept dryRun inUse [ref] office later first report := by
  unfold purgeOne
  simp only
  cases used : inUse.contains ref with
  | true =>
      refine ⟨_, office, rfl, swept_of_left sound rfl ?_ rfl rfl ?_⟩
      · rw [List.countP_singleton, used]
        rfl
      · exact fun _ => List.contains_iff_mem.1 used
  | false =>
      have unused : ref ∉ inUse := by
        rw [← List.contains_iff_mem, used]
        exact Bool.false_ne_true
      obtain ⟨scanned, deleted, kept, errors⟩ :=
        counts_withSample { first with scanned := first.scanned + 1 } ref
      generalize Report.withSample { first with scanned := first.scanned + 1 } ref = sample at *
      change sample.deleted = first.deleted at deleted
      change sample.errors = first.errors at errors
      rw [if_neg Bool.false_ne_true]
      cases dryRun with
      | true =>
          refine ⟨sample, office, rfl, swept_of_left sound scanned ?_ deleted errors nofun⟩
          rw [List.countP_singleton, used]
          exact kept
      | false =>
          rw [if_neg Bool.false_ne_true,
            Work.perform_bind_of_ok (Work.perform_discard ref office)]
          cases result : (office.vault.delete ref).1 with
          | ok done =>
              refine ⟨{ sample with deleted := sample.deleted + 1 }, _, rfl, ?_⟩
              apply swept_of_discarded sound listed unused
              · exact scanned
              · exact kept
              · simp only [deleted, errors]
                omega
              · exact Or.inl errors
          | error fault =>
              refine ⟨{ sample with errors := sample.errors + 1 }, _, rfl, ?_⟩
              apply swept_of_discarded sound listed unused
              · exact scanned
              · exact kept
              · simp only [deleted, errors]
                omega
              · exact Or.inr ⟨fault, result⟩

theorem swept_purgeAll (dryRun : Bool) (inUse : List String) (first : Report) {refs : List String}
    {office : Office} (sound : office.vault.Sound)
    (listed : ∀ ref ∈ refs, IsListed office.vault ref) :
    ∃ report later, (purgeAll dryRun inUse first refs).perform office = (.ok report, later) ∧
      Swept dryRun inUse refs office later first report := by
  induction refs generalizing office first with
  | nil => exact ⟨first, office, rfl, Swept.nil sound first⟩
  | cons ref rest ih =>
      obtain ⟨middle, between, one, early⟩ :=
        swept_purgeOne dryRun inUse first sound (listed ref List.mem_cons_self)
      have stillListed : ∀ other ∈ rest, IsListed between.vault other := by
        intro other member
        obtain ⟨store, path, spelled, place⟩ := listed other (List.mem_cons_of_mem ref member)
        exact ⟨store, path, spelled, (early.cleared.frame.located other).trans place⟩
      obtain ⟨report, later, others, late⟩ := ih middle early.cleared.frame.sound stillListed
      refine ⟨report, later, ?_, early.append late⟩
      rw [purgeAll, Work.perform_bind_of_ok one, others]

/-- The files below some folders, by the references under which they are listed. -/
def refsBelow (vault : Storage.Vault Content) (names : List String) : List String :=
  names.flatMap fun name => (vault.refsBelow name).map (·.text)

theorem swept_purgeFolders (dryRun : Bool) (inUse : List String) (first : Report)
    {names : List String} (plain : ∀ name ∈ names, Storage.IsPlain name) (distinct : names.Nodup)
    {office : Office} (sound : office.vault.Sound) :
    ∃ report later,
      (purgeFolders dryRun inUse first (names.map (· ++ "/"))).perform office =
        (.ok report, later) ∧
      Swept dryRun inUse (refsBelow office.vault names) office later first report := by
  induction names generalizing office first with
  | nil => exact ⟨first, office, rfl, Swept.nil sound first⟩
  | cons name rest ih =>
      obtain ⟨absent, others⟩ := List.nodup_cons.1 distinct
      have asked : (listed (name ++ "/")).perform office =
          (.ok ((office.vault.refsBelow name).map (·.text)), office) := by
        unfold listed
        rw [Work.perform_bind, Work.perform_get]
        simp only [Storage.Vault.list_folder office.vault (plain name List.mem_cons_self)]
        rfl
      have below := fun ref => @isListed_of_mem_refsBelow office.vault sound name ref
      obtain ⟨middle, between, here, early⟩ :=
        swept_purgeAll dryRun inUse first sound (fun ref member => (below ref member).1)
      obtain ⟨report, later, there, late⟩ := ih middle
        (fun other member => plain other (List.mem_cons_of_mem name member)) others
        early.cleared.frame.sound
      -- what lies below the other folders is listed as if nothing had been taken out before
      have same : refsBelow between.vault rest = refsBelow office.vault rest := by
        apply List.flatMap_congr
        intro other member
        rw [early.listings other]
        intro ref listed store path place headed
        rw [(below ref listed).2 store path place] at headed
        exact absent (Option.some.inj headed ▸ member)
      rw [same] at late
      refine ⟨report, later, ?_, early.append late⟩
      rw [List.map_cons, purgeFolders, Work.perform_bind_of_ok asked, Work.perform_bind_of_ok here,
        there]

def folderNames : List String := ["certificates", "templates"]

theorem isPlain_of_mem_folderNames {name : String} (member : name ∈ folderNames) :
    Storage.IsPlain name := by
  simp only [folderNames, List.mem_cons, List.not_mem_nil, or_false] at member
  rcases member with rfl | rfl
  · exact Storage.isPlain_of_mem (c := 'c') (by decide) (by decide) (by decide)
  · exact Storage.isPlain_of_mem (c := 't') (by decide) (by decide) (by decide)

/-- A purge never fails, and looks at all files below its folders as they are at its beginning. -/
theorem swept_run (dryRun : Bool) {office : Office} (sound : office.vault.Sound) :
    ∃ report later, (run dryRun).perform office = (.ok report, later) ∧
      Swept dryRun (refsInUse office.ledger) (refsBelow office.vault folderNames) office later
        .start report := by
  rw [run, Work.perform_bind_of_ok (Work.perform_ledger office)]
  exact swept_purgeFolders dryRun (refsInUse office.ledger) .start
    (fun _ => isPlain_of_mem_folderNames) (by decide) sound

/-- The places whose listed reference is not in use. -/
def IsUnused (inUse : List String) (store : String) (path : Storage.Path) : Prop :=
  Storage.Reference.text ⟨store, Storage.keyOf path⟩ ∉ inUse

/-- A purge takes out only files whose reference is not in use. -/
theorem cleared_run (dryRun : Bool) {office : Office} (sound : office.vault.Sound) :
    Cleared (IsUnused (refsInUse office.ledger)) office ((run dryRun).after office) := by
  obtain ⟨report, later, done, swept⟩ := swept_run dryRun sound
  rw [Work.after, done]
  exact swept.cleared.mono fun _ _ gone => gone.1

end Purge
end Issuance
