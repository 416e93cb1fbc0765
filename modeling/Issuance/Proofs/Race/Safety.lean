import Issuance.Proofs.Race.Claims
/-!
Batches that run at the same time do each other no harm: whatever the order of their steps, the
ledger keeps its rows apart, every row keeps its file, and of several batches at most one issues a
certificate to a participant.
-/

namespace Issuance
namespace Batch
namespace Race

variable {ι : Type} [DecidableEq ι]

/-- A step that enters no row is seen by the others as a change of its own files at most. -/
theorem Passes.of_frame {race later : Race ι} {i : ι} {registration : Int}
    (sound : race.office.Sound) {runner : Runner}
    (runners : later.runners = Function.update race.runners i runner)
    (commission : runner.commission = (race.runners i).commission)
    (ledger : later.office.ledger = race.office.ledger)
    (codes : later.office.codes.IsGenerated) (unrivalled : later.office.IsUnrivalled)
    (draws : race.draws <+: later.draws)
    (puts : ∀ j, j ≠ i → Assoc.get? j later.puts = Assoc.get? j race.puts)
    (frame : Storage.Vault.Frame
      (fun _ path => ∃ codes format, race.Claims i registration codes ∧
        path = artifactPath (race.runners i).commission.event.id registration codes.certificate
          format) race.office.vault later.office.vault)
    (locked : later.office.vault.locked = race.office.vault.locked) :
    race.Passes later i registration where
  sound := sound.of_issues_eq frame.sound frame.located (by rw [ledger]) codes unrivalled
  others := by
    intro j different
    rw [runners, Function.update_of_ne different]
  commission := by rw [runners, Function.update_self, commission]
  draws := draws
  puts := puts
  rows := Or.inl (by rw [ledger])
  frame := frame
  locked := locked

/-- Every step of a batch leaves the others what is theirs. -/
theorem passes_of_goes {race later : Race ι} {i : ι} {registration : Registration}
    {rest : List Registration} (sound : race.office.Sound) (orderly : race.Orderly i)
    (waiting : (race.runners i).waiting = registration :: rest)
    (goes : race.Goes i registration rest later) : race.Passes later i registration.id := by
  cases goes with
  | ahead left progress supply supplied idle =>
      exact .of_frame sound rfl rfl rfl supplied sound.unrivalled List.prefix_rfl (fun _ _ => rfl)
        (Storage.Vault.Frame.refl sound.vault) rfl
  | drew left codes supply supplied idle generated free =>
      exact .of_frame sound rfl rfl rfl supplied sound.unrivalled (List.prefix_append _ _)
        (fun _ _ => rfl) (Storage.Vault.Frame.refl sound.vault) rfl
  | ended setback vault disturbances idle refused fewer =>
      exact .of_frame sound rfl rfl rfl sound.codes
        (fun entry member => sound.unrivalled entry (fewer entry member)) List.prefix_rfl
        (fun _ _ => rfl) (refused.frame.mono fun _ _ never => never.elim) refused.locked
  | stored left codes artifact place vault disturbances stage drawing received fewer =>
      refine .of_frame sound rfl rfl rfl sound.codes
        (fun entry member => sound.unrivalled entry (fewer entry member)) List.prefix_rfl ?_
        (received.frame.mono ?_) received.locked
      · intro j different
        exact if_neg (Ne.symm different)
      · rintro store path ⟨-, rfl⟩
        exact ⟨codes, artifact.format, orderly.claims waiting stage, rfl⟩
  | filed left codes format place stage accepted =>
      have file := orderly.hasFile waiting stage
      refine ⟨⟨sound.vault, sound.ledger.withEntered accepted, sound.codes, sound.unrivalled, ?_⟩,
        fun j different => Function.update_of_ne different _ _, ?_, List.prefix_rfl,
        fun _ _ => rfl, ?_, Storage.Vault.Frame.refl sound.vault, rfl⟩
      · intro c member
        rcases List.mem_append.1 member with older | last
        · exact sound.kept c older
        · rw [List.mem_singleton.1 last]
          exact ⟨place.ref.store, format, file.artifact⟩
      · simp only [Function.update_self, Runner.commission_report]
      · exact Or.inr ⟨_, file.claims, rfl, rfl, rfl⟩
  | refused left codes format place progress stage =>
      exact .of_frame sound rfl rfl rfl sound.codes sound.unrivalled List.prefix_rfl
        (fun _ _ => rfl) (Storage.Vault.Frame.refl sound.vault) rfl
  | lost left place setback stage =>
      obtain ⟨codes, format, file⟩ := orderly.exists_hasFile waiting stage
      refine .of_frame sound rfl rfl rfl sound.codes sound.unrivalled List.prefix_rfl
        (fun _ _ => rfl) ((Storage.Vault.frame_delete sound.vault _).mono ?_)
        (Storage.Vault.locked_delete _ _)
      intro store path here
      rw [file.artifact.located] at here
      cases here
      exact ⟨codes, format, file.claims, rfl⟩
  | resumed left place progress stage =>
      obtain ⟨codes, format, file⟩ := orderly.exists_hasFile waiting stage
      refine .of_frame sound rfl rfl rfl sound.codes sound.unrivalled List.prefix_rfl
        (fun _ _ => rfl) ((Storage.Vault.frame_delete sound.vault _).mono ?_)
        (Storage.Vault.locked_delete _ _)
      intro store path here
      rw [file.artifact.located] at here
      cases here
      exact ⟨codes, format, file.claims, rfl⟩

/-- A batch on turn stays orderly. -/
theorem orderly_of_goes {race later : Race ι} {i : ι} {registration : Registration}
    {rest : List Registration} (sound : race.office.Sound) (orderly : race.Orderly i)
    (waiting : (race.runners i).waiting = registration :: rest)
    (goes : race.Goes i registration rest later) : later.Orderly i := by
  cases goes with
  | ahead left progress supply supplied idle =>
      simp only [Orderly, Function.update_self, Runner.waiting_proceed, Runner.attempt_proceed,
        waiting]
  | drew left codes supply supplied idle generated free =>
      simp only [Orderly, Function.update_self, Runner.waiting_proceed, Runner.attempt_proceed,
        waiting]
      refine ⟨generated, List.mem_append_right _ (List.mem_singleton.2 rfl), ?_⟩
      rintro c member ⟨-, -, sameCode⟩
      have taken : race.office.ledger.codesTaken codes = true :=
        Ledger.codesTaken_iff.2 ⟨c, member, Or.inl sameCode⟩
      rw [free] at taken
      cases taken
  | ended setback vault disturbances idle refused fewer =>
      cases rest <;> simp only [Orderly, Function.update_self, Runner.waiting_report,
        Runner.attempt_report, Attempt.start]
  | stored left codes artifact place vault disturbances stage drawing received fewer =>
      have claims := orderly.claims waiting stage
      simp only [Orderly, Function.update_self, Runner.waiting_proceed, Runner.attempt_proceed,
        waiting]
      have artifactRef := isArtifactRef_of_received sound.vault claims.generated drawing received
      refine ⟨⟨claims.generated, claims.drawn, ?_⟩, ?_, artifact.content, if_pos rfl, ?_⟩
      · simp only [Function.update_self, Runner.commission_proceed]
        exact claims.free
      · simp only [Function.update_self, Runner.commission_proceed]
        exact artifactRef
      · exact received.read sound.vault artifactRef.plain
  | filed left codes format place stage accepted =>
      cases rest <;> simp only [Orderly, Function.update_self, Runner.waiting_report,
        Runner.attempt_report, Attempt.start]
  | refused left codes format place progress stage =>
      have file := orderly.hasFile waiting stage
      simp only [Orderly, Function.update_self, Runner.waiting_proceed, Runner.attempt_proceed,
        waiting]
      refine ⟨codes, format, ⟨file.claims.generated, file.claims.drawn, ?_⟩, ?_, file.put⟩
      · simp only [Function.update_self, Runner.commission_proceed]
        exact file.claims.free
      · simp only [Function.update_self, Runner.commission_proceed]
        exact file.artifact
  | lost left place setback stage =>
      cases rest <;> simp only [Orderly, Function.update_self, Runner.waiting_report,
        Runner.attempt_report, Attempt.start]
  | resumed left place progress stage =>
      simp only [Orderly, Function.update_self, Runner.waiting_proceed, Runner.attempt_proceed,
        waiting]

/-- The rows that a step enters are on record with the content of their files. -/
theorem filed_of_goes {race later : Race ι} {i : ι} {registration : Registration}
    {rest : List Registration} (orderly : race.Orderly i)
    (waiting : (race.runners i).waiting = registration :: rest)
    (goes : race.Goes i registration rest later) :
    ∃ added, later.filed = race.filed ++ added ∧
      later.office.ledger.certificates =
        race.office.ledger.certificates ++ added.map (·.1) ∧
      ∀ entry ∈ added, later.office.vault.read entry.1.fileRef = .ok entry.2 := by
  have nothing : later.filed = race.filed →
      later.office.ledger.certificates = race.office.ledger.certificates →
        ∃ added, later.filed = race.filed ++ added ∧
          later.office.ledger.certificates =
            race.office.ledger.certificates ++ added.map (·.1) ∧
          ∀ entry ∈ added, later.office.vault.read entry.1.fileRef = .ok entry.2 := by
    intro sameFiled sameRows
    refine ⟨[], ?_, ?_, fun _ none => absurd none List.not_mem_nil⟩
    · rw [sameFiled, List.append_nil]
    · rw [sameRows, List.map_nil, List.append_nil]
  cases goes with
  | ahead | drew | ended | stored | refused | lost | resumed => exact nothing rfl rfl
  | filed left codes format place stage accepted =>
      obtain ⟨content, last, there⟩ := (orderly.hasFile waiting stage).put
      rw [last]
      refine ⟨_, rfl, rfl, ?_⟩
      intro entry member
      rw [List.mem_singleton.1 member]
      exact there

/-- A success that a step reports is for a participant who held nothing and now holds a
certificate. -/
theorem results_of_goes {race later : Race ι} {i : ι} {registration : Registration}
    {rest : List Registration} (goes : race.Goes i registration rest later) {result : Result}
    (member : result ∈ (later.runners i).results) (success : result.outcome.isSuccess = true) :
    result ∈ (race.runners i).results ∨
      (race.office.ledger.holds (race.runners i).commission.event.id result.participantId = false ∧
        later.office.ledger.holds (race.runners i).commission.event.id result.participantId =
          true) := by
  have reported : ∀ setback,
      later.runners i = (race.runners i).report registration rest (.setback setback) →
        result ∈ (race.runners i).results := by
    intro setback same
    rw [same] at member
    rcases List.mem_append.1 member with older | last
    · exact older
    · rw [List.mem_singleton.1 last] at success
      cases success
  cases goes with
  | ahead | drew | stored | refused | resumed =>
      simp only [Function.update_self, Runner.results_proceed] at member
      exact Or.inl member
  | ended setback => exact Or.inl (reported setback (Function.update_self _ _ _))
  | lost left place setback => exact Or.inl (reported setback (Function.update_self _ _ _))
  | filed left codes format place stage accepted =>
      simp only [Function.update_self] at member
      rcases List.mem_append.1 member with older | last
      · exact Or.inl older
      · rw [List.mem_singleton.1 last]
        refine Or.inr ⟨(Ledger.accepts_iff.1 accepted).1, ?_⟩
        exact Ledger.holds_iff.2 ⟨_, List.mem_append_right _ (List.mem_singleton.2 rfl), rfl, rfl⟩

/-- A file that was put is accounted for: it is gone, a row refers to it, or its batch is not done
with it. -/
def Accounts (race : Race ι) (ref : String) : Prop :=
  ∃ store path, Storage.IsPlainPath path ∧
    ref = Storage.Reference.text ⟨store, Storage.keyOf path⟩ ∧
    race.office.vault.location? ref = some (store, path) ∧
    (race.office.vault.fileAt store path = none ∨
      (∃ c ∈ race.office.ledger.certificates, c.fileRef = ref) ∨
        ∃ i, (race.runners i).attempt.fileRef? = some ref)

/-- What is gone stays gone, unless the batch on turn puts a file in its place. -/
theorem gone_of_goes {race later : Race ι} {i : ι} {registration : Registration}
    {rest : List Registration} (sound : race.office.Sound)
    (goes : race.Goes i registration rest later) {store : String} {path : Storage.Path}
    (gone : race.office.vault.fileAt store path = none) :
    later.office.vault.fileAt store path = none ∨
      (later.runners i).attempt.fileRef? =
        some (Storage.Reference.text ⟨store, Storage.keyOf path⟩) := by
  cases goes with
  | ahead | drew | filed | refused => exact Or.inl gone
  | ended setback vault disturbances idle refused fewer =>
      exact Or.inl ((refused.frame.files store path fun never => never).trans gone)
  | stored left codes artifact place vault disturbances stage drawing received fewer =>
      by_cases here : store = place.ref.store ∧ path = artifactPath
        (race.runners i).commission.event.id registration.id codes.certificate artifact.format
      · obtain ⟨rfl, rfl⟩ := here
        refine Or.inr ?_
        rw [← received.text]
        simp only [Function.update_self, Runner.attempt_proceed, Attempt.fileRef?]
      · exact Or.inl ((received.frame.files store path here).trans gone)
  | lost left place setback stage =>
      rcases Storage.Vault.fileAt_delete sound.vault place.ref.text store path with same | none
      · exact Or.inl (same.trans gone)
      · exact Or.inl none
  | resumed left place progress stage =>
      rcases Storage.Vault.fileAt_delete sound.vault place.ref.text store path with same | none
      · exact Or.inl (same.trans gone)
      · exact Or.inl none

/-- A batch that has put a file is still busy with it after its step, or has entered it in a row,
or has taken it away. -/
theorem busy_of_goes {race later : Race ι} {i : ι} {registration : Registration}
    {rest : List Registration} (sound : race.office.Sound)
    (unlocked : race.office.vault.locked = false) (orderly : race.Orderly i)
    (waiting : (race.runners i).waiting = registration :: rest)
    (goes : race.Goes i registration rest later) {ref store : String} {path : Storage.Path}
    (located : race.office.vault.location? ref = some (store, path))
    (busy : (race.runners i).attempt.fileRef? = some ref) :
    later.office.vault.fileAt store path = none ∨
      (∃ c ∈ later.office.ledger.certificates, c.fileRef = ref) ∨
        (later.runners i).attempt.fileRef? = some ref := by
  have withdrawn : ∀ left place, (race.runners i).attempt.stage = .withdrawing left place →
      (race.office.vault.delete place.ref.text).2.fileAt store path = none := by
    intro left place stage
    obtain ⟨codes, format, file⟩ := orderly.exists_hasFile waiting stage
    simp only [Attempt.fileRef?, stage, Option.some.injEq] at busy
    rw [← busy, file.artifact.located] at located
    cases located
    exact file.fileAt_delete sound unlocked
  cases goes with
  | ahead left progress supply supplied idle => exact absurd busy (idle ref)
  | drew left codes supply supplied idle generated free => exact absurd busy (idle ref)
  | ended setback vault disturbances idle refused fewer => exact absurd busy (idle ref)
  | stored left codes artifact place vault disturbances stage drawing received fewer =>
      simp only [Attempt.fileRef?, stage] at busy
      cases busy
  | filed left codes format place stage accepted =>
      simp only [Attempt.fileRef?, stage, Option.some.injEq] at busy
      exact Or.inr (Or.inl ⟨_, List.mem_append_right _ (List.mem_singleton.2 rfl), busy⟩)
  | refused left codes format place progress stage =>
      simp only [Attempt.fileRef?, stage] at busy
      refine Or.inr (Or.inr ?_)
      simp only [Function.update_self, Runner.attempt_proceed, Attempt.fileRef?]
      exact busy
  | lost left place setback stage => exact Or.inl (withdrawn left place stage)
  | resumed left place progress stage => exact Or.inl (withdrawn left place stage)

theorem accounts_of_goes {race later : Race ι} {i : ι} {registration : Registration}
    {rest : List Registration} (sound : race.office.Sound)
    (unlocked : race.office.vault.locked = false) (orderly : race.Orderly i)
    (waiting : (race.runners i).waiting = registration :: rest)
    (goes : race.Goes i registration rest later) {ref : String} (accounts : race.Accounts ref) :
    later.Accounts ref := by
  have passes := passes_of_goes sound orderly waiting goes
  obtain ⟨store, path, plain, spelled, located, state⟩ := accounts
  refine ⟨store, path, plain, spelled, (passes.frame.located ref).trans located, ?_⟩
  rcases state with gone | ⟨c, member, same⟩ | ⟨j, busy⟩
  · rcases gone_of_goes sound goes gone with still | put
    · exact Or.inl still
    · exact Or.inr (Or.inr ⟨i, spelled ▸ put⟩)
  · exact Or.inr (Or.inl ⟨c, passes.mem_of_mem member, same⟩)
  · by_cases own : j = i
    · subst own
      rcases busy_of_goes sound unlocked orderly waiting goes located busy with gone | row | still
      · exact Or.inl gone
      · exact Or.inr (Or.inl row)
      · exact Or.inr (Or.inr ⟨j, still⟩)
    · refine Or.inr (Or.inr ⟨j, ?_⟩)
      rw [passes.others j own]
      exact busy

/-- A file that a step puts is accounted for, as its batch is not done with it. -/
theorem puts_of_goes {race later : Race ι} {i : ι} {registration : Registration}
    {rest : List Registration} (sound : race.office.Sound) (orderly : race.Orderly i)
    (waiting : (race.runners i).waiting = registration :: rest)
    (goes : race.Goes i registration rest later) :
    ∀ file ∈ later.puts, file ∈ race.puts ∨ later.Accounts file.2.1 := by
  cases goes with
  | ahead | drew | ended | filed | refused | lost | resumed =>
      exact fun file member => Or.inl member
  | stored left codes artifact place vault disturbances stage drawing received fewer =>
      intro file member
      rcases List.mem_cons.1 member with rfl | older
      · have claims := orderly.claims waiting stage
        have artifactRef := isArtifactRef_of_received sound.vault claims.generated drawing received
        refine Or.inr ⟨place.ref.store, _, artifactRef.plain, received.text, artifactRef.located,
          Or.inr (Or.inr ⟨i, ?_⟩)⟩
        simp only [Function.update_self, Runner.attempt_proceed, Attempt.fileRef?]
      · exact Or.inl older

/-- What holds at every point of a race that began in an office. -/
structure Invariant (start : Office) (race : Race ι) : Prop where
  office : race.office.Sound
  locked : race.office.vault.locked = start.vault.locked
  orderly : ∀ i, race.Orderly i
  rows : race.office.ledger.certificates = start.ledger.certificates ++ race.filed.map (·.1)
  kept : Office.Guards start race.office
  files : ∀ entry ∈ race.filed, race.office.vault.read entry.1.fileRef = .ok entry.2
  reported : ∀ i, ∀ result ∈ (race.runners i).results, result.outcome.isSuccess = true →
    start.ledger.holds (race.runners i).commission.event.id result.participantId = false ∧
      race.office.ledger.holds (race.runners i).commission.event.id result.participantId = true
  once : ∀ i j, ∀ result ∈ (race.runners i).results, ∀ other ∈ (race.runners j).results,
    result.outcome.isSuccess = true → other.outcome.isSuccess = true →
      (race.runners i).commission.event.id = (race.runners j).commission.event.id →
        result.participantId = other.participantId → i = j
  accounts : start.vault.locked = false → ∀ file ∈ race.puts, race.Accounts file.2.1

theorem invariant_start {office : Office} (sound : office.Sound) (entrants : ι → Entrant) :
    Invariant office (start office entrants) where
  office := sound
  locked := rfl
  orderly := by
    intro i
    cases waiting : (entrants i).participants with
    | nil => simp only [Orderly, start, Runner.start, Attempt.start, waiting]
    | cons registration rest => simp only [Orderly, start, Runner.start, Attempt.start, waiting]
  rows := (List.append_nil _).symm
  kept := fun _ _ _ there => there
  files := fun _ none => absurd none List.not_mem_nil
  reported := fun _ _ none => absurd none List.not_mem_nil
  once := fun _ _ _ none => absurd none List.not_mem_nil
  accounts := fun _ _ none => absurd none List.not_mem_nil

/-- The results of a batch that was not on turn, and of one that was. -/
theorem Passes.results {race later : Race ι} {i : ι} {registration : Registration}
    {rest : List Registration} (goes : race.Goes i registration rest later)
    (passes : race.Passes later i registration.id) (j : ι) {result : Result}
    (member : result ∈ (later.runners j).results) (success : result.outcome.isSuccess = true) :
    (later.runners j).commission = (race.runners j).commission ∧
      (result ∈ (race.runners j).results ∨
        (j = i ∧ race.office.ledger.holds (race.runners j).commission.event.id
            result.participantId = false ∧
          later.office.ledger.holds (race.runners j).commission.event.id
            result.participantId = true)) := by
  by_cases own : j = i
  · subst own
    refine ⟨passes.commission, ?_⟩
    rcases results_of_goes goes member success with older | ⟨free, held⟩
    · exact Or.inl older
    · exact Or.inr ⟨rfl, free, held⟩
  · rw [passes.others j own] at member ⊢
    exact ⟨rfl, Or.inl member⟩

theorem invariant_of_goes {start : Office} {race later : Race ι} {i : ι}
    {registration : Registration} {rest : List Registration} (invariant : Invariant start race)
    (waiting : (race.runners i).waiting = registration :: rest) (apart : later.DrawsApart)
    (goes : race.Goes i registration rest later) : Invariant start later := by
  have passes := passes_of_goes invariant.office (invariant.orderly i) waiting goes
  have guards := passes.guards invariant.office
  obtain ⟨added, filed, rows, read⟩ := filed_of_goes (invariant.orderly i) waiting goes
  have mono {eventId registrationId : Int}
      (holds : race.office.ledger.holds eventId registrationId = true) :
      later.office.ledger.holds eventId registrationId = true :=
    Ledger.holds_mono (fun c member => passes.mem_of_mem member) holds
  refine ⟨passes.sound, passes.locked.trans invariant.locked, ?_, ?_, ?_, ?_, ?_, ?_, ?_⟩
  · intro j
    by_cases own : j = i
    · subst own
      exact orderly_of_goes invariant.office (invariant.orderly j) waiting goes
    · exact (invariant.orderly j).passes invariant.office apart own passes
  · rw [rows, invariant.rows, filed, List.map_append, List.append_assoc]
  · intro c member content there
    have present : c ∈ race.office.ledger.certificates :=
      invariant.rows ▸ List.mem_append_left _ member
    exact guards c present content (invariant.kept c member content there)
  · intro entry member
    rw [filed] at member
    rcases List.mem_append.1 member with older | new
    · have present : entry.1 ∈ race.office.ledger.certificates :=
        invariant.rows ▸ List.mem_append_right _ (List.mem_map_of_mem older)
      exact guards entry.1 present entry.2 (invariant.files entry older)
    · exact read entry new
  · intro j result member success
    obtain ⟨commission, older | ⟨-, free, held⟩⟩ := passes.results goes j member success
    · obtain ⟨before, holds⟩ := invariant.reported j result older success
      rw [commission]
      exact ⟨before, mono holds⟩
    · rw [commission]
      refine ⟨eq_false_of_ne_true fun holds => ?_, held⟩
      have rows : ∀ c ∈ start.ledger.certificates, c ∈ race.office.ledger.certificates :=
        fun c present => invariant.rows ▸ List.mem_append_left _ present
      have still := Ledger.holds_mono rows holds
      rw [free] at still
      cases still
  · intro j k result member other member' success success' sameEvent samePerson
    obtain ⟨commission, older | ⟨own, free, -⟩⟩ := passes.results goes j member success
    · obtain ⟨commission', older' | ⟨own', free', -⟩⟩ := passes.results goes k member' success'
      · rw [commission, commission'] at sameEvent
        exact invariant.once j k result older other older' success success' sameEvent samePerson
      · have holds := (invariant.reported j result older success).2
        rw [commission, commission'] at sameEvent
        rw [sameEvent, samePerson, free'] at holds
        cases holds
    · obtain ⟨commission', older' | ⟨own', free', -⟩⟩ := passes.results goes k member' success'
      · have holds := (invariant.reported k other older' success').2
        rw [commission, commission'] at sameEvent
        rw [← sameEvent, ← samePerson, free] at holds
        cases holds
      · exact own.trans own'.symm
  · intro unlocked file member
    have open' : race.office.vault.locked = false := invariant.locked.trans unlocked
    rcases puts_of_goes invariant.office (invariant.orderly i) waiting goes file member with
      older | new
    · exact accounts_of_goes invariant.office open' (invariant.orderly i) waiting goes
        (invariant.accounts unlocked file older)
    · exact new

theorem draws_prefix_step (race : Race ι) (i : ι) : race.draws <+: (race.step i).draws :=
  List.prefix_append _ _

theorem draws_prefix_through (race : Race ι) (order : List ι) :
    race.draws <+: (race.through order).draws := by
  induction order generalizing race with
  | nil => exact List.prefix_rfl
  | cons i rest ih => exact (race.draws_prefix_step i).trans (ih (race.step i))

theorem invariant_step {start : Office} {race : Race ι} (invariant : Invariant start race) (i : ι)
    (apart : (race.step i).DrawsApart) : Invariant start (race.step i) := by
  cases waiting : (race.runners i).waiting with
  | nil =>
      rw [step_of_nil waiting]
      exact invariant
  | cons registration rest =>
      obtain ⟨ready, unsettled⟩ := (invariant.orderly i).ready waiting
      exact invariant_of_goes invariant waiting apart
        (goes_step invariant.office waiting ready unsettled)

theorem invariant_through {start : Office} {race : Race ι} (invariant : Invariant start race)
    (order : List ι) (apart : (race.through order).DrawsApart) :
    Invariant start (race.through order) := by
  induction order generalizing race with
  | nil => exact invariant
  | cons i rest ih =>
      refine ih ?_ apart
      exact invariant_step invariant i (apart.of_prefix ((race.step i).draws_prefix_through rest))

/-- What the batches of a race do not do to each other. Rows stay apart, none is lost, and each
keeps its file: those from before the race as they were, the others with what was put for them. A
file that is put and not yet entered stays as well. A certificate is issued by one batch at most, and
only to a participant who held none. -/
structure IsSafe (start : Office) (race : Race ι) : Prop where
  ledger : race.office.ledger.Sound
  rows : race.office.ledger.certificates = start.ledger.certificates ++ race.filed.map (·.1)
  kept : Office.Guards start race.office
  files : ∀ entry ∈ race.filed, race.office.vault.read entry.1.fileRef = .ok entry.2
  pending : ∀ i ref, (race.runners i).attempt.fileRef? = some ref → ∃ content,
    Assoc.get? i race.puts = some (ref, content) ∧ race.office.vault.read ref = .ok content
  unheld : ∀ i, ∀ result ∈ (race.runners i).results, result.outcome.isSuccess = true →
    start.ledger.holds (race.runners i).commission.event.id result.participantId = false
  once : ∀ i j, ∀ result ∈ (race.runners i).results, ∀ other ∈ (race.runners j).results,
    result.outcome.isSuccess = true → other.outcome.isSuccess = true →
      (race.runners i).commission.event.id = (race.runners j).commission.event.id →
        result.participantId = other.participantId → i = j

/-- Every file that a batch has put is gone or belongs to a row. -/
def IsTidy (race : Race ι) : Prop :=
  ∀ file ∈ race.puts, ∃ store path, race.office.vault.location? file.2.1 = some (store, path) ∧
    (race.office.vault.fileAt store path = none ∨
      ∃ c ∈ race.office.ledger.certificates, c.fileRef = file.2.1)

theorem Invariant.isSafe {start : Office} {race : Race ι} (invariant : Invariant start race) :
    race.IsSafe start where
  ledger := invariant.office.ledger
  rows := invariant.rows
  kept := invariant.kept
  files := invariant.files
  pending := by
    intro i ref busy
    have orderly := invariant.orderly i
    unfold Orderly at orderly
    unfold Attempt.fileRef? at busy
    cases waiting : (race.runners i).waiting with
    | nil =>
        rw [waiting] at orderly
        simp only at orderly
        rw [orderly] at busy
        cases busy
    | cons registration rest =>
        cases stage : (race.runners i).attempt.stage with
        | opening | drawing | producing | settled =>
            rw [stage] at busy
            cases busy
        | filing left codes format place =>
            rw [stage] at busy
            cases busy
            exact ((invariant.orderly i).hasFile waiting stage).put
        | withdrawing left place =>
            rw [stage] at busy
            cases busy
            obtain ⟨codes, format, file⟩ := (invariant.orderly i).exists_hasFile waiting stage
            exact file.put
  unheld := fun i result member success => (invariant.reported i result member success).1
  once := invariant.once

/-- When all batches have come to their end, none is busy with a file. -/
theorem Invariant.isTidy {start : Office} {race : Race ι} (invariant : Invariant start race)
    (unlocked : start.vault.locked = false) (finished : race.IsFinished) : race.IsTidy := by
  intro file member
  obtain ⟨store, path, -, -, located, gone | row | ⟨i, busy⟩⟩ :=
    invariant.accounts unlocked file member
  · exact ⟨store, path, located, Or.inl gone⟩
  · exact ⟨store, path, located, Or.inr row⟩
  · have orderly := invariant.orderly i
    unfold Orderly at orderly
    rw [finished i] at orderly
    simp only at orderly
    unfold Attempt.fileRef? at busy
    rw [orderly] at busy
    cases busy

end Race
end Batch

namespace Launch

def entrant : Batch.Entrant where
  commission :=
    { event := ⟨1, some "Launch", none, none, none, none, none⟩, templateId := 1
      source := .canvas ⟨1200, 800, "#ffffff", none, []⟩ [], catalog := .standard
      verifyAddress := .ofSetting "", renderTimeout := .int 30 }
  serial := 1
  participants := [guest]

/-- Two batches for the guest: the second one begins and ends while the first one has put its file
and not entered it. -/
def race (office : Office) : Batch.Race Bool :=
  (Batch.Race.start office fun _ => entrant).through
    [false, false, false, true, true, true, true, false, false]

def lockedOffice : Office :=
  start.through (history ++ [.change { circumstances with locked := true }])

theorem drawsApart_race {office : Office}
    (draws : (race office).draws =
      [(false, 1, "CERT-000000000001"), (true, 1, "CERT-000000000002")]) :
    (race office).DrawsApart := by
  have different : "CERT-000000000001" ≠ "CERT-000000000002" := by decide
  intro i j registration code first second
  rw [draws] at first second
  simp only [List.mem_cons, Prod.mk.injEq, List.not_mem_nil, or_false] at first second
  rcases first with ⟨rfl, -, rfl⟩ | ⟨rfl, -, rfl⟩
  · rcases second with ⟨rfl, -, -⟩ | ⟨-, -, same⟩
    · rfl
    · exact absurd same different
  · rcases second with ⟨-, -, same⟩ | ⟨rfl, -, -⟩
    · exact absurd same.symm different
    · rfl

theorem isFinished_race {office : Office}
    (waiting : ((race office).runners false).waiting.length = 0 ∧
      ((race office).runners true).waiting.length = 0) : (race office).IsFinished := by
  intro i
  cases i with
  | false => exact List.eq_nil_of_length_eq_zero waiting.1
  | true => exact List.eq_nil_of_length_eq_zero waiting.2

end Launch

end Issuance
