import Issuance.Batch.Run
import Issuance.Proofs.Batch.Alone
/-!
A batch as a list of turns. Each participant's attempt runs alone in the office that the earlier
ones have left, and what the whole batch does is read off its successful turns.
-/

namespace Issuance

/-- Two certificates that lead to the same file are the same. -/
theorem Office.Sound.eq_of_location?_eq {office : Office} (sound : office.Sound)
    {c d : Certificate} (first : c ∈ office.ledger.certificates)
    (second : d ∈ office.ledger.certificates)
    (same : office.vault.location? c.fileRef = office.vault.location? d.fileRef) : c = d := by
  obtain ⟨store, format, artifact⟩ := sound.kept c first
  obtain ⟨store', format', artifact'⟩ := sound.kept d second
  refine List.inj_on_of_nodup_map sound.ledger.certificateCodes first second ?_
  by_contra different
  rw [artifact'.located] at same
  exact artifact.ne_of_code_ne artifact'.generated (fun all => different all.2.2) same

namespace Batch

/-- A participant's turn: whom it is for, and the office as it then stands. -/
structure Turn where
  candidate : Candidate
  office : Office

namespace Turn

def outcome (commission : Commission) (turn : Turn) : Outcome :=
  (Attempt.complete commission turn.candidate turn.office).1

def after (commission : Commission) (turn : Turn) : Office :=
  (Attempt.complete commission turn.candidate turn.office).2

def succeeds (commission : Commission) (turn : Turn) : Bool := (turn.outcome commission).isSuccess

def result (commission : Commission) (turn : Turn) : Result :=
  ⟨turn.candidate.registration.id, turn.candidate.registration.name, turn.outcome commission⟩

/-- What a successful turn leaves behind: one more row of the ledger, which agrees with the
reported success, and in the vault the content that was drawn with the values of this turn. -/
structure Leaves (commission : Commission) (turn : Turn) (vault : Storage.Vault Content)
    (success : Success) (row : Certificate) (content : Content) : Prop where
  outcome : turn.outcome commission = .success success
  id : row.id = success.certificateId
  codes : row.codes = success.codes
  fileRef : row.fileRef = success.fileRef
  serial : row.serial = success.serial
  usesFallback : row.usesFallback = success.usesFallback
  event : row.eventId = commission.event.id
  registration : row.registrationId = turn.candidate.registration.id
  template : row.templateId = some commission.templateId
  participant : row.participantName = turn.candidate.registration.name ∧
    row.participantEmail = turn.candidate.registration.email
  details : row.eventTitle = commission.event.title ∧
    row.eventDate = commission.event.startDate ∧ row.eventLocation = commission.event.location
  drawn : ∃ format, row.fileFormat = some format ∧
    commission.source.draw turn.office.vault.read turn.office.settings.fonts
      (valuesFor commission ⟨turn.candidate.registration, success.serial⟩ turn.office
        success.codes) = .ok ⟨content, format⟩
  entered : (turn.after commission).ledger.certificates =
    turn.office.ledger.certificates ++ [row]
  stored : (turn.after commission).vault.read row.fileRef = .ok content
  there : vault.read row.fileRef = .ok content
  store : success.usesFallback = true ↔ ∃ store path,
    vault.location? row.fileRef = some (store, path) ∧
      vault.secondary.map Storage.Volume.name = some store

theorem Leaves.later {commission : Commission} {turn : Turn} {vault later : Storage.Vault Content}
    {success : Success} {row : Certificate} {content : Content}
    (leaves : turn.Leaves commission vault success row content)
    (there : later.read row.fileRef = .ok content)
    (located : later.location? row.fileRef = vault.location? row.fileRef)
    (secondary : later.secondary.map Storage.Volume.name =
      vault.secondary.map Storage.Volume.name) :
    turn.Leaves commission later success row content :=
  { leaves with
    there
    store := by
      rw [located, secondary]
      exact leaves.store }

end Turn

def turns (commission : Commission) : Int → List Registration → Office → List Turn
  | _, [], _ => []
  | serial, registration :: rest, office =>
      let (outcome, later) := Attempt.complete commission ⟨registration, serial⟩ office
      ⟨⟨registration, serial⟩, office⟩ ::
        turns commission (if outcome.isAlreadyIssued then serial else serial + 1) rest later

theorem results_issueAll (commission : Commission) (serial : Int)
    (participants : List Registration) (office : Office) :
    (issueAll commission serial participants office).1 =
      (turns commission serial participants office).map (Turn.result commission) := by
  induction participants generalizing serial office with
  | nil => rfl
  | cons registration rest ih =>
      simp only [issueAll, turns, List.map_cons, ih]
      rfl

theorem registrations_turns (commission : Commission) (serial : Int)
    (participants : List Registration) (office : Office) :
    (turns commission serial participants office).map (·.candidate.registration) =
      participants := by
  induction participants generalizing serial office with
  | nil => rfl
  | cons registration rest ih => simp only [turns, List.map_cons, ih]

theorem sound_turns (commission : Commission) (serial : Int) (participants : List Registration)
    {office : Office} (sound : office.Sound) :
    ∀ turn ∈ turns commission serial participants office, turn.office.Sound := by
  induction participants generalizing serial office with
  | nil => exact fun _ none => absurd none List.not_mem_nil
  | cons registration rest ih =>
      intro turn member
      rcases List.mem_cons.1 member with rfl | later
      · exact sound
      · exact ih _ ((Attempt.completed_complete sound).sound sound) turn later

/-- What some turns do to the office: they add `rows` to the ledger and the files of these rows to
the vault, and use up codes and disturbances. -/
structure Effect (commission : Commission) (turns : List Turn) (office later : Office)
    (rows : List Certificate) : Prop where
  state : later = { office with
    ledger := { office.ledger with certificates := office.ledger.certificates ++ rows }
    vault := later.vault, codes := later.codes, disturbances := later.disturbances }
  issued : List.Forall₂
    (fun turn row => ∃ success content,
      turn.Leaves commission later.vault success row content)
    (turns.filter (Turn.succeeds commission)) rows
  frame : Storage.Vault.Frame
    (fun store path => ∃ row ∈ rows, office.vault.location? row.fileRef = some (store, path))
    office.vault later.vault
  locked : later.vault.locked = office.vault.locked

/-- The row that a completed attempt enters agrees with the success that it reports. -/
theorem leaves_of_received {commission : Commission} {turn : Turn} {codes : CodePair}
    {artifact : Artifact} {place : Storage.StoredObject} {vault : Storage.Vault Content}
    (sound : turn.office.Sound) (generated : codes.IsGenerated)
    (drawing : commission.source.draw turn.office.vault.read turn.office.settings.fonts
      (valuesFor commission turn.candidate turn.office codes) = .ok artifact)
    (received : Storage.Vault.Received turn.office.vault vault
      (artifactPath commission.event.id turn.candidate.registration.id codes.certificate
        artifact.format) artifact.content place)
    (outcome : turn.outcome commission = .success ⟨turn.office.ledger.nextCertificateId, codes,
      place.ref.text, turn.candidate.serial, place.usesFallback⟩)
    (certificates : (turn.after commission).ledger.certificates =
      (turn.office.ledger.withEntered
        (certificateRow commission turn.candidate codes artifact.format place
          turn.office)).certificates)
    (files : (turn.after commission).vault = vault) :
    turn.Leaves commission vault ⟨turn.office.ledger.nextCertificateId, codes, place.ref.text,
        turn.candidate.serial, place.usesFallback⟩
      (turn.office.ledger.entered (certificateRow commission turn.candidate codes artifact.format
        place turn.office)) artifact.content where
  outcome := outcome
  id := rfl
  codes := rfl
  fileRef := rfl
  serial := rfl
  usesFallback := rfl
  event := rfl
  registration := rfl
  template := rfl
  participant := ⟨rfl, rfl⟩
  details := ⟨rfl, rfl, rfl⟩
  drawn := ⟨artifact.format, rfl, drawing⟩
  entered := certificates
  stored := by
    have artifactRef := isArtifactRef_of_received sound.vault generated drawing received
    rw [files]
    exact received.read sound.vault artifactRef.plain
  there := by
    have artifactRef := isArtifactRef_of_received sound.vault generated drawing received
    exact received.read sound.vault artifactRef.plain
  store := by
    have artifactRef := isArtifactRef_of_received sound.vault generated drawing received
    have located : vault.location? place.ref.text = _ := artifactRef.located
    rw [received.frame.secondary]
    constructor
    · intro second
      exact ⟨place.ref.store, _, located, received.fallback.1 second⟩
    · rintro ⟨store, path, found, second⟩
      have found' : vault.location? place.ref.text = some (store, path) := found
      rw [located] at found'
      rw [← (Prod.mk.inj (Option.some.inj found')).1] at second
      exact received.fallback.2 second

/-- The files of rows that a sound office has next to a certificate are not those of the
certificate. -/
theorem read_of_frame {between later : Office} {rows : List Certificate} {c : Certificate}
    {content : Content} (sound : between.Sound) (after : later.Sound)
    (frame : Storage.Vault.Frame
      (fun store path => ∃ row ∈ rows, between.vault.location? row.fileRef = some (store, path))
      between.vault later.vault)
    (certificates : later.ledger.certificates = between.ledger.certificates ++ rows)
    (member : c ∈ between.ledger.certificates)
    (there : between.vault.read c.fileRef = .ok content) :
    later.vault.read c.fileRef = .ok content := by
  refine frame.read sound.vault there ?_
  rintro store path here ⟨row, new, place⟩
  have present : c ∈ later.ledger.certificates := certificates ▸ List.mem_append_left rows member
  have added : row ∈ later.ledger.certificates := certificates ▸ List.mem_append_right _ new
  have same : later.vault.location? c.fileRef = later.vault.location? row.fileRef := by
    rw [frame.located, frame.located, here, place]
  have equal := after.eq_of_location?_eq present added same
  have apart := after.ledger.ids
  rw [certificates, List.map_append, List.nodup_append] at apart
  exact apart.2.2 c.id (List.mem_map_of_mem member) row.id (List.mem_map_of_mem new)
    (congrArg Certificate.id equal)

theorem Effect.nil (commission : Commission) {office : Office} (sound : office.vault.Sound) :
    Effect commission [] office office [] where
  state := by simp only [List.append_nil]
  issued := .nil
  frame := Storage.Vault.Frame.refl sound
  locked := rfl

theorem Effect.certificates {commission : Commission} {turns : List Turn} {office later : Office}
    {rows : List Certificate} (effect : Effect commission turns office later rows) :
    later.ledger.certificates = office.ledger.certificates ++ rows := by
  rw [effect.state]

/-- Every new row is what a successful turn has left. -/
theorem Effect.exists_turn {commission : Commission} {turns : List Turn} {office later : Office}
    {rows : List Certificate} (effect : Effect commission turns office later rows)
    {row : Certificate} (member : row ∈ rows) :
    ∃ turn ∈ turns, ∃ success content, turn.Leaves commission later.vault success row content := by
  obtain ⟨turn, present, leaves⟩ := exists_of_mem_right effect.issued member
  exact ⟨turn, (List.mem_filter.1 present).1, leaves⟩

theorem Effect.cons {commission : Commission} {turn : Turn} {rest : List Turn} {later : Office}
    {rows : List Certificate} (sound : turn.office.Sound)
    (effect : Effect commission rest (turn.after commission) later rows) (after : later.Sound) :
    ∃ all, Effect commission (turn :: rest) turn.office later all := by
  have completed : Completed commission turn.candidate turn.office (turn.outcome commission)
    (turn.after commission) := Attempt.completed_complete sound
  have between_sound := completed.sound sound
  generalize reported : turn.outcome commission = outcome at completed
  generalize reached : turn.after commission = between at completed effect between_sound
  cases completed with
  | issued codes artifact place supply vault disturbances generated free fresh drawing received
      fewer supplied =>
      have leaves := leaves_of_received sound generated drawing received reported
        (by rw [reached]) (by rw [reached])
      have remains := read_of_frame between_sound after effect.frame effect.certificates
        (List.mem_append_right _ (List.mem_singleton.2 rfl)) leaves.there
      have success : turn.succeeds commission = true := by
        rw [Turn.succeeds, reported]
        rfl
      refine ⟨turn.office.ledger.entered (certificateRow commission turn.candidate codes
        artifact.format place turn.office) :: rows, ?_, ?_, ?_, ?_⟩
      · refine effect.state.trans ?_
        simp only [Ledger.withEntered, List.append_assoc, List.singleton_append]
      · rw [List.filter_cons_of_pos success]
        refine .cons ⟨_, artifact.content, leaves.later remains ?_ ?_⟩ effect.issued
        · exact effect.frame.located _
        · exact effect.frame.secondary
      · refine (received.frame.mono ?_).trans (effect.frame.mono ?_)
        · rintro store path ⟨rfl, rfl⟩
          have artifactRef := isArtifactRef_of_received sound.vault generated drawing received
          refine ⟨_, List.mem_cons_self, ?_⟩
          exact (received.frame.located _).symm.trans artifactRef.located
        · rintro store path ⟨row, new, place⟩
          exact ⟨row, List.mem_cons_of_mem _ new, (received.frame.located _).symm.trans place⟩
      · exact effect.locked.trans received.locked
  | setback failure progress supply vault disturbances cause refused fewer supplied =>
      have setback : ¬turn.succeeds commission = true := by
        rw [Turn.succeeds, reported]
        exact Bool.false_ne_true
      refine ⟨rows, effect.state, ?_, ?_, effect.locked.trans refused.locked⟩
      · rw [List.filter_cons_of_neg setback]
        exact effect.issued
      · refine (refused.frame.mono ?_).trans (effect.frame.mono ?_)
        · exact fun _ _ impossible => impossible.elim
        · rintro store path ⟨row, new, place⟩
          exact ⟨row, new, (refused.frame.located _).symm.trans place⟩

theorem effect_issueAll (commission : Commission) (serial : Int)
    (participants : List Registration) {office : Office} (sound : office.Sound) :
    ∃ rows, Effect commission (turns commission serial participants office) office
        (issueAll commission serial participants office).2 rows ∧
      (issueAll commission serial participants office).2.Sound := by
  induction participants generalizing serial office with
  | nil => exact ⟨[], Effect.nil commission sound.vault, sound⟩
  | cons registration rest ih =>
      have completed : Completed commission ⟨registration, serial⟩ office _ _ :=
        Attempt.completed_complete sound
      obtain ⟨rows, effect, after⟩ := ih
        (if (Attempt.complete commission ⟨registration, serial⟩ office).1.isAlreadyIssued then serial
          else serial + 1) (completed.sound sound)
      obtain ⟨all, whole⟩ :=
        @Effect.cons commission ⟨⟨registration, serial⟩, office⟩ _ _ rows sound effect after
      exact ⟨all, whole, after⟩

end Batch
end Issuance
