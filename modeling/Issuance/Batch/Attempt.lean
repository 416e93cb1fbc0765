import Issuance.Batch.Outcome
import Issuance.Office
import Issuance.Template.Source
/-!
The attempt to issue one certificate, step by step.

An attempt asks whether the participant holds a certificate, draws codes, draws and stores the
certificate, and enters it into the ledger. Each step reads and changes the office on its own, so
attempts of several batches may take turns. If the ledger refuses the entry, because another
writer was first, the stored file is taken out again and codes are drawn anew, as long as draws
are left.
-/

namespace Issuance
namespace Batch

/-- What all attempts of a batch have in common. -/
structure Commission where
  event : Event
  templateId : Int
  source : TemplateSource
  catalog : Catalog
  verifyAddress : VerifyAddress
  renderTimeout : Number

/-- Whom an attempt is for, and with which serial number. -/
structure Candidate where
  registration : Registration
  serial : Int

/-- The next step of an attempt; `left` counts the draws that are left. -/
inductive Stage
  | opening
  | drawing (left : Nat)
  | producing (left : Nat) (codes : CodePair)
  | filing (left : Nat) (codes : CodePair) (format : String) (stored : Storage.StoredObject)
  | withdrawing (left : Nat) (stored : Storage.StoredObject)
  | settled (outcome : Outcome)
deriving Repr

/-- An attempt: its next step, and how far it has come. -/
structure Attempt where
  stage : Stage
  progress : Progress
deriving Repr

def maxDraws : Nat := 5

def artifactKey (eventId registrationId code format : String) : String :=
  "certificates/" ++ eventId ++ "/" ++ registrationId ++ "/" ++ code ++ "." ++ format

/-- The certificate of another writer, entered just before a drawing. -/
def rivalCertificate (office : Office) (codes : CodePair) (registrationId : Int)
    (same : Option String) (serial : Int) : Certificate :=
  let suffix := toString registrationId
  let registration := office.ledger.registration? registrationId
  { id := 0
    eventId := (registration.map (·.eventId)).getD 0
    registrationId
    templateId := none
    codes :=
      ⟨if same = some "certificate" then codes.certificate else "CERT-RACE" ++ suffix,
        if same = some "verification" then codes.verification else "VERIFY-RACE" ++ suffix⟩
    serial
    fileRef := "primary:certificates/race.pptx"
    fileFormat := some "pptx"
    usesFallback := false
    participantName := registration.bind (·.name)
    participantEmail := none
    eventTitle := none
    eventDate := none
    eventLocation := none
    emailSent := false
    emailSentAt := none
    issuedAt := some office.clock.naive }

/-- Lets what was to happen before this participant's drawing happen, once. -/
def disturb (commission : Commission) (candidate : Candidate) (codes : CodePair)
    (values : FieldValues) : Work Unit := do
  let office ← get
  let name := (Assoc.get? "participant_name" values).getD ""
  match Assoc.get? name office.disturbances with
  | none => return
  | some disturbance =>
    set { office with disturbances := Assoc.erase name office.disturbances }
    match disturbance with
    | .timeout =>
      Work.fail (.renderTimeout (commission.renderTimeout.shortText) candidate.registration.id)
    | .failure f => throw f
    | .rival registrationId same serial =>
      let rival := rivalCertificate office codes registrationId same serial
      match office.ledger.enter? rival with
      | some (_, ledger) => Work.changeLedger fun _ => ledger
      | none => return

def valuesFor (commission : Commission) (candidate : Candidate) (office : Office)
    (codes : CodePair) : FieldValues :=
  let attendance := office.ledger.attendance? candidate.registration.id
  let award : Award :=
    { event := commission.event
      registration := candidate.registration
      enteredAs := some candidate.registration.id
      attendedAt := attendance.map fun a => .moment a.checkedInAt
      serial := candidate.serial
      codes := some codes
      issuedOn := some (.date office.clock.date) }
  award.values commission.catalog commission.verifyAddress

def produce (commission : Commission) (candidate : Candidate) (codes : CodePair) :
    Work (String × Storage.StoredObject) := do
  let values := valuesFor commission candidate (← get) codes
  disturb commission candidate codes values
  let office ← get
  let artifact ← Work.ofFailure
    (commission.source.draw office.vault.read office.settings.fonts values)
  let key := artifactKey (toString commission.event.id) (toString candidate.registration.id)
    codes.certificate artifact.format
  match ← Work.store key artifact.content with
  | .ok stored => return (artifact.format, stored)
  | .error fault => Work.fail (.storageUnavailable .artifact fault.detail)

def certificateRow (commission : Commission) (candidate : Candidate) (codes : CodePair)
    (format : String) (stored : Storage.StoredObject) (office : Office) : Certificate :=
  { id := 0
    eventId := commission.event.id
    registrationId := candidate.registration.id
    templateId := some commission.templateId
    codes
    serial := candidate.serial
    fileRef := stored.ref.text
    fileFormat := some format
    usesFallback := stored.usesFallback
    participantName := candidate.registration.name
    participantEmail := candidate.registration.email
    eventTitle := commission.event.title
    eventDate := commission.event.startDate
    eventLocation := commission.event.location
    emailSent := false
    emailSentAt := none
    issuedAt := some office.clock.naive }

namespace Attempt

def start : Attempt := ⟨.opening, .notStarted⟩

def giveUp (progress : Progress) (failure : Failure) : Attempt :=
  ⟨.settled (.setback ⟨failure, progress⟩), progress⟩

def heldFailure (commission : Commission) (candidate : Candidate) : Failure :=
  .error (.alreadyIssued candidate.registration.id commission.event.id)

def opened (commission : Commission) (candidate : Candidate) (office : Office) : Attempt :=
  if office.ledger.holds commission.event.id candidate.registration.id then
    giveUp .resolving (heldFailure commission candidate)
  else ⟨.drawing maxDraws, .resolving⟩

/-- Draws codes and asks whether they are taken. -/
def drawn (progress : Progress) : Nat → Office → Attempt × Office
  | 0, office => (giveUp progress (.error (.codeSpaceExhausted maxDraws)), office)
  | left + 1, office =>
    match drawCodes.run.run office with
    | (.error failure, office) => (giveUp progress failure, office)
    | (.ok codes, office) =>
      if office.ledger.codesTaken codes then (⟨.drawing left, progress⟩, office)
      else (⟨.producing left codes, .codeAssigned⟩, office)

def produced (commission : Commission) (candidate : Candidate) (progress : Progress) (left : Nat)
    (codes : CodePair) (office : Office) : Attempt × Office :=
  match (produce commission candidate codes).run.run office with
  | (.error failure, office) => (giveUp progress failure, office)
  | (.ok (format, stored), office) => (⟨.filing left codes format stored, .rendered⟩, office)

/-- Enters the certificate into the ledger, if the ledger takes it. -/
def filed (commission : Commission) (candidate : Candidate) (progress : Progress) (left : Nat)
    (codes : CodePair) (format : String) (stored : Storage.StoredObject) (office : Office) :
    Attempt × Office :=
  match office.ledger.enter? (certificateRow commission candidate codes format stored office) with
  | some (entered, ledger) =>
    (⟨.settled (.success ⟨entered.id, codes, entered.fileRef, candidate.serial,
        entered.usesFallback⟩), .persisted⟩,
      { office with ledger })
  | none => (⟨.withdrawing left stored, progress⟩, office)

/-- Takes the stored file out again, and asks once more whether the participant holds a
certificate. -/
def withdrawn (commission : Commission) (candidate : Candidate) (progress : Progress)
    (left : Nat) (stored : Storage.StoredObject) (office : Office) : Attempt × Office :=
  let office := ((Work.discard stored.ref.text).run.run office).2
  if office.ledger.holds commission.event.id candidate.registration.id then
    (giveUp progress (heldFailure commission candidate), office)
  else (⟨.drawing left, progress⟩, office)

def step (commission : Commission) (candidate : Candidate) (attempt : Attempt)
    (office : Office) : Attempt × Office :=
  match attempt.stage with
  | .opening => (opened commission candidate office, office)
  | .drawing left => drawn attempt.progress left office
  | .producing left codes => produced commission candidate attempt.progress left codes office
  | .filing left codes format stored =>
    filed commission candidate attempt.progress left codes format stored office
  | .withdrawing left stored =>
    withdrawn commission candidate attempt.progress left stored office
  | .settled _ => (attempt, office)

/-- A bound on the steps that are left: each draw is followed by at most three more steps. -/
def stepsLeft : Stage → Nat
  | .opening => 4 * maxDraws + 2
  | .drawing left => 4 * left + 1
  | .producing left _ => 4 * left + 4
  | .filing left .. => 4 * left + 3
  | .withdrawing left _ => 4 * left + 2
  | .settled _ => 0

def isSettled (attempt : Attempt) : Bool :=
  match attempt.stage with
  | .settled _ => true
  | _ => false

/-- A step of an attempt that is not settled takes from the steps that are left. -/
theorem stepsLeft_step_lt (commission : Commission) (candidate : Candidate) (attempt : Attempt)
    (office : Office) (unsettled : attempt.isSettled = false) :
    stepsLeft (attempt.step commission candidate office).1.stage < stepsLeft attempt.stage := by
  obtain ⟨stage, progress⟩ := attempt
  cases stage with
  | opening =>
    simp only [step, opened]
    split <;> simp [giveUp, stepsLeft]
  | drawing left =>
    cases left with
    | zero => simp [step, drawn, giveUp, stepsLeft]
    | succ left =>
      simp only [step, drawn]
      split
      · simp [giveUp, stepsLeft]
      · split <;> simp only [stepsLeft] <;> omega
  | producing left codes =>
    simp only [step, produced]
    split <;> simp [giveUp, stepsLeft]
  | filing left codes format stored =>
    simp only [step, filed]
    split <;> simp [stepsLeft]
  | withdrawing left stored =>
    simp only [step, withdrawn]
    split <;> simp [giveUp, stepsLeft]
  | settled outcome => simp [isSettled] at unsettled

theorem step_of_isSettled (commission : Commission) (candidate : Candidate) (attempt : Attempt)
    (office : Office) (settled : attempt.isSettled = true) :
    attempt.step commission candidate office = (attempt, office) := by
  obtain ⟨stage, progress⟩ := attempt
  cases stage with
  | settled outcome => rfl
  | _ => simp [isSettled] at settled

def steps (commission : Commission) (candidate : Candidate) :
    Nat → Attempt → Office → Attempt × Office
  | 0, attempt, office => (attempt, office)
  | count + 1, attempt, office =>
    let (attempt, office) := attempt.step commission candidate office
    steps commission candidate count attempt office

theorem steps_of_isSettled (commission : Commission) (candidate : Candidate) (count : Nat)
    (attempt : Attempt) (office : Office) (settled : attempt.isSettled = true) :
    steps commission candidate count attempt office = (attempt, office) := by
  induction count with
  | zero => rfl
  | succ count ih =>
    rw [steps, step_of_isSettled commission candidate attempt office settled]
    exact ih

/-- As many steps as are left settle an attempt. -/
theorem isSettled_steps (commission : Commission) (candidate : Candidate) (count : Nat)
    (attempt : Attempt) (office : Office) (enough : stepsLeft attempt.stage ≤ count) :
    (steps commission candidate count attempt office).1.isSettled = true := by
  induction count generalizing attempt office with
  | zero =>
    obtain ⟨stage, progress⟩ := attempt
    cases stage <;> simp [stepsLeft, steps, isSettled] at enough ⊢
  | succ count ih =>
    rw [steps]
    cases settled : attempt.isSettled with
    | false =>
      have fewer := stepsLeft_step_lt commission candidate attempt office settled
      have below :
          stepsLeft (attempt.step commission candidate office).1.stage ≤ count := by omega
      exact ih (attempt.step commission candidate office).1 _ below
    | true =>
      have stays := steps_of_isSettled commission candidate count attempt office settled
      rw [step_of_isSettled commission candidate attempt office settled]
      exact (congrArg (fun reached => reached.1.isSettled) stays).trans settled

/-- What came of an attempt. One that is not settled has no codes to go on with. -/
def outcome (attempt : Attempt) : Outcome :=
  match attempt.stage with
  | .settled outcome => outcome
  | _ => .setback ⟨.error (.codeSpaceExhausted maxDraws), attempt.progress⟩

def complete (commission : Commission) (candidate : Candidate) (office : Office) :
    Outcome × Office :=
  let (attempt, office) := steps commission candidate (stepsLeft .opening) start office
  (attempt.outcome, office)

end Attempt
end Batch
end Issuance
