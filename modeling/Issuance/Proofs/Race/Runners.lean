import Mathlib.Logic.Function.Basic
import Issuance.Batch.Run
/-!
Batches that run at the same time over one office.

Each batch is a runner that takes one step of the attempt under way whenever it is its turn, and the
turns come in any order. A runner that is always on turn is a batch that runs alone.
-/

namespace Issuance
namespace Batch

/-- The reference to the file that an attempt has put and neither entered nor withdrawn. -/
def Attempt.fileRef? (attempt : Attempt) : Option String :=
  match attempt.stage with
  | .filing _ _ _ place => some place.ref.text
  | .withdrawing _ place => some place.ref.text
  | _ => none

/-- A batch under way: the attempt is that of the first participant who waits. -/
structure Runner where
  commission : Commission
  serial : Int
  waiting : List Registration
  attempt : Attempt
  results : List Result

namespace Runner

def start (commission : Commission) (serial : Int) (participants : List Registration) : Runner :=
  ⟨commission, serial, participants, .start, []⟩

/-- The batch once the attempt of its first participant is settled. -/
def report (runner : Runner) (registration : Registration) (rest : List Registration)
    (outcome : Outcome) : Runner where
  commission := runner.commission
  serial := if outcome.isAlreadyIssued then runner.serial else runner.serial + 1
  waiting := rest
  attempt := .start
  results := runner.results ++ [⟨registration.id, registration.name, outcome⟩]

def proceed (runner : Runner) (attempt : Attempt) : Runner := { runner with attempt }

/-- The batch after a step of its attempt, which is reported if it is settled. -/
def follow (runner : Runner) (registration : Registration) (rest : List Registration)
    (attempt : Attempt) : Runner :=
  match attempt.stage with
  | .settled outcome => runner.report registration rest outcome
  | _ => runner.proceed attempt

def step (runner : Runner) (office : Office) : Runner × Office :=
  match runner.waiting with
  | [] => (runner, office)
  | registration :: rest =>
      let (attempt, office) :=
        runner.attempt.step runner.commission ⟨registration, runner.serial⟩ office
      (runner.follow registration rest attempt, office)

@[simp] theorem commission_report (runner : Runner) (registration : Registration)
    (rest : List Registration) (outcome : Outcome) :
    (runner.report registration rest outcome).commission = runner.commission := rfl

@[simp] theorem waiting_report (runner : Runner) (registration : Registration)
    (rest : List Registration) (outcome : Outcome) :
    (runner.report registration rest outcome).waiting = rest := rfl

@[simp] theorem attempt_report (runner : Runner) (registration : Registration)
    (rest : List Registration) (outcome : Outcome) :
    (runner.report registration rest outcome).attempt = .start := rfl

@[simp] theorem commission_proceed (runner : Runner) (attempt : Attempt) :
    (runner.proceed attempt).commission = runner.commission := rfl

@[simp] theorem waiting_proceed (runner : Runner) (attempt : Attempt) :
    (runner.proceed attempt).waiting = runner.waiting := rfl

@[simp] theorem attempt_proceed (runner : Runner) (attempt : Attempt) :
    (runner.proceed attempt).attempt = attempt := rfl

@[simp] theorem results_proceed (runner : Runner) (attempt : Attempt) :
    (runner.proceed attempt).results = runner.results := rfl

def steps : Nat → Runner → Office → Runner × Office
  | 0, runner, office => (runner, office)
  | count + 1, runner, office =>
      let (runner, office) := runner.step office
      steps count runner office

theorem steps_add (first second : Nat) (runner : Runner) (office : Office) :
    steps (first + second) runner office =
      steps second (steps first runner office).1 (steps first runner office).2 := by
  induction first generalizing runner office with
  | zero => rw [Nat.zero_add, steps]
  | succ first ih =>
      rw [Nat.succ_add]
      exact ih (runner.step office).1 (runner.step office).2

/-- Steps that settle an attempt are steps of the batch up to its report. -/
theorem exists_steps_of_settled {runner : Runner} {registration : Registration}
    {rest : List Registration} {count : Nat} {attempt : Attempt} {office : Office}
    (unsettled : attempt.isSettled = false)
    (settled : (Attempt.steps runner.commission ⟨registration, runner.serial⟩ count attempt
      office).1.isSettled = true) :
    ∃ own, steps own { runner with waiting := registration :: rest, attempt } office =
      (runner.report registration rest
          (Attempt.steps runner.commission ⟨registration, runner.serial⟩ count attempt
            office).1.outcome,
        (Attempt.steps runner.commission ⟨registration, runner.serial⟩ count attempt office).2) := by
  induction count generalizing attempt office with
  | zero =>
      have contrary : attempt.isSettled = true := settled
      rw [unsettled] at contrary
      cases contrary
  | succ count ih =>
      rw [Attempt.steps] at settled ⊢
      generalize moved : attempt.step runner.commission ⟨registration, runner.serial⟩ office =
        after at settled ⊢
      obtain ⟨next, later⟩ := after
      simp only at settled ⊢
      cases ended : next.isSettled with
      | true =>
          rw [Attempt.steps_of_isSettled _ _ count next later ended]
          refine ⟨1, ?_⟩
          simp only [steps, step, moved]
          obtain ⟨stage, progress⟩ := next
          cases stage with
          | settled outcome => rfl
          | opening | drawing | producing | filing | withdrawing => cases ended
      | false =>
          obtain ⟨own, reached⟩ := ih ended settled
          refine ⟨own + 1, ?_⟩
          rw [← reached, steps]
          simp only [step, moved]
          obtain ⟨stage, progress⟩ := next
          cases stage with
          | settled outcome => cases ended
          | opening | drawing | producing | filing | withdrawing => rfl

/-- A batch that is always on turn does what a batch does. -/
theorem exists_steps_eq_issueAll (runner : Runner) (participants : List Registration)
    (office : Office) :
    ∃ count serial, steps count { runner with waiting := participants, attempt := .start } office =
      ({ runner with
          serial
          waiting := []
          attempt := .start
          results := runner.results ++
            (issueAll runner.commission runner.serial participants office).1 },
        (issueAll runner.commission runner.serial participants office).2) := by
  induction participants generalizing runner office with
  | nil => exact ⟨0, runner.serial, by simp only [steps, issueAll, List.append_nil]⟩
  | cons registration rest ih =>
      have settled := Attempt.isSettled_steps runner.commission ⟨registration, runner.serial⟩
        (Attempt.stepsLeft .opening) .start office (Nat.le_refl _)
      obtain ⟨first, reported⟩ := @exists_steps_of_settled runner registration rest _ _ office rfl
        settled
      have completed : Attempt.complete runner.commission ⟨registration, runner.serial⟩ office =
          ((Attempt.steps runner.commission ⟨registration, runner.serial⟩
              (Attempt.stepsLeft .opening) .start office).1.outcome,
            (Attempt.steps runner.commission ⟨registration, runner.serial⟩
              (Attempt.stepsLeft .opening) .start office).2) := rfl
      rw [issueAll, completed]
      generalize (Attempt.steps runner.commission ⟨registration, runner.serial⟩
        (Attempt.stepsLeft .opening) .start office).1.outcome = outcome at reported ⊢
      generalize (Attempt.steps runner.commission ⟨registration, runner.serial⟩
        (Attempt.stepsLeft .opening) .start office).2 = later at reported ⊢
      obtain ⟨second, serial, finished⟩ := ih (runner.report registration rest outcome) later
      refine ⟨first + second, serial, ?_⟩
      rw [steps_add, reported]
      refine finished.trans ?_
      simp only [report, List.append_assoc, List.singleton_append]

end Runner

structure Entrant where
  commission : Commission
  serial : Int
  participants : List Registration

/-- Batches at the same time. The office and the runners are all there is; the rest is a record that
no step reads: which batch drew which certificate code for which registration, which one put what
under which reference, last first, and the rows entered with what their batch had put last. -/
structure Race (ι : Type) where
  office : Office
  runners : ι → Runner
  draws : List (ι × Int × String)
  puts : List (ι × String × Content)
  filed : List (Certificate × Content)

namespace Race

variable {ι : Type} [DecidableEq ι]

def start (office : Office) (entrants : ι → Entrant) : Race ι where
  office := office
  runners := fun i => .start (entrants i).commission (entrants i).serial (entrants i).participants
  draws := []
  puts := []
  filed := []

/-- The certificate code that a step has drawn, and for whom. -/
def drawn (before after : Runner) : List (Int × String) :=
  match before.waiting, after.attempt.stage with
  | registration :: _, .producing _ codes => [(registration.id, codes.certificate)]
  | _, _ => []

/-- The file that a step has put: its reference, and the content drawn for it. -/
def put (before : Runner) (office : Office) (after : Runner) : List (String × Content) :=
  match before.waiting, before.attempt.stage, after.attempt.stage with
  | registration :: _, .producing _ codes, .filing _ _ _ place =>
      match before.commission.source.draw office.vault.read office.settings.fonts
        (valuesFor before.commission ⟨registration, before.serial⟩ office codes) with
      | .ok artifact => [(place.ref.text, artifact.content)]
      | .error _ => []
  | _, _, _ => []

def entered (before after : Office) : List Certificate :=
  after.ledger.certificates.drop before.ledger.certificates.length

/-- The race after batch `i` was on turn. -/
def step (race : Race ι) (i : ι) : Race ι :=
  let (runner, office) := (race.runners i).step race.office
  { office
    runners := Function.update race.runners i runner
    draws := race.draws ++ (drawn (race.runners i) runner).map fun draw => (i, draw)
    puts := (put (race.runners i) race.office runner).map (fun file => (i, file)) ++ race.puts
    filed := race.filed ++ (entered race.office office).filterMap fun row =>
      (Assoc.get? i race.puts).map fun file => (row, file.2) }

def through (race : Race ι) (order : List ι) : Race ι := order.foldl step race

/-- No two batches have drawn the same certificate code for the same registration. -/
def DrawsApart (race : Race ι) : Prop :=
  ∀ i j registration code, (i, registration, code) ∈ race.draws →
    (j, registration, code) ∈ race.draws → i = j

def IsFinished (race : Race ι) : Prop := ∀ i, (race.runners i).waiting = []

end Race
end Batch
end Issuance
