import Issuance.Office
import Issuance.Proofs.Results
/-!
How work in the office is taken apart: one equation for each way of putting work together, and the
rule that what every part keeps is kept by the whole.
-/

namespace Issuance
namespace Work

variable {α β : Type}

/-- What comes of some work, and the office after it. -/
def perform (work : Work α) (office : Office) : Except Failure α × Office :=
  work.run.run office

def after (work : Work α) (office : Office) : Office := (work.perform office).2

theorem exists_perform_eq {work : Work α} {office : Office} {result : Except Failure α}
    (reported : (work.perform office).1 = result) :
    ∃ later, work.perform office = (result, later) := by
  cases performed : work.perform office with
  | mk first later =>
      rw [performed] at reported
      cases reported
      exact ⟨later, rfl⟩

theorem perform_bind (work : Work α) (next : α → Work β) (office : Office) :
    (work >>= next).perform office =
      match work.perform office with
      | (.ok a, later) => (next a).perform later
      | (.error failure, later) => (.error failure, later) := by
  unfold perform
  change (ExceptT.bindCont next (work office).1) (work office).2 = _
  cases performed : work.run.run office with
  | mk result later =>
      have same : work office = (result, later) := performed
      rw [same]
      cases result <;> rfl

theorem perform_bind_of_ok {work : Work α} {office later : Office} {a : α}
    (done : work.perform office = (.ok a, later)) (next : α → Work β) :
    (work >>= next).perform office = (next a).perform later := by
  rw [perform_bind, done]

theorem perform_bind_of_error {work : Work α} {office later : Office} {failure : Failure}
    (failed : work.perform office = (.error failure, later)) (next : α → Work β) :
    (work >>= next).perform office = (.error failure, later) := by
  rw [perform_bind, failed]

theorem perform_bind_eq_ok_iff {work : Work α} {next : α → Work β} {office later : Office} {b : β} :
    (work >>= next).perform office = (.ok b, later) ↔
      ∃ a between, work.perform office = (.ok a, between) ∧
        (next a).perform between = (.ok b, later) := by
  constructor
  · intro done
    cases performed : work.perform office with
    | mk result between =>
        cases result with
        | error failure =>
            rw [perform_bind_of_error performed] at done
            cases (Prod.mk.inj done).1
        | ok a =>
            rw [perform_bind_of_ok performed] at done
            exact ⟨a, between, rfl, done⟩
  · rintro ⟨a, between, first, done⟩
    rw [perform_bind_of_ok first]
    exact done

theorem perform_get (office : Office) : (get : Work Office).perform office = (.ok office, office) :=
  rfl

theorem perform_set (office later : Office) :
    (set later : Work PUnit).perform office = (.ok ⟨⟩, later) := rfl

theorem perform_ledger (office : Office) : ledger.perform office = (.ok office.ledger, office) :=
  rfl

theorem perform_changeLedger (change : Ledger → Ledger) (office : Office) :
    (changeLedger change).perform office =
      (.ok ⟨⟩, { office with ledger := change office.ledger }) := rfl

theorem perform_ofError (result : Except Error α) (office : Office) :
    (ofError result).perform office = (result.mapError Failure.error, office) := rfl

theorem perform_ofFailure (result : Except Failure α) (office : Office) :
    (ofFailure result).perform office = (result, office) := rfl

theorem perform_store (key : String) (content : Content) (office : Office) :
    (store key content).perform office =
      (.ok (office.vault.put key content).1,
        { office with vault := (office.vault.put key content).2 }) := rfl

theorem perform_discard (ref : String) (office : Office) :
    (discard ref).perform office =
      (.ok (office.vault.delete ref).1,
        { office with vault := (office.vault.delete ref).2 }) := rfl

/-- What is made of the result makes no difference to the office. -/
theorem after_bind_pure (work : Work α) (f : α → β) (office : Office) :
    (work >>= fun a => pure (f a)).after office = work.after office := by
  rw [after, perform_bind, after]
  cases work.perform office with
  | mk result later => cases result <;> rfl

/-- Whatever comes of the work, the office keeps a property. -/
def Keeps (P : Office → Prop) (work : Work α) : Prop :=
  ∀ office, P office → P (work.after office)

theorem Keeps.bind {P : Office → Prop} {work : Work α} {next : α → Work β} (first : Keeps P work)
    (later : ∀ a, Keeps P (next a)) : Keeps P (work >>= next) := by
  intro office holds
  have kept := first office holds
  unfold after at kept ⊢
  rw [perform_bind]
  cases performed : work.perform office with
  | mk result between =>
      rw [performed] at kept
      cases result with
      | error failure => exact kept
      | ok a => exact later a between kept

/-- Work that only looks leaves the office as it is. -/
def Looks (work : Work α) : Prop :=
  ∀ office, work.after office = office

theorem Looks.keeps {P : Office → Prop} {work : Work α} (looks : Looks work) : Keeps P work :=
  fun office holds => (looks office).symm ▸ holds

theorem Looks.bind {work : Work α} {next : α → Work β} (first : Looks work)
    (later : ∀ a, Looks (next a)) : Looks (work >>= next) := by
  intro office
  have kept : Keeps (fun other => other = office) (work >>= next) :=
    Keeps.bind first.keeps (fun a => (later a).keeps)
  exact kept office rfl

theorem looks_pure (a : α) : Looks (pure a) := fun _ => rfl

theorem looks_throw (failure : Failure) : Looks (throw failure : Work α) := fun _ => rfl

theorem looks_fail (e : Error) : Looks (fail e : Work α) := fun _ => rfl

theorem looks_ledger : Looks ledger := fun _ => rfl

theorem looks_ofFailure (result : Except Failure α) : Looks (ofFailure result) := fun _ => rfl

/-- Work that only looks comes to a result in the office as it is. -/
theorem Looks.perform {work : Work α} (looks : Looks work) (office : Office) :
    ∃ result, work.perform office = (result, office) :=
  ⟨(work.perform office).1, Prod.ext rfl (looks office)⟩

theorem Looks.later_eq {work : Work α} (looks : Looks work) {office later : Office}
    {result : Except Failure α} (performed : work.perform office = (result, later)) :
    later = office := by
  have unchanged := looks office
  rwa [after, performed] at unchanged

end Work

theorem looks_checkId (id : Int) : (checkId id).Looks := by
  unfold checkId
  split
  · exact Work.looks_throw _
  · exact Work.looks_pure _

theorem looks_requireTemplate (id : Int) : (requireTemplate id).Looks := by
  refine (looks_checkId id).bind fun _ => Work.looks_ledger.bind fun l => ?_
  split
  · exact Work.looks_pure _
  · exact Work.looks_fail _

theorem looks_requireEvent (id : Int) : (requireEvent id).Looks := by
  refine (looks_checkId id).bind fun _ => Work.looks_ledger.bind fun l => ?_
  split
  · exact Work.looks_pure _
  · exact Work.looks_fail _

theorem perform_checkId {id : Int} (inTables : -idBound ≤ id ∧ id < idBound) (office : Office) :
    (checkId id).perform office = (.ok (), office) := by
  have inside : (decide (id < -idBound) || decide (idBound ≤ id)) = false := by
    rw [decide_eq_false (by omega), decide_eq_false (by omega)]
    rfl
  unfold checkId
  rw [inside]
  rfl

/-- What an id is refused with that cannot be looked up. -/
def idTooLarge : Failure := .defect (.overflow "integer too large for a table")

/-- An id that can be looked up. -/
def IsInTables (id : Int) : Prop := -idBound ≤ id ∧ id < idBound

instance (id : Int) : Decidable (IsInTables id) :=
  inferInstanceAs (Decidable (-idBound ≤ id ∧ id < idBound))

theorem perform_checkId_of_outside {id : Int} (outside : ¬IsInTables id) (office : Office) :
    (checkId id).perform office = (.error idTooLarge, office) := by
  have beyond : (decide (id < -idBound) || decide (idBound ≤ id)) = true := by
    rw [Bool.or_eq_true, decide_eq_true_eq, decide_eq_true_eq]
    unfold IsInTables at outside
    omega
  unfold checkId
  rw [beyond]
  rfl

theorem perform_requireTemplate {id : Int} {office : Office} {template : Template}
    (inTables : -idBound ≤ id ∧ id < idBound) (found : office.ledger.template? id = some template) :
    (requireTemplate id).perform office = (.ok template, office) := by
  unfold requireTemplate
  rw [Work.perform_bind_of_ok (perform_checkId inTables office),
    Work.perform_bind_of_ok (Work.perform_ledger office), found]
  rfl

theorem perform_requireEvent {id : Int} {office : Office} {event : Event}
    (inTables : -idBound ≤ id ∧ id < idBound) (found : office.ledger.event? id = some event) :
    (requireEvent id).perform office = (.ok event, office) := by
  unfold requireEvent
  rw [Work.perform_bind_of_ok (perform_checkId inTables office),
    Work.perform_bind_of_ok (Work.perform_ledger office), found]
  rfl

theorem template_of_requireTemplate {id : Int} {office later : Office} {template : Template}
    (found : (requireTemplate id).perform office = (.ok template, later)) :
    office.ledger.template? id = some template := by
  unfold requireTemplate at found
  rw [Work.perform_bind] at found
  obtain ⟨checked, same⟩ := (looks_checkId id).perform office
  rw [same] at found
  cases checked with
  | error failure => cases (Prod.mk.inj found).1
  | ok _ =>
      simp only [Work.perform_bind, Work.perform_ledger] at found
      split at found
      · next there => rw [there, ← Except.ok.inj (Prod.mk.inj found).1]
      · cases (Prod.mk.inj found).1

theorem event_of_requireEvent {id : Int} {office later : Office} {event : Event}
    (found : (requireEvent id).perform office = (.ok event, later)) :
    office.ledger.event? id = some event := by
  unfold requireEvent at found
  rw [Work.perform_bind] at found
  obtain ⟨checked, same⟩ := (looks_checkId id).perform office
  rw [same] at found
  cases checked with
  | error failure => cases (Prod.mk.inj found).1
  | ok _ =>
      simp only [Work.perform_bind, Work.perform_ledger] at found
      split at found
      · next there => rw [there, ← Except.ok.inj (Prod.mk.inj found).1]
      · cases (Prod.mk.inj found).1

theorem perform_drawCodes_of_some {office : Office} {codes : CodePair} {supply : CodeSupply}
    (drawn : office.codes.next = some (codes, supply)) :
    drawCodes.perform office = (.ok codes, { office with codes := supply }) := by
  unfold drawCodes
  rw [Work.perform_bind, Work.perform_get]
  simp only [drawn]
  rfl

theorem perform_drawCodes_of_none {office : Office} (ended : office.codes.next = none) :
    drawCodes.perform office = (.error (.defect .noCodesLeft), office) := by
  unfold drawCodes
  rw [Work.perform_bind, Work.perform_get]
  simp only [ended]
  rfl

end Issuance
