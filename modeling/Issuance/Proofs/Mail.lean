import Issuance.Mail.Notice
import Issuance.Proofs.Ledger
import Issuance.Proofs.Work
/-!
Mailing certificates changes the columns about mail in their rows, and nothing else in the ledger.
-/

namespace Issuance
namespace Mail

/-- What mailing may have done: calls to the mail server, and marks in rows that are otherwise as
they were. -/
structure Notified (office later : Office) : Prop where
  state : later = { office with
    ledger := { office.ledger with certificates := later.ledger.certificates }
    mailCalls := later.mailCalls }
  issues : later.ledger.issues = office.ledger.issues

namespace Notified

theorem refl (office : Office) : Notified office office := ⟨rfl, rfl⟩

theorem trans {first second third : Office} (early : Notified first second)
    (late : Notified second third) : Notified first third where
  state := by
    rw [late.state, early.state]
  issues := late.issues.trans early.issues

end Notified

theorem perform_sendLetter (letter : Letter) (office : Office) :
    (sendLetter letter).perform office =
      ((send (office.mailServer.after office.mailCalls.length) letter).1.mapError Failure.defect,
        { office with mailCalls := office.mailCalls ++
            (send (office.mailServer.after office.mailCalls.length) letter).2 }) := rfl

theorem perform_markSent (c : Certificate) (office : Office) :
    (markSent c).perform office = (.ok (), { office with
      ledger := office.ledger.putCertificate
        { c with emailSent := true, emailSentAt := some office.clock.naive } }) := rfl

theorem notified_mailOne (event : Event) (address : VerifyAddress) (message : Option String)
    {c : Certificate} {office : Office} (sound : office.ledger.Sound)
    (known : c.issue ∈ office.ledger.issues) :
    Notified office ((mailOne event address message c).after office) := by
  unfold mailOne
  simp only
  rw [Work.after, Work.perform_bind, Work.perform_get]
  simp only
  split
  · exact Notified.refl office
  · next content found =>
      rw [Work.perform_bind, perform_sendLetter]
      cases (send (office.mailServer.after office.mailCalls.length)
        (letterFor event address message c content)).1 with
      | error defect => exact ⟨rfl, rfl⟩
      | ok outcome =>
          simp only [Except.mapError]
          split
          · rw [Work.perform_bind_of_ok (perform_markSent c _)]
            exact ⟨rfl, Ledger.issues_putCertificate sound known⟩
          · exact ⟨rfl, rfl⟩

theorem notified_mailAll (event : Event) (address : VerifyAddress) (message : Option String)
    {certificates : List Certificate} {office : Office} (sound : office.ledger.Sound)
    (known : ∀ c ∈ certificates, c.issue ∈ office.ledger.issues) :
    Notified office ((mailAll event address message certificates).after office) := by
  induction certificates generalizing office with
  | nil => exact Notified.refl office
  | cons c rest ih =>
      have first := notified_mailOne event address message sound (known c List.mem_cons_self)
      rw [Work.after] at first
      rw [Work.after, mailAll, Work.perform_bind]
      cases performed : (mailOne event address message c).perform office with
      | mk result between =>
          rw [performed] at first
          cases result with
          | error failure => exact first
          | ok entry =>
              have others := ih (sound.of_issues_eq first.issues)
                (fun d member => first.issues ▸ known d (List.mem_cons_of_mem c member))
              rw [Work.after] at others
              simp only [Work.perform_bind]
              cases onward : (mailAll event address message rest).perform between with
              | mk result later =>
                  rw [onward] at others
                  cases result with
                  | error failure => exact first.trans others
                  | ok entries => exact first.trans others

theorem looks_checkCertificateIds (ids : List Int) : (checkCertificateIds ids).Looks := by
  induction ids with
  | nil => exact Work.looks_pure _
  | cons id rest ih => exact (looks_checkId id).bind fun _ => ih

theorem looks_chosen (eventId : Int) (request : Option (List Json)) :
    (chosen eventId request).Looks := by
  unfold chosen
  refine Work.looks_ledger.bind fun l => ?_
  cases request with
  | none => exact Work.looks_pure _
  | some raws =>
      refine (Work.looks_ofFailure _).bind fun ids => ?_
      exact (looks_checkCertificateIds ids).bind fun _ => Work.looks_pure _

/-- Only certificates of the ledger are chosen. -/
theorem mem_of_chosen {eventId : Int} {request : Option (List Json)} {office later : Office}
    {certificates : List Certificate}
    (done : (chosen eventId request).perform office = (.ok certificates, later)) :
    ∀ c ∈ certificates, c ∈ office.ledger.certificates := by
  have ofEvent : ∀ c ∈ office.ledger.certificatesOf eventId, c ∈ office.ledger.certificates := by
    intro c member
    unfold Ledger.certificatesOf at member
    rw [List.mem_mergeSort] at member
    exact (List.mem_filter.1 member).1
  unfold chosen at done
  rw [Work.perform_bind, Work.perform_ledger] at done
  cases request with
  | none =>
      cases done
      exact ofEvent
  | some raws =>
      simp only [Work.perform_bind, Work.perform_ofFailure] at done
      cases asked : requestedCertificates raws with
      | error failure =>
          rw [asked] at done
          cases done
      | ok ids =>
          rw [asked] at done
          simp only at done
          obtain ⟨result, checked⟩ := (looks_checkCertificateIds ids).perform office
          rw [checked] at done
          cases result with
          | error failure => cases done
          | ok _ =>
              cases done
              exact fun c member => ofEvent c (List.mem_filter.1 member).1

theorem notified_notify (eventId : Int) (address : VerifyAddress) (request : Option (List Json))
    (message : Option String) {office : Office} (sound : office.ledger.Sound) :
    Notified office ((notify eventId address request message).after office) := by
  unfold notify
  obtain ⟨eventFound, askEvent⟩ := (looks_requireEvent eventId).perform office
  cases eventFound with
  | error failure =>
      rw [Work.after, Work.perform_bind_of_error askEvent]
      exact Notified.refl office
  | ok event =>
      rw [Work.after, Work.perform_bind_of_ok askEvent]
      obtain ⟨result, choose⟩ := (looks_chosen event.id request).perform office
      cases result with
      | error failure =>
          rw [Work.perform_bind_of_error choose]
          exact Notified.refl office
      | ok certificates =>
          rw [Work.perform_bind_of_ok choose]
          refine notified_mailAll event address message sound ?_
          exact fun c member => List.mem_map_of_mem (mem_of_chosen choose c member)

end Mail
end Issuance
