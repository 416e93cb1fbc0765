import Issuance.Proofs.Mail.Handover
import Issuance.Proofs.Results
import Issuance.Proofs.Rows
/-!
The bookkeeping of mailing. The report and the marks in the ledger are about the same certificates:
those that were selected, each of them once, in the order of their serial numbers; a row is marked
if its entry says that the message was sent, and everything else in the ledger stays as it was.

A mark is never taken away again, whatever the office does later.
-/

namespace Issuance
namespace Mail

/-- The certificates of an event that a request selects: all of them, or those whose ids are asked
for, in whatever spelling and however often; in order of serial number and id. -/
structure IsSelection (l : Ledger) (eventId : Int) (request : Option (List Json))
    (certificates : List Certificate) : Prop where
  members : ∀ c, c ∈ certificates ↔ c ∈ l.certificates ∧ c.eventId = eventId ∧
    ∀ raws, request = some raws → ∃ raw ∈ raws, raw.toInteger = .ok c.id
  order : certificates.Pairwise fun c d =>
    c.serial < d.serial ∨ c.serial = d.serial ∧ c.id < d.id

theorem mem_certificatesOf {l : Ledger} {eventId : Int} {c : Certificate} :
    c ∈ l.certificatesOf eventId ↔ c ∈ l.certificates ∧ c.eventId = eventId := by
  unfold Ledger.certificatesOf
  rw [List.mem_mergeSort, List.mem_filter, beq_iff_eq]

theorem pairwise_certificatesOf {l : Ledger} (keyed : (l.certificates.map (·.id)).Nodup)
    (eventId : Int) : (l.certificatesOf eventId).Pairwise fun c d =>
      c.serial < d.serial ∨ c.serial = d.serial ∧ c.id < d.id := by
  have sorted : (l.certificatesOf eventId).Pairwise fun c d =>
      (c.serial < d.serial || (c.serial == d.serial && c.id ≤ d.id)) = true := by
    refine List.pairwise_mergeSort ?_ ?_ _
    · intro a b c first second
      simp only [Bool.or_eq_true, Bool.and_eq_true, decide_eq_true_eq, beq_iff_eq] at *
      omega
    · intro a b
      simp only [Bool.or_eq_true, Bool.and_eq_true, decide_eq_true_eq, beq_iff_eq]
      omega
  have apart : (l.certificatesOf eventId).Pairwise fun c d => c.id ≠ d.id :=
    List.pairwise_map.1 (nodup_certificatesAmong keyed eventId none)
  refine (sorted.and apart).imp ?_
  rintro c d ⟨before, different⟩
  simp only [Bool.or_eq_true, Bool.and_eq_true, decide_eq_true_eq, beq_iff_eq] at before
  omega

theorem requestedCertificates_eq_ok_iff {raws : List Json} {ids : List Int} :
    requestedCertificates raws = .ok ids ↔
      List.Forall₂ (fun raw id => raw.toInteger = .ok id) raws ids := by
  unfold requestedCertificates
  rw [mapM_eq_ok_iff]
  constructor
  · refine fun all => all.imp fun raw id read => ?_
    cases found : raw.toInteger with
    | ok other =>
        rw [found] at read
        cases read
        rfl
    | error fault =>
        rw [found] at read
        cases fault <;> cases read
  · refine fun all => all.imp fun raw id read => ?_
    rw [read]

/-- Whatever is chosen is a selection, and choosing changes nothing. -/
theorem isSelection_of_chosen {eventId : Int} {request : Option (List Json)}
    {office later : Office} {certificates : List Certificate}
    (keyed : (office.ledger.certificates.map (·.id)).Nodup)
    (done : (chosen eventId request).perform office = (.ok certificates, later)) :
    later = office ∧ IsSelection office.ledger eventId request certificates := by
  have ordered := pairwise_certificatesOf keyed eventId
  unfold chosen at done
  rw [Work.perform_bind_of_ok (Work.perform_ledger office)] at done
  cases request with
  | none =>
      cases done
      refine ⟨rfl, fun c => ?_, ordered⟩
      rw [mem_certificatesOf]
      exact ⟨fun found => ⟨found.1, found.2, nofun⟩, fun found => ⟨found.1, found.2.1⟩⟩
  | some raws =>
      obtain ⟨ids, between, read, done⟩ := Work.perform_bind_eq_ok_iff.1 done
      obtain ⟨asked, same⟩ := Prod.mk.inj read
      subst same
      obtain ⟨_, after, checked, done⟩ := Work.perform_bind_eq_ok_iff.1 done
      obtain rfl := Work.Looks.later_eq (looks_checkCertificateIds ids) checked
      cases done
      have related := requestedCertificates_eq_ok_iff.1 asked
      refine ⟨rfl, fun c => ?_, ordered.filter _⟩
      rw [List.mem_filter, mem_certificatesOf, List.contains_iff_mem, and_assoc]
      refine and_congr_right fun _ => and_congr_right fun _ => ⟨?_, fun spelled => ?_⟩
      · rintro member _ ⟨rfl⟩
        exact exists_of_mem_right related member
      · obtain ⟨raw, inside, means⟩ := spelled raws rfl
        obtain ⟨id, listed, reads⟩ := exists_of_mem_left related inside
        cases means.symm.trans reads
        exact listed

/-- What is reported of a certificate after a number of calls to the server, and the calls that were
made for it: nothing is sent if its file cannot be read, and otherwise its letter was tried and came
to an outcome. -/
inductive IsReported (server : Server) (vault : Storage.Vault Content) (event : Event)
    (address : VerifyAddress) (message : Option String) (made : Nat) (c : Certificate) :
    Entry → List Call → Prop
  | unreadable {fault : IoFault} (unread : vault.read c.fileRef = .error fault) :
      IsReported server vault event address message made c
        ⟨c.id, c.participantName, c.participantEmail, some "Certificate file unavailable"⟩ []
  | tried {content : Content} {outcome : Outcome} {calls : List Call}
      (there : vault.read c.fileRef = .ok content)
      (tried : send (server.after made) (letterFor event address message c content) =
        (.ok outcome, calls)) :
      IsReported server vault event address message made c
        ⟨c.id, c.participantName, c.participantEmail,
          if outcome.ok then none else some outcome.detail⟩ calls

section

variable {server : Server} {vault : Storage.Vault Content} {event : Event}
  {address : VerifyAddress} {message : Option String}

theorem IsReported.certificateId {made : Nat} {c : Certificate} {entry : Entry}
    {calls : List Call} (reported : IsReported server vault event address message made c entry calls) :
    entry.certificateId = c.id := by
  cases reported <;> rfl

/-- An entry says that a message was sent exactly if the file was read and the letter was sent. -/
theorem IsReported.isSent_iff {made : Nat} {c : Certificate} {entry : Entry} {calls : List Call}
    (reported : IsReported server vault event address message made c entry calls) :
    entry.isSent = true ↔ ∃ content detail, vault.read c.fileRef = .ok content ∧
      send (server.after made) (letterFor event address message c content) =
        (.ok ⟨true, detail⟩, calls) := by
  cases reported with
  | unreadable unread =>
      refine ⟨fun impossible => absurd impossible Bool.false_ne_true, ?_⟩
      rintro ⟨content, detail, there, -⟩
      rw [unread] at there
      cases there
  | @tried content outcome _ there tried =>
      obtain ⟨ok, detail⟩ := outcome
      cases ok with
      | true => exact iff_of_true rfl ⟨content, detail, there, tried⟩
      | false =>
          refine ⟨fun impossible => absurd impossible Bool.false_ne_true, ?_⟩
          rintro ⟨other, text, alsoThere, sent⟩
          cases there.symm.trans alsoThere
          rw [tried] at sent
          cases sent

theorem Exchanges.certificateIds {made : Nat} {certificates : List Certificate}
    {entries : List Entry} {calls : List Call}
    (exchanges : Exchanges (IsReported server vault event address message) made certificates entries
      calls) : entries.map (·.certificateId) = certificates.map (·.id) := by
  induction exchanges with
  | nil => rfl
  | cons told onward ih => rw [List.map_cons, List.map_cons, told.certificateId, ih]

end

section

variable {office later : Office} {event : Event} {address : VerifyAddress} {message : Option String}

/-- Mailing one certificate that comes to an entry marks its row, if the message was sent, and notes
the calls. -/
theorem mailed_of_mailOne (keyed : (office.ledger.certificates.map (·.id)).Nodup)
    {c : Certificate} (present : c ∈ office.ledger.certificates) {entry : Entry}
    (done : (mailOne event address message c).perform office = (.ok entry, later)) :
    ∃ calls, later = mailed office calls [entry] ∧
      IsReported office.mailServer office.vault event address message office.mailCalls.length c
        entry calls := by
  unfold mailOne at done
  simp only at done
  rw [Work.perform_bind_of_ok (Work.perform_get office)] at done
  cases there : office.vault.read c.fileRef with
  | error fault =>
      rw [there] at done
      cases done
      refine ⟨[], ?_, .unreadable there⟩
      rw [mailed, ← certificates_of_entry keyed present office.clock.naive rfl, List.append_nil]
      rfl
  | ok content =>
      rw [there] at done
      simp only at done
      rw [Work.perform_bind, perform_sendLetter] at done
      cases tried : send (office.mailServer.after office.mailCalls.length)
          (letterFor event address message c content) with
      | mk result calls =>
          rw [tried] at done
          cases result with
          | error defect => cases done
          | ok outcome =>
              obtain ⟨ok, detail⟩ := outcome
              cases ok with
              | false =>
                  cases done
                  refine ⟨calls, ?_, .tried there tried⟩
                  rw [mailed, ← certificates_of_entry keyed present office.clock.naive rfl]
                  rfl
              | true =>
                  cases done
                  refine ⟨calls, ?_, .tried there tried⟩
                  rw [mailed, ← certificates_of_entry keyed present office.clock.naive rfl]
                  rfl

/-- Mailing some certificates, each of which comes to an entry, marks just the rows of those whose
message was sent. -/
theorem mailed_of_mailAll {certificates : List Certificate}
    (apart : (certificates.map (·.id)).Nodup)
    (keyed : (office.ledger.certificates.map (·.id)).Nodup)
    (present : ∀ c ∈ certificates, c ∈ office.ledger.certificates) {entries : List Entry}
    (done : (mailAll event address message certificates).perform office = (.ok entries, later)) :
    ∃ calls, later = mailed office calls entries ∧
      Exchanges (IsReported office.mailServer office.vault event address message)
        office.mailCalls.length certificates entries calls := by
  induction certificates generalizing office entries with
  | nil =>
      cases done
      exact ⟨[], (mailed_nil _).symm, .nil _⟩
  | cons c rest ih =>
      obtain ⟨entry, between, first, done⟩ := Work.perform_bind_eq_ok_iff.1 done
      obtain ⟨others, after, onward, done⟩ := Work.perform_bind_eq_ok_iff.1 done
      cases done
      obtain ⟨calls, rfl, reported⟩ := mailed_of_mailOne keyed (present c List.mem_cons_self) first
      obtain ⟨fresh, apart⟩ := List.nodup_cons.1 apart
      have stillPresent : ∀ d ∈ rest, d ∈ (mailed office calls [entry]).ledger.certificates := by
        intro d member
        have other : c.id ≠ d.id := fun same => fresh (List.mem_map.2 ⟨d, member, same.symm⟩)
        exact mem_mailed (present d (List.mem_cons_of_mem c member)) calls
          (reported.certificateId ▸ other)
      obtain ⟨more, rfl, exchanges⟩ :=
        ih apart (keyed_mailed keyed calls [entry]) stillPresent onward
      refine ⟨calls ++ more, mailed_mailed office calls more entry others, .cons reported ?_⟩
      rw [← List.length_append]
      exact exchanges

end

/-- A certificate with a given id is marked. -/
def IsMarked (l : Ledger) (id : Int) : Prop :=
  ∃ row ∈ l.certificates, row.id = id ∧ row.emailSent = true

section

variable (id : Int)

theorem keeps_markSent (c : Certificate) :
    (markSent c).Keeps fun office => IsMarked office.ledger id := by
  rintro office ⟨row, member, here, sent⟩
  rw [Work.after, perform_markSent]
  by_cases same : row.id = c.id
  · exact ⟨mark office.clock.naive c, List.mem_map.2 ⟨row, member, if_pos same⟩,
      same.symm.trans here, rfl⟩
  · exact ⟨row, List.mem_map.2 ⟨row, member, if_neg same⟩, here, sent⟩

theorem keeps_mailOne (event : Event) (address : VerifyAddress) (message : Option String)
    (c : Certificate) :
    (mailOne event address message c).Keeps fun office => IsMarked office.ledger id := by
  unfold mailOne
  simp only
  refine Work.Keeps.bind (fun office marked => marked) fun office => ?_
  split
  · exact (Work.looks_pure _).keeps
  · refine Work.Keeps.bind (fun office marked => marked) fun outcome => ?_
    split
    · exact (keeps_markSent id c).bind fun _ => (Work.looks_pure _).keeps
    · exact (Work.looks_pure _).keeps

theorem keeps_mailAll (event : Event) (address : VerifyAddress) (message : Option String)
    (certificates : List Certificate) :
    (mailAll event address message certificates).Keeps fun office =>
      IsMarked office.ledger id := by
  induction certificates with
  | nil => exact (Work.looks_pure _).keeps
  | cons c rest ih =>
      refine (keeps_mailOne id event address message c).bind fun _ => ?_
      exact ih.bind fun _ => (Work.looks_pure _).keeps

theorem keeps_notify (eventId : Int) (address : VerifyAddress) (request : Option (List Json))
    (message : Option String) :
    (notify eventId address request message).Keeps fun office => IsMarked office.ledger id := by
  refine (looks_requireEvent eventId).keeps.bind fun event => ?_
  refine (looks_chosen event.id request).keeps.bind fun certificates => ?_
  exact keeps_mailAll id event address message certificates

end

/-- Whatever mailing comes to, and whatever else the office does, a mark is not taken away. -/
theorem isMarked_step {id : Int} (step : Step) {office : Office} (sound : office.Sound)
    (marked : IsMarked office.ledger id) : IsMarked (step.run office).ledger id := by
  cases step with
  | change circumstances => exact marked
  | operation op =>
      have rewritten := op.rewrites sound
      rw [Step.run]
      generalize written : (op.work.after office).ledger = later at rewritten ⊢
      cases rewritten with
      | spares => exact marked
      | templates => exact marked
      | checksIn => exact marked
      | issues options event template request rows =>
          obtain ⟨row, member, here, sent⟩ := marked
          exact ⟨row, List.mem_append_left rows member, here, sent⟩
      | removes templateId =>
          obtain ⟨row, member, here, sent⟩ := marked
          refine ⟨_, List.mem_map_of_mem member, ?_⟩
          split
          · exact ⟨here, sent⟩
          · exact ⟨here, sent⟩
      | marks event address request message certificates =>
          rw [← written, Operation.work, Work.after_bind_pure]
          exact keeps_notify id event address request message office marked

/-- Through a whole history the same certificate stays marked. -/
theorem stays_marked {office : Office} (sound : office.Sound) {history : List Step}
    (ordinary : ∀ step ∈ history, Step.IsOrdinary step) {c : Certificate}
    (member : c ∈ office.ledger.certificates) (sent : c.emailSent = true) :
    ∃ row ∈ (office.through history).ledger.certificates,
      row.issue = c.issue ∧ row.emailSent = true := by
  have advances := Office.advances_through ordinary sound
  have marked : IsMarked (office.through history).ledger c.id :=
    Office.holds_through (P := fun office => IsMarked office.ledger c.id) ordinary
      (fun step _ _ => isMarked_step step) sound ⟨c, member, rfl, sent⟩
  obtain ⟨row, present, same⟩ := advances.retains.exists_row member
  obtain ⟨other, there, here, stillSent⟩ := marked
  have sameId : row.issue.id = c.issue.id := congrArg Certificate.id same
  have equal : other = row := List.inj_on_of_nodup_map advances.sound.ledger.ids there present
    (here.trans sameId.symm)
  exact ⟨row, present, same, equal ▸ stillSent⟩

/-- The entries are counted by what they say. -/
theorem entriesJson_counts (entries : List Entry) :
    ∃ sent failed : Nat, sent = entries.countP Entry.isSent ∧ sent + failed = entries.length ∧
      entriesJson entries = [("results", .arr (entries.map Entry.toJson)),
        ("summary", .obj [("total", .int entries.length), ("sent", .int sent),
          ("failed", .int failed)])] := by
  have bounded : entries.countP Entry.isSent ≤ entries.length := List.countP_le_length
  refine ⟨_, entries.length - entries.countP Entry.isSent, rfl, Nat.add_sub_cancel' bounded, ?_⟩
  unfold entriesJson
  rw [← List.countP_eq_length_filter, Int.ofNat_sub bounded]

/-- Whenever mailing comes to a report, it is about the certificates of the event that the request
selects, each of them once, by serial number and id. An entry says that the message was sent exactly
if the file was read and the letter was sent, and nothing is sent for a file that cannot be read.
The rows that are reported as sent are marked with the time; apart from the calls to the mail server
nothing else has changed. The summary counts the entries by what they say. And no mark is taken away
by anything that the office does. -/
theorem marks_follow_report {office later : Office} (reachable : office.IsReachable)
    {eventId : Int} {address : VerifyAddress} {request : Option (List Json)}
    {message : Option String} {entries : List Entry}
    (done : (notify eventId address request message).perform office = (.ok entries, later)) :
    (∃ event certificates calls, office.ledger.event? eventId = some event ∧
      IsSelection office.ledger eventId request certificates ∧
      entries.map (·.certificateId) = certificates.map (·.id) ∧
      Exchanges (IsReported office.mailServer office.vault event address message)
        office.mailCalls.length certificates entries calls ∧
      later = mailed office calls entries) ∧
    (∃ sent failed : Nat, sent = entries.countP Entry.isSent ∧ sent + failed = entries.length ∧
      entriesJson entries = [("results", .arr (entries.map Entry.toJson)),
        ("summary", .obj [("total", .int entries.length), ("sent", .int sent),
          ("failed", .int failed)])]) ∧
    ∀ history, (∀ step ∈ history, Step.IsOrdinary step) →
      ∀ c ∈ office.ledger.certificates, c.emailSent = true →
        ∃ row ∈ (office.through history).ledger.certificates,
          row.issue = c.issue ∧ row.emailSent = true := by
  have sound := reachable.sound
  have keyed := sound.ledger.ids
  refine ⟨?_, entriesJson_counts entries, ?_⟩
  · obtain ⟨event, between, asked, onward⟩ := Work.perform_bind_eq_ok_iff.1 done
    have found := event_of_requireEvent asked
    obtain rfl : between = office := Work.Looks.later_eq (looks_requireEvent eventId) asked
    obtain ⟨certificates, after, selected, mailing⟩ := Work.perform_bind_eq_ok_iff.1 onward
    obtain ⟨rfl, selection⟩ := isSelection_of_chosen keyed selected
    rw [Ledger.id_of_event? found] at selection
    have apart : (certificates.map (·.id)).Nodup := by
      refine List.pairwise_map.2 (selection.order.imp_of_mem ?_)
      rintro c d first second before same
      have equal := List.inj_on_of_nodup_map keyed ((selection.members c).1 first).1
        ((selection.members d).1 second).1 same
      rw [equal] at before
      omega
    obtain ⟨calls, same, exchanges⟩ := mailed_of_mailAll apart keyed
      (fun c member => ((selection.members c).1 member).1) mailing
    exact ⟨event, certificates, calls, found, selection, exchanges.certificateIds, exchanges, same⟩
  · exact fun history ordinary c member sent => stays_marked sound ordinary member sent

end Mail

/-! Ada and Cleo are asked for, Cleo twice, and so is a certificate that is not there. The server
refuses the message to Cleo. -/

namespace Launch

def spelledRequest : List Json := [.int 3, .str " 1 ", .int 3, .int 9]

def reported : List Mail.Entry :=
  [⟨1, ada.name, ada.email, none⟩, ⟨3, cleo.name, cleo.email, some "Connection unexpectedly closed"⟩]

end Launch

theorem launch_marks_follow_report :
    ((Mail.notify 1 (.ofSetting "") (some Launch.spelledRequest) none).perform
        (Launch.start.through Launch.mailingHistory)).1 = .ok Launch.reported ∧
      ∃ certificates calls,
        Mail.IsSelection (Launch.start.through Launch.mailingHistory).ledger 1
          (some Launch.spelledRequest) certificates ∧
        certificates.map (·.id) = [1, 3] ∧
        Mail.Exchanges (Mail.IsReported Launch.busyServer
          (Launch.start.through Launch.mailingHistory).vault (Launch.entitled "Launch")
          (.ofSetting "") none) 0 certificates Launch.reported calls ∧
        ((Mail.notify 1 (.ofSetting "") (some Launch.spelledRequest) none).perform
            (Launch.start.through Launch.mailingHistory)).2.ledger.certificates =
          [Mail.mark Launch.clock Launch.adasCertificate, Launch.bensCertificate,
            Launch.cleosCertificate] := by
  have facts : ((Mail.mailAll (Launch.entitled "Launch") (.ofSetting "") none
        [Launch.adasCertificate, Launch.cleosCertificate]).perform
          (Launch.start.through Launch.mailingHistory)).1 = .ok Launch.reported ∧
      (Launch.start.through Launch.mailingHistory).mailCalls.length = 0 ∧
      (Launch.start.through Launch.mailingHistory).clock = Launch.clock ∧
      (Launch.start.through Launch.mailingHistory).ledger.certificates =
        [Launch.adasCertificate, Launch.bensCertificate, Launch.cleosCertificate] := by
    decide +kernel
  have spelled : Mail.requestedCertificates Launch.spelledRequest = .ok [3, 1, 3, 9] := by
    decide +kernel
  have server := Launch.mailServer_mailingHistory
  have listed := Launch.certificatesOf_mailingHistory
  have eventFound := Launch.event?_mailingHistory
  have reachable := Launch.isReachable_through_mailingHistory
  generalize Launch.start.through Launch.mailingHistory = office at *
  obtain ⟨told, silent, clock, rows⟩ := facts
  have among : Mail.certificatesAmong office.ledger 1 (some [3, 1, 3, 9]) =
      [Launch.adasCertificate, Launch.cleosCertificate] := by
    unfold Mail.certificatesAmong
    rw [listed]
    decide
  have reported : ((Mail.notify 1 (.ofSetting "") (some Launch.spelledRequest) none).perform
      office).1 = .ok Launch.reported := by
    rw [Mail.perform_notify_of_event (by decide) eventFound,
      Work.perform_bind_of_ok (Mail.perform_chosen_of_read spelled (by decide) office), among, told]
  obtain ⟨later, done⟩ := Work.exists_perform_eq reported
  obtain ⟨⟨event, certificates, calls, found, selection, ids, exchanges, same⟩, -, -⟩ :=
    Mail.marks_follow_report reachable done
  cases eventFound.symm.trans found
  rw [server, silent] at exchanges
  refine ⟨reported, certificates, calls, selection, ids.symm, exchanges, ?_⟩
  rw [done, same, Mail.mailed, clock, rows]
  change [Launch.adasCertificate, Launch.bensCertificate, Launch.cleosCertificate].map
    (Mail.markedRow Launch.clock.naive Launch.reported) = _
  decide +kernel

end Issuance
