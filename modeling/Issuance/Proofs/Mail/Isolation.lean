import Issuance.Proofs.Batch.Independence
import Issuance.Proofs.Durability
/-!
Certificates are mailed one by one, and what the server refuses for one of them is no matter of the
others: each gets its entry in the report, also if its file cannot be read.

A message that cannot be put together is another thing. If its subject or its sender takes more than
one line, or a header of addresses cannot be taken apart, mailing breaks off there, and nobody is
told which certificates were sent before.
-/

namespace Issuance
namespace Mail

/-- What the server does not do it refuses; no call to it breaks the program down. -/
def Server.IsCivil (server : Server) : Prop :=
  ∀ made name text, server.outages.outage? made name ≠ some (.breakdown text)

/-- The server is set up, the letter has an address to go to, but one of its headers cannot be
set. -/
def IsMisformed (server : Server) (letter : Letter) (defect : Defect) : Prop :=
  ∃ host service fromAddress, server.setting? "SMTP_HOST" = some host ∧
    server.setting? "SMTP_PORT" = some service ∧
    server.setting? "SMTP_FROM_DEFAULT" = some fromAddress ∧
    addresses letter.recipients ≠ [] ∧
    server.checkHeaders letter.subject (addresses letter.recipients) (server.sender fromAddress) =
      .error defect

theorem Server.IsCivil.after {server : Server} (civil : server.IsCivil) (count : Nat) :
    (server.after count).IsCivil :=
  fun made name text => civil (count + made) name text

theorem isMisformed_after_iff {server : Server} {count : Nat} {letter : Letter} {defect : Defect} :
    IsMisformed (server.after count) letter defect ↔ IsMisformed server letter defect := Iff.rfl

namespace Session

variable {α β : Type}

/-- The session never ends in a breakdown. -/
def EndsCivilly (session : Session α) : Prop :=
  ∀ made text, (session.run.run made).1 ≠ .error (.breakdown text)

theorem endsCivilly_refused (text : String) :
    EndsCivilly (throw (.refused text) : Session α) := by
  intro made other broken
  cases broken

theorem run_bind (session : Session α) (next : α → Session β) (made : List Call) :
    (session >>= next).run.run made =
      match session.run.run made with
      | (.ok a, later) => (next a).run.run later
      | (.error outage, later) => (.error outage, later) := by
  change (ExceptT.bindCont next (session made).1) (session made).2 = _
  cases performed : session.run.run made with
  | mk result later =>
      have same : session made = (result, later) := performed
      rw [same]
      cases result <;> rfl

theorem EndsCivilly.bind {session : Session α} {next : α → Session β} (first : EndsCivilly session)
    (later : ∀ a, EndsCivilly (next a)) : EndsCivilly (session >>= next) := by
  intro made text
  have kept := first made text
  rw [run_bind]
  cases performed : session.run.run made with
  | mk result between =>
      rw [performed] at kept
      cases result with
      | error outage =>
          intro broken
          cases broken
          exact kept rfl
      | ok a => exact later a between text

end Session

theorem endsCivilly_call {server : Server} (civil : server.IsCivil) (c : Call) :
    (call server c).EndsCivilly := by
  intro made text
  have known : (get : Session (List Call)).run.run made = (.ok made, made) := rfl
  have noted : (set (made ++ [c]) : Session PUnit).run.run made = (.ok ⟨⟩, made ++ [c]) := rfl
  rw [call, Session.run_bind, known]
  simp only
  rw [Session.run_bind, noted]
  simp only
  cases found : server.outages.outage? made.length c.name with
  | none =>
      intro broken
      cases broken
  | some outage =>
      intro broken
      cases broken
      exact civil _ _ _ found

theorem endsCivilly_converse {server : Server} (civil : server.IsCivil) (host service : String)
    (envelope : Envelope) : (converse server host service envelope).EndsCivilly := by
  have calls := endsCivilly_call civil
  have leave : Session.EndsCivilly (do
      call server (.handOver envelope)
      call server .quit) := (calls _).bind fun _ => calls _
  unfold converse
  split
  · refine (calls _).bind fun _ => ?_
    simp only
    cases server.login? with
    | none =>
        split
        · exact (calls _).bind fun _ => leave
        · exact leave
    | some login =>
        obtain ⟨user, password⟩ := login
        have enter := (calls (.login user password)).bind fun _ => leave
        split
        · exact (calls _).bind fun _ => enter
        · exact enter
  · exact Session.endsCivilly_refused _

theorem send_of_isMisformed {server : Server} {letter : Letter} {defect : Defect}
    (misformed : IsMisformed server letter defect) : send server letter = (.error defect, []) := by
  obtain ⟨host, service, fromAddress, hosted, served, sent, someone, broken⟩ := misformed
  have filled : (addresses letter.recipients).isEmpty = false := by
    rw [List.isEmpty_eq_false_iff]
    exact someone
  simp only [send, hosted, served, sent, filled, broken, Bool.false_eq_true, if_false]

theorem exists_outcome_of_send {server : Server} (civil : server.IsCivil) {letter : Letter}
    (wellFormed : ∀ defect, ¬IsMisformed server letter defect) :
    ∃ outcome calls, send server letter = (.ok outcome, calls) := by
  unfold send
  simp only
  split
  · next host service fromAddress hosted served sent =>
      split
      · exact ⟨_, _, rfl⟩
      · next someone =>
          split
          · next defect broken =>
              refine absurd ?_ (wellFormed defect)
              refine ⟨host, service, fromAddress, hosted, served, sent, ?_, broken⟩
              rwa [Bool.not_eq_true, List.isEmpty_eq_false_iff] at someone
          · have civilly := endsCivilly_converse civil host service ⟨letter.subject,
              server.sender fromAddress, fromAddress, addresses letter.recipients,
              sentBody letter.body, letter.attachments⟩ []
            split
            next result calls conversed =>
              rw [conversed] at civilly
              cases result with
              | ok _ => exact ⟨_, _, rfl⟩
              | error outage =>
                  cases outage with
                  | refused text => exact ⟨_, _, rfl⟩
                  | breakdown text => exact absurd rfl (civilly text)
  · exact ⟨_, _, rfl⟩

/-- The file of a certificate can be read, but the letter that it would go with is misformed. -/
def HasMisformedLetter (office : Office) (event : Event) (address : VerifyAddress)
    (message : Option String) (c : Certificate) (defect : Defect) : Prop :=
  ∃ content, office.vault.read c.fileRef = .ok content ∧
    IsMisformed office.mailServer (letterFor event address message c content) defect

/-- If the file of a certificate can be read, its letter comes to an outcome, after however many
calls to the server it is sent. -/
def IsQuiet (office : Office) (event : Event) (address : VerifyAddress) (message : Option String)
    (c : Certificate) : Prop :=
  ∀ content, office.vault.read c.fileRef = .ok content → ∀ made, ∃ outcome calls,
    send (office.mailServer.after made) (letterFor event address message c content) =
      (.ok outcome, calls)

/-- What is reported of a certificate: its file cannot be read, or its letter was tried after some
calls to the server and has come to an outcome. -/
inductive IsEntryOf (office : Office) (event : Event) (address : VerifyAddress)
    (message : Option String) (c : Certificate) : Entry → Prop
  | unreadable {fault : IoFault} (unread : office.vault.read c.fileRef = .error fault) :
      IsEntryOf office event address message c
        ⟨c.id, c.participantName, c.participantEmail, some "Certificate file unavailable"⟩
  | refused {content : Content} {made : Nat} {detail : String} {calls : List Call}
      (there : office.vault.read c.fileRef = .ok content)
      (tried : send (office.mailServer.after made) (letterFor event address message c content) =
        (.ok ⟨false, detail⟩, calls)) :
      IsEntryOf office event address message c
        ⟨c.id, c.participantName, c.participantEmail, some detail⟩
  | sent {content : Content} {made : Nat} {detail : String} {calls : List Call}
      (there : office.vault.read c.fileRef = .ok content)
      (tried : send (office.mailServer.after made) (letterFor event address message c content) =
        (.ok ⟨true, detail⟩, calls)) :
      IsEntryOf office event address message c ⟨c.id, c.participantName, c.participantEmail, none⟩

/-- The stores and the mail server are those of an earlier office. -/
structure SameFacilities (office later : Office) : Prop where
  vault : later.vault = office.vault
  mailServer : later.mailServer = office.mailServer

section Mailing

variable {office later : Office} {event : Event} {address : VerifyAddress} {message : Option String}

theorem isQuiet_of_civil (civil : office.mailServer.IsCivil) {c : Certificate}
    (wellFormed : ∀ defect, ¬HasMisformedLetter office event address message c defect) :
    IsQuiet office event address message c :=
  fun content there made => exists_outcome_of_send (civil.after made) fun defect misformed =>
    wellFormed defect ⟨content, there, isMisformed_after_iff.1 misformed⟩

theorem SameFacilities.isQuiet (same : SameFacilities office later) {c : Certificate}
    (quiet : IsQuiet office event address message c) : IsQuiet later event address message c := by
  unfold IsQuiet
  rw [same.vault, same.mailServer]
  exact quiet

theorem SameFacilities.hasMisformedLetter_iff (same : SameFacilities office later)
    {c : Certificate} {defect : Defect} :
    HasMisformedLetter later event address message c defect ↔
      HasMisformedLetter office event address message c defect := by
  unfold HasMisformedLetter
  rw [same.vault, same.mailServer]

theorem SameFacilities.isEntryOf (same : SameFacilities office later) {c : Certificate}
    {entry : Entry} (reported : IsEntryOf later event address message c entry) :
    IsEntryOf office event address message c entry := by
  obtain ⟨vault, server⟩ := same
  cases reported with
  | unreadable unread => exact .unreadable (vault ▸ unread)
  | refused there tried => exact .refused (vault ▸ there) (server ▸ tried)
  | sent there tried => exact .sent (vault ▸ there) (server ▸ tried)

theorem perform_mailOne_of_misformed {c : Certificate} {defect : Defect}
    (misformed : HasMisformedLetter office event address message c defect) :
    (mailOne event address message c).perform office = (.error (.defect defect), office) := by
  obtain ⟨content, there, misformed⟩ := misformed
  unfold mailOne
  simp only
  rw [Work.perform_bind, Work.perform_get]
  simp only [there]
  rw [Work.perform_bind, perform_sendLetter,
    send_of_isMisformed (isMisformed_after_iff.2 misformed), List.append_nil]
  rfl

theorem perform_mailOne_of_quiet {c : Certificate}
    (quiet : IsQuiet office event address message c) : ∃ entry later, (mailOne event address message c).perform office = (.ok entry, later) ∧
      IsEntryOf office event address message c entry ∧ SameFacilities office later := by
  unfold mailOne
  simp only
  rw [Work.perform_bind, Work.perform_get]
  simp only
  cases there : office.vault.read c.fileRef with
  | error fault => exact ⟨_, office, rfl, .unreadable there, rfl, rfl⟩
  | ok content =>
      obtain ⟨outcome, calls, tried⟩ := quiet content there office.mailCalls.length
      simp only
      rw [Work.perform_bind, perform_sendLetter, tried]
      obtain ⟨ok, detail⟩ := outcome
      cases ok with
      | false => exact ⟨_, _, rfl, .refused there tried, rfl, rfl⟩
      | true => exact ⟨_, _, rfl, .sent there tried, rfl, rfl⟩

/-- Where every letter comes to an outcome, every certificate gets its entry. -/
theorem perform_mailAll_of_quiet {certificates : List Certificate}
    (quiet : ∀ c ∈ certificates, IsQuiet office event address message c) :
    ∃ entries later, (mailAll event address message certificates).perform office =
        (.ok entries, later) ∧
      List.Forall₂ (IsEntryOf office event address message) certificates entries := by
  induction certificates generalizing office with
  | nil => exact ⟨[], office, rfl, .nil⟩
  | cons c rest ih =>
      obtain ⟨entry, between, mailed, reported, same⟩ :=
        perform_mailOne_of_quiet (quiet c List.mem_cons_self)
      obtain ⟨entries, later, onward, others⟩ := ih fun d member =>
        same.isQuiet (quiet d (List.mem_cons_of_mem c member))
      refine ⟨entry :: entries, later, ?_, .cons reported (others.imp fun _ _ => same.isEntryOf)⟩
      rw [mailAll, Work.perform_bind_of_ok mailed, Work.perform_bind_of_ok onward]
      rfl

/-- The first misformed letter ends the work, and what was done before it stays done. -/
theorem perform_mailAll_of_misformed {before after : List Certificate} {c : Certificate}
    {defect : Defect} (quiet : ∀ d ∈ before, IsQuiet office event address message d)
    (misformed : HasMisformedLetter office event address message c defect) :
    (mailAll event address message (before ++ c :: after)).perform office =
      (.error (.defect defect), (mailAll event address message before).after office) := by
  induction before generalizing office with
  | nil =>
      rw [List.nil_append]
      exact Work.perform_bind_of_error (perform_mailOne_of_misformed misformed) _
  | cons d rest ih =>
      obtain ⟨entry, between, mailed, -, same⟩ :=
        perform_mailOne_of_quiet (quiet d List.mem_cons_self)
      have onward := ih (fun e member => same.isQuiet (quiet e (List.mem_cons_of_mem d member)))
        (same.hasMisformedLetter_iff.2 misformed)
      have earlier : (mailAll event address message (d :: rest)).after office =
          (mailAll event address message rest).after between := by
        rw [mailAll, Work.after, Work.perform_bind_of_ok mailed]
        exact Work.after_bind_pure _ _ between
      rw [List.cons_append, mailAll, Work.perform_bind_of_ok mailed,
        Work.perform_bind_of_error onward, earlier]

end Mailing

/-- The certificates of an event that have one of the given ids, or all of them. -/
def certificatesAmong (l : Ledger) (eventId : Int) : Option (List Int) → List Certificate
  | none => l.certificatesOf eventId
  | some ids => (l.certificatesOf eventId).filter fun c => ids.contains c.id

theorem requestedCertificates_ints (ids : List Int) :
    requestedCertificates (ids.map Json.int) = .ok ids := by
  unfold requestedCertificates
  induction ids with
  | nil => rfl
  | cons id rest ih =>
      rw [List.map_cons, List.mapM_cons, ih]
      rfl

/-- The two checks of ids are one. -/
theorem checkCertificateIds_eq_checkIds (ids : List Int) :
    checkCertificateIds ids = Batch.checkIds ids := by
  induction ids with
  | nil => rfl
  | cons id rest ih => rw [checkCertificateIds, Batch.checkIds, ih]

theorem perform_chosen_of_read {eventId : Int} {raws : List Json} {ids : List Int}
    (read : requestedCertificates raws = .ok ids) (inTables : ∀ id ∈ ids, IsInTables id)
    (office : Office) :
    (chosen eventId (some raws)).perform office =
      (.ok (certificatesAmong office.ledger eventId (some ids)), office) := by
  unfold chosen
  rw [Work.perform_bind_of_ok (Work.perform_ledger office)]
  simp only [read]
  rw [Work.perform_bind_of_ok (Work.perform_ofFailure (.ok ids) office),
    checkCertificateIds_eq_checkIds,
    Work.perform_bind_of_ok (Batch.perform_checkIds inTables office)]
  rfl

theorem perform_chosen {eventId : Int} {ids : Option (List Int)}
    (inTables : ∀ list, ids = some list → ∀ id ∈ list, IsInTables id)
    (office : Office) :
    (chosen eventId (ids.map fun list => list.map Json.int)).perform office =
      (.ok (certificatesAmong office.ledger eventId ids), office) := by
  cases ids with
  | none => rfl
  | some list =>
      exact perform_chosen_of_read (requestedCertificates_ints list) (inTables list rfl) office

theorem perform_chosen_of_outside {eventId id : Int} {raws : List Json} {ids : List Int}
    (read : requestedCertificates raws = .ok ids) (asked : id ∈ ids) (outside : ¬IsInTables id)
    (office : Office) :
    (chosen eventId (some raws)).perform office = (.error idTooLarge, office) := by
  unfold chosen
  rw [Work.perform_bind_of_ok (Work.perform_ledger office)]
  simp only [read]
  rw [Work.perform_bind_of_ok (Work.perform_ofFailure (.ok ids) office),
    checkCertificateIds_eq_checkIds]
  exact Work.perform_bind_of_error (Batch.perform_checkIds_of_outside asked outside office) _

section Notifying

variable {office : Office} {eventId : Int} {event : Event}
  (eventInTables : IsInTables eventId)
  (found : office.ledger.event? eventId = some event)

include eventInTables found

theorem perform_notify_of_event (address : VerifyAddress) (request : Option (List Json))
    (message : Option String) :
    (notify eventId address request message).perform office =
      (chosen eventId request >>= mailAll event address message).perform office := by
  unfold notify
  rw [Work.perform_bind_of_ok (perform_requireEvent eventInTables found),
    Ledger.id_of_event? found]

theorem perform_notify {ids : Option (List Int)}
    (inTables : ∀ list, ids = some list → ∀ id ∈ list, IsInTables id)
    (address : VerifyAddress) (message : Option String) :
    (notify eventId address (ids.map fun list => list.map Json.int) message).perform office =
      (mailAll event address message (certificatesAmong office.ledger eventId ids)).perform
        office := by
  rw [perform_notify_of_event eventInTables found,
    Work.perform_bind_of_ok (perform_chosen inTables office)]

end Notifying

/-- Mailing certificates of an event by their ids. If every letter can be put together, every chosen
certificate gets its entry, whatever the server refuses and whichever files cannot be read. The
first letter that is misformed breaks everything off with its defect: the certificates before it
have been dealt with, those after it have not, and nothing is reported. So does an id that cannot be
looked up, before anything is done. -/
theorem notify_reports_all_or_breaks_off {office : Office} {eventId : Int} {event : Event}
    (eventInTables : IsInTables eventId)
    (found : office.ledger.event? eventId = some event) (civil : office.mailServer.IsCivil)
    (address : VerifyAddress) (ids : Option (List Int)) (message : Option String) :
    ((∀ list, ids = some list → ∀ id ∈ list, IsInTables id) →
      ((∀ c ∈ certificatesAmong office.ledger eventId ids, ∀ defect,
          ¬HasMisformedLetter office event address message c defect) →
        ∃ entries, ((notify eventId address (ids.map fun list => list.map Json.int)
            message).perform office).1 = .ok entries ∧
          List.Forall₂ (IsEntryOf office event address message)
            (certificatesAmong office.ledger eventId ids) entries) ∧
      ∀ before c after defect, certificatesAmong office.ledger eventId ids = before ++ c :: after →
        (∀ d ∈ before, ∀ other, ¬HasMisformedLetter office event address message d other) →
        HasMisformedLetter office event address message c defect →
        (notify eventId address (ids.map fun list => list.map Json.int) message).perform office =
          (.error (.defect defect), (mailAll event address message before).after office)) ∧
    ∀ list, ids = some list → (∃ id ∈ list, ¬IsInTables id) →
      (notify eventId address (ids.map fun list => list.map Json.int) message).perform office =
        (.error idTooLarge, office) := by
  constructor
  · intro inTables
    rw [perform_notify eventInTables found inTables]
    constructor
    · intro wellFormed
      obtain ⟨entries, later, done, reported⟩ := perform_mailAll_of_quiet fun c member =>
        isQuiet_of_civil civil (wellFormed c member)
      exact ⟨entries, congrArg Prod.fst done, reported⟩
    · intro before c after defect split wellFormed misformed
      rw [split]
      exact perform_mailAll_of_misformed
        (fun d member => isQuiet_of_civil civil (wellFormed d member)) misformed
  · rintro list rfl ⟨id, asked, outside⟩
    rw [perform_notify_of_event eventInTables found]
    exact Work.perform_bind_of_error
      (perform_chosen_of_outside (requestedCertificates_ints list) asked outside office) _

end Mail

/-! Three guests of the launch get their certificates one after the other, and while the second one
is issued the title of the event takes two lines. -/

namespace Launch

def ada : Registration := { guest with email := some "ada@example.org" }

def ben : Registration := { ada with id := 2, name := some "Ben", email := some "ben@example.org" }

def cleo : Registration :=
  { ada with id := 3, name := some "Cleo", email := some "cleo@example.org" }

/-- A mail server that refuses to take a message over after four calls. -/
def busyServer : Mail.Server where
  settings := [("SMTP_HOST", "mail.example.org"), ("SMTP_PORT", "25"),
    ("SMTP_FROM_DEFAULT", "office@example.org")]
  outages := { outage? := fun made name =>
    if made = 4 ∧ name = .handOver then some (.refused "Connection unexpectedly closed") else none }

def entitled (title : String) : Event := { event with title := some title }

def issuing (title : String) (registration : Registration) : List Step :=
  [.change { circumstances with events := [entitled title], registrations := [registration] },
    .operation (.checkIn registration none), .operation (.generate options 1 1 none)]

def mailingHistory : List Step :=
  .operation (.createTemplate .standard draft) :: issuing "Launch" ada ++
    issuing "Launch\nand after" ben ++ issuing "Launch" cleo ++
    [.change { circumstances with events := [entitled "Launch"], mailServer := busyServer }]

theorem isReachable_through_mailingHistory : (start.through mailingHistory).IsReachable := by
  refine ⟨start, mailingHistory, isFresh_start, ?_, rfl⟩
  have ordinary : ∀ title registration, ∀ step ∈ issuing title registration,
      Step.IsOrdinary step := by
    intro title registration step member
    simp only [issuing, List.mem_cons, List.not_mem_nil, or_false] at member
    rcases member with rfl | rfl | rfl
    · exact ⟨isOrdinary_circumstances.codes, isOrdinary_circumstances.unrivalled⟩
    · trivial
    · trivial
  intro step member
  simp only [mailingHistory, List.mem_append, List.mem_cons, List.cons_append, List.not_mem_nil,
    or_false] at member
  rcases member with rfl | ((early | middle) | late) | rfl
  · trivial
  · exact ordinary _ _ step early
  · exact ordinary _ _ step middle
  · exact ordinary _ _ step late
  · exact ⟨isOrdinary_circumstances.codes, isOrdinary_circumstances.unrivalled⟩

def adasCertificate : Certificate := { certificate with participantEmail := ada.email }

def bensCertificate : Certificate :=
  { adasCertificate with
    id := 2
    registrationId := 2
    codes := secondCodes
    serial := 2
    fileRef := "primary:certificates/1/2/CERT-000000000002.png"
    participantName := ben.name
    participantEmail := ben.email
    eventTitle := some "Launch\nand after" }

def cleosCertificate : Certificate :=
  { adasCertificate with
    id := 3
    registrationId := 3
    codes := ⟨"CERT-000000000003", "VERIFY-0000000000000003"⟩
    serial := 3
    fileRef := "primary:certificates/1/3/CERT-000000000003.png"
    participantName := cleo.name
    participantEmail := cleo.email }

theorem certificatesOf_mailingHistory :
    (start.through mailingHistory).ledger.certificatesOf 1 =
      [adasCertificate, bensCertificate, cleosCertificate] := by
  have rows : (start.through mailingHistory).ledger.certificates =
      [adasCertificate, bensCertificate, cleosCertificate] := by
    decide +kernel
  unfold Ledger.certificatesOf
  rw [rows]
  exact List.mergeSort_of_pairwise (by decide)

theorem event?_mailingHistory :
    (start.through mailingHistory).ledger.event? 1 = some (entitled "Launch") := by
  decide +kernel

theorem mailServer_mailingHistory : (start.through mailingHistory).mailServer = busyServer := rfl

theorem isCivil_busyServer : busyServer.IsCivil := by
  intro made name text broken
  simp only [busyServer] at broken
  split at broken
  · cases broken
  · cases broken

theorem not_hasMisformedLetter {office : Office} (server : office.mailServer = busyServer)
    {event : Event} {c : Certificate} {title : String} (address : VerifyAddress)
    (message : Option String) (titled : c.eventTitle = some title) (some : title.isEmpty = false)
    (fits : busyServer.checkHeaders (Mail.certificateSubject title)
      (Mail.addresses (.ofText? c.participantEmail)) "office@example.org" = .ok ()) (defect : Defect) :
    ¬Mail.HasMisformedLetter office event address message c defect := by
  rintro ⟨content, -, host, service, fromAddress, -, -, sent, -, broken⟩
  rw [server] at sent broken
  have subject : (Mail.letterFor event address message c content).subject =
      Mail.certificateSubject title := by
    simp only [Mail.letterFor, titled, some]
    rfl
  cases sent
  rw [subject] at broken
  cases fits.symm.trans broken

theorem hasMisformedLetter_ben (address : VerifyAddress) (message : Option String) :
    Mail.HasMisformedLetter (start.through mailingHistory) (entitled "Launch") address message
      bensCertificate Mail.severalLines := by
  have readable :
      ((start.through mailingHistory).vault.read bensCertificate.fileRef).isOk = true := by
    decide +kernel
  obtain ⟨content, there⟩ := exists_ok_of_isOk readable
  refine ⟨content, there, "mail.example.org", "25", "office@example.org", ?_⟩
  rw [mailServer_mailingHistory]
  refine ⟨by decide +kernel, by decide +kernel, by decide +kernel, ?_, ?_⟩
  · change Mail.addresses (.text "ben@example.org") ≠ []
    decide +kernel
  · have several :
        Mail.checkLines (Mail.certificateSubject "Launch\nand after") = .error Mail.severalLines := by
      decide +kernel
    change (Mail.checkLines (Mail.certificateSubject "Launch\nand after") >>= _) = _
    rw [several]
    rfl

end Launch

/-- Ada and Cleo have their entries if they are asked for, although the server refuses the message
to Cleo; if all three are, Ben's letter breaks the work off after Ada's. -/
theorem launch_mails_or_breaks_off :
    (∃ entries, ((Mail.notify 1 (.ofSetting "") (some [.int 3, .int 1]) none).perform
          (Launch.start.through Launch.mailingHistory)).1 = .ok entries ∧
        List.Forall₂ (Mail.IsEntryOf (Launch.start.through Launch.mailingHistory)
          (Launch.entitled "Launch") (.ofSetting "") none)
          [Launch.adasCertificate, Launch.cleosCertificate] entries) ∧
      (Mail.notify 1 (.ofSetting "") none none).perform
          (Launch.start.through Launch.mailingHistory) =
        (.error (.defect Mail.severalLines),
          (Mail.mailAll (Launch.entitled "Launch") (.ofSetting "") none
            [Launch.adasCertificate]).after (Launch.start.through Launch.mailingHistory)) := by
  have server := Launch.mailServer_mailingHistory
  have certificates := Launch.certificatesOf_mailingHistory
  have found := Launch.event?_mailingHistory
  have misformed := Launch.hasMisformedLetter_ben (.ofSetting "") none
  generalize Launch.start.through Launch.mailingHistory = office at *
  have civil : office.mailServer.IsCivil := server ▸ Launch.isCivil_busyServer
  have ada : ∀ defect, ¬Mail.HasMisformedLetter office (Launch.entitled "Launch") (.ofSetting "")
      none Launch.adasCertificate defect :=
    Launch.not_hasMisformedLetter server _ _ rfl (by decide +kernel) (by decide +kernel)
  have cleo : ∀ defect, ¬Mail.HasMisformedLetter office (Launch.entitled "Launch") (.ofSetting "")
      none Launch.cleosCertificate defect :=
    Launch.not_hasMisformedLetter server _ _ rfl (by decide +kernel) (by decide +kernel)
  constructor
  · have among : Mail.certificatesAmong office.ledger 1 (some [3, 1]) =
        [Launch.adasCertificate, Launch.cleosCertificate] := by
      unfold Mail.certificatesAmong
      rw [certificates]
      decide
    have outcome := ((Mail.notify_reports_all_or_breaks_off (by decide) found civil (.ofSetting "")
      (some [3, 1]) none).1 (by
        rintro list ⟨⟩
        decide)).1
    rw [among] at outcome
    refine outcome fun c member => ?_
    simp only [List.mem_cons, List.not_mem_nil, or_false] at member
    rcases member with rfl | rfl
    · exact ada
    · exact cleo
  · have among : Mail.certificatesAmong office.ledger 1 none = [Launch.adasCertificate] ++
        Launch.bensCertificate :: [Launch.cleosCertificate] := certificates
    refine ((Mail.notify_reports_all_or_breaks_off (by decide) found civil (.ofSetting "") none
      none).1 (fun _ none => nomatch none)).2 _ _ _ _ among ?_ misformed
    intro c member
    rw [List.mem_singleton.1 member]
    exact ada

/-- One letter that cannot be put together keeps the certificates after it from being mailed, and
the caller from learning which were. -/
theorem launch_mailing_not_isolated :
    ¬∀ office : Office, office.IsReachable → office.mailServer.IsCivil →
      ∀ event, office.ledger.event? 1 = some event → ∀ address message,
        ∃ entries, ((Mail.notify 1 address none message).perform office).1 = .ok entries ∧
          entries.length = (office.ledger.certificatesOf 1).length := by
  intro isolated
  have broken : ((Mail.notify 1 (.ofSetting "") none none).perform
      (Launch.start.through Launch.mailingHistory)).1 = .error (.defect Mail.severalLines) := by
    have mailed := @Mail.perform_notify _ 1 _ (by decide) Launch.event?_mailingHistory none
      (fun _ none => nomatch none) (.ofSetting "") none
    have ada : ∀ c ∈ [Launch.adasCertificate],
        Mail.IsQuiet (Launch.start.through Launch.mailingHistory) (Launch.entitled "Launch")
          (.ofSetting "") none c := by
      intro c member
      rw [List.mem_singleton.1 member]
      exact Mail.isQuiet_of_civil Launch.isCivil_busyServer
        (Launch.not_hasMisformedLetter Launch.mailServer_mailingHistory _ _ rfl
          (by decide +kernel) (by decide +kernel))
    have among : Mail.certificatesAmong (Launch.start.through Launch.mailingHistory).ledger 1 none =
        [Launch.adasCertificate] ++ Launch.bensCertificate :: [Launch.cleosCertificate] :=
      Launch.certificatesOf_mailingHistory
    rw [among, Mail.perform_mailAll_of_misformed ada
      (Launch.hasMisformedLetter_ben (.ofSetting "") none)] at mailed
    exact congrArg Prod.fst mailed
  obtain ⟨entries, done, -⟩ := isolated _ Launch.isReachable_through_mailingHistory
    Launch.isCivil_busyServer _ Launch.event?_mailingHistory (.ofSetting "") none
  rw [broken] at done
  cases done

end Issuance
