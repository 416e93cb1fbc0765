import Issuance.Proofs.Mail.Isolation
/-!
When a message is reported as sent. The calls of a session are made in turn until one of them fails,
and the last one leaves the server. If only this one fails, the message has been handed over and is
still reported as not sent; in all other cases the report is right.
-/

namespace Issuance
namespace Mail

/-- The message was handed over: the call was made, and it did not fail. -/
def HandedOver (server : Server) (calls : List Call) : Prop :=
  ∃ made envelope, calls[made]? = some (.handOver envelope) ∧
    server.outages.outage? made .handOver = none

/-- The server was to be left, and this failed. -/
def GoodbyeFails (server : Server) (calls : List Call) : Prop :=
  ∃ made, calls[made]? = some .quit ∧ server.outages.outage? made .quit ≠ none

/-- A message as it is handed over is that of the letter. -/
structure Carries (envelope : Envelope) (letter : Letter) : Prop where
  addresses : envelope.addresses = addresses letter.recipients
  subject : envelope.subject = letter.subject
  body : envelope.body = sentBody letter.body
  attachments : envelope.attachments = letter.attachments

/-- The calls before a message is handed over. -/
def opening (server : Server) (host : String) (number : Int) : List Call :=
  .connect (number = secureService) host number ::
    ((if number = submissionService then [.startTls] else []) ++
      (server.login?.toList.map fun login => .login login.1 login.2))

/-- The calls that hand a message over, if none of them fails. -/
def script (server : Server) (host : String) (number : Int) (envelope : Envelope) : List Call :=
  opening server host number ++ [.handOver envelope, .quit]

def callAll (server : Server) : List Call → Session Unit
  | [] => return
  | c :: rest => do
      call server c
      callAll server rest

theorem converse_eq {server : Server} {host service : String} {number : Int} {envelope : Envelope}
    (read : Text.integer? service = some number) :
    converse server host service envelope =
      callAll server (script server host number envelope) := by
  unfold converse script opening
  rw [read]
  simp only
  cases server.login? with
  | none => split <;> simp [callAll]
  | some login => split <;> simp [callAll]

theorem run_call (server : Server) (c : Call) (made : List Call) :
    (call server c).run.run made =
      (match server.outages.outage? made.length c.name with
        | none => .ok ()
        | some outage => .error outage, made ++ [c]) := by
  have known : (get : Session (List Call)).run.run made = (.ok made, made) := rfl
  have noted : (set (made ++ [c]) : Session PUnit).run.run made = (.ok ⟨⟩, made ++ [c]) := rfl
  rw [call, Session.run_bind, known]
  simp only
  rw [Session.run_bind, noted]
  simp only
  cases server.outages.outage? made.length c.name <;> rfl

/-- Some calls, after a number of others, do not fail. -/
def Complete (server : Server) (made : Nat) (calls : List Call) : Prop :=
  ∀ i c, calls[i]? = some c → server.outages.outage? (made + i) c.name = none

theorem Complete.nil (server : Server) (made : Nat) : Complete server made [] := by
  intro i c found
  cases found

theorem Complete.cons {server : Server} {made : Nat} {c : Call} {calls : List Call}
    (first : server.outages.outage? made c.name = none)
    (others : Complete server (made + 1) calls) : Complete server made (c :: calls) := by
  intro i d found
  cases i with
  | zero =>
      cases Option.some.inj found
      exact first
  | succ i =>
      have later := others i d found
      rwa [Nat.add_assoc, Nat.add_comm 1 i] at later

/-- The calls of a script are all made, or they are made up to the first one that fails. -/
theorem run_callAll (server : Server) (script made : List Call) :
    (Complete server made.length script ∧
        (callAll server script).run.run made = (.ok (), made ++ script)) ∨
      ∃ before c after outage, script = before ++ c :: after ∧
        Complete server made.length before ∧
        server.outages.outage? (made.length + before.length) c.name = some outage ∧
        (callAll server script).run.run made = (.error outage, made ++ (before ++ [c])) := by
  induction script generalizing made with
  | nil =>
      refine Or.inl ⟨.nil server made.length, ?_⟩
      rw [List.append_nil]
      rfl
  | cons c rest ih =>
      rw [callAll, Session.run_bind, run_call]
      cases first : server.outages.outage? made.length c.name with
      | some outage =>
          exact Or.inr ⟨[], c, rest, outage, rfl, .nil server made.length, first, rfl⟩
      | none =>
          simp only
          have one : (made ++ [c]).length = made.length + 1 := by
            rw [List.length_append, List.length_singleton]
          rcases ih (made ++ [c]) with
            ⟨complete, done⟩ | ⟨before, d, after, outage, rfl, complete, failed, done⟩
          · rw [one] at complete
            rw [done, List.append_assoc]
            exact Or.inl ⟨complete.cons first, rfl⟩
          · rw [one] at complete failed
            rw [done, List.append_assoc]
            refine Or.inr ⟨c :: before, d, after, outage, rfl, complete.cons first, ?_, rfl⟩
            rwa [List.length_cons, Nat.add_comm before.length, ← Nat.add_assoc]

/-- What a report says about the calls that were made for a letter. -/
structure IsRight (server : Server) (sent : Bool) (calls : List Call) : Prop where
  sent : sent = true ↔ HandedOver server calls ∧ ¬GoodbyeFails server calls
  goodbye : GoodbyeFails server calls → HandedOver server calls

theorem isRight_of_no_calls (server : Server) : IsRight server false [] := by
  constructor
  · refine ⟨fun impossible => absurd impossible Bool.false_ne_true, ?_⟩
    rintro ⟨⟨made, envelope, found, -⟩, -⟩
    cases found
  · rintro ⟨made, found, -⟩
    cases found

/-- No message is handed over, and the server is not left. -/
def IsOpening (calls : List Call) : Prop :=
  ∀ c ∈ calls, c.name ≠ .handOver ∧ c.name ≠ .quit

theorem isOpening_opening (server : Server) (host : String) (number : Int) :
    IsOpening (opening server host number) := by
  intro c member
  rcases List.mem_cons.1 member with rfl | later
  · simp only [Call.name]
    split <;> exact ⟨by decide, by decide⟩
  · rcases List.mem_append.1 later with secured | entered
    · split at secured
      · rw [List.mem_singleton.1 secured]
        exact ⟨by decide, by decide⟩
      · cases secured
    · obtain ⟨login, -, rfl⟩ := List.mem_map.1 entered
      exact ⟨nofun, nofun⟩

variable {server : Server} {early : List Call} {envelope : Envelope}

theorem getElem?_append_handOver (early after : List Call) (envelope : Envelope) :
    (early ++ .handOver envelope :: after)[early.length]? = some (.handOver envelope) := by
  rw [List.getElem?_append_right (Nat.le_refl _), Nat.sub_self]
  rfl

theorem isRight_of_complete
    (complete : Complete server 0 (early ++ [.handOver envelope, .quit])) :
    IsRight server true (early ++ [.handOver envelope, .quit]) := by
  have handedOver : HandedOver server (early ++ [.handOver envelope, .quit]) := by
    have passed := complete _ _ (getElem?_append_handOver early [.quit] envelope)
    rw [Nat.zero_add] at passed
    exact ⟨_, envelope, getElem?_append_handOver early [.quit] envelope, passed⟩
  refine ⟨⟨fun _ => ⟨handedOver, ?_⟩, fun _ => rfl⟩, fun _ => handedOver⟩
  rintro ⟨made, found, failed⟩
  have passed := complete made .quit found
  rw [Nat.zero_add] at passed
  exact failed passed

theorem IsOpening.isRight {calls : List Call} (isOpening : IsOpening calls) :
    IsRight server false calls := by
  constructor
  · refine ⟨fun impossible => absurd impossible Bool.false_ne_true, ?_⟩
    rintro ⟨⟨made, envelope, found, -⟩, -⟩
    exact absurd rfl (isOpening _ (List.mem_of_getElem? found)).1
  · rintro ⟨made, found, -⟩
    exact absurd rfl (isOpening _ (List.mem_of_getElem? found)).2

/-- The server did not take the message over. -/
theorem isRight_of_refused_message (isOpening : IsOpening early) {outage : Outage}
    (failed : server.outages.outage? early.length .handOver = some outage) :
    IsRight server false (early ++ [.handOver envelope]) := by
  constructor
  · refine ⟨fun impossible => absurd impossible Bool.false_ne_true, ?_⟩
    rintro ⟨⟨made, other, found, passed⟩, -⟩
    rcases List.mem_append.1 (List.mem_of_getElem? found) with inside | last
    · exact absurd rfl (isOpening _ inside).1
    · have outside : ¬made < early.length := by
        intro inside
        rw [List.getElem?_append_left inside] at found
        exact absurd rfl (isOpening _ (List.mem_of_getElem? found)).1
      have bound := (List.getElem?_eq_some_iff.1 found).1
      rw [List.length_append, List.length_singleton] at bound
      have position : made = early.length := by omega
      rw [position, failed] at passed
      cases passed
  · rintro ⟨made, found, -⟩
    rcases List.mem_append.1 (List.mem_of_getElem? found) with inside | last
    · exact absurd rfl (isOpening _ inside).2
    · cases List.mem_singleton.1 last

/-- The server took the message over and could not be left. -/
theorem isRight_of_refused_goodbye {outage : Outage}
    (passed : server.outages.outage? early.length .handOver = none)
    (failed : server.outages.outage? (early.length + 1) .quit = some outage) :
    IsRight server false (early ++ [.handOver envelope, .quit]) := by
  have fails : GoodbyeFails server (early ++ [.handOver envelope, .quit]) := by
    refine ⟨early.length + 1, ?_, ?_⟩
    · rw [List.getElem?_append_right (Nat.le_add_right _ 1), Nat.add_sub_cancel_left]
      rfl
    · rw [failed]
      exact Option.some_ne_none outage
  refine ⟨⟨fun impossible => absurd impossible Bool.false_ne_true, ?_⟩, fun _ => ?_⟩
  · rintro ⟨-, left⟩
    exact absurd fails left
  · exact ⟨early.length, envelope, getElem?_append_handOver early _ envelope, passed⟩

/-- A session that breaks off does so before the message, at the message, or after it. -/
theorem isRight_of_failed (isOpening : IsOpening early) {before after : List Call} {c : Call}
    {outage : Outage} (split : early ++ [.handOver envelope, .quit] = before ++ c :: after)
    (complete : Complete server 0 before)
    (failed : server.outages.outage? before.length c.name = some outage) :
    IsRight server false (before ++ [c]) := by
  rcases List.append_eq_append_iff.1 split with ⟨more, rfl, late⟩ | ⟨more, rfl, late⟩
  · rcases List.cons_eq_append_iff.1 late with ⟨rfl, rest⟩ | ⟨last, rfl, rest⟩
    · obtain ⟨rfl, -⟩ := List.cons.inj rest
      rw [List.append_nil] at failed ⊢
      exact isRight_of_refused_message isOpening failed
    · rcases List.cons_eq_append_iff.1 rest with ⟨rfl, rest⟩ | ⟨none, -, rest⟩
      · obtain ⟨rfl, -⟩ := List.cons.inj rest
        have passed := complete _ _ (getElem?_append_handOver early [] envelope)
        rw [Nat.zero_add] at passed
        rw [List.length_append] at failed
        rw [List.append_assoc]
        exact isRight_of_refused_goodbye passed failed
      · exact absurd rest (by simp)
  · rcases List.cons_eq_append_iff.1 late with ⟨rfl, rest⟩ | ⟨others, rfl, rest⟩
    · obtain ⟨rfl, -⟩ := List.cons.inj rest
      rw [List.append_nil] at isOpening
      exact isRight_of_refused_message isOpening failed
    · refine IsOpening.isRight fun d member => isOpening d ?_
      rcases List.mem_append.1 member with inside | last
      · exact List.mem_append_left _ inside
      · exact List.mem_append_right _ (List.mem_singleton.1 last ▸ List.mem_cons_self)

/-- What comes of a session: an outcome, of which the calls made agree with the report. -/
theorem exists_outcome_of_converse (civil : server.IsCivil) (host service : String)
    (envelope : Envelope) :
    ∃ outcome calls, (outcomeOf ((converse server host service envelope).run.run []).1,
        ((converse server host service envelope).run.run []).2) = (.ok outcome, calls) ∧
      IsRight server outcome.ok calls ∧
      ∀ other, .handOver other ∈ calls → other = envelope := by
  cases read : Text.integer? service with
  | none =>
      refine ⟨⟨false, Text.integerMessage service⟩, [], ?_, isRight_of_no_calls server, ?_⟩
      · unfold converse
        rw [read]
        rfl
      · exact fun other none => absurd none List.not_mem_nil
  | some number =>
      rw [converse_eq read]
      have isOpening := isOpening_opening server host number
      have whose : ∀ other, .handOver other ∈ script server host number envelope →
          other = envelope := by
        intro other member
        rcases List.mem_append.1 member with inside | last
        · exact absurd rfl (isOpening _ inside).1
        · simpa using last
      rcases run_callAll server (script server host number envelope) [] with
        ⟨complete, done⟩ | ⟨before, c, after, outage, split, complete, failed, done⟩
      · rw [done]
        exact ⟨⟨true, "sent"⟩, _, rfl, isRight_of_complete complete, whose⟩
      · rw [List.length_nil, Nat.zero_add] at failed
        rw [List.nil_append] at done
        rw [done]
        cases outage with
        | breakdown text => exact absurd failed (civil _ _ text)
        | refused text =>
            refine ⟨⟨false, text⟩, _, rfl, isRight_of_failed isOpening split complete failed, ?_⟩
            intro other member
            refine whose other ?_
            rw [split]
            rcases List.mem_append.1 member with inside | last
            · exact List.mem_append_left _ inside
            · exact List.mem_append_right _ (List.mem_singleton.1 last ▸ List.mem_cons_self)

/-- A letter that is misformed is not sent. Any other comes to an outcome that agrees with the calls
made, and what they hand over is this letter. -/
theorem send_cases (civil : server.IsCivil) (letter : Letter) :
    (∃ defect, IsMisformed server letter defect ∧ send server letter = (.error defect, [])) ∨
      ∃ outcome calls, send server letter = (.ok outcome, calls) ∧
        IsRight server outcome.ok calls ∧
        ∀ envelope, .handOver envelope ∈ calls → Carries envelope letter := by
  by_cases misformed : ∃ defect, IsMisformed server letter defect
  · obtain ⟨defect, misformed⟩ := misformed
    exact Or.inl ⟨defect, misformed, send_of_isMisformed misformed⟩
  · refine Or.inr ?_
    have silent : ∀ detail : String, IsRight server (Outcome.mk false detail).ok [] ∧
        ∀ envelope, Call.handOver envelope ∈ [] → Carries envelope letter :=
      fun detail => ⟨isRight_of_no_calls server, fun _ none => absurd none List.not_mem_nil⟩
    unfold send
    simp only
    split
    · next host service fromAddress hosted served sent =>
        split
        · exact ⟨_, _, rfl, silent "no valid recipients"⟩
        · next someone =>
            split
            · next defect broken =>
                refine absurd ⟨defect, host, service, fromAddress, hosted, served, sent, ?_, broken⟩
                  misformed
                rwa [Bool.not_eq_true, List.isEmpty_eq_false_iff] at someone
            · obtain ⟨outcome, calls, conversed, right, whose⟩ :=
                exists_outcome_of_converse civil host service ⟨letter.subject,
                  server.sender fromAddress, fromAddress, addresses letter.recipients,
                  sentBody letter.body, letter.attachments⟩
              refine ⟨outcome, calls, conversed, right, fun envelope member => ?_⟩
              rw [whose envelope member]
              exact ⟨rfl, rfl, rfl, rfl⟩
    · exact ⟨_, _, rfl, silent "stub: missing config"⟩

/-- A certificate with the mark that its message was sent. -/
def mark (time : Moment) (c : Certificate) : Certificate :=
  { c with emailSent := true, emailSentAt := some time }

/-- What the entry of a certificate says about the calls that were made for it, after a number of
others. -/
structure IsTold (server : Server) (vault : Storage.Vault Content) (event : Event)
    (address : VerifyAddress) (message : Option String) (made : Nat) (c : Certificate)
    (entry : Entry) (calls : List Call) : Prop where
  certificate : entry.certificateId = c.id
  right : IsRight (server.after made) entry.isSent calls
  carries : ∀ envelope, .handOver envelope ∈ calls →
    ∃ content, vault.read c.fileRef = .ok content ∧
      Carries envelope (letterFor event address message c content)

/-- The calls for some certificates, one after the other. -/
inductive Exchanges (tells : Nat → Certificate → Entry → List Call → Prop) :
    Nat → List Certificate → List Entry → List Call → Prop
  | nil (made : Nat) : Exchanges tells made [] [] []
  | cons {made : Nat} {c : Certificate} {entry : Entry} {calls others : List Call}
      {rest : List Certificate} {entries : List Entry} (told : tells made c entry calls)
      (onward : Exchanges tells (made + calls.length) rest entries others) :
      Exchanges tells made (c :: rest) (entry :: entries) (calls ++ others)

/-- A row as it stands after mailing: marked if its certificate is reported as sent. -/
def markedRow (time : Moment) (entries : List Entry) (row : Certificate) : Certificate :=
  if entries.any (fun entry => entry.certificateId == row.id && entry.isSent) then mark time row
  else row

theorem markedRow_cons (time : Moment) (entry : Entry) (entries : List Entry) (row : Certificate) :
    markedRow time (entry :: entries) row =
      markedRow time entries (markedRow time [entry] row) := by
  cases sent : entry.certificateId == row.id && entry.isSent with
  | false => simp [markedRow, sent]
  | true =>
      by_cases later : entries.any fun entry => entry.certificateId == row.id && entry.isSent
      · simp [markedRow, sent, mark, later]
      · simp [markedRow, sent, mark, later]

theorem id_markedRow (time : Moment) (entries : List Entry) (row : Certificate) :
    (markedRow time entries row).id = row.id := by
  unfold markedRow
  split <;> rfl

/-- An office after some calls to the mail server, with the rows marked that are reported as
sent. -/
def mailed (office : Office) (calls : List Call) (entries : List Entry) : Office :=
  { office with
    mailCalls := office.mailCalls ++ calls
    ledger := { office.ledger with
      certificates := office.ledger.certificates.map (markedRow office.clock.naive entries) } }

theorem mailed_nil (office : Office) : mailed office [] [] = office := by
  have same : office.ledger.certificates.map (markedRow office.clock.naive []) =
    office.ledger.certificates := List.map_id' _
  unfold mailed
  rw [same, List.append_nil]

theorem mailed_mailed (office : Office) (calls others : List Call) (entry : Entry)
    (entries : List Entry) :
    mailed (mailed office calls [entry]) others entries =
      mailed office (calls ++ others) (entry :: entries) := by
  have rows : (office.ledger.certificates.map (markedRow office.clock.naive [entry])).map
        (markedRow office.clock.naive entries) =
      office.ledger.certificates.map (markedRow office.clock.naive (entry :: entries)) := by
    rw [List.map_map]
    exact List.map_congr_left fun row _ => (markedRow_cons _ entry entries row).symm
  unfold mailed
  rw [← List.append_assoc, ← rows]

theorem keyed_mailed {office : Office} (keyed : (office.ledger.certificates.map (·.id)).Nodup)
    (calls : List Call) (entries : List Entry) :
    ((mailed office calls entries).ledger.certificates.map (·.id)).Nodup := by
  unfold mailed
  rw [List.map_map]
  exact (List.map_congr_left fun row _ => id_markedRow _ _ row) ▸ keyed

/-- A certificate that a report is not about stays as it is. -/
theorem mem_mailed {office : Office} {c : Certificate} (present : c ∈ office.ledger.certificates)
    (calls : List Call) {entry : Entry} (other : entry.certificateId ≠ c.id) :
    c ∈ (mailed office calls [entry]).ledger.certificates :=
  List.mem_map.2 ⟨c, present, by simp [markedRow, other]⟩

section

variable {office : Office} {event : Event} {address : VerifyAddress} {message : Option String}

/-- A report on one certificate of a ledger marks its row, or leaves all rows as they are. -/
theorem certificates_of_entry {l : Ledger} (keyed : (l.certificates.map (·.id)).Nodup)
    {c : Certificate} (present : c ∈ l.certificates) (time : Moment) {entry : Entry}
    (same : entry.certificateId = c.id) :
    (if entry.isSent then l.putCertificate (mark time c) else l) =
      { l with certificates := l.certificates.map (markedRow time [entry]) } := by
  cases sent : entry.isSent with
  | false =>
      have unmarked : ∀ row ∈ l.certificates, markedRow time [entry] row = row :=
        fun row _ => by simp [markedRow, sent]
      rw [List.map_congr_left unmarked, List.map_id']
      rfl
  | true =>
      rw [if_pos rfl, Ledger.putCertificate]
      refine congrArg (fun rows => { l with certificates := rows })
        (List.map_congr_left fun row member => ?_)
      by_cases equal : row.id = c.id
      · have isRow : row = c := List.inj_on_of_nodup_map keyed member present equal
        simp [markedRow, sent, same, isRow, mark]
      · simp [markedRow, sent, same, mark, equal, Ne.symm equal]

theorem perform_mailOne_of_civil (civil : office.mailServer.IsCivil) {c : Certificate}
    (keyed : (office.ledger.certificates.map (·.id)).Nodup)
    (present : c ∈ office.ledger.certificates)
    (wellFormed : ∀ defect, ¬HasMisformedLetter office event address message c defect) :
    ∃ entry calls,
      (mailOne event address message c).perform office = (.ok entry, mailed office calls [entry]) ∧
        IsTold office.mailServer office.vault event address message office.mailCalls.length c entry
          calls := by
  unfold mailOne
  simp only
  rw [Work.perform_bind, Work.perform_get]
  simp only
  cases there : office.vault.read c.fileRef with
  | error fault =>
      refine ⟨⟨c.id, c.participantName, c.participantEmail, some "Certificate file unavailable"⟩,
        [], ?_, rfl, isRight_of_no_calls _, fun _ none => absurd none List.not_mem_nil⟩
      rw [mailed, ← certificates_of_entry keyed present office.clock.naive rfl, List.append_nil]
      rfl
  | ok content =>
      rcases send_cases (civil.after office.mailCalls.length)
          (letterFor event address message c content) with
        ⟨defect, misformed, -⟩ | ⟨outcome, calls, tried, right, carries⟩
      · exact absurd ⟨content, there, isMisformed_after_iff.1 misformed⟩ (wellFormed defect)
      · simp only
        rw [Work.perform_bind, perform_sendLetter, tried]
        have told : ∀ envelope, .handOver envelope ∈ calls →
            ∃ content, office.vault.read c.fileRef = .ok content ∧
              Carries envelope (letterFor event address message c content) :=
          fun envelope member => ⟨content, there, carries envelope member⟩
        obtain ⟨ok, detail⟩ := outcome
        cases ok with
        | false =>
            refine ⟨⟨c.id, c.participantName, c.participantEmail, some detail⟩, calls, ?_, rfl,
              right, told⟩
            rw [mailed, ← certificates_of_entry keyed present office.clock.naive rfl]
            rfl
        | true =>
            refine ⟨⟨c.id, c.participantName, c.participantEmail, none⟩, calls, ?_, rfl, right,
              told⟩
            rw [mailed, ← certificates_of_entry keyed present office.clock.naive rfl]
            rfl

/-- Where every letter comes to an outcome, the entries agree with the calls, and just the rows
that are reported as sent are marked. -/
theorem perform_mailAll_of_civil (civil : office.mailServer.IsCivil)
    {certificates : List Certificate} (apart : (certificates.map (·.id)).Nodup)
    (keyed : (office.ledger.certificates.map (·.id)).Nodup)
    (present : ∀ c ∈ certificates, c ∈ office.ledger.certificates)
    (wellFormed : ∀ c ∈ certificates, ∀ defect,
      ¬HasMisformedLetter office event address message c defect) :
    ∃ entries calls, (mailAll event address message certificates).perform office =
        (.ok entries, mailed office calls entries) ∧
      Exchanges (IsTold office.mailServer office.vault event address message)
        office.mailCalls.length certificates entries calls := by
  induction certificates generalizing office with
  | nil => exact ⟨[], [], by rw [mailed_nil]; rfl, .nil _⟩
  | cons c rest ih =>
      obtain ⟨entry, calls, done, told⟩ := perform_mailOne_of_civil civil keyed
        (present c List.mem_cons_self) (wellFormed c List.mem_cons_self)
      obtain ⟨fresh, apart⟩ := List.nodup_cons.1 apart
      have stillPresent : ∀ d ∈ rest, d ∈ (mailed office calls [entry]).ledger.certificates := by
        intro d member
        have other : c.id ≠ d.id := fun same => fresh (List.mem_map.2 ⟨d, member, same.symm⟩)
        exact mem_mailed (present d (List.mem_cons_of_mem c member)) calls
          (told.certificate ▸ other)
      obtain ⟨entries, others, onward, exchanges⟩ :=
        @ih (mailed office calls [entry]) civil apart (keyed_mailed keyed calls [entry])
          stillPresent fun d member => wellFormed d (List.mem_cons_of_mem c member)
      refine ⟨entry :: entries, calls ++ others, ?_, .cons told ?_⟩
      · rw [mailAll, Work.perform_bind_of_ok done, Work.perform_bind_of_ok onward, mailed_mailed]
        rfl
      · rw [← List.length_append]
        exact exchanges

end

theorem certificatesAmong_subset (l : Ledger) (eventId : Int) (ids : Option (List Int)) :
    certificatesAmong l eventId ids ⊆ l.certificates := by
  have ofEvent : l.certificatesOf eventId ⊆ l.certificates := fun c member =>
    (List.mem_filter.1 (List.mem_mergeSort.1 member)).1
  cases ids with
  | none => exact ofEvent
  | some list => exact List.Subset.trans (List.filter_sublist).subset ofEvent

theorem nodup_certificatesAmong {l : Ledger} (keyed : (l.certificates.map (·.id)).Nodup)
    (eventId : Int) (ids : Option (List Int)) :
    ((certificatesAmong l eventId ids).map (·.id)).Nodup := by
  have ofEvent : ((l.certificatesOf eventId).map (·.id)).Nodup :=
    ((List.mergeSort_perm _ _).map _).nodup_iff.2 (keyed.sublist (List.filter_sublist.map _))
  cases ids with
  | none => exact ofEvent
  | some list => exact ofEvent.sublist (List.filter_sublist.map _)

theorem eq_handOver_of_name {c : Call} (named : c.name = .handOver) :
    ∃ envelope, c = .handOver envelope := by
  cases c with
  | handOver envelope => exact ⟨envelope, rfl⟩
  | connect secure host service => cases secure <;> cases named
  | _ => cases named

/-- When a message is reported as sent. A letter that comes to an outcome is reported as sent
exactly if its message was handed over and the server could then be left; so a report of failure is
wrong only if it is the goodbye that failed. Mailing reports so of each certificate, and marks those
that are reported as sent: if the goodbye fails, a certificate that was handed over stays
unmarked. -/
theorem sent_iff_handed_over_and_left {office : Office} (civil : office.mailServer.IsCivil) :
    (∀ letter,
      (∃ defect, IsMisformed office.mailServer letter defect ∧
          send office.mailServer letter = (.error defect, [])) ∨
        ∃ outcome calls, send office.mailServer letter = (.ok outcome, calls) ∧
          IsRight office.mailServer outcome.ok calls ∧
          ∀ envelope, .handOver envelope ∈ calls → Carries envelope letter) ∧
      ((office.ledger.certificates.map (·.id)).Nodup →
        ∀ (eventId : Int) (event : Event) (address : VerifyAddress) (ids : Option (List Int))
          (message : Option String), IsInTables eventId →
          office.ledger.event? eventId = some event →
          (∀ list, ids = some list → ∀ id ∈ list, IsInTables id) →
          (∀ c ∈ certificatesAmong office.ledger eventId ids, ∀ defect,
            ¬HasMisformedLetter office event address message c defect) →
          ∃ entries calls,
            (notify eventId address (ids.map fun list => list.map Json.int) message).perform
                office = (.ok entries, mailed office calls entries) ∧
              Exchanges (IsTold office.mailServer office.vault event address message)
                office.mailCalls.length (certificatesAmong office.ledger eventId ids) entries
                calls) := by
  refine ⟨fun letter => send_cases civil letter, ?_⟩
  intro keyed eventId event address ids message eventInTables found inTables wellFormed
  rw [perform_notify eventInTables found inTables]
  exact perform_mailAll_of_civil civil (nodup_certificatesAmong keyed eventId ids) keyed
    (fun c member => certificatesAmong_subset _ _ _ member) wellFormed

end Mail

/-! Ada's certificate is mailed through a server that takes every message over and then breaks the
connection off. -/

namespace Launch

def curtServer : Mail.Server where
  settings := busyServer.settings
  outages := { outage? := fun _ name =>
    if name = .quit then some (.refused "Connection unexpectedly closed") else none }

def curtHistory : List Step :=
  .operation (.createTemplate .standard draft) :: issuing "Launch" ada ++
    [.change { circumstances with events := [entitled "Launch"], mailServer := curtServer }]

theorem isReachable_through_curtHistory : (start.through curtHistory).IsReachable := by
  refine ⟨start, curtHistory, isFresh_start, ?_, rfl⟩
  intro step member
  simp only [curtHistory, issuing, List.mem_append, List.mem_cons, List.cons_append,
    List.not_mem_nil, or_false] at member
  rcases member with rfl | rfl | rfl | rfl | impossible | rfl
  · trivial
  · exact ⟨isOrdinary_circumstances.codes, isOrdinary_circumstances.unrivalled⟩
  · trivial
  · trivial
  · exact impossible.elim
  · exact ⟨isOrdinary_circumstances.codes, isOrdinary_circumstances.unrivalled⟩

theorem isCivil_curtServer : curtServer.IsCivil := by
  intro made name text broken
  simp only [curtServer] at broken
  split at broken
  · cases broken
  · cases broken

theorem mailServer_curtHistory : (start.through curtHistory).mailServer = curtServer := rfl

theorem not_hasMisformedLetter_ada {office : Office} (server : office.mailServer = curtServer)
    (event : Event) (address : VerifyAddress) (message : Option String) (defect : Defect) :
    ¬Mail.HasMisformedLetter office event address message adasCertificate defect := by
  have unimpaired : ¬Mail.HasMisformedLetter { office with mailServer := busyServer } event address
      message adasCertificate defect :=
    not_hasMisformedLetter rfl address message rfl (by decide +kernel) (by decide +kernel) defect
  rintro ⟨content, there, misformed⟩
  rw [server] at misformed
  exact unimpaired ⟨content, there, misformed⟩

def note : Mail.Letter := ⟨.text "ada@example.org", "Your certificate", "Congratulations!", []⟩

theorem evaluated_note :
    (Mail.send curtServer note).1 = .ok ⟨false, "Connection unexpectedly closed"⟩ ∧
      (Mail.send curtServer note).2.map Mail.Call.name = [.connectPlain, .handOver, .quit] := by
  decide +kernel

theorem evaluated_curtHistory :
    (start.through curtHistory).ledger.event? 1 = some (entitled "Launch") ∧
      (start.through curtHistory).ledger.certificates = [adasCertificate] ∧
      (start.through curtHistory).ledger.certificatesOf 1 = [adasCertificate] ∧
      (start.through curtHistory).mailCalls.length = 0 ∧
      ((Mail.notify 1 (.ofSetting "") none none).perform (start.through curtHistory)).1 =
        .ok [⟨1, ada.name, ada.email, some "Connection unexpectedly closed"⟩] ∧
      ((Mail.notify 1 (.ofSetting "") none none).perform
          (start.through curtHistory)).2.ledger.certificates = [adasCertificate] ∧
      ((Mail.notify 1 (.ofSetting "") none none).perform
          (start.through curtHistory)).2.mailCalls.map Mail.Call.name =
        [.connectPlain, .handOver, .quit] := by
  decide +kernel

theorem handedOver_of_names {server : Mail.Server} {calls : List Mail.Call}
    (named : calls.map Mail.Call.name = [.connectPlain, .handOver, .quit])
    (passed : server.outages.outage? 1 .handOver = none) : Mail.HandedOver server calls := by
  have second : (calls[1]?).map Mail.Call.name = some .handOver := by
    rw [← List.getElem?_map, named]
    rfl
  obtain ⟨c, found, handing⟩ := Option.map_eq_some_iff.1 second
  obtain ⟨envelope, rfl⟩ := Mail.eq_handOver_of_name handing
  exact ⟨1, envelope, found, passed⟩

end Launch

/-- Ada's message is handed over, but the server cannot be left: the entry and the row say that
nothing was sent, as they should only if the goodbye failed. -/
theorem launch_sent_iff_handed_over_and_left :
    Launch.curtServer.IsCivil ∧
      (∃ outcome calls, Mail.send Launch.curtServer Launch.note = (.ok outcome, calls) ∧
        Mail.IsRight Launch.curtServer outcome.ok calls ∧ outcome.ok = false) ∧
      ∃ entries calls,
        (Mail.notify 1 (.ofSetting "") none none).perform
            (Launch.start.through Launch.curtHistory) =
          (.ok entries, Mail.mailed (Launch.start.through Launch.curtHistory) calls entries) ∧
        Mail.Exchanges (Mail.IsTold Launch.curtServer
            (Launch.start.through Launch.curtHistory).vault (Launch.entitled "Launch")
            (.ofSetting "") none) 0 [Launch.adasCertificate] entries calls ∧
        entries = [⟨1, Launch.ada.name, Launch.ada.email,
          some "Connection unexpectedly closed"⟩] := by
  obtain ⟨found, rows, chosen, silent, told, -, -⟩ := Launch.evaluated_curtHistory
  have server := Launch.mailServer_curtHistory
  generalize Launch.start.through Launch.curtHistory = office at *
  have civil : office.mailServer.IsCivil := server ▸ Launch.isCivil_curtServer
  obtain ⟨sending, mailing⟩ := Mail.sent_iff_handed_over_and_left civil
  rw [server] at sending
  refine ⟨Launch.isCivil_curtServer, ?_, ?_⟩
  · obtain ⟨noted, -⟩ := Launch.evaluated_note
    rcases sending Launch.note with ⟨defect, -, broken⟩ | ⟨outcome, calls, tried, right, -⟩
    · rw [broken] at noted
      cases noted
    · rw [tried] at noted
      cases noted
      exact ⟨_, calls, tried, right, rfl⟩
  · have among : Mail.certificatesAmong office.ledger 1 none = [Launch.adasCertificate] := chosen
    have wellFormed : ∀ c ∈ Mail.certificatesAmong office.ledger 1 none, ∀ defect,
        ¬Mail.HasMisformedLetter office (Launch.entitled "Launch") (.ofSetting "") none c
          defect := by
      rw [among]
      intro c member
      rw [List.mem_singleton.1 member]
      exact Launch.not_hasMisformedLetter_ada server _ _ _
    obtain ⟨entries, calls, done, exchanges⟩ := mailing (by rw [rows]; decide) 1
      (Launch.entitled "Launch") (.ofSetting "") none none (by decide) found
      (fun _ none => nomatch none) wellFormed
    rw [among, server, silent] at exchanges
    refine ⟨entries, calls, done, exchanges, ?_⟩
    have same := congrArg Prod.fst done
    exact Except.ok.inj (same.symm.trans told)

/-- A message that was handed over is reported as not sent, and its certificate stays unmarked. -/
theorem launch_delivered_but_unmarked :
    (¬∀ server : Mail.Server, server.IsCivil → ∀ letter outcome calls,
      (∀ c ∈ letter.subject.toList, Mail.endsLine c = false) →
        Mail.send server letter = (.ok outcome, calls) →
          (outcome.ok = true ↔ Mail.HandedOver server calls)) ∧
      ¬∀ office : Office, office.IsReachable → office.mailServer.IsCivil → ∀ entries later,
        (Mail.notify 1 (.ofSetting "") none none).perform office = (.ok entries, later) →
          ∀ calls, later.mailCalls = office.mailCalls ++ calls →
            Mail.HandedOver (office.mailServer.after office.mailCalls.length) calls →
              ∃ c ∈ later.ledger.certificates, c.emailSent = true := by
  constructor
  · intro right
    obtain ⟨told, named⟩ := Launch.evaluated_note
    have oneLine : ∀ c ∈ Launch.note.subject.toList, Mail.endsLine c = false := by
      have nowhere : Launch.note.subject.toList.any Mail.endsLine = false := by decide +kernel
      exact fun c member => eq_false_of_ne_true (List.any_eq_false.1 nowhere c member)
    cases sent : Mail.send Launch.curtServer Launch.note with
    | mk result calls =>
        rw [sent] at told named
        cases told
        have handedOver := @Launch.handedOver_of_names Launch.curtServer calls named rfl
        cases (right _ Launch.isCivil_curtServer _ _ _ oneLine sent).2 handedOver
  · intro marked
    obtain ⟨-, -, -, silent, told, unmarked, named⟩ := Launch.evaluated_curtHistory
    have server := Launch.mailServer_curtHistory
    have reachable := Launch.isReachable_through_curtHistory
    generalize Launch.start.through Launch.curtHistory = office at *
    have civil : office.mailServer.IsCivil := server ▸ Launch.isCivil_curtServer
    have before : office.mailCalls = [] := List.length_eq_zero_iff.1 silent
    obtain ⟨later, done⟩ := Work.exists_perform_eq told
    rw [done] at unmarked named
    have handedOver : Mail.HandedOver (office.mailServer.after office.mailCalls.length)
        later.mailCalls := by
      rw [server]
      exact Launch.handedOver_of_names named rfl
    obtain ⟨c, member, sent⟩ := marked office reachable civil _ later done later.mailCalls
      (by rw [before, List.nil_append]) handedOver
    have row : c = Launch.adasCertificate := List.mem_singleton.1 (unmarked ▸ member)
    rw [row] at sent
    cases sent

end Issuance
