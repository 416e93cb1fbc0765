import Issuance.Certificate.Lookup
import Issuance.Proofs.Durability
import Issuance.Proofs.Text.Letters
/-!
Finding certificates by their codes. A code leads to its own certificate whatever its case and the
blanks around it, and nothing else leads there: the two kinds of codes begin differently, so that
no text is a code of both kinds.
-/

namespace Issuance
namespace CodePair

theorem isCodeChar_of_mem_alphabet {c : Char} (member : c ∈ alphabet) : Text.IsCodeChar c := by
  have all : (alphabet.all fun c => decide (Text.IsCodeChar c)) = true := by
    decide +kernel
  exact of_decide_eq_true (List.all_eq_true.1 all c member)

theorem IsCode.isCodeChar {stem code : String} {count : Nat} (generated : IsCode stem count code)
    (stemCode : (stem.toList.all fun c => decide (Text.IsCodeChar c)) = true) :
    ∀ c ∈ code.toList, Text.IsCodeChar c := by
  obtain ⟨token, -, known, rfl⟩ := generated
  intro c member
  rw [String.toList_append, String.toList_ofList] at member
  rcases List.mem_append.1 member with inStem | inToken
  · exact of_decide_eq_true (List.all_eq_true.1 stemCode c inStem)
  · exact isCodeChar_of_mem_alphabet (known c inToken)

theorem IsCode.ne_empty {stem code : String} {count : Nat} (generated : IsCode stem count code)
    (counted : 0 < count) : code ≠ "" := by
  obtain ⟨token, length, -, rfl⟩ := generated
  intro empty
  have chars := congrArg String.toList empty
  rw [String.toList_append, String.toList_ofList] at chars
  rw [(List.append_eq_nil_iff.1 chars).2] at length
  exact absurd length (Nat.ne_of_lt counted)

/-- Codes of the two kinds begin with different letters. -/
theorem ne_of_isCode {code other : String} {count count' : Nat}
    (certificate : IsCode certificateStem count code)
    (verification : IsCode verificationStem count' other) : code ≠ other := by
  obtain ⟨token, -, -, rfl⟩ := certificate
  obtain ⟨token', -, -, rfl⟩ := verification
  have spelled : certificateStem.toList = ['C', 'E', 'R', 'T', '-'] ∧
      verificationStem.toList = ['V', 'E', 'R', 'I', 'F', 'Y', '-'] := by
    decide
  intro same
  have chars := congrArg String.toList same
  rw [String.toList_append, String.toList_append, spelled.1, spelled.2] at chars
  exact absurd (List.cons.inj chars).1 (by decide)

theorem IsGenerated.normalCode_certificate {codes : CodePair} (generated : codes.IsGenerated)
    {loose : String} (same : Text.IsLooseForm loose codes.certificate) :
    normalCode loose = codes.certificate :=
  Text.upper_trim_of_isLooseForm same (generated.certificate.isCodeChar (by decide))

theorem IsGenerated.normalCode_verification {codes : CodePair} (generated : codes.IsGenerated)
    {loose : String} (same : Text.IsLooseForm loose codes.verification) :
    normalCode loose = codes.verification :=
  Text.upper_trim_of_isLooseForm same (generated.verification.isCodeChar (by decide))

end CodePair

namespace Ledger

variable {l : Ledger} {code : String}

private theorem find?_eq_none_of_forall_ne {column : Certificate → String}
    (nowhere : ∀ c ∈ l.certificates, column c ≠ code) :
    l.certificates.find? (column · == code) = none := by
  rw [List.find?_eq_none]
  intro c member same
  exact nowhere c member (eq_of_beq same)

private theorem length_filter_le_one {column : Certificate → String}
    (apart : (l.certificates.map column).Nodup) :
    (l.certificates.filter (column · == code)).length ≤ 1 := by
  have within := (List.filter_sublist (l := l.certificates) (p := (column · == code))).map column
  have constant : (l.certificates.filter (column · == code)).map column =
      List.replicate (l.certificates.filter (column · == code)).length code := by
    rw [List.eq_replicate_iff, List.length_map]
    refine ⟨rfl, ?_⟩
    intro value member
    obtain ⟨c, listed, rfl⟩ := List.mem_map.1 member
    exact eq_of_beq (List.mem_filter.1 listed).2
  rw [constant] at within
  exact List.nodup_replicate.1 (apart.sublist within)

theorem byVerification?_eq_some (sound : l.Sound) {c : Certificate} (member : c ∈ l.certificates)
    (generated : c.codes.IsGenerated) (same : normalCode code = c.codes.verification) :
    l.byVerification? code = some c := by
  have filled : (normalCode code).isEmpty = false := by
    rw [same, String.isEmpty_eq_false_iff]
    exact generated.verification.ne_empty (by decide)
  rw [byVerification?, filled, if_neg Bool.false_ne_true]
  exact find?_eq_some_of_nodup sound.verificationCodes member same.symm

theorem byCertificate?_eq_some (sound : l.Sound) {c : Certificate} (member : c ∈ l.certificates)
    (generated : c.codes.IsGenerated) (same : normalCode code = c.codes.certificate) :
    l.byCertificate? code = some c := by
  have filled : (normalCode code).isEmpty = false := by
    rw [same, String.isEmpty_eq_false_iff]
    exact generated.certificate.ne_empty (by decide)
  rw [byCertificate?, filled, if_neg Bool.false_ne_true]
  exact find?_eq_some_of_nodup sound.certificateCodes member same.symm

theorem byVerification?_eq_none
    (nowhere : ∀ c ∈ l.certificates, c.codes.verification ≠ normalCode code) :
    l.byVerification? code = none := by
  unfold byVerification?
  split
  · rfl
  · exact find?_eq_none_of_forall_ne nowhere

theorem byCertificate?_eq_none
    (nowhere : ∀ c ∈ l.certificates, c.codes.certificate ≠ normalCode code) :
    l.byCertificate? code = none := by
  unfold byCertificate?
  split
  · rfl
  · exact find?_eq_none_of_forall_ne nowhere

end Ledger

theorem perform_verifyCode (code : String) (office : Office) :
    (verifyCode code).perform office =
      match office.ledger.byVerification? code with
      | some c => (.ok c.publicView, office)
      | none => (.error (.error .certificateNotFound), office) := by
  unfold verifyCode
  rw [Work.perform_bind_of_ok (Work.perform_ledger office)]
  cases office.ledger.byVerification? code <;> rfl

theorem perform_findForDownload (code : String) (office : Office) :
    (findForDownload code).perform office =
      match office.ledger.byCertificate? code with
      | some c => (.ok c, office)
      | none => (.error (.error .certificateNotFound), office) := by
  unfold findForDownload
  rw [Work.perform_bind_of_ok (Work.perform_ledger office)]
  cases office.ledger.byCertificate? code <;> rfl

namespace Office

/-- How an office answers to a text as a code: it is a verification code, a certificate code or
neither, and only the look-up of its own kind finds the one certificate that has it. -/
structure Answers (office : Office) (text : String) : Prop where
  verified : ∀ c ∈ office.ledger.certificates, normalCode text = c.codes.verification →
    (verifyCode text).perform office = (.ok c.publicView, office) ∧
      (findForDownload text).perform office = (.error (.error .certificateNotFound), office)
  found : ∀ c ∈ office.ledger.certificates, normalCode text = c.codes.certificate →
    (findForDownload text).perform office = (.ok c, office) ∧
      (verifyCode text).perform office = (.error (.error .certificateNotFound), office)
  unverified : (∀ c ∈ office.ledger.certificates, normalCode text ≠ c.codes.verification) →
    (verifyCode text).perform office = (.error (.error .certificateNotFound), office)
  unfound : (∀ c ∈ office.ledger.certificates, normalCode text ≠ c.codes.certificate) →
    (findForDownload text).perform office = (.error (.error .certificateNotFound), office)
  notBoth : ∀ view c, (verifyCode text).perform office = (.ok view, office) →
    (findForDownload text).perform office ≠ (.ok c, office)
  verifiedOnce :
    (office.ledger.certificates.filter (·.codes.verification == normalCode text)).length ≤ 1
  foundOnce :
    (office.ledger.certificates.filter (·.codes.certificate == normalCode text)).length ≤ 1

theorem Sound.isGenerated {office : Office} (sound : office.Sound) {c : Certificate}
    (member : c ∈ office.ledger.certificates) : c.codes.IsGenerated := by
  obtain ⟨store, format, artifact⟩ := sound.kept c member
  exact artifact.generated

theorem Sound.answers {office : Office} (sound : office.Sound) (text : String) :
    office.Answers text := by
  have unverified : (∀ c ∈ office.ledger.certificates, normalCode text ≠ c.codes.verification) →
      (verifyCode text).perform office = (.error (.error .certificateNotFound), office) := by
    intro nowhere
    rw [perform_verifyCode, Ledger.byVerification?_eq_none fun c member => (nowhere c member).symm]
  have unfound : (∀ c ∈ office.ledger.certificates, normalCode text ≠ c.codes.certificate) →
      (findForDownload text).perform office = (.error (.error .certificateNotFound), office) := by
    intro nowhere
    rw [perform_findForDownload,
      Ledger.byCertificate?_eq_none fun c member => (nowhere c member).symm]
  have verified : ∀ c ∈ office.ledger.certificates, normalCode text = c.codes.verification →
      (verifyCode text).perform office = (.ok c.publicView, office) ∧
        (findForDownload text).perform office =
          (.error (.error .certificateNotFound), office) := by
    intro c member same
    have generated := sound.isGenerated member
    constructor
    · rw [perform_verifyCode,
        Ledger.byVerification?_eq_some sound.ledger member generated same]
    · refine unfound fun d present other => ?_
      exact CodePair.ne_of_isCode (sound.isGenerated present).certificate generated.verification
        (other.symm.trans same)
  have found : ∀ c ∈ office.ledger.certificates, normalCode text = c.codes.certificate →
      (findForDownload text).perform office = (.ok c, office) ∧
        (verifyCode text).perform office = (.error (.error .certificateNotFound), office) := by
    intro c member same
    have generated := sound.isGenerated member
    constructor
    · rw [perform_findForDownload,
        Ledger.byCertificate?_eq_some sound.ledger member generated same]
    · refine unverified fun d present other => ?_
      exact CodePair.ne_of_isCode generated.certificate (sound.isGenerated present).verification
        (same.symm.trans other)
  refine ⟨verified, found, unverified, unfound, ?_,
    Ledger.length_filter_le_one sound.ledger.verificationCodes,
    Ledger.length_filter_le_one sound.ledger.certificateCodes⟩
  intro view c accepted downloaded
  by_cases issued : ∃ d ∈ office.ledger.certificates, normalCode text = d.codes.verification
  · obtain ⟨d, member, same⟩ := issued
    rw [(verified d member same).2] at downloaded
    cases downloaded
  · rw [unverified fun d member same => issued ⟨d, member, same⟩] at accepted
    cases accepted

end Office

end Issuance
