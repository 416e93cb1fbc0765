import Issuance.Office
import Issuance.Proofs.Codes
import Issuance.Proofs.Ledger
import Issuance.Proofs.Storage.Vaults
/-!
The invariant of the office: its stores and its ledger are sound, and every certificate refers to
its file by the reference that is spelled from its own columns.
-/

namespace Issuance

def Disturbance.isRival : Disturbance → Bool
  | .rival .. => true
  | _ => false

/-- No other writer is going to enter a certificate of its own. -/
def Office.IsUnrivalled (office : Office) : Prop :=
  ∀ entry ∈ office.disturbances, entry.2.isRival = false

/-- A reference to the place of a certificate with the given columns. -/
structure IsArtifactRef (vault : Storage.Vault Content) (eventId registrationId : Int)
    (codes : CodePair) (ref store format : String) : Prop where
  generated : codes.IsGenerated
  noSlash : '/' ∉ format.toList
  spelled : ref = Storage.Reference.text ⟨store,
    Storage.keyOf (Batch.artifactPath eventId registrationId codes.certificate format)⟩
  located : vault.location? ref =
    some (store, Batch.artifactPath eventId registrationId codes.certificate format)

/-- A certificate refers to its own place in the vault. -/
def Certificate.IsKept (vault : Storage.Vault Content) (c : Certificate) : Prop :=
  ∃ store format, IsArtifactRef vault c.eventId c.registrationId c.codes c.fileRef store format

/-- The invariant of the office. -/
structure Office.Sound (office : Office) : Prop where
  vault : office.vault.Sound
  ledger : office.ledger.Sound
  codes : office.codes.IsGenerated
  unrivalled : office.IsUnrivalled
  kept : ∀ c ∈ office.ledger.certificates, c.IsKept office.vault

theorem IsArtifactRef.plain {vault : Storage.Vault Content} {eventId registrationId : Int}
    {codes : CodePair} {ref store format : String}
    (artifact : IsArtifactRef vault eventId registrationId codes ref store format) :
    Storage.IsPlainPath (Batch.artifactPath eventId registrationId codes.certificate format) :=
  Batch.isPlainPath_artifactPath eventId registrationId artifact.generated artifact.noSlash

theorem IsArtifactRef.of_located {vault later : Storage.Vault Content}
    {eventId registrationId : Int} {codes : CodePair} {ref store format : String}
    (artifact : IsArtifactRef vault eventId registrationId codes ref store format)
    (same : ∀ other, later.location? other = vault.location? other) :
    IsArtifactRef later eventId registrationId codes ref store format :=
  ⟨artifact.generated, artifact.noSlash, artifact.spelled, (same ref).trans artifact.located⟩

theorem Certificate.IsKept.of_located {vault later : Storage.Vault Content} {c : Certificate}
    (kept : c.IsKept vault) (same : ∀ ref, later.location? ref = vault.location? ref) :
    c.IsKept later := by
  obtain ⟨store, format, artifact⟩ := kept
  exact ⟨store, format, artifact.of_located same⟩

/-- Where a certificate is kept is a matter of its settled columns. -/
theorem Certificate.IsKept.of_issue_eq {vault : Storage.Vault Content} {c later : Certificate}
    (kept : c.IsKept vault) (same : later.issue = c.issue) : later.IsKept vault := by
  rw [Certificate.eq_of_issue_eq same]
  exact kept

/-- Certificates with different certificate codes are kept at different places. -/
theorem IsArtifactRef.ne_of_code_ne {vault : Storage.Vault Content}
    {eventId registrationId eventId' registrationId' : Int} {codes codes' : CodePair}
    {ref store format store' format' : String}
    (artifact : IsArtifactRef vault eventId registrationId codes ref store format)
    (generated : codes'.IsGenerated)
    (different : ¬(eventId = eventId' ∧ registrationId = registrationId' ∧
      codes.certificate = codes'.certificate)) :
    vault.location? ref ≠
      some (store', Batch.artifactPath eventId' registrationId' codes'.certificate format') := by
  intro same
  rw [artifact.located] at same
  have paths := (Prod.mk.inj (Option.some.inj same)).2
  exact different (Batch.artifactPath_inj artifact.generated generated paths)

namespace Office

/-- An office in which nothing but the ledger, the files, the codes and the disturbances may have
changed is sound if these are. -/
theorem Sound.of_issues_eq {office later : Office} (sound : office.Sound)
    (vault : later.vault.Sound)
    (located : ∀ ref, later.vault.location? ref = office.vault.location? ref)
    (issues : later.ledger.issues = office.ledger.issues) (codes : later.codes.IsGenerated)
    (unrivalled : later.IsUnrivalled) : later.Sound where
  vault := vault
  ledger := sound.ledger.of_issues_eq issues
  codes := codes
  unrivalled := unrivalled
  kept := by
    intro c member
    have settled : c.issue ∈ later.ledger.issues := List.mem_map_of_mem member
    rw [issues] at settled
    obtain ⟨row, present, same⟩ := List.mem_map.1 settled
    exact ((sound.kept row present).of_located located).of_issue_eq same.symm

end Office
end Issuance
