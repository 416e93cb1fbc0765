import Issuance.Certificate.View
import Issuance.Office
/-!
Finding certificates by their codes.

Blanks around a code and its case do not matter. Public verification uses one code and download
the other.
-/

namespace Issuance

def normalCode (code : String) : String := Text.upper (Text.trim code)

namespace Ledger

def byVerification? (l : Ledger) (code : String) : Option Certificate :=
  if (normalCode code).isEmpty then none
  else l.certificates.find? (·.codes.verification == normalCode code)

def byCertificate? (l : Ledger) (code : String) : Option Certificate :=
  if (normalCode code).isEmpty then none
  else l.certificates.find? (·.codes.certificate == normalCode code)

end Ledger

def verifyCode (code : String) : Work (List (String × Json)) := do
  match (← Work.ledger).byVerification? code with
  | some c => return c.publicView
  | none => Work.fail .certificateNotFound

def findForDownload (code : String) : Work Certificate := do
  match (← Work.ledger).byCertificate? code with
  | some c => return c
  | none => Work.fail .certificateNotFound

end Issuance
