import Issuance.Catalog
import Issuance.Canvas.Drawing
import Issuance.Certificate.Values
import Issuance.Mail.Delivery
import Issuance.Storage.Vault
/-!
The issuing office: its ledger, its stored files, its clock and its supply of codes, and the
surroundings in which its work may fail.

Work reads and changes the office. What it has changed when it fails stays changed; each operation
changes the ledger only where it would be committed.
-/

namespace Issuance

/-- What happens just before a participant's certificate is drawn. -/
inductive Disturbance
  | timeout
  | failure (f : Failure)
  | rival (registration : Int) (same : Option String) (serial : Int)
deriving Repr

/-- Where code pairs come from: a stream of random characters, refilled by a counter when it runs
out, or a list that ends. -/
inductive CodeSupply
  | stream (ready : List Char) (refills : Nat)
  | listed (pairs : List CodePair)
deriving Repr

structure OfficeSettings where
  verifyBase : String
  renderTimeout : Number
  fonts : Canvas.FontShelf
deriving Repr

structure Office where
  settings : OfficeSettings
  catalog : Catalog
  ledger : Ledger
  vault : Storage.Vault Content
  clock : Moment
  uploads : Nat
  codes : CodeSupply
  mailServer : Mail.Server
  mailCalls : List Mail.Call
  disturbances : List (String × Disturbance)

/-- An office without rows, with the standard fields, at a time. -/
def Office.new (settings : OfficeSettings) (vault : Storage.Vault Content) (clock : Moment) :
    Office :=
  { settings, catalog := .standard, ledger := .empty, vault, clock, uploads := 0
    codes := .stream [] 0, mailServer := ⟨[], .none⟩, mailCalls := [], disturbances := [] }

/-- Work in the office, which may fail. -/
abbrev Work (α : Type) := ExceptT Failure (StateM Office) α

namespace Work

variable {α : Type}

def ofError (result : Except Error α) : Work α :=
  ExceptT.mk (pure (result.mapError Failure.error))

def ofFailure (result : Except Failure α) : Work α :=
  ExceptT.mk (pure result)

def fail (e : Error) : Work α := throw (.error e)

def ledger : Work Ledger := return (← get).ledger

def changeLedger (change : Ledger → Ledger) : Work Unit :=
  modify fun office => { office with ledger := change office.ledger }

def store (key : String) (content : Content) : Work (Except IoFault Storage.StoredObject) := do
  let office ← get
  let (result, vault) := office.vault.put key content
  set { office with vault }
  return result

def discard (ref : String) : Work (Except IoFault Bool) := do
  let office ← get
  let (result, vault) := office.vault.delete ref
  set { office with vault }
  return result

end Work

/-- Ids beyond this bound are in no table and cannot even be looked up. -/
def idBound : Int := 9223372036854775808

/-- Refuses an id that cannot be looked up. -/
def checkId (id : Int) : Work Unit :=
  if id < -idBound || idBound ≤ id then throw (.defect (.overflow "integer too large for a table"))
  else pure ()

def requireTemplate (id : Int) : Work Template := do
  checkId id
  match (← Work.ledger).template? id with
  | some t => return t
  | none => Work.fail (.templateNotFound id)

def requireEvent (id : Int) : Work Event := do
  checkId id
  match (← Work.ledger).event? id with
  | some e => return e
  | none => Work.fail (.eventNotFound id)

namespace CodeSupply

/-- The random characters of the n-th refill: its number in the length of each code. -/
def refill (n : Nat) : List Char :=
  (Text.padded CodePair.certificateLength n ++ Text.padded CodePair.verificationLength n).toList

/-- Refills a stream until it has enough characters. A refill holds exactly one pair, so at most
one is ever needed. -/
def next (supply : CodeSupply) : Option (CodePair × CodeSupply) :=
  match supply with
  | .stream ready refills =>
    match CodePair.take? ready with
    | some (pair, rest) => some (pair, .stream rest refills)
    | none =>
      (CodePair.take? (ready ++ refill (refills + 1))).map fun (pair, rest) =>
        (pair, .stream rest (refills + 1))
  | .listed [] => none
  | .listed (pair :: pairs) => some (pair, .listed pairs)

end CodeSupply

def drawCodes : Work CodePair := do
  let office ← get
  match office.codes.next with
  | some (pair, codes) =>
    set { office with codes }
    return pair
  | none => throw (.defect .noCodesLeft)

end Issuance
