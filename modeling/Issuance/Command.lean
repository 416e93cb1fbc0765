import Issuance.Batch.Run
import Issuance.Certificate.Lookup
import Issuance.Purge
import Issuance.Web.Service
/-!
The commands of the issuing office: issuing for an event, verifying a code, and purging files.

A command is read from its arguments, or refused as misused. Running one gives lines of output and
an exit code.
-/

namespace Issuance

inductive Command
  | generate (event template : Int) (participants : List Int)
  | verify (code : String)
  | purge (dryRun : Bool)
deriving DecidableEq, Repr

/-- What a command prints, and how it exits. -/
structure Transcript where
  exit : Nat
  output : List String
  complaints : List String
deriving DecidableEq, Repr

namespace Command

/-- An argument: an option, with its value if one is joined to it, or anything else. -/
inductive Argument
  | option (name : String) (value : Option String)
  | plain (text : String)
deriving DecidableEq, Repr

/-- The argument in a text. A lone hyphen is no option. -/
def Argument.ofText (text : String) : Argument :=
  match text.toList with
  | '-' :: '-' :: rest =>
    let name := rest.takeWhile (· ≠ '=')
    let value := (rest.drop name.length)
    .option (String.ofList name)
      (if value.isEmpty then none else some (String.ofList (value.drop 1)))
  | '-' :: c :: rest => .option (String.ofList ('-' :: c :: rest)) none
  | _ => .plain text

/-- The arguments of a command sorted out: values of options, flags, and plain arguments. -/
structure Parsed where
  values : List (String × String)
  flags : List String
  plain : List String
deriving DecidableEq, Repr

/-- Sorts out arguments. `valued` are the options that take a value, `flags` those that take none.
After two lone hyphens every argument is plain. -/
def sortOut (valued flags : List String) : List String → Option Parsed
  | [] => some ⟨[], [], []⟩
  | text :: rest =>
    match Argument.ofText text with
    | .plain t => (sortOut valued flags rest).map fun p => { p with plain := t :: p.plain }
    | .option "" none => some ⟨[], [], rest⟩
    | .option name value =>
      if valued.contains name then
        match value with
        | some v =>
          (sortOut valued flags rest).map fun p => { p with values := (name, v) :: p.values }
        | none =>
          match rest with
          | [] => none
          | v :: others =>
            (sortOut valued flags others).map fun p => { p with values := (name, v) :: p.values }
      else if flags.contains name && value.isNone then
        (sortOut valued flags rest).map fun p => { p with flags := name :: p.flags }
      else none

def Parsed.all (p : Parsed) (name : String) : List String :=
  (p.values.filter (·.1 == name)).map (·.2)

/-- The integer that the last value of an option denotes. -/
def Parsed.integer? (p : Parsed) (name : String) : Option Int :=
  (p.all name).getLast?.bind Text.integer?

/-- The command that a name and arguments give, if they are used rightly. -/
def parse? (name : String) (arguments : List String) : Option Command :=
  match name with
  | "generate_certificates" => do
    let p ← sortOut ["event", "template", "participant"] [] arguments
    let event ← p.integer? "event"
    let template ← p.integer? "template"
    let participants ← (p.all "participant").mapM Text.integer?
    if p.plain.isEmpty then some (.generate event template participants) else none
  | "verify_certificate" => do
    match (← sortOut [] [] arguments).plain with
    | [code] => some (.verify code)
    | _ => none
  | "purge_orphan_artifacts" => do
    let p ← sortOut [] ["dry-run"] arguments
    if p.plain.isEmpty then some (.purge (p.flags.contains "dry-run")) else none
  | _ => none

def resultLine (r : Batch.Result) : String :=
  match r.outcome with
  | .success s =>
    "ok   participant=" ++ toString r.participantId ++ " code=" ++ s.codes.certificate ++ " ref="
      ++ s.fileRef
  | .setback s =>
    "fail participant=" ++ toString r.participantId ++ " reason=" ++ s.failure.reason
      ++ " detail=" ++ s.failure.message

def summaryLine (s : Batch.Summary) : String :=
  "total=" ++ toString s.total ++ " successful=" ++ toString s.successful ++ " failed="
    ++ toString s.failed

def batchLines (results : List Batch.Result) : List String :=
  results.map resultLine ++ [summaryLine (Batch.summarize results)]

def viewLines (view : List (String × Json)) : List String :=
  view.map fun (key, value) => key ++ ": " ++ value.display

def purgeLines (dryRun : Bool) (r : Purge.Report) : List String :=
  let mark := if dryRun then "would delete " else "deleted "
  ("scanned=" ++ toString r.scanned ++ " deleted=" ++ toString r.deleted ++ " kept="
    ++ toString r.kept ++ " errors=" ++ toString r.errors) :: r.samples.map (mark ++ ·)

def work : Command → Work (List String)
  | .generate event template participants => do
    let request := if participants.isEmpty then none else some (participants.map Json.int)
    return batchLines (← Batch.run (Web.batchOptions (← get)) event template request)
  | .verify code => return viewLines (← verifyCode code)
  | .purge dryRun => return purgeLines dryRun (← Purge.run dryRun)

def complaint : Command → Failure → List String
  | .verify _, .error _ => ["Not found"]
  | _, .error e => [e.code ++ ": " ++ e.message]
  | _, .defect _ => []

/-- Texts as lines: a text with line feeds in it is several. -/
def asLines (texts : List String) : List String :=
  texts.flatMap (Text.splitAt (· = '\n'))

def run (command : Command) (office : Office) : Transcript × Office :=
  match (command.work).run.run office with
  | (.ok texts, office) => (⟨0, asLines texts, []⟩, office)
  | (.error failure, office) => (⟨1, [], asLines (command.complaint failure)⟩, office)

def misuseExit : Nat := 2

end Command
end Issuance
