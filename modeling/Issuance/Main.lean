import Issuance.Command
import Issuance.Settings
/-!
The command line of the issuing office.

The first argument names a command, the others are its own. Each run works on a new office, which
is set up from the environment and opens at a fixed time.
-/

namespace Issuance

def openingTime : Moment := ⟨⟨2025, 1, 1⟩, 0, 0, 0, 0, none⟩

/-- An empty store with a name, at the root that a setting gives. -/
def emptyStore (name root : String) : Storage.Volume Content :=
  .empty name (Storage.destination [] root)

/-- The empty stores that the settings ask for. -/
def Settings.vault (settings : Settings) : Storage.Vault Content :=
  { primary := emptyStore "primary" settings.storageRoot
    secondary := (settings.fallbackRoot.filter (!·.isEmpty)).map (emptyStore "fallback")
    locked := false }

def Settings.office (settings : Settings) : Office :=
  .new ⟨settings.verifyBase, settings.renderTimeout, ⟨settings.fontFolder, []⟩⟩ settings.vault
    openingTime

/-- Runs the command in some arguments and gives what it prints. -/
def runArguments (arguments : List String) (office : Office) : Transcript :=
  match arguments with
  | [] => ⟨Command.misuseExit, [], ["Missing command."]⟩
  | name :: rest =>
    match Command.parse? name rest with
    | none => ⟨Command.misuseExit, [], ["Usage error."]⟩
    | some command => (command.run office).1

/-- The settings that are found in the environment of the program. -/
def readEnvironment : IO Settings.Environment :=
  Settings.names.filterMapM fun name => do
    return (← IO.getEnv name).map fun value => (name, value)

end Issuance

open Issuance in
def main (arguments : List String) : IO UInt32 := do
  match Settings.ofEnvironment (← readEnvironment) with
  | .error fault =>
    IO.eprintln fault.message
    return 1
  | .ok settings =>
    let transcript := runArguments arguments settings.office
    transcript.output.forM fun line => IO.println line
    transcript.complaints.forM fun line => IO.eprintln line
    return transcript.exit.toUInt32
