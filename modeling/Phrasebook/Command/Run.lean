import Phrasebook.Command.Check
import Phrasebook.Command.Stats

/-! # Running a command line

From the arguments, the environment, the files and a source of randomness to what the run leaves
behind.
-/

namespace Phrasebook.Command

open Phrasebook.Random

/-- The name of the program and its version. -/
def versionText : String := "phrasegen 0.1.0"

/-- A short description of the command line. -/
def helpText : String :=
  lines
    [ "Generate random phrases from JSON template datasets",
      "",
      "Usage: phrasegen [OPTIONS] <COMMAND>",
      "",
      "Commands:",
      "  generate  Generate phrases from the dataset's templates",
      "  expand    Expand a template string against the dataset's assets",
      "  check     Check dataset files for missing, empty, cyclic, or unused placeholders",
      "  stats     Show candidate counts per placeholder" ]

/-- What is left behind where the arguments are not read to their end. -/
def Stop.outcome : Stop → Outcome
  | usage => { status := .usage, notices := [.line helpText] }
  | help => { status := .success, output := helpText }
  | version => { status := .success, output := lines [versionText] }

/-- The files that an action may read. -/
def Action.files : Action → List String
  | generate r => [r.data]
  | expand r => [r.data]
  | check r => r.files
  | stats r => [r.data]

/-- Does what is asked for. -/
def Request.run (r : Request) (env : Environment) (readFile : FileReader) (entropy : Words) :
    Outcome :=
  match r.action with
  | .generate g => g.run readFile entropy
  | .expand x => x.run readFile entropy
  | .check c => c.run readFile (r.color.isOn env)
  | .stats s => s.run readFile

def run (env : Environment) (readFile : FileReader) (entropy : Words) (args : List String) :
    Outcome :=
  match Request.read env args with
  | .ok r => r.run env readFile entropy
  | .error s => s.outcome

end Phrasebook.Command
