import Phrasebook.Command.Outcome
import Phrasebook.Command.Request
import Phrasebook.Generator
import Phrasebook.Json.Value
import Phrasebook.Random.Seeded

/-! # Making phrases

The actions that make phrases. They print all phrases or none: the first failure is all that is
told.
-/

namespace Phrasebook.Command

open Phrasebook.Json Phrasebook.Random

/-- What reading a file gives. -/
abbrev FileReader := String → Except ReadFailure String

/-- What is said of a dataset that cannot be loaded. The report shows the file as it is now. -/
def loadNotice (readFile : FileReader) (path : String) (e : LoadError) : Notice :=
  match e with
  | .io .. => .line ("Cannot read dataset: " ++ e.message)
  | .parse .. =>
    match readFile path with
    | .ok text => .report path (Diagnostic.ofLoadError text e)
    | .error _ => .line ("Invalid dataset: " ++ e.message)

/-- How a run ends that cannot load a dataset. -/
def loadStatus : LoadError → ExitStatus
  | .io .. => .noInput
  | .parse .. => .dataError

/-- Runs an action on a dataset, if it can be loaded. -/
def withDataset (readFile : FileReader) (path : String) (act : Dataset → Outcome) : Outcome :=
  match Dataset.load readFile path with
  | .ok d => act d
  | .error e => { status := loadStatus e, notices := [loadNotice readFile path e] }

/-- The words for the expansion: those of the seed, or `entropy` if there is none. -/
def ExpandOptions.words (o : ExpandOptions) (entropy : Words) : Words :=
  match o.seed with
  | some seed => Words.ofSeed seed
  | none => entropy

def errorValue (e : ExpandError) : Value := .object [("error", .string e.message)]

/-- The failure to make phrases. -/
def failure (json : Bool) (what : String) (e : ExpandError) : Outcome :=
  { status := .dataError
    notices := [.line (if json then (errorValue e).toPretty else what ++ ": " ++ e.message)] }

namespace GenerateRequest

def generator (r : GenerateRequest) (d : Dataset) : Generator :=
  { dataset := d, expander := r.options.expander, collapseSpaces := r.collapseSpaces }

def phrases (r : GenerateRequest) (d : Dataset) : Draw ExpandError (List String) :=
  match r.template with
  | some index => (r.generator d).generateManyIndexed index r.count
  | none => (r.generator d).generateMany r.count

def phrasesValue (phrases : List String) : Value := .object [("phrases", .strings phrases)]

def print (format : OutputFormat) (phrases : List String) : String :=
  match format with
  | .text => lines phrases
  | .json => lines [(phrasesValue phrases).toPretty]

/-- Generates phrases and prints them. -/
def run (r : GenerateRequest) (readFile : FileReader) (entropy : Words) : Outcome :=
  withDataset readFile r.data fun d =>
    match ((r.phrases d).run (r.options.words entropy)).1 with
    | .ok phrases => { status := .success, output := print r.format phrases }
    | .error e => failure (r.format = .json) "Generation error" e

end GenerateRequest

namespace ExpandRequest

def resultValue (phrase : String) : Value := .object [("result", .string phrase)]

/-- Expands a template and prints the result. -/
def run (r : ExpandRequest) (readFile : FileReader) (entropy : Words) : Outcome :=
  withDataset readFile r.data fun d =>
    let draw := r.options.expander.expand d.assets r.template
    match (draw.run (r.options.words entropy)).1 with
    | .ok phrase =>
      { status := .success
        output := lines [if r.json then (resultValue phrase).toPretty else phrase] }
    | .error e => failure r.json "Expansion error" e

end ExpandRequest

end Phrasebook.Command
