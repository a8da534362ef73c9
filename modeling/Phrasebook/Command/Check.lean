import Phrasebook.Command.Color
import Phrasebook.Command.Generate
import Phrasebook.Lint

/-! # Checking datasets

The action that lints files. Every file is checked, and the first one that fails decides how the run
ends. Findings are printed as text, file by file, or as one list in JSON.
-/

namespace Phrasebook.Command

open Phrasebook.Json

inductive FileReport where
  /-- The file cannot be loaded. -/
  | notLoaded (file : String) (e : LoadError)
  /-- The file holds a dataset with these findings. -/
  | checked (file : String) (findings : List Finding)
  deriving Repr, DecidableEq, Inhabited

namespace FileReport

def ofFile (readFile : FileReader) (e : Expander) (file : String) : FileReport :=
  match Dataset.load readFile file with
  | .ok d => checked file (Lint.findings e d)
  | .error err => notLoaded file err

/-- Whether a finding makes the check fail. -/
def isFailing (strict : Bool) (f : Finding) : Bool := strict || f.severity = .error

/-- How the run would end if there were only this file. -/
def status (strict : Bool) : FileReport → ExitStatus
  | notLoaded _ e => loadStatus e
  | checked _ findings => if findings.any (isFailing strict) then .dataError else .success

def findingValue (f : Finding) : Value :=
  .object [("severity", .string f.severity.label), ("kind", .string f.kind),
    ("message", .string f.message)]

def toValue : FileReport → Value
  | notLoaded file _ =>
    .object [("file", .string file), ("loaded", .bool false), ("findings", .list [])]
  | checked file findings =>
    .object [("file", .string file), ("loaded", .bool true),
      ("findings", .list (findings.map findingValue))]

/-- A text in a colour, if output is coloured. -/
def paintIf (color : Bool) (c : Color) (text : String) : String :=
  if color then c.paint text else text

def findingLine (color : Bool) (f : Finding) : String :=
  let label := f.severity.label ++ "[" ++ f.kind ++ "]"
  "  " ++ paintIf color (Color.ofSeverity f.severity) label ++ ": " ++ f.message

def toLines (color : Bool) : FileReport → List String
  | notLoaded .. => []
  | checked file findings =>
    if findings.isEmpty then
      [file ++ ": " ++ paintIf color .green "ok"]
    else
      let errors := findings.countP (·.severity = .error)
      (file ++ ": " ++ toString errors ++ " error(s), " ++
          toString (findings.length - errors) ++ " warning(s)") ::
        findings.map (findingLine color)

/-- What is said of a file that cannot be loaded. -/
def notices (readFile : FileReader) (json : Bool) : FileReport → List Notice
  | notLoaded file e => [if json then .line e.message else loadNotice readFile file e]
  | checked .. => []

end FileReport

namespace CheckRequest

/-- The expander by which markers are read. -/
def expander (r : CheckRequest) : Expander := { optionalMarkers := r.optionalMarkers }

def reports (r : CheckRequest) (readFile : FileReader) : List FileReport :=
  r.files.map (FileReport.ofFile readFile r.expander)

/-- The status of the first file that fails. -/
def status (r : CheckRequest) (reports : List FileReport) : ExitStatus :=
  ((reports.map (FileReport.status r.strict)).find? (· ≠ .success)).getD .success

/-- Checks files and prints what is found. -/
def run (r : CheckRequest) (readFile : FileReader) (color : Bool) : Outcome :=
  let reports := r.reports readFile
  { status := r.status reports
    output :=
      if r.json then lines [(Value.list (reports.map FileReport.toValue)).toPretty]
      else lines (reports.flatMap (FileReport.toLines color))
    notices := reports.flatMap (FileReport.notices readFile r.json) }

end CheckRequest

end Phrasebook.Command
