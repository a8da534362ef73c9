import Phrasebook.Command.Generate
import Phrasebook.Stats
import Phrasebook.Text.Table

/-! # Showing numbers

The action that shows the numbers of a dataset, as a table or as JSON.
-/

namespace Phrasebook.Command.StatsRequest

open Phrasebook.Json

/-- The expander by which markers are read. -/
def expander (r : StatsRequest) : Expander := { optionalMarkers := r.optionalMarkers }

/-- The numbers of a placeholder as a value to be written. -/
def rowValue (s : PlaceholderStats) : Value :=
  .object [("name", .string s.name), ("candidates", .number s.candidates),
    ("nested", .number s.nested), ("references", .strings s.references)]

/-- The numbers of a dataset as a value to be written. -/
def toValue (d : Dataset) (rows : List PlaceholderStats) : Value :=
  .object [("templates", .number d.templates.length), ("placeholders", .list (rows.map rowValue))]

/-- The header of the table. -/
def header : List String := ["Placeholder", "Candidates", "Nested", "References"]

/-- The cells of a row of the table. -/
def cells (s : PlaceholderStats) : List String :=
  [s.name, toString s.candidates, toString s.nested, ", ".intercalate s.references]

/-- The lines that show the numbers. -/
def toLines (d : Dataset) (rows : List PlaceholderStats) : List String :=
  (toString d.templates.length ++ " template(s), " ++ toString rows.length ++ " placeholder(s)") ::
    if rows.isEmpty then [] else Text.Table.draw header (rows.map cells)

/-- Shows the numbers of a dataset. -/
def run (r : StatsRequest) (readFile : FileReader) : Outcome :=
  withDataset readFile r.data fun d =>
    let rows := d.stats r.expander
    { status := .success
      output := lines (if r.json then [(toValue d rows).toPretty] else toLines d rows) }

end Phrasebook.Command.StatsRequest
