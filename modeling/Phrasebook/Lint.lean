import Phrasebook.Dataset
import Phrasebook.Expander.Settings
import Phrasebook.Lint.Cycles
import Phrasebook.Lint.Finding
import Phrasebook.Names
import Phrasebook.Template

/-! # Lint

What can be said against a dataset, from the placeholders that its texts refer to, without expanding
anything. Markers are read as the given expander reads them. Findings come in a fixed order: no
templates; unknown placeholders by template; empty and unknown placeholders by asset; cycles; assets
that are never used.
-/

namespace Phrasebook

namespace Expander

/-- The placeholder names that the markers of a text stand for. -/
def keys (e : Expander) (text : String) : List String :=
  (Template.parse text).markers.map e.key

/-- The placeholder names that some texts refer to, ascending and each once: the sets of the texts,
put together. -/
def references (e : Expander) (texts : List String) : List String :=
  Names.ofList (texts.flatMap fun text => Names.ofList (e.keys text))

end Expander

namespace Lint

/-- The findings against a reference. -/
def checkKnown (d : Dataset) (origin : Origin) (name : String) : List Finding :=
  if d.assets.contains name then []
  else [.unknownPlaceholder name origin (Suggestion.suggest name d.assets.names)]

/-- The findings against the template at a position. -/
def checkTemplate (e : Expander) (d : Dataset) (index : Nat) (template : String) : List Finding :=
  (e.references [template]).flatMap (checkKnown d (.template index))

/-- The findings against one placeholder. -/
def checkAsset (e : Expander) (d : Dataset) (name : String) (candidates : List String) :
    List Finding :=
  (if candidates.isEmpty then [.emptyCandidates name] else []) ++
    (e.references candidates).flatMap (checkKnown d (.asset name))

/-- Leads from each placeholder to the known ones that its candidates refer to. -/
def graph (e : Expander) (d : Dataset) : Graph :=
  ⟨d.assets.entries.map fun entry =>
    (entry.1, (e.references entry.2).filter d.assets.contains)⟩

/-- The names that a template, or a candidate of another placeholder, refers to. -/
def usedNames (e : Expander) (d : Dataset) : List String :=
  d.templates.flatMap e.keys ++
    d.assets.entries.flatMap fun entry => (entry.2.flatMap e.keys).filter (· ≠ entry.1)

/-- The names of the assets that nothing refers to, a reference to oneself apart. -/
def unusedNames (e : Expander) (d : Dataset) : List String :=
  let used := usedNames e d
  d.assets.names.filter fun name => !used.contains name

/-- All findings against a dataset. -/
def findings (e : Expander) (d : Dataset) : List Finding :=
  (if d.templates.isEmpty then [.noTemplates] else []) ++
  d.templates.zipIdx.flatMap (fun (template, index) => checkTemplate e d index template) ++
  d.assets.entries.flatMap (fun (name, candidates) => checkAsset e d name candidates) ++
  (graph e d).cycles.map .cycle ++
  (unusedNames e d).map .unusedAsset

end Lint

end Phrasebook
