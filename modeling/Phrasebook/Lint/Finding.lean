import Phrasebook.Suggestion

/-! # Findings

What can be said against a dataset before anything is expanded. An error means that expansion can
fail; a warning means that the data is probably not what was intended.
-/

namespace Phrasebook

/-- How serious a finding is. -/
inductive Severity where
  | error
  | warning
  deriving Repr, DecidableEq, Inhabited

namespace Severity

def label : Severity → String
  | error => "error"
  | warning => "warning"

end Severity

/-- Where a placeholder is referred to. -/
inductive Origin where
  /-- The template at this position. -/
  | template (index : Nat)
  /-- A candidate of this placeholder. -/
  | asset (name : String)
  deriving Repr, DecidableEq, Inhabited

namespace Origin

/-- The origin in words. -/
def describe : Origin → String
  | template index => "template #" ++ toString index
  | asset name => "placeholder '" ++ name ++ "'"

end Origin

/-- Something that can be said against a dataset. -/
inductive Finding where
  /-- There is nothing to start a phrase from. -/
  | noTemplates
  /-- A marker names a placeholder that the assets do not have. -/
  | unknownPlaceholder (name : String) (origin : Origin) (suggestions : List String)
  /-- A placeholder has no candidate. -/
  | emptyCandidates (name : String)
  /-- Placeholders that lead back to the first of them through their candidates. -/
  | cycle (chain : List String)
  /-- A placeholder that nothing but itself refers to. -/
  | unusedAsset (name : String)
  deriving Repr, DecidableEq, Inhabited

namespace Finding

def severity : Finding → Severity
  | noTemplates | unknownPlaceholder .. | emptyCandidates _ => .error
  | cycle _ | unusedAsset _ => .warning

/-- A short name for the kind of finding. -/
def kind : Finding → String
  | noTemplates => "no-templates"
  | unknownPlaceholder .. => "unknown-placeholder"
  | emptyCandidates _ => "empty-candidates"
  | cycle _ => "cycle"
  | unusedAsset _ => "unused-asset"

def message : Finding → String
  | noTemplates => "dataset has no templates"
  | unknownPlaceholder name origin suggestions =>
    origin.describe ++ " references unknown placeholder '" ++ name ++ "'" ++
      Suggestion.question suggestions
  | emptyCandidates name => "placeholder '" ++ name ++ "' has no candidates"
  | cycle chain => "placeholders form a cycle: " ++ " -> ".intercalate chain
  | unusedAsset name => "placeholder '" ++ name ++ "' is never referenced"

end Finding

end Phrasebook
