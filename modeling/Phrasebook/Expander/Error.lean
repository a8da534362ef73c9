import Phrasebook.Suggestion

/-! # Failures of an expansion

The causes for which no phrase can be made, and their messages.
-/

namespace Phrasebook

/-- Why an expansion came to nothing. -/
inductive ExpandError where
  /-- A marker asks for a placeholder that the assets do not have. -/
  | placeholderNotFound (name : String) (suggestions : List String)
  /-- A placeholder has no candidate. -/
  | emptyChoice (name : String)
  /-- Candidates were nested too deeply; the chain names their placeholders, the outermost first. -/
  | maxDepthExceeded (maxDepth : Nat) (chain : List String)
  | noTemplates
  | templateIndexOutOfRange (index count : Nat)
  deriving Repr, DecidableEq, Inhabited

namespace ExpandError

def message : ExpandError → String
  | placeholderNotFound name suggestions =>
    "placeholder not found: '" ++ name ++ "'" ++ Suggestion.question suggestions
  | emptyChoice name => "placeholder '" ++ name ++ "' has no candidates to choose from"
  | maxDepthExceeded maxDepth chain =>
    "maximum expansion depth " ++ toString maxDepth ++ " exceeded: " ++ " -> ".intercalate chain
  | noTemplates => "dataset has no templates"
  | templateIndexOutOfRange index count =>
    "template index " ++ toString index ++ " out of range, dataset has " ++ toString count ++
      " templates"

end ExpandError

end Phrasebook
