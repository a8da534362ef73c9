import Phrasebook.Lint

/-! # Statistics

How many candidates each placeholder has, how many of them may hold markers, and which placeholders
they refer to. A candidate counts as nested if it has both brackets.
-/

namespace Phrasebook

/-- The numbers for one placeholder. -/
structure PlaceholderStats where
  name : String
  candidates : Nat
  nested : Nat
  references : List String
  deriving Repr, DecidableEq, Inhabited

namespace Dataset

/-- The numbers for every placeholder, in ascending order of the names. -/
def stats (e : Expander) (d : Dataset) : List PlaceholderStats :=
  d.assets.entries.map fun (name, candidates) =>
    { name
      candidates := candidates.length
      nested := candidates.countP Template.hasBrackets
      references := Names.ofList (candidates.flatMap e.keys) }

end Dataset

end Phrasebook
