import Phrasebook.Text.EditDistance

/-! # Suggestions

For a name that is missing, the names within a few edits of it are suggested: at most three, the
nearest first, and of equally near ones the smaller first.
-/

namespace Phrasebook.Suggestion

/-- The number of edits that are allowed: one for a short name and two for a longer one. -/
def bound (target : String) : Nat := if target.length ≤ 3 then 1 else 2

/-- At most this many names are suggested. -/
def limit : Nat := 3

/-- Nearer names come first, then smaller ones. -/
def precedes (x y : Nat × String) : Bool :=
  decide (x.1 < y.1) || (decide (x.1 = y.1) && decide (x.2 ≤ y.2))

/-- The names near the target, each with its distance. -/
def near (target : String) (available : List String) : List (Nat × String) :=
  ((available.filter (· ≠ target)).map fun name => (Text.editDistance target name, name)).filter
    fun scored => scored.1 ≤ bound target

/-- The names to suggest for a target. -/
def suggest (target : String) (available : List String) : List String :=
  (((near target available).mergeSort precedes).take limit).map (·.2)

/-- The question that ends a message, if there is anything to suggest. -/
def question (names : List String) : String :=
  if names.isEmpty then "" else ", did you mean: " ++ ", ".intercalate names ++ "?"

end Phrasebook.Suggestion
