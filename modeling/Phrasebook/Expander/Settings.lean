import Phrasebook.Marker
import Phrasebook.Text.Blank
import Phrasebook.Text.Lowercase

/-! # Settings of an expander

How deep candidates may be nested, whether markers may be optional, and which candidates are
preferred. A search term without its surrounding white space that is empty counts as no term, and no
depth is allowed beyond a fixed bound.
-/

namespace Phrasebook

/-- The settings under which phrases are expanded. -/
structure Expander where
  maxDepth : Nat := 64
  optionalMarkers : Bool := false
  search : Option String := none
  deriving Repr, DecidableEq, Inhabited

namespace Expander

/-- The depth that is allowed if no other is set. -/
def defaultMaxDepth : Nat := ({} : Expander).maxDepth

/-- No greater depth is ever allowed. -/
def greatestDepth : Nat := 256

/-- The number of candidates that may be nested inside each other. -/
def depthLimit (e : Expander) : Nat := min e.maxDepth greatestDepth

/-- The search term, if there is more to it than white space. -/
def searchTerm? (e : Expander) : Option String :=
  (e.search.map Text.trim).filter fun term => !term.isEmpty

/-- The reading of a marker as optional, if such readings are on and it has one. -/
def optional? (e : Expander) (m : Marker) : Option OptionalMarker :=
  if e.optionalMarkers then m.asOptional else none

/-- The placeholder name that a marker stands for. -/
def key (e : Expander) (m : Marker) : String :=
  match e.optional? m with
  | some o => o.key
  | none => m.name

/-- Whether a candidate contains a term, upper and lower case being the same. -/
def isMatch (term candidate : String) : Bool :=
  Text.contains (Text.lowercase term).toList (Text.lowercase candidate).toList

/-- The candidates a pick is made from: those that match the search term if any does, else all. -/
def eligible (e : Expander) (candidates : List String) : List String :=
  match e.searchTerm? with
  | none => candidates
  | some term =>
    let preferred := candidates.filter (isMatch term)
    if preferred.isEmpty then candidates else preferred

end Expander

end Phrasebook
