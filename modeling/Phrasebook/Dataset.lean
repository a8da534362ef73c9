import Phrasebook.Assets

/-! # Datasets

A dataset is what phrases are made from: templates to start with, and the assets.
-/

namespace Phrasebook

/-- Templates to start from and the candidates of their placeholders. -/
structure Dataset where
  templates : List String
  assets : Assets
  deriving DecidableEq, Inhabited

end Phrasebook
