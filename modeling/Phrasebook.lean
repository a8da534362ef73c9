import Phrasebook.Folder
import Phrasebook.Main
import Phrasebook.Proofs.Command.Generate
import Phrasebook.Proofs.Dataset.Saved
import Phrasebook.Proofs.Expander.Accuracy
import Phrasebook.Proofs.Expander.Fallible
import Phrasebook.Proofs.Expander.Language
import Phrasebook.Proofs.Generator.Unused
import Phrasebook.Proofs.Lint.Announced
import Phrasebook.Proofs.Lint.Stats
import Phrasebook.Proofs.Template.Segmentation
import Phrasebook.Proofs.Expander.Search
import Phrasebook.Proofs.Template.Brackets
import Phrasebook.Proofs.Expander.Concatenation
import Phrasebook.Proofs.Stats.Nested
import Phrasebook.Proofs.Expander.Nesting
import Phrasebook.Proofs.Expander.Optional
import Phrasebook.Proofs.Suggestion.Nearest
import Phrasebook.Proofs.Command.Check
import Phrasebook.Proofs.Expander.Visits
import Phrasebook.Proofs.Expander.Indifference
import Phrasebook.Proofs.Generator.Batch
import Phrasebook.Proofs.Generator.Spaces
import Phrasebook.Proofs.Dataset.Label
import Phrasebook.Proofs.Graph.Steps
import Phrasebook.Proofs.Assets.LastWins
import Phrasebook.Proofs.Expander.Shortcuts
