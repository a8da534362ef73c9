import Phrasebook.Dataset.Diagnostic

/-! # Outcomes

What a run leaves behind: an exit status, what it printed, and what it had to say besides.
-/

namespace Phrasebook.Command

/-- How a run ends. -/
inductive ExitStatus where
  | success
  /-- The command line is wrong. -/
  | usage
  /-- The data is wrong. -/
  | dataError
  /-- A file cannot be read. -/
  | noInput
  deriving Repr, DecidableEq, Inhabited

namespace ExitStatus

def code : ExitStatus → Nat
  | success => 0
  | usage => 2
  | dataError => 65
  | noInput => 66

end ExitStatus

/-- Something said on the error channel. -/
inductive Notice where
  | line (text : String)
  /-- A drawn report on the file of this path. -/
  | report (path : String) (d : Diagnostic)
  deriving Repr, DecidableEq, Inhabited

namespace Notice

def isReport : Notice → Bool
  | line _ => false
  | report .. => true

/-- The text of a notice. A report is drawn as its message, its place and its help. -/
def text : Notice → String
  | line text => text ++ "\n"
  | report path d =>
    let places := d.labels.map fun l =>
      path ++ ": byte " ++ toString l.offset ++ ": " ++ l.text ++ "\n"
    d.code ++ ": " ++ d.message ++ "\n" ++ String.join places ++ "help: " ++ d.help ++ "\n"

end Notice

/-- What a run leaves behind. -/
structure Outcome where
  status : ExitStatus
  /-- What was printed. -/
  output : String := ""
  /-- What was said besides. -/
  notices : List Notice := []
  deriving Repr, DecidableEq, Inhabited

namespace Outcome

def noticeText (o : Outcome) : String := String.join (o.notices.map Notice.text)

end Outcome

/-- Lines of output, each with its line break. -/
def lines (texts : List String) : String := String.join (texts.map (· ++ "\n"))

end Phrasebook.Command
