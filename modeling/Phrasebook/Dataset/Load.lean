import Phrasebook.Dataset.Text

/-! # Loading a dataset

A dataset is loaded from a file or from a text at hand. Either the file cannot be read, or its text
cannot be understood; the latter failure carries the place where reading stopped.
-/

namespace Phrasebook

/-- Why a file cannot be read as text. -/
inductive ReadFailure where
  | notFound
  | notDirectory
  | isDirectory
  | nameTooLong
  /-- The path holds a NUL, which ends a path. -/
  | invalidPath
  /-- The bytes are no text. -/
  | notText
  /-- Another failure, in the words of the system. -/
  | other (detail : String)
  deriving Repr, DecidableEq, Inhabited

namespace ReadFailure

/-- A failure of the system with its number. -/
def system (text : String) (number : Nat) : String :=
  text ++ " (os error " ++ toString number ++ ")"

def detail : ReadFailure → String
  | notFound => system "No such file or directory" 2
  | notDirectory => system "Not a directory" 20
  | isDirectory => system "Is a directory" 21
  | nameTooLong => system "File name too long" 36
  | invalidPath => "file name contained an unexpected NUL byte"
  | notText => "stream did not contain valid UTF-8"
  | other detail => detail

end ReadFailure

/-- Why a dataset cannot be loaded. -/
inductive LoadError where
  /-- The file cannot be read. -/
  | io (path detail : String)
  /-- The text cannot be understood. -/
  | parse (path : String) (position : Text.Position) (detail : String)
  deriving Repr, DecidableEq, Inhabited

namespace LoadError

def message : LoadError → String
  | io path detail => "failed to read '" ++ path ++ "': " ++ detail
  | parse path position detail =>
    path ++ ":" ++ toString position.line ++ ":" ++ toString position.column ++ ": " ++ detail

end LoadError

namespace Dataset

/-- The dataset that the text of a file describes. -/
def parse (path text : String) : Except LoadError Dataset :=
  match ofJson text with
  | .ok d => .ok d
  | .error fault => .error (.parse path (fault.position text) (fault.message text))

/-- The name that stands for the path of a text at hand. -/
def textPath : String := "<string>"

/-- The dataset that a text at hand describes. -/
def ofText (text : String) : Except LoadError Dataset := parse textPath text

/-- The dataset of a file; `readFile` says what a path leads to. -/
def load (readFile : String → Except ReadFailure String) (path : String) :
    Except LoadError Dataset :=
  match readFile path with
  | .ok text => parse path text
  | .error failure => .error (.io path failure.detail)

end Dataset

end Phrasebook
