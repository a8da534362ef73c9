import Phrasebook.Command.Run

/-! # The program

Reads the arguments, the environment, the files that are asked for and a random seed, runs the
command line on them and prints what it leaves behind.
-/

namespace Phrasebook.Program

open Command

/-- The variables of the environment that matter. -/
def variableNames : List String := dataVariable :: seedVariable :: Environment.colorVariables

/-- The environment. -/
def environment : IO Environment :=
  variableNames.filterMapM fun name => do
    return (← IO.getEnv name).map fun value => (name, value)

/-- The cause for which a file could not be read. -/
def readFailure : IO.Error → ReadFailure
  | .noFileOrDirectory .. => .notFound
  | .inappropriateType _ 21 _ => .isDirectory
  | .inappropriateType .. => .notDirectory
  | .invalidArgument _ 22 _ => .invalidPath
  | .invalidArgument .. => .nameTooLong
  | e => .other (toString e)

/-- The text of a file. -/
def readFile (path : String) : IO (Except ReadFailure String) := do
  try
    let bytes ← IO.FS.readBinFile path
    return match String.fromUTF8? bytes with
      | some text => .ok text
      | none => .error .notText
  catch e =>
    return .error (readFailure e)

/-- The files at some paths. -/
def readFiles (paths : List String) : IO FileReader := do
  let contents ← paths.mapM fun path => return (path, ← readFile path)
  return fun path =>
    match contents.find? (·.1 = path) with
    | some (_, content) => content
    | none => .error .notFound

end Phrasebook.Program

open Phrasebook Command in
/-- Runs the program. -/
def main (args : List String) : IO UInt32 := do
  let env ← Program.environment
  let paths :=
    match Request.read env args with
    | .ok r => r.action.files
    | .error _ => []
  let files ← Program.readFiles paths
  let seed ← IO.rand 0 (Nat.pow 2 64 - 1)
  let outcome := run env files (Random.Words.ofSeed (UInt64.ofNat seed)) args
  IO.print outcome.output
  IO.eprint outcome.noticeText
  return UInt32.ofNat outcome.status.code
