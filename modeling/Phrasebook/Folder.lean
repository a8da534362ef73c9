import Phrasebook.Dataset.Load

/-! # Folders

A folder holds files by name and nothing else. A path is followed part by part: an empty part and a
dot stay where they are, and behind a file there is nothing to go to. What lies outside of the
folder is not there, the folder above it apart.
-/

namespace Phrasebook

/-- Files by their names. -/
structure Folder where
  files : List (String × ByteArray)

namespace Folder

/-- The bytes of the file of a name. -/
def file? (f : Folder) (name : String) : Option ByteArray :=
  (f.files.find? fun entry => entry.1 = name).map (·.2)

/-- The greatest number of bytes in a name. -/
def greatestName : Nat := 255

/-- The least number of bytes that is too much for a path. -/
def pathLimit : Nat := 4096

/-- Follows the parts of a path to a file; `depth` is the number of folders gone up. -/
def follow (f : Folder) : (depth : Nat) → List String → Except ReadFailure ByteArray
  | _, [] => .error .isDirectory
  | depth, part :: parts =>
    if part = "" ∨ part = "." then
      f.follow depth parts
    else if part = ".." then
      f.follow (depth + 1) parts
    else if greatestName < part.utf8ByteSize then
      .error .nameTooLong
    else
      match if depth = 0 then f.file? part else none with
      | none => .error .notFound
      | some bytes => if parts.isEmpty then .ok bytes else .error .notDirectory

/-- The parts of a path between its slashes. -/
def parts (path : String) : List String := path.splitOn "/"

/-- The bytes of the file that a path leads to. -/
def readBytes (f : Folder) (path : String) : Except ReadFailure ByteArray :=
  if path.toList.contains '\x00' then .error .invalidPath
  else if path.isEmpty then .error .notFound
  else if pathLimit ≤ path.utf8ByteSize then .error .nameTooLong
  else
    match parts path with
    | "" :: rest => f.follow 1 rest
    | rest => f.follow 0 rest

/-- The text of the file that a path leads to. -/
def readText (f : Folder) (path : String) : Except ReadFailure String :=
  match f.readBytes path with
  | .error failure => .error failure
  | .ok bytes =>
    match String.fromUTF8? bytes with
    | some text => .ok text
    | none => .error .notText

end Folder

end Phrasebook
