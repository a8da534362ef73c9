/-! # Arguments of a command line

Options have a long name and perhaps a short one, and may take a value. The value follows as the
next argument, which must not look like an option, or is attached: `--name=value`, `-nvalue`,
`-n=value`. Short options may stand behind one dash. Behind `--` everything is an operand. No
option may be given twice, and operands only stand where they are expected. The first thing that is
wrong, or that asks for help or for the version, ends the reading.
-/

namespace Phrasebook.Command

/-- Why the arguments are not read to their end. -/
inductive Stop where
  /-- The arguments are wrong. -/
  | usage
  | help
  | version
  deriving Repr, DecidableEq, Inhabited

/-- What an option does. -/
inductive OptionKind where
  /-- Is given or not. -/
  | flag
  /-- Takes a value that passes a test. -/
  | value (accepts : String → Bool)
  /-- Ends the reading. -/
  | stop (s : Stop)

structure OptionSpec where
  long : String
  short : Option Char := none
  kind : OptionKind := .flag

/-- What becomes of operands. -/
inductive OperandRule where
  /-- The first one ends the reading. -/
  | leaves
  /-- There may not be any. -/
  | refuses
  /-- They are kept if they pass a test. -/
  | keeps (accepts : String → Bool)

/-- The options given, with the values of those that take one, and the operands. -/
structure Arguments where
  given : List (String × String) := []
  operands : List String := []
  deriving Repr, DecidableEq, Inhabited

namespace Arguments

def has (a : Arguments) (long : String) : Bool := a.given.any (·.1 = long)

def value? (a : Arguments) (long : String) : Option String :=
  (a.given.find? (·.1 = long)).map (·.2)

/-- Notes an option, with its value or with an empty one. -/
def note (a : Arguments) (o : OptionSpec) (value : String) : Except Stop Arguments :=
  match o.kind with
  | .stop s => .error s
  | .flag =>
    if a.has o.long then .error .usage else .ok { a with given := (o.long, value) :: a.given }
  | .value accepts =>
    if a.has o.long ∨ !accepts value then .error .usage
    else .ok { a with given := (o.long, value) :: a.given }

/-- What has been read of a group of arguments, and the option that waits for its value. -/
abbrev Waiting := Arguments × Option OptionSpec

/-- Notes the last option of an argument. -/
def noteLast (a : Arguments) (o : OptionSpec) (value : String) : Except Stop Waiting :=
  (a.note o value).map fun a => (a, none)

/-- Reads the options behind a single dash. -/
def readShort (options : List OptionSpec) (a : Arguments) : List Char → Except Stop Waiting
  | [] => .ok (a, none)
  | c :: cs =>
    match options.find? (·.short = some c) with
    | none => .error .usage
    | some o =>
      match o.kind with
      | .value _ =>
        match cs with
        | [] => .ok (a, some o)
        | '=' :: value => a.noteLast o (String.ofList value)
        | value => a.noteLast o (String.ofList value)
      | _ =>
        match a.note o "" with
        | .error s => .error s
        | .ok a => readShort options a cs

/-- Reads the option behind two dashes. -/
def readLong (options : List OptionSpec) (a : Arguments) (text : List Char) :
    Except Stop Waiting :=
  let name := String.ofList (text.takeWhile (· ≠ '='))
  match options.find? (·.long = name) with
  | none => .error .usage
  | some o =>
    match o.kind, text.dropWhile (· ≠ '=') with
    | .value _, [] => .ok (a, some o)
    | .value _, _ :: value => a.noteLast o (String.ofList value)
    | _, [] => a.noteLast o ""
    | _, _ :: _ => .error .usage

/-- Whether an argument looks like an option. -/
def isOption (arg : String) : Bool :=
  match arg.toList with
  | '-' :: _ :: _ => true
  | _ => false

/-- Notes operands behind which there are no more options. -/
def noteLastOperands (a : Arguments) (rule : OperandRule) (args : List String) :
    Except Stop Arguments :=
  match rule with
  | .keeps accepts =>
    if args.all accepts then .ok { a with operands := a.operands ++ args } else .error .usage
  | _ => if args.isEmpty then .ok a else .error .usage

/-- Reads options and operands. An operand that ends the reading stays with the arguments that are
left; an option that waits for its value goes first. -/
def read (options : List OptionSpec) (rule : OperandRule) (a : Arguments)
    (waiting : Option OptionSpec) : List String → Except Stop (Arguments × List String)
  | [] => if waiting.isSome then .error .usage else .ok (a, [])
  | arg :: args =>
    if isOption arg then
      if waiting.isSome then .error .usage
      else
        match arg.toList with
        | ['-', '-'] => (a.noteLastOperands rule args).map fun a => (a, [])
        | '-' :: '-' :: text =>
          match readLong options a text with
          | .error s => .error s
          | .ok (a, waiting) => read options rule a waiting args
        | text =>
          match readShort options a text.tail with
          | .error s => .error s
          | .ok (a, waiting) => read options rule a waiting args
    else
      match waiting with
      | some o =>
        match a.note o arg with
        | .error s => .error s
        | .ok a => read options rule a none args
      | none =>
        match rule with
        | .leaves => .ok (a, arg :: args)
        | .refuses => .error .usage
        | .keeps accepts =>
          if accepts arg then
            read options rule { a with operands := a.operands ++ [arg] } none args
          else .error .usage

end Arguments

end Phrasebook.Command
