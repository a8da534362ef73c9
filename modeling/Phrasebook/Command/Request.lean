import Phrasebook.Command.Arguments
import Phrasebook.Expander.Settings

/-! # Requests

What a command line asks for: to generate phrases, to expand a template, to check datasets or to
show the numbers of one. A value that is not given on the command line may come from the
environment.
-/

namespace Phrasebook.Command

/-- The variables of the environment. -/
abbrev Environment := List (String × String)

namespace Environment

def get? (env : Environment) (name : String) : Option String :=
  (env.find? (·.1 = name)).map (·.2)

end Environment

/-! ## What can be asked for -/

inductive ColorChoice where
  | auto
  | always
  | never
  deriving Repr, DecidableEq, Inhabited

inductive OutputFormat where
  | text
  | json
  deriving Repr, DecidableEq, Inhabited

/-- How markers are expanded, and from which seed. -/
structure ExpandOptions where
  seed : Option UInt64 := none
  expander : Expander := {}
  deriving Repr, DecidableEq, Inhabited

structure GenerateRequest where
  data : String
  count : Nat := 1
  template : Option Nat := none
  collapseSpaces : Bool := false
  format : OutputFormat := .text
  options : ExpandOptions := {}
  deriving Repr, DecidableEq, Inhabited

structure ExpandRequest where
  data : String
  template : String
  json : Bool := false
  options : ExpandOptions := {}
  deriving Repr, DecidableEq, Inhabited

structure CheckRequest where
  files : List String
  strict : Bool := false
  optionalMarkers : Bool := false
  json : Bool := false
  deriving Repr, DecidableEq, Inhabited

structure StatsRequest where
  data : String
  json : Bool := false
  optionalMarkers : Bool := false
  deriving Repr, DecidableEq, Inhabited

/-- What is asked for. -/
inductive Action where
  | generate (r : GenerateRequest)
  | expand (r : ExpandRequest)
  | check (r : CheckRequest)
  | stats (r : StatsRequest)
  deriving Repr, DecidableEq, Inhabited

/-- What is asked for, and what holds for every action. -/
structure Request where
  action : Action
  color : ColorChoice := .auto
  verbose : Bool := false
  deriving Repr, DecidableEq, Inhabited

/-! ## Values -/

/-- Reads a row of decimal digits, of which there is at least one. -/
def natural? (cs : List Char) : Option Nat :=
  if cs.isEmpty ∨ !cs.all Char.isDigit then none
  else some (cs.foldl (fun n d => 10 * n + (d.toNat - '0'.toNat)) 0)

/-- Reads a number of 64 bits, perhaps with a plus sign. -/
def word? (text : String) : Option Nat :=
  let n? := match text.toList with
    | '+' :: cs => natural? cs
    | cs => natural? cs
  n?.filter (· < Nat.pow 2 64)

/-- Reads a number in a range, perhaps with a sign; the sign of a zero does not count. -/
def ranged? (least greatest : Nat) (text : String) : Option Nat :=
  let n? := match text.toList with
    | '+' :: cs => natural? cs
    | '-' :: cs => (natural? cs).filter (· = 0)
    | cs => natural? cs
  n?.filter fun n => least ≤ n && n ≤ greatest

def count? : String → Option Nat := ranged? 1 (Nat.pow 2 32 - 1)

def depth? : String → Option Nat := ranged? 0 Expander.greatestDepth

def color? : String → Option ColorChoice
  | "auto" => some .auto
  | "always" => some .always
  | "never" => some .never
  | _ => none

def format? : String → Option OutputFormat
  | "text" => some .text
  | "json" => some .json
  | _ => none

/-- A path is any text but the empty one. -/
def isPath (text : String) : Bool := !text.isEmpty

/-! ## Options -/

/-- Options that may stand in front of the action's name and behind it. -/
def globalOptions : List OptionSpec :=
  [ { long := "color", kind := .value fun v => (color? v).isSome },
    { long := "verbose", short := some 'v' },
    { long := "help", short := some 'h', kind := .stop .help } ]

/-- Options in front of the action's name. -/
def topOptions : List OptionSpec :=
  globalOptions ++ [{ long := "version", short := some 'V', kind := .stop .version }]

def dataOption : OptionSpec := { long := "data", short := some 'd', kind := .value isPath }

def optionalMarkersOption : OptionSpec := { long := "optional-markers" }

def jsonOption : OptionSpec := { long := "json" }

def expandOptions : List OptionSpec :=
  [ { long := "seed", kind := .value fun v => (word? v).isSome },
    { long := "search", kind := .value fun _ => true },
    { long := "max-depth", kind := .value fun v => (depth? v).isSome },
    optionalMarkersOption ]

def generateOptions : List OptionSpec :=
  [ dataOption,
    { long := "count", short := some 'n', kind := .value fun v => (count? v).isSome },
    { long := "template", kind := .value fun v => (word? v).isSome },
    { long := "collapse-spaces" },
    { long := "format", kind := .value fun v => (format? v).isSome } ] ++ expandOptions

def expandActionOptions : List OptionSpec :=
  [dataOption, { long := "template", kind := .value fun _ => true }, jsonOption] ++ expandOptions

def checkOptions : List OptionSpec := [{ long := "strict" }, optionalMarkersOption, jsonOption]

def statsOptions : List OptionSpec := [dataOption, jsonOption, optionalMarkersOption]

/-! ## Reading a command line -/

/-- The variable that names the dataset. -/
def dataVariable : String := "PHRASEGEN_DATA"

/-- The variable that gives the seed. -/
def seedVariable : String := "PHRASEGEN_SEED"

/-- The dataset that is used if none is named. -/
def defaultData : String := "data.json"

/-- A value from the command line or else from the environment, if there is one; it has to pass. -/
def given {α : Type} (a : Arguments) (env : Environment) (long fallback : String)
    (read : String → Option α) : Except Stop (Option α) :=
  match (a.value? long).orElse fun _ => env.get? fallback with
  | none => .ok none
  | some text =>
    match read text with
    | some x => .ok (some x)
    | none => .error .usage

def dataPath (a : Arguments) (env : Environment) : Except Stop String :=
  match given a env "data" dataVariable fun path => if isPath path then some path else none with
  | .ok path => .ok (path.getD defaultData)
  | .error s => .error s

/-- How markers are expanded. -/
def expandOptionsOf (a : Arguments) (env : Environment) : Except Stop ExpandOptions :=
  match given a env "seed" seedVariable word? with
  | .error s => .error s
  | .ok seed =>
    .ok
      { seed := seed.map UInt64.ofNat
        expander :=
          { maxDepth := ((a.value? "max-depth").bind depth?).getD Expander.defaultMaxDepth
            optionalMarkers := a.has "optional-markers"
            search := a.value? "search" } }

/-- The request to generate phrases. -/
def generateOf (a : Arguments) (env : Environment) : Except Stop Action := do
  let data ← dataPath a env
  let options ← expandOptionsOf a env
  return .generate
    { data
      count := ((a.value? "count").bind count?).getD 1
      template := (a.value? "template").bind word?
      collapseSpaces := a.has "collapse-spaces"
      format := ((a.value? "format").bind format?).getD .text
      options }

/-- The request to expand a template, which has to be given. -/
def expandOf (a : Arguments) (env : Environment) : Except Stop Action := do
  let data ← dataPath a env
  let options ← expandOptionsOf a env
  match a.value? "template" with
  | none => .error .usage
  | some template => .ok (.expand { data, template, json := a.has "json", options })

/-- The request to check files, of which there has to be one. -/
def checkOf (a : Arguments) : Except Stop Action :=
  if a.operands.isEmpty then
    .error .usage
  else
    .ok (.check
      { files := a.operands
        strict := a.has "strict"
        optionalMarkers := a.has "optional-markers"
        json := a.has "json" })

/-- The request for the numbers of a dataset. -/
def statsOf (a : Arguments) (env : Environment) : Except Stop Action := do
  let data ← dataPath a env
  return .stats { data, json := a.has "json", optionalMarkers := a.has "optional-markers" }

/-- How the arguments of an action are read. -/
structure ActionSpec where
  options : List OptionSpec
  operands : OperandRule := .refuses
  /-- The request that is made of the arguments. -/
  request : Arguments → Except Stop Action

/-- How the arguments of an action are read, by its name. -/
def actionSpec? (env : Environment) : String → Option ActionSpec
  | "generate" => some { options := generateOptions, request := fun a => generateOf a env }
  | "expand" => some { options := expandActionOptions, request := fun a => expandOf a env }
  | "check" => some { options := checkOptions, operands := .keeps isPath, request := checkOf }
  | "stats" => some { options := statsOptions, request := fun a => statsOf a env }
  | _ => none

def actionNames : List String := ["generate", "expand", "check", "stats", "help"]

/-- Whether help can be given on these words: nothing, or the name of an action. -/
def isHelpTopic : List String → Bool
  | [] => true
  | [name] => actionNames.contains name
  | _ => false

def Request.read (env : Environment) (args : List String) : Except Stop Request :=
  match Arguments.read topOptions .leaves {} none args with
  | .error s => .error s
  | .ok (_, []) => .error .usage
  | .ok (top, name :: rest) =>
    if name = "help" then
      .error (if isHelpTopic rest then .help else .usage)
    else
      match actionSpec? env name with
      | none => .error .usage
      | some spec =>
        match Arguments.read (globalOptions ++ spec.options) spec.operands {} none rest with
        | .error s => .error s
        | .ok (own, _) =>
          match spec.request own with
          | .error s => .error s
          | .ok action =>
            let color := ((own.value? "color").orElse fun _ => top.value? "color").bind color?
            .ok
              { action
                color := color.getD .auto
                verbose := own.has "verbose" || top.has "verbose" }

end Phrasebook.Command
