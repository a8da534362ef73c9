import Phrasebook.Command.Request
import Phrasebook.Lint.Finding

/-! # Colours

Whether output is coloured, and how. The command line decides first, then a variable that forces
colours. Otherwise only a terminal gets them. Output is never written to one here, but the
environment may ask to ignore that; then it has to be known from the environment that the terminal
has colours.
-/

namespace Phrasebook.Command

/-- A colour of the terminal. -/
inductive Color where
  | red
  | green
  | yellow
  deriving Repr, DecidableEq, Inhabited

namespace Color

/-- The number that switches a colour on. -/
def code : Color → Nat
  | red => 31
  | green => 32
  | yellow => 33

/-- A text in a colour. -/
def paint (c : Color) (text : String) : String :=
  "\x1b[" ++ toString c.code ++ "m" ++ text ++ "\x1b[39m"

/-- The colour of a severity. -/
def ofSeverity : Severity → Color
  | .error => red
  | .warning => yellow

end Color

namespace Environment

/-- Whether a variable is set, and not to zero. -/
def isOn (env : Environment) (name : String) : Bool :=
  match env.get? name with
  | some text => text ≠ "0"
  | none => false

/-- Whether a variable forces colours. -/
def forcesColor (env : Environment) : Bool :=
  match env.get? "FORCE_COLOR" with
  | some text => text ≠ "false" && word? text ≠ some 0
  | none => env.isOn "CLICOLOR_FORCE"

/-- Whether a variable forbids colours. -/
def forbidsColor (env : Environment) : Bool := env.isOn "NO_COLOR" || env.get? "TERM" = some "dumb"

/-- The programs whose terminals are known to have colours. -/
def colorPrograms : List String := ["iTerm.app", "Apple_Terminal"]

/-- The values of `CI` by which a build service makes itself known. -/
def serviceValues : List String := ["true", "1", "woodpecker"]

/-- Other variables by which a build service makes itself known, whatever they hold. -/
def serviceVariables : List String :=
  ["CI_NAME", "GITHUB_ACTION", "GITLAB_CI", "NETLIFY", "TRAVIS", "CODEBUILD_SRC_DIR",
    "BUILDER_OUTPUT", "GITLAB_DEPLOYMENT", "NOW_GITHUB_DEPLOYMENT", "NOW_BUILDER",
    "BITBUCKET_DEPLOYMENT", "GERRIT_PROJECT", "SYSTEM_TEAMFOUNDATIONCOLLECTIONURI", "BITRISE_IO",
    "BUDDY_WORKSPACE_ID", "BUILDKITE", "CIRRUS_CI", "APPVEYOR", "CIRCLECI", "SEMAPHORE", "DRONE",
    "DSARI", "TDDIUM", "STRIDER", "TASKCLUSTER_ROOT_URL", "JENKINS_URL", "bamboo.buildKey",
    "GO_PIPELINE_NAME", "HUDSON_URL", "WERCKER", "MAGNUM", "NEVERCODE", "RENDER", "SAIL_CI",
    "SHIPPABLE"]

/-- The end of the path in `NODE` by which a build service makes itself known. -/
def serviceNode : String := "//heroku/node/bin/node"

/-- Whether a build service runs the program. -/
def isService (env : Environment) : Bool :=
  (env.get? "CI").any serviceValues.contains ||
    serviceVariables.any (fun name => (env.get? name).isSome) ||
    (env.get? "NODE").any (fun path => serviceNode.toList.isSuffixOf path.toList)

/-- Whether it is known that the terminal has colours, if no variable forbids them. Terminals of any
kind have them, and so have build services. -/
def hasColorTerm (env : Environment) : Bool :=
  (env.get? "COLORTERM").isSome || (env.get? "TERM").isSome ||
    (env.get? "TERM_PROGRAM").any colorPrograms.contains || env.isOn "CLICOLOR" || env.isService

/-- The variables on which it depends whether output is coloured. -/
def colorVariables : List String :=
  ["FORCE_COLOR", "CLICOLOR_FORCE", "NO_COLOR", "IGNORE_IS_TERMINAL", "TERM", "COLORTERM",
    "TERM_PROGRAM", "CLICOLOR", "CI", "NODE"] ++ serviceVariables

/-- Whether output that is no terminal is coloured. -/
def wantsColor (env : Environment) : Bool :=
  env.forcesColor ||
    (!env.forbidsColor && env.isOn "IGNORE_IS_TERMINAL" && env.hasColorTerm)

end Environment

/-- Whether output is coloured. -/
def ColorChoice.isOn (c : ColorChoice) (env : Environment) : Bool :=
  match c with
  | always => true
  | never => false
  | auto => env.wantsColor

end Phrasebook.Command
