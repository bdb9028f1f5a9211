/-!
# The environment

The variables a session is started with. Some say whether text is to stand out, and they do so in
two ways that differ in details: one for what the program itself shows, one for what it says
about its command line, its help and its log. The output never goes to a terminal by itself, so
without a variable that forces it nothing stands out.
-/

namespace ColdBuild

/-- The values of environment variables, by name. -/
abbrev Environment := List (String × String)

/-- When the log is coloured. -/
inductive LogStyle where
  | automatic
  | always
  | never
  deriving DecidableEq, Repr

namespace Environment

/-- The number zero and the word `false` turn a setting off, everything else turns it on. -/
def asSwitch (value : String) : Bool :=
  if value = "false" then false
  else
    let digits := match value.toList with
      | '+' :: rest => rest
      | all => all
    digits.isEmpty || !digits.all Char.isDigit || digits.any (· ≠ '0')

def isSetNonzero (environment : Environment) (name : String) : Bool :=
  match environment.lookup name with
  | some value => value ≠ "0"
  | none => false

def isNonempty (environment : Environment) (name : String) : Bool :=
  match environment.lookup name with
  | some value => value ≠ ""
  | none => false

/-- The kind of terminal can show colours. -/
def namesColourTerminal (terminal : String) : Bool :=
  ["screen", "xterm", "vt100", "vt220", "rxvt"].any (terminal.startsWith ·) ||
    ["color", "ansi", "cygwin", "linux"].any (fun part => (terminal.splitOn part).length ≠ 1) ||
    ["direct", "truecolor", "256", "256color"].any (terminal.endsWith ·)

/-- The variables by which build services can be recognised. -/
def buildServices : List String :=
  ["CI_NAME", "GITHUB_ACTION", "GITLAB_CI", "NETLIFY", "TRAVIS", "CODEBUILD_SRC_DIR",
    "BUILDER_OUTPUT", "GITLAB_DEPLOYMENT", "NOW_GITHUB_DEPLOYMENT", "NOW_BUILDER",
    "BITBUCKET_DEPLOYMENT", "GERRIT_PROJECT", "SYSTEM_TEAMFOUNDATIONCOLLECTIONURI",
    "BITRISE_IO", "BUDDY_WORKSPACE_ID", "BUILDKITE", "CIRRUS_CI", "APPVEYOR", "CIRCLECI",
    "SEMAPHORE", "DRONE", "DSARI", "TDDIUM", "STRIDER", "TASKCLUSTER_ROOT_URL", "JENKINS_URL",
    "bamboo.buildKey", "GO_PIPELINE_NAME", "HUDSON_URL", "WERCKER", "MAGNUM", "NEVERCODE",
    "RENDER", "SAIL_CI", "SHIPPABLE"]

/-- The variables that a session looks up. -/
def names : List String :=
  ["CI", "CLICOLOR", "CLICOLOR_FORCE", "COLORTERM", "FORCE_COLOR", "IGNORE_IS_TERMINAL", "MAKE",
    "NO_COLOR", "RUST_LOG", "RUST_LOG_STYLE", "TERM", "TERM_PROGRAM"] ++ buildServices

def inBuildService (environment : Environment) : Bool :=
  ["true", "1", "woodpecker"].contains ((environment.lookup "CI").getD "") ||
    buildServices.any fun name => (environment.lookup name).isSome

/-- Where the output would go to a terminal, colours can be shown there. -/
def hasColourTerminal (environment : Environment) : Bool :=
  namesColourTerminal ((environment.lookup "TERM").getD "") ||
    (environment.lookup "COLORTERM").isSome ||
    ["iTerm.app", "Apple_Terminal"].contains ((environment.lookup "TERM_PROGRAM").getD "") ||
    environment.isSetNonzero "CLICOLOR" || environment.inBuildService

/-- Colours are forced, or forbidden, where one of two variables says so; the first wins. -/
def colourForced (environment : Environment) : Bool :=
  match environment.lookup "FORCE_COLOR" with
  | some value => asSwitch value
  | none => environment.isSetNonzero "CLICOLOR_FORCE"

/-- What the program shows is coloured: colours are forced, or the output counts as a terminal
that can show them. -/
def colour (environment : Environment) : Bool :=
  environment.colourForced ||
    (!environment.isSetNonzero "NO_COLOR" && environment.lookup "TERM" ≠ some "dumb" &&
      environment.isSetNonzero "IGNORE_IS_TERMINAL" && environment.hasColourTerminal)

def messageColour (environment : Environment) : Bool :=
  !environment.isNonempty "NO_COLOR" && environment.isNonempty "CLICOLOR_FORCE"

/-- When the log is coloured; what cannot be understood counts as not set. -/
def logStyle (environment : Environment) : LogStyle :=
  match environment.lookup "RUST_LOG_STYLE" with
  | some "always" => .always
  | some "never" => .never
  | _ => .automatic

def logColour (environment : Environment) : Bool :=
  match environment.logStyle with
  | .always => true
  | .never => false
  | .automatic => environment.messageColour

/-- The build tool that the environment sets. -/
def tool (environment : Environment) : Option String := environment.lookup "MAKE"

end Environment

end ColdBuild
