import ColdBuild.Regex.Meaning
import ColdBuild.Text.Blank
import ColdBuild.Text.Visible

/-!
# Log records and which of them are shown

A record has a level and the module it comes from. A filter holds directives, each a threshold
for the modules whose names begin in some way, or for all modules; the longest name that fits a
record decides, and of two equally long ones the later. A record is shown when it is at least as
severe as the threshold.

Filters are read from text: directives separated by commas, each a level, a name, or a name and
a level with an equals sign between. A part that cannot be read is left out and named in a
warning. After a slash comes a regular expression that every shown message must match; one that
cannot be read is left out in the same way.
-/

namespace ColdBuild

/-- How severe a record is, the most severe first. -/
inductive LogLevel where
  | error
  | warn
  | info
  | debug
  | trace
  deriving DecidableEq, Repr

namespace LogLevel

def rank : LogLevel → Nat
  | .error => 1
  | .warn => 2
  | .info => 3
  | .debug => 4
  | .trace => 5

def name : LogLevel → String
  | .error => "ERROR"
  | .warn => "WARN"
  | .info => "INFO"
  | .debug => "DEBUG"
  | .trace => "TRACE"

end LogLevel

structure LogRecord where
  level : LogLevel
  target : String
  message : String
  deriving DecidableEq, Repr

def LogLevel.emphasis : LogLevel → Emphasis
  | .error => .boldRed
  | .warn => .yellow
  | .info => .logGreen
  | .debug => .logBlue
  | .trace => .logCyan

/-- The record as a line of the log; further lines of a message are indented under it. -/
def LogRecord.spans (stamp : String) (entry : LogRecord) : List Span :=
  let level := entry.level.name
  let padding := String.ofList (List.replicate (5 - level.length) ' ')
  let message := "\n    ".intercalate (entry.message.splitOn "\n")
  [.emphasised .logGray "[", .plain s!"{stamp} ",
    .emphasised entry.level.emphasis (level ++ padding), .plain s!" {entry.target}",
    .emphasised .logGray "]", .plain s!" {message}\n"]

/-- The line as it is written. Without colour no control sequence of the message is left. -/
def LogRecord.line (stamp : String) (colour : Bool) (entry : LogRecord) : String :=
  if colour then Span.renderAll true (entry.spans stamp)
  else Visible.ofText (Span.renderAll false (entry.spans stamp))

/-- The least severe level that is shown, or nothing at all. -/
inductive LogThreshold where
  | off
  | upTo (level : LogLevel)
  deriving DecidableEq, Repr

namespace LogThreshold

def admits : LogThreshold → LogLevel → Bool
  | .off, _ => false
  | .upTo least, level => level.rank ≤ least.rank

/-- Reads a threshold's name; capital and small letters count as the same. -/
def parse? (text : List Char) : Option LogThreshold :=
  match String.ofList (text.map Char.toLower) with
  | "off" => some .off
  | "error" => some (.upTo .error)
  | "warn" => some (.upTo .warn)
  | "info" => some (.upTo .info)
  | "debug" => some (.upTo .debug)
  | "trace" => some (.upTo .trace)
  | _ => none

end LogThreshold

/-- A threshold for the modules whose names begin with `name`; without one, for all. -/
structure LogDirective where
  name : Option (List Char)
  threshold : LogThreshold
  deriving DecidableEq, Repr

namespace LogDirective

def weight (directive : LogDirective) : Nat := (directive.name.getD []).length

def covers (directive : LogDirective) (target : String) : Bool :=
  match directive.name with
  | none => true
  | some name => name.isPrefixOf target.toList

/-- Reads one directive; the text that could not be read, if it cannot. -/
def parse (text : List Char) : Except (List Char) LogDirective :=
  match text.splitOn '=' with
  | [alone] =>
    match LogThreshold.parse? alone with
    | some threshold => .ok ⟨none, threshold⟩
    | none => .ok ⟨some alone, .upTo .trace⟩
  | [name, level] =>
    if stripped level = [] then .ok ⟨some name, .upTo .trace⟩
    else match LogThreshold.parse? (stripped level) with
      | some threshold => .ok ⟨some name, threshold⟩
      | none => .error (stripped level)
  | _ => .error text

end LogDirective

structure LogFilter where
  directives : List LogDirective
  /-- What a shown message has to match. -/
  expression : Option (Regex.Expression Regex.Atom) := none
  deriving DecidableEq, Repr

namespace LogFilter

/-- One threshold for all modules. -/
def upTo (level : LogLevel) : LogFilter := ⟨[⟨none, .upTo level⟩], none⟩

/-- Adds a directive; it takes the place of one with the same name. -/
def insert (directive : LogDirective) : List LogDirective → List LogDirective
  | [] => [directive]
  | d :: rest => if d.name = directive.name then directive :: rest else d :: insert directive rest

/-- The directive that decides about a module: the last of the most specific ones. -/
def deciding? (filter : LogFilter) (target : String) : Option LogDirective :=
  (filter.directives.filter (·.covers target)).foldl (fun best directive =>
    match best with
    | none => some directive
    | some chosen => if chosen.weight ≤ directive.weight then some directive else some chosen) none

def shows (filter : LogFilter) (entry : LogRecord) : Bool :=
  (match filter.deciding? entry.target with
    | none => false
    | some directive => directive.threshold.admits entry.level) &&
  filter.expression.all (·.isFoundIn entry.message)

/-- Reads directives one after another into a filter; what could not be read is collected. -/
def addAll (filter : LogFilter) : List (List Char) → LogFilter × List (List Char)
  | [] => (filter, [])
  | part :: rest =>
    if part = [] then addAll filter rest
    else match LogDirective.parse part with
      | .ok directive =>
        addAll { filter with directives := insert directive filter.directives } rest
      | .error unread =>
        let (final, others) := addAll filter rest
        (final, unread :: others)

/-- Refines the filter as a text asks; also the warnings about what could not be read. -/
def refine (filter : LogFilter) (text : String) : LogFilter × List String :=
  match text.toList.splitOn '/' with
  | [] => (filter, [])
  | parts :: further =>
    match further with
    | _ :: _ :: _ => (filter, [s!"invalid logging spec '{text}' (too many '/'s)"])
    | _ =>
      let (refined, unread) := filter.addAll ((parts.splitOn ',').map stripped)
      let warnings := unread.map fun part => s!"invalid logging spec '{String.ofList part}'"
      match further.head?.map fun pattern => Regex.compile (String.ofList pattern) with
      | none => (refined, warnings)
      | some (.ok expression) => ({ refined with expression }, warnings)
      | some (.error reason) => (refined, warnings ++ [s!"invalid regex filter - {reason}"])

end LogFilter

end ColdBuild
