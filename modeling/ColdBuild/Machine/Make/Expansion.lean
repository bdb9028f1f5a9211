import ColdBuild.Machine.Make.Maker
import ColdBuild.Machine.Shell.Pattern

/-!
# Expanding texts of makefiles

A dollar sign with a name in brackets stands for the text of a variable or for the result of a
function. Functions work on lists of words, choose between texts, or look at files; some run
commands or read further lines of a makefile.
-/

namespace ColdBuild.Make

/-- What expanding a text may need: to run programs, and to read lines of a makefile. -/
structure Tools where
  execute : Executor
  evaluate : String → Making Unit

/-- The text up to the bracket that closes, and what stands behind it. -/
def closing (opener closer : Char) : (depth : Nat) → List Char → Option (List Char × List Char)
  | _, [] => none
  | depth, c :: rest =>
    if c = closer then
      match depth with
      | 0 => some ([], rest)
      | depth + 1 => (closing opener closer depth rest).map fun (inside, behind) => (c :: inside, behind)
    else
      (closing opener closer (if c = opener then depth + 1 else depth) rest).map
        fun (inside, behind) => (c :: inside, behind)

/-- Arguments between commas; commas in brackets do not count, and neither do those of the last
argument. -/
def argumentsOf (opener closer : Char) : (most depth : Nat) → (held : List Char) → List Char →
    List (List Char)
  | _, _, held, [] => [held.reverse]
  | most, depth, held, c :: rest =>
    if c = ',' && depth = 0 && most ≠ 1 then
      held.reverse :: argumentsOf opener closer (most - 1) 0 [] rest
    else
      let depth := if c = opener then depth + 1 else if c = closer then depth - 1 else depth
      argumentsOf opener closer most depth (c :: held) rest

/-- The functions: the least number of arguments, the greatest one, which is 0 if there is none, and
whether the arguments are expanded before. -/
def functions : List (String × Nat × Nat × Bool) :=
  [("abspath", 0, 1, true), ("addprefix", 2, 2, true), ("addsuffix", 2, 2, true),
    ("and", 1, 0, false), ("basename", 0, 1, true), ("call", 1, 0, true), ("dir", 0, 1, true),
    ("error", 0, 1, true), ("eval", 0, 1, true), ("file", 1, 2, true), ("filter", 2, 2, true),
    ("filter-out", 2, 2, true), ("findstring", 2, 2, true), ("firstword", 0, 1, true),
    ("flavor", 0, 1, true), ("foreach", 3, 3, false), ("if", 2, 3, false), ("info", 0, 1, true),
    ("join", 2, 2, true), ("lastword", 0, 1, true), ("notdir", 0, 1, true), ("or", 1, 0, false),
    ("origin", 0, 1, true), ("patsubst", 3, 3, true), ("realpath", 0, 1, true),
    ("shell", 0, 1, true), ("sort", 0, 1, true), ("strip", 0, 1, true), ("subst", 3, 3, true),
    ("suffix", 0, 1, true), ("value", 0, 1, true), ("warning", 0, 1, true), ("wildcard", 0, 1, true),
    ("word", 2, 2, true), ("wordlist", 3, 3, true), ("words", 0, 1, true)]

def textFunction (name : String) (arguments : List String) : String :=
  let first := arguments.getD 0 ""
  let second := arguments.getD 1 ""
  let third := arguments.getD 2 ""
  let each (change : String → String) : String := unwords ((words first).map change)
  let matching (keep : Bool) : String :=
    unwords ((words second).filter fun word =>
      ((words first).any fun pattern => (stem? pattern word).isSome) = keep)
  match name with
  | "addprefix" => unwords ((words second).map (first ++ ·))
  | "addsuffix" => unwords ((words second).map (· ++ first))
  | "basename" => each withoutSuffix
  | "dir" => each directoryOf
  | "filter" => matching true
  | "filter-out" => matching false
  | "findstring" => if first = "" || 1 < (second.splitOn first).length then first else ""
  | "firstword" => (words first).headD ""
  | "join" =>
    let lefts := words first
    let rights := words second
    unwords ((List.range (max lefts.length rights.length)).map fun i =>
      lefts.getD i "" ++ rights.getD i "")
  | "lastword" => (words first).getLastD ""
  | "notdir" => unwords ((words first).map fileOf |>.filter (· ≠ ""))
  | "patsubst" => unwords ((words third).map (replaced (stripped first) (stripped second)))
  | "sort" => unwords (distinct ((words first).mergeSort fun a b => a ≤ b))
  | "strip" => unwords (words first)
  | "subst" => if first = "" then third ++ second else second.intercalate (third.splitOn first)
  | "suffix" => unwords ((words first).filterMap suffixOf?)
  | "words" => toString (words first).length
  | _ => ""

/-- The paths that patterns match, or that are there. -/
def wildcard (p : Process) (patterns : List String) : List String :=
  patterns.flatMap fun pattern =>
    if pattern.toList.any fun c => c = '*' || c = '?' || c = '[' then
      Shell.Pattern.paths p (pattern.toList.map fun c => ⟨c, false⟩)
    else if (p.find pattern).isOk then [pattern] else []

/-- Names with those that are patterns of paths replaced by what they match. -/
def globbed (p : Process) (names : List String) : List String :=
  names.flatMap fun name =>
    if name.toList.any fun c => c = '*' || c = '?' || c = '[' then
      match Shell.Pattern.paths p (name.toList.map fun c => ⟨c, false⟩) with
      | [] => [name]
      | paths => paths
    else [name]

/-! ## Running commands -/

/-- Characters and words that only a shell understands. -/
def needsShell (command : String) : Bool :=
  let special := "#;\"*?[]&|<>(){}$`^~!'\\\n".toList ++ [Char.ofNat 96]
  let first := (words command).headD ""
  command.toList.any special.contains || first.contains '=' ||
    [".", ":", "alias", "bg", "break", "case", "cd", "command", "continue", "eval", "exec", "exit",
      "export", "fc", "fg", "for", "getopts", "hash", "if", "jobs", "login", "logout", "read",
      "readonly", "return", "set", "shift", "test", "times", "trap", "type", "ulimit", "umask",
      "unalias", "unset", "wait", "while"].contains first

def commandWords (m : Maker) (command : String) : List String :=
  let value (name default : String) : String := ((m.find? name).map (·.value)).getD default
  let shell := value "SHELL" "/bin/sh"
  let flags := value ".SHELLFLAGS" "-c"
  if shell = "/bin/sh" && flags = "-c" && !needsShell command then words command
  else words shell ++ words flags ++ [command]

/-- The values of special variables made of others. -/
def partOf? (name : String) : Option (String × Bool) :=
  match name.toList with
  | [c, 'D'] => if "@<^+?*|%".toList.contains c then some (String.ofList [c], true) else none
  | [c, 'F'] => if "@<^+?*|%".toList.contains c then some (String.ofList [c], false) else none
  | _ => none

/-- What a command writes, as one line. -/
def shellText (tools : Tools) (command : String) : Making String := do
  let m ← get
  let (p, reading, writing) := m.process.pipe
  let child := p.attach 1 writing
  match child.runChild tools.execute (commandWords m command) with
  | .error fault =>
    let first := (words command).headD ""
    set ({ m with process := p }.complain s!"{m.title}: {first}: {Process.faultText fault}\n")
    modify fun m => m.define ".SHELLSTATUS" { value := "127", simple := true, origin := .override }
    return ""
  | .ok ended =>
    let p := p.adopt ended
    let chars := ((p.pipeText reading).toList.reverse.dropWhile (· = '\n')).reverse
    set { m with process := p }
    modify fun m => m.define ".SHELLSTATUS"
      { value := toString ended.endingStatus, simple := true, origin := .override }
    return String.ofList (chars.map fun c => if c = '\n' then ' ' else c)

mutual

def expandChars (tools : Tools) : (fuel : Nat) → List Char → Making String
  | 0, _ => return ""
  | fuel + 1, chars => do
    let plain := String.ofList (chars.takeWhile (· ≠ '$'))
    match chars.drop plain.length with
    | [] => return plain
    | [_] => return plain ++ "$"
    | _ :: c :: rest =>
      if c = '$' then return plain ++ "$" ++ (← expandChars tools fuel rest)
      else if c = '(' || c = '{' then
        let closer := if c = '(' then ')' else '}'
        match closing c closer 0 rest with
        | none =>
          modify fun m => m.haltAtOrigin "unterminated variable reference"
          return plain
        | some (inside, behind) =>
          let value ← expandReference tools fuel c closer inside
          return plain ++ value ++ (← expandChars tools fuel behind)
      else if isGap c then return plain ++ (← expandChars tools fuel (c :: rest))
      else
        let value ← expandVariable tools fuel (String.ofList [c])
        return plain ++ value ++ (← expandChars tools fuel rest)

/-- Expands what stands in brackets behind a dollar sign. -/
def expandReference (tools : Tools) : (fuel : Nat) → (opener closer : Char) → List Char →
    Making String
  | 0, _, _, _ => return ""
  | fuel + 1, opener, closer, inside => do
    let name := String.ofList (inside.takeWhile fun c => c.isLower || c = '-')
    let behind := inside.drop name.length
    match (functions.lookup name).filter fun _ => behind.head?.any isGap with
    | some (least, most, expanded) =>
      let arguments := argumentsOf opener closer (if most = 0 then inside.length + 2 else most) 0 []
        (behind.dropWhile isGap)
      if arguments.length < least then
        modify fun m => m.haltAtOrigin s!"insufficient number of arguments ({arguments.length}) to function '{name}'"
        return ""
      else if expanded then
        let texts ← expandAll tools fuel arguments
        apply tools fuel name texts
      else choose tools fuel name arguments
    | none =>
      let text ← if inside.contains '$' then expandChars tools fuel inside
        else pure (String.ofList inside)
      let name := String.ofList (text.toList.takeWhile (· ≠ ':'))
      let change := (text.drop (name.length + 1)).toString
      let pattern := String.ofList (change.toList.takeWhile (· ≠ '='))
      if name.length < text.length && change.contains '=' then
        let replacement := (change.drop (pattern.length + 1)).toString
        let value ← expandVariable tools fuel name
        let (pattern, replacement) := if isPattern pattern then (pattern, replacement)
          else ("%" ++ pattern, "%" ++ replacement)
        return unwords ((words value).map (replaced pattern replacement))
      else expandVariable tools fuel text

def expandAll (tools : Tools) : (fuel : Nat) → List (List Char) → Making (List String)
  | 0, _ => return []
  | _, [] => return []
  | fuel + 1, text :: rest => do
    let text ← expandChars tools fuel text
    return text :: (← expandAll tools fuel rest)

/-- The text that a variable stands for. -/
def expandVariable (tools : Tools) : (fuel : Nat) → String → Making String
  | 0, _ => return ""
  | fuel + 1, name => do
    let m ← get
    match m.find? name, partOf? name with
    | some d, _ =>
      if d.simple then return d.value
      else if m.expanding.contains name then
        modify fun m => { m with origin := d.place <|> m.origin }.haltAtOrigin
          s!"Recursive variable '{name}' references itself (eventually)"
        return ""
      else
        set { m with expanding := name :: m.expanding, origin := d.place <|> m.origin }
        let value ← expandChars tools fuel d.value.toList
        modify fun after => { after with expanding := m.expanding, origin := m.origin }
        return value
    | none, some (whole, front) =>
      let names := words (((m.find? whole).map (·.value)).getD "")
      let directory (name : String) : String :=
        let path := directoryOf name
        if path.endsWith "/" && 1 < path.length then (path.dropEnd 1).toString else path
      return unwords (names.map (if front then directory else fileOf))
    | none, none => return ""

/-- Functions that expand only some of their arguments, or one of them again and again. -/
def choose (tools : Tools) : (fuel : Nat) → (name : String) → List (List Char) → Making String
  | 0, _, _ => return ""
  | fuel + 1, name, arguments => do
    let trimmed (chars : List Char) : List Char := (stripped (String.ofList chars)).toList
    match name, arguments with
    | "if", condition :: yes :: no =>
      let value ← expandChars tools fuel (trimmed condition)
      if value ≠ "" then expandChars tools fuel yes
      else match no with
        | text :: _ => expandChars tools fuel text
        | [] => return ""
    | "or", condition :: rest =>
      let value ← expandChars tools fuel (trimmed condition)
      if value ≠ "" || rest.isEmpty then return value else choose tools fuel "or" rest
    | "and", condition :: rest =>
      let value ← expandChars tools fuel (trimmed condition)
      if value = "" || rest.isEmpty then return value else choose tools fuel "and" rest
    | "foreach", [counter, list, text] =>
      let counter ← expandChars tools fuel counter
      let items ← expandChars tools fuel list
      return unwords (← repeated tools fuel (stripped counter) (words items) text)
    | _, _ => return ""

/-- Expands a text for each item that a variable stands for. -/
def repeated (tools : Tools) : (fuel : Nat) → (counter : String) → List String → List Char →
    Making (List String)
  | 0, _, _, _ => return []
  | _, _, [], _ => return []
  | fuel + 1, counter, item :: rest, text => do
    let scopes := (← get).scopes
    let scope : Scope := [(counter, { value := item, simple := true, origin := .automatic })]
    modify fun m => { m with scopes := scope :: scopes }
    let value ← expandChars tools fuel text
    modify fun m => { m with scopes }
    return value :: (← repeated tools fuel counter rest text)

def apply (tools : Tools) : (fuel : Nat) → (name : String) → List String → Making String
  | 0, _, _ => return ""
  | fuel + 1, name, arguments => do
    let m ← get
    let first := arguments.getD 0 ""
    let number? (ordinal word : String) (least : Int) : Making (Option Nat) := do
      match (stripped word).toInt? with
      | some n =>
        if n < least then
          modify fun m => m.haltAtOrigin (if least = 0 then
              s!"{ordinal} argument to '{name}' function must be greater than or equal to 0"
            else s!"{ordinal} argument to '{name}' function must be greater than 0")
          return none
        else return some n.toNat
      | none =>
        modify fun m => m.haltAtOrigin (if stripped word = "" then
            s!"empty string argument to '{name}' function"
          else s!"non-numeric {ordinal} argument to '{name}' function: '{word}'")
        return none
    match name with
    | "abspath" =>
      return unwords ((words first).map fun path => Process.plainPath (m.process.fromRoot path))
    | "realpath" =>
      return unwords ((words first).filterMap fun path => (m.process.canonical .all path).toOption)
    | "wildcard" => return unwords (wildcard m.process (words first))
    | "call" =>
      let called := stripped first
      match functions.lookup called with
      | some (_, _, true) => apply tools fuel called (arguments.drop 1)
      | some (_, _, false) => choose tools fuel called ((arguments.drop 1).map String.toList)
      | none =>
        let texts := called :: arguments.drop 1
        -- Arguments of a call further out are not seen.
        let outer := (m.scopes.head?.map List.length).getD 0
        let scope : Scope := (List.range (max texts.length outer)).map fun i =>
          (toString i, { value := texts.getD i "", simple := true, origin := .automatic })
        match m.find? called with
        | none => return ""
        | some d =>
          set { m with scopes := scope :: m.scopes, expanding := m.expanding.filter (· ≠ called) }
          let value ← expandChars tools fuel d.value.toList
          modify fun after => { after with scopes := m.scopes, expanding := m.expanding }
          return value
    | "value" => return ((m.find? first).map (·.value)).getD ""
    | "origin" => return ((m.find? first).map (·.origin.name)).getD "undefined"
    | "flavor" =>
      return ((m.find? first).map fun d => if d.simple then "simple" else "recursive").getD "undefined"
    | "word" =>
      match ← number? "first" first 1 with
      | some n => return (words (arguments.getD 1 "")).getD (n - 1) ""
      | none => return ""
    | "wordlist" =>
      match ← number? "first" first 1 with
      | none => return ""
      | some start =>
        match ← number? "second" (arguments.getD 1 "") 0 with
        | some last => return unwords (((words (arguments.getD 2 "")).take last).drop (start - 1))
        | none => return ""
    | "info" =>
      modify fun m => m.say (first ++ "\n")
      return ""
    | "warning" =>
      modify fun m => m.warn first
      return ""
    | "error" =>
      modify fun m => m.halt first
      return ""
    | "eval" =>
      let branches := m.branches
      let reading := m.reading
      set { m with branches := [], reading := none }
      tools.evaluate first
      modify fun m => { m with branches, reading }
      return ""
    | "shell" => shellText tools first
    | "file" =>
      let target := stripped first
      let (mode, path) := if target.startsWith ">>" then (some OpenMode.appending, target.drop 2)
        else if target.startsWith ">" then (some OpenMode.writing, target.drop 1)
        else (none, target.drop 1)
      let path := stripped path.toString
      match mode with
      | none =>
        match m.process.readFile path with
        | .ok text => return if text.endsWith "\n" then (text.dropEnd 1).toString else text
        | .error _ => return ""
      | some mode =>
        let text := match arguments.drop 1 with
          | [] => ""
          | texts =>
            let text := ",".intercalate texts
            if text.endsWith "\n" then text else text ++ "\n"
        match m.process.openPath mode path with
        | .error fault =>
          modify fun m => m.halt s!"open: {path}: {Process.faultText fault}"
          return ""
        | .ok (opened, place) =>
          match ({ opened with descriptors := [(3, place)] }).write 3 text with
          | .ok after => set { m with process := opened.adopt after }
          | .error fault => modify fun m => m.halt s!"write: {path}: {Process.faultText fault}"
          return ""
    | _ => return textFunction name arguments

end

/-- Fuel for long texts. -/
def expansionFuel : Nat := 100000

def expand (tools : Tools) (text : String) : Making String :=
  if text.contains '$' then expandChars tools expansionFuel text.toList else return text

end ColdBuild.Make
