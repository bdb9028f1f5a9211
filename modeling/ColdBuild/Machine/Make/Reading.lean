import ColdBuild.Machine.Make.Expansion

/-!
# Reading makefiles

A makefile sets variables and has rules. Commands stand behind a tab below the rule they belong to.
Lines may depend on conditions, may stand in other files, and go on behind a backslash at their
end.
-/

namespace ColdBuild.Make

/-! ## Lines -/

/-- How many backslashes a line ends with. -/
def endingMarks (line : String) : Nat := (line.toList.reverse.takeWhile (· = '\\')).length

/-- Lines with those joined that go on; each with its number. -/
def joinedLines : (number : Nat) → (held : Option (Nat × String)) → List String → List (Nat × String)
  | _, held, [] => held.toList
  | number, held, line :: rest =>
    let (start, text) := match held with
      | some (start, front) => (start, front ++ "\n" ++ line)
      | none => (number, line)
    if endingMarks line % 2 = 1 then joinedLines (number + 1) (some (start, text)) rest
    else (start, text) :: joinedLines (number + 1) none rest

/-- A line that goes on as a single one: a blank stands for each break, and for what is blank
around it. -/
def flattened : (fuel : Nat) → (written : List Char) → List Char → List Char
  | 0, written, _ | _, written, [] => written.reverse
  | fuel + 1, written, '\\' :: '\n' :: rest =>
    let isBlank (c : Char) : Bool := c = ' ' || c = '\t'
    let marks := (written.takeWhile (· = '\\')).length
    let front := written.drop ((marks + 1) / 2)
    flattened fuel (' ' :: front.dropWhile isBlank) (rest.dropWhile isBlank)
  | fuel + 1, written, c :: rest => flattened fuel (c :: written) rest

/-- What stands before a character outside of brackets behind dollar signs, and what stands behind
it; a backslash takes its meaning away. -/
def cutAt (mark : Char) : (fuel : Nat) → List Char → List Char × Option (List Char)
  | 0, chars => (chars, none)
  | _, [] => ([], none)
  | fuel + 1, '$' :: c :: rest =>
    if c = '(' || c = '{' then
      match closing c (if c = '(' then ')' else '}') 0 rest with
      | some (inside, behind) =>
        let (front, found) := cutAt mark fuel behind
        ('$' :: c :: inside ++ (if c = '(' then ')' else '}') :: front, found)
      | none => ('$' :: c :: rest, none)
    else
      let (front, found) := cutAt mark fuel rest
      ('$' :: c :: front, found)
  | fuel + 1, '\\' :: c :: rest =>
    if c = mark then
      let (front, found) := cutAt mark fuel rest
      (c :: front, found)
    else
      let (front, found) := cutAt mark fuel (c :: rest)
      ('\\' :: front, found)
  | fuel + 1, c :: rest =>
    if c = mark then ([], some rest)
    else
      let (front, found) := cutAt mark fuel rest
      (c :: front, found)

def cut (mark : Char) (text : String) : String × Option String :=
  let (front, behind) := cutAt mark (text.length + 1) text.toList
  (String.ofList front, behind.map String.ofList)

/-- A line without its comment, and without blanks at its front. -/
def plainLine (text : String) : String :=
  withoutFront (cut '#' (String.ofList (flattened (text.length + 1) [] text.toList))).1

def firstWord (line : String) : String × String :=
  let word := line.toList.takeWhile (!isGap ·)
  (String.ofList word, withoutFront (line.drop word.length).toString)

/-! ## Assignments -/

def operator? (chars : List Char) : Option (String × List Char) :=
  match chars with
  | '=' :: rest => some ("=", rest)
  | ':' :: '=' :: rest => some (":=", rest)
  | ':' :: ':' :: '=' :: rest => some (":=", rest)
  | '+' :: '=' :: rest => some ("+=", rest)
  | '?' :: '=' :: rest => some ("?=", rest)
  | '!' :: '=' :: rest => some ("!=", rest)
  | _ => none

/-- Name, operator and text of a line that sets a variable. -/
def assignmentParts : (fuel : Nat) → (name : List Char) → List Char →
    Option (String × String × String)
  | 0, _, _ | _, _, [] => none
  | fuel + 1, name, c :: rest =>
    let finish (found : String × List Char) : String × String × String :=
      (String.ofList name.reverse, found.1, withoutFront (String.ofList found.2))
    match operator? (c :: rest) with
    | some found => some (finish found)
    | none =>
      if isGap c then (operator? (rest.dropWhile isGap)).map finish
      else if c = ':' then none
      else match c, rest with
        | '$', opener :: more =>
          if opener = '(' || opener = '{' then do
            let closer := if opener = '(' then ')' else '}'
            let (inside, behind) ← closing opener closer 0 more
            assignmentParts fuel (closer :: inside.reverse ++ opener :: '$' :: name) behind
          else assignmentParts fuel (opener :: '$' :: name) more
        | _, _ => assignmentParts fuel (c :: name) rest

def assignment? : (fuel : Nat) → Assignment → String → Option Assignment
  | 0, _, _ => none
  | fuel + 1, a, line =>
    match assignmentParts (line.length + 1) [] line.toList with
    | some (name, operator, value) => some { a with name, operator, value }
    | none =>
      match firstWord line with
      | ("override", rest) => assignment? fuel { a with overriding := true } rest
      | ("export", rest) => assignment? fuel { a with exported := some true } rest
      | ("unexport", rest) => assignment? fuel { a with exported := some false } rest
      | ("private", rest) => assignment? fuel a rest
      | _ => none

/-- The definition that an assignment makes of an old one; none if nothing changes. -/
def redefined (tools : Tools) (a : Assignment) (old : Option Definition) : Making (Option Definition) := do
  let origin : Origin := if a.overriding then .override else .file
  let place := (← get).place
  let made (value : String) (simple : Bool) : Option Definition :=
    some { value, simple, origin, exported := a.exported, place }
  match a.operator with
  | ":=" => return made (← expand tools a.value) true
  | "?=" => return if old.isSome then none else made a.value false
  | "!=" =>
    let command ← expand tools a.value
    return made (← shellText tools command) false
  | "+=" =>
    match old with
    | none => return made a.value false
    | some old =>
      let value ← if old.simple then expand tools a.value else pure a.value
      return made (if old.value = "" then value else old.value ++ " " ++ value) old.simple
  | _ => return made a.value false

/-- Letters of options in the variable that holds them. -/
def flagLetters (text : String) : List Char :=
  match words text with
  | [] => []
  | first :: rest =>
    let letters (word : String) : List Char :=
      if word.startsWith "--" then
        if ["--silent", "--quiet"].contains word then ['s']
        else if word = "--keep-going" then ['k']
        else if word = "--ignore-errors" then ['i']
        else if ["--just-print", "--dry-run", "--recon"].contains word then ['n'] else []
      else if word.startsWith "-" then word.toList.drop 1
      else []
    (if first.startsWith "-" || first.contains '=' then letters first else first.toList) ++
      (rest.takeWhile (· ≠ "--")).flatMap letters

def perform (tools : Tools) (a : Assignment) : Making Unit := do
  let name := stripped (← expand tools a.name)
  if name = "" then modify fun m => m.halt "empty variable name"
  else
    let old := (← get).globals.lookup name
    match ← redefined tools a old with
    | none => return
    | some d => modify fun m =>
      let m := m.define name d
      if name = "MAKEFLAGS" then
        let letters := (flagLetters d.value).filter fun c => "sknitqrReBwd".toList.contains c
        { m with options := { m.options with letters := m.options.letters ++ letters } }
      else m

/-! ## Rules -/

/-- The suffixes that rules for suffixes are made of. -/
def knownSuffixes : List String :=
  [".out", ".a", ".ln", ".o", ".c", ".cc", ".C", ".cpp", ".p", ".f", ".F", ".m", ".r", ".y", ".l",
    ".ym", ".yl", ".s", ".S", ".mod", ".sym", ".def", ".h", ".info", ".dvi", ".tex", ".texinfo",
    ".texi", ".txinfo", ".w", ".ch", ".web", ".sh", ".elc", ".el"]

def addClause (m : Maker) (rule : OpenRule) (name : String) (clause : Clause) : Maker :=
  let m := if name.startsWith "." && !name.contains '/' then
      { m with specials := m.specials ++ [(name, clause.prerequisites)] }
    else m
  let m := if name = ".DEFAULT" && clause.recipe.isSome then { m with defaultClause := some clause }
    else m
  let m := if name = ".EXPORT_ALL_VARIABLES" then { m with exportsAll := true } else m
  match (m.target? name).getD { name } with
  | old =>
    let isSingle := old.isTarget && old.independent.isEmpty
    if rule.independent && isSingle || !rule.independent && !old.independent.isEmpty then
      { m with place := some rule.place }.halt s!"target file '{name}' has both : and :: entries"
    else if rule.independent then
      m.updateTarget name fun t =>
        { t with isTarget := true, independent := t.independent ++ [clause] }
    else
      let m := match old.clause.recipe, clause.recipe with
        | some before, some recipe =>
          let line := (recipe.lines.head?.map Prod.fst).getD rule.place.line
          let lineBefore := (before.lines.head?.map Prod.fst).getD rule.place.line
          (m.complain s!"{recipe.file}:{line}: warning: overriding recipe for target '{name}'\n").complain
            s!"{before.file}:{lineBefore}: warning: ignoring old recipe for target '{name}'\n"
        | _, _ => m
      m.updateTarget name fun t =>
        let joined (old new : List String) : List String :=
          if clause.recipe.isSome then new ++ old else old ++ new
        { t with
          isTarget := true
          clause := {
            prerequisites := joined t.clause.prerequisites clause.prerequisites
            orderOnly := joined t.clause.orderOnly clause.orderOnly
            recipe := clause.recipe <|> t.clause.recipe
            stem := if clause.stem = "" then t.clause.stem else clause.stem } }

def closeRule : Making Unit := do
  let m ← get
  match m.reading with
  | none => return
  | some rule =>
    let recipe : Option Recipe :=
      if rule.hasRecipe then some ⟨rule.place.file, rule.lines⟩ else none
    let clause := { rule.clause with recipe }
    let m := { m with reading := none }
    match rule.pattern with
    | none =>
      if rule.targets.any isPattern then
        set { m with patternRules := m.patternRules ++ [(⟨rule.targets, clause⟩ : PatternRule)] }
      else set (rule.targets.foldl (fun m name => addClause m rule name clause) m)
    | some pattern =>
      set (rule.targets.foldl (fun (m : Maker) name =>
        match stem? pattern name with
        | none =>
          m.complain (s!"{rule.place.file}:{rule.place.line}: " ++
            s!"target '{name}' doesn't match the target pattern\n")
        | some stem =>
          let filled (names : List String) : List String := names.map fun name =>
            if isPattern name then withStem name stem else name
          addClause m rule name { clause with
            prerequisites := filled clause.prerequisites
            orderOnly := filled clause.orderOnly
            stem }) m)

/-- Words before and behind a bar. -/
def withOrderOnly (names : List String) : List String × List String :=
  (names.takeWhile (· ≠ "|"), (names.dropWhile (· ≠ "|")).drop 1)

/-- Takes a target as the one that is made if none is named. -/
def offerGoal (m : Maker) (names : List String) : Maker :=
  let chosen := ((m.globals.lookup ".DEFAULT_GOAL").map (·.value)).getD ""
  match names.find? fun name => !(name.startsWith "." && !name.contains '/') && !isPattern name with
  | some name =>
    if chosen = "" then
      { m with globals := Maker.put m.globals ".DEFAULT_GOAL" { value := name, simple := true } }
    else m
  | none => m

/-- Reads a rule, up to its commands: targets, whether two colons stand behind them, and what stands
behind the colons. -/
def readRule (tools : Tools) (place : Place) (line : String) : Making Unit := do
  let (front, behind) := cut ':' line
  let (front, behind) ← match behind with
    | some behind => pure (← expand tools front, some behind)
    | none => do
      let whole ← expand tools line
      pure (cut ':' whole)
  match behind with
  | none =>
    if stripped front ≠ "" then
      modify fun m => m.halt (if line.startsWith "        " then
          "missing separator (did you mean TAB instead of 8 spaces?)" else "missing separator")
  | some behind =>
    let independent := behind.startsWith ":"
    let behind := if independent then (behind.drop 1).toString else behind
    let front := if front.endsWith "&" then (front.dropEnd 1).toString else front
    let targets := globbed (← get).process (words front)
    match assignment? 9 ⟨"", "", "", false, none⟩ (withoutFront behind) with
    | some a =>
      modify fun m => targets.foldl (fun m name =>
        if isPattern name then { m with patternAssignments := m.patternAssignments ++ [(name, a)] }
        else m.updateTarget name fun t => { t with assignments := t.assignments ++ [a] }) m
    | none =>
      let (text, command) := cut ';' behind
      let text ← expand tools text
      let (first, rest) := cut ':' text
      let lines := (command.map fun command => (place.line, withoutFront command)).toList
      let start (targets : List String) (clause : Clause) : OpenRule :=
        { targets, clause, independent, place, lines, hasRecipe := command.isSome }
      let m ← get
      match rest with
      | none =>
        let names := globbed m.process (words text)
        let (prerequisites, orderOnly) := withOrderOnly names
        set { offerGoal m targets with
          reading := some (start targets { prerequisites, orderOnly }) }
      | some patterns =>
        -- Each target has a stem of its own, and so a rule of its own.
        let pattern := (words first).headD ""
        let (prerequisites, orderOnly) := withOrderOnly (words patterns)
        set { offerGoal m targets with
          reading := some { start targets { prerequisites, orderOnly } with
            pattern := some pattern } }

/-! ## Conditions -/

/-- The two texts that a condition compares. -/
def comparands (rest : String) : Option (String × String) :=
  match rest.toList with
  | '(' :: inside => do
    let (whole, _) ← closing '(' ')' 0 inside
    match argumentsOf '(' ')' 2 0 [] whole with
    | [first, second] =>
      some (String.ofList (first.reverse.dropWhile isGap).reverse,
        withoutFront (String.ofList second))
    | _ => none
  | quote :: inside =>
    if quote ≠ '"' && quote ≠ '\'' then none
    else
      let first := inside.takeWhile (· ≠ quote)
      match (inside.drop (first.length + 1)).dropWhile isGap with
      | second :: more =>
        if (second = '"' || second = '\'') && more.contains second then
          some (String.ofList first, String.ofList (more.takeWhile (· ≠ second)))
        else none
      | [] => none
  | [] => none

def condition (tools : Tools) (kind rest : String) : Making (Option Bool) := do
  if kind = "ifdef" || kind = "ifndef" then
    let name := stripped (← expand tools rest)
    if name.toList.any isGap || name = "" then return none
    else
      let defined := (((← get).find? name).map (·.value)).getD "" ≠ ""
      return some (defined = (kind = "ifdef"))
  else
    match comparands rest with
    | none => return none
    | some (first, second) =>
      let first ← expand tools first
      let second ← expand tools second
      return some ((first = second) = (kind = "ifeq"))

def conditionWords : List String := ["ifdef", "ifndef", "ifeq", "ifneq"]

/-- Reads a line that begins, turns or ends a condition; whether it is one. -/
def readCondition (tools : Tools) (line : String) : Making Bool := do
  let m ← get
  let isActive := m.branches.all (·.active)
  let invalid : Making Bool := do
    modify fun m => m.halt "invalid syntax in conditional"
    return true
  let split (line : String) : String × String :=
    let word := String.ofList (line.toList.takeWhile fun c => c.isLower)
    (word, withoutFront (line.drop word.length).toString)
  let (word, rest) := split line
  if conditionWords.contains word && !(rest.startsWith "=" || rest.startsWith ":") then
    if !isActive then
      set { m with branches := ⟨false, true, false⟩ :: m.branches }
      return true
    else
      match ← condition tools word rest with
      | some holds =>
        modify fun m => { m with branches := ⟨holds, holds, false⟩ :: m.branches }
        return true
      | none => invalid
  else if word = "else" && (rest = "" || conditionWords.contains (split rest).1) then
    match m.branches with
    | [] =>
      set (m.halt "extraneous 'else'")
      return true
    | branch :: outer =>
      if branch.last then
        set (m.halt "only one 'else' per conditional")
        return true
      else if rest = "" then
        set { m with branches := ⟨!branch.taken, true, true⟩ :: outer }
        return true
      else if branch.taken then
        set { m with branches := ⟨false, true, false⟩ :: outer }
        return true
      else
        let (kind, rest) := split rest
        match ← condition tools kind rest with
        | some holds =>
          modify fun m => { m with branches := ⟨holds, holds, false⟩ :: outer }
          return true
        | none => invalid
  else if word = "endif" && rest = "" then
    match m.branches with
    | [] =>
      set (m.halt "extraneous 'endif'")
      return true
    | _ :: outer =>
      set { m with branches := outer }
      return true
  else return false

/-! ## Files -/

/-- Reads a line inside of a text of several lines. -/
def collect (tools : Tools) (a : Assignment) (lines : List String) (depth : Nat) (start : Place)
    (raw : String) : Making Unit := do
  let (word, rest) := firstWord (plainLine raw)
  let m ← get
  if word = "endef" && depth = 0 then
    set { m with collecting := none }
    if a.name ≠ "" then perform tools { a with value := "\n".intercalate lines.reverse }
  else
    let depth := if word = "endef" then depth - 1
      else if word = "define" && rest ≠ "" then depth + 1 else depth
    set { m with collecting := some (a, raw :: lines, depth, start) }

def beginCollecting (tools : Tools) (a : Assignment) (place : Place) (rest : String) :
    Making Unit := do
  let (name, operator) := match assignmentParts (rest.length + 1) [] rest.toList with
    | some (name, operator, _) => (name, operator)
    | none => (stripped rest, "=")
  let name ← expand tools name
  modify fun m => { m with collecting := some ({ a with name, operator }, [], 0, place) }

def readLine (tools : Tools) (enter : String → Bool → Making Unit) (place : Place) (raw : String) :
    Making Unit := do
  modify fun m => { m with place := some place }
  let m ← get
  match m.collecting with
  | some (a, lines, depth, start) => collect tools a lines depth start raw
  | none =>
    let isActive := m.branches.all (·.active)
    let mark := (((m.globals.lookup ".RECIPEPREFIX").map (·.value)).getD "").toList.head?.getD '\t'
    match m.reading, raw.toList with
    | some rule, c :: command =>
      if c = mark then
        -- Of lines that go on, only the mark of commands is left out.
        let command := (String.ofList command).replace (String.ofList ['\n', mark]) "\n"
        if isActive then
          set { m with reading := some { rule with
            lines := rule.lines ++ [(place.line, command)], hasRecipe := true } }
      else readOther isActive
    | _, _ => readOther isActive
where
  /-- Reads a line that holds no command. -/
  readOther (isActive : Bool) : Making Unit := do
    let line := plainLine raw
    if stripped line = "" then return
    else if ← readCondition tools line then return
    else
      let (word, rest) := firstWord line
      let given : Assignment := ⟨"", "", "", false, none⟩
      if !isActive then
        if word = "define" || (word = "override" && (firstWord rest).1 = "define") then
          modify fun m => { m with collecting := some (given, [], 0, place) }
        else return
      else
        match assignment? 9 given line with
        | some a =>
          closeRule
          perform tools a
        | none =>
          if word = "define" || ((word = "override" || word = "export") && (firstWord rest).1 = "define")
          then
            closeRule
            let a := { given with
              overriding := word = "override"
              exported := if word = "export" then some true else none }
            beginCollecting tools a place (if word = "define" then rest else (firstWord rest).2)
          else if word = "undefine" then
            closeRule
            let name := stripped (← expand tools rest)
            modify fun m => { m with globals := m.globals.filter (·.1 ≠ name) }
          else if word = "export" || word = "unexport" then
            closeRule
            let names := words (← expand tools rest)
            modify fun m =>
              if rest = "" then { m with exportsAll := word = "export" }
              else names.foldl (fun m name =>
                let d := (m.globals.lookup name).getD { value := "" }
                let d := { d with exported := some (word = "export") }
                { m with globals := Maker.put m.globals name d }) m
          else if ["include", "-include", "sinclude"].contains word then
            closeRule
            let names := globbed (← get).process (words (← expand tools rest))
            names.forM fun name => enter name (word = "include")
          else if word = "vpath" || word = "load" || word = "-load" then closeRule
          else if raw.startsWith "\t" && (cut ':' line).2.isNone && !line.contains '$' then
            modify fun m => m.halt "recipe commences before first target"
          else
            closeRule
            readRule tools place (if raw.startsWith "        " then "        " ++ line else line)

/-- How deep makefiles may hold each other. -/
def includeDepth : Nat := 100

/-- Reads a text of a makefile. Lines that are made while others are read count as being where those
are. -/
def readText (execute : Executor) : (depth : Nat) → (file : String) → (fixed : Option Place) →
    String → Making Unit
  | 0, _, _, _ => return
  | depth + 1, file, fixed, text => do
    let lines := joinedLines 1 none (linesOf text)
    let outer := (← get).branches
    modify fun m => { m with branches := [] }
    let enter (name : String) (needed : Bool) : Making Unit := do
      let m ← get
      let candidates := name :: (if name.startsWith "/" then []
        else m.options.includes.map fun directory => FilePath.join directory name)
      match candidates.findSome? fun path =>
          ((m.process.readFile path).toOption).map fun text => (path, text) with
      | some (path, text) =>
        let list := ((m.globals.lookup "MAKEFILE_LIST").map (·.value)).getD ""
        let list := if list = "" then path else list ++ " " ++ path
        set { m with
          makefiles := m.makefiles ++ [path]
          globals := Maker.put m.globals "MAKEFILE_LIST" { value := list, simple := true } }
        readText execute depth path none text
        modify fun after => { after with place := m.place }
      | none => set { m with missing := m.missing ++ [(name, needed, m.place)] }
    lines.forM fun (number, raw) => do
      let m ← get
      if m.stopped.isSome then return
      else
        let place := fixed.getD ⟨file, number⟩
        let tools : Tools := {
          execute
          evaluate := fun text => readText execute depth file (some place) text }
        readLine tools enter place raw
    closeRule
    let m ← get
    if m.stopped.isNone then
      if let some (_, _, _, start) := m.collecting then
        set ({ m with place := some start }.halt "missing 'endef', unterminated 'define'")
      else if !m.branches.isEmpty then
        let line := (linesOf text).length + 1
        set ({ m with place := some (fixed.getD ⟨file, line⟩) }.halt "missing 'endif'")
    modify fun m => { m with branches := outer }

end ColdBuild.Make
