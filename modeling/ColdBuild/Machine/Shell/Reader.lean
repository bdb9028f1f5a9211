import ColdBuild.Machine.Shell.Syntax

/-!
# Reading scripts

A script is read line by line: a line is what is run before the next one is read, so what is
wrong with a line does not keep the lines before it from being run. Words, commands and the
commands inside words are read by one function each, which all take fuel; as each call but a few
uses up a character, a multiple of the number of characters is always enough.

A document behind a command begins on the next line. Where an operator asks for one, it gets a
number, and its text is read at the end of the line.
-/

namespace ColdBuild.Shell

def isNameStart (c : Char) : Bool := c.isAlpha || c = '_'
def isNameChar (c : Char) : Bool := c.isAlphanum || c = '_'

def isName (text : List Char) : Bool :=
  match text with
  | [] => false
  | c :: rest => isNameStart c && rest.all isNameChar

/-- A parameter with a name of one character that is no letter. -/
def isSpecialParameter (c : Char) : Bool := "@*#?-$!0123456789".toList.contains c

def backquote : Char := Char.ofNat 96

/-- What is wrong with a script, and in which line. -/
structure SyntaxFault where
  line : Nat
  message : String
  deriving DecidableEq

/-- A document that is still to be read. -/
structure PendingDocument where
  number : Nat
  delimiter : List Char
  quoted : Bool
  /-- Tabs at the beginning of its lines do not count. -/
  indented : Bool

structure Source where
  rest : List Char
  line : Nat := 1
  pending : List PendingDocument := []
  /-- The documents that have been read. -/
  documents : List (Nat × Word) := []
  nextDocument : Nat := 0

namespace Source

/-- The source with so many lines passed. -/
def moved (source : Source) (rest : List Char) (lines : Nat) : Source :=
  { source with rest, line := source.line + lines }

/-- Joins lines that a backslash continues, at the front. -/
def joined (source : Source) : Source :=
  go source.rest.length source
where
  go : Nat → Source → Source
    | 0, source => source
    | fuel + 1, source =>
      match source.rest with
      | '\\' :: '\n' :: rest => go fuel (source.moved rest 1)
      | _ => source

/-- Goes to the next part of a line: over blanks, joined lines and a comment. -/
def toPart (source : Source) : Source :=
  go source.rest.length source
where
  go : Nat → Source → Source
    | 0, source => source
    | fuel + 1, source =>
      match source.rest with
      | '\\' :: '\n' :: rest => go fuel (source.moved rest 1)
      | ' ' :: rest | '\t' :: rest => go fuel { source with rest }
      | '#' :: rest => { source with rest := rest.dropWhile (· ≠ '\n') }
      | _ => source

end Source

/-- Where a word is read. -/
inductive Quoting where
  /-- Outside of quotes: blanks and operators end the word. -/
  | plain
  /-- Between double quotes. -/
  | double
  /-- Behind a parameter in braces, up to the closing one. -/
  | brace
  /-- The same between double quotes. -/
  | braceInDouble
  /-- In a document. -/
  | document
  /-- In an arithmetic expression, with so many brackets open. -/
  | arithmetic (depth : Nat)
  deriving DecidableEq

namespace Quoting

def isQuoted : Quoting → Bool
  | .plain | .brace => false
  | _ => true

/-- A single quote begins quoted text. -/
def knowsSingleQuotes (quoting : Quoting) : Bool := !quoting.isQuoted

/-- A backslash before this character is taken away. -/
def isEscapable (quoting : Quoting) (c : Char) : Bool :=
  c = '$' || c = '\\' || c = backquote || (c = '"' && quoting ≠ .document) ||
    (c = '\x7d' && quoting = .braceInDouble)

end Quoting

/-- Ends a word outside of quotes. -/
def isBreak (c : Char) : Bool :=
  c = ' ' || c = '\t' || c = '\n' || c = ';' || c = '&' || c = '|' || c = '<' || c = '>' ||
    c = '(' || c = ')'

/-- Joins neighbouring texts of one kind. -/
def joinPieces : Word → Word
  | [] => []
  | .text a quoted :: rest =>
    match joinPieces rest with
    | .text b other :: rest =>
      if quoted = other then .text (a ++ b) quoted :: rest
      else .text a quoted :: .text b other :: rest
    | rest => .text a quoted :: rest
  | piece :: rest => piece :: joinPieces rest

/-- The pieces between double quotes, the last one first, without the empty text that they begin
with if all of them is the list of arguments: that may be no field at all. -/
def withoutMark (inside : Word) : Word :=
  match inside with
  | [.parameter name form word quoted, .text [] true] =>
    if name = "@" && form = .value then [.parameter name form word quoted] else inside
  | _ => inside

/-- The assignment a word is, if it is one. -/
def assignment? : Word → Option (String × Word)
  | .text chars false :: rest =>
    let name := chars.takeWhile (· ≠ '=')
    let value := chars.drop (name.length + 1)
    if isName name && name.length < chars.length then
      some (String.ofList name, if value.isEmpty then rest else .text value false :: rest)
    else none
  | _ => none

/-- The words with a meaning of their own where a command begins. -/
def reservedWords : List String :=
  ["!", "case", "do", "done", "elif", "else", "esac", "fi", "for", "if", "in", "then", "until",
    "while", "\x7b", "\x7d"]

inductive Token where
  | word (word : Word)
  | redirect (descriptor : Option Nat) (operator : String)
  | symbol (text : String)
  | lineEnd
  | finished

/-- The reserved word a token is, if it is one. -/
def Token.reserved? : Token → Option String
  | .word pieces => (Word.bare? pieces).map String.ofList |>.filter reservedWords.contains
  | _ => none

/-- The token as it is shown in a message. -/
def Token.shown (token : Token) : String :=
  match token, token.reserved? with
  | _, some text | .symbol text, none => s!"\"{text}\""
  | .word _, none => "word"
  | .redirect .., none => "redirection"
  | .lineEnd, none => "newline"
  | .finished, none => "end of file"

def redirectOperator? (chars : List Char) : Option (String × List Char) :=
  match chars with
  | '>' :: '>' :: rest => some (">>", rest)
  | '>' :: '&' :: rest => some (">&", rest)
  | '>' :: '|' :: rest => some (">|", rest)
  | '>' :: rest => some (">", rest)
  | '<' :: '<' :: '-' :: rest => some ("<<-", rest)
  | '<' :: '<' :: rest => some ("<<", rest)
  | '<' :: '&' :: rest => some ("<&", rest)
  | '<' :: '>' :: rest => some ("<>", rest)
  | '<' :: rest => some ("<", rest)
  | _ => none

def symbol? (chars : List Char) : Option (String × List Char) :=
  match chars with
  | '&' :: '&' :: rest => some ("&&", rest)
  | '|' :: '|' :: rest => some ("||", rest)
  | ';' :: ';' :: rest => some (";;", rest)
  | ';' :: rest => some (";", rest)
  | '&' :: rest => some ("&", rest)
  | '|' :: rest => some ("|", rest)
  | '(' :: rest => some ("(", rest)
  | ')' :: rest => some (")", rest)
  | _ => none

/-- The lines of a document up to its delimiter, and what is left. -/
def documentLines (pending : PendingDocument) : (fuel : Nat) → (found : List Char) → List Char →
    List Char × List Char
  | 0, found, rest => (found, rest)
  | fuel + 1, found, rest =>
    if rest.isEmpty then (found, [])
    else
      let line := rest.takeWhile (· ≠ '\n')
      let behind := rest.drop (line.length + 1)
      let line := if pending.indented then line.dropWhile (· = '\t') else line
      if line = pending.delimiter then (found, behind)
      else documentLines pending fuel (found ++ line ++ ['\n']) behind

/-- What comes behind the name of a parameter in braces. -/
def parameterForm (chars : List Char) : ParameterForm × List Char :=
  let (colon, behind) := match chars with
    | ':' :: rest => (true, rest)
    | _ => (false, chars)
  match behind with
  | '-' :: rest => (.other colon, rest)
  | '=' :: rest => (.assigned colon, rest)
  | '?' :: rest => (.demanded colon, rest)
  | '+' :: rest => (.replaced colon, rest)
  | '#' :: '#' :: rest => (if colon then .malformed else .withoutFront true, rest)
  | '#' :: rest => (if colon then .malformed else .withoutFront false, rest)
  | '%' :: '%' :: rest => (if colon then .malformed else .withoutEnd true, rest)
  | '%' :: rest => (if colon then .malformed else .withoutEnd false, rest)
  | '\x7d' :: rest => if colon then (.malformed, rest) else (.value, behind)
  | rest => (.malformed, rest.drop 1)

/-- Reads the name of a parameter in braces; whether its length is meant. -/
def bracedName (chars : List Char) : Option (List Char × Bool × List Char) :=
  let named (length : Bool) (chars : List Char) : Option (List Char × Bool × List Char) :=
    match chars with
    | [] => none
    | c :: rest =>
      if isNameStart c then
        let name := chars.takeWhile isNameChar
        some (name, length, chars.drop name.length)
      else if c.isDigit then
        let name := chars.takeWhile Char.isDigit
        some (name, length, chars.drop name.length)
      else if isSpecialParameter c then some ([c], length, rest)
      else none
  match chars with
  | '#' :: '\x7d' :: _ => some (['#'], false, chars.drop 1)
  | '#' :: c :: rest =>
    if isNameStart c || c.isDigit then named true (c :: rest)
    else if isSpecialParameter c && rest.head? = some '\x7d' then some ([c], true, rest)
    else some (['#'], false, c :: rest)
  | _ => named false chars

/-- Unquoted words for which a list of commands ends. -/
def endsList (token : Token) : Bool :=
  match token, token.reserved? with
  | .finished, _ | .symbol ")", _ | .symbol ";;", _ => true
  | _, some word =>
    ["do", "done", "elif", "else", "esac", "fi", "then", "\x7d"].contains word
  | _, none => false

/-- The builtin commands that no function can be called like. -/
def specialBuiltins : List String :=
  [".", ":", "break", "continue", "eval", "exec", "exit", "export", "local", "readonly", "return",
    "set", "shift", "times", "trap", "unset"]

/-- What a list of commands is. -/
inductive ListKind where
  /-- One line. -/
  | line
  /-- Commands up to a token that ends them, which there may be none of. -/
  | block
  /-- The same, but at least one. -/
  | filled
  deriving DecidableEq

mutual

/-- Reads the pieces of a word, the last one first. -/
def readPieces (fuel : Nat) (quoting : Quoting) (found : Word) (source : Source) :
    Except SyntaxFault (Word × Source) :=
  match fuel with
  | 0 => .error ⟨source.line, "Word too long"⟩
  | fuel + 1 =>
    let char (c : Char) (quoted : Bool) (rest : List Char) : Except SyntaxFault (Word × Source) :=
      readPieces fuel quoting (.text [c] quoted :: found)
        (source.moved rest (if c = '\n' then 1 else 0))
    match source.rest with
    | [] =>
      match quoting with
      | .plain | .document => .ok (found, source)
      | .double => .error ⟨source.line, "Syntax error: Unterminated quoted string"⟩
      | .brace | .braceInDouble => .error ⟨source.line, "Syntax error: Missing '\x7d'"⟩
      | .arithmetic _ => .error ⟨source.line, "Syntax error: Missing '))'"⟩
    | '\\' :: '\n' :: rest => readPieces fuel quoting found (source.moved rest 1)
    | '\\' :: c :: rest =>
      if !quoting.isQuoted then char c true rest
      else if quoting.isEscapable c then char c true rest
      else readPieces fuel quoting (.text ['\\', c] true :: found)
        (source.moved rest (if c = '\n' then 1 else 0))
    | '$' :: rest => do
      let (piece, source) ← readDollar fuel quoting (source.moved rest 0)
      readPieces fuel quoting (piece :: found) source
    | c :: rest =>
      if c = backquote then do
        let (piece, source) ← readBackquoted fuel quoting (source.moved rest 0)
        readPieces fuel quoting (piece :: found) source
      else if c = '\'' && quoting.knowsSingleQuotes then
        let inside := rest.takeWhile (· ≠ '\'')
        if inside.length = rest.length then
          .error ⟨source.line, "Syntax error: Unterminated quoted string"⟩
        else readPieces fuel quoting (.text inside true :: found)
          (source.moved (rest.drop (inside.length + 1)) (inside.count '\n'))
      else if c = '"' then
        match quoting with
        | .double => .ok (found, source.moved rest 0)
        | .plain | .brace | .braceInDouble => do
          let (inside, source) ← readPieces fuel .double [.text [] true] (source.moved rest 0)
          let inside := if quoting = .braceInDouble then inside else withoutMark inside
          readPieces fuel quoting (inside ++ found) source
        | .document | .arithmetic _ => char c true rest
      else
        match quoting with
        | .plain => if isBreak c then .ok (found, source) else char c false rest
        | .brace => if c = '\x7d' then .ok (found, source.moved rest 0) else char c false rest
        | .braceInDouble => if c = '\x7d' then .ok (found, source.moved rest 0) else char c true rest
        | .arithmetic depth =>
          if c = '(' then
            readPieces fuel (.arithmetic (depth + 1)) (.text [c] true :: found) (source.moved rest 0)
          else if c = ')' && depth = 0 then
            match (source.moved rest 0).joined.rest with
            | ')' :: rest => .ok (found, source.moved rest 0)
            | _ => char c true rest
          else if c = ')' then
            readPieces fuel (.arithmetic (depth - 1)) (.text [c] true :: found) (source.moved rest 0)
          else char c true rest
        | .double | .document => char c true rest

def readDollar (fuel : Nat) (quoting : Quoting) (source : Source) :
    Except SyntaxFault (Piece × Source) :=
  match fuel with
  | 0 => .error ⟨source.line, "Word too long"⟩
  | fuel + 1 =>
    let quoted := quoting.isQuoted
    let source := source.joined
    match source.rest with
    | '(' :: rest =>
      match (source.moved rest 0).joined with
      | { rest := '(' :: rest, .. } => do
        let (inside, source) ← readPieces fuel (.arithmetic 0) [] (source.moved rest 0)
        return (.arithmetic (joinPieces inside.reverse) quoted, source)
      | inside => do
        let (body, source) ← readList fuel .block inside
        match source.toPart.rest with
        | ')' :: rest => return (.substitution body quoted, source.toPart.moved rest 0)
        | _ =>
          let (token, _) ← readToken fuel source
          throw ⟨source.line, s!"Syntax error: {token.shown} unexpected (expecting \")\")"⟩
    | '\x7b' :: rest =>
      match bracedName rest with
      | none => do
        -- What is in the braces has no meaning, but it is known only when it is needed.
        let (_, source) ← readPieces fuel .braceInDouble [] (source.moved rest 0)
        return (.parameter "" .malformed [] quoted, source)
      | some (name, true, '\x7d' :: rest) =>
        .ok (.parameter (String.ofList name) .length [] quoted, source.moved rest 0)
      | some (name, true, rest) => do
        let (_, source) ← readPieces fuel .braceInDouble [] (source.moved rest 0)
        return (.parameter (String.ofList name) .malformed [] quoted, source)
      | some (name, false, rest) => do
        let (form, rest) := parameterForm rest
        let inside := match form with
          | .withoutFront _ | .withoutEnd _ => .brace
          | _ => if quoted then .braceInDouble else .brace
        let (word, source) ← readPieces fuel inside [] (source.moved rest 0)
        return (.parameter (String.ofList name) form (joinPieces word.reverse) quoted, source)
    | c :: rest =>
      if isNameStart c then
        let name := source.rest.takeWhile isNameChar
        .ok (.parameter (String.ofList name) .value [] quoted,
          source.moved (source.rest.drop name.length) 0)
      else if isSpecialParameter c then
        .ok (.parameter (String.ofList [c]) .value [] quoted, source.moved rest 0)
      else .ok (.text ['$'] quoted, source)
    | [] => .ok (.text ['$'] quoted, source)

/-- Reads a substitution between backquotes, the first of which has been read. -/
def readBackquoted (fuel : Nat) (quoting : Quoting) (source : Source) :
    Except SyntaxFault (Piece × Source) :=
  match fuel with
  | 0 => .error ⟨source.line, "Word too long"⟩
  | fuel + 1 =>
    let rec inside (fuel lines : Nat) (found : List Char) (chars : List Char) :
        Option (List Char × List Char × Nat) :=
      match fuel, chars with
      | 0, _ | _, [] => none
      | fuel + 1, '\\' :: '\n' :: rest => inside fuel (lines + 1) found rest
      | fuel + 1, '\\' :: c :: rest =>
        if c = '\\' || c = backquote || c = '$' || (c = '"' && quoting.isQuoted) then
          inside fuel lines (c :: found) rest
        else inside fuel lines (c :: '\\' :: found) rest
      | fuel + 1, c :: rest =>
        if c = backquote then some (found.reverse, rest, lines)
        else inside fuel (lines + if c = '\n' then 1 else 0) (c :: found) rest
    match inside (source.rest.length + 1) 0 [] source.rest with
    | none => .error ⟨source.line, "Syntax error: EOF in backquote substitution"⟩
    | some (text, rest, lines) => do
      let (body, behind) ← readList fuel .block
        { rest := text, line := source.line, nextDocument := source.nextDocument }
      match behind.toPart.rest with
      | [] =>
        return (.substitution body quoting.isQuoted, { source with
          rest, line := source.line + lines
          documents := behind.documents ++ source.documents
          nextDocument := behind.nextDocument })
      | _ =>
        let (token, _) ← readToken fuel behind
        throw ⟨source.line, s!"Syntax error: {token.shown} unexpected"⟩

/-- Reads the documents that the line which has ended has asked for. -/
def readDocuments (fuel : Nat) (source : Source) : Except SyntaxFault Source :=
  match fuel with
  | 0 => .ok { source with pending := [] }
  | fuel + 1 =>
    match source.pending with
    | [] => .ok source
    | pending :: others => do
      let (text, rest) := documentLines pending (source.rest.length + 1) [] source.rest
      let lines := (source.rest.take (source.rest.length - rest.length)).count '\n'
      let word ← if pending.quoted then pure [.text text true]
        else do
          let (pieces, _) ← readPieces fuel .document []
            { rest := text, line := source.line, nextDocument := source.nextDocument }
          pure (joinPieces pieces.reverse)
      readDocuments fuel { source with
        rest, line := source.line + lines, pending := others
        documents := (pending.number, word) :: source.documents }

def readToken (fuel : Nat) (source : Source) : Except SyntaxFault (Token × Source) :=
  match fuel with
  | 0 => .error ⟨source.line, "Word too long"⟩
  | fuel + 1 =>
    let source := source.toPart
    match source.rest with
    | [] => do
      return (.finished, ← readDocuments fuel source)
    | '\n' :: rest => do
      return (.lineEnd, ← readDocuments fuel (source.moved rest 1))
    | c :: rest =>
      let numbered := if c.isDigit then redirectOperator? rest else none
      match numbered, redirectOperator? source.rest, symbol? source.rest with
      | some (operator, rest), _, _ =>
        .ok (.redirect (some (c.toNat - '0'.toNat)) operator, source.moved rest 0)
      | none, some (operator, rest), _ => .ok (.redirect none operator, source.moved rest 0)
      | none, none, some (symbol, rest) => .ok (.symbol symbol, source.moved rest 0)
      | none, none, none => do
        let (pieces, source) ← readPieces fuel .plain [] source
        return (.word (joinPieces pieces.reverse), source)

/-- Reads the next token that is no line end. -/
def readPastLines (fuel : Nat) (source : Source) : Except SyntaxFault (Token × Source) :=
  match fuel with
  | 0 => .error ⟨source.line, "Word too long"⟩
  | fuel + 1 => do
    match ← readToken fuel source with
    | (.lineEnd, source) => readPastLines fuel source
    | found => return found

def readRedirections (fuel : Nat) (found : List Redirection) (source : Source) :
    Except SyntaxFault (List Redirection × Source) :=
  match fuel with
  | 0 => .ok (found, source)
  | fuel + 1 => do
    match ← readToken fuel source with
    | (.redirect descriptor operator, behind) =>
      let (redirection, source) ← readTarget fuel descriptor operator behind
      readRedirections fuel (redirection :: found) source
    | _ => return (found, source)

/-- Reads what an operator of a redirection is applied to. -/
def readTarget (fuel : Nat) (descriptor : Option Nat) (operator : String) (source : Source) :
    Except SyntaxFault (Redirection × Source) :=
  match fuel with
  | 0 => .error ⟨source.line, "Word too long"⟩
  | fuel + 1 => do
    match ← readToken fuel source with
    | (.word word, behind) =>
      let input := descriptor.getD 0
      let output := descriptor.getD 1
      match operator with
      | ">" => return (.mk output .output word, behind)
      | ">|" => return (.mk output .overwriting word, behind)
      | ">>" => return (.mk output .append word, behind)
      | ">&" => return (.mk output .duplicate word, behind)
      | "<&" => return (.mk input .duplicate word, behind)
      | "<>" => return (.mk input .both word, behind)
      | "<" => return (.mk input .input word, behind)
      | _ =>
        let number := behind.nextDocument
        let quoted := word.bare?.isNone
        let delimiter := word.flatMap fun
          | .text chars _ => chars
          | .parameter name .. => '$' :: name.toList
          | _ => []
        let pending : PendingDocument := ⟨number, delimiter, quoted, operator = "<<-"⟩
        return (.mk input (.document number) [], { behind with
          nextDocument := number + 1, pending := behind.pending ++ [pending] })
    | (token, behind) => throw ⟨behind.line, s!"Syntax error: {token.shown} unexpected"⟩

/-- Reads a list of commands. A line is read up to its end; a block up to a token that ends it,
and if it has to hold something, that is not the first one. -/
def readList (fuel : Nat) (kind : ListKind) (source : Source) :
    Except SyntaxFault (Command × Source) :=
  match fuel with
  | 0 => .error ⟨source.line, "Script too long"⟩
  | fuel + 1 => readListFrom fuel kind true .skip source

def readListFrom (fuel : Nat) (kind : ListKind) (isFirst : Bool) (before : Command)
    (source : Source) : Except SyntaxFault (Command × Source) :=
  match fuel with
  | 0 => .error ⟨source.line, "Script too long"⟩
  | fuel + 1 => do
    let (token, behind) ← if kind = .line then readToken fuel source else readPastLines fuel source
    match token, kind with
    | .lineEnd, _ => return (before, behind)
    | .finished, .line => return (before, behind)
    | .finished, .block => return (before, behind)
    | _, _ =>
      if endsList token && kind ≠ .line && !(isFirst && kind = .filled) then return (before, source)
      else
        let (next, source) ← readAndOr fuel source
        let joined (next : Command) : Command :=
          if before.isSkip then next else .sequence before next
        let (token, behind) ← readToken fuel source
        match token with
        | .symbol "&" => readListFrom fuel kind false (joined (.background next)) behind
        | .symbol ";" => readListFrom fuel kind false (joined next) behind
        | .lineEnd =>
          if kind = .line then return (joined next, behind)
          else readListFrom fuel kind false (joined next) behind
        | .finished => return (joined next, behind)
        | _ =>
          if kind = .line then throw ⟨source.line, s!"Syntax error: {token.shown} unexpected"⟩
          else return (joined next, source)

/-- Reads pipelines joined by conditions. -/
def readAndOr (fuel : Nat) (source : Source) : Except SyntaxFault (Command × Source) :=
  match fuel with
  | 0 => .error ⟨source.line, "Script too long"⟩
  | fuel + 1 => do
    let (first, source) ← readPipeline fuel source
    readConditions fuel first source

/-- Reads conditions behind a pipeline. -/
def readConditions (fuel : Nat) (first : Command) (source : Source) :
    Except SyntaxFault (Command × Source) :=
  match fuel with
  | 0 => .error ⟨source.line, "Script too long"⟩
  | fuel + 1 => do
    match ← readToken fuel source with
    | (.symbol "&&", behind) =>
      let (second, source) ← readPipeline fuel behind
      readConditions fuel (.both first second) source
    | (.symbol "||", behind) =>
      let (second, source) ← readPipeline fuel behind
      readConditions fuel (.either first second) source
    | _ => return (first, source)

def readPipeline (fuel : Nat) (source : Source) : Except SyntaxFault (Command × Source) :=
  match fuel with
  | 0 => .error ⟨source.line, "Script too long"⟩
  | fuel + 1 => do
    let (token, behind) ← readPastLines fuel source
    if token.reserved? = some "!" then
      let (body, source) ← readPipeline fuel behind
      match body with
      | .negated inner => return (inner, source)
      | body => return (.negated body, source)
    else
      let (first, source) ← readCommand fuel source
      let (others, source) ← readPiped fuel [] source
      return (if others.isEmpty then first else .pipeline (first :: others.reverse), source)

/-- Reads the commands behind bars, the last one first. -/
def readPiped (fuel : Nat) (found : List Command) (source : Source) :
    Except SyntaxFault (List Command × Source) :=
  match fuel with
  | 0 => .error ⟨source.line, "Script too long"⟩
  | fuel + 1 => do
    match ← readToken fuel source with
    | (.symbol "|", behind) =>
      let (next, source) ← readCommand fuel behind
      readPiped fuel (next :: found) source
    | _ => return (found, source)

def readCommand (fuel : Nat) (source : Source) : Except SyntaxFault (Command × Source) :=
  match fuel with
  | 0 => .error ⟨source.line, "Script too long"⟩
  | fuel + 1 => do
    let (token, behind) ← readPastLines fuel source
    let line := behind.line
    match token, token.reserved? with
    | _, some "if" =>
      let (command, source) ← readBranches fuel behind
      readClosing fuel line command source
    | _, some "while" =>
      let (command, source) ← readLoop fuel true behind
      readClosing fuel line command source
    | _, some "until" =>
      let (command, source) ← readLoop fuel false behind
      readClosing fuel line command source
    | _, some "for" =>
      let (command, source) ← readFor fuel line behind
      readClosing fuel line command source
    | _, some "case" =>
      let (command, source) ← readCase fuel line behind
      readClosing fuel line command source
    | _, some "\x7b" =>
      let (body, source) ← readList fuel .filled behind
      let source ← readReserved fuel "\x7d" source
      readClosing fuel line body source
    | .symbol "(", _ =>
      let (body, source) ← readList fuel .filled behind
      let (closing, behind) ← readToken fuel source
      match closing with
      | .symbol ")" => readClosing fuel line (.subshell line body) behind
      | token =>
        throw ⟨behind.line, s!"Syntax error: {token.shown} unexpected (expecting \")\")"⟩
    | .word _, none | .redirect .., none => readSimple fuel source
    | token, _ => throw ⟨behind.line, s!"Syntax error: {token.shown} unexpected"⟩

def readReserved (fuel : Nat) (text : String) (source : Source) : Except SyntaxFault Source :=
  match fuel with
  | 0 => .error ⟨source.line, "Script too long"⟩
  | fuel + 1 => do
    let (token, behind) ← readPastLines fuel source
    if token.reserved? = some text then return behind
    else throw ⟨behind.line,
      s!"Syntax error: {token.shown} unexpected (expecting \"{text}\")"⟩

def readClosing (fuel : Nat) (line : Nat) (body : Command) (source : Source) :
    Except SyntaxFault (Command × Source) :=
  match fuel with
  | 0 => .error ⟨source.line, "Script too long"⟩
  | fuel + 1 => do
    let (redirections, source) ← readRedirections fuel [] source
    return (if redirections.isEmpty then body else .redirected line body redirections.reverse,
      source)

/-- Reads a conditional behind its first word. -/
def readBranches (fuel : Nat) (source : Source) : Except SyntaxFault (Command × Source) :=
  match fuel with
  | 0 => .error ⟨source.line, "Script too long"⟩
  | fuel + 1 => do
    let (test, source) ← readList fuel .filled source
    let source ← readReserved fuel "then" source
    let (yes, source) ← readList fuel .filled source
    let (token, behind) ← readPastLines fuel source
    match token.reserved? with
    | some "elif" =>
      let (no, source) ← readBranches fuel behind
      return (.conditional test yes no, source)
    | some "else" =>
      let (no, source) ← readList fuel .filled behind
      return (.conditional test yes no, ← readReserved fuel "fi" source)
    | _ => return (.conditional test yes .skip, ← readReserved fuel "fi" source)

def readLoop (fuel : Nat) (expected : Bool) (source : Source) :
    Except SyntaxFault (Command × Source) :=
  match fuel with
  | 0 => .error ⟨source.line, "Script too long"⟩
  | fuel + 1 => do
    let (test, source) ← readList fuel .filled source
    let source ← readReserved fuel "do" source
    let (body, source) ← readList fuel .filled source
    return (.loop expected test body, ← readReserved fuel "done" source)

/-- Reads words up to one that is none, the last one first. -/
def readWords (fuel : Nat) (found : List Word) (source : Source) :
    Except SyntaxFault (List Word × Source) :=
  match fuel with
  | 0 => .error ⟨source.line, "Script too long"⟩
  | fuel + 1 => do
    match ← readToken fuel source with
    | (.word word, behind) => readWords fuel (word :: found) behind
    | _ => return (found, source)

def readFor (fuel : Nat) (line : Nat) (source : Source) : Except SyntaxFault (Command × Source) :=
  match fuel with
  | 0 => .error ⟨source.line, "Script too long"⟩
  | fuel + 1 => do
    let (token, behind) ← readToken fuel source
    let name := match token with
      | .word word => word.bare?.filter isName
      | _ => none
    match name with
    | none => throw ⟨behind.line, "Syntax error: Bad for loop variable"⟩
    | some name =>
      let (token, inside) ← readPastLines fuel behind
      let (items, source) ← (do
        if token.reserved? = some "in" then
          let (words, source) ← readWords fuel [] inside
          match ← readToken fuel source with
          | (.lineEnd, source) | (.symbol ";", source) => return (words.reverse, source)
          | (token, behind) =>
            throw ⟨behind.line, s!"Syntax error: {token.shown} unexpected"⟩
        else
          let all : List Word := [[.parameter "@" .value [] true]]
          match token with
          | .symbol ";" => return (all, inside)
          | _ => return (all, behind))
      let source ← readReserved fuel "do" source
      let (body, source) ← readList fuel .filled source
      return (.forEach line (String.ofList name) items body, ← readReserved fuel "done" source)

def readCase (fuel : Nat) (line : Nat) (source : Source) : Except SyntaxFault (Command × Source) :=
  match fuel with
  | 0 => .error ⟨source.line, "Script too long"⟩
  | fuel + 1 => do
    match ← readToken fuel source with
    | (.word subject, source) =>
      let source ← readReserved fuel "in" source
      let (arms, source) ← readArms fuel [] source
      return (.choice line subject arms.reverse, source)
    | (token, behind) =>
      throw ⟨behind.line, s!"Syntax error: {token.shown} unexpected (expecting word)"⟩

/-- Reads the arms of a choice and the word behind them, the last arm first. -/
def readArms (fuel : Nat) (found : List (List Word × Command)) (source : Source) :
    Except SyntaxFault (List (List Word × Command) × Source) :=
  match fuel with
  | 0 => .error ⟨source.line, "Script too long"⟩
  | fuel + 1 => do
    let (token, behind) ← readPastLines fuel source
    if token.reserved? = some "esac" then return (found, behind)
    else
      let inside := match token with
        | .symbol "(" => behind
        | _ => source
      let (patterns, source) ← readPatterns fuel [] inside
      let (body, source) ← readList fuel .block source
      let (token, behind) ← readPastLines fuel source
      match token, token.reserved? with
      | _, some "esac" => return ((patterns.reverse, body) :: found, behind)
      | .symbol ";;", _ => readArms fuel ((patterns.reverse, body) :: found) behind
      | token, _ =>
        throw ⟨behind.line, s!"Syntax error: {token.shown} unexpected (expecting \";;\")"⟩

/-- Reads the patterns of an arm and the bracket behind them, the last one first. -/
def readPatterns (fuel : Nat) (found : List Word) (source : Source) :
    Except SyntaxFault (List Word × Source) :=
  match fuel with
  | 0 => .error ⟨source.line, "Script too long"⟩
  | fuel + 1 => do
    match ← readPastLines fuel source with
    | (.word word, source) =>
      match ← readToken fuel source with
      | (.symbol "|", source) => readPatterns fuel (word :: found) source
      | (.symbol ")", source) => return (word :: found, source)
      | (token, behind) =>
        throw ⟨behind.line, s!"Syntax error: {token.shown} unexpected (expecting \")\")"⟩
    | (token, behind) => throw ⟨behind.line, s!"Syntax error: {token.shown} unexpected"⟩

/-- Reads a simple command, or the definition of a function. -/
def readSimple (fuel : Nat) (source : Source) : Except SyntaxFault (Command × Source) :=
  match fuel with
  | 0 => .error ⟨source.line, "Script too long"⟩
  | fuel + 1 => do
    let (token, behind) ← readPastLines fuel source
    let (next, inside) ← readToken fuel behind
    match token, next with
    | .word word, .symbol "(" =>
      let (closing, behind) ← readToken fuel inside
      match closing, word.bare? with
      | .symbol ")", some name =>
        if !isName name || specialBuiltins.contains (String.ofList name) then
          throw ⟨behind.line, "Syntax error: Bad function name"⟩
        else
          let (body, source) ← readCommand fuel behind
          return (.definition (String.ofList name) behind.line body, source)
      | .symbol ")", none => throw ⟨behind.line, "Syntax error: Bad function name"⟩
      | token, _ =>
        throw ⟨behind.line, s!"Syntax error: {token.shown} unexpected (expecting \")\")"⟩
    | _, _ =>
      let line := source.toPart.line
      let ((words, redirections), source) ← readSimpleParts fuel [] [] source
      let words := words.reverse
      let assignments := words.takeWhile fun word => (assignment? word).isSome
      return (.simple line (assignments.filterMap assignment?) (words.drop assignments.length)
        redirections.reverse, source)

/-- Reads the words and redirections of a simple command, the last ones first. -/
def readSimpleParts (fuel : Nat) (words : List Word) (redirections : List Redirection)
    (source : Source) : Except SyntaxFault ((List Word × List Redirection) × Source) :=
  match fuel with
  | 0 => .error ⟨source.line, "Script too long"⟩
  | fuel + 1 => do
    match ← (if words.isEmpty && redirections.isEmpty then readPastLines fuel source
      else readToken fuel source) with
    | (.word word, behind) => readSimpleParts fuel (word :: words) redirections behind
    | (.redirect descriptor operator, behind) =>
      let (redirection, source) ← readTarget fuel descriptor operator behind
      readSimpleParts fuel words (redirection :: redirections) source
    | _ => return ((words, redirections), source)

end

end ColdBuild.Shell
