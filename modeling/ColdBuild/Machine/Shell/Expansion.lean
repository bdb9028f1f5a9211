import ColdBuild.Machine.Shell.Arithmetic
import ColdBuild.Machine.Shell.Pattern
import ColdBuild.Machine.Shell.State

/-!
# Expanding words

A word is expanded from left to right into marks: its characters, of which each knows whether it
is quoted and whether a field may end at it, the ends of fields that lists of arguments bring with
them, and places where a field begins that may stay empty. Then the marks are cut into fields at
the separators, and fields that are patterns stand for the paths they match.

Substitutions are run by a function that is given. Once a fault has ended the shell, nothing
further is expanded.
-/

namespace ColdBuild.Shell

abbrev Runner := Command → State → State

inductive Mark where
  | char (c : Char) (quoted splits : Bool)
  /-- A field begins here, if only an empty one. -/
  | started
  /-- A field ends here. -/
  | ended
  deriving DecidableEq, Repr

structure ExpansionMode where
  /-- Unquoted results are cut into fields. -/
  splitting : Bool := false
  /-- So is unquoted text of the word itself. -/
  splittingText : Bool := false
  /-- A tilde at the beginning stands for a directory. -/
  tilde : Bool := true
  /-- So does one behind an equals sign or a colon. -/
  assignment : Bool := false
  deriving DecidableEq, Repr

namespace Mark

def ofText (quoted splits : Bool) (text : String) : List Mark :=
  (text.toList.map fun c => Mark.char c quoted splits)

/-- The characters; the ends of fields are blanks. -/
def glyphs (marks : List Mark) : List Glyph :=
  marks.filterMap fun
    | .char c quoted _ => some ⟨c, quoted⟩
    | .ended => some ⟨' ', true⟩
    | .started => none

def text (marks : List Mark) : String := String.ofList ((glyphs marks).map (·.char))

/-- Where the cutting of marks into fields is. -/
inductive Place where
  /-- Between fields, behind nothing or behind a separator that is no blank. -/
  | outside
  /-- Between fields, behind blanks. -/
  | behindBlanks
  | inside

/-- The field that ends here, if one has begun. -/
def Place.finished (field : List Glyph) : Place → List (List Glyph)
  | .inside => [field.reverse]
  | .outside | .behindBlanks => []

def Place.behindBlank : Place → Place
  | .outside => .outside
  | .behindBlanks | .inside => .behindBlanks

/-- The field that a separator ends which is no blank. -/
def Place.separated (field : List Glyph) : Place → List (List Glyph)
  | .inside => [field.reverse]
  | .behindBlanks => []
  | .outside => [[]]

/-- Cuts marks into fields at separators. Blanks among them are taken together; any other one
ends a field, if only an empty one. -/
def fieldsFrom (separators : List Char) (place : Place) (field : List Glyph) :
    List Mark → List (List Glyph)
  | [] => place.finished field
  | .ended :: rest => place.finished field ++ fieldsFrom separators .outside [] rest
  | .started :: rest => fieldsFrom separators .inside field rest
  | .char c quoted splits :: rest =>
    if !(splits && separators.contains c) then
      fieldsFrom separators .inside (⟨c, quoted⟩ :: field) rest
    else if c = ' ' || c = '\t' || c = '\n' then
      place.finished field ++ fieldsFrom separators place.behindBlank [] rest
    else place.separated field ++ fieldsFrom separators .outside [] rest

def fields (separators : List Char) (marks : List Mark) : List (List Glyph) :=
  fieldsFrom separators .outside [] marks

end Mark

namespace State

def separators (s : State) : List Char := ((s.value? "IFS").getD " \t\n").toList

/-- The directory of a user; of the one running the shell if no name is given. -/
def homeOf? (s : State) (user : String) : Option String :=
  if user = "" then s.value? "HOME"
  else match s.readFile "/etc/passwd" with
    | .error _ => none
    | .ok text =>
      ((text.splitOn "\n").map (·.splitOn ":")).findSome? fun
        | name :: _ :: _ :: _ :: _ :: home :: _ => if name = user then some home else none
        | _ => none

/-- The marks of unquoted text of a word. -/
def plainMarks (mode : ExpansionMode) (chars : List Char) : List Mark :=
  chars.map fun c => .char c false mode.splittingText

/-- The marks of a text of a word that may begin with a tilde. In an assignment a colon ends the
name of the user; if nothing ends it and more of the word follows, the tilde stands for itself. -/
def tildeMarks (s : State) (mode : ExpansionMode) (more : Bool) (chars : List Char) : List Mark :=
  match chars with
  | '~' :: rest =>
    let user := rest.takeWhile (· ≠ '/')
    let behind := rest.drop user.length
    if behind.isEmpty && more then plainMarks mode chars
    else match s.homeOf? (String.ofList user) with
      | some home => Mark.ofText true false home ++ plainMarks mode behind
      | none => plainMarks mode chars
  | _ => plainMarks mode chars

/-- The marks of unquoted text, at the front of a word or not, with or without more behind it. -/
def textMarks (s : State) (mode : ExpansionMode) (front more : Bool) (chars : List Char) :
    List Mark :=
  if mode.tilde && mode.assignment then
    let parts := chars.splitOn ':'
    let marks := parts.zipIdx.map fun (part, i) =>
      if i = 0 && !front then plainMarks mode part
      else s.tildeMarks mode (more && i + 1 = parts.length) part
    (marks.intersperse (plainMarks mode [':'])).flatten
  else if mode.tilde && front then s.tildeMarks mode more chars
  else plainMarks mode chars

def numberOf (s : State) (name : String) : Except ArithmeticFault Int64 :=
  Arithmetic.ofValue (s.valueOf name)

def assignNumber (s : State) (name : String) (value : Int64) : Except ArithmeticFault State :=
  if (s.binding name).readOnly then .error (.readOnly name)
  else .ok (s.assign name (toString value.toInt))

def arithmetic (s : State) (text : String) : String × State :=
  match Arithmetic.parse text >>= fun expression =>
      expression.value numberOf assignNumber s with
  | .ok (value, s) => (toString value.toInt, s)
  | .error fault => ("", s.abort (fault.message text))

/-- What a command prints, line ends behind it taken off. -/
def substitute (run : Runner) (body : Command) (s : State) : String × State :=
  let (p, reading, writing) := s.toProcess.pipe
  let copy := { (s.become p).fork with guarded := false }
  let copy := run body (copy.become (copy.attach 1 writing))
  let s := (s.become p).become (s.toProcess.adopt copy.toProcess)
  let text := (s.pipeText reading).toList.filter (· ≠ Char.ofNat 0)
  (String.ofList (text.reverse.dropWhile (· = '\n')).reverse,
    { s with substituted := copy.ended.endingStatus })

/-- The marks of the list of arguments. -/
def argumentMarks (s : State) (mode : ExpansionMode) (isStar quoted : Bool) : List Mark :=
  let each (text : String) : List Mark := Mark.ofText quoted (!quoted && mode.splitting) text
  if !mode.splitting || (isStar && quoted) then each (s.separator.intercalate s.parameters)
  else
    let parts := s.parameters.map fun text => (if quoted then [Mark.started] else []) ++ each text
    (parts.intersperse [.ended]).flatten

/-- The marks of a parameter's value. -/
def valueMarks (s : State) (mode : ExpansionMode) (name : String) (quoted : Bool) : List Mark :=
  if name = "@" || name = "*" then s.argumentMarks mode (name = "*") quoted
  else Mark.ofText quoted (!quoted && mode.splitting) ((s.parameter? name).getD "")

/-- The parameter has to be set, unless it is a list or the option that asks for it is off. -/
def isMissing (s : State) (name : String) : Bool :=
  s.isOn 'u' && name ≠ "@" && name ≠ "*" && (s.parameter? name).isNone

mutual

/-- Expands the pieces of a word, all of them or those behind its front. -/
def expandPieces (run : Runner) (mode : ExpansionMode) (front : Bool) :
    Word → State → List Mark × State
  | [], s => ([], s)
  | piece :: rest, s =>
    let (first, s) := expandPiece run mode front (!rest.isEmpty) piece s
    let (marks, s) := expandPieces run mode false rest s
    (first ++ marks, s)

def expandPiece (run : Runner) (mode : ExpansionMode) (front more : Bool) (piece : Piece)
    (s : State) : List Mark × State :=
  if s.departure.isSome then ([], s)
  else match piece with
    | .text chars quoted =>
      if quoted then (.started :: Mark.ofText true false (String.ofList chars), s)
      else (s.textMarks mode front more chars, s)
    | .substitution body quoted =>
      let (text, s) := s.substitute run body
      (Mark.ofText quoted (!quoted && mode.splitting) text, s)
    | .arithmetic source quoted =>
      let (marks, s) := expandPieces run { tilde := false } false source s
      if s.departure.isSome then ([], s)
      else
        let (text, s) := s.arithmetic (Mark.text marks)
        (Mark.ofText quoted (!quoted && mode.splitting) text, s)
    | .parameter name form word quoted =>
      let set := s.parameter? name
      let isSet (emptyToo : Bool) : Bool := set.any fun text => !(emptyToo && text = "")
      let inner : ExpansionMode :=
        { mode with splittingText := mode.splitting && !quoted, tilde := !quoted }
      let value : List Mark × State := (s.valueMarks mode name quoted, s)
      match form with
      | .malformed => ([], s.abort "Bad substitution")
      | .value =>
        if s.isMissing name then ([], s.abort s!"{name}: parameter not set") else value
      | .length =>
        if s.isMissing name then ([], s.abort s!"{name}: parameter not set")
        else (Mark.ofText quoted (!quoted && mode.splitting) (toString (set.getD "").length), s)
      | .other emptyToo =>
        if isSet emptyToo then value else expandPieces run inner true word s
      | .replaced emptyToo =>
        if isSet emptyToo then expandPieces run inner true word s else ([], s)
      | .demanded emptyToo =>
        if isSet emptyToo then value
        else
          let (marks, s) := expandPieces run {} true word s
          let text := Mark.text marks
          let shown := if word.isEmpty then
              if emptyToo then "parameter not set or null" else "parameter not set"
            else text
          ([], s.abort s!"{name}: {shown}")
      | .assigned emptyToo =>
        if isSet emptyToo then value
        else
          let (marks, s) := expandPieces run { tilde := !quoted } true word s
          if s.departure.isSome then ([], s)
          else if !isName name.toList then ([], s.abort s!"{name}: bad variable name")
          else
            let s := s.assignOrAbort name (Mark.text marks)
            (s.valueMarks mode name quoted, s)
      | .withoutFront longest | .withoutEnd longest =>
        if s.isMissing name then ([], s.abort s!"{name}: parameter not set")
        else
          let (marks, s) := expandPieces run {} true word s
          let pattern := Mark.glyphs marks
          let isFront := match form with
            | .withoutFront _ => true
            | _ => false
          let cut (text : String) : String := String.ofList
            (if isFront then Pattern.withoutFront longest pattern text.toList
              else Pattern.withoutEnd longest pattern text.toList)
          if name = "@" || name = "*" then (s.argumentMarks mode (name = "*") quoted, s)
          else (Mark.ofText quoted (!quoted && mode.splitting) (cut (set.getD "")), s)

end

/-- Expands a word into one text. -/
def expandText (run : Runner) (mode : ExpansionMode) (word : Word) (s : State) : String × State :=
  let (marks, s) := expandPieces run mode true word s
  (Mark.text marks, s)

/-- Expands a word into a pattern. -/
def expandPattern (run : Runner) (word : Word) (s : State) : List Glyph × State :=
  let (marks, s) := expandPieces run {} true word s
  (Mark.glyphs marks, s)

def fieldTexts (s : State) (field : List Glyph) : List String :=
  let text := String.ofList (field.map (·.char))
  if s.isOn 'f' || !Pattern.isActive field then [text]
  else match Pattern.paths s.toProcess field with
    | [] => [text]
    | paths => paths

def expandFields (run : Runner) (word : Word) (s : State) : List String × State :=
  let (marks, s) := expandPieces run { splitting := true } true word s
  ((Mark.fields s.separators marks).flatMap s.fieldTexts, s)

def expandAll (run : Runner) (words : List Word) (s : State) : List String × State :=
  words.foldl (fun (fields, s) word =>
    let (more, s) := expandFields run word s
    (fields ++ more, s)) ([], s)

end State

end ColdBuild.Shell
