import ColdBuild.Machine.Utility.Files

/-!
# Words and patterns of makefiles

Lists of names are texts with blanks between them. A pattern is a name in which a percent sign
stands for any text, which is called the stem.
-/

namespace ColdBuild.Make

def isGap (c : Char) : Bool := c = ' ' || ('\t' ≤ c && c ≤ '\r')

def withoutFront (text : String) : String := String.ofList (text.toList.dropWhile isGap)

/-- A text without blanks at its ends. -/
def stripped (text : String) : String :=
  String.ofList ((text.toList.dropWhile isGap).reverse.dropWhile isGap).reverse

def words (text : String) : List String :=
  ((text.toList.splitOnP isGap).filter (· ≠ [])).map String.ofList

def unwords (words : List String) : String := " ".intercalate words

/-- What stands before the percent sign of a pattern, and what stands behind it; none if there is no
sign. A backslash takes its meaning away from the sign. -/
def patternParts : List Char → Option (List Char × List Char)
  | [] => none
  | '\\' :: '%' :: rest => (patternParts rest).map fun (front, behind) => ('%' :: front, behind)
  | '%' :: rest => some ([], rest)
  | c :: rest => (patternParts rest).map fun (front, behind) => (c :: front, behind)

def isPattern (name : String) : Bool := (patternParts name.toList).isSome

/-- A name without the backslashes in front of percent signs. -/
def literal : List Char → List Char
  | '\\' :: '%' :: rest => '%' :: literal rest
  | c :: rest => c :: literal rest
  | [] => []

/-- What the percent sign stands for if a pattern matches a name. -/
def stem? (pattern name : String) : Option String :=
  match patternParts pattern.toList with
  | none => if String.ofList (literal pattern.toList) = name then some "" else none
  | some (front, behind) =>
    let chars := name.toList
    let length := chars.length - behind.length
    if front.length + behind.length ≤ chars.length && chars.take front.length = front &&
        chars.drop length = behind then
      some (String.ofList ((chars.take length).drop front.length))
    else none

def withStem (pattern stem : String) : String :=
  match patternParts pattern.toList with
  | none => String.ofList (literal pattern.toList)
  | some (front, behind) => String.ofList (front ++ stem.toList ++ behind)

/-- Replaces a word that a pattern matches. -/
def replaced (pattern replacement word : String) : String :=
  match stem? pattern word with
  | none => word
  | some stem => if isPattern pattern then withStem replacement stem else replacement

/-- The directory of a name, with a slash behind it. -/
def directoryOf (name : String) : String :=
  let front := (name.toList.reverse.dropWhile (· ≠ '/')).reverse
  if front.isEmpty then "./" else String.ofList front

/-- A name without its directory. -/
def fileOf (name : String) : String := String.ofList ((name.toList.reverse.takeWhile (· ≠ '/')).reverse)

/-- What stands from the last dot of a name on. -/
def suffixOf? (name : String) : Option String :=
  let file := (fileOf name).toList
  if file.contains '.' then some (String.ofList ('.' :: (file.reverse.takeWhile (· ≠ '.')).reverse))
  else none

/-- A name without what stands from its last dot on. -/
def withoutSuffix (name : String) : String :=
  (name.dropEnd ((suffixOf? name).getD "").length).toString

/-- The items of a list once, in their order. -/
def distinct (items : List String) : List String :=
  items.foldl (fun found item => if found.contains item then found else found ++ [item]) []

end ColdBuild.Make
