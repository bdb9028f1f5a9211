import ColdBuild.Text.Utf8

/-!
# Paths

A path is a sequence of bytes. It is shown as text with ill-formed parts replaced, and compared
by its components: repeated slashes, a slash at the end and a dot that is not in front do not
count, while a leading dot and every double dot do. Nothing is looked up in a file system here.
-/

namespace ColdBuild

/-- A path, as the bytes it is written with. -/
structure Path where
  bytes : List UInt8
  deriving DecidableEq, Repr

namespace Path

def slash : UInt8 := 47
def dot : UInt8 := 46

def ofString (text : String) : Path := ⟨Utf8.encode text⟩

def display (p : Path) : String := Utf8.decode p.bytes

/-- A part of a path that counts when paths are compared. -/
inductive Component where
  | root
  | current
  | parent
  | name (bytes : List UInt8)
  deriving DecidableEq, Repr

/-- The bytes between slashes. There is one segment more than there are slashes. -/
def segments (p : Path) : List (List UInt8) := p.bytes.splitOn slash

/-- The component a segment stands for, unless it is first. -/
def Component.ofSegment? : List UInt8 → Option Component
  | [] => none
  | [46] => none
  | [46, 46] => some .parent
  | bytes => some (.name bytes)

/-- The components a first segment stands for; it is empty before a leading slash. -/
def Component.ofFirst (segment : List UInt8) (alone : Bool) : List Component :=
  if segment = [] then if alone then [] else [.root]
  else if segment = [dot] then [.current]
  else (Component.ofSegment? segment).toList

def components (p : Path) : List Component :=
  match p.segments with
  | [] => []
  | first :: others =>
    Component.ofFirst first others.isEmpty ++ others.filterMap Component.ofSegment?

/-- Equality of paths is equality of their components. -/
def same (p q : Path) : Bool := p.components = q.components

theorem same_iff (p q : Path) : p.same q = true ↔ p.components = q.components := by
  simp [same]

end Path

end ColdBuild
