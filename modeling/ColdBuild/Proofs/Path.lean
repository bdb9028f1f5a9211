import ColdBuild.Proofs.Text.Utf8
import ColdBuild.Path
import Mathlib.Logic.Relation

/-!
# Which bytes of a path count

Paths are compared by their components. These are read off two things: how a path begins, which is
with a slash, with a segment that is a single dot, or in neither way (`start`), and its segments
other than empty ones and single dots (`parts`). So a leading dot and every double dot count, and
nothing else about a path does (`components_eq_iff`).

What does not count can be left out: a slash next to another, a slash at the end, a dot behind a
slash (`Shortens`). Each such step keeps the components (`components_of_shortens`), and every path
is shortened in this way to one that only its beginning and its parts determine (`shortens_tidy`).
So two paths have the same components if and only if they can be shortened to one and the same path.
They may be shown differently all the same, since what does not count is shown as well
(`display_concat_slash`).
-/
namespace ColdBuild.Path

open Relation (ReflTransGen)

variable {p q : Path} {front : List UInt8} {others : List (List UInt8)}

/-- What a path begins with, beside its parts. -/
def start (p : Path) : Option Component :=
  if [slash] <+: p.bytes then some .root
  else if p.bytes = [dot] ∨ [dot, slash] <+: p.bytes then some .current
  else none

/-- The segment counts wherever it stands. -/
def isPart (segment : List UInt8) : Bool := segment ≠ [] && segment ≠ [dot]

/-- The segments that count wherever they stand. -/
def parts (p : Path) : List (List UInt8) := p.segments.filter isPart

theorem isPart_eq_false_iff {segment : List UInt8} :
    isPart segment = false ↔ segment = [] ∨ segment = [dot] := by
  simp only [isPart, Bool.and_eq_false_iff, decide_eq_false_iff_not, ne_eq, Decidable.not_not]

namespace Component

/-- The component that a part stands for. -/
def ofPart (part : List UInt8) : Component := if part = [dot, dot] then .parent else .name part

/-- The part that a component stands for, unless a path can only begin with it. -/
def part? : Component → Option (List UInt8)
  | .root => none
  | .current => none
  | .parent => some [dot, dot]
  | .name bytes => some bytes

theorem part?_ofPart (part : List UInt8) : part? (ofPart part) = some part := by
  unfold ofPart
  split
  · next isParent => rw [isParent, part?]
  · rfl

theorem ofSegment?_eq (segment : List UInt8) :
    ofSegment? segment = if isPart segment then some (ofPart segment) else none := by
  unfold ofSegment?
  split
  · rfl
  · rfl
  · rfl
  · next nonempty noDot noParent => simp_all [isPart, ofPart, dot]

theorem filterMap_ofSegment? (segments : List (List UInt8)) :
    segments.filterMap ofSegment? = (segments.filter isPart).map ofPart := by
  induction segments with
  | nil => rfl
  | cons segment rest ih =>
    rw [List.filterMap_cons, List.filter_cons, ofSegment?_eq, ih]
    cases isPart segment <;> rfl

end Component

/-- The bytes of segments, each behind a slash. -/
def trail (segments : List (List UInt8)) : List UInt8 := segments.flatMap (slash :: ·)

@[simp] theorem trail_nil : trail [] = [] := rfl

@[simp] theorem trail_cons (segment : List UInt8) (rest : List (List UInt8)) :
    trail (segment :: rest) = slash :: (segment ++ trail rest) := rfl

theorem trail_append (segments rest : List (List UInt8)) :
    trail (segments ++ rest) = trail segments ++ trail rest := List.flatMap_append

theorem append_trail (first : List UInt8) (rest : List (List UInt8)) :
    first ++ trail rest = [slash].intercalate (first :: rest) := by
  induction rest generalizing first with
  | nil => simp
  | cons second rest ih =>
    rw [trail_cons, ih, List.intercalate_cons_cons]
    simp

theorem trail_splitOn (bytes : List UInt8) : trail (bytes.splitOn slash) = slash :: bytes := by
  obtain ⟨first, rest, split⟩ := List.exists_cons_of_ne_nil (List.splitOn_ne_nil slash bytes)
  rw [split, trail_cons, append_trail, ← split, List.intercalate_splitOn]

/-- A path is its first segment, in which there is no slash, and the others, each behind one. -/
theorem exists_segments (p : Path) :
    ∃ first others, p.segments = first :: others ∧ slash ∉ first ∧
      p.bytes = first ++ trail others := by
  by_cases mem : slash ∈ p.bytes
  · obtain ⟨first, rest, whole, free⟩ := List.eq_append_cons_of_mem mem
    refine ⟨first, rest.splitOn slash, ?_, free, ?_⟩
    · rw [segments, whole, List.splitOn_append_cons_self_of_not_mem free]
    · rw [whole, trail_splitOn]
  · exact ⟨p.bytes, [], List.splitOn_eq_singleton mem, mem, (List.append_nil _).symm⟩

/-- The beginning of a path depends on its first segment, and on whether there are others. -/
theorem start_eq {first : List UInt8} (free : slash ∉ first)
    (whole : p.bytes = first ++ trail others) :
    p.start = if first = [] then if others = [] then none else some .root
      else if first = [dot] then some .current else none := by
  unfold start
  rw [whole]
  cases first with
  | nil => cases others <;> simp
  | cons b first =>
    obtain ⟨noSlash, free⟩ := not_or.mp (mt List.mem_cons.mpr free)
    cases first with
    | nil => cases others <;> simp [noSlash, @eq_comm _ dot b]
    | cons c first =>
      obtain ⟨noSlash', -⟩ := not_or.mp (mt List.mem_cons.mpr free)
      simp [noSlash, noSlash']

/-- The components of a path: what it begins with, and its parts. -/
theorem components_eq (p : Path) :
    p.components = p.start.toList ++ p.parts.map Component.ofPart := by
  obtain ⟨first, others, split, free, whole⟩ := p.exists_segments
  rw [start_eq free whole, parts, components, split]
  dsimp only
  rw [Component.filterMap_ofSegment?, List.filter_cons, Component.ofFirst]
  by_cases empty : first = []
  · cases others <;> simp [empty, isPart]
  · by_cases isDot : first = [dot]
    · simp [isDot, isPart]
    · simp [empty, isDot, isPart, Component.ofSegment?_eq]

example : (ofString "//a/.././b/").components =
    [.root, .name [97], .parent, .name [98]] := by decide

/-- The parts can be read off the components. -/
theorem filterMap_part?_components (p : Path) :
    p.components.filterMap Component.part? = p.parts := by
  have beginning : p.start.toList.filterMap Component.part? = [] := by
    unfold start
    split
    · rfl
    · split <;> rfl
  have inverse : Component.part? ∘ Component.ofPart = some := funext Component.part?_ofPart
  rw [components_eq, List.filterMap_append, beginning, List.nil_append, List.filterMap_map, inverse,
    List.filterMap_some]

/-- Of a path its beginning counts, which may be a dot, and its parts, which may be double dots. -/
theorem components_eq_iff :
    p.components = q.components ↔ p.start = q.start ∧ p.parts = q.parts := by
  constructor
  · intro same
    have parts : p.parts = q.parts := by
      rw [← filterMap_part?_components, same, filterMap_part?_components]
    rw [components_eq, components_eq, parts] at same
    have starts := congrArg List.head? (List.append_cancel_right same)
    rw [Option.head?_toList, Option.head?_toList] at starts
    exact ⟨starts, parts⟩
  · rintro ⟨start, parts⟩
    rw [components_eq, components_eq, start, parts]

/-- The second path is the first one without something that does not count. -/
inductive Shortens : Path → Path → Prop where
  | doubled (front back : List UInt8) :
    Shortens ⟨front ++ slash :: slash :: back⟩ ⟨front ++ slash :: back⟩
  | between (front back : List UInt8) :
    Shortens ⟨front ++ slash :: dot :: slash :: back⟩ ⟨front ++ slash :: back⟩
  | lastDot (front : List UInt8) : Shortens ⟨front ++ [slash, dot]⟩ ⟨front ++ [slash]⟩
  | lastSlash {front : List UInt8} : front ≠ [] → Shortens ⟨front ++ [slash]⟩ ⟨front⟩

/-- What follows a slash makes no difference to the beginning. -/
theorem start_append (front back : List UInt8) :
    start ⟨front ++ slash :: back⟩ = if front = [] then some .root else start ⟨front⟩ := by
  obtain ⟨first, others, -, free, whole⟩ := exists_segments ⟨front⟩
  obtain rfl : front = first ++ trail others := whole
  have longer : first ++ trail others ++ slash :: back =
      first ++ trail (others ++ back.splitOn slash) := by
    rw [trail_append, trail_splitOn, List.append_assoc]
  rw [start_eq (p := ⟨_⟩) free longer, start_eq (p := ⟨first ++ trail others⟩) free rfl]
  cases first <;> cases others <;> simp

theorem parts_append (front back : List UInt8) :
    parts ⟨front ++ slash :: back⟩ = parts ⟨front⟩ ++ parts ⟨back⟩ := by
  simp only [parts, segments, List.splitOn_append_cons_self, List.filter_append]

theorem parts_nil : parts ⟨[]⟩ = [] := rfl

theorem parts_dot : parts ⟨[dot]⟩ = [] := by decide

/-- Leaving out what does not count keeps the components. -/
theorem components_of_shortens (shortens : Shortens p q) : p.components = q.components := by
  have leadingSlash (back : List UInt8) : parts ⟨slash :: back⟩ = parts ⟨back⟩ :=
    parts_append [] back
  have leadingDot (back : List UInt8) : parts ⟨dot :: slash :: back⟩ = parts ⟨back⟩ := by
    rw [← List.singleton_append, parts_append, parts_dot, List.nil_append]
  rw [components_eq_iff]
  cases shortens with
  | doubled front back => simp only [start_append, parts_append, leadingSlash, true_and]
  | between front back => simp only [start_append, parts_append, leadingDot, true_and]
  | lastDot front => simp only [start_append, parts_append, parts_dot, parts_nil, true_and]
  | lastSlash nonempty =>
    simp only [start_append, nonempty, if_false, parts_append, parts_nil, List.append_nil, true_and]

theorem components_of_reflTransGen (steps : ReflTransGen Shortens p q) :
    p.components = q.components := by
  induction steps with
  | refl => rfl
  | tail _ shortens ih => exact ih.trans (components_of_shortens shortens)

/-- A segment that is no part can be left out in front of another one. -/
theorem shortens_trail_cons (front : List UInt8) {segment : List UInt8}
    (noPart : isPart segment = false) (next : List UInt8) (rest : List (List UInt8)) :
    Shortens ⟨front ++ trail (segment :: next :: rest)⟩ ⟨front ++ trail (next :: rest)⟩ := by
  obtain rfl | rfl := isPart_eq_false_iff.mp noPart
  · exact .doubled front (next ++ trail rest)
  · exact .between front (next ++ trail rest)

/-- Behind a first segment only the parts are needed. -/
theorem shortens_trail (nonempty : front ≠ []) (segments : List (List UInt8)) :
    ReflTransGen Shortens ⟨front ++ trail segments⟩ ⟨front ++ trail (segments.filter isPart)⟩ := by
  induction segments generalizing front with
  | nil => exact .refl
  | cons segment rest ih =>
    cases counts : isPart segment with
    | true =>
      -- A part joins the front, so that the front is all that has been dealt with.
      rw [List.filter_cons_of_pos counts, trail_cons, trail_cons, ← List.cons_append,
        ← List.cons_append, ← List.append_assoc, ← List.append_assoc]
      exact ih (List.append_ne_nil_of_left_ne_nil nonempty _)
    | false =>
      rw [List.filter_cons_of_neg (by simp [counts])]
      refine ReflTransGen.trans ?_ (ih nonempty)
      cases rest with
      | cons next rest => exact .single (shortens_trail_cons front counts next rest)
      | nil =>
        -- The last segment takes its slash with it, since something stands in front of that.
        have last : ReflTransGen Shortens ⟨front ++ [slash]⟩ ⟨front ++ trail []⟩ :=
          .single (by simpa using Shortens.lastSlash nonempty)
        obtain rfl | rfl := isPart_eq_false_iff.mp counts
        · exact last
        · exact last.head (.lastDot front)

/-- Behind a slash only the parts are needed, and the slash if there are none. -/
theorem shortens_root (nonempty : others ≠ []) :
    ReflTransGen Shortens ⟨trail others⟩
      ⟨if others.filter isPart = [] then [slash] else trail (others.filter isPart)⟩ := by
  induction others with
  | nil => exact absurd rfl nonempty
  | cons segment rest ih =>
    cases counts : isPart segment with
    | true =>
      rw [List.filter_cons_of_pos counts, if_neg (List.cons_ne_nil _ _), trail_cons, trail_cons,
        ← List.cons_append, ← List.cons_append]
      exact shortens_trail (List.cons_ne_nil _ _) rest
    | false =>
      rw [List.filter_cons_of_neg (by simp [counts])]
      cases rest with
      | cons next rest =>
        exact (ih (List.cons_ne_nil _ _)).head (shortens_trail_cons [] counts next rest)
      | nil =>
        obtain rfl | rfl := isPart_eq_false_iff.mp counts
        · exact .refl
        · exact .single (.lastDot [])

/-- The path with nothing in it that does not count. -/
def tidy (p : Path) : Path :=
  ⟨match p.start with
    | some .root => if p.parts = [] then [slash] else trail p.parts
    | some _ => dot :: trail p.parts
    | none => (trail p.parts).tail⟩

/-- Every path can be shortened until only what counts is left. -/
theorem shortens_tidy (p : Path) : ReflTransGen Shortens p p.tidy := by
  obtain ⟨first, others, split, free, whole⟩ := p.exists_segments
  have start := start_eq free whole
  have parts : p.parts = (first :: others).filter isPart := congrArg (List.filter isPart) split
  obtain rfl : p = ⟨first ++ trail others⟩ := congrArg Path.mk whole
  rw [tidy, start, parts]
  by_cases empty : first = []
  · subst empty
    cases others with
    | nil => exact .refl
    | cons segment rest => exact shortens_root (List.cons_ne_nil segment rest)
  · by_cases isDot : first = [dot]
    · subst isDot
      exact shortens_trail (List.cons_ne_nil dot []) others
    · have counts : isPart first = true := by simp [isPart, empty, isDot]
      rw [if_neg empty, if_neg isDot, List.filter_cons_of_pos counts]
      exact shortens_trail empty others

/-- Paths have the same components just if they can be shortened to one path. -/
theorem components_eq_iff_shorten :
    p.components = q.components ↔
      ∃ r, ReflTransGen Shortens p r ∧ ReflTransGen Shortens q r := by
  constructor
  · intro same
    obtain ⟨start, parts⟩ := components_eq_iff.mp same
    have tidied : p.tidy = q.tidy := by rw [tidy, tidy, start, parts]
    exact ⟨p.tidy, shortens_tidy p, tidied ▸ shortens_tidy q⟩
  · rintro ⟨r, left, right⟩
    exact (components_of_reflTransGen left).trans (components_of_reflTransGen right).symm

/-- A slash at the end is shown, although it does not count. -/
theorem display_concat_slash (bytes : List UInt8) :
    display ⟨bytes ++ [slash]⟩ = (display ⟨bytes⟩).push '/' :=
  Utf8.decode_concat (by decide) bytes

end ColdBuild.Path
