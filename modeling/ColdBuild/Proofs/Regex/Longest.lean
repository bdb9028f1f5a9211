import ColdBuild.Proofs.Regex.Matching

/-!
# Which match is taken

A search with groups tries the ways to match one after another and hands each end to what is to
follow. It hands on only ends of matches (`exists_matches_of_capture`), and it does not give up as
long as one end will do (`isSome_capture`), if no part has a greatest number of repetitions below
its least. Together with the set of all ends this makes the match that is found in a text the
leftmost one, and the longest of those that begin there (`group?_of_findFrom`).
-/
namespace ColdBuild.Regex.Expression

/-- No part's greatest number of repetitions is below its least. -/
def Bounded {α : Type} : Expression α → Prop
  | .empty | .atom _ => True
  | .concat first second | .either first second => first.Bounded ∧ second.Bounded
  | .times least most body => (∀ m, most = some m → least ≤ m) ∧ body.Bounded
  | .captured _ body => body.Bounded

section

variable {text : Array Char} {R : Nat → Nat → Prop}
  {step : Nat → Captures → Next → Option Captures} {least : Nat} {most : Option Nat} {next : Next}

/-- A search that hands on only what one relation leads to. -/
def HandsOn (length : Nat) (step : Nat → Captures → Next → Option Captures)
    (R : Nat → Nat → Prop) : Prop :=
  ∀ place captures next found, place ≤ length → step place captures next = some found →
    ∃ last held, R place last ∧ next last held = some found

/-- A search that finds something as soon as one end will do, whatever groups hold. -/
def Persists (length : Nat) (step : Nat → Captures → Next → Option Captures)
    (R : Nat → Nat → Prop) : Prop :=
  ∀ place last captures next, place ≤ length → R place last →
    (∀ held, (next last held).isSome = true) → (step place captures next).isSome = true

theorem exists_repeated_of_repeated {length : Nat} (advancing : Advancing length R)
    (handsOn : HandsOn length step R) {fuel done place : Nat} {captures found : Captures}
    (within : place ≤ length)
    (h : repeated step least most next fuel done place captures = some found) :
    ∃ m last held, Repeated R m place last ∧ least ≤ done + m ∧
      (∀ bound, most = some bound → m = 0 ∨ done + m ≤ bound) ∧ next last held = some found := by
  induction fuel generalizing done place captures with
  | zero => cases h
  | succ fuel ih =>
    have stopped (h : (if least ≤ done then next place captures else none) = some found) :
        ∃ m last held, Repeated R m place last ∧ least ≤ done + m ∧
          (∀ bound, most = some bound → m = 0 ∨ done + m ≤ bound) ∧
          next last held = some found := by
      split at h
      · next enough => exact ⟨0, place, captures, rfl, enough, fun _ _ => .inl rfl, h⟩
      · cases h
    rw [repeated] at h
    split at h
    · next further =>
      cases h
      split at further
      · next more =>
        obtain ⟨j, held, first, rest⟩ := handsOn _ _ _ _ within further
        split at rest
        · cases rest
        · obtain ⟨m, last, held, steps, enough, limit, goes⟩ :=
            ih (advancing.le_length first within) rest
          refine ⟨m + 1, last, held, ⟨j, first, steps⟩, by omega, ?_, goes⟩
          rintro bound rfl
          have below : done < bound := by simpa using more
          rcases limit bound rfl with rfl | le
          · exact .inr (by omega)
          · exact .inr (by omega)
      · cases further
    · exact stopped h

theorem isSome_repeated {length : Nat} (advancing : Advancing length R)
    (persists : Persists length step R) {m fuel done place last : Nat} {captures : Captures}
    (within : place ≤ length) (steps : Repeated R m place last) (enough : least ≤ done + m)
    (limit : ∀ bound, most = some bound → done + m ≤ bound)
    (fuelled : (least - done) + (length - place) < fuel)
    (goes : ∀ held, (next last held).isSome = true) :
    (repeated step least most next fuel done place captures).isSome = true := by
  induction m generalizing fuel done place captures with
  | zero =>
    obtain rfl : place = last := steps
    obtain ⟨fuel, rfl⟩ := Nat.exists_eq_succ_of_ne_zero (Nat.ne_of_gt (Nat.zero_lt_of_lt fuelled))
    rw [repeated]
    split
    · rfl
    · rw [if_pos (by omega)]
      exact goes captures
  | succ m ih =>
    obtain ⟨j, first, rest⟩ := steps
    by_cases still : j = place ∧ least ≤ done
    · obtain ⟨rfl, already⟩ := still
      refine ih within rest (by omega) (fun bound is => ?_) fuelled
      have := limit bound is
      omega
    · obtain ⟨fuel, rfl⟩ := Nat.exists_eq_succ_of_ne_zero (Nat.ne_of_gt (Nat.zero_lt_of_lt fuelled))
      have le := (advancing place j first).1
      have inside := advancing.le_length first within
      have more : (most.all (done < ·)) = true := by
        cases most with
        | none => rfl
        | some bound =>
          have := limit bound rfl
          simpa using (by omega : done < bound)
      have found : (step place captures fun after captures =>
          if after = place && least ≤ done then none
          else repeated step least most next fuel (done + 1) after captures).isSome = true := by
        refine persists _ j _ _ within first fun held => ?_
        rw [if_neg (by simpa using still)]
        refine ih inside rest (by omega) (fun bound is => ?_) ?_
        · have := limit bound is
          omega
        · rcases Nat.lt_or_eq_of_le le with advances | rfl
          · omega
          · have few : done < least := by
              by_contra enough
              exact still ⟨rfl, by omega⟩
            omega
      rw [repeated, if_pos more]
      split
      · rfl
      · next none =>
        rw [none] at found
        cases found

end

section

variable {text : Array Char}

theorem plain?_concat {first second : Expression Symbol} {p : Expression Atom}
    (plain : (concat first second).plain? = some p) :
    ∃ p₁ p₂, first.plain? = some p₁ ∧ second.plain? = some p₂ ∧ p = .concat p₁ p₂ := by
  obtain ⟨p₁, left, rest⟩ := Option.bind_eq_some_iff.mp plain
  obtain ⟨p₂, right, same⟩ := Option.bind_eq_some_iff.mp rest
  exact ⟨p₁, p₂, left, right, (Option.some.inj same).symm⟩

theorem plain?_either {first second : Expression Symbol} {p : Expression Atom}
    (plain : (either first second).plain? = some p) :
    ∃ p₁ p₂, first.plain? = some p₁ ∧ second.plain? = some p₂ ∧ p = .either p₁ p₂ := by
  obtain ⟨p₁, left, rest⟩ := Option.bind_eq_some_iff.mp plain
  obtain ⟨p₂, right, same⟩ := Option.bind_eq_some_iff.mp rest
  exact ⟨p₁, p₂, left, right, (Option.some.inj same).symm⟩

theorem plain?_times {least : Nat} {most : Option Nat} {body : Expression Symbol}
    {p : Expression Atom} (plain : (times least most body).plain? = some p) :
    ∃ q, body.plain? = some q ∧ p = .times least most q := by
  obtain ⟨q, inner, same⟩ := Option.bind_eq_some_iff.mp plain
  exact ⟨q, inner, (Option.some.inj same).symm⟩

theorem plain?_captured {index : Nat} {body : Expression Symbol} {p : Expression Atom}
    (plain : (captured index body).plain? = some p) :
    ∃ q, body.plain? = some q ∧ p = .captured index q := by
  obtain ⟨q, inner, same⟩ := Option.bind_eq_some_iff.mp plain
  exact ⟨q, inner, (Option.some.inj same).symm⟩

/-- What a search hands on is the end of a match. -/
theorem exists_matches_of_capture {e : Expression Symbol} {p : Expression Atom}
    (plain : e.plain? = some p) : HandsOn text.size (e.capture text) (p.Matches text.toList) := by
  induction e generalizing p with
  | empty =>
    cases plain
    intro place captures next found _ h
    exact ⟨place, captures, rfl, h⟩
  | atom a =>
    cases a with
    | back group => cases plain
    | plain a =>
      cases plain
      intro place captures next found within h
      cases a with
      | within ranges =>
        rw [capture] at h
        split at h
        · next c char =>
          split at h
          · next has => exact ⟨place + 1, captures, ⟨rfl, c, by simpa using char, has⟩, h⟩
          · cases h
        · cases h
      | place kind =>
        rw [capture] at h
        by_cases holds : kind.holds (if place = 0 then none else text[place - 1]?) text[place]?
        · rw [if_pos holds] at h
          exact ⟨place, captures, ⟨rfl, by simpa using within, by simpa using holds⟩, h⟩
        · rw [if_neg holds] at h
          cases h
  | concat first second ih ih' =>
    obtain ⟨p₁, p₂, left, right, rfl⟩ := plain?_concat plain
    intro place captures next found within h
    obtain ⟨j, held, start, rest⟩ := ih left place captures _ found within h
    have inside := (advancing text.toList p₁).le_length start (by simpa using within)
    obtain ⟨last, held', stop, goes⟩ := ih' right j held next found (by simpa using inside) rest
    exact ⟨last, held', ⟨j, start, stop⟩, goes⟩
  | either first second ih ih' =>
    obtain ⟨p₁, p₂, left, right, rfl⟩ := plain?_either plain
    intro place captures next found within h
    rw [capture] at h
    split at h
    · next first =>
      cases h
      obtain ⟨last, held, matched, goes⟩ := ih left place captures next _ within first
      exact ⟨last, held, .inl matched, goes⟩
    · obtain ⟨last, held, matched, goes⟩ := ih' right place captures next found within h
      exact ⟨last, held, .inr matched, goes⟩
  | times least most body ih =>
    obtain ⟨q, inner, rfl⟩ := plain?_times plain
    intro place captures next found within h
    obtain ⟨m, last, held, steps, enough, limit, goes⟩ :=
      exists_repeated_of_repeated (advancing text.toList q) (ih inner) within h
    refine ⟨last, held, ⟨m, by omega, fun bound is => ?_, steps⟩, goes⟩
    rcases limit bound is with rfl | le
    · exact Nat.zero_le _
    · omega
  | captured index body ih =>
    obtain ⟨q, inner, rfl⟩ := plain?_captured plain
    intro place captures next found within h
    obtain ⟨last, held, matched, goes⟩ := ih inner place captures _ found within h
    exact ⟨last, _, matched, goes⟩

/-- A search finds something as soon as the end of one match will do. -/
theorem isSome_capture {e : Expression Symbol} {p : Expression Atom} (plain : e.plain? = some p)
    (bounded : p.Bounded) : Persists text.size (e.capture text) (p.Matches text.toList) := by
  induction e generalizing p with
  | empty =>
    cases plain
    rintro place last captures next _ rfl goes
    exact goes captures
  | atom a =>
    cases a with
    | back group => cases plain
    | plain a =>
      cases plain
      intro place last captures next _ matched goes
      cases a with
      | within ranges =>
        obtain ⟨rfl, c, char, has⟩ := matched
        have char : text[place]? = some c := by simpa using char
        rw [capture, char]
        dsimp only
        rw [if_pos has]
        exact goes captures
      | place kind =>
        obtain ⟨rfl, -, holds⟩ := matched
        rw [capture, if_pos (by simpa using holds)]
        exact goes captures
  | concat first second ih ih' =>
    obtain ⟨p₁, p₂, left, right, rfl⟩ := plain?_concat plain
    rintro place last captures next within ⟨j, start, stop⟩ goes
    have inside := (advancing text.toList p₁).le_length start (by simpa using within)
    exact ih left bounded.1 place j captures _ within start fun held =>
      ih' right bounded.2 j last held next (by simpa using inside) stop goes
  | either first second ih ih' =>
    obtain ⟨p₁, p₂, left, right, rfl⟩ := plain?_either plain
    rintro place last captures next within matched goes
    rw [capture]
    split
    · rfl
    · next none =>
      rcases matched with matched | matched
      · have found := ih left bounded.1 place last captures next within matched goes
        rw [none] at found
        cases found
      · exact ih' right bounded.2 place last captures next within matched goes
  | times least most body ih =>
    obtain ⟨q, inner, rfl⟩ := plain?_times plain
    rintro place last captures next within ⟨count, enough, limit, steps⟩ goes
    obtain ⟨order, bounded⟩ := bounded
    have size : text.toList.length = text.size := Array.length_toList
    refine isSome_repeated (advancing text.toList q) (ih inner bounded) within steps (by omega)
      (fun bound is => ?_) (by omega) goes
    have le := limit bound is
    have := order bound is
    omega
  | captured index body ih =>
    obtain ⟨q, inner, rfl⟩ := plain?_captured plain
    rintro place last captures next within matched goes
    exact ih inner bounded place last captures _ within matched fun held => goes _

/-- The last bit of a set of places is the last place in it. -/
theorem testBit_le_log2 {places k : Nat} (set : places.testBit k = true) : k ≤ places.log2 := by
  have le := Nat.ge_two_pow_of_testBit set
  have nonzero : places ≠ 0 := by
    rintro rfl
    rw [Nat.zero_testBit] at set
    cases set
  exact (Nat.le_log2 nonzero).mpr le

theorem testBit_ends_shiftLeft (p : Expression Atom) (place k : Nat) :
    ((p.on text.toList).ends text.size (1 <<< place)).testBit k = true ↔
      p.Matches text.toList place k := by
  have start (i : Nat) : (1 <<< place).testBit i = true ↔ i = place := by
    rw [Nat.one_shiftLeft, Nat.testBit_two_pow, decide_eq_true_eq, eq_comm]
  have found := testBit_ends text.toList p (1 <<< place) k
  simp only [start, exists_eq_left] at found
  rwa [Array.length_toList] at found

/-- The match that is taken at a place is the longest that begins there. -/
theorem group?_of_matchAt {e : Expression Symbol} {p : Expression Atom} (plain : e.plain? = some p)
    {place : Nat} (within : place ≤ text.size) {captures : Captures}
    (h : e.matchAt (some (p.on text.toList)) text place = some captures) :
    ∃ last, captures.group? 0 = some (place, last) ∧ p.Matches text.toList place last ∧
      ∀ k, p.Matches text.toList place k → k ≤ last := by
  unfold matchAt at h
  dsimp only at h
  split at h
  · cases h
  · next some =>
    obtain ⟨last, held, -, goes⟩ := exists_matches_of_capture plain place [] _ _ within h
    split at goes
    · next goal =>
      cases goes
      refine ⟨last, by simp [Captures.group?, Captures.put], ?_, fun k matched => ?_⟩
      · rw [← testBit_ends_shiftLeft, goal]
        exact Nat.testBit_log2 some
      · rw [goal]
        exact testBit_le_log2 ((testBit_ends_shiftLeft p place k).mpr matched)
    · cases goes

theorem matchAt_eq_none_iff {e : Expression Symbol} {p : Expression Atom}
    (plain : e.plain? = some p) (bounded : p.Bounded) {place : Nat} (within : place ≤ text.size) :
    e.matchAt (some (p.on text.toList)) text place = none ↔
      ∀ k, ¬ p.Matches text.toList place k := by
  constructor
  · intro none k matched
    have set := (testBit_ends_shiftLeft p place k).mpr matched
    have some : (p.on text.toList).ends text.size (1 <<< place) ≠ 0 := by
      intro empty
      rw [empty, Nat.zero_testBit] at set
      cases set
    have longest := (testBit_ends_shiftLeft p place _).mp (Nat.testBit_log2 some)
    have found := isSome_capture plain bounded place _ [] (fun last captures =>
      if last = ((p.on text.toList).ends text.size (1 <<< place)).log2 then
        Option.some (captures.put 0 place last) else Option.none) within longest
      fun held => by rw [if_pos rfl]; rfl
    unfold matchAt at none
    dsimp only at none
    rw [if_neg some] at none
    rw [none] at found
    cases found
  · intro nowhere
    cases h : e.matchAt (some (p.on text.toList)) text place with
    | none => rfl
    | some captures =>
      obtain ⟨last, -, matched, -⟩ := group?_of_matchAt plain within h
      exact (nowhere last matched).elim

/-- The places that are tried, in order. -/
theorem mem_places {start place : Nat} :
    place ∈ (List.range (text.size + 1)).drop start ↔ start ≤ place ∧ place ≤ text.size := by
  rw [List.range_eq_range', List.drop_range', List.mem_range'_1]
  omega

theorem places_ascend (start : Nat) :
    ((List.range (text.size + 1)).drop start).Pairwise (· < ·) :=
  List.pairwise_lt_range.drop

/-- What is found from a place on is the leftmost match, and of those the longest, in group zero. -/
theorem group?_of_findFrom {e : Expression Symbol} {p : Expression Atom}
    (plain : e.plain? = some p) (bounded : p.Bounded) {start : Nat} {captures : Captures}
    (h : e.findFrom text start = some captures) :
    ∃ first last, captures.group? 0 = some (first, last) ∧ start ≤ first ∧
      p.Matches text.toList first last ∧
      (∀ k, p.Matches text.toList first k → k ≤ last) ∧
      ∀ i k, start ≤ i → p.Matches text.toList i k → first ≤ i := by
  rw [findFrom, plain] at h
  obtain ⟨before, first, behind, places, taken, failed⟩ := List.findSome?_eq_some_iff.mp h
  have mem : first ∈ (List.range (text.size + 1)).drop start := by simp [places]
  obtain ⟨after, within⟩ := mem_places.mp mem
  obtain ⟨last, group, matched, longest⟩ := group?_of_matchAt plain within taken
  refine ⟨first, last, group, after, matched, longest, fun i k inside matched => ?_⟩
  by_contra earlier
  have tried : i ∈ before ++ first :: behind :=
    places ▸ mem_places.mpr ⟨inside, by omega⟩
  have order : (before ++ first :: behind).Pairwise (· < ·) := places ▸ places_ascend start
  have later : ∀ j ∈ first :: behind, first ≤ j := by
    have tail := (List.pairwise_append.mp order).2.1
    rintro j (_ | ⟨_, mem⟩)
    · exact Nat.le_refl _
    · exact Nat.le_of_lt (List.rel_of_pairwise_cons tail mem)
  rcases List.mem_append.mp tried with mem | mem
  · exact (matchAt_eq_none_iff plain bounded (by omega)).mp (failed i mem) k matched
  · exact earlier (later i mem)

/-- Nothing is found from a place on only if nothing matches there. -/
theorem findFrom_eq_none_iff {e : Expression Symbol} {p : Expression Atom}
    (plain : e.plain? = some p) (bounded : p.Bounded) {start : Nat} :
    e.findFrom text start = none ↔
      ∀ i k, start ≤ i → i ≤ text.size → ¬ p.Matches text.toList i k := by
  rw [findFrom, plain, List.findSome?_eq_none_iff]
  constructor
  · intro failed i k after within
    exact (matchAt_eq_none_iff plain bounded within).mp
      (failed i (mem_places.mpr ⟨after, within⟩)) k
  · intro nowhere place mem
    obtain ⟨after, within⟩ := mem_places.mp mem
    exact (matchAt_eq_none_iff plain bounded within).mpr fun k => nowhere place k after within

end

end ColdBuild.Regex.Expression
