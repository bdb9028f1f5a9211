import ColdBuild.CommandLine.Arguments
import ColdBuild.Proofs.Outcome
import Mathlib.Data.List.TakeDrop

/-!
# Accepted command lines

A command line that is accepted is a row of settings, each written in one of a few ways
(`WrittenAs`), with two dashes alone behind them or not (`AsksFor`). The settings are carried out in
their order, and nothing else is accepted (`Reading.all_ok_iff`).

Reading lags behind: an option whose value has been read is set with the next option only. For what
is accepted in the end this makes no difference (`Reading.finish_ok_iff`); it decides which of
several mistakes is reported.
-/
namespace ColdBuild

/-- What a part of the command line asks for. -/
inductive Setting where
  | value (option : ValueOption) (text : String)
  | dynamic
  | verbose

namespace GivenOptions

/-- What a setting does to the options that have been given before it. -/
def adjust (given : GivenOptions) : Setting → Except UsageError GivenOptions
  | .value option text => given.set option (some text)
  | .dynamic =>
    if given.dynamic then .error (.repeatedSwitch .dynlink) else .ok { given with dynamic := true }
  | .verbose => .ok { given with verbosity := given.verbosity + 1 }

end GivenOptions

/-- The setting that a switch stands for; none for those that end the reading. -/
def Switch.setting? : Switch → Option Setting
  | .dynlink => some .dynamic
  | .verbose => some .verbose
  | .help | .version => none

/-- The argument can be the value of an option that stands before it. -/
def ValueOption.MayPrecede (option : ValueOption) (argument : String) : Prop :=
  ∀ c text, argument.toList = '-' :: c :: text →
    option = .runs ∧ c ≠ '-' ∧ looksLikeNumber (c :: text) = true

/-- What one-letter options written together ask for, and the option at their end that waits for its
value, if one does. -/
inductive Letters : List Char → List Setting → Option ValueOption → Prop where
  | nil : Letters [] [] none
  | verbose {letters : List Char} {settings : List Setting} {waiting : Option ValueOption}
    (others : Letters letters settings waiting) :
    Letters ('v' :: letters) (.verbose :: settings) waiting
  | bare {text : String} (present : text ≠ "") (bare : text.toList.head? ≠ some '=') :
    Letters ('C' :: text.toList) [.value .directory text] none
  | equals (text : String) : Letters ('C' :: '=' :: text.toList) [.value .directory text] none
  | waiting : Letters ['C'] [] (some .directory)

/-- The settings are written as the arguments. -/
inductive WrittenAs : List Setting → List String → Prop where
  | attached (option : ValueOption) (text : String) :
    WrittenAs [.value option text] [s!"--{option.name}={text}"]
  | apart {option : ValueOption} {text : String} (fits : option.MayPrecede text) :
    WrittenAs [.value option text] [s!"--{option.name}", text]
  | switch {switch : Switch} {setting : Setting} (stands : switch.setting? = some setting) :
    WrittenAs [setting] [s!"--{switch.name}"]
  | letters {letters : List Char} {settings : List Setting} (some : letters ≠ [])
    (ask : Letters letters settings none) :
    WrittenAs settings [String.ofList ('-' :: letters)]
  | lettersApart {letters : List Char} {settings : List Setting} {option : ValueOption}
    {text : String} (ask : Letters letters settings (some option)) (fits : option.MayPrecede text) :
    WrittenAs (settings ++ [.value option text]) [String.ofList ('-' :: letters), text]

/-- The command line asks for the settings, in their order. -/
inductive AsksFor : List String → List Setting → Prop where
  | nil : AsksFor [] []
  | closed : AsksFor ["--"] []
  | part {settings more : List Setting} {arguments rest : List String}
    (written : WrittenAs settings arguments) (others : AsksFor rest more) :
    AsksFor (arguments ++ rest) (settings ++ more)

theorem Letters.head_ne {c : Char} {letters : List Char} {settings : List Setting}
    {waiting : Option ValueOption} (ask : Letters (c :: letters) settings waiting) : c ≠ '-' := by
  cases ask <;> decide

theorem ValueOption.mayPrecede_iff {option : ValueOption} {text : String} {c : Char}
    {chars : List Char} (shape : text.toList = '-' :: c :: chars) : option.MayPrecede text ↔
      option = .runs ∧ c ≠ '-' ∧ looksLikeNumber (c :: chars) = true := by
  constructor
  · intro fits
    exact fits c chars shape
  · intro fits d others same
    cases shape.symm.trans same
    exact fits

namespace Reading

section

variable {reading settled : Reading} {arguments : List String} {argument : String}
  {given out : GivenOptions}

/-- What comes of the rest of the command line. -/
def finish (reading : Reading) (arguments : List String) : Except ReadingEnd GivenOptions := do
  let reading ← arguments.foldlM take reading
  return (← reading.settle).given

theorem finish_nil_iff : reading.finish [] = .ok out ↔
    ∃ settled, reading.settle = .ok settled ∧ settled.given = out := by
  simp [finish, bind_ok_iff, pure, Except.pure]

theorem finish_cons_iff : reading.finish (argument :: arguments) = .ok out ↔
    ∃ next, reading.take argument = .ok next ∧ next.finish arguments = .ok out := by
  simp only [finish, List.foldlM_cons, bind_assoc, bind_ok_iff]

/-- After two dashes alone there is nothing more. -/
theorem finish_closed_iff (closed : reading.closed = true) : reading.finish arguments = .ok out ↔
    arguments = [] ∧ ∃ settled, reading.settle = .ok settled ∧ settled.given = out := by
  cases arguments with
  | nil => simp [finish_nil_iff]
  | cons argument arguments => simp [finish_cons_iff, take, closed, refuse]

theorem settle_of_pending (none : reading.pending = none) : reading.settle = .ok reading := by
  simp [settle, none]

/-- An option is settled with its value, and nothing else changes. -/
theorem of_settle (h : reading.settle = .ok settled) :
    settled.pending = none ∧ settled.closed = reading.closed := by
  unfold settle at h
  split at h
  · next none =>
    cases h
    exact ⟨none, rfl⟩
  · split at h <;> cases h
    exact ⟨rfl, rfl⟩

theorem settle_bind_ok_iff {α : Type} {f : Reading → Except ReadingEnd α} {a : α} :
    (reading.settle >>= f) = .ok a ↔
      ∃ settled, reading.settle = .ok settled ∧ (settled.settle >>= f) = .ok a := by
  rw [bind_ok_iff]
  refine exists_congr fun settled => and_congr_right fun h => ?_
  rw [settle_of_pending (of_settle h).1]
  rfl

theorem takeOption_ok_iff {option : ValueOption} {attached : Option String} {next : Reading} :
    reading.takeOption option attached = .ok next ↔
      ∃ settled, reading.settle = .ok settled ∧ settled.takeOption option attached = .ok next :=
  settle_bind_ok_iff

theorem takeSwitch_ok_iff {switch : Switch} {next : Reading} :
    reading.takeSwitch switch = .ok next ↔
      ∃ settled, reading.settle = .ok settled ∧ settled.takeSwitch switch = .ok next :=
  settle_bind_ok_iff

theorem takeLong_ok_iff {text : List Char} {next : Reading} : reading.takeLong text = .ok next ↔
    ∃ settled, reading.settle = .ok settled ∧ settled.takeLong text = .ok next := by
  unfold takeLong
  generalize text.span (· ≠ '=') = parts
  obtain ⟨name, rest⟩ := parts
  dsimp only
  generalize (if rest.isEmpty then none else some (String.ofList (rest.drop 1))) = attached
  cases ValueOption.ofName? (String.ofList name) with
  | some option => exact takeOption_ok_iff
  | none =>
    cases Switch.ofName? (String.ofList name) with
    | none => simp [refuse]
    | some switch =>
      cases attached with
      | none => exact takeSwitch_ok_iff
      | some value => simp [refuse]

theorem takeLetters_ok_iff {c : Char} {text : List Char} {next : Reading} :
    reading.takeLetters (c :: text) = .ok next ↔
      ∃ settled, reading.settle = .ok settled ∧ settled.takeLetters (c :: text) = .ok next := by
  unfold takeLetters
  split
  · next same => cases same
  · exact takeOption_ok_iff
  · next d rest other same =>
    cases same
    cases Switch.ofLetter? c with
    | none => simp [refuse]
    | some switch =>
      dsimp only
      simp only [bind_ok_iff]
      constructor
      · rintro ⟨after, taken, others⟩
        obtain ⟨settled, h, taken⟩ := takeSwitch_ok_iff.mp taken
        exact ⟨settled, h, after, taken, others⟩
      · rintro ⟨settled, h, after, taken, others⟩
        exact ⟨after, takeSwitch_ok_iff.mpr ⟨settled, h, taken⟩, others⟩

theorem takeWord_not_ok {next : Reading}
    (full : ∀ option, reading.pending ≠ some (option, none)) :
    reading.takeWord argument ≠ .ok next := by
  unfold takeWord
  split
  · next option same => exact absurd same (full option)
  · exact nofun

/-- How an argument is taken while no option waits for its value, and two dashes alone have not been
read. -/
def takeOpen (reading : Reading) (argument : String) : Except ReadingEnd Reading :=
  match argument.toList with
  | ['-', '-'] => .ok { reading with closed := true }
  | '-' :: '-' :: text => reading.takeLong text
  | '-' :: c :: text => reading.takeLetters (c :: text)
  | _ => reading.takeWord argument

theorem take_of_open (opened : reading.closed = false)
    (full : ∀ option, reading.pending ≠ some (option, none)) :
    reading.take argument = reading.takeOpen argument := by
  unfold take takeOpen
  rw [if_neg (by simp [opened])]
  generalize argument.toList = chars
  split <;> simp_all

/-- Whatever the next argument is, it is taken as if the option before it were set already. -/
theorem take_ok_iff {next : Reading} (full : ∀ option, reading.pending ≠ some (option, none))
    (other : argument.toList ≠ ['-', '-'] ∨ reading.closed = true) :
    reading.take argument = .ok next ↔
      ∃ settled, reading.settle = .ok settled ∧ settled.take argument = .ok next := by
  cases closed : reading.closed with
  | true =>
    have refused : ∀ settled, reading.settle = .ok settled → settled.take argument ≠ .ok next := by
      intro settled h
      simp [take, (of_settle h).2, closed, refuse]
    simp only [take, closed, refuse, if_true, reduceCtorEq, false_iff, not_exists, not_and]
    exact refused
  | false =>
    have same : (∃ settled, reading.settle = .ok settled ∧ settled.take argument = .ok next) ↔
        ∃ settled, reading.settle = .ok settled ∧ settled.takeOpen argument = .ok next := by
      refine exists_congr fun settled => and_congr_right fun h => ?_
      obtain ⟨none, still⟩ := of_settle h
      rw [take_of_open (still.trans closed) (by simp [none])]
    rw [take_of_open closed full, same]
    unfold takeOpen
    split
    · next dashes => exact absurd other (by simp [dashes, closed])
    · exact takeLong_ok_iff
    · exact takeLetters_ok_iff
    · simp only [takeWord_not_ok full, false_iff, not_exists, not_and]
      intro settled h
      exact takeWord_not_ok (by simp [(of_settle h).1])

theorem close_settle_iff {next : Reading} :
    ({ reading with closed := true } : Reading).settle = .ok next ↔
      ∃ settled, reading.settle = .ok settled ∧ next = { settled with closed := true } := by
  obtain ⟨given, pending, closed⟩ := reading
  unfold settle
  cases pending with
  | none => simp [eq_comm]
  | some waiting =>
    dsimp only
    cases given.set waiting.1 waiting.2 with
    | ok given => simp [eq_comm]
    | error error => simp [refuse]

/-- Where an option has its value, the rest is read as if it were set already. -/
theorem finish_ok_iff (full : ∀ option, reading.pending ≠ some (option, none)) :
    reading.finish arguments = .ok out ↔
      ∃ settled, reading.settle = .ok settled ∧ settled.finish arguments = .ok out := by
  induction arguments generalizing reading with
  | nil =>
    simp only [finish_nil_iff]
    refine exists_congr fun settled => and_congr_right fun h => ?_
    simp [settle_of_pending (of_settle h).1]
  | cons argument arguments ih =>
    by_cases other : argument.toList ≠ ['-', '-'] ∨ reading.closed = true
    · simp only [finish_cons_iff, take_ok_iff full other]
      constructor
      · rintro ⟨next, ⟨settled, h, taken⟩, others⟩
        exact ⟨settled, h, next, taken, others⟩
      · rintro ⟨settled, h, next, taken, others⟩
        exact ⟨next, ⟨settled, h, taken⟩, others⟩
    · obtain ⟨dashes, opened⟩ := not_or.mp other
      rw [not_not] at dashes
      rw [Bool.not_eq_true] at opened
      have close : ∀ reading : Reading, reading.closed = false →
          (∀ option, reading.pending ≠ some (option, none)) →
          reading.take argument = .ok { reading with closed := true } := by
        intro reading opened full
        simp [take_of_open opened full, takeOpen, dashes]
      simp only [finish_cons_iff, close reading opened full, Except.ok.injEq, exists_eq_left']
      rw [@ih { reading with closed := true } full]
      simp only [close_settle_iff]
      constructor
      · rintro ⟨next, ⟨settled, h, rfl⟩, others⟩
        obtain ⟨none, still⟩ := of_settle h
        exact ⟨settled, h, _, close settled (still.trans opened) (by simp [none]), others⟩
      · rintro ⟨settled, h, next, taken, others⟩
        obtain ⟨none, still⟩ := of_settle h
        rw [close settled (still.trans opened) (by simp [none])] at taken
        cases taken
        exact ⟨_, ⟨settled, h, rfl⟩, others⟩

end

section

variable {given next out : GivenOptions} {option : ValueOption} {text : String}
  {arguments rest : List String} {settings : List Setting}

theorem ofName?_name (option : ValueOption) : ValueOption.ofName? option.name = some option := by
  cases option <;> decide

theorem name_of_ofName? {name : String} (found : ValueOption.ofName? name = some option) :
    name = option.name := by
  simpa [eq_comm] using List.find?_some found

theorem switch_of_ofName? {name : String} {switch : Switch}
    (found : Switch.ofName? name = some switch) : name = switch.name := by
  simpa [eq_comm] using List.find?_some found

theorem equals_notMem_name (option : ValueOption) : '=' ∉ option.name.toList := by
  cases option <;> decide

theorem span_name {rest : List Char} (ends : ∀ c ∈ rest.head?, c = '=') :
    (option.name.toList ++ rest).span (· ≠ '=') = (option.name.toList, rest) := by
  have inside : ∀ c ∈ option.name.toList, decide (c ≠ '=') = true := by
    intro c mem
    have other : c ≠ '=' := fun same => equals_notMem_name option (same ▸ mem)
    simp [other]
  rw [List.span_eq_takeWhile_dropWhile, List.takeWhile_append_of_pos inside,
    List.dropWhile_append_of_pos inside]
  cases rest with
  | nil => simp
  | cons c rest => simp [ends c rfl]

theorem takeLong_name {reading : Reading} :
    reading.takeLong option.name.toList = reading.takeOption option none := by
  have parts := @span_name option [] (by simp)
  rw [List.append_nil] at parts
  unfold takeLong
  rw [parts]
  dsimp only
  rw [String.ofList_toList, ofName?_name]
  rfl

theorem takeLong_value {reading : Reading} :
    reading.takeLong (option.name.toList ++ '=' :: text.toList) =
      reading.takeOption option (some text) := by
  unfold takeLong
  rw [span_name (by simp)]
  dsimp only
  rw [String.ofList_toList, ofName?_name]
  simp

/-- What stands in front of the first equals sign, and the rest. -/
theorem exists_span (chars : List Char) : ∃ name rest, chars.span (· ≠ '=') = (name, rest) ∧
    chars = name ++ rest ∧ ∀ c ∈ rest.head?, c = '=' := by
  refine ⟨_, _, List.span_eq_takeWhile_dropWhile _ chars, List.takeWhile_append_dropWhile.symm, ?_⟩
  intro c first
  have stop := List.head?_dropWhile_not (fun c => decide (c ≠ '=')) chars
  rw [Option.mem_def.mp first] at stop
  simpa using stop

theorem set_none (given : GivenOptions) (option : ValueOption) :
    given.set option none = .error (.missingValue option) := rfl

theorem settle_iff {value : Option String} {closed : Bool} {next : Reading} :
    ({ given, pending := some (option, value), closed } : Reading).settle = .ok next ↔
      ∃ adjusted, given.set option value = .ok adjusted ∧ next = { given := adjusted, closed } := by
  simp only [settle]
  cases given.set option value with
  | ok adjusted => simp [eq_comm]
  | error error => simp [refuse]

theorem takeOption_none_iff {next : Reading} :
    ({ given } : Reading).takeOption option none = .ok next ↔
      next = { given, pending := some (option, none) } := by
  simp [takeOption, settle, bind, Except.bind, pure, Except.pure, eq_comm]

theorem takeOption_some_iff {next : Reading} :
    ({ given } : Reading).takeOption option (some text) = .ok next ↔
      ∃ adjusted, given.set option (some text) = .ok adjusted ∧ next = { given := adjusted } := by
  rw [← settle_iff]
  rfl

theorem takeSwitch_iff {switch : Switch} {next : Reading} :
    ({ given } : Reading).takeSwitch switch = .ok next ↔ ∃ setting adjusted,
      switch.setting? = some setting ∧ given.adjust setting = .ok adjusted ∧
        next = { given := adjusted } := by
  cases switch with
  | dynlink =>
    simp only [takeSwitch, settle, bind, Except.bind, Switch.setting?, GivenOptions.adjust]
    split <;> simp [refuse, eq_comm, *]
  | verbose =>
    constructor
    · rintro ⟨⟩
      exact ⟨_, _, rfl, rfl, rfl⟩
    · rintro ⟨setting, adjusted, ⟨⟩, ⟨⟩, rfl⟩
      rfl
  | help => simp [takeSwitch, settle, bind, Except.bind, Switch.setting?]
  | version => simp [takeSwitch, settle, bind, Except.bind, Switch.setting?]

theorem takeLong_switch {switch : Switch} {reading : Reading} :
    reading.takeLong switch.name.toList = reading.takeSwitch switch := by
  cases switch <;> rfl

/-- The arguments that begin with two dashes. -/
theorem takeLong_iff {chars : List Char} {next : Reading} :
    ({ given } : Reading).takeLong chars = .ok next ↔
      (∃ option : ValueOption, chars = option.name.toList ∧
        next = { given, pending := some (option, none) }) ∨
      (∃ (option : ValueOption) (value : String) (adjusted : GivenOptions),
        chars = option.name.toList ++ '=' :: value.toList ∧
        given.adjust (.value option value) = .ok adjusted ∧ next = { given := adjusted }) ∨
      ∃ (switch : Switch) (setting : Setting) (adjusted : GivenOptions),
        chars = switch.name.toList ∧ switch.setting? = some setting ∧
        given.adjust setting = .ok adjusted ∧ next = { given := adjusted } := by
  constructor
  · intro taken
    obtain ⟨name, rest, parts, rfl, ends⟩ := exists_span chars
    unfold takeLong at taken
    rw [parts] at taken
    dsimp only at taken
    cases found : ValueOption.ofName? (String.ofList name) with
    | some option =>
      rw [found] at taken
      dsimp only at taken
      have same : name = option.name.toList := by
        rw [← name_of_ofName? found, String.toList_ofList]
      cases rest with
      | nil =>
        rw [List.append_nil]
        exact .inl ⟨option, same, takeOption_none_iff.mp taken⟩
      | cons c value =>
        obtain ⟨adjusted, h, rfl⟩ := takeOption_some_iff.mp taken
        refine .inr (.inl ⟨option, String.ofList value, adjusted, ?_, h, rfl⟩)
        rw [same, ends c rfl, String.toList_ofList]
    | none =>
      rw [found] at taken
      cases found : Switch.ofName? (String.ofList name) with
      | none => simp [found, refuse] at taken
      | some switch =>
        rw [found] at taken
        have same : name = switch.name.toList := by
          rw [← switch_of_ofName? found, String.toList_ofList]
        cases rest with
        | nil =>
          rw [List.append_nil]
          obtain ⟨setting, adjusted, stands, h, rfl⟩ := takeSwitch_iff.mp taken
          exact .inr (.inr ⟨switch, setting, adjusted, same, stands, h, rfl⟩)
        | cons c value => cases taken
  · rintro (⟨option, rfl, rfl⟩ | ⟨option, value, adjusted, rfl, h, rfl⟩ |
      ⟨switch, setting, adjusted, rfl, stands, h, rfl⟩)
    · rw [takeLong_name, takeOption_none_iff]
    · rw [takeLong_value, takeOption_some_iff]
      exact ⟨adjusted, h, rfl⟩
    · rw [takeLong_switch, takeSwitch_iff]
      exact ⟨setting, adjusted, stands, h, rfl⟩

theorem adjust_single (given : GivenOptions) (setting : Setting) :
    [setting].foldlM GivenOptions.adjust given = given.adjust setting := by
  simp

/-- The only switch with a letter that does not end the reading. -/
theorem setting_of_ofLetter? {c : Char} {switch : Switch} {setting : Setting}
    (found : Switch.ofLetter? c = some switch) (stands : switch.setting? = some setting) :
    c = 'v' ∧ switch = .verbose ∧ setting = .verbose := by
  unfold Switch.ofLetter? at found
  split at found <;> cases found <;> cases stands
  exact ⟨rfl, rfl, rfl⟩

theorem takeLetters_verbose {letters : List Char} :
    ({ given } : Reading).takeLetters ('v' :: letters) =
      ({ given := { given with verbosity := given.verbosity + 1 } } : Reading).takeLetters
        letters :=
  rfl

theorem takeLetters_iff {letters : List Char} {next : Reading} :
    ({ given } : Reading).takeLetters letters = .ok next ↔ ∃ settings waiting adjusted,
      Letters letters settings waiting ∧ settings.foldlM GivenOptions.adjust given = .ok adjusted ∧
        next = { given := adjusted, pending := waiting.map (·, none) } := by
  constructor
  · intro taken
    induction letters generalizing given with
    | nil =>
      cases taken
      exact ⟨[], none, given, .nil, rfl, rfl⟩
    | cons c letters ih =>
      unfold takeLetters at taken
      split at taken
      · next same => cases same
      · next rest same =>
        cases same
        cases letters with
        | nil => exact ⟨[], some .directory, given, .waiting, rfl, takeOption_none_iff.mp taken⟩
        | cons d letters =>
          obtain ⟨adjusted, h, rfl⟩ := takeOption_some_iff.mp taken
          refine ⟨[.value .directory _], none, adjusted, ?_, (adjust_single _ _).trans h, rfl⟩
          by_cases equals : d = '='
          · subst equals
            simpa using Letters.equals (String.ofList letters)
          · have bare : (d :: letters).head? ≠ some '=' := fun same =>
              equals (Option.some.inj same)
            rw [if_neg bare]
            have ask := @Letters.bare (String.ofList (d :: letters)) (by simp) (by simpa)
            rwa [String.toList_ofList] at ask
      · next d rest other same =>
        cases same
        cases found : Switch.ofLetter? c with
        | none => simp [found, refuse] at taken
        | some switch =>
          simp only [found] at taken
          obtain ⟨middle, switched, taken⟩ := bind_ok_iff.mp taken
          obtain ⟨setting, adjusted, stands, h, rfl⟩ := takeSwitch_iff.mp switched
          obtain ⟨rfl, rfl, rfl⟩ := setting_of_ofLetter? found stands
          cases h
          obtain ⟨settings, waiting, adjusted, ask, h, rfl⟩ := ih taken
          exact ⟨.verbose :: settings, waiting, adjusted, ask.verbose, h, rfl⟩
  · rintro ⟨settings, waiting, adjusted, ask, h, rfl⟩
    induction ask generalizing given with
    | nil =>
      cases h
      rfl
    | verbose others ih =>
      rw [takeLetters_verbose]
      exact ih h
    | @bare text present bare =>
      have nonempty : text.toList.isEmpty = false := by simpa using present
      rw [adjust_single] at h
      simp only [takeLetters, if_neg bare, nonempty, String.ofList_toList]
      exact takeOption_some_iff.mpr ⟨adjusted, h, rfl⟩
    | equals text =>
      rw [adjust_single] at h
      simp only [takeLetters, List.head?_cons, if_true, List.isEmpty_cons, List.drop_one,
        List.tail_cons, String.ofList_toList]
      exact takeOption_some_iff.mpr ⟨adjusted, h, rfl⟩
    | waiting =>
      cases h
      exact takeOption_none_iff.mpr rfl

theorem toList_long (name : String) : (s!"--{name}").toList = '-' :: '-' :: name.toList := by
  change ("--" ++ name).toList = _
  rw [String.toList_append]
  rfl

theorem toList_attached (name value : String) :
    (s!"--{name}={value}").toList = '-' :: '-' :: (name.toList ++ '=' :: value.toList) := by
  change ("--" ++ name ++ "=" ++ value).toList = _
  simp only [String.toList_append, List.append_assoc]
  rfl

theorem name_ne_nil (option : ValueOption) : option.name.toList ≠ [] := by
  cases option <;> decide

theorem switchName_ne_nil (switch : Switch) : switch.name.toList ≠ [] := by
  cases switch <;> decide

theorem take_long {chars : List Char} (nonempty : chars ≠ [])
    (shape : text.toList = '-' :: '-' :: chars) :
    ({ given } : Reading).take text = ({ given } : Reading).takeLong chars := by
  rw [take_of_open rfl (by simp), takeOpen, shape]
  cases chars with
  | nil => exact absurd rfl nonempty
  | cons c chars => rfl

theorem take_letters {c : Char} {letters : List Char} (other : c ≠ '-')
    (shape : text.toList = '-' :: c :: letters) :
    ({ given } : Reading).take text = ({ given } : Reading).takeLetters (c :: letters) := by
  rw [take_of_open rfl (by simp), takeOpen, shape]
  simp [other]

/-- While an option waits for its value, an argument is that value, or two dashes alone. -/
theorem take_waiting_iff {next : Reading} :
    ({ given, pending := some (option, none) } : Reading).take text = .ok next ↔
      option.MayPrecede text ∧ next = { given, pending := some (option, some text) } ∨
      text.toList = ['-', '-'] ∧
        next = { given, pending := some (option, none), closed := true } := by
  have unset : ∀ settled,
      ({ given, pending := some (option, none) } : Reading).settle ≠ .ok settled := by
    intro settled h
    obtain ⟨adjusted, h, -⟩ := settle_iff.mp h
    cases h
  unfold take
  rw [if_neg (by simp)]
  split
  · next shape =>
    have unfit : ¬option.MayPrecede text := by simp [ValueOption.mayPrecede_iff shape]
    simp only [Except.ok.injEq, unfit, false_and, false_or, shape, true_and]
    exact eq_comm
  · next chars nonempty shape =>
    have unfit : ¬option.MayPrecede text := by simp [ValueOption.mayPrecede_iff shape]
    have other : text.toList ≠ ['-', '-'] := by simpa [shape] using nonempty
    simp only [unfit, other, false_and, or_self, iff_false]
    intro taken
    obtain ⟨settled, h, -⟩ := takeLong_ok_iff.mp taken
    exact unset settled h
  · next c chars _ other shape =>
    have different : text.toList ≠ ['-', '-'] := by simp [shape, show c ≠ '-' from other]
    simp only [different, false_and, or_false]
    split
    · next number =>
      have fits : option.MayPrecede text := by
        simpa [ValueOption.mayPrecede_iff shape, show c ≠ '-' from other] using number
      simp only [takeWord, Except.ok.injEq, fits, true_and]
      exact eq_comm
    · next number =>
      have unfit : ¬option.MayPrecede text := by
        simpa [ValueOption.mayPrecede_iff shape, show c ≠ '-' from other] using number
      simp only [unfit, false_and, iff_false]
      intro taken
      obtain ⟨settled, h, -⟩ := takeLetters_ok_iff.mp taken
      exact unset settled h
  · next dashes long letters =>
    have fits : option.MayPrecede text := fun c chars shape => (letters c chars shape).elim
    simp only [takeWord, Except.ok.injEq, fits, true_and, show text.toList ≠ ['-', '-'] from dashes,
      false_and, or_false]
    exact eq_comm

/-- An option that waits for its value takes the next argument, if that can be one. -/
theorem finish_waiting_iff :
    ({ given, pending := some (option, none) } : Reading).finish arguments = .ok out ↔
      ∃ text rest adjusted, arguments = text :: rest ∧ option.MayPrecede text ∧
        given.adjust (.value option text) = .ok adjusted ∧
        ({ given := adjusted } : Reading).finish rest = .ok out := by
  cases arguments with
  | nil =>
    simp only [finish_nil_iff, settle_iff, set_none, reduceCtorEq, false_and, exists_false]
  | cons text rest =>
    simp only [finish_cons_iff, take_waiting_iff, List.cons.injEq]
    constructor
    · rintro ⟨next, ⟨fits, rfl⟩ | ⟨-, rfl⟩, others⟩
      · rw [finish_ok_iff (by simp)] at others
        obtain ⟨settled, h, others⟩ := others
        obtain ⟨adjusted, filled, rfl⟩ := settle_iff.mp h
        exact ⟨text, rest, adjusted, ⟨rfl, rfl⟩, fits, filled, others⟩
      · obtain ⟨-, settled, h, -⟩ := (finish_closed_iff rfl).mp others
        obtain ⟨adjusted, missing, -⟩ := settle_iff.mp h
        cases missing
    · rintro ⟨_, _, adjusted, ⟨rfl, rfl⟩, fits, h, others⟩
      refine ⟨_, .inl ⟨fits, rfl⟩, ?_⟩
      rw [finish_ok_iff (by simp)]
      exact ⟨_, settle_iff.mpr ⟨adjusted, h, rfl⟩, others⟩

/-- The first arguments are read, and the rest as if their settings had been given before. -/
theorem finish_append_of_writtenAs (written : WrittenAs settings arguments)
    (h : settings.foldlM GivenOptions.adjust given = .ok next)
    (others : ({ given := next } : Reading).finish rest = .ok out) :
    ({ given } : Reading).finish (arguments ++ rest) = .ok out := by
  cases written with
  | attached option text =>
    rw [adjust_single] at h
    refine finish_cons_iff.mpr ⟨_, ?_, others⟩
    rw [take_long (by simp) (toList_attached _ _), takeLong_value]
    exact takeOption_some_iff.mpr ⟨next, h, rfl⟩
  | @apart option text fits =>
    rw [adjust_single] at h
    refine finish_cons_iff.mpr ⟨{ given, pending := some (option, none) }, ?_, ?_⟩
    · rw [take_long (name_ne_nil option) (toList_long _), takeLong_name, takeOption_none_iff]
    · exact finish_waiting_iff.mpr ⟨text, rest, next, rfl, fits, h, others⟩
  | @switch switch setting stands =>
    rw [adjust_single] at h
    refine finish_cons_iff.mpr ⟨_, ?_, others⟩
    rw [take_long (switchName_ne_nil switch) (toList_long _), takeLong_switch]
    exact takeSwitch_iff.mpr ⟨setting, next, stands, h, rfl⟩
  | @letters letters settings some ask =>
    refine finish_cons_iff.mpr ⟨_, ?_, others⟩
    cases letters with
    | nil => exact absurd rfl some
    | cons c letters =>
      rw [take_letters ask.head_ne String.toList_ofList]
      exact takeLetters_iff.mpr ⟨settings, none, next, ask, h, rfl⟩
  | @lettersApart letters settings option text ask fits =>
    rw [List.foldlM_append] at h
    obtain ⟨middle, first, h⟩ := bind_ok_iff.mp h
    rw [adjust_single] at h
    refine finish_cons_iff.mpr ⟨{ given := middle, pending := some (option, none) }, ?_, ?_⟩
    · cases letters with
      | nil => cases ask
      | cons c letters =>
        rw [take_letters ask.head_ne String.toList_ofList]
        exact takeLetters_iff.mpr ⟨settings, some option, middle, ask, first, rfl⟩
    · exact finish_waiting_iff.mpr ⟨text, rest, next, rfl, fits, h, others⟩

theorem finish_of_asksFor (ask : AsksFor arguments settings)
    (h : settings.foldlM GivenOptions.adjust given = .ok out) :
    ({ given } : Reading).finish arguments = .ok out := by
  induction ask generalizing given with
  | nil =>
    cases h
    rfl
  | closed =>
    cases h
    rfl
  | part written others ih =>
    rw [List.foldlM_append] at h
    obtain ⟨middle, first, h⟩ := bind_ok_iff.mp h
    exact finish_append_of_writtenAs written first (ih h)

theorem exists_asksFor_append (written : WrittenAs settings arguments)
    (h : settings.foldlM GivenOptions.adjust given = .ok next)
    (others : ∃ more, AsksFor rest more ∧ more.foldlM GivenOptions.adjust next = .ok out) :
    ∃ all, AsksFor (arguments ++ rest) all ∧ all.foldlM GivenOptions.adjust given = .ok out := by
  obtain ⟨more, ask, h'⟩ := others
  refine ⟨settings ++ more, .part written ask, ?_⟩
  rw [List.foldlM_append]
  exact bind_ok_iff.mpr ⟨next, h, h'⟩

theorem exists_asksFor (h : ({ given } : Reading).finish arguments = .ok out) :
    ∃ settings, AsksFor arguments settings ∧
      settings.foldlM GivenOptions.adjust given = .ok out := by
  -- an option and a value that stands apart are two arguments
  induction size : arguments.length using Nat.strongRecOn generalizing given arguments with
  | ind size ih =>
    subst size
    cases arguments with
    | nil =>
      cases h
      exact ⟨[], .nil, rfl⟩
    | cons argument rest =>
      obtain ⟨next, taken, others⟩ := finish_cons_iff.mp h
      rw [take_of_open rfl (by simp)] at taken
      unfold takeOpen at taken
      split at taken
      · next shape =>
        cases taken
        obtain ⟨rfl, settled, same, rfl⟩ := (finish_closed_iff rfl).mp others
        cases same
        have dashes : argument = "--" := String.toList_injective shape
        exact ⟨[], dashes ▸ .closed, rfl⟩
      · next chars nonempty shape =>
        obtain ⟨option, rfl, rfl⟩ | ⟨option, value, adjusted, rfl, set, rfl⟩ |
          ⟨switch, setting, adjusted, rfl, stands, set, rfl⟩ := takeLong_iff.mp taken
        · have same : argument = s!"--{option.name}" :=
            String.toList_injective (shape.trans (toList_long _).symm)
          obtain ⟨text, rest, adjusted, rfl, fits, set, others⟩ := finish_waiting_iff.mp others
          exact same ▸ exists_asksFor_append (.apart fits) ((adjust_single _ _).trans set)
            (ih rest.length (by simp only [List.length_cons]; omega) others rfl)
        · have same : argument = s!"--{option.name}={value}" :=
            String.toList_injective (shape.trans (toList_attached _ _).symm)
          exact same ▸ exists_asksFor_append (.attached option value)
            ((adjust_single _ _).trans set) (ih rest.length (by simp) others rfl)
        · have same : argument = s!"--{switch.name}" :=
            String.toList_injective (shape.trans (toList_long _).symm)
          exact same ▸ exists_asksFor_append (.switch stands) ((adjust_single _ _).trans set)
            (ih rest.length (by simp) others rfl)
      · next c letters _ other shape =>
        obtain ⟨settings, waiting, adjusted, ask, set, rfl⟩ := takeLetters_iff.mp taken
        have same : argument = String.ofList ('-' :: c :: letters) := by
          rw [← shape, String.ofList_toList]
        cases waiting with
        | none =>
          exact same ▸ exists_asksFor_append (.letters (List.cons_ne_nil _ _) ask) set
            (ih rest.length (by simp) others rfl)
        | some option =>
          obtain ⟨text, rest, middle, rfl, fits, set', others⟩ := finish_waiting_iff.mp others
          refine same ▸ exists_asksFor_append (.lettersApart ask fits) ?_
            (ih rest.length (by simp only [List.length_cons]; omega) others rfl)
          rw [List.foldlM_append]
          exact bind_ok_iff.mpr ⟨adjusted, set, (adjust_single _ _).trans set'⟩
      · exact absurd taken (takeWord_not_ok (by simp))

/-- A command line is accepted if it is a row of settings that can be carried out in their order,
and then gives what they amount to. -/
theorem all_ok_iff : Reading.all arguments = .ok out ↔
    ∃ settings, AsksFor arguments settings ∧ settings.foldlM GivenOptions.adjust {} = .ok out :=
  ⟨exists_asksFor, fun ⟨_, ask, h⟩ => finish_of_asksFor ask h⟩

end

end Reading

end ColdBuild
