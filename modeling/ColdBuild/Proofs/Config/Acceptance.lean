import ColdBuild.Config
import Mathlib.Data.List.Basic

/-!
# Which requests are accepted

Two fields of a request are free text, each with a list of accepted spellings. What a field's reader
does is stated once (`Spells`): it takes the listed spellings and no others, names the refused text
and the list in its error, and reads the name of each value as that value.

A request resolves exactly if it passes three checks (`Request.checks`), and otherwise the error is
that of the first one it does not pass (`Request.resolve_error_iff`). What an accepted request is
turned into depends on the text of its fields only through the values that they spell
(`Request.resolve_ok_iff`).
-/
namespace ColdBuild

/-- The reader of a field takes the listed spellings and nothing else, and reads the name of each
value as that value. -/
structure Spells {α : Type} (parse : String → Except Error α) (name : α → String) (field : String)
    (tokens : List String) : Prop where
  accepted {text : String} : text ∈ tokens → ∃ value, parse text = .ok value
  refused {text : String} : text ∉ tokens →
    parse text = .error (.unknownChoice field text (", ".intercalate tokens))
  parse_name (value : α) : parse (name value) = .ok value

namespace Spells

variable {α : Type} {parse : String → Except Error α} {name : α → String} {field : String}
  {tokens : List String} {text : String}

theorem ok_iff_mem (spells : Spells parse name field tokens) :
    (∃ value, parse text = .ok value) ↔ text ∈ tokens := by
  refine ⟨fun ⟨value, read⟩ => ?_, spells.accepted⟩
  by_contra unlisted
  rw [spells.refused unlisted] at read
  cases read

/-- The name of the value that a text spells, and the text itself if it spells none. -/
def canonical (parse : String → Except Error α) (name : α → String) (text : String) : String :=
  match parse text with
  | .ok value => name value
  | .error _ => text

theorem name_mem (spells : Spells parse name field tokens) (value : α) : name value ∈ tokens :=
  spells.ok_iff_mem.mp ⟨value, spells.parse_name value⟩

/-- Different values have different names. -/
theorem name_inj (spells : Spells parse name field tokens) {a b : α} : name a = name b ↔ a = b := by
  refine ⟨fun same => ?_, congrArg name⟩
  have read := spells.parse_name a
  rw [same, spells.parse_name] at read
  exact (Except.ok.inj read).symm

theorem parse_canonical (spells : Spells parse name field tokens) (text : String) :
    parse (canonical parse name text) = parse text := by
  unfold canonical
  cases read : parse text with
  | ok value => exact spells.parse_name value
  | error e => exact read

theorem canonical_canonical (spells : Spells parse name field tokens) (text : String) :
    canonical parse name (canonical parse name text) = canonical parse name text := by
  rw [canonical, spells.parse_canonical]
  unfold canonical
  cases parse text <;> rfl

end Spells

theorem HostCompiler.spells : Spells parse name "hostcc" tokens where
  accepted listed := by
    simp only [tokens, List.mem_cons, List.not_mem_nil, or_false] at listed
    obtain rfl | rfl | rfl := listed
    · exact ⟨.gcc, rfl⟩
    · exact ⟨.gcc, rfl⟩
    · exact ⟨.clang, rfl⟩
  refused unlisted := by
    simp only [tokens, List.mem_cons, List.not_mem_nil, or_false, not_or] at unlisted
    obtain ⟨cc, gcc, clang⟩ := unlisted
    rw [parse, if_neg (not_or.mpr ⟨cc, gcc⟩), if_neg clang]
  parse_name value := by cases value <;> rfl

/-- Only `cc` is not the name of what it spells. -/
theorem HostCompiler.name_of_parse {text : String} {compiler : HostCompiler}
    (read : parse text = .ok compiler) :
    compiler.name = if text = "cc" then "gcc" else text := by
  have listed := spells.ok_iff_mem.mp ⟨compiler, read⟩
  simp only [tokens, List.mem_cons, List.not_mem_nil, or_false] at listed
  obtain rfl | rfl | rfl := listed <;> cases read <;> decide

theorem Architecture.spells : Spells parse name "arch" tokens where
  accepted listed := by
    simp only [tokens, List.mem_cons, List.not_mem_nil, or_false] at listed
    obtain rfl | rfl := listed
    · exact ⟨.arm, rfl⟩
    · exact ⟨.riscv, rfl⟩
  refused unlisted := by
    simp only [tokens, List.mem_cons, List.not_mem_nil, or_false, not_or] at unlisted
    obtain ⟨arm, riscv⟩ := unlisted
    rw [parse, if_neg arm, if_neg riscv]
  parse_name value := by cases value <;> rfl

theorem Architecture.name_of_parse {text : String} {architecture : Architecture}
    (read : parse text = .ok architecture) : architecture.name = text := by
  have listed := spells.ok_iff_mem.mp ⟨architecture, read⟩
  simp only [tokens, List.mem_cons, List.not_mem_nil, or_false] at listed
  obtain rfl | rfl := listed <;> cases read <;> rfl

/-- The text is a list of just the accepted spellings; none of them could be taken for two. -/
def Lists (choices : String) (accepts : String → Prop) : Prop :=
  ∃ listed, choices = ", ".intercalate listed ∧ (∀ text ∈ listed, ',' ∉ text.toList) ∧
    ∀ text, text ∈ listed ↔ accepts text

namespace Request

/-- What is checked of a request, in order, each with the error that reports it. -/
def checks (request : Request) : List (Bool × Error) :=
  [(1 ≤ request.runs.toInt, .runCount request.runs.toInt),
    (request.hostCompiler ∈ HostCompiler.tokens,
      .unknownChoice "hostcc" request.hostCompiler (", ".intercalate HostCompiler.tokens)),
    (request.architecture ∈ Architecture.tokens,
      .unknownChoice "arch" request.architecture (", ".intercalate Architecture.tokens))]

/-- The error of the first check that the request does not pass. -/
def firstFault? (request : Request) : Option Error :=
  (request.checks.find? fun check => !check.1).map Prod.snd

variable {request : Request} {config : Config} {error : Error}

/-- A positive run count fits into 64 bits. -/
theorem toNat_runs_bounds (positive : 1 ≤ request.runs.toInt) :
    0 < request.runs.toInt.toNat ∧ request.runs.toInt.toNat ≤ 0xffffffffffffffff := by
  have most := request.runs.toInt_lt
  omega

theorem resolve_of_pos (positive : 1 ≤ request.runs.toInt) :
    request.resolve = (do
      let hostCompiler ← HostCompiler.parse request.hostCompiler
      let architecture ← Architecture.parse request.architecture
      return {
        hostCompiler, architecture
        linkMode := .ofDynamic request.dynamic
        runs := request.runs.toInt.toNat
        output := request.output
        runs_pos := (toNat_runs_bounds positive).1
        runs_le := (toNat_runs_bounds positive).2 }) :=
  dif_pos positive

theorem resolve_of_not_pos (few : ¬ 1 ≤ request.runs.toInt) :
    request.resolve = .error (.runCount request.runs.toInt) :=
  dif_neg few

/-- What a request resolves to, field by field. -/
theorem resolve_ok_iff :
    request.resolve = .ok config ↔
      HostCompiler.parse request.hostCompiler = .ok config.hostCompiler ∧
        Architecture.parse request.architecture = .ok config.architecture ∧
        config.linkMode = .ofDynamic request.dynamic ∧
        (config.runs : Int) = request.runs.toInt ∧ config.output = request.output := by
  constructor
  · intro resolved
    by_cases positive : 1 ≤ request.runs.toInt
    · rw [resolve_of_pos positive] at resolved
      cases compiler : HostCompiler.parse request.hostCompiler with
      | error e =>
        rw [compiler] at resolved
        cases resolved
      | ok hostCompiler =>
        cases target : Architecture.parse request.architecture with
        | error e =>
          rw [compiler, target] at resolved
          cases resolved
        | ok architecture =>
          rw [compiler, target] at resolved
          cases resolved
          exact ⟨rfl, rfl, rfl, Int.toNat_of_nonneg (by omega), rfl⟩
    · rw [resolve_of_not_pos positive] at resolved
      cases resolved
  · rintro ⟨compiler, target, link, count, output⟩
    have counted := config.runs_pos
    have positive : 1 ≤ request.runs.toInt := by omega
    have same : request.runs.toInt.toNat = config.runs := by omega
    rw [resolve_of_pos positive, compiler, target]
    obtain ⟨hostCompiler, architecture, linkMode, runs, path, _, _⟩ := config
    dsimp only at link output same
    subst link output
    simp only [bind, Except.bind, pure, Except.pure, same]

/-- The error is that of the first check that is not passed, in whatever way the others go. -/
theorem resolve_error_iff : request.resolve = .error error ↔ request.firstFault? = some error := by
  by_cases positive : 1 ≤ request.runs.toInt
  · rw [resolve_of_pos positive]
    by_cases compiler : request.hostCompiler ∈ HostCompiler.tokens
    · obtain ⟨hostCompiler, read⟩ := HostCompiler.spells.accepted compiler
      by_cases target : request.architecture ∈ Architecture.tokens
      · obtain ⟨architecture, readTarget⟩ := Architecture.spells.accepted target
        simp [read, readTarget, firstFault?, checks, positive, compiler, target, bind, Except.bind,
          pure, Except.pure]
      · simp [read, Architecture.spells.refused target, firstFault?, checks, positive, compiler,
          target, bind, Except.bind]
    · simp [HostCompiler.spells.refused compiler, firstFault?, checks, positive, compiler, bind,
        Except.bind]
  · simp [resolve_of_not_pos positive, firstFault?, checks, positive]

/-- What is wrong with a request is an error of configuration. -/
theorem isConfiguration_of_resolve (failed : request.resolve = .error error) :
    error.isConfiguration = true := by
  obtain ⟨check, found, rfl⟩ := Option.map_eq_some_iff.mp (resolve_error_iff.mp failed)
  have member := List.mem_of_find?_eq_some found
  simp only [checks, List.mem_cons, List.not_mem_nil, or_false] at member
  obtain rfl | rfl | rfl := member <;> rfl

theorem isOk_resolve_iff :
    (∃ config, request.resolve = .ok config) ↔
      1 ≤ request.runs.toInt ∧ request.hostCompiler ∈ HostCompiler.tokens ∧
        request.architecture ∈ Architecture.tokens := by
  constructor
  · rintro ⟨config, resolved⟩
    obtain ⟨compiler, target, -, count, -⟩ := resolve_ok_iff.mp resolved
    have counted := config.runs_pos
    exact ⟨by omega, HostCompiler.spells.ok_iff_mem.mp ⟨_, compiler⟩,
      Architecture.spells.ok_iff_mem.mp ⟨_, target⟩⟩
  · rintro ⟨positive, compiler, target⟩
    cases resolved : request.resolve with
    | ok config => exact ⟨config, rfl⟩
    | error e =>
      have fault := resolve_error_iff.mp resolved
      simp [firstFault?, checks, positive, compiler, target] at fault

/-- Where a choice is refused, the choices that are offered instead are those that would have been
accepted in its place. -/
theorem choices_of_resolve {field value choices : String}
    (refused : request.resolve = .error (.unknownChoice field value choices)) :
    field = "hostcc" ∧ value = request.hostCompiler ∧
        Lists choices (fun text => ∃ compiler, HostCompiler.parse text = .ok compiler) ∨
      field = "arch" ∧ value = request.architecture ∧
        Lists choices (fun text => ∃ architecture, Architecture.parse text = .ok architecture) := by
  obtain ⟨check, found, same⟩ := Option.map_eq_some_iff.mp (resolve_error_iff.mp refused)
  have member := List.mem_of_find?_eq_some found
  simp only [checks, List.mem_cons, List.not_mem_nil, or_false] at member
  obtain rfl | rfl | rfl := member
  · cases same
  · cases same
    exact .inl ⟨rfl, rfl, HostCompiler.tokens, rfl, by simp [HostCompiler.tokens],
      fun text => HostCompiler.spells.ok_iff_mem.symm⟩
  · cases same
    exact .inr ⟨rfl, rfl, Architecture.tokens, rfl, by simp [Architecture.tokens],
      fun text => Architecture.spells.ok_iff_mem.symm⟩

/-- Two spellings of the same values make no difference. -/
theorem resolve_respelled {hostCompiler architecture : String}
    (compiler : HostCompiler.parse hostCompiler = HostCompiler.parse request.hostCompiler)
    (target : Architecture.parse architecture = Architecture.parse request.architecture) :
    ({ request with hostCompiler, architecture } : Request).resolve = request.resolve := by
  simp only [resolve, compiler, target]

/-- An accepted request is called and built by names of the values that it spells. The text of the
request is such a name itself, or `cc`. -/
theorem texts_of_resolve (resolved : request.resolve = .ok config) :
    ∃ compiler ∈ ["gcc", "clang"], ∃ architecture ∈ ["arm", "riscv"],
      ∃ link ∈ [("static", "0"), ("dynamic", "1")],
        compiler = (if request.hostCompiler = "cc" then "gcc" else request.hostCompiler) ∧
        architecture = request.architecture ∧
        link = (if request.dynamic then ("dynamic", "1") else ("static", "0")) ∧
        config.label = s!"{Config.fields}=({compiler}, {architecture}, {link.1})" ∧
        config.buildArguments =
          [s!"CC={compiler}", s!"ARCH={architecture}", s!"DYNLINK={link.2}", "--silent"] := by
  obtain ⟨compiler, target, link, -, -⟩ := resolve_ok_iff.mp resolved
  refine ⟨config.hostCompiler.name, ?_, config.architecture.name, ?_,
    (config.linkMode.name, toString config.linkMode.flag), ?_, HostCompiler.name_of_parse compiler,
    Architecture.name_of_parse target, ?_, rfl, rfl⟩
  · cases config.hostCompiler <;> simp [HostCompiler.name]
  · cases config.architecture <;> simp [Architecture.name]
  · cases config.linkMode <;> decide
  · rw [link]
    cases request.dynamic <;> rfl

def canonical (request : Request) : Request :=
  { request with
    hostCompiler := Spells.canonical HostCompiler.parse HostCompiler.name request.hostCompiler
    architecture := Spells.canonical Architecture.parse Architecture.name request.architecture }

/-- A request is accepted if and only if it asks for a trial at least and both its texts are listed
spellings, compared as a whole. It then keeps its number of trials and its path, and what it is
called and built with is put together from names of values alone. Otherwise the error, which is one
of configuration, reports the first of the three checks that is not passed, with what was given; and
the choices that it offers are those that would have been accepted. Names of values are accepted as
these values, so a request can be written with them throughout and resolves to the same. -/
theorem resolve_decides (request : Request) :
    ((∃ config, request.resolve = .ok config) ↔
      1 ≤ request.runs.toInt ∧ request.hostCompiler ∈ HostCompiler.tokens ∧
        request.architecture ∈ Architecture.tokens) ∧
    (∀ config, request.resolve = .ok config →
      (config.runs : Int) = request.runs.toInt ∧ config.output = request.output ∧
      ∃ compiler ∈ ["gcc", "clang"], ∃ architecture ∈ ["arm", "riscv"],
        ∃ link ∈ [("static", "0"), ("dynamic", "1")],
          compiler = (if request.hostCompiler = "cc" then "gcc" else request.hostCompiler) ∧
          architecture = request.architecture ∧
          link = (if request.dynamic then ("dynamic", "1") else ("static", "0")) ∧
          config.label = s!"{Config.fields}=({compiler}, {architecture}, {link.1})" ∧
          config.buildArguments =
            [s!"CC={compiler}", s!"ARCH={architecture}", s!"DYNLINK={link.2}", "--silent"]) ∧
    (∀ error, request.resolve = .error error ↔ request.firstFault? = some error) ∧
    (∀ error, request.resolve = .error error → error.isConfiguration = true) ∧
    (∀ field value choices, request.resolve = .error (.unknownChoice field value choices) →
      field = "hostcc" ∧ value = request.hostCompiler ∧
          Lists choices (fun text => ∃ compiler, HostCompiler.parse text = .ok compiler) ∨
        field = "arch" ∧ value = request.architecture ∧
          Lists choices (fun text => ∃ architecture, Architecture.parse text = .ok architecture)) ∧
    (∀ compiler : HostCompiler,
      compiler.name ∈ HostCompiler.tokens ∧ HostCompiler.parse compiler.name = .ok compiler) ∧
    (∀ architecture : Architecture, architecture.name ∈ Architecture.tokens ∧
      Architecture.parse architecture.name = .ok architecture) ∧
    request.canonical.resolve = request.resolve ∧
    request.canonical.canonical = request.canonical := by
  refine ⟨isOk_resolve_iff, fun config resolved => ?_, fun _ => resolve_error_iff,
    fun _ => isConfiguration_of_resolve, fun _ _ _ => choices_of_resolve, fun compiler => ?_,
    fun architecture => ?_, ?_, ?_⟩
  · obtain ⟨-, -, -, count, output⟩ := resolve_ok_iff.mp resolved
    exact ⟨count, output, texts_of_resolve resolved⟩
  · exact ⟨HostCompiler.spells.name_mem compiler, HostCompiler.spells.parse_name compiler⟩
  · exact ⟨Architecture.spells.name_mem architecture, Architecture.spells.parse_name architecture⟩
  · exact resolve_respelled (HostCompiler.spells.parse_canonical _)
      (Architecture.spells.parse_canonical _)
  · unfold canonical
    dsimp only
    rw [HostCompiler.spells.canonical_canonical, Architecture.spells.canonical_canonical]

end Request

end ColdBuild
