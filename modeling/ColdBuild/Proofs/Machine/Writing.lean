import ColdBuild.Proofs.Machine.FileSystem

/-!
# What is written is found again

Where a path leads does not change when files get other texts and directories further names
(`FileSystem.resolveFrom_extends`). So a file that has been written holds the text at the end of its
path, also where it has been made by that, and no other file has changed
(`FileSystem.find_of_write`).
-/
namespace ColdBuild

/-- What a node may become while all paths lead where they did: a file may get another text, and a
directory further names. -/
inductive Node.Grows : Node → Node → Prop where
  | same (node : Node) : Grows node node
  | file (content content' : String) (mode mode' : Nat) :
    Grows (.file content mode) (.file content' mode')
  | directory (parent : Nat) {entries entries' : List (FileName × Nat)} (removed : Bool)
    (names : ∀ name number, entries.lookup name = some number →
      entries'.lookup name = some number) :
    Grows (.directory parent entries removed) (.directory parent entries' removed)

theorem Node.Grows.trans {a b c : Node} (first : a.Grows b) (second : b.Grows c) : a.Grows c := by
  cases first with
  | same => exact second
  | file content content' mode mode' =>
    cases second with
    | same => exact .file ..
    | file => exact .file ..
  | directory parent removed names =>
    cases second with
    | same => exact .directory parent removed names
    | directory _ _ names' =>
      exact .directory parent removed fun name number h => names' _ _ (names _ _ h)

namespace FileSystem

/-- All nodes are still there, and lead on as they did. -/
def Extends (fs fs' : FileSystem) : Prop :=
  ∀ number node, fs.at? number = some node → ∃ node', fs'.at? number = some node' ∧ node.Grows node'

section

variable {fs fs' : FileSystem} {fuel links left directory number parent : Nat}
  {segments : List FileName} {target : Target} {found found' : Option Nat}
  {follow create removed : Bool} {path : Path} {entries : List (FileName × Nat)} {name : FileName}

theorem Extends.exists_directory (extend : fs.Extends fs')
    (h : fs.at? number = some (.directory parent entries removed)) :
    ∃ entries', fs'.at? number = some (.directory parent entries' removed) ∧
      ∀ name number, entries.lookup name = some number → entries'.lookup name = some number := by
  obtain ⟨node, h', grows⟩ := extend _ _ h
  cases grows with
  | same => exact ⟨entries, h', fun _ _ => id⟩
  | directory _ _ names => exact ⟨_, h', names⟩

theorem Extends.link (extend : fs.Extends fs') (h : fs.at? number = some (.link path)) :
    fs'.at? number = some (.link path) := by
  obtain ⟨node, h', grows⟩ := extend _ _ h
  cases grows with
  | same => exact h'

/-- Nothing becomes a link. -/
theorem Extends.of_link (extend : fs.Extends fs') {node : Node} (h : fs.at? number = some node)
    (h' : fs'.at? number = some (.link path)) : node = .link path := by
  obtain ⟨node', there, grows⟩ := extend _ _ h
  cases there.symm.trans h'
  cases grows with
  | same => rfl

theorem Extends.lookup (extend : fs.Extends fs')
    (h : (fs.entries directory).lookup name = some number) :
    (fs'.entries directory).lookup name = some number := by
  unfold FileSystem.entries at h ⊢
  split at h
  · next here =>
    obtain ⟨entries', here', names⟩ := extend.exists_directory here
    rw [here']
    exact names _ _ h
  · cases h

theorem exists_of_approach (more : segments ≠ [])
    (h : fs.approach fuel links directory segments = .ok (target, left)) :
    ∃ node, fs.at? directory = some node := by
  cases segments with
  | nil => exact absurd rfl more
  | cons segment rest =>
    cases fuel with
    | zero => cases h
    | succ fuel =>
      rw [approach] at h
      split at h
      · next here => exact ⟨_, here⟩
      · cases h

theorem approach_extends (extend : fs.Extends fs')
    (h : fs.approach fuel links directory segments = .ok (target, left)) :
    fs'.approach fuel links directory segments = .ok (target, left) := by
  induction fuel generalizing links directory segments with
  | zero =>
    cases segments with
    | nil => exact h
    | cons => cases h
  | succ fuel ih =>
    cases segments with
    | nil => exact h
    | cons segment rest =>
      rw [approach] at h
      split at h
      · next parent entries removed here =>
        obtain ⟨entries', here', names⟩ := extend.exists_directory here
        rw [approach, here']
        dsimp only
        split at h
        · next stay =>
          rw [if_pos stay]
          exact ih h
        · next stay =>
          rw [if_neg stay]
          split at h
          · next up =>
            rw [if_pos up]
            exact ih h
          · next up =>
            rw [if_neg up]
            split at h
            · next last =>
              rw [if_pos last]
              exact h
            · next last =>
              rw [if_neg last]
              split at h
              · cases h
              · next short =>
                rw [if_neg short]
                split at h
                · cases h
                · next number entry =>
                  rw [names _ _ entry]
                  dsimp only
                  split at h
                  · cases h
                  · next path _ link =>
                    rw [extend.link link]
                    exact ih h
                  · next noLinkLeft noLink =>
                    have more : rest ≠ [] := by
                      rintro rfl
                      exact last rfl
                    obtain ⟨node, there⟩ := exists_of_approach more h
                    have stays : ∀ path, fs'.at? number ≠ some (.link path) := by
                      intro path link
                      cases extend.of_link there link
                      rcases Nat.eq_zero_or_eq_succ_pred _ with none | some
                      · exact noLinkLeft path there none
                      · exact noLink path _ there some
                    split
                    · next link => exact absurd link (stays _)
                    · next link => exact absurd link (stays _)
                    · exact ih h
      · cases h

/-- A path that leads somewhere goes on leading there, whatever is there now, as long as that is no
link to be followed. -/
theorem resolveFrom_extends (extend : fs.Extends fs')
    (h : fs.resolveFrom follow create links directory segments = .ok (target, found))
    (here : target.name = none → found' = found)
    (there : ∀ name, target.name = some name →
      (fs'.entries target.directory).lookup name = found')
    (ends : ∀ number path, found' = some number → fs'.at? number = some (.link path) →
      (follow || target.slash) = false) :
    fs'.resolveFrom follow create links directory segments = .ok (target, found') := by
  induction links using Nat.strongRecOn generalizing directory segments with
  | ind links ih =>
    rw [resolveFrom] at h
    split at h
    · cases h
    · next goal left reached =>
      rw [resolveFrom, approach_extends extend reached]
      dsimp only
      split at h
      · next unnamed =>
        cases h
        rw [here unnamed]
      · next name named =>
        split at h
        · cases h
        · next slash =>
          rw [if_neg slash]
          split at h
          · cases h
          · next short =>
            rw [if_neg short]
            split at h
            · next free =>
              cases h
              rw [there name named]
              cases found' with
              | none => rfl
              | some number =>
                dsimp only
                split
                · next path link passes => simp [ends number path rfl link] at passes
                · rfl
            · next number taken =>
              have taken' := extend.lookup taken
              rw [taken']
              dsimp only
              split at h
              · next path link passes =>
                rw [extend.link link, passes]
                dsimp only
                split at h
                · next room =>
                  rw [dif_pos room]
                  exact ih _ room.2 h
                · cases h
              · next stays =>
                cases h
                obtain rfl := (there name named).symm.trans taken'
                split
                · next path link passes => simp [ends number path rfl link] at passes
                · rfl

/-- What a path leads to does not depend on whether it may be made, if it is not refused. -/
theorem resolveFrom_create (h : fs.resolveFrom follow true links directory segments =
    .ok (target, found)) :
    fs.resolveFrom follow false links directory segments = .ok (target, found) := by
  induction links using Nat.strongRecOn generalizing directory segments with
  | ind links ih =>
    rw [resolveFrom] at h ⊢
    split at h
    · cases h
    · dsimp only
      split at h
      · exact h
      · split at h
        · cases h
        · rw [if_neg (by simp)]
          split at h
          · cases h
          · next short =>
            rw [if_neg short]
            split at h
            · exact h
            · split at h
              · split at h
                · next room =>
                  rw [dif_pos room]
                  exact ih _ room.2 h
                · cases h
              · exact h

theorem resolve_extends {current : Nat} (extend : fs.Extends fs')
    (h : fs.resolve current path follow create = .ok (target, found))
    (here : target.name = none → found' = found)
    (there : ∀ name, target.name = some name →
      (fs'.entries target.directory).lookup name = found')
    (ends : ∀ number path, found' = some number → fs'.at? number = some (.link path) →
      (follow || target.slash) = false) :
    fs'.resolve current path follow create = .ok (target, found') := by
  obtain ⟨checked, fine, h⟩ := bind_ok_iff.mp h
  exact bind_ok_iff.mpr ⟨checked, fine, resolveFrom_extends extend h here there ends⟩

theorem resolve_create {current : Nat}
    (h : fs.resolve current path follow true = .ok (target, found)) :
    fs.resolve current path follow false = .ok (target, found) := by
  obtain ⟨checked, fine, h⟩ := bind_ok_iff.mp h
  exact bind_ok_iff.mpr ⟨checked, fine, resolveFrom_create h⟩

theorem extends_refl (fs : FileSystem) : fs.Extends fs := fun _ node h => ⟨node, h, .same node⟩

theorem Extends.trans {fs'' : FileSystem} (first : fs.Extends fs') (second : fs'.Extends fs'') :
    fs.Extends fs'' := by
  intro number node h
  obtain ⟨node', h', grows⟩ := first _ _ h
  obtain ⟨node'', h'', grows'⟩ := second _ _ h'
  exact ⟨node'', h'', grows.trans grows'⟩

theorem extends_add {node : Node} : fs.Extends (fs.add node).1 :=
  fun _ node h => ⟨node, at?_add_of_some h, .same node⟩

theorem extends_set {node node' : Node} (h : fs.at? number = some node) (grows : node.Grows node') :
    fs.Extends (fs.set number node') := by
  intro other old h'
  by_cases same : other = number
  · subst same
    cases h.symm.trans h'
    exact ⟨node', at?_set_self h, grows⟩
  · exact ⟨old, (at?_set_of_ne same).trans h', .same old⟩

/-- What the names lead to when one of them is given anew. -/
theorem lookup_filter_concat (entries : List (FileName × Nat)) (other : FileName) :
    (entries.filter (·.1 ≠ name) ++ [(name, number)]).lookup other =
      if other = name then some number else entries.lookup other := by
  induction entries with
  | nil =>
    by_cases same : other = name
    · simp [same]
    · simp only [List.filter_nil, List.nil_append, List.lookup_cons, List.lookup_nil,
        beq_eq_false_iff_ne.mpr same, if_neg same]
  | cons entry entries ih =>
    obtain ⟨first, goal⟩ := entry
    by_cases renamed : first = name
    · rw [List.filter_cons_of_neg (by simp [renamed]), ih]
      by_cases same : other = name
      · simp [same]
      · simp only [if_neg same, List.lookup_cons, renamed, beq_eq_false_iff_ne.mpr same]
    · rw [List.filter_cons_of_pos (by simp [renamed]), List.cons_append]
      by_cases same : other = first
      · simp [same, renamed]
      · simp only [List.lookup_cons, beq_eq_false_iff_ne.mpr same, ih]

/-- A free name of a directory is taken. -/
theorem extends_enter (free : (fs.entries directory).lookup name = none) :
    fs.Extends (fs.enter directory name number) := by
  unfold FileSystem.enter
  split
  · next parent entries removed here =>
    refine extends_set here (.directory parent removed ?_)
    intro other found h
    rw [lookup_filter_concat, if_neg]
    · exact h
    · rintro rfl
      simp [FileSystem.entries, here, h] at free
  · exact extends_refl fs

theorem lookup_enter (here : fs.IsDirectory directory) :
    ((fs.enter directory name number).entries directory).lookup name = some number := by
  obtain ⟨parent, entries, removed, here⟩ := here
  simp only [FileSystem.enter, here, FileSystem.entries, at?_set_self here, lookup_filter_concat,
    if_true]

/-- A node that has been made is at its name, and nothing else has changed. -/
theorem create_spec {node : Node} (free : (fs.entries directory).lookup name = none)
    (h : fs.create directory name node = .ok (fs', number)) : fs.Extends fs' ∧
      (fs'.entries directory).lookup name = some number ∧ fs'.at? number = some node := by
  obtain ⟨⟨parent, entries, room⟩, rfl, rfl⟩ := create_iff.mp h
  have added : (fs.add node).1.at? directory = some (.directory parent entries false) :=
    at?_add_of_some room
  have free' : ((fs.add node).1.entries directory).lookup name = none := by
    simpa only [FileSystem.entries, room, added] using free
  refine ⟨extends_add.trans (extends_enter free'), lookup_enter ⟨_, _, _, added⟩, ?_⟩
  rw [at?_enter_of_ne (Nat.ne_of_gt (lt_size room)), at?_add_self]

end

section

variable {fs fs' : FileSystem} {current number : Nat} {path : Path} {text : String}

theorem find_of_resolve {target : Target}
    (h : fs.resolve current path true false = .ok (target, some number))
    (slash : target.slash = false) : fs.find current path = .ok number := by
  refine bind_ok_iff.mpr ⟨_, h, ?_⟩
  simp [slash, pure, Except.pure]

/-- What has been opened is at the end of the path, and all paths lead where they did. -/
theorem openForWriting_spec (sound : fs.Sound)
    (h : fs.openForWriting current path = .ok (fs', number)) :
    fs.Extends fs' ∧ fs'.find current path = .ok number ∧
      ((∃ content mode, fs'.at? number = some (.file content mode)) ∨
        fs' = fs ∧ ∃ device, fs'.at? number = some (.device device)) := by
  unfold openForWriting at h
  obtain ⟨⟨target, found⟩, reached, h⟩ := bind_ok_iff.mp h
  have leads := resolve_leads sound reached
  have reached' := resolve_create reached
  cases found with
  | none =>
    obtain ⟨name, named⟩ : ∃ name, target.name = some name :=
      Option.ne_none_iff_exists'.mp fun unnamed => by simpa using leads.here unnamed
    have free := leads.there name named
    dsimp only at h
    rw [named, Option.getD_some] at h
    obtain ⟨extend, entered, made⟩ := create_spec free.symm h
    have resolved : fs'.resolve current path true false = .ok (target, some number) := by
      refine resolve_extends extend reached' (fun unnamed => ?_) (fun name' same => ?_) ?_
      · cases named.symm.trans unnamed
      · cases named.symm.trans same
        exact entered
      · rintro _ path ⟨⟩ link
        cases made.symm.trans link
    exact ⟨extend, find_of_resolve resolved (leads.noSlash rfl name named),
      .inl ⟨_, _, made⟩⟩
  | some opened =>
    dsimp only at h
    obtain ⟨node, there⟩ := leads.exists_at? sound rfl
    rw [there] at h
    have slash : node.isDirectory = false → target.slash = false := by
      intro other
      cases named : target.name with
      | some name => exact leads.noSlash rfl name named
      | none =>
        obtain ⟨_, _, _, directory⟩ := leads.directory
        cases leads.here named
        cases there.symm.trans directory
        cases other
    cases node with
    | directory parent entries removed => cases h
    | utility name => cases h
    | link path => exact absurd there (leads.followed rfl _ _ rfl)
    | file content mode =>
      cases h
      exact ⟨extends_refl fs, find_of_resolve reached' (slash rfl), .inl ⟨_, _, there⟩⟩
    | device device =>
      cases h
      exact ⟨extends_refl fs, find_of_resolve reached' (slash rfl), .inr ⟨rfl, _, there⟩⟩

/-- No file changes when one is opened. -/
theorem at?_openForWriting {other mode : Nat} {content : String}
    (h : fs.openForWriting current path = .ok (fs', number))
    (file : fs.at? other = some (.file content mode)) :
    fs'.at? other = some (.file content mode) := by
  unfold openForWriting at h
  obtain ⟨⟨target, found⟩, -, h⟩ := bind_ok_iff.mp h
  cases found with
  | none =>
    obtain ⟨⟨parent, entries, room⟩, rfl, -⟩ := create_iff.mp h
    have different : other ≠ target.directory := by
      rintro rfl
      cases room.symm.trans file
    rw [at?_enter_of_ne different, at?_add_of_some file]
  | some opened =>
    dsimp only at h
    split at h <;> cases h
    exact file

theorem find_extends (sound : fs.Sound) (extend : fs.Extends fs')
    (h : fs.find current path = .ok number) : fs'.find current path = .ok number := by
  unfold find at h
  obtain ⟨⟨target, found⟩, reached, h⟩ := bind_ok_iff.mp h
  cases found with
  | none => cases h
  | some goal =>
    dsimp only at h
    split at h
    · cases h
    · next kind =>
      cases h
      have leads := resolve_leads sound reached
      obtain ⟨node, there⟩ := leads.exists_at? sound rfl
      obtain ⟨node', there', grows⟩ := extend _ _ there
      have resolved : fs'.resolve current path true false = .ok (target, some number) := by
        refine resolve_extends extend reached (fun _ => rfl) (fun name named => ?_) ?_
        · exact extend.lookup (leads.there name named).symm
        · rintro _ path ⟨⟩ link
          cases extend.of_link there link
          exact absurd there (leads.followed rfl _ _ rfl)
      refine bind_ok_iff.mpr ⟨_, resolved, ?_⟩
      dsimp only
      rw [there] at kind
      rw [there', if_neg]
      · rfl
      · cases grows <;> exact kind

/-- What has been written is at the end of the path, unless a device is there, and no other file
has changed. -/
theorem find_of_write (sound : fs.Sound) (h : fs.write current path text = .ok fs') :
    ∃ number, fs'.find current path = .ok number ∧
      ((∃ mode, fs'.at? number = some (.file text mode)) ∨
        fs' = fs ∧ ∃ device, fs'.at? number = some (.device device)) ∧
      ∀ other content mode, other ≠ number → fs.at? other = some (.file content mode) →
        fs'.at? other = some (.file content mode) := by
  unfold write at h
  obtain ⟨⟨opened, number⟩, made, h⟩ := bind_ok_iff.mp h
  obtain ⟨-, found, ⟨content, mode, there⟩ | ⟨same, device, there⟩⟩ :=
    openForWriting_spec sound made
  · dsimp only at h
    rw [there] at h
    cases h
    have extend := extends_set there (.file content text mode mode)
    refine ⟨number, find_extends (sound.openForWriting made) extend found,
      .inl ⟨mode, at?_set_self there⟩, fun other content mode different file => ?_⟩
    rw [at?_set_of_ne different]
    exact at?_openForWriting made file
  · have kept : fs' = opened := by
      dsimp only at h
      rw [there] at h
      cases device with
      | full =>
        dsimp only at h
        split at h <;> cases h
        rfl
      | sink => exact (Except.ok.inj h).symm
      | zero => exact (Except.ok.inj h).symm
    rw [kept]
    exact ⟨number, found, .inr ⟨same, device, there⟩, fun other content mode _ file =>
      at?_openForWriting made file⟩

end

end FileSystem

end ColdBuild
