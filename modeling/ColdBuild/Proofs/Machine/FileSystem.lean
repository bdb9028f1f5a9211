import ColdBuild.Machine.FileSystem
import ColdBuild.Proofs.Outcome
import Mathlib.Data.List.Nodup
import Mathlib.Logic.Relation

/-!
# Sound file systems

In a sound file system the root is a directory, every directory has one for its parent, and every
name in a directory is there once and leads to a node (`FileSystem.Sound`). Whatever is done to a
sound file system leaves a sound one (`FileSystem.Change.sound`), so a path never leads to a node
that is not there.
-/
namespace ColdBuild.FileSystem

section

variable {fs fs' : FileSystem} {number other directory : Nat} {node old : Node}

theorem at?_set : (fs.set number node).at? other =
    if other = number ∧ number < fs.nodes.size then some node else fs.at? other := by
  simp only [at?, set, Array.getElem?_setIfInBounds]
  split
  · next same =>
    subst same
    split <;> simp_all
  · next different => simp [Ne.symm different]

theorem at?_set_of_ne (different : other ≠ number) :
    (fs.set number node).at? other = fs.at? other := by
  simp [at?_set, different]

theorem lt_size (h : fs.at? number = some node) : number < fs.nodes.size := by
  obtain ⟨stamped, found, -⟩ := Option.map_eq_some_iff.mp h
  exact (Array.getElem?_eq_some_iff.mp found).1

theorem at?_set_self (h : fs.at? number = some old) :
    (fs.set number node).at? number = some node := by
  simp [at?_set, lt_size h]

theorem at?_add : (fs.add node).1.at? other =
    if other = fs.nodes.size then some node else fs.at? other := by
  simp only [at?, add, Array.getElem?_push]
  split <;> simp [*]

theorem at?_add_self : (fs.add node).1.at? fs.nodes.size = some node := by
  simp [at?_add]

theorem at?_add_of_some (h : fs.at? number = some old) :
    (fs.add node).1.at? number = some old := by
  rw [at?_add, if_neg (Nat.ne_of_lt (lt_size h)), h]

end

def IsDirectory (fs : FileSystem) (number : Nat) : Prop :=
  ∃ parent entries removed, fs.at? number = some (.directory parent entries removed)

/-- What a directory holds is there. -/
structure SoundDirectory (fs : FileSystem) (parent : Nat) (entries : List (FileName × Nat)) :
    Prop where
  parent : fs.IsDirectory parent
  present : ∀ entry ∈ entries, ∃ node, fs.at? entry.2 = some node
  distinct : (entries.map Prod.fst).Nodup

/-- The root and all parents are directories, and all names lead to nodes. -/
structure Sound (fs : FileSystem) : Prop where
  root : fs.IsDirectory root
  directories : ∀ {number parent entries removed},
    fs.at? number = some (.directory parent entries removed) → fs.SoundDirectory parent entries

/-- No node is lost, and none stops being a directory. -/
def Keeps (fs fs' : FileSystem) : Prop :=
  ∀ number node, fs.at? number = some node →
    ∃ node', fs'.at? number = some node' ∧ (node.isDirectory = true → node'.isDirectory = true)

theorem isDirectory_of_eq {node : Node} (h : node.isDirectory = true) :
    ∃ parent entries removed, node = .directory parent entries removed := by
  cases node with
  | directory parent entries removed => exact ⟨parent, entries, removed, rfl⟩
  | _ => cases h

/-- The file system with nothing but a root. -/
theorem sound_empty : ({} : FileSystem).Sound where
  root := ⟨0, [], false, rfl⟩
  directories := by
    intro number parent entries removed h
    cases number with
    | zero =>
      cases h
      exact ⟨⟨0, [], false, rfl⟩, by simp, by simp⟩
    | succ number => cases h

section

variable {fs fs' fs'' : FileSystem} {number parent : Nat} {node old : Node}
  {entries : List (FileName × Nat)} {removed : Bool}

theorem Keeps.trans (first : fs.Keeps fs') (second : fs'.Keeps fs'') : fs.Keeps fs'' := by
  intro number node h
  obtain ⟨node', h', directory⟩ := first number node h
  obtain ⟨node'', h'', directory'⟩ := second number node' h'
  exact ⟨node'', h'', directory' ∘ directory⟩

theorem Keeps.isDirectory (keeps : fs.Keeps fs') (h : fs.IsDirectory number) :
    fs'.IsDirectory number := by
  obtain ⟨parent, entries, removed, h⟩ := h
  obtain ⟨node, h', directory⟩ := keeps _ _ h
  obtain ⟨parent, entries, removed, rfl⟩ := isDirectory_of_eq (directory rfl)
  exact ⟨parent, entries, removed, h'⟩

theorem Keeps.soundDirectory (keeps : fs.Keeps fs') (h : fs.SoundDirectory parent entries) :
    fs'.SoundDirectory parent entries where
  parent := keeps.isDirectory h.parent
  present entry mem := by
    obtain ⟨node, h⟩ := h.present entry mem
    obtain ⟨node, h, -⟩ := keeps _ _ h
    exact ⟨node, h⟩
  distinct := h.distinct

theorem keeps_add : fs.Keeps (fs.add node).1 :=
  fun _ node h => ⟨node, at?_add_of_some h, id⟩

theorem keeps_set (h : fs.at? number = some old)
    (same : old.isDirectory = true → node.isDirectory = true) : fs.Keeps (fs.set number node) := by
  intro other node' h'
  by_cases different : other = number
  · subst different
    rw [h] at h'
    cases h'
    exact ⟨node, at?_set_self h, same⟩
  · exact ⟨node', (at?_set_of_ne different).trans h', id⟩

/-- A node that is added leads to nodes that are there. -/
theorem Sound.add (sound : fs.Sound) (holds : ∀ parent entries removed,
    node = .directory parent entries removed → fs.SoundDirectory parent entries) :
    (fs.add node).1.Sound where
  root := keeps_add.isDirectory sound.root
  directories := by
    intro number parent entries removed h
    rw [at?_add] at h
    split at h
    · cases h
      exact keeps_add.soundDirectory (holds parent entries removed rfl)
    · exact keeps_add.soundDirectory (sound.directories h)

/-- The same of a node that is changed and goes on being a directory if it was one. -/
theorem Sound.set (sound : fs.Sound) (h : fs.at? number = some old)
    (same : old.isDirectory = true → node.isDirectory = true) (holds : ∀ parent entries removed,
      node = .directory parent entries removed → fs.SoundDirectory parent entries) :
    (fs.set number node).Sound where
  root := (keeps_set h same).isDirectory sound.root
  directories := by
    intro other parent entries removed h'
    rw [at?_set] at h'
    split at h'
    · cases h'
      exact (keeps_set h same).soundDirectory (holds parent entries removed rfl)
    · exact (keeps_set h same).soundDirectory (sound.directories h')

theorem SoundDirectory.filter {keep : FileName × Nat → Bool}
    (h : fs.SoundDirectory parent entries) : fs.SoundDirectory parent (entries.filter keep) where
  parent := h.parent
  present entry mem := h.present entry (List.mem_of_mem_filter mem)
  distinct := h.distinct.sublist ((List.filter_sublist).map Prod.fst)

theorem SoundDirectory.enter {name : FileName} (h : fs.SoundDirectory parent entries)
    (present : fs.at? number = some node) :
    fs.SoundDirectory parent (entries.filter (·.1 ≠ name) ++ [(name, number)]) where
  parent := h.parent
  present entry mem := by
    rcases List.mem_append.mp mem with mem | mem
    · exact h.filter.present entry mem
    · cases List.mem_singleton.mp mem
      exact ⟨node, present⟩
  distinct := by
    have fresh : name ∉ (entries.filter (·.1 ≠ name)).map Prod.fst := by
      intro mem
      obtain ⟨entry, within, same⟩ := List.mem_map.mp mem
      exact of_decide_eq_true (List.mem_filter.mp within).2 same
    rw [List.map_append, List.map_singleton]
    exact List.nodup_append_comm.mp (List.nodup_cons.mpr ⟨fresh, h.filter.distinct⟩)

theorem keeps_refl (fs : FileSystem) : fs.Keeps fs := fun _ node h => ⟨node, h, id⟩

theorem keeps_enter (fs : FileSystem) (directory : Nat) (name : FileName) (number : Nat) :
    fs.Keeps (fs.enter directory name number) := by
  unfold FileSystem.enter
  split
  · next h => exact keeps_set h fun _ => rfl
  · exact keeps_refl fs

theorem Sound.enter (sound : fs.Sound) (present : fs.at? number = some node) (directory : Nat)
    (name : FileName) : (fs.enter directory name number).Sound := by
  unfold FileSystem.enter
  split
  · next parent entries removed h =>
    refine sound.set h (fun _ => rfl) ?_
    rintro _ _ _ ⟨⟩
    exact (sound.directories h).enter present
  · exact sound

theorem keeps_leave (fs : FileSystem) (directory : Nat) (name : FileName) :
    fs.Keeps (fs.leave directory name) := by
  unfold FileSystem.leave
  split
  · next h => exact keeps_set h fun _ => rfl
  · exact keeps_refl fs

theorem Sound.leave (sound : fs.Sound) (directory : Nat) (name : FileName) :
    (fs.leave directory name).Sound := by
  unfold FileSystem.leave
  split
  · next parent entries removed h =>
    refine sound.set h (fun _ => rfl) ?_
    rintro _ _ _ ⟨⟩
    exact (sound.directories h).filter
  · exact sound

/-- What makes a node: it is new, and has a name in a directory that is in use. -/
theorem create_iff {directory : Nat} {name : FileName} :
    fs.create directory name node = .ok (fs', number) ↔
      (∃ parent entries, fs.at? directory = some (.directory parent entries false)) ∧
        fs' = (fs.add node).1.enter directory name fs.nodes.size ∧ number = fs.nodes.size := by
  unfold FileSystem.create
  split
  · next parent entries h => simp [h, add, eq_comm]
  · next other =>
    simp only [reduceCtorEq, false_iff, not_and]
    rintro ⟨parent, entries, h⟩
    exact absurd h (other parent entries)

theorem Sound.create {directory : Nat} {name : FileName} (sound : fs.Sound)
    (holds : ∀ parent entries removed, node = .directory parent entries removed →
      fs.SoundDirectory parent entries)
    (h : fs.create directory name node = .ok (fs', number)) : fs'.Sound := by
  obtain ⟨-, rfl, -⟩ := create_iff.mp h
  exact (sound.add holds).enter at?_add_self directory name

end

/-! ### Directories that are made where they are missing -/

theorem at?_enter_of_ne {fs : FileSystem} {directory number other : Nat} {name : FileName}
    (different : other ≠ directory) :
    (fs.enter directory name number).at? other = fs.at? other := by
  unfold FileSystem.enter
  split
  · exact at?_set_of_ne different
  · rfl

/-- Names lead through directories, as far as they are taken. -/
def Passable (fs : FileSystem) : Nat → List FileName → Prop
  | _, [] => True
  | directory, name :: rest =>
    ∀ number, (fs.entries directory).lookup name = some number →
      fs.IsDirectory number ∧ fs.Passable number rest

section

variable {fs : FileSystem} {directory : Nat} {name : FileName} {rest names : List FileName}

theorem Sound.subdirectory (sound : fs.Sound) (here : fs.IsDirectory directory)
    (passable : fs.Passable directory (name :: rest)) :
    (fs.subdirectory directory name).1.Sound ∧
      (fs.subdirectory directory name).1.IsDirectory (fs.subdirectory directory name).2 ∧
      (fs.subdirectory directory name).1.Passable (fs.subdirectory directory name).2 rest := by
  unfold FileSystem.subdirectory
  split
  · next number taken =>
    obtain ⟨isDirectory, further⟩ := passable number taken
    exact ⟨sound, isDirectory, further⟩
  · obtain ⟨_, _, _, there⟩ := here
    have made : ((fs.add (.directory directory [] false)).1.enter directory name
        fs.nodes.size).at? fs.nodes.size = some (.directory directory [] false) := by
      rw [at?_enter_of_ne (Nat.ne_of_gt (lt_size there)), at?_add_self]
    have added := @Sound.add fs (.directory directory [] false) sound
      (by rintro _ _ _ ⟨⟩; exact ⟨⟨_, _, _, there⟩, by simp, by simp⟩)
    refine ⟨added.enter at?_add_self directory name, ⟨_, _, _, made⟩, ?_⟩
    cases rest with
    | nil => trivial
    | cons next rest =>
      -- nothing is in the new directory yet
      have empty : ((fs.add (.directory directory [] false)).1.enter directory name
          fs.nodes.size).entries fs.nodes.size = [] := by simp only [entries, made]
      intro number taken
      cases (congrArg (List.lookup next) empty).symm.trans taken

/-- Making directories on a way that leads through directories leaves the file system sound. -/
theorem Sound.makeDirectories (sound : fs.Sound) (passable : fs.Passable FileSystem.root names) :
    (fs.makeDirectories names).1.Sound := by
  have here := sound.root
  unfold FileSystem.makeDirectories
  generalize FileSystem.root = directory at passable here ⊢
  induction names generalizing fs directory with
  | nil => exact sound
  | cons name names ih =>
    obtain ⟨sound, here, passable⟩ := sound.subdirectory here passable
    exact ih sound _ passable here

end

/-! ### Where a path leads -/

theorem segments_ne_nil (path : Path) : path.segments ≠ [] := List.splitOn_ne_nil _ _

section

variable {fs : FileSystem} {fuel links left directory number : Nat} {segments : List FileName}
  {target : Target} {found : Option Nat} {follow create : Bool} {path : Path}

theorem lookup_mem {entries : List (FileName × Nat)} {name : FileName}
    (h : entries.lookup name = some number) : (name, number) ∈ entries := by
  obtain ⟨front, back, rfl, -⟩ := List.lookup_eq_some_iff.mp h
  simp

theorem Sound.exists_of_lookup (sound : fs.Sound) {name : FileName}
    (h : (fs.entries directory).lookup name = some number) : ∃ node, fs.at? number = some node := by
  unfold entries at h
  split at h
  · next at? => exact (sound.directories at?).present _ (lookup_mem h)
  · cases h

theorem approach_directory (sound : fs.Sound)
    (h : fs.approach fuel links directory segments = .ok (target, left))
    (start : segments = [] → fs.IsDirectory directory) : fs.IsDirectory target.directory := by
  induction fuel generalizing links directory segments with
  | zero =>
    cases segments with
    | nil =>
      cases h
      exact start rfl
    | cons => cases h
  | succ fuel ih =>
    cases segments with
    | nil =>
      cases h
      exact start rfl
    | cons segment rest =>
      rw [approach] at h
      split at h
      · next parent entries removed here =>
        have isDirectory : fs.IsDirectory directory := ⟨parent, entries, removed, here⟩
        split at h
        · exact ih h fun _ => isDirectory
        · split at h
          · exact ih h fun _ => (sound.directories here).parent
          · split at h
            · cases h
              exact isDirectory
            · next further =>
              have more : rest ≠ [] := by
                rintro rfl
                exact further rfl
              split at h
              · cases h
              · split at h
                · cases h
                · split at h
                  · cases h
                  · exact ih h fun empty => absurd (List.append_eq_nil_iff.mp empty).2 more
                  · exact ih h fun empty => absurd empty more
      · cases h

/-- What is found at the end of a path. -/
structure Leads (fs : FileSystem) (follow create : Bool) (target : Target) (found : Option Nat) :
    Prop where
  directory : fs.IsDirectory target.directory
  here : target.name = none → found = some target.directory
  there : ∀ name, target.name = some name → found = (fs.entries target.directory).lookup name
  noSlash : create = true → ∀ name, target.name = some name → target.slash = false
  followed : follow = true → ∀ number path, found = some number → fs.at? number ≠ some (.link path)

theorem resolveFrom_leads (sound : fs.Sound)
    (h : fs.resolveFrom follow create links directory segments = .ok (target, found))
    (start : segments ≠ []) : fs.Leads follow create target found := by
  induction links using Nat.strongRecOn generalizing directory segments with
  | ind links ih =>
    rw [resolveFrom] at h
    split at h
    · cases h
    · next goal left reached =>
      have isDirectory := approach_directory sound reached fun empty => absurd empty start
      split at h
      · next unnamed =>
        cases h
        obtain ⟨parent, entries, removed, here⟩ := isDirectory
        refine ⟨⟨parent, entries, removed, here⟩, fun _ => rfl, ?_, ?_, ?_⟩
        · simp [unnamed]
        · simp [unnamed]
        · rintro - number path ⟨⟩
          simp [here]
      · next name named =>
        split at h
        · cases h
        · next slash =>
          split at h
          · cases h
          · split at h
            · next free =>
              cases h
              refine ⟨isDirectory, by simp [named], ?_, ?_, by simp⟩
              · rintro _ same
                cases named.symm.trans same
                exact free.symm
              · intro creating _ _
                simpa [creating] using slash
            · next number taken =>
              split at h
              · next path link passes =>
                split at h
                · next room =>
                  exact ih _ room.2 h (List.append_ne_nil_of_left_ne_nil (segments_ne_nil path) _)
                · cases h
              · next stays =>
                cases h
                refine ⟨isDirectory, by simp [named], ?_, ?_, ?_⟩
                · rintro _ same
                  cases named.symm.trans same
                  exact taken.symm
                · intro creating _ _
                  simpa [creating] using slash
                · rintro following _ path ⟨⟩ link
                  exact stays path link (by simp [following])

theorem resolve_leads (sound : fs.Sound)
    (h : fs.resolve directory path follow create = .ok (target, found)) :
    fs.Leads follow create target found := by
  obtain ⟨-, -, h⟩ := bind_ok_iff.mp h
  exact resolveFrom_leads sound h (segments_ne_nil path)

theorem Leads.exists_at? (sound : fs.Sound) (leads : fs.Leads follow create target found)
    (h : found = some number) : ∃ node, fs.at? number = some node := by
  cases named : target.name with
  | none =>
    obtain ⟨parent, entries, removed, here⟩ := leads.directory
    cases h.symm.trans (leads.here named)
    exact ⟨_, here⟩
  | some name => exact sound.exists_of_lookup ((leads.there name named).symm.trans h)

/-- A path that leads to a node leads to one that is there. -/
theorem exists_of_find (sound : fs.Sound) (h : fs.find directory path follow = .ok number) :
    ∃ node, fs.at? number = some node := by
  unfold find at h
  obtain ⟨⟨target, found⟩, reached, h⟩ := bind_ok_iff.mp h
  cases found with
  | none => cases h
  | some goal =>
    dsimp only at h
    split at h
    · cases h
    · cases h
      exact (resolve_leads sound reached).exists_at? sound rfl

end

/-! ### What may be done -/

section

variable {fs fs' : FileSystem} {current number : Nat} {path goal : Path} {text : String}

theorem Sound.openForWriting (sound : fs.Sound)
    (h : fs.openForWriting current path = .ok (fs', number)) : fs'.Sound := by
  unfold FileSystem.openForWriting at h
  obtain ⟨⟨target, found⟩, reached, h⟩ := bind_ok_iff.mp h
  cases found with
  | none => exact sound.create (by rintro _ _ _ ⟨⟩) h
  | some opened =>
    dsimp only at h
    split at h <;> cases h
    exact sound

theorem Sound.write (sound : fs.Sound) (h : fs.write current path text = .ok fs') : fs'.Sound := by
  unfold FileSystem.write at h
  obtain ⟨⟨opened, number⟩, made, h⟩ := bind_ok_iff.mp h
  have sound := sound.openForWriting made
  dsimp only at h
  split at h
  · next content mode here =>
    cases h
    exact sound.set here id nofun
  · split at h <;> cases h
    exact sound
  · cases h
    exact sound

theorem Sound.makeDirectory (sound : fs.Sound) (h : fs.makeDirectory current path = .ok fs') :
    fs'.Sound := by
  unfold FileSystem.makeDirectory at h
  obtain ⟨⟨target, found⟩, reached, h⟩ := bind_ok_iff.mp h
  cases found with
  | some taken => cases h
  | none =>
    dsimp only at h
    obtain ⟨⟨made, number⟩, created, h⟩ := bind_ok_iff.mp h
    cases h
    refine sound.create ?_ created
    rintro _ _ _ ⟨⟩
    exact ⟨(resolve_leads sound reached).directory, by simp, by simp⟩

theorem Sound.unlink (sound : fs.Sound) (h : fs.unlink current path = .ok fs') : fs'.Sound := by
  unfold FileSystem.unlink at h
  obtain ⟨⟨target, found⟩, reached, h⟩ := bind_ok_iff.mp h
  cases found with
  | none => cases h
  | some number =>
    dsimp only at h
    split at h
    · cases h
    · cases h
    · split at h <;> cases h
      exact sound.leave _ _

theorem Sound.removeDirectory (sound : fs.Sound) (h : fs.removeDirectory current path = .ok fs') :
    fs'.Sound := by
  unfold FileSystem.removeDirectory at h
  obtain ⟨⟨target, found⟩, reached, h⟩ := bind_ok_iff.mp h
  cases found with
  | none => cases h
  | some number =>
    dsimp only at h
    split at h
    · cases h
    · next name parent entries removed named here =>
      split at h
      · cases h
      · cases h
        have keeps := keeps_leave fs target.directory name
        obtain ⟨node, there, -⟩ := keeps _ _ here
        refine (sound.leave _ _).set there (fun _ => rfl) ?_
        rintro _ _ _ ⟨⟩
        exact ⟨keeps.isDirectory (sound.directories here).parent, by simp, by simp⟩
    · cases h

theorem Sound.addName (sound : fs.Sound) (h : fs.addName current path goal = .ok fs') :
    fs'.Sound := by
  unfold FileSystem.addName at h
  obtain ⟨number, source, h⟩ := bind_ok_iff.mp h
  obtain ⟨node, present⟩ := exists_of_find sound source
  obtain ⟨⟨target, found⟩, reached, h⟩ := bind_ok_iff.mp h
  cases found with
  | some taken => cases h
  | none =>
    dsimp only at h
    split at h
    · cases h
    · split at h
      · split at h <;> cases h
        exact sound.enter present _ _
      · cases h

theorem Sound.makeLink (sound : fs.Sound) (h : fs.makeLink current path goal = .ok fs') :
    fs'.Sound := by
  unfold FileSystem.makeLink at h
  split at h
  · cases h
  · obtain ⟨⟨target, found⟩, reached, h⟩ := bind_ok_iff.mp h
    cases found with
    | some taken => cases h
    | none =>
      dsimp only at h
      split at h
      · cases h
      · obtain ⟨⟨made, number⟩, created, h⟩ := bind_ok_iff.mp h
        cases h
        exact sound.create (by rintro _ _ _ ⟨⟩) created

theorem Sound.touch (sound : fs.Sound) (number : Nat) : (fs.touch number).Sound := by
  unfold FileSystem.touch
  split
  · next node here =>
    refine sound.set here id ?_
    rintro parent entries removed rfl
    exact sound.directories here
  · exact sound

theorem Sound.congr (sound : fs.Sound) (same : ∀ number, fs'.at? number = fs.at? number) :
    fs'.Sound := by
  have keeps : fs.Keeps fs' := fun number node h => ⟨node, (same number).trans h, id⟩
  refine ⟨keeps.isDirectory sound.root, ?_⟩
  intro number parent entries removed h
  exact keeps.soundDirectory (sound.directories ((same number).symm.trans h))

theorem Sound.displace (sound : fs.Sound) (existing : Option Nat) :
    fs.Keeps (fs.displace existing) ∧ (fs.displace existing).Sound := by
  unfold FileSystem.displace
  split
  · next directory parent entries removed here =>
    rw [Option.bind_some] at here
    refine ⟨keeps_set here fun _ => rfl, sound.set here (fun _ => rfl) ?_⟩
    rintro _ _ _ ⟨⟩
    exact ⟨(sound.directories here).parent, by simp, by simp⟩
  · exact ⟨keeps_refl fs, sound⟩

/-- A directory that settles elsewhere has its parent there, and what it held. -/
theorem Sound.settle (sound : fs.Sound) {directory : Nat} (name : FileName) {node old : Node}
    (present : fs.at? number = some old) (same : node.isDirectory = true → old.isDirectory = true)
    (inside : fs.IsDirectory directory) (holds : ∀ parent entries removed,
      node = .directory parent entries removed → fs.SoundDirectory parent entries) :
    (fs.settle directory name number node).Sound := by
  have entered := sound.enter present directory name
  have keeps := keeps_enter fs directory name number
  unfold FileSystem.settle
  split
  · next parent entries removed =>
    have held := keeps.soundDirectory (holds parent entries removed rfl)
    obtain ⟨moved, there, still⟩ := keeps _ _ present
    have set := @Sound.set _ _ (.directory directory entries removed) _ entered there (fun _ => rfl)
      (by rintro _ _ _ ⟨⟩; exact ⟨keeps.isDirectory inside, held.present, held.distinct⟩)
    refine set.congr fun other => ?_
    simp only [at?, FileSystem.set, Array.getElem?_setIfInBounds]
    split
    · split <;> rfl
    · rfl
  · exact entered

/-- What renaming does: nothing, or a node that has a name gets another one. -/
theorem of_rename (h : fs.rename current path goal = .ok fs') : fs' = fs ∨
    ∃ origin target old new number node existing,
      fs.resolve current path false false = .ok (origin, some number) ∧
      fs.resolve current goal false false = .ok (target, existing) ∧
      fs.at? number = some node ∧ fs.IsDirectory target.directory ∧
      fs' = ((fs.displace existing).leave origin.directory old).settle target.directory new number
        node := by
  unfold FileSystem.rename at h
  obtain ⟨⟨origin, found⟩, source, h⟩ := bind_ok_iff.mp h
  cases found with
  | none => cases h
  | some number =>
    obtain ⟨_, ⟨⟩, h⟩ := bind_ok_iff.mp h
    obtain ⟨⟨target, existing⟩, reached, h⟩ := bind_ok_iff.mp h
    dsimp only at h
    split at h
    · next old new node _ _ here =>
      split at h
      · cases h
      · split at h
        · cases h
          exact .inl rfl
        · split at h
          · cases h
          · split at h
            · split at h
              · cases h
              · split at h
                · next room =>
                  exact .inr ⟨origin, target, old, new, number, node, existing, source, reached,
                    here, ⟨_, _, _, room⟩, (Except.ok.inj h).symm⟩
                · cases h
            · cases h
            · cases h
            · split at h
              · next room =>
                exact .inr ⟨origin, target, old, new, number, node, existing, source, reached,
                  here, ⟨_, _, _, room⟩, (Except.ok.inj h).symm⟩
              · cases h
    · cases h

theorem Sound.rename (sound : fs.Sound) (h : fs.rename current path goal = .ok fs') :
    fs'.Sound := by
  obtain rfl | ⟨origin, target, old, new, number, node, existing, -, -, here, inside, rfl⟩ :=
    of_rename h
  · exact sound
  · obtain ⟨keeps, displaced⟩ := sound.displace existing
    have keeps := keeps.trans (keeps_leave _ origin.directory old)
    obtain ⟨there, present, still⟩ := keeps _ _ here
    refine (displaced.leave _ _).settle new present still (keeps.isDirectory inside) ?_
    rintro parent entries removed rfl
    exact keeps.soundDirectory (sound.directories here)

end

/-- One of the things that may be done to a file system. -/
inductive Change (fs fs' : FileSystem) : Prop where
  | openForWriting {current number : Nat} {path : Path}
    (h : fs.openForWriting current path = .ok (fs', number))
  | write {current : Nat} {path : Path} {text : String}
    (h : fs.write current path text = .ok fs')
  | makeDirectory {current : Nat} {path : Path} (h : fs.makeDirectory current path = .ok fs')
  | makeLink {current : Nat} {path goal : Path} (h : fs.makeLink current path goal = .ok fs')
  | addName {current : Nat} {path goal : Path} (h : fs.addName current path goal = .ok fs')
  | rename {current : Nat} {path goal : Path} (h : fs.rename current path goal = .ok fs')
  | unlink {current : Nat} {path : Path} (h : fs.unlink current path = .ok fs')
  | removeDirectory {current : Nat} {path : Path} (h : fs.removeDirectory current path = .ok fs')
  | touch {number : Nat} (h : fs.touch number = fs')

section

variable {fs fs' : FileSystem}

theorem Change.sound (change : fs.Change fs') (sound : fs.Sound) : fs'.Sound := by
  cases change with
  | openForWriting h => exact sound.openForWriting h
  | write h => exact sound.write h
  | makeDirectory h => exact sound.makeDirectory h
  | makeLink h => exact sound.makeLink h
  | addName h => exact sound.addName h
  | rename h => exact sound.rename h
  | unlink h => exact sound.unlink h
  | removeDirectory h => exact sound.removeDirectory h
  | touch h => exact h ▸ sound.touch _

/-- A file system stays sound, whatever is done to it and however often. -/
theorem sound_of_changes (changes : Relation.ReflTransGen Change fs fs') (sound : fs.Sound) :
    fs'.Sound := by
  induction changes with
  | refl => exact sound
  | tail _ change ih => exact change.sound ih

end

end ColdBuild.FileSystem
