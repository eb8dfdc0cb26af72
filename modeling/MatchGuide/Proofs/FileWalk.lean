import MatchGuide.Store.Files
import Mathlib.Data.List.Induction

/-! Where a path leads among the files. A walk looks at directories alone, and it has a directory
behind it at every step. What is made, written or moved keeps each entry inside a directory. -/
namespace MatchGuide.Store

def Tree (s : Store) : Prop := ∀ p e, s.at? p = some e → s.at? p.dropLast = some .directory

theorem treeIff {s : Store} : s.Tree ↔
    ∀ e ∈ s.entries, s.at? e.1 = some e.2 → s.at? e.1.dropLast = some .directory := by
  constructor
  · exact fun tree e _ held => tree e.1 e.2 held
  · intro each p e held
    by_cases root : p = []
    · subst root
      rfl
    · have found : s.entries.lookup p = some e := by simpa [at?, root] using held
      obtain ⟨before, after, split, _⟩ := List.lookup_eq_some_iff.mp found
      exact each (p, e) (by simp [split]) held

instance (s : Store) : Decidable s.Tree := decidable_of_iff _ treeIff.symm

theorem emptyTree : empty.Tree := by decide

variable {s t : Store} {here p q : Place} {c : List Char} {cs ds : List (List Char)}

theorem stepCases (taken : step here c = .ok q) :
    ((c = [] ∨ c = ['.']) ∧ q = here) ∨ (c = ['.', '.'] ∧ q = here.dropLast) ∨
    (Path.isName c = true ∧ q = here ++ [.ofList c]) := by
  unfold step at taken
  split at taken
  · rename_i blank
    exact .inl ⟨blank, (Except.ok.inj taken).symm⟩
  split at taken
  · rename_i up
    exact .inr (.inl ⟨up, (Except.ok.inj taken).symm⟩)
  split at taken
  · contradiction
  · rename_i notBlank notUp _
    have name : Path.isName c = true := by simpa [Path.isName, not_or, and_assoc] using
      ⟨(not_or.mp notBlank).1, (not_or.mp notBlank).2, notUp⟩
    exact .inr (.inr ⟨name, (Except.ok.inj taken).symm⟩)

theorem followCons : s.follow here (c :: cs) = .ok q ↔
    s.at? here = some .directory ∧ ∃ next, step here c = .ok next ∧ s.follow next cs = .ok q := by
  rw [follow]
  cases s.at? here with
  | none => simp
  | some e =>
    cases e with
    | file content => simp
    | directory => cases step here c <;> simp [bind, Except.bind]

theorem followAppend : s.follow here (cs ++ ds) = .ok q ↔
    ∃ p, s.follow here cs = .ok p ∧ s.follow p ds = .ok q := by
  induction cs generalizing here with
  | nil => simp [follow]
  | cons c cs ih =>
    simp only [List.cons_append, followCons, ih]
    constructor
    · rintro ⟨dir, next, taken, p, walked, more⟩
      exact ⟨p, ⟨dir, next, taken, walked⟩, more⟩
    · rintro ⟨p, ⟨dir, next, taken, walked⟩, more⟩
      exact ⟨dir, next, taken, p, walked, more⟩

def DirsKept (s t : Store) : Prop := ∀ p, s.at? p = some .directory → t.at? p = some .directory

theorem followKept (kept : DirsKept s t) (walked : s.follow here cs = .ok q) :
    t.follow here cs = .ok q := by
  induction cs generalizing here with
  | nil => exact walked
  | cons c cs ih =>
    obtain ⟨dir, next, taken, rest⟩ := followCons.mp walked
    exact followCons.mpr ⟨kept here dir, next, taken, ih rest⟩

def Rooted (s : Store) (p : Place) : Prop := ∀ r, r <+: p → r ≠ p → s.at? r = some .directory

theorem rootedRoot (s : Store) : s.Rooted [] :=
  fun _ above other => absurd (List.prefix_nil.mp above) other

theorem rootedAbove (rooted : s.Rooted p) : s.at? p.dropLast = some .directory := by
  by_cases root : p = []
  · subst root
    rfl
  · refine rooted _ (List.dropLast_prefix p) fun same => ?_
    have shorter := congrArg List.length same
    have filled := List.length_pos_iff.mpr root
    rw [List.length_dropLast] at shorter
    omega

theorem stepRooted (rooted : s.Rooted here) (dir : s.at? here = some .directory)
    (taken : step here c = .ok q) : s.Rooted q := by
  rcases stepCases taken with ⟨_, rfl⟩ | ⟨_, rfl⟩ | ⟨_, rfl⟩
  · exact rooted
  · intro r above other
    have inside := above.trans (List.dropLast_prefix here)
    refine rooted r inside fun same => other ?_
    subst same
    exact List.IsPrefix.eq_of_length_le above (by simp)
  · intro r above other
    rcases List.prefix_concat_iff.mp above with same | inside
    · exact absurd same other
    · by_cases same : r = here
      · rwa [same]
      · exact rooted r inside same

theorem followRooted (rooted : s.Rooted here) (walked : s.follow here cs = .ok q) :
    s.Rooted q := by
  induction cs generalizing here with
  | nil =>
    obtain rfl := Except.ok.inj walked
    exact rooted
  | cons c cs ih =>
    obtain ⟨dir, next, taken, rest⟩ := followCons.mp walked
    exact ih (stepRooted rooted dir taken) rest

theorem followLast (rooted : s.Rooted here) (walked : s.follow here (cs ++ [c]) = .ok q) :
    s.at? q = some .directory ∨
    (Path.isName c = true ∧ ∃ d, s.at? d = some .directory ∧ q = d ++ [.ofList c]) := by
  obtain ⟨d, before, last⟩ := followAppend.mp walked
  obtain ⟨dir, next, taken, done⟩ := followCons.mp last
  obtain rfl := Except.ok.inj done
  rcases stepCases taken with ⟨_, rfl⟩ | ⟨_, rfl⟩ | ⟨name, rfl⟩
  · exact .inl dir
  · exact .inl (rootedAbove (followRooted rooted before))
  · exact .inr ⟨name, d, dir, rfl⟩

theorem followNames (level : ['.', '.'] ∉ cs) (walked : s.follow here cs = .ok q) :
    q = here ++ (cs.filter Path.isName).map String.ofList := by
  induction cs generalizing here with
  | nil =>
    obtain rfl := Except.ok.inj walked
    simp
  | cons c cs ih =>
    have ⟨notUp, level⟩ := not_or.mp (mt List.mem_cons.mpr level)
    obtain ⟨_, next, taken, rest⟩ := followCons.mp walked
    have reached := ih level rest
    rcases stepCases taken with ⟨blank, rfl⟩ | ⟨up, _⟩ | ⟨name, rfl⟩
    · have skipped : Path.isName c = false := by rcases blank with rfl | rfl <;> rfl
      simpa [skipped] using reached
    · exact absurd up.symm notUp
    · simpa [name] using reached

theorem followPrefix (level : ['.', '.'] ∉ cs) (walked : s.follow here cs = .ok q) :
    here <+: q := by
  rw [followNames level walked]
  exact List.prefix_append _ _

theorem followAbove (level : ['.', '.'] ∉ cs)
    (kept : ∀ r, r <+: q → s.at? r = some .directory → t.at? r = some .directory)
    (walked : s.follow here cs = .ok q) : t.follow here cs = .ok q := by
  induction cs generalizing here with
  | nil => exact walked
  | cons c cs ih =>
    have above := followPrefix level walked
    obtain ⟨dir, next, taken, rest⟩ := followCons.mp walked
    have rest := ih (fun mem => level (List.mem_cons_of_mem _ mem)) rest
    exact followCons.mpr ⟨kept here above dir, next, taken, rest⟩

theorem treeRooted (tree : s.Tree) {e : Entry} (held : s.at? p = some e) : s.Rooted p := by
  induction p using List.reverseRecOn generalizing e with
  | nil => exact rootedRoot s
  | append_singleton d name ih =>
    have dir : s.at? d = some .directory := by simpa using tree _ _ held
    intro r above other
    rcases List.prefix_concat_iff.mp above with same | inside
    · exact absurd same other
    · by_cases same : r = d
      · rwa [same]
      · exact ih dir r inside same

theorem putTree (tree : s.Tree) {e : Entry} (above : s.at? p.dropLast = some .directory)
    (free : s.at? p = some .directory → e = .directory) : (s.put p e).Tree := by
  intro r f held
  by_cases root : p = []
  · have nowhere : ∀ r, (s.put p e).at? r = s.at? r := fun r => by
      by_cases same : r = p
      · rw [same, root]
        rfl
      · exact atPutOther s same e
    rw [nowhere] at held ⊢
    exact tree r f held
  have parent : s.at? r.dropLast = some .directory := by
    by_cases same : r = p
    · rwa [same]
    · rw [atPutOther s same] at held
      exact tree r f held
  by_cases into : r.dropLast = p
  · rw [into, atPutSelf s root, free (into ▸ parent)]
  · rwa [atPutOther s into]

theorem eraseTree (tree : s.Tree) {content : Bytes} (file : s.at? p = some (.file content)) :
    (s.erase p).Tree := by
  have root : p ≠ [] := fun same => by simp [same] at file
  intro r e held
  have other : r ≠ p := fun same => by simp [same, atEraseSelf s root] at held
  rw [atEraseOther s other] at held
  have parent := tree r e held
  have outside : r.dropLast ≠ p := fun same => by simp [same, file] at parent
  rwa [atEraseOther s outside]

/- What the making of directories along a way has changed: directories were added, each at a place
to which a first part of the way leads. -/
structure Grown (s t : Store) (here : Place) (cs : List (List Char)) : Prop where
  kept : ∀ p e, s.at? p = some e → t.at? p = some e
  made : ∀ p, s.at? p = none → t.at? p = none ∨
    (t.at? p = some .directory ∧ ∃ ds, ds <+: cs ∧ t.follow here ds = .ok p)

theorem grownRefl (s : Store) (here : Place) (cs : List (List Char)) : Grown s s here cs :=
  ⟨fun _ _ held => held, fun _ free => .inl free⟩

theorem grownOnward {next : Place} (dir : s.at? here = some .directory)
    (taken : step here c = .ok next) (grown : Grown s t next cs) : Grown s t here (c :: cs) where
  kept := grown.kept
  made p free := by
    rcases grown.made p free with still | ⟨made, ds, first, walked⟩
    · exact .inl still
    · refine .inr ⟨made, c :: ds, List.cons_prefix_cons.mpr ⟨rfl, first⟩, ?_⟩
      exact followCons.mpr ⟨grown.kept _ _ dir, next, taken, walked⟩

theorem grownPut {next : Place} (dir : s.at? here = some .directory)
    (taken : step here c = .ok next) (free : s.at? next = none)
    (grown : Grown (s.put next .directory) t next cs) : Grown s t here (c :: cs) := by
  have root : next ≠ [] := fun same => by simp [same] at free
  have before : ∀ p e, s.at? p = some e → (s.put next .directory).at? p = some e := by
    intro p e held
    have other : p ≠ next := fun same => by simp [same, free] at held
    rwa [atPutOther s other]
  have dirs := grown.kept _ _ (before here _ dir)
  refine ⟨fun p e held => grown.kept p e (before p e held), fun p absent => ?_⟩
  by_cases same : p = next
  · subst same
    have walked : t.follow here [c] = .ok p := followCons.mpr ⟨dirs, p, taken, rfl⟩
    exact .inr ⟨grown.kept _ _ (atPutSelf s root _), [c], ⟨cs, rfl⟩, walked⟩
  · rcases grown.made p (by rwa [atPutOther s same]) with still | ⟨made, ds, first, walked⟩
    · exact .inl still
    · refine .inr ⟨made, c :: ds, List.cons_prefix_cons.mpr ⟨rfl, first⟩, ?_⟩
      exact followCons.mpr ⟨dirs, next, taken, walked⟩

theorem makeAlongGrown (dir : s.at? here = some .directory) :
    Grown s (s.makeAlong here cs).1 here cs := by
  induction cs generalizing s here with
  | nil => exact grownRefl s here []
  | cons c cs ih =>
    unfold makeAlong
    split
    · exact grownRefl s here _
    · rename_i next taken
      split
      · rename_i found
        exact grownOnward dir taken (ih found)
      · exact grownRefl s here _
      · rename_i free
        have root : next ≠ [] := fun same => by simp [same] at free
        exact grownPut dir taken free (ih (atPutSelf s root _))

theorem makeAlongTree (tree : s.Tree) (dir : s.at? here = some .directory) :
    (s.makeAlong here cs).1.Tree := by
  induction cs generalizing s here with
  | nil => exact tree
  | cons c cs ih =>
    unfold makeAlong
    split
    · exact tree
    · rename_i next taken
      split
      · rename_i found
        exact ih tree found
      · exact tree
      · rename_i free
        have root : next ≠ [] := fun same => by simp [same] at free
        have above : s.at? next.dropLast = some .directory := by
          rcases stepCases taken with ⟨_, rfl⟩ | ⟨_, rfl⟩ | ⟨_, rfl⟩
          · simp [dir] at free
          · simp [tree _ _ dir] at free
          · simpa using dir
        exact ih (putTree tree above fun _ => rfl) (atPutSelf s root _)

variable {path : String}

theorem locateIff : s.locate path = .ok q ↔
    path.toList ≠ [] ∧ fault? path = none ∧ s.follow [] (Path.components path) = .ok q := by
  unfold locate
  split
  · simp_all
  · split <;> simp_all

theorem locateKept (kept : DirsKept s t) (led : s.locate path = .ok q) :
    t.locate path = .ok q := by
  obtain ⟨filled, sound, walked⟩ := locateIff.mp led
  exact locateIff.mpr ⟨filled, sound, followKept kept walked⟩

theorem locateRooted (led : s.locate path = .ok q) : s.Rooted q :=
  followRooted (rootedRoot s) (locateIff.mp led).2.2

theorem findIff {e : Entry} :
    s.find? path = some e ↔ ∃ q, s.locate path = .ok q ∧ s.at? q = some e := by
  unfold find?
  split <;> simp_all

theorem readIff {content : Bytes} :
    s.read path = .ok content ↔ s.find? path = some (.file content) := by
  rw [findIff, read]
  cases s.locate path with
  | error e => simp [bind, Except.bind]
  | ok q =>
    simp only [bind, Except.bind, Except.ok.injEq, exists_eq_left']
    cases s.at? q with
    | none => simp
    | some e => cases e <;> simp

theorem existsIff : s.exists? path = true ↔
    (∃ content, s.find? path = some (.file content)) ∨ s.isDirectory path = true := by
  rw [exists?, isDirectory]
  cases s.find? path with
  | none => simp
  | some e => cases e <;> simp

theorem makeDirectoriesGrown (s : Store) (path : String) :
    Grown s (s.makeDirectories path).1 [] (Path.components path) := by
  unfold makeDirectories
  split
  · exact grownRefl s _ _
  · exact makeAlongGrown rfl

theorem makeDirectoriesTree (tree : s.Tree) : (s.makeDirectories path).1.Tree := by
  unfold makeDirectories
  split
  · exact tree
  · exact makeAlongTree tree rfl

theorem writeIff {content : Bytes} : s.write path content = .ok t ↔
    ∃ p, s.locate path = .ok p ∧ s.at? p ≠ some .directory ∧ t = s.put p (.file content) := by
  unfold write
  cases s.locate path with
  | error e => simp [bind, Except.bind]
  | ok p =>
    simp only [bind, Except.bind, Except.ok.injEq, exists_eq_left']
    split <;> simp_all [eq_comm]

theorem moveFileIff {source target : String} : s.moveFile source target = .ok t ↔
    ∃ p q content, s.locate source = .ok p ∧ s.locate target = .ok q ∧
      s.at? p = some (.file content) ∧ s.at? q ≠ some .directory ∧
      t = (s.erase p).put q (.file content) := by
  unfold moveFile
  cases s.locate source with
  | error e => simp [bind, Except.bind]
  | ok p =>
    cases s.locate target with
    | error e => simp [bind, Except.bind]
    | ok q =>
      simp only [bind, Except.bind, Except.ok.injEq, exists_eq_left', exists_and_left]
      cases held : s.at? p with
      | none => simp
      | some e =>
        cases e with
        | directory => simp
        | file content =>
          cases s.at? q with
          | none => simp [eq_comm]
          | some f => cases f <;> simp [eq_comm]

end MatchGuide.Store
