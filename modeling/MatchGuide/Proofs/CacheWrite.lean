import MatchGuide.Feed.Cache
import MatchGuide.Proofs.DraftPath
import MatchGuide.Proofs.FileWalk

/-! Writing the cache as one step: afterwards the whole payload is at the path, or what was there
before still is. Nothing is said about a write that the machine does not finish. -/
namespace MatchGuide

namespace Store

variable {s t : Store} {p q : Place} {path : String}

theorem locatedName (led : s.locate path = .ok q) (other : s.at? q ≠ some .directory) :
    ∃ front name d, Path.Ends path.toList front name ∧ Path.isName name = true ∧
      q = d ++ [.ofList name] := by
  obtain ⟨front, name, ends⟩ := Path.endsExist path.toList
  obtain ⟨init, split⟩ := Path.endsSplit ends
  have walked := (locateIff.mp led).2.2
  rw [Path.components, split] at walked
  rcases followLast (rootedRoot s) walked with dir | ⟨named, d, _, rfl⟩
  · exact absurd dir other
  · exact ⟨front, name, d, ends, named, rfl⟩

theorem putFileKept (free : s.at? p ≠ some .directory) (content : Bytes) :
    DirsKept s (s.put p (.file content)) := by
  intro r dir
  have other : r ≠ p := fun same => free (same ▸ dir)
  rwa [atPutOther s other]

theorem putFileBack (free : s.at? p ≠ some .directory) (content : Bytes) :
    DirsKept (s.put p (.file content)) s := by
  have root : p ≠ [] := fun same => free (by rw [same, atRoot])
  intro r dir
  have other : r ≠ p := fun same => by simp [same, atPutSelf s root] at dir
  rwa [atPutOther s other] at dir

theorem eraseFileKept {content : Bytes} (file : s.at? p = some (.file content)) :
    DirsKept s (s.erase p) := by
  intro r dir
  have other : r ≠ p := fun same => by simp [same, file] at dir
  rwa [atEraseOther s other]

theorem putFileTree (tree : s.Tree) (led : s.locate path = .ok p)
    (free : s.at? p ≠ some .directory) (content : Bytes) : (s.put p (.file content)).Tree :=
  putTree tree (rootedAbove (locateRooted led)) fun dir => absurd dir free

def Above (s : Store) (path : String) (p : Place) : Prop :=
  ∃ first rest, Path.components path = first ++ rest ∧ rest ≠ [] ∧ s.follow [] first = .ok p

theorem aboveKept (kept : DirsKept s t) (above : s.Above path p) : t.Above path p := by
  obtain ⟨first, rest, split, filled, walked⟩ := above
  exact ⟨first, rest, split, filled, followKept kept walked⟩

/- The path leads to something, or nowhere up on its way. Up and down again through a directory that
is only made for it, a path may lead to what it did not lead to before. -/
def Firm (s : Store) (path : String) : Prop :=
  ['.', '.'] ∉ Path.components path ∨ s.find? path ≠ none

theorem componentsBelow {rest : List Char} {dir : String}
    (split : path.toList = dir.toList ++ '/' :: rest) :
    Path.components path = Path.components dir ++ Text.split (· == '/') rest := by
  rw [Path.components, split, Text.splitAppend (by decide)]
  rfl

theorem madeShorter (grown : Grown s t [] (Path.components (Path.parent path)))
    (deep : Path.parent path ≠ "") (level : ['.', '.'] ∉ Path.components path)
    (led : t.locate path = .ok q) (free : s.at? q = none) : t.at? q = none := by
  obtain ⟨rest, split, c, mem, named⟩ := Path.parentBefore deep
  rw [componentsBelow split] at level
  have level := not_or.mp (mt List.mem_append.mpr level)
  have name : Path.isName c = true := named.resolve_right fun up => level.2 (up ▸ mem)
  rcases grown.made q free with still | ⟨_, ds, first, walked⟩
  · exact still
  · have whole := (locateIff.mp led).2.2
    rw [componentsBelow split] at whole
    have here := followNames (fun up => level.1 (first.subset up)) walked
    have there := followNames (fun up => (List.mem_append.mp up).elim level.1 level.2) whole
    have shorter := (first.filter Path.isName).length_le
    have more : 0 < ((Text.split (· == '/') rest).filter Path.isName).length :=
      List.length_pos_of_mem (List.mem_filter.mpr ⟨mem, name⟩)
    have lengths := congrArg List.length (here.symm.trans there)
    simp only [List.nil_append, List.length_map, List.filter_append, List.length_append] at lengths
    omega

theorem grownFirm (tree : s.Tree) (firm : s.Firm path) (deep : Path.parent path ≠ "")
    (grown : Grown s t [] (Path.components (Path.parent path))) : t.find? path = s.find? path := by
  have dirs : DirsKept s t := fun p dir => grown.kept p _ dir
  have kept : ∀ e, s.find? path = some e → t.find? path = some e := by
    intro e found
    obtain ⟨q, led, held⟩ := findIff.mp found
    exact findIff.mpr ⟨q, locateKept dirs led, grown.kept q e held⟩
  rcases firm with level | found
  · refine Option.ext fun e => ⟨fun found => ?_, kept e⟩
    obtain ⟨q, led, held⟩ := findIff.mp found
    have old : s.at? q = some e := by
      cases before : s.at? q with
      | none =>
        rw [madeShorter grown deep level led before] at held
        cases held
      | some f => rwa [grown.kept q f before] at held
    obtain ⟨filled, sound, walked⟩ := locateIff.mp led
    have back : ∀ r, r <+: q → t.at? r = some .directory → s.at? r = some .directory := by
      intro r above dir
      by_cases same : r = q
      · rw [same] at dir ⊢
        rwa [held, ← old] at dir
      · exact treeRooted tree old r above same
    exact findIff.mpr ⟨q, locateIff.mpr ⟨filled, sound, followAbove level back walked⟩, old⟩
  · obtain ⟨e, found⟩ := Option.ne_none_iff_exists'.mp found
    rw [found, kept e found]

end Store

namespace Cache
open Store

variable {s t : Store} {p q : Place} {path : String} {payload : Json}

def prepared (s : Store) (path : String) : Store :=
  if Path.parent path = "" then s else (s.makeDirectories (Path.parent path)).1

theorem writePrepared (s : Store) (path : String) (payload : Json) :
    (∃ dir, write s path payload = (prepared s path, .error (.creating dir))) ∨
    write s path payload = publish (prepared s path) path payload := by
  unfold write prepared
  by_cases flat : Path.parent path = ""
  · simp [flat]
  · simp only [String.isEmpty_iff, flat, if_false]
    split
    · rename_i made e failed
      exact .inl ⟨_, by rw [failed]⟩
    · rename_i made done
      exact .inr (by rw [done])

theorem preparedGrown (s : Store) (path : String) :
    prepared s path = s ∨ (Path.parent path ≠ "" ∧
      Grown s (prepared s path) [] (Path.components (Path.parent path))) := by
  unfold prepared
  split
  · exact .inl rfl
  · rename_i deep
    exact .inr ⟨deep, makeDirectoriesGrown s _⟩

theorem preparedTree (tree : s.Tree) : (prepared s path).Tree := by
  unfold prepared
  split
  · exact tree
  · exact makeDirectoriesTree tree

theorem preparedFirm (tree : s.Tree) (firm : s.Firm path) :
    (prepared s path).find? path = s.find? path := by
  rcases preparedGrown s path with same | ⟨deep, grown⟩
  · rw [same]
  · exact grownFirm tree firm deep grown

def OnlyAbove (before after : Store) (path : String) (p : Place) : Prop :=
  after.at? p = before.at? p ∨
    (before.at? p = none ∧ after.at? p = some .directory ∧ after.Above path p)

theorem preparedAbove (s : Store) (path : String) (p : Place) :
    OnlyAbove s (prepared s path) path p := by
  rcases preparedGrown s path with same | ⟨deep, grown⟩
  · exact .inl (by rw [same])
  cases before : s.at? p with
  | some e => exact .inl (by rw [grown.kept p e before, before])
  | none =>
    rcases grown.made p before with still | ⟨made, ds, first, walked⟩
    · exact .inl (by rw [still, before])
    · obtain ⟨rest, split, _⟩ := Path.parentBefore deep
      obtain ⟨more, whole⟩ := first
      refine .inr ⟨before, made, ds, more ++ Text.split (· == '/') rest, ?_, ?_, walked⟩
      · rw [componentsBelow split, ← whole, List.append_assoc]
      · simp [Text.splitNeNil]

theorem draftApart (target : s.locate path = .ok q) (unbarred : s.at? q ≠ some .directory)
    (draft : s.locate (draftPath path) = .ok p) (free : s.at? p ≠ some .directory) : p ≠ q := by
  obtain ⟨_, name, d, ends, named, rfl⟩ := locatedName target unbarred
  obtain ⟨_, name', d', ends', named', rfl⟩ := locatedName draft free
  have replaced := Path.draftReplaced ends named (by decide) ends' named'
  have other := Path.replacedOther (by decide) replaced
  intro same
  have last := (List.append_inj' same rfl).2
  exact other (String.ofList_injective (List.cons.inj last).1)

def movedInto (s : Store) (draft file : Place) (content : Bytes) : Store :=
  ((s.put draft (.file content)).erase draft).put file (.file content)

inductive Published (s : Store) (path : String) (payload : Json) :
    Store → Except CacheError Unit → Prop where
  | unwritten : Published s path payload s (.error (.writing (draftPath path)))
  | unmoved {d : Place} (draft : s.locate (draftPath path) = .ok d)
      (free : s.at? d ≠ some .directory) :
      Published s path payload (s.put d (.file (bytes payload)))
        (.error (.moving (draftPath path) path))
  | moved {d f : Place} (draft : s.locate (draftPath path) = .ok d)
      (free : s.at? d ≠ some .directory) (target : s.locate path = .ok f)
      (unbarred : s.at? f ≠ some .directory) :
      Published s path payload (movedInto s d f (bytes payload)) (.ok ())

theorem publishPublished (s : Store) (path : String) (payload : Json) :
    Published s path payload (publish s path payload).1 (publish s path payload).2 := by
  unfold publish
  dsimp only
  split
  · exact .unwritten
  · rename_i written wrote
    obtain ⟨p, draft, free, rfl⟩ := writeIff.mp wrote
    split
    · exact .unmoved draft free
    · rename_i moved went
      have root : p ≠ [] := fun same => free (by rw [same, atRoot])
      obtain ⟨p', q, content, source, target, file, unbarred, rfl⟩ := moveFileIff.mp went
      rw [locateKept (putFileKept free _) draft] at source
      obtain rfl := Except.ok.inj source
      rw [atPutSelf s root] at file
      obtain rfl := Entry.file.inj (Option.some.inj file)
      have target' := locateKept (putFileBack free _) target
      refine .moved draft free target' fun dir => unbarred ?_
      exact putFileKept free _ q dir

theorem unmovedFind (draft : s.locate (draftPath path) = .ok p) (free : s.at? p ≠ some .directory)
    (content : Bytes) : (s.put p (.file content)).find? path = s.find? path := by
  have root : p ≠ [] := fun same => free (by rw [same, atRoot])
  have kept := putFileKept free content
  have apart : ∀ q, s.locate path = .ok q → q ≠ p := by
    rintro q target rfl
    have file : (s.put q (.file content)).at? q ≠ some .directory := by simp [atPutSelf s root]
    exact draftApart (locateKept kept target) file (locateKept kept draft) file rfl
  refine Option.ext fun e => ?_
  rw [findIff, findIff]
  constructor
  · rintro ⟨q, led, held⟩
    have led := locateKept (putFileBack free content) led
    exact ⟨q, led, by rwa [atPutOther s (apart q led)] at held⟩
  · rintro ⟨q, led, held⟩
    exact ⟨q, locateKept kept led, by rwa [atPutOther s (apart q led)]⟩

/- A write that went through has the whole payload at the path and no draft left. A write that
failed has left there what was there. Beside the draft nothing else has changed, but for directories
made above the path. -/
structure AllOrNothing (before after : Store) (path : String) (payload : Json)
    (result : Except CacheError Unit) : Prop where
  written : result = .ok () →
    after.find? path = some (.file (bytes payload)) ∧ after.find? (draftPath path) = none
  kept : ∀ e, result = .error e → before.Firm path → after.find? path = before.find? path
  others : ∀ p, (result = .ok () → after.locate path ≠ .ok p) →
    after.locate (draftPath path) ≠ .ok p → OnlyAbove before after path p

theorem onlyAbovePut (above : OnlyAbove s t path p) (other : p ≠ q) {content : Bytes}
    (free : t.at? q ≠ some .directory) : OnlyAbove s (t.put q (.file content)) path p := by
  rw [OnlyAbove, atPutOther t other]
  exact above.imp id fun ⟨absent, dir, first⟩ => ⟨absent, dir, aboveKept (putFileKept free _) first⟩

theorem unwrittenWhole {e : CacheError} (tree : s.Tree) :
    AllOrNothing s (prepared s path) path payload (.error e) where
  written := nofun
  kept _ _ firm := preparedFirm tree firm
  others p _ _ := preparedAbove s path p

theorem unmovedWhole {e : CacheError} (tree : s.Tree)
    (draft : (prepared s path).locate (draftPath path) = .ok p)
    (free : (prepared s path).at? p ≠ some .directory) :
    AllOrNothing s ((prepared s path).put p (.file (bytes payload))) path payload (.error e) where
  written := nofun
  kept _ _ firm := by rw [unmovedFind draft free, preparedFirm tree firm]
  others r _ apart := by
    have other : r ≠ p := by
      rintro rfl
      exact apart (locateKept (putFileKept free _) draft)
    exact onlyAbovePut (preparedAbove s path r) other free

theorem movedAtOther {r : Place} {content : Bytes} (notFile : r ≠ q) (notDraft : r ≠ p) :
    (movedInto s p q content).at? r = s.at? r := by
  rw [movedInto, atPutOther _ notFile, atEraseOther _ notDraft, atPutOther _ notDraft]

theorem movedKept {content : Bytes} (free : s.at? p ≠ some .directory)
    (unbarred : s.at? q ≠ some .directory) : DirsKept s (movedInto s p q content) := by
  intro r dir
  have notFile : r ≠ q := fun same => unbarred (same ▸ dir)
  have notDraft : r ≠ p := fun same => free (same ▸ dir)
  rwa [movedAtOther notFile notDraft]

theorem movedWhole (draft : (prepared s path).locate (draftPath path) = .ok p)
    (free : (prepared s path).at? p ≠ some .directory)
    (target : (prepared s path).locate path = .ok q)
    (unbarred : (prepared s path).at? q ≠ some .directory) :
    AllOrNothing s (movedInto (prepared s path) p q (bytes payload)) path payload (.ok ()) := by
  have apart := draftApart target unbarred draft free
  have inner : p ≠ [] := fun same => free (by rw [same, atRoot])
  have below : q ≠ [] := fun same => unbarred (by rw [same, atRoot])
  have kept : DirsKept (prepared s path) (movedInto (prepared s path) p q (bytes payload)) :=
    movedKept free unbarred
  refine ⟨fun _ => ⟨?_, ?_⟩, nofun, fun r notFile notDraft => ?_⟩
  · exact findIff.mpr ⟨q, locateKept kept target, atPutSelf _ below _⟩
  · have gone : (movedInto (prepared s path) p q (bytes payload)).at? p = none := by
      rw [movedInto, atPutOther _ apart, atEraseSelf _ inner]
    rw [find?, locateKept kept draft]
    exact gone
  · have notFile : r ≠ q := by
      rintro rfl
      exact notFile rfl (locateKept kept target)
    have notDraft : r ≠ p := by
      rintro rfl
      exact notDraft (locateKept kept draft)
    rw [OnlyAbove, movedAtOther notFile notDraft]
    refine (preparedAbove s path r).imp id fun ⟨absent, dir, first⟩ => ?_
    exact ⟨absent, dir, aboveKept kept first⟩

theorem publishedTree {e : Except CacheError Unit} (tree : s.Tree)
    (ended : Published s path payload t e) : t.Tree := by
  cases ended with
  | unwritten => exact tree
  | unmoved draft free => exact putFileTree tree draft free _
  | @moved d f draft free target unbarred =>
    have inner : d ≠ [] := fun same => free (by rw [same, atRoot])
    have written := putFileTree tree draft free (bytes payload)
    have erased := eraseTree written (atPutSelf s inner _)
    have kept : DirsKept s ((s.put d (.file (bytes payload))).erase d) := fun r dir =>
      eraseFileKept (atPutSelf s inner _) r (putFileKept free _ r dir)
    have apart := draftApart target unbarred draft free
    refine putFileTree erased (locateKept kept target) (fun dir => unbarred ?_) _
    rwa [atEraseOther _ apart.symm, atPutOther _ apart.symm] at dir

theorem writeTree (tree : s.Tree) : (write s path payload).1.Tree := by
  rcases writePrepared s path payload with ⟨dir, failed⟩ | rest
  · rw [failed]
    dsimp only
    exact preparedTree tree
  · rw [rest]
    exact publishedTree (preparedTree tree) (publishPublished _ path payload)

def afterWrites (s : Store) (writes : List (String × Json)) : Store :=
  writes.foldl (fun s w => (write s w.1 w.2).1) s

theorem afterWritesTree (tree : s.Tree) (writes : List (String × Json)) :
    (afterWrites s writes).Tree := by
  induction writes generalizing s with
  | nil => exact tree
  | cons w writes ih =>
    rw [afterWrites, List.foldl_cons]
    exact ih (writeTree tree)

theorem oneWriteWhole (tree : s.Tree) :
    AllOrNothing s (write s path payload).1 path payload (write s path payload).2 := by
  rcases writePrepared s path payload with ⟨dir, failed⟩ | rest
  · rw [failed]
    dsimp only
    exact unwrittenWhole tree
  · have ended := publishPublished (prepared s path) path payload
    rw [rest]
    generalize publish (prepared s path) path payload = outcome at ended
    obtain ⟨after, result⟩ := outcome
    dsimp only at ended ⊢
    cases ended with
    | unwritten => exact unwrittenWhole tree
    | unmoved draft free => exact unmovedWhole tree draft free
    | moved draft free target unbarred => exact movedWhole draft free target unbarred

theorem writesAllOrNothing (tree : s.Tree) (earlier : List (String × Json)) (path : String)
    (payload : Json) :
    let before := afterWrites s earlier
    AllOrNothing before (write before path payload).1 path payload (write before path payload).2 :=
  oneWriteWhole (afterWritesTree tree earlier)

def littered : Store := ⟨[(["data"], .directory), (["data", "fixtures.json.tmp"], .file [0x7B])]⟩

theorem litteredDraftReplaced :
    littered.Tree ∧
    (write (afterWrites littered [("data/new/../x", .null)]) "data/fixtures.json" (.object [])).1.find?
      "data/fixtures.json" = some (.file (bytes (.object []))) ∧
    (write (afterWrites littered []) "data" .null).1.find? "data" = some .directory := by
  have tree : littered.Tree := by decide
  have whole := writesAllOrNothing tree [("data/new/../x", .null)] "data/fixtures.json" (.object [])
  have barred := writesAllOrNothing tree [] "data" .null
  refine ⟨tree, (whole.written (by decide)).1, ?_⟩
  rw [barred.kept (.moving "data.json.tmp" "data") (by decide) (.inl (by decide))]
  decide

/- The directory `a` is made for the way up, and then it is in the way of the file. -/
theorem upwardPathOpened :
    ¬ ∀ (s : Store) (path : String) (payload : Json) (e : CacheError), s.Tree →
      (write s path payload).2 = .error e → (write s path payload).1.find? path = s.find? path := by
  intro failureKeeps
  have same := failureKeeps .empty "a/../a" (.object []) (.moving "a/../a.json.tmp" "a/../a") emptyTree
    (by decide)
  exact absurd same (by decide)

end Cache
end MatchGuide
