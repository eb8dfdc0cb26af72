import MatchGuide.Proofs.FileWalk
import MatchGuide.Proofs.Fragments

/-! Recordings that are offered, and what a player gets when it asks for their files. A directory
under the name of a file counts as a recording, and is led on instead of played. -/
namespace MatchGuide

structure PlainName (name : String) : Prop where
  quiet : ∀ c ∈ name.toList, Form.isQuiet c = true
  unescaped : ∀ c ∈ name.toList, c.toNat < 0x80 ∧ c ≠ '%'
  named : Path.isName name.toList = true

namespace PlainName
variable {name : String}

theorem unescapedAll {s : List Char} (all : s.all (fun c => c.toNat < 0x80 && c != '%') = true) :
    ∀ c ∈ s, c.toNat < 0x80 ∧ c ≠ '%' := fun c mem => by
  simpa using List.all_eq_true.mp all c mem

theorem unslashed (plain : PlainName name) : ∀ c ∈ name.toList, (c == '/') = false :=
  fun _ mem => Form.quietApart (plain.quiet _ mem) (by decide)

theorem filled (plain : PlainName name) : name.toList ≠ [] := fun empty => by
  have named := plain.named
  rw [empty] at named
  contradiction

theorem upward (plain : PlainName name) : ['.', '.'] ≠ name.toList := fun same => by
  have named := plain.named
  rw [← same] at named
  contradiction

theorem relative (plain : PlainName name) (rest : List Char) :
    (name.toList ++ rest).head? ≠ some '/' := by
  obtain ⟨first, others, list⟩ := List.exists_cons_of_ne_nil plain.filled
  have apart := beq_eq_false_iff_ne.mp (plain.unslashed first (by simp [list]))
  simpa [list] using apart

theorem notClosed (plain : PlainName name) (before : List Char) :
    (before ++ name.toList).getLast? ≠ some '/' :=
  Text.lastAbsent plain.filled (fun mem => beq_eq_false_iff_ne.mp (plain.unslashed _ mem) rfl) before

theorem numbered {ending : String} (n : Nat)
    (quiet : ∀ c ∈ ending.toList, Form.isQuiet c = true)
    (unescaped : ∀ c ∈ ending.toList, c.toNat < 0x80 ∧ c ≠ '%') : PlainName s!"{n}{ending}" := by
  have shape : s!"{n}{ending}".toList = Whole.chars n ++ ending.toList := by
    simp [Whole.chars, String.toList_append, Nat.toList_repr, toString]
  have digits := Whole.charsNumeral n
  refine ⟨?_, ?_, ?_⟩
  · rw [shape]
    exact List.forall_mem_append.mpr ⟨fun c mem => (Whole.numeralQuiet digits c mem).1, quiet⟩
  · rw [shape]
    exact List.forall_mem_append.mpr ⟨fun c mem => (Whole.numeralQuiet digits c mem).2, unescaped⟩
  · rw [shape]
    obtain ⟨first, rest, list⟩ := List.exists_cons_of_ne_nil digits.filled
    have digit := digits.digits first (by simp [list])
    have other : first ≠ '.' := by
      rintro rfl
      contradiction
    simp [Path.isName, list, other]

end PlainName

namespace Recordings

inductive Kept (root : String) (id : UInt32) : Source → String → Prop where
  | hls : Kept root id ⟨.hls, "recordings/hls/" ++ hlsName id⟩ (hlsPath root id)
  | dash : Kept root id ⟨.dash, "recordings/dash/" ++ dashName id⟩ (dashPath root id)

variable {root : String} {id : UInt32} {source : Source} {path : String}

theorem sourcesIff : source ∈ sources id ↔ ∃ path, Kept root id source path := by
  rw [sources, List.mem_cons, List.mem_singleton]
  constructor
  · rintro (rfl | rfl)
    · exact ⟨_, .hls⟩
    · exact ⟨_, .dash⟩
  · rintro ⟨path, kept⟩
    cases kept
    · exact .inl rfl
    · exact .inr rfl

theorem hasIff {f : Fixture} {store : Store} : (folder root).has store f = true ↔
    ∃ id source path, f.id = some id ∧ Kept root id source path ∧ store.exists? path = true := by
  unfold has
  constructor
  · intro found
    cases own : f.id with
    | none => simp [own] at found
    | some id =>
      simp only [own, Bool.or_eq_true] at found
      rcases found with hls | dash
      · exact ⟨id, _, _, rfl, .hls, hls⟩
      · exact ⟨id, _, _, rfl, .dash, dash⟩
  · rintro ⟨id, source, path, own, kept, there⟩
    simp only [own, Bool.or_eq_true]
    cases kept
    · exact .inl there
    · exact .inr there

theorem hlsPlain (id : UInt32) : PlainName (hlsName id) :=
  .numbered id.toNat (List.all_eq_true.mp (by decide)) (PlainName.unescapedAll (by decide))

theorem dashPlain (id : UInt32) : PlainName (dashName id) :=
  .numbered id.toNat (List.all_eq_true.mp (by decide)) (PlainName.unescapedAll (by decide))

theorem directoryPlain {dir : String} (mem : dir ∈ ["hls", "dash"]) : PlainName dir := by
  simp only [List.mem_cons, List.not_mem_nil, or_false] at mem
  rcases mem with rfl | rfl
  · exact ⟨List.all_eq_true.mp (by decide), PlainName.unescapedAll (by decide), rfl⟩
  · exact ⟨List.all_eq_true.mp (by decide), PlainName.unescapedAll (by decide), rfl⟩

theorem keptParts (kept : Kept root id source path) :
    ∃ dir name, PlainName dir ∧ PlainName name ∧
      source.url = "recordings/" ++ dir ++ "/" ++ name ∧
      path = Path.inside (Path.inside root dir) name := by
  cases kept with
  | hls => exact ⟨"hls", _, directoryPlain (by simp), hlsPlain id, rfl, rfl⟩
  | dash => exact ⟨"dash", _, directoryPlain (by simp), dashPlain id, rfl, rfl⟩

end Recordings

namespace Server
open Recordings (Kept)

namespace StaticFile
variable {dir name : String}

theorem plainPlace (root : String) (outer : PlainName dir) (inner : PlainName name) :
    place? root ('/' :: (dir.toList ++ '/' :: name.toList)) =
      some (Path.inside (Path.inside root dir) name) := by
  have relative := outer.relative ('/' :: name.toList)
  have dropped : ('/' :: (dir.toList ++ '/' :: name.toList)).dropWhile (· == '/') =
      dir.toList ++ '/' :: name.toList := by
    obtain ⟨first, rest, list⟩ := List.exists_cons_of_ne_nil outer.filled
    simp [list, outer.unslashed first (by simp [list])]
  have ascii : ∀ c ∈ dir.toList ++ '/' :: name.toList, c.toNat < 0x80 ∧ c ≠ '%' :=
    List.forall_mem_append.mpr ⟨outer.unescaped, List.forall_mem_cons.mpr ⟨by decide, inner.unescaped⟩⟩
  have parts : Path.components (.ofList (dir.toList ++ '/' :: name.toList)) =
      [dir.toList, name.toList] := by
    rw [Path.components, String.toList_ofList, Text.splitAtSeparator outer.unslashed rfl,
      Text.splitPlain inner.unslashed]
  have inside : [dir.toList, name.toList].contains ['.', '.'] = false := by
    simp [outer.upward, inner.upward]
  have names : names? ('/' :: (dir.toList ++ '/' :: name.toList)) = some [dir, name] := by
    rw [names?, dropped, Percent.plainRead ascii]
    simp only [Option.bind_eq_bind, Option.bind_some, parts, inside, String.toList_ofList,
      Bool.false_or, beq_iff_eq, if_neg relative, List.filter_cons_of_pos outer.named,
      List.filter_cons_of_pos inner.named, List.filter_nil, List.map_cons, List.map_nil,
      String.ofList_toList]
  rw [place?, names]
  rfl

theorem fileStatus {store : Store} {path : String} : (ofFile store path).status = 200 ↔
    ∃ content, store.find? path = some (.file content) := by
  simp only [← Store.readIff]
  unfold ofFile
  split <;> simp_all [Response.bare]

theorem fileServed {store : Store} {path : String} {content : Bytes}
    (held : store.find? path = some (.file content)) :
    ofFile store path = ⟨200, some (contentType path), none, .file content⟩ := by
  rw [ofFile, Store.readIff.mpr held]

end StaticFile

def sourceRequest (source : Source) : Request := ⟨"GET", "/" ++ source.url⟩

variable {c : Scene} {s : State} {root : String} {id : UInt32} {source : Source} {path : String}

theorem sourceHandled (mounted : c.site.recordings = .folder root)
    (kept : Kept root id source path) :
    ∃ below, StaticFile.place? root below = some path ∧ below.getLast? ≠ some '/' ∧
      handle c s (sourceRequest source) = (s, StaticFile.serve c.store root below none) := by
  obtain ⟨dir, name, outer, inner, address, rfl⟩ := Recordings.keptParts kept
  have quiet : ∀ n ∈ ["recordings", dir, name], ∀ c ∈ n.toList, Form.isQuiet c = true := by
    simp only [List.forall_mem_cons]
    exact ⟨List.all_eq_true.mp (by decide), outer.quiet, inner.quiet, nofun⟩
  have spelled : "/" ++ source.url =
      .ofList ('/' :: Text.join ['/'] (["recordings", dir, name].map String.toList)) := by
    have mount : "recordings/".toList = "recordings".toList ++ ['/'] := by decide
    rw [← String.toList_inj, address]
    simp only [String.toList_append, String.toList_ofList, mount, List.map_cons, List.map_nil,
      Text.join, List.append_assoc, List.cons_append, List.nil_append]
    rfl
  have joined : Text.join ['/'] ([dir, name].map String.toList) = dir.toList ++ '/' :: name.toList := by
    simp [Text.join]
  have below : Route.below [dir, name] = '/' :: (dir.toList ++ '/' :: name.toList) := by
    rw [Route.below, joined]
    exact if_neg (outer.relative _)
  have found : Route.ofPath? (sourceRequest source).path =
      some (.recording ('/' :: (dir.toList ++ '/' :: name.toList))) := by
    rw [sourceRequest, spelled, quietPath quiet, quietRoute (by simp) quiet, ← below]
    rfl
  have bare : (sourceRequest source).query? = none := by
    rw [sourceRequest, spelled, Request.query?, quietCut quiet]
  refine ⟨_, StaticFile.plainPlace root outer inner, ?_, ?_⟩
  · simpa using inner.notClosed ('/' :: (dir.toList ++ ['/']))
  · have idle : loads (sourceRequest source)
        (.recording ('/' :: (dir.toList ++ '/' :: name.toList))) = false := rfl
    have reading : (sourceRequest source).isRead = true := rfl
    rw [getHandled rfl found rfl, idle]
    simp only [Bool.false_eq_true, if_false, answer, mounted, filesAnswer, bare, reading, if_true]

theorem sourceFetched {content : Bytes} (mounted : c.site.recordings = .folder root)
    (kept : Kept root id source path) (held : c.store.find? path = some (.file content)) :
    (handle c s (sourceRequest source)).2 =
      ⟨200, some (StaticFile.contentType path), none, .file content⟩ := by
  obtain ⟨below, place, _, handled⟩ := sourceHandled (s := s) mounted kept
  have file : c.store.isDirectory path = false := by simp [Store.isDirectory, held]
  rw [handled, StaticFile.serve, place]
  simp only [file, Bool.false_eq_true, if_false]
  exact StaticFile.fileServed held

theorem fetchedIff (mounted : c.site.recordings = .folder root) (kept : Kept root id source path) :
    (handle c s (sourceRequest source)).2.status = 200 ↔
      ∃ content, c.store.find? path = some (.file content) := by
  constructor
  · obtain ⟨below, place, unclosed, handled⟩ := sourceHandled (s := s) mounted kept
    rw [handled, StaticFile.serve, place]
    simp only [if_neg unclosed]
    split
    · intro led
      exact absurd led (by simp [Response.bare])
    · exact StaticFile.fileStatus.mp
  · rintro ⟨content, held⟩
    rw [sourceFetched mounted kept held]

/- A recording is offered where a file can be fetched, and where a directory has the name of one. -/
theorem recordingsFetched (c : Scene) (s : State) {root : String}
    (mounted : c.site.recordings = .folder root) (f : Fixture) :
    (f.id = none → c.recorded f = false) ∧
    ∀ id, f.id = some id →
      (∀ source ∈ Recordings.sources id, ∃ path, Kept root id source path ∧
        ((handle c s (sourceRequest source)).2.status = 200 ↔
          ∃ content, c.store.find? path = some (.file content)) ∧
        ∀ content, c.store.find? path = some (.file content) →
          (handle c s (sourceRequest source)).2 =
            ⟨200, some (StaticFile.contentType path), none, .file content⟩) ∧
      (c.recorded f = true ↔
        (∃ source ∈ Recordings.sources id, (handle c s (sourceRequest source)).2.status = 200) ∨
          ∃ source path, Kept root id source path ∧ c.store.isDirectory path = true) := by
  have looked : c.recorded f = (Recordings.folder root).has c.store f := by
    rw [Scene.recorded, mounted]
  constructor
  · intro nameless
    refine Bool.eq_false_iff.mpr fun offered => ?_
    obtain ⟨id, _, _, own, _⟩ := Recordings.hasIff.mp (looked ▸ offered)
    rw [nameless] at own
    contradiction
  intro id own
  constructor
  · intro source listed
    obtain ⟨path, kept⟩ := Recordings.sourcesIff.mp listed
    exact ⟨path, kept, fetchedIff mounted kept, fun _ => sourceFetched mounted kept⟩
  · rw [looked, Recordings.hasIff]
    constructor
    · rintro ⟨other, source, path, same, kept, there⟩
      obtain rfl : id = other := Option.some.inj (own.symm.trans same)
      rcases Store.existsIff.mp there with file | directory
      · exact .inl ⟨source, Recordings.sourcesIff.mpr ⟨path, kept⟩, (fetchedIff mounted kept).mpr file⟩
      · exact .inr ⟨source, path, kept, directory⟩
    · rintro (⟨source, listed, fetched⟩ | ⟨source, path, kept, directory⟩)
      · obtain ⟨path, kept⟩ := Recordings.sourcesIff.mp listed
        exact ⟨id, source, path, own, kept,
          Store.existsIff.mpr (.inl ((fetchedIff mounted kept).mp fetched))⟩
      · exact ⟨id, source, path, own, kept, Store.existsIff.mpr (.inr directory)⟩

def numberedMatch : Fixture := ⟨"Cup", "A", "B", "", ⟨none, none⟩, .epoch, some 7⟩

theorem playlistFetched :
    let c := keptVisit.scene recordedSite
    c.site.recordings = .folder "kept" ∧ numberedMatch.id = some 7 ∧
      c.recorded numberedMatch = true ∧
      (handle c .initial ⟨"GET", "/recordings/hls/7.m3u8"⟩).2.status = 200 := by
  dsimp only
  have ⟨_, numbered⟩ := recordingsFetched (keptVisit.scene recordedSite) .initial rfl numberedMatch
  obtain ⟨files, offered⟩ := numbered 7 rfl
  have listed : (Recordings.sources 7).head? = some ⟨.hls, "recordings/hls/7.m3u8"⟩ := by decide
  have inside := List.mem_of_head? listed
  obtain ⟨path, kept, fetched, _⟩ := files _ inside
  have held : (keptVisit.scene recordedSite).store.find? path = some (.file []) := by
    cases kept
    decide +kernel
  have played := fetched.mpr ⟨[], held⟩
  exact ⟨rfl, rfl, offered.mpr (.inl ⟨_, inside, played⟩), played⟩

def folderStore : Store := ⟨[
  (["kept"], .directory),
  (["kept", "hls"], .directory),
  (["kept", "hls", "7.m3u8"], .directory)]⟩

theorem directoryOffered :
    ¬ ∀ (c : Scene) (s : State) (root : String) (f : Fixture) (id : UInt32),
      c.site.recordings = .folder root → f.id = some id →
        (c.recorded f = true ↔
          ∃ source ∈ Recordings.sources id, (handle c s (sourceRequest source)).2.status = 200) := by
  intro offeredIffFetched
  have offered := offeredIffFetched ((visiting "GET" "/" folderStore).scene recordedSite) .initial "kept"
    numberedMatch 7 rfl rfl
  have recorded : ((visiting "GET" "/" folderStore).scene recordedSite).recorded numberedMatch = true := by
    decide +kernel
  have unplayed : ∀ source ∈ Recordings.sources 7,
      (handle ((visiting "GET" "/" folderStore).scene recordedSite) .initial
        (sourceRequest source)).2.status ≠ 200 := by decide +kernel
  obtain ⟨source, listed, fetched⟩ := offered.mp recorded
  exact unplayed source listed fetched

end Server
end MatchGuide
