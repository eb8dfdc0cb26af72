import MatchGuide.Proofs.Sessions

/-! A stream chosen by its key. Streams may come, go and move between the page a visitor saw and the
click; the key finds the stream it was made for or nothing. That keys tell streams apart is a
premise, as the digest in them may collide. -/
namespace MatchGuide

def KeysTell (streams : List Stream) : Prop :=
  ∀ s ∈ streams, ∀ t ∈ streams, s.key = t.key → s = t

theorem pairTells {a b : Stream} {streams : List Stream} (apart : a.key ≠ b.key)
    (pair : ∀ s ∈ streams, s = a ∨ s = b) : KeysTell streams := by
  intro s first t second same
  rcases pair s first with rfl | rfl
  · exact (pair t second).elim Eq.symm fun other => absurd (other ▸ same) apart
  · exact (pair t second).elim (fun other => absurd (other ▸ same.symm) apart) Eq.symm

namespace Sessions

/- What a snapshot makes of the key of a stream: wherever the stream is in the list, by key and by
position the same session comes of it; where it is not, nothing happens. -/
structure Follows (s : Stream) (played : Session) (shot : Snapshot) : Prop where
  byKey : s ∈ shot.streams → ∀ before : Session, before.selectKey shot s.key = .ok played
  byPosition : ∀ i : Int64, 0 ≤ i.toInt → shot.streams[i.toInt.toNat]? = some s →
    ∀ before : Session, before.selectAt shot i = .ok played
  missing : s ∉ shot.streams → ∀ before : Session,
    before.selectKey shot s.key = .error (.noSuchStream s.key.text)
  unchanged : s ∉ shot.streams → ∀ (state : SessionState) (v : Nat) (recorded : Fixture → Bool),
    state.board.snapshot = shot → state.step (.choose v (.ofStream s.key) recorded) = state

variable {s : Stream} {shot : Snapshot}

theorem keyFound (tells : ∀ t ∈ shot.streams, t.key = s.key → t = s) (mem : s ∈ shot.streams) :
    shot.streamByKey? s.key = some s := by
  unfold Snapshot.streamByKey?
  cases found : shot.streams.find? (·.key == s.key) with
  | none => exact absurd (List.find?_eq_none.mp found s mem) (by simp)
  | some t =>
    have key : t.key = s.key := by simpa using List.find?_some found
    rw [tells t (List.mem_of_find?_eq_some found) key]

theorem keyMissing (tells : ∀ t ∈ shot.streams, t.key = s.key → t = s) (gone : s ∉ shot.streams) :
    shot.streamByKey? s.key = none := by
  refine List.find?_eq_none.mpr fun t mem same => gone ?_
  exact tells t mem (beq_iff_eq.mp same) ▸ mem

theorem playItem (s : Stream) (before : Session) : before.playStream s = (Item.ofStream s).session :=
  Selection.presentItem before (.ofStream s)

theorem selectPosition {i : Int64} (low : 0 ≤ i.toInt)
    (there : shot.streams[i.toInt.toNat]? = some s) (before : Session) :
    before.selectAt shot i = .ok (Item.ofStream s).session := by
  have found : shot.streamAt? i = some s := by
    have start : (0 : Int64) ≤ i := by rwa [Int64.le_iff_toInt_le, Int64.toInt_zero]
    rw [Snapshot.streamAt?, if_pos start, there]
  rw [Session.selectAt, found, ← playItem s before]

theorem snapshotFollows (tells : ∀ t ∈ shot.streams, t.key = s.key → t = s) :
    Follows s (Item.ofStream s).session shot where
  byKey := fun mem before => by
    rw [Session.selectKey, keyFound tells mem, ← playItem s before]
  byPosition := fun _ low there before => selectPosition low there before
  missing := fun gone before => by rw [Session.selectKey, keyMissing tells gone]
  unchanged := fun gone state v recorded current => by
    have names : (Selection.ofStream s.key).Names (.stream s.key) := .stream rfl
    rw [SessionState.step, Selection.runNamed names, current, Selection.offered?,
      keyMissing tells gone]
    rfl

theorem keySelectsContent {s : Stream} {shots : List Snapshot}
    (tells : KeysTell (s :: shots.flatMap (·.streams))) :
    ∃ played : Session, played.title = some ⟨s.description, s.live⟩ ∧
      played.player.sources = s.sources.map .of ∧ ∀ shot ∈ shots, Follows s played shot := by
  refine ⟨(Item.ofStream s).session, rfl, rfl, fun shot listed => snapshotFollows fun t mem same => ?_⟩
  have inside : t ∈ shots.flatMap (·.streams) := List.mem_flatMap.mpr ⟨shot, listed, mem⟩
  exact tells t (List.mem_cons_of_mem s inside) s List.mem_cons_self same

def matchA : Stream := ⟨"Match A", .epoch, false, [⟨.hls, "a.m3u8"⟩]⟩

def matchB : Stream := ⟨"Match B", .epoch, true, [⟨.hls, "b.m3u8"⟩, ⟨.dash, "b.mpd"⟩]⟩

def pairShown : Snapshot := ⟨.empty, [matchA, matchB]⟩

def pairMoved : Snapshot := ⟨.empty, [matchB, matchA, matchB]⟩

def pairDropped : Snapshot := ⟨.empty, [matchA]⟩

theorem movedStreamFollowed :
    KeysTell (matchB :: [pairShown, pairMoved, pairDropped].flatMap Snapshot.streams) ∧
    ∃ played, played.title = some ⟨"Match B", true⟩ ∧
      Session.fresh.selectKey pairShown matchB.key = .ok played ∧
      Session.fresh.selectKey pairMoved matchB.key = .ok played ∧
      Session.fresh.selectAt pairMoved 2 = .ok played ∧
      played.selectKey pairDropped matchB.key = .error (.noSuchStream matchB.key.text) := by
  have apart : matchA.key ≠ matchB.key := by decide +kernel
  have tells : KeysTell (matchB :: [pairShown, pairMoved, pairDropped].flatMap Snapshot.streams) :=
    pairTells apart (by decide)
  obtain ⟨played, title, _, follows⟩ := keySelectsContent tells
  have onShown := follows pairShown (.head _)
  have onMoved := follows pairMoved (.tail _ (.head _))
  have onDropped := follows pairDropped (.tail _ (.tail _ (.head _)))
  exact ⟨tells, played, title, onShown.byKey (by decide) _, onMoved.byKey (by decide) _,
    onMoved.byPosition 2 (by decide) rfl _, onDropped.missing (by decide) _⟩

end Sessions
end MatchGuide
