import MatchGuide.Proofs.Buttons
import MatchGuide.Proofs.ScheduleRows
import MatchGuide.Proofs.Sessions

/-! What the key in a row of a schedule selects. The row is made from the fixture at its place, its
key looked up by league and number: the first fixture with that number gives the title, and is
recorded because that of the row is. -/
namespace MatchGuide

def ByNumber (recorded : Fixture → Bool) : Prop :=
  ∀ f g : Fixture, f.id = g.id → recorded f = recorded g

theorem Recordings.hasByNumber (r : Recordings) (store : Store) : ByNumber (r.has store) := by
  intro f g same
  unfold has
  rw [same]

structure FirstNumbered (fixtures : List Fixture) (id : UInt32) (first : Fixture) : Prop where
  number : first.id = some id
  place : ∃ before after, fixtures = before ++ first :: after ∧
    ∀ other ∈ before, other.id ≠ some id

inductive Unplayable (leagues : Leagues) (recorded : Fixture → Bool) (key : FixtureKey) : Prop where
  | absent (none : ∀ fixtures, leagues.find? key.league = some fixtures →
      ∀ f ∈ fixtures, f.id ≠ some key.id) : Unplayable leagues recorded key
  | unrecorded {fixtures f} (found : leagues.find? key.league = some fixtures) (mem : f ∈ fixtures)
      (number : f.id = some key.id) (missing : recorded f = false) :
      Unplayable leagues recorded key

namespace Sessions
open Schedule (Row rows)
open Selection (Offers)

/- A row, its fixture, the first fixture with the same number, and the session that the key of the
row makes of every other. -/
structure Leads (shot : Snapshot) (recorded : Fixture → Bool) (fixtures : List Fixture) (r : Row)
    (key : FixtureKey) (own titled : Fixture) (after : Session) : Prop where
  row : fixtures[r.position]? = some own
  number : own.id = some key.id
  first : FirstNumbered fixtures key.id titled
  selects : ∀ before : Session, (Selection.ofFixture key).run before shot recorded = .ok after
  shown : after.visible = true ∧ after.player.playing = true
  sources : after.player.sources =
    [⟨"application/x-mpegURL", s!"recordings/hls/{key.id.toNat}.m3u8"⟩,
      ⟨"application/dash+xml", s!"recordings/dash/{key.id.toNat}.mpd"⟩]
  title : after.title = some ⟨s!"{titled.home} - {titled.away}", false⟩
  alone : (fixtures.filterMap Fixture.id).Nodup →
    after.title = some ⟨s!"{r.home} - {r.away}", false⟩

structure Refuses (shot : Snapshot) (recorded : Fixture → Bool) (key : FixtureKey) : Prop where
  fails : ∀ before : Session, before.selectFixture shot recorded key = .error (.noSuchFixture key)
  unchanged : ∀ (state : SessionState) (v : Nat), state.board.snapshot = shot →
    state.step (.choose v (.ofFixture key) recorded) = state

variable {leagues : Leagues} {recorded : Fixture → Bool} {fixtures : List Fixture}
  {own first f : Fixture} {id : UInt32} {key : FixtureKey} {shot : Snapshot}

theorem keyNames (key : FixtureKey) : (Selection.ofFixture key).Names (.fixture key) :=
  .fixture rfl rfl rfl rfl

theorem numberedFirst (mem : own ∈ fixtures) (number : own.id = some id) :
    ∃ first, FirstNumbered fixtures id first := by
  obtain ⟨before, first, after, list, same, early⟩ :=
    Server.firstWith (p := fun f : Fixture => f.id = some id) mem number
  exact ⟨first, same, before, after, list, early⟩

theorem onlyNumbered (unique : (fixtures.filterMap Fixture.id).Nodup) (mem : own ∈ fixtures)
    (number : own.id = some id) (numbered : FirstNumbered fixtures id first) : first = own := by
  obtain ⟨same, before, after, rfl, early⟩ := numbered
  rcases List.mem_append.mp mem with inside | inside
  · exact absurd number (early own inside)
  rcases List.mem_cons.mp inside with rfl | later
  · rfl
  · rw [List.filterMap_append, List.filterMap_cons_some same] at unique
    have again : id ∈ after.filterMap Fixture.id := List.mem_filterMap.mpr ⟨own, later, number⟩
    exact absurd again (List.nodup_cons.mp (List.nodup_append.mp unique).2.1).1

theorem numberedOffered (found : shot.leagues.find? key.league = some fixtures)
    (numbered : FirstNumbered fixtures key.id first) (there : recorded first = true) :
    Offers shot recorded (.fixture key) (.ofFixture first key.id) := by
  obtain ⟨number, before, after, rfl, early⟩ := numbered
  exact .fixture found number early there

theorem offeredPlayable (byNumber : ByNumber recorded) {item : Item}
    (offers : Offers shot recorded (.fixture key) item) : ¬ Unplayable shot.leagues recorded key := by
  cases offers with
  | @fixture league before f after id list number first there =>
    intro unplayable
    cases unplayable with
    | absent none => exact none _ list f (by simp) number
    | @unrecorded others g found mem same missing =>
      rw [byNumber g f (same.trans number.symm), there] at missing
      contradiction

theorem rowLeads {league : String} {now : Instant} {history : Option Nat} {r : Row}
    (filed : shot.Filed) (byNumber : ByNumber recorded)
    (mem : r ∈ rows shot.leagues league now recorded history) (watched : r.watch = some key) :
    key.league = league ∧ ∃ fixtures own titled after,
      shot.leagues.find? league = some fixtures ∧
      Leads shot recorded fixtures r key own titled after := by
  rw [rows] at mem
  cases found : shot.leagues.find? league with
  | none =>
    rw [found] at mem
    contradiction
  | some fixtures =>
    rw [found] at mem
    obtain ⟨k, there⟩ := List.getElem?_of_mem mem
    obtain ⟨_, own, place, shows⟩ := Schedule.rowSource there
    obtain ⟨_, recording, number, named⟩ := (shows.watch key).mp watched
    have inside : own ∈ fixtures := List.mem_of_getElem? place
    have same : key.league = league := named.symm.trans (filed league fixtures found own inside)
    obtain ⟨first, numbered⟩ := numberedFirst inside number
    have kept : recorded first = true := by
      rw [byNumber first own (numbered.number.trans number.symm), recording]
    have offers := numberedOffered (by rwa [same]) numbered kept
    refine ⟨same, fixtures, own, first, _, rfl, place, number, numbered,
      Selection.runOffered (keyNames key) offers, ⟨rfl, rfl⟩, rfl, rfl, fun unique => ?_⟩
    obtain rfl := onlyNumbered unique inside number numbered
    rw [shows.home, shows.away]
    rfl

theorem unplayableRefuses (byNumber : ByNumber recorded)
    (unplayable : Unplayable shot.leagues recorded key) : Refuses shot recorded key := by
  have nothing : ∀ item, ¬ Offers shot recorded (.fixture key) item :=
    fun item offers => offeredPlayable byNumber offers unplayable
  have refused := Selection.runRefused (keyNames key) nothing
  refine ⟨refused, fun state v current => ?_⟩
  rw [SessionState.step, current, refused]

theorem watchKeysSelect {raw : Json} (read : Leagues.ofPayload raw = .ok leagues)
    (byNumber : ByNumber recorded) (streams : List Stream) :
    (∀ league now history, ∀ r ∈ rows leagues league now recorded history,
      ∀ key, r.watch = some key → key.league = league ∧ ∃ fixtures own titled after,
        leagues.find? league = some fixtures ∧
        Leads ⟨leagues, streams⟩ recorded fixtures r key own titled after) ∧
    ∀ key, Unplayable leagues recorded key → Refuses ⟨leagues, streams⟩ recorded key := by
  refine ⟨fun league now history r mem key watched => ?_, fun key unplayable => ?_⟩
  · exact rowLeads (Server.payloadFiled read streams) byNumber mem watched
  · exact unplayableRefuses byNumber unplayable

def numberedJson (home away : String) (kickoff number : Int) : Json :=
  .object [("home", .string home), ("away", .string away), ("timestamp", .int kickoff),
    ("fixture_id", .int number)]

def replayed : Json :=
  .object [("Cup", .array [numberedJson "A" "B" (-5) 7, numberedJson "C" "D" 5 7])]

def kept : Fixture → Bool := (Recordings.folder "kept").has Server.recordedStore

theorem replayTitled :
    ∃ leagues r after, Leagues.ofPayload replayed = .ok leagues ∧ ByNumber kept ∧
      r ∈ rows leagues "Cup" .epoch kept none ∧ r.home = "C" ∧ r.watch = some ⟨"Cup", 7⟩ ∧
      (∀ before : Session,
        (Selection.ofFixture ⟨"Cup", 7⟩).run before ⟨leagues, []⟩ kept = .ok after) ∧
      after.title = some ⟨"A - B", false⟩ ∧ Refuses ⟨leagues, []⟩ kept ⟨"Cup", 8⟩ := by
  let past : Fixture := ⟨"Cup", "A", "B", "", ⟨none, none⟩, ⟨-5, 0, by decide⟩, some 7⟩
  let next : Fixture := ⟨"Cup", "C", "D", "", ⟨none, none⟩, ⟨5, 0, by decide⟩, some 7⟩
  let leagues := Schedule.cupOf [past, next]
  have read : Leagues.ofPayload replayed = .ok leagues := rfl
  have byNumber : ByNumber kept := Recordings.hasByNumber _ _
  have shown : Schedule.row kept (some 1) next 1 ∈ rows leagues "Cup" .epoch kept none :=
    List.mem_of_getElem? (i := 1) rfl
  have watched : (Schedule.row kept (some 1) next 1).watch = some ⟨"Cup", 7⟩ := by decide +kernel
  have missing : Unplayable leagues kept ⟨"Cup", 8⟩ := .absent fun fixtures found => by
    obtain rfl : [past, next] = fixtures := Option.some.inj found
    decide
  obtain ⟨leads, refuses⟩ := watchKeysSelect read byNumber []
  obtain ⟨_, fixtures, own, titled, after, found, led⟩ := leads _ _ _ _ shown _ watched
  obtain rfl : [past, next] = fixtures := Option.some.inj found
  obtain ⟨before, rest, list, early⟩ := led.first.place
  have title : after.title = some ⟨"A - B", false⟩ := by
    cases before with
    | nil =>
      obtain rfl := (List.cons.inj list).1
      exact led.title
    | cons head before =>
      obtain rfl := (List.cons.inj list).1
      exact absurd rfl (early past List.mem_cons_self)
  exact ⟨leagues, _, after, read, byNumber, shown, rfl, watched, led.selects, title,
    refuses _ missing⟩

end Sessions
end MatchGuide
