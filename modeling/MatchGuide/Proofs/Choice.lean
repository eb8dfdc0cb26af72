import MatchGuide.Selection

/-! What a choice stands for: a title and the sources under it, found on a snapshot without a look at
any session. -/
namespace MatchGuide

structure Item where
  title : Title
  sources : List Source

namespace Item

def ofStream (s : Stream) : Item := ⟨⟨s.description, s.live⟩, s.sources⟩

def ofFixture (f : Fixture) (id : UInt32) : Item :=
  ⟨⟨s!"{f.home} - {f.away}", false⟩, Recordings.sources id⟩

def session (i : Item) : Session where
  player := ⟨i.sources.map .of, !i.sources.isEmpty⟩
  title := some i.title
  visible := true

end Item

namespace Selection

/- What a selection names. Of a league and a fixture neither names anything without the other. -/
inductive Names : Selection → Target → Prop where
  | stream {sel key} (given : sel.stream = some key) : Names sel (.stream ⟨key⟩)
  | index {sel i} (noStream : sel.stream = none) (given : sel.index = some i) :
      Names sel (.index i)
  | fixture {sel league id} (noStream : sel.stream = none) (noIndex : sel.index = none)
      (givenLeague : sel.league = some league) (givenFixture : sel.fixture = some id) :
      Names sel (.fixture ⟨league, id⟩)

def Idle (sel : Selection) : Prop :=
  sel.stream = none ∧ sel.index = none ∧ (sel.league = none ∨ sel.fixture = none)

theorem targetIff {sel : Selection} {t : Target} : sel.target? = some t ↔ sel.Names t := by
  obtain ⟨stream, index, league, fixture⟩ := sel
  constructor
  · intro found
    cases stream with
    | some key =>
      obtain rfl := Option.some.inj found
      exact .stream rfl
    | none =>
      cases index with
      | some i =>
        obtain rfl := Option.some.inj found
        exact .index rfl rfl
      | none =>
        cases league with
        | none => contradiction
        | some league =>
          cases fixture with
          | none => contradiction
          | some id =>
            obtain rfl := Option.some.inj found
            exact .fixture rfl rfl rfl rfl
  · rintro (given | ⟨noStream, given⟩ | ⟨noStream, noIndex, givenLeague, givenFixture⟩)
    · cases given
      rfl
    · cases noStream
      cases given
      rfl
    · cases noStream
      cases noIndex
      cases givenLeague
      cases givenFixture
      rfl

theorem idleIff {sel : Selection} : sel.target? = none ↔ sel.Idle := by
  obtain ⟨stream, index, league, fixture⟩ := sel
  cases stream <;> cases index <;> cases league <;> cases fixture <;> simp [target?, Idle]

theorem idleNames {sel : Selection} : sel.Idle ↔ ∀ t, ¬ sel.Names t := by
  rw [← idleIff, Option.eq_none_iff_forall_ne_some]
  exact forall_congr' fun t => not_congr targetIff

inductive Offers (shot : Snapshot) (recorded : Fixture → Bool) : Target → Item → Prop where
  | stream {before s after} (list : shot.streams = before ++ s :: after)
      (first : ∀ other ∈ before, other.key ≠ s.key) :
      Offers shot recorded (.stream s.key) (.ofStream s)
  | index {i : Int64} {s} (low : 0 ≤ i) (there : shot.streams[i.toInt.toNat]? = some s) :
      Offers shot recorded (.index i) (.ofStream s)
  | fixture {league before f after id} (list : shot.leagues.find? league = some (before ++ f :: after))
      (own : f.id = some id) (first : ∀ other ∈ before, other.id ≠ some id)
      (there : recorded f = true) :
      Offers shot recorded (.fixture ⟨league, id⟩) (.ofFixture f id)

variable {shot : Snapshot} {recorded : Fixture → Bool} {target : Target} {item : Item}

def offered? (shot : Snapshot) (recorded : Fixture → Bool) : Target → Option Item
  | .stream key => (shot.streamByKey? key).map .ofStream
  | .index i => (shot.streamAt? i).map .ofStream
  | .fixture key => ((shot.fixtureByKey? key).filter recorded).map (.ofFixture · key.id)

theorem streamOffered {key : StreamKey} :
    offered? shot recorded (.stream key) = some item ↔ Offers shot recorded (.stream key) item := by
  simp only [offered?, Snapshot.streamByKey?, Option.map_eq_some_iff,
    List.find?_eq_some_iff_append]
  constructor
  · rintro ⟨s, ⟨same, before, after, list, first⟩, rfl⟩
    obtain rfl := beq_iff_eq.mp same
    exact .stream list fun other mem => by simpa using first other mem
  · intro offers
    cases offers with
    | @stream before s after list first =>
      exact ⟨s, ⟨by simp, before, after, list, fun other mem => by simpa using first other mem⟩, rfl⟩

theorem indexOffered {i : Int64} :
    offered? shot recorded (.index i) = some item ↔ Offers shot recorded (.index i) item := by
  simp only [offered?, Snapshot.streamAt?, Option.map_eq_some_iff]
  constructor
  · rintro ⟨s, found, rfl⟩
    split at found
    · rename_i low
      exact .index low found
    · contradiction
  · intro offers
    cases offers with
    | @index _ s low there => exact ⟨s, by rw [if_pos low, there], rfl⟩

theorem fixtureOffered {key : FixtureKey} :
    offered? shot recorded (.fixture key) = some item ↔
      Offers shot recorded (.fixture key) item := by
  simp only [offered?, Snapshot.fixtureByKey?, Option.map_eq_some_iff, Option.filter_eq_some_iff,
    Option.bind_eq_bind, Option.bind_eq_some_iff, List.find?_eq_some_iff_append, beq_iff_eq]
  constructor
  · rintro ⟨f, ⟨⟨fixtures, list, own, before, after, rfl, first⟩, there⟩, rfl⟩
    exact .fixture list own (fun other mem => by simpa using first other mem) there
  · intro offers
    cases offers with
    | @fixture league before f after id list own first there =>
      refine ⟨f, ⟨⟨_, list, own, before, after, rfl, fun other mem => ?_⟩, there⟩, rfl⟩
      simpa using first other mem

theorem offeredIff : offered? shot recorded target = some item ↔ Offers shot recorded target item := by
  cases target with
  | stream key => exact streamOffered
  | index i => exact indexOffered
  | fixture key => exact fixtureOffered

def Target.refusal : Target → SelectError
  | stream key => .noSuchStream key.text
  | index i => .noSuchStream (Whole.intText i.toInt)
  | fixture key => .noSuchFixture key

theorem presentItem (s : Session) (i : Item) : s.present i.title i.sources = i.session := by
  simp [Session.present, Player.setSources, Player.play, Item.session]

theorem runIdle {sel : Selection} (idle : sel.Idle) (s : Session) :
    sel.run s shot recorded = .ok s := by
  rw [run, idleIff.mpr idle]

theorem runNamed {sel : Selection} (names : sel.Names target) (s : Session) :
    sel.run s shot recorded =
      match offered? shot recorded target with
      | some item => .ok item.session
      | none => .error target.refusal := by
  rw [run, targetIff.mpr names]
  cases target with
  | stream key =>
    simp only [Session.selectKey, Session.playStream, offered?]
    cases shot.streamByKey? key with
    | none => rfl
    | some stream => exact congrArg Except.ok (presentItem s (.ofStream stream))
  | index i =>
    simp only [Session.selectAt, Session.playStream, offered?]
    cases shot.streamAt? i with
    | none => rfl
    | some stream => exact congrArg Except.ok (presentItem s (.ofStream stream))
  | fixture key =>
    simp only [Session.selectFixture, offered?]
    cases (shot.fixtureByKey? key).filter recorded with
    | none => rfl
    | some f => exact congrArg Except.ok (presentItem s (.ofFixture f key.id))

theorem runOffered {sel : Selection} (names : sel.Names target)
    (offers : Offers shot recorded target item) (s : Session) :
    sel.run s shot recorded = .ok item.session := by
  rw [runNamed names, offeredIff.mpr offers]

theorem runRefused {sel : Selection} (names : sel.Names target)
    (nothing : ∀ item, ¬ Offers shot recorded target item) (s : Session) :
    sel.run s shot recorded = .error target.refusal := by
  have absent : offered? shot recorded target = none :=
    Option.eq_none_iff_forall_ne_some.mpr fun item found => nothing item (offeredIff.mp found)
  rw [runNamed names, absent]

theorem namesUnique {sel : Selection} {other : Target} (names : sel.Names target)
    (also : sel.Names other) : other = target :=
  Option.some.inj ((targetIff.mpr also).symm.trans (targetIff.mpr names))

inductive Ends (shot : Snapshot) (recorded : Fixture → Bool) (sel : Selection) (s : Session) :
    Except SelectError Session → Prop where
  | idle (idle : sel.Idle) : Ends shot recorded sel s (.ok s)
  | found {t : Target} {i : Item} (names : sel.Names t) (offers : Offers shot recorded t i) :
      Ends shot recorded sel s (.ok i.session)
  | refused {t : Target} (names : sel.Names t) (nothing : ∀ i, ¬ Offers shot recorded t i) :
      Ends shot recorded sel s (.error t.refusal)

theorem runEnds (shot : Snapshot) (recorded : Fixture → Bool) (sel : Selection) (s : Session) :
    Ends shot recorded sel s (sel.run s shot recorded) := by
  cases named : sel.target? with
  | none =>
    have idle := idleIff.mp named
    rw [runIdle idle s]
    exact .idle idle
  | some target =>
    have names := targetIff.mp named
    cases found : offered? shot recorded target with
    | none =>
      have nothing : ∀ item, ¬ Offers shot recorded target item := fun item offers => by
        rw [offeredIff.mpr offers] at found
        contradiction
      rw [runRefused names nothing s]
      exact .refused names nothing
    | some item =>
      have offers := offeredIff.mp found
      rw [runOffered names offers s]
      exact .found names offers

end Selection
end MatchGuide
