import MatchGuide.Proofs.Upcoming

/-! The rows of a schedule: which fixtures are shown, in which place, and what is said of each. The
window is cut before the rows are made, so a row keeps its place in the whole list. As time passes,
a row greyed out stays so while a fixture is to come. -/
namespace MatchGuide.Schedule

structure Shows (next : Option Nat) (recorded : Fixture → Bool) (f : Fixture) (r : Row) : Prop where
  date : r.date = f.kickoff.dayText
  time : r.time = f.kickoff.clockText
  home : r.home = f.home
  away : r.away = f.away
  venue : r.venue = f.venue
  score : r.score = f.score.text?.getD noScore
  disabled : r.disabled = true ↔ ∃ u, next = some u ∧ r.position < u
  upcoming : r.upcoming = true ↔ next = some r.position
  watch : ∀ key : FixtureKey, r.watch = some key ↔
    r.disabled = false ∧ recorded f = true ∧ f.id = some key.id ∧ f.league = key.league

structure Row.Plain (r : Row) : Prop where
  active : r.disabled = false
  unmarked : r.upcoming = false

/- Rows greyed out, then the one that comes next, then plain ones; without a next one all are
plain. -/
inductive Arranged : Option Nat → Option Nat → List Row → Prop
  | ended {history : Option Nat} {rows : List Row} (plain : ∀ r ∈ rows, r.Plain) :
      Arranged none history rows
  | split {u : Nat} {history : Option Nat} {greyed rest : List Row} {marked : Row}
      (length : greyed.length = (match history with | some h => min h u | none => u))
      (grey : ∀ r ∈ greyed, r.disabled = true ∧ r.upcoming = false)
      (mark : marked.disabled = false ∧ marked.upcoming = true)
      (plain : ∀ r ∈ rest, r.Plain) :
      Arranged (some u) history (greyed ++ marked :: rest)

structure Windowed (fixtures : List Fixture) (now : Instant) (recorded : Fixture → Bool)
    (history : Option Nat) (rows : List Row) : Prop where
  own : ∀ r ∈ rows, ∃ f, fixtures[r.position]? = some f ∧
    Shows (upcomingIndex? fixtures now) recorded f r
  window : ∃ first : Nat,
    (∀ u h, upcomingIndex? fixtures now = some u → history = some h →
      (first : Int) = max ((u : Int) - h) 0) ∧
    (upcomingIndex? fixtures now = none ∨ history = none → first = 0) ∧
    rows.map Row.position = List.range' first (fixtures.length - first)
  arranged : Arranged (upcomingIndex? fixtures now) history rows
  kickedOff : ∀ r ∈ rows, r.disabled = true → ∀ f, fixtures[r.position]? = some f →
    f.kickoff.Whole →
      f.kickoff ≤ now ∨ (¬ now.Regular ∧ f.kickoff.seconds = now.seconds + 1)

section
variable {fixtures : List Fixture} {now : Instant} {recorded : Fixture → Bool}
  {history : Option Nat} {r : Row} {u k : Nat}

theorem fixtureKey {f : Fixture} {key : FixtureKey} :
    f.key? = some key ↔ f.id = some key.id ∧ f.league = key.league := by
  obtain ⟨league, id⟩ := key
  cases own : f.id with
  | none => simp [Fixture.key?, own]
  | some n => simp [Fixture.key?, own, and_comm]

theorem rowShows (next : Option Nat) (recorded : Fixture → Bool) (f : Fixture) (i : Nat) :
    Shows next recorded f (row recorded next f i) where
  date := rfl
  time := rfl
  home := rfl
  away := rfl
  venue := rfl
  score := rfl
  disabled := by cases next <;> simp [row]
  upcoming := by simp [row]
  watch := fun key => by
    simp only [row, Option.ite_none_right_eq_some, fixtureKey, Bool.and_eq_true,
      Bool.not_eq_true', and_assoc]

theorem rowAt (k : Nat) : (rowsOf fixtures now recorded history)[k]? =
    (fixtures[start (upcomingIndex? fixtures now) history + k]?).map fun f =>
      row recorded (upcomingIndex? fixtures now) f
        (start (upcomingIndex? fixtures now) history + k) := by
  simp [rowsOf, List.getElem?_zipIdx, Function.comp_def]

theorem rowSource (there : (rowsOf fixtures now recorded history)[k]? = some r) :
    r.position = start (upcomingIndex? fixtures now) history + k ∧
    ∃ f, fixtures[r.position]? = some f ∧ Shows (upcomingIndex? fixtures now) recorded f r := by
  rw [rowAt, Option.map_eq_some_iff] at there
  obtain ⟨f, inside, rfl⟩ := there
  exact ⟨rfl, f, inside, rowShows _ _ f _⟩

theorem rowsLength : (rowsOf fixtures now recorded history).length =
    fixtures.length - start (upcomingIndex? fixtures now) history := by
  simp [rowsOf]

theorem rowPositions : (rowsOf fixtures now recorded history).map Row.position =
    List.range' (start (upcomingIndex? fixtures now) history)
      (fixtures.length - start (upcomingIndex? fixtures now) history) := by
  rw [rowsOf, List.map_map]
  change List.map Prod.snd _ = _
  rw [List.map_drop, List.zipIdx_map_snd, List.drop_range', Nat.zero_add, Nat.mul_one]

namespace Shows

variable {f : Fixture}

theorem disabledBefore (shows : Shows (some u) recorded f r) (before : r.position < u) :
    r.disabled = true ∧ r.upcoming = false := by
  refine ⟨shows.disabled.mpr ⟨u, rfl, before⟩, Bool.eq_false_iff.mpr fun marked => ?_⟩
  obtain rfl := Option.some.inj (shows.upcoming.mp marked)
  exact Nat.lt_irrefl _ before

theorem enabledFrom (shows : Shows (some u) recorded f r) (onward : u ≤ r.position) :
    r.disabled = false := by
  refine Bool.eq_false_iff.mpr fun greyed => ?_
  obtain ⟨v, same, before⟩ := shows.disabled.mp greyed
  obtain rfl := Option.some.inj same
  exact Nat.not_lt.mpr onward before

theorem upcomingAt (shows : Shows (some u) recorded f r) (next : r.position = u) :
    r.disabled = false ∧ r.upcoming = true :=
  ⟨shows.enabledFrom (Nat.le_of_eq next.symm), shows.upcoming.mpr (congrArg some next.symm)⟩

theorem plainAfter (shows : Shows (some u) recorded f r) (after : u < r.position) : r.Plain where
  active := shows.enabledFrom (Nat.le_of_lt after)
  unmarked := Bool.eq_false_iff.mpr fun marked =>
    Nat.ne_of_lt after (Option.some.inj (shows.upcoming.mp marked))

theorem plainEnded (shows : Shows none recorded f r) : r.Plain where
  active := Bool.eq_false_iff.mpr fun greyed => by simpa using shows.disabled.mp greyed
  unmarked := Bool.eq_false_iff.mpr fun marked => by simpa using shows.upcoming.mp marked

end Shows

theorem startMax (u h : Nat) : (start (some u) (some h) : Int) = max ((u : Int) - h) 0 := by
  rw [start]
  omega

theorem startFirst {next : Option Nat} (unlimited : next = none ∨ history = none) :
    start next history = 0 := by
  rcases unlimited with rfl | rfl
  · rfl
  · cases next <;> rfl

theorem startLow (u : Nat) (history : Option Nat) : start (some u) history ≤ u := by
  cases history with
  | none => exact Nat.zero_le u
  | some h => exact Nat.sub_le u h

theorem greyedCount (u : Nat) (history : Option Nat) :
    u - start (some u) history = match history with | some h => min h u | none => u := by
  cases history with
  | none => rfl
  | some h => simp only [start]; omega

theorem rowsArranged (fixtures : List Fixture) (now : Instant) (recorded : Fixture → Bool)
    (history : Option Nat) :
    Arranged (upcomingIndex? fixtures now) history (rowsOf fixtures now recorded history) := by
  generalize made : rowsOf fixtures now recorded history = rows
  have source {k : Nat} {r : Row} (there : rows[k]? = some r) := rowSource (made ▸ there)
  have length : rows.length = _ := made ▸ rowsLength
  cases found : upcomingIndex? fixtures now with
  | none =>
    refine .ended fun r mem => ?_
    obtain ⟨k, there⟩ := List.getElem?_of_mem mem
    obtain ⟨_, f, _, shows⟩ := source there
    exact (found ▸ shows).plainEnded
  | some u =>
    rw [found] at source length
    have low := startLow u history
    -- The next fixture is at place `u` of the list, so this far into the window.
    have inside : u - start (some u) history < rows.length := by
      have bound := indexInside found
      omega
    rw [← List.take_append_drop (u - start (some u) history) rows,
      List.drop_eq_getElem_cons inside]
    refine .split ?_ (fun r mem => ?_) ?_ fun r mem => ?_
    · rw [List.length_take, Nat.min_eq_left (Nat.le_of_lt inside), greyedCount]
    · obtain ⟨k, less, rfl⟩ := List.mem_take_iff_getElem.mp mem
      obtain ⟨place, f, _, shows⟩ := source (List.getElem?_eq_getElem _)
      exact shows.disabledBefore (by omega)
    · obtain ⟨place, f, _, shows⟩ := source (List.getElem?_eq_getElem inside)
      exact shows.upcomingAt (by omega)
    · obtain ⟨k, less, rfl⟩ := List.mem_drop_iff_getElem.mp mem
      obtain ⟨place, f, _, shows⟩ := source (List.getElem?_eq_getElem _)
      exact shows.plainAfter (by omega)

theorem rowsWindowed (fixtures : List Fixture) (now : Instant) (recorded : Fixture → Bool)
    (history : Option Nat) :
    Windowed fixtures now recorded history (rowsOf fixtures now recorded history) where
  own := fun r mem => by
    obtain ⟨k, there⟩ := List.getElem?_of_mem mem
    exact (rowSource there).2
  window := by
    refine ⟨_, fun u h found limit => ?_, startFirst, rowPositions⟩
    rw [found, limit, startMax]
  arranged := rowsArranged fixtures now recorded history
  kickedOff := fun r mem greyed f there whole => by
    obtain ⟨k, place⟩ := List.getElem?_of_mem mem
    obtain ⟨_, _, _, shows⟩ := rowSource place
    obtain ⟨u, found, before⟩ := shows.disabled.mp greyed
    exact Instant.kickoffReached whole ((indexIff.mp found).2 r.position f before there)

theorem startMono {next : Option Nat} {small large : Nat} (less : small ≤ large) :
    start next (some large) ≤ start next (some small) := by
  cases next with
  | none => exact Nat.le_refl 0
  | some u => exact Nat.sub_le_sub_left less u

theorem rowsSuffix {limit wider : Option Nat}
    (less : start (upcomingIndex? fixtures now) wider ≤ start (upcomingIndex? fixtures now) limit) :
    rowsOf fixtures now recorded limit <:+ rowsOf fixtures now recorded wider :=
  (List.drop_suffix_drop_left _ less).map _

end

theorem rowsFollowWindow (leagues : Leagues) (league : String) (now : Instant)
    (recorded : Fixture → Bool) :
    (∀ history, leagues.find? league = none → rows leagues league now recorded history = []) ∧
    (∀ history fixtures, leagues.find? league = some fixtures →
      Windowed fixtures now recorded history (rows leagues league now recorded history)) ∧
    (∀ small large : Nat, small ≤ large →
      rows leagues league now recorded (some small) <:+
        rows leagues league now recorded (some large)) ∧
    (∀ h : Nat, rows leagues league now recorded (some h) <:+
      rows leagues league now recorded none) ∧
    ∀ raw fixtures, Leagues.ofPayload raw = .ok leagues → leagues.find? league = some fixtures →
      ∀ f ∈ fixtures, f.kickoff.Whole := by
  refine ⟨fun history unknown => ?_, fun history fixtures found => ?_, fun small large less => ?_,
    fun h => ?_, fun raw fixtures read found f mem => ?_⟩
  · rw [rows, unknown]
  · rw [rows, found]
    exact rowsWindowed fixtures now recorded history
  · unfold rows
    split
    · exact rowsSuffix (startMono less)
    · exact List.suffix_refl []
  · unfold rows
    split
    · exact rowsSuffix (startFirst (.inr rfl) ▸ Nat.zero_le _)
    · exact List.suffix_refl []
  · exact Fixture.listedWhole ⟨raw, leagues, league, fixtures, read, found, mem⟩

def matchJson (home away : String) (kickoff : Int) : Json :=
  .object [("home", .string home), ("away", .string away), ("timestamp", .int kickoff)]

def bareFixture (home away : String) (kickoff : Instant) : Fixture :=
  ⟨"Cup", home, away, "", ⟨none, none⟩, kickoff, none⟩

def cupOf (fixtures : List Fixture) : Leagues := .ofEntries [("Cup", fixtures)]

def aroundEpoch : List Fixture :=
  [bareFixture "A" "B" ⟨-4, 0, by decide⟩, bareFixture "C" "D" ⟨-3, 0, by decide⟩,
    bareFixture "E" "F" ⟨-2, 0, by decide⟩, bareFixture "G" "H" ⟨-1, 0, by decide⟩,
    bareFixture "A" "C" ⟨5, 0, by decide⟩, bareFixture "B" "D" ⟨6, 0, by decide⟩]

theorem twoPlayedShown :
    (rows (cupOf aroundEpoch) "Cup" .epoch (fun _ => true) (some 2)).map Row.position =
      [2, 3, 4, 5] ∧
    rows (cupOf aroundEpoch) "Cup" .epoch (fun _ => true) (some 2) <:+
      rows (cupOf aroundEpoch) "Cup" .epoch (fun _ => true) none := by
  obtain ⟨_, windowed, _, shorter, _⟩ :=
    rowsFollowWindow (cupOf aroundEpoch) "Cup" .epoch fun _ => true
  obtain ⟨first, cut, _, positions⟩ := (windowed (some 2) aroundEpoch rfl).window
  have two := cut 4 2 (by decide) rfl
  obtain rfl : first = 2 := by omega
  exact ⟨positions, shorter 2⟩

def leapSecond : Instant := ⟨59, 1500000000, by decide⟩

/- Half a second into a leap second, with a match to begin in the next second; and a match that is
to begin within the second, which no payload can say. -/
theorem leapSecondGreysOut :
    (∃ raw leagues fixtures r f, Leagues.ofPayload raw = .ok leagues ∧
      leagues.find? "Cup" = some fixtures ∧
      r ∈ rows leagues "Cup" leapSecond (fun _ => false) none ∧ r.disabled = true ∧
      fixtures[r.position]? = some f ∧ leapSecond < f.kickoff) ∧
    ∃ (now : Instant) (leagues : Leagues) (fixtures : List Fixture) (r : Row) (f : Fixture),
      now.Regular ∧ leagues.find? "Cup" = some fixtures ∧
      r ∈ rows leagues "Cup" now (fun _ => false) none ∧ r.disabled = true ∧
      fixtures[r.position]? = some f ∧ now < f.kickoff := by
  have greyed {now : Instant} {first second : Fixture}
      (found : upcomingIndex? [first, second] now = some 1) :
      row (fun _ => false) (some 1) first 0 ∈
        rows (cupOf [first, second]) "Cup" now (fun _ => false) none := by
    refine List.mem_of_getElem? (i := 0) ?_
    rw [rows, show (cupOf [first, second]).find? "Cup" = some [first, second] from rfl]
    simp only [rowAt, found]
    rfl
  constructor
  · let first := bareFixture "A" "B" ⟨60, 0, by decide⟩
    let second := bareFixture "C" "D" ⟨100, 0, by decide⟩
    exact ⟨.object [("Cup", .array [matchJson "A" "B" 60, matchJson "C" "D" 100])],
      cupOf [first, second], [first, second], row (fun _ => false) (some 1) first 0, first,
      rfl, rfl, greyed (by decide), rfl, rfl, by decide⟩
  · let first := bareFixture "A" "B" ⟨60, 1, by decide⟩
    let second := bareFixture "C" "D" ⟨100, 0, by decide⟩
    exact ⟨⟨60, 0, by decide⟩, cupOf [first, second], [first, second],
      row (fun _ => false) (some 1) first 0, first,
      by unfold Instant.Regular; decide, rfl, greyed (by decide), rfl, rfl, by decide⟩

structure StaysGrey (leagues : Leagues) (league : String) (now later : Instant) : Prop where
  grey : ∀ recorded history r, r ∈ rows leagues league now recorded history → r.disabled = true →
    ∀ recorded history after, after ∈ rows leagues league later recorded history →
      after.position = r.position → after.disabled = true
  shown : ∀ recorded history r, r ∈ rows leagues league now recorded history → r.disabled = true →
    ∀ recorded, ∃ after ∈ rows leagues league later recorded none,
      after.position = r.position ∧ after.disabled = true

section
variable {leagues : Leagues} {league : String} {fixtures : List Fixture} {now later : Instant}
  {recorded : Fixture → Bool} {history : Option Nat} {r : Row} {u : Nat}

theorem disabledIff (found : leagues.find? league = some fixtures)
    (next : upcomingIndex? fixtures now = some u)
    (mem : r ∈ rows leagues league now recorded history) : r.disabled = true ↔ r.position < u := by
  rw [rows, found] at mem
  obtain ⟨k, there⟩ := List.getElem?_of_mem mem
  obtain ⟨_, f, _, shows⟩ := rowSource there
  simp [shows.disabled, next]

theorem allShown (found : leagues.find? league = some fixtures) {i : Nat}
    (inside : i < fixtures.length) : ∃ r ∈ rows leagues league now recorded none, r.position = i := by
  have there : (rowsOf fixtures now recorded none)[i]? =
      some (row recorded (upcomingIndex? fixtures now) fixtures[i] i) := by
    rw [rowAt, startFirst (.inr rfl), Nat.zero_add, List.getElem?_eq_getElem inside, Option.map_some]
  rw [rows, found]
  exact ⟨_, List.mem_of_getElem? there, rfl⟩

theorem staysGrey (found : leagues.find? league = some fixtures) (regular : now.Regular)
    (onward : now ≤ later) (next : upcomingIndex? fixtures later = some u) :
    StaysGrey leagues league now later := by
  obtain ⟨earlier, below, before⟩ := indexOnward regular onward next
  have still {recorded : Fixture → Bool} {history : Option Nat} {r : Row}
      (mem : r ∈ rows leagues league now recorded history) (grey : r.disabled = true) :
      r.position < u := Nat.lt_of_lt_of_le ((disabledIff found before mem).mp grey) below
  refine ⟨fun _ _ r mem grey _ _ after shown same => ?_, fun _ _ r mem grey recorded => ?_⟩
  · exact (disabledIff found next shown).mpr (same ▸ still mem grey)
  · have inside : r.position < fixtures.length := Nat.lt_trans (still mem grey) (indexInside next)
    obtain ⟨after, shown, same⟩ : ∃ after ∈ rows leagues league later recorded none,
      after.position = r.position := allShown found inside
    exact ⟨after, shown, same, (disabledIff found next shown).mpr (same ▸ still mem grey)⟩

end

structure Clocked (fixtures : List Fixture) (now : Instant) : Prop where
  first : ∀ u, upcomingIndex? fixtures now = some u ↔ FirstLater fixtures now u
  ended : upcomingIndex? fixtures now = none ↔ ∀ f ∈ fixtures, f.kickoff ≤ now
  fits : ∀ f ∈ fixtures, Instant.FitsWord (f.kickoff.seconds * 1000)
  words : wordIndex? fixtures now = upcomingIndex? fixtures now
  onward : ∀ later u, now ≤ later → upcomingIndex? fixtures later = some u →
    (∃ earlier ≤ u, upcomingIndex? fixtures now = some earlier) ∧
    ∀ (leagues : Leagues) league, leagues.find? league = some fixtures →
      StaysGrey leagues league now later

theorem upcomingByClock {fixtures : List Fixture} {now : Instant}
    (listed : ∀ f ∈ fixtures, f.Listed) (regular : now.Regular) : Clocked fixtures now where
  first := fun _ => firstLaterIff (fun f mem => Fixture.listedWhole (listed f mem)) regular
  ended := noneLaterIff (fun f mem => Fixture.listedWhole (listed f mem)) regular
  fits := fun f _ => f.kickoff.secondFits
  words := wordIndexSame fixtures now
  onward := fun _ _ onward next => ⟨indexOnward regular onward next,
    fun _ _ found => staysGrey found regular onward next⟩

def beforeEpoch : Instant := ⟨-1, 999999999, by decide⟩

theorem laterMatchesNext :
    ∃ raw leagues fixtures, Leagues.ofPayload raw = .ok leagues ∧
      leagues.find? "Cup" = some fixtures ∧ (∀ f ∈ fixtures, f.Listed) ∧ beforeEpoch.Regular ∧
      FirstLater fixtures beforeEpoch 1 ∧
      StaysGrey leagues "Cup" beforeEpoch ⟨3, 0, by decide⟩ := by
  let raw : Json := .object [("Cup", .array [matchJson "A" "B" (-5), matchJson "C" "D" 0,
    matchJson "E" "F" (-3), matchJson "G" "H" 7])]
  let fixtures := [bareFixture "A" "B" ⟨-5, 0, by decide⟩, bareFixture "C" "D" ⟨0, 0, by decide⟩,
    bareFixture "E" "F" ⟨-3, 0, by decide⟩, bareFixture "G" "H" ⟨7, 0, by decide⟩]
  have read : Leagues.ofPayload raw = .ok (cupOf fixtures) := rfl
  have listed : ∀ f ∈ fixtures, f.Listed := fun f mem => ⟨raw, _, "Cup", fixtures, read, rfl, mem⟩
  have regular : beforeEpoch.Regular := by unfold Instant.Regular; decide
  have clocked := upcomingByClock listed regular
  exact ⟨raw, _, fixtures, read, rfl, listed, regular, (clocked.first 1).mp (by decide),
    (clocked.onward ⟨3, 0, by decide⟩ 3 (by decide) (by decide)).2 _ "Cup" rfl⟩

end MatchGuide.Schedule
