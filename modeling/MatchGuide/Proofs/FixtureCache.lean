import MatchGuide.Feed.Football
import MatchGuide.Fixture.Payload
import MatchGuide.Proofs.Numeral

/-! From an answer of the football service over the cache to the fixtures of the page. One converter
writes the cache and another reads it; what the page shows is put in terms of the answer alone. -/
namespace MatchGuide

namespace Answer

def league (item : Json) : Json := (item.field "league").field "name"

def home (item : Json) : Json := ((item.field "teams").field "home").field "name"

def away (item : Json) : Json := ((item.field "teams").field "away").field "name"

def venue (item : Json) : Json := ((item.field "fixture").field "venue").field "name"

def kickoff (item : Json) : Json := (item.field "fixture").field "timestamp"

def id (item : Json) : Json := (item.field "fixture").field "id"

def homeGoals (item : Json) : Json := (item.field "goals").field "home"

def awayGoals (item : Json) : Json := (item.field "goals").field "away"

structure Presentable (name : String) (item : Json) : Prop where
  league : league item = .string name
  home : ∃ team, home item = .string team
  away : ∃ team, away item = .string team
  kickoff : ∃ n, Payload.SaysSeconds (kickoff item) n ∧
    Instant.minSeconds ≤ n ∧ n ≤ Instant.maxSeconds

/- What the row of a match has to tell. A score is there only as a whole: both goals are numbers,
and no text stands for one. -/
structure Shows (name : String) (item : Json) (f : Fixture) : Prop where
  league : f.league = name
  home : home item = .string f.home
  away : away item = .string f.away
  venue : venue item = .string f.venue ∨ (f.venue = "" ∧ ∀ place, venue item ≠ .string place)
  kickoff : Payload.SaysSeconds (kickoff item) f.kickoff.seconds ∧ f.kickoff.nanos = 0
  id : ∀ n, f.id = some n ↔ Payload.SaysUInt32 (id item) n
  score : ∀ text, f.score.text? = some text ↔
    ∃ h a : UInt32, homeGoals item = .int h.toNat ∧ awayGoals item = .int a.toNat ∧
      text = s!"{h.toNat} - {a.toNat}"

inductive Listed (name : String) : List Json → List Fixture → Prop where
  | nil : Listed name [] []
  | shown {item f items fixtures} (fits : Presentable name item) (shows : Shows name item f)
      (rest : Listed name items fixtures) : Listed name (item :: items) (f :: fixtures)
  | skipped {item items fixtures} (unfit : ¬ Presentable name item)
      (rest : Listed name items fixtures) : Listed name (item :: items) fixtures

end Answer

namespace Fixture

theorem cacheEntryFields (item : Json) :
    (cacheEntry item).field "home" = Answer.home item ∧
    (cacheEntry item).field "away" = Answer.away item ∧
    (cacheEntry item).field "venue" = Answer.venue item ∧
    (cacheEntry item).field "timestamp" = Answer.kickoff item ∧
    (cacheEntry item).field "fixture_id" = Answer.id item ∧
    (cacheEntry item).field "score" = .string (cachedScore (item.field "goals")) :=
  ⟨rfl, rfl, rfl, rfl, rfl, rfl⟩

theorem scoreOfEntry (item : Json) :
    scoreOf (cacheEntry item) = scoreOfText (cachedScore (item.field "goals")) := by
  have ⟨_, _, _, _, _, score⟩ := cacheEntryFields item
  rw [scoreOf, score]

theorem digitNotSep {c : Char} (digit : c.isDigit = true) : isScoreSep c = false := by
  have ⟨low, high⟩ := Char.isDigit_iff_toNat.1 digit
  unfold isScoreSep
  simp only [Bool.or_eq_false_iff, beq_eq_false_iff_ne]
  refine ⟨⟨?_, ?_⟩, ?_⟩ <;> rintro rfl <;> simp at low high

theorem scoreOfParts {text : String} {home away : List Char} {sep : Char}
    (shape : text.toList = home ++ sep :: away) (between : isScoreSep sep = true)
    (left : ∀ c ∈ home, isScoreSep c = false) (right : ∀ c ∈ away, isScoreSep c = false) :
    scoreOfText text = ⟨Whole.uint32? (Text.trim home), Whole.uint32? (Text.trim away)⟩ := by
  rw [scoreOfText, shape, Text.splitAtSeparator left between, Text.splitPlain right]
  rfl

theorem scoreWritten (h a : Nat) :
    scoreOfText s!"{h} - {a}" =
      ⟨Whole.uint32? (Whole.chars h), Whole.uint32? (Whole.chars a)⟩ := by
  have home := Whole.charsNumeral h
  have away := Whole.charsNumeral a
  have shape : s!"{h} - {a}".toList = (Whole.chars h ++ [' ']) ++ '-' :: (' ' :: Whole.chars a) := by
    simp [Whole.chars, String.toList_append, Nat.toList_repr, toString]
  have left : ∀ c ∈ Whole.chars h ++ [' '], isScoreSep c = false := by
    intro c mem
    rcases List.mem_append.1 mem with digit | blank
    · exact digitNotSep (home.digits c digit)
    · obtain rfl := List.mem_singleton.1 blank
      decide
  have right : ∀ c ∈ ' ' :: Whole.chars a, isScoreSep c = false := by
    intro c mem
    rcases List.mem_cons.1 mem with rfl | digit
    · decide
    · exact digitNotSep (away.digits c digit)
  have blank : ∀ c ∈ [' '], Text.isBlank c = true := List.forall_mem_singleton.2 (by decide)
  have first : Text.trim (Whole.chars h ++ [' ']) = Whole.chars h :=
    Whole.numeralTrimmed home [] [' '] (by simp) blank
  have second : Text.trim (' ' :: Whole.chars a) = Whole.chars a := by
    simpa using Whole.numeralTrimmed away [' '] [] blank (by simp)
  rw [scoreOfParts shape (by decide) left right, first, second]

theorem charsRead {n : Nat} {m : UInt32} : Whole.uint32? (Whole.chars n) = some m ↔ m.toNat = n := by
  rw [Whole.uint32Iff]
  constructor
  · exact fun told => Whole.unsignedUnique told (.bare (Whole.charsNumeral n))
  · rintro rfl
    exact .bare (Whole.charsNumeral _)

/- The cache may hold a count beyond 32 bits; read back, such a score is not there. -/
theorem cachedScoreShown (goals : Json) (text : String) :
    (scoreOfText (cachedScore goals)).text? = some text ↔
      ∃ h a : UInt32, goals.field "home" = .int h.toNat ∧ goals.field "away" = .int a.toNat ∧
        text = s!"{h.toNat} - {a.toNat}" := by
  constructor
  · intro shown
    unfold cachedScore at shown
    split at shown
    · rename_i h a home away
      rw [scoreWritten, Score.textIff] at shown
      obtain ⟨m, n, readHome, readAway, same⟩ := shown
      obtain rfl := charsRead.1 readHome
      obtain rfl := charsRead.1 readAway
      exact ⟨m, n, (Json.uint64Iff.1 home).1, (Json.uint64Iff.1 away).1, same⟩
    · contradiction
  · rintro ⟨h, a, home, away, same⟩
    have small : ∀ n : UInt32, n.toNat < UInt64.size :=
      fun n => Nat.lt_trans n.toNat_lt_size (by decide)
    simp only [cachedScore, Json.uint64Iff.2 ⟨home, small h⟩, Json.uint64Iff.2 ⟨away, small a⟩]
    rw [scoreWritten, Score.textIff]
    exact ⟨h, a, charsRead.2 rfl, charsRead.2 rfl, same⟩

theorem entryIff {name : String} {item : Json} {f : Fixture} :
    ofPayload? name (cacheEntry item) = some f ↔
      ∃ home away t, Answer.home item = .string home ∧ Answer.away item = .string away ∧
        Payload.instant? (Answer.kickoff item) = some t ∧
        f = ⟨name, home, away, (Answer.venue item).string?.getD "",
          scoreOfText (cachedScore (item.field "goals")), t,
          Payload.uint32? (Answer.id item)⟩ := by
  obtain ⟨home, away, venue, kickoff, id, _⟩ := cacheEntryFields item
  simp only [ofPayload?, home, away, venue, kickoff, id, scoreOfEntry, Option.bind_eq_bind,
    Option.bind_eq_some_iff, Json.stringIff, Option.some.injEq, eq_comm (a := f)]
  constructor
  · rintro ⟨h, isHome, a, isAway, t, reached, same⟩
    exact ⟨h, a, t, isHome, isAway, reached, same⟩
  · rintro ⟨h, a, t, isHome, isAway, reached, same⟩
    exact ⟨h, isHome, a, isAway, t, reached, same⟩

theorem entryShows {name : String} {item : Json} {f : Fixture}
    (read : ofPayload? name (cacheEntry item) = some f) : Answer.Shows name item f := by
  obtain ⟨home, away, t, isHome, isAway, reached, rfl⟩ := entryIff.1 read
  refine ⟨rfl, isHome, isAway, ?_, Payload.instantIff.1 reached, fun n => Payload.uint32Iff,
    cachedScoreShown (item.field "goals")⟩
  cases place : Answer.venue item with
  | string v => exact .inl rfl
  | null | bool _ | int _ | float _ | array _ | object _ => exact .inr ⟨rfl, nofun⟩

theorem entryPresentable {name : String} {item : Json} (own : leagueName? item = some name) :
    (∃ f, ofPayload? name (cacheEntry item) = some f) ↔ Answer.Presentable name item := by
  simp only [entryIff]
  constructor
  · rintro ⟨f, home, away, t, isHome, isAway, reached, _⟩
    obtain ⟨told, _⟩ := Payload.instantIff.1 reached
    exact ⟨Json.stringIff.1 own, ⟨home, isHome⟩, ⟨away, isAway⟩, t.seconds, told, t.admitted.1,
      t.admitted.2.1⟩
  · rintro ⟨_, ⟨home, isHome⟩, ⟨away, isAway⟩, n, told, low, high⟩
    let t : Instant := ⟨n, 0, low, high, .inl (by decide)⟩
    exact ⟨_, home, away, t, isHome, isAway, Payload.instantIff.2 ⟨told, rfl⟩, rfl⟩

def ownEntries (name : String) (items : List Json) : List Json :=
  (items.filter (leagueName? · = some name)).map cacheEntry

theorem ownEntriesOwn {name : String} {item : Json} (own : leagueName? item = some name)
    (rest : List Json) :
    ownEntries name (item :: rest) = cacheEntry item :: ownEntries name rest := by
  simp [ownEntries, own]

theorem ownEntriesOther {name : String} {item : Json} (other : leagueName? item ≠ some name)
    (rest : List Json) : ownEntries name (item :: rest) = ownEntries name rest := by
  simp [ownEntries, other]

theorem ownEntriesHeld {name : String} {items : List Json} :
    ownEntries name items ≠ [] ↔ ∃ item ∈ items, Answer.league item = .string name := by
  simp [ownEntries, leagueName?, Json.stringIff, Answer.league]

def group (t : NameTable (List Json)) (item : Json) : NameTable (List Json) :=
  match leagueName? item with
  | some league => t.append league (cacheEntry item)
  | none => t

theorem groupByLeagueEq (items : List Json) : groupByLeague items = items.foldl group .empty := rfl

theorem findGroup (t : NameTable (List Json)) (name : String) (item : Json) :
    (group t item).find? name =
      if leagueName? item = some name then some ((t.find? name).getD [] ++ [cacheEntry item])
      else t.find? name := by
  unfold group
  cases own : leagueName? item with
  | none => simp
  | some league =>
    by_cases same : league = name
    · subst same
      simp [NameTable.append, NameTable.findInsertSelf]
    · simp [NameTable.append, NameTable.findInsertOther (Ne.symm same), same]

theorem findGroups (t : NameTable (List Json)) (name : String) (items : List Json) :
    (items.foldl group t).find? name =
      if ownEntries name items = [] then t.find? name
      else some ((t.find? name).getD [] ++ ownEntries name items) := by
  -- The table is general: what the earlier matches left in it comes in front.
  induction items generalizing t with
  | nil => simp [ownEntries]
  | cons item rest ih =>
    rw [List.foldl_cons, ih, findGroup]
    by_cases own : leagueName? item = some name
    · rw [ownEntriesOwn own, if_pos own]
      split
      · rename_i last
        simp [last]
      · simp
    · rw [ownEntriesOther own, if_neg own]

theorem findGroupByLeague (name : String) (items : List Json) :
    (groupByLeague items).find? name =
      if ownEntries name items = [] then none else some (ownEntries name items) := by
  rw [groupByLeagueEq, findGroups]
  rfl

theorem ownListed (name : String) (items : List Json) :
    Answer.Listed name items ((ownEntries name items).filterMap (ofPayload? name)) := by
  induction items with
  | nil => exact .nil
  | cons item rest ih =>
    by_cases own : leagueName? item = some name
    · rw [ownEntriesOwn own]
      cases read : ofPayload? name (cacheEntry item) with
      | none =>
        rw [List.filterMap_cons_none read]
        refine .skipped (fun fits => ?_) ih
        obtain ⟨f, kept⟩ := (entryPresentable own).2 fits
        rw [read] at kept
        contradiction
      | some f =>
        rw [List.filterMap_cons_some read]
        exact .shown ((entryPresentable own).1 ⟨f, read⟩) (entryShows read) ih
    · rw [ownEntriesOther own]
      exact .skipped (fun fits => own (Json.stringIff.2 fits.league)) ih

end Fixture

theorem leaguesOfCache (t : NameTable (List Json)) :
    ∃ leagues, Leagues.ofPayload (.object (t.entries.map fun e => (e.1, Json.array e.2))) =
        .ok leagues ∧
      ∀ name, leagues.find? name =
        (t.find? name).map (·.filterMap (Fixture.ofPayload? name)) := by
  let shown : String → List Json → List Fixture :=
    fun name entries => entries.filterMap (Fixture.ofPayload? name)
  have read : Leagues.ofPayload (.object (t.entries.map fun e => (e.1, Json.array e.2))) =
      .ok (.ofEntries (t.entries.map fun e => (e.1, shown e.1 e.2))) := by
    simp only [Leagues.ofPayload, List.map_map]
    rfl
  have sorted : Entries.Sorted (t.entries.map fun e => (e.1, shown e.1 e.2)) := by
    rw [Entries.Sorted, Entries.namesMap shown]
    exact t.sorted
  refine ⟨_, read, fun name => ?_⟩
  rw [NameTable.findOfEntries sorted, Entries.findMap]
  rfl

namespace Answer

structure ShownAs (items : List Json) (leagues : Leagues) : Prop where
  names : ∀ name, name ∈ leagues.names ↔ ∃ item ∈ items, league item = .string name
  lists : ∀ name fixtures, leagues.find? name = some fixtures → Listed name items fixtures

theorem cacheShowsMatches (raw : Json) :
    (Fixture.cache? raw = none ↔ ∀ items, raw.field "response" ≠ .array items) ∧
    ∀ items, raw.field "response" = .array items →
      ∃ cache leagues, Fixture.cache? raw = some cache ∧
        Leagues.ofPayload cache = .ok leagues ∧ ShownAs items leagues := by
  constructor
  · simp only [Fixture.cache?, Option.bind_eq_bind, Option.bind_eq_none_iff, Json.arrayIff,
      reduceCtorEq, imp_false, ne_eq]
  · intro items response
    have made : Fixture.cache? raw = some (.object
        ((Fixture.groupByLeague items).entries.map fun e => (e.1, .array e.2))) := by
      simp only [Fixture.cache?, Json.arrayIff.2 response]
      rfl
    obtain ⟨leagues, read, found⟩ := leaguesOfCache (Fixture.groupByLeague items)
    refine ⟨_, leagues, made, read, ⟨?_, ?_⟩⟩
    · intro name
      rw [NameTable.memNamesIff, found, Fixture.findGroupByLeague, ← Fixture.ownEntriesHeld]
      split <;> simp_all
    · intro name fixtures held
      rw [found, Fixture.findGroupByLeague] at held
      split at held
      · contradiction
      · obtain rfl := Option.some.inj held
        exact Fixture.ownListed name items

def postponed : Json := .object [
  ("fixture", .object [("id", .string " 7 "), ("timestamp", .string "1700000000.5")]),
  ("league", .object [("name", .string "Cup")]),
  ("teams", .object [
    ("away", .object [("name", .string "B")]), ("home", .object [("name", .string "A")])])]

theorem postponedMatchShown :
    ∃ cache leagues,
      Fixture.cache? (.object [("response", .array [postponed, .null])]) = some cache ∧
      Leagues.ofPayload cache = .ok leagues ∧ ShownAs [postponed, .null] leagues ∧
      "Cup" ∈ leagues.names := by
  obtain ⟨cache, leagues, made, read, shown⟩ :=
    (cacheShowsMatches (.object [("response", .array [postponed, .null])])).2 _ rfl
  exact ⟨cache, leagues, made, read, shown, (shown.names "Cup").2 ⟨postponed, .head _, rfl⟩⟩

end Answer
end MatchGuide
