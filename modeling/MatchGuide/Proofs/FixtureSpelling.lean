import MatchGuide.Proofs.FixtureCache
import MatchGuide.Proofs.Spelling

/-! The spellings of a payload of fixtures. Kickoff, id, venue and score of each fixture may be
written in one way or another, whatever is chosen for its neighbours; what is read is the table that
was spelled. -/
namespace MatchGuide

namespace Fixture
open Payload (SpellsCount SpellsInstant)

/- A score as a text, as an object or as two fields of the match. The text goes before the objects,
and `goals` before `score`: a spelling that is tried later needs the earlier ones not to be there. -/
inductive SpellsScore (item : Json) : Score → Prop where
  | text {s left sep right} {home away : UInt32} (field : item.field "score" = .string s)
      (shape : s.toList = left ++ sep :: right) (between : sep ∈ ['-', '–', ':'])
      (first : Whole.Shows left home.toNat) (second : Whole.Shows right away.toNat) :
      SpellsScore item ⟨some home, some away⟩
  | empty (field : item.field "score" = .string "") : SpellsScore item ⟨none, none⟩
  | goals {fields home away} (noText : ∀ s, item.field "score" ≠ .string s)
      (object : item.field "goals" = .object fields)
      (first : SpellsCount ((item.field "goals").field "home") home)
      (second : SpellsCount ((item.field "goals").field "away") away) : SpellsScore item ⟨home, away⟩
  | score {fields home away} (noGoals : ∀ other, item.field "goals" ≠ .object other)
      (object : item.field "score" = .object fields)
      (first : SpellsCount ((item.field "score").field "home") home)
      (second : SpellsCount ((item.field "score").field "away") away) : SpellsScore item ⟨home, away⟩
  | fields {home away} (noText : ∀ s, item.field "score" ≠ .string s)
      (noGoals : ∀ other, item.field "goals" ≠ .object other)
      (noScore : ∀ other, item.field "score" ≠ .object other)
      (first : SpellsCount (item.field "home_goals") home)
      (second : SpellsCount (item.field "away_goals") away) : SpellsScore item ⟨home, away⟩

structure Spells (league : String) (item : Json) (f : Fixture) : Prop where
  league : f.league = league
  home : item.field "home" = .string f.home
  away : item.field "away" = .string f.away
  venue : item.field "venue" = .string f.venue ∨ (f.venue = "" ∧ item.field "venue" = .null)
  kickoff : SpellsInstant (item.field "timestamp") f.kickoff
  id : SpellsCount (item.field "fixture_id") f.id
  score : SpellsScore item f.score

theorem separatorIff {c : Char} : isScoreSep c = true ↔ c ∈ ['-', '–', ':'] := by
  simp [isScoreSep, or_assoc]

theorem blankNotSep {c : Char} (blank : Text.isBlank c = true) : isScoreSep c = false := by
  refine Bool.eq_false_iff.mpr fun sep => ?_
  have apart : ['-', '–', ':'].any Text.isBlank = false := by decide
  exact List.any_eq_false.mp apart c (separatorIff.mp sep) blank

theorem unsignedNotSep {s : List Char} {n : Nat} (told : Whole.Unsigned s n) :
    ∀ c ∈ s, isScoreSep c = false := by
  cases told with
  | bare digits => exact fun c mem => digitNotSep (digits.digits c mem)
  | plus digits =>
    exact List.forall_mem_cons.mpr ⟨by decide, fun c mem => digitNotSep (digits.digits c mem)⟩

theorem showsNotSep {part : List Char} {n : Nat} (shows : Whole.Shows part n) :
    ∀ c ∈ part, isScoreSep c = false := by
  obtain ⟨s, told, padded⟩ := shows
  exact fun c mem => (Text.paddedMem padded mem).elim blankNotSep (unsignedNotSep told c)

theorem partRead {part : List Char} {n : UInt32} (shows : Whole.Shows part n.toNat) :
    Whole.uint32? (Text.trim part) = some n := Whole.uint32Iff.mpr (Whole.showsTrim shows)

theorem scoreOfNoText {item : Json} (noText : ∀ s, item.field "score" ≠ .string s) :
    scoreOf item =
      if (item.field "goals").isObject then scoreOfFields (item.field "goals") "home" "away"
      else if (item.field "score").isObject then scoreOfFields (item.field "score") "home" "away"
      else scoreOfFields item "home_goals" "away_goals" := by
  unfold scoreOf
  split
  · rename_i s text
    exact absurd text (noText s)
  · rfl

theorem fieldsRead {j : Json} {first second : String} {home away : Option UInt32}
    (left : SpellsCount (j.field first) home) (right : SpellsCount (j.field second) away) :
    scoreOfFields j first second = ⟨home, away⟩ := by
  rw [scoreOfFields, Payload.countRead left, Payload.countRead right]

theorem scoreRead {item : Json} {score : Score} (spelled : SpellsScore item score) :
    scoreOf item = score := by
  have object {j : Json} {fields : Entries Json} (is : j = .object fields) : j.isObject = true :=
    Json.isObjectIff.mpr ⟨fields, is⟩
  have noObject {j : Json} (none : ∀ fields, j ≠ .object fields) : ¬ j.isObject = true :=
    fun is => (Json.isObjectIff.mp is).elim none
  cases spelled with
  | text field shape between first second =>
    rw [scoreOf, field]
    simp only
    rw [scoreOfParts shape (separatorIff.mpr between) (showsNotSep first) (showsNotSep second),
      partRead first, partRead second]
  | empty field =>
    rw [scoreOf, field]
    rfl
  | goals noText is first second =>
    rw [scoreOfNoText noText, if_pos (object is), fieldsRead first second]
  | score noGoals is first second =>
    have noText : ∀ s, item.field "score" ≠ .string s := fun s text => by
      rw [text] at is
      contradiction
    rw [scoreOfNoText noText, if_neg (noObject noGoals), if_pos (object is), fieldsRead first second]
  | fields noText noGoals noScore first second =>
    rw [scoreOfNoText noText, if_neg (noObject noGoals), if_neg (noObject noScore),
      fieldsRead first second]

theorem fixtureRead {league : String} {item : Json} {f : Fixture} (spelled : Spells league item f) :
    ofPayload? league item = some f := by
  have venue : f.venue = ((item.field "venue").string?).getD "" := by
    rcases spelled.venue with given | ⟨empty, left⟩
    · rw [given]
      rfl
    · rw [empty, left]
      rfl
  exact payloadIff.mpr ⟨spelled.league, Json.stringIff.mpr spelled.home,
    Json.stringIff.mpr spelled.away, Payload.instantRead spelled.kickoff, venue,
    (scoreRead spelled.score).symm, (Payload.countRead spelled.id).symm⟩

theorem fixtureSpelled {f : Fixture} (whole : f.kickoff.nanos = 0) :
    ∃ item, Spells f.league item f := by
  obtain ⟨id, isId⟩ := Payload.countSpelled f.id
  obtain ⟨home, isHome⟩ := Payload.countSpelled f.score.home
  obtain ⟨away, isAway⟩ := Payload.countSpelled f.score.away
  refine ⟨.object [("away", .string f.away), ("fixture_id", id), ("home", .string f.home),
    ("score", .object [("away", away), ("home", home)]), ("timestamp", .int f.kickoff.seconds),
    ("venue", .string f.venue)], ?_⟩
  exact ⟨rfl, rfl, rfl, .inl rfl, .number _ whole, isId, .score nofun rfl isHome isAway⟩

end Fixture

namespace Leagues

inductive SpelledIn : Entries Json → Entries (List Fixture) → Prop where
  | nil : SpelledIn [] []
  | cons {name items fixtures fields leagues}
      (list : List.Forall₂ (Fixture.Spells name) items fixtures) (rest : SpelledIn fields leagues) :
      SpelledIn ((name, .array items) :: fields) ((name, fixtures) :: leagues)

def SpelledBy (leagues : Leagues) (raw : Json) : Prop :=
  ∃ fields, raw = .object fields ∧ SpelledIn fields leagues.entries

def Expressible (leagues : Leagues) : Prop :=
  ∀ name fixtures, (name, fixtures) ∈ leagues.entries →
    ∀ f ∈ fixtures, f.league = name ∧ f.kickoff.nanos = 0

theorem leaguesRead {fields : Entries Json} {leagues : Entries (List Fixture)}
    (spelled : SpelledIn fields leagues) :
    (fields.map fun (league, entries) => (league, Fixture.listOfPayload league entries)) = leagues := by
  induction spelled with
  | nil => rfl
  | cons list _ ih =>
    have read := filterMapSpelled list fun _ _ spelled => Fixture.fixtureRead spelled
    rw [List.map_cons, ih]
    exact congrArg (fun list => (_, list) :: _) read

theorem leaguesSpelled {leagues : Entries (List Fixture)}
    (each : ∀ name fixtures, (name, fixtures) ∈ leagues →
      ∀ f ∈ fixtures, f.league = name ∧ f.kickoff.nanos = 0) :
    ∃ fields, SpelledIn fields leagues := by
  induction leagues with
  | nil => exact ⟨[], .nil⟩
  | cons head rest ih =>
    obtain ⟨name, fixtures⟩ := head
    obtain ⟨fields, later⟩ := ih fun name fixtures mem => each name fixtures (.tail _ mem)
    have items : ∀ f ∈ fixtures, ∃ item, Fixture.Spells name item f := fun f mem => by
      obtain ⟨rfl, whole⟩ := each name fixtures (.head _) f mem
      exact Fixture.fixtureSpelled whole
    obtain ⟨items, list⟩ := listSpelled items
    exact ⟨(name, .array items) :: fields, .cons list later⟩

theorem spelledExpressible {fields : Entries Json} {leagues : Entries (List Fixture)}
    (spelled : SpelledIn fields leagues) :
    ∀ name fixtures, (name, fixtures) ∈ leagues →
      ∀ f ∈ fixtures, f.league = name ∧ f.kickoff.nanos = 0 := by
  induction spelled with
  | nil => exact nofun
  | cons list _ ih =>
    intro name fixtures mem f inside
    rcases List.mem_cons.mp mem with same | later
    · cases same
      obtain ⟨item, _, written⟩ := spelledMem list inside
      exact ⟨written.league, Payload.instantWhole written.kickoff⟩
    · exact ih name fixtures later f inside

theorem fixtureSpellingsRead (leagues : Leagues) :
    ((∃ raw, leagues.SpelledBy raw) ↔ leagues.Expressible) ∧
    ∀ raw, leagues.SpelledBy raw → ofPayload raw = .ok leagues := by
  refine ⟨⟨?_, fun each => ?_⟩, ?_⟩
  · rintro ⟨raw, fields, _, spelled⟩
    exact spelledExpressible spelled
  · obtain ⟨fields, spelled⟩ := leaguesSpelled each
    exact ⟨.object fields, fields, rfl, spelled⟩
  · rintro raw ⟨fields, rfl, spelled⟩
    rw [ofPayload, leaguesRead spelled, NameTable.ofEntriesSelf]

def wordyFields : Entries Json := [
  ("Cup", .array [
    .object [("away", .string "B"), ("home", .string "A"), ("score", .string "\t02\u00A0–+1 "),
      ("timestamp", .string " -060\n")],
    .object [("away", .string "D"), ("fixture_id", .string "0007"),
      ("goals", .object [("home", .string " 3")]), ("home", .string "C"), ("score", .null),
      ("timestamp", .int 120), ("venue", .string "")]]),
  ("Liga", .array [])]

def wordyEntries : Entries (List Fixture) := [
  ("Cup", [
    ⟨"Cup", "A", "B", "", ⟨some 2, some 1⟩, ⟨-60, 0, by decide⟩, none⟩,
    ⟨"Cup", "C", "D", "", ⟨some 3, none⟩, ⟨120, 0, by decide⟩, some 7⟩]),
  ("Liga", [])]

theorem wordySorted : wordyEntries.Sorted := by decide

def wordyLeagues : Leagues := ⟨wordyEntries, wordySorted⟩

theorem wordyRead :
    wordyLeagues.SpelledBy (.object wordyFields) ∧
    ofPayload (.object wordyFields) = .ok wordyLeagues := by
  have numeral {s : List Char} (filled : s ≠ []) (digits : s.all Char.isDigit = true) :
      Whole.Numeral s (Nat.ofDigitChars 10 s 0) := ⟨filled, List.all_eq_true.mp digits, rfl⟩
  have padded {body : List Char} (left right : List Char) (before : left.all Text.isBlank = true)
      (after : right.all Text.isBlank = true) : Text.Padded body (left ++ body ++ right) :=
    .around left right (List.all_eq_true.mp before) (List.all_eq_true.mp after)
  have home : Whole.Shows "\t02\u00A0".toList 2 :=
    ⟨['0', '2'], .bare (numeral nofun rfl), padded ['\t'] ['\u00A0'] rfl rfl⟩
  have away : Whole.Shows "+1 ".toList 1 :=
    ⟨['+', '1'], .plus (numeral nofun rfl), padded [] [' '] rfl rfl⟩
  have id : Whole.Shows "0007".toList 7 :=
    ⟨['0', '0', '0', '7'], .bare (numeral nofun rfl), padded [] [] rfl rfl⟩
  have goals : Whole.Shows " 3".toList 3 :=
    ⟨['3'], .bare (numeral nofun rfl), padded [' '] [] rfl rfl⟩
  have minute : Whole.Numeral ['0', '6', '0'] 60 := numeral nofun rfl
  have kickoff : Text.Padded ['-', '0', '6', '0'] " -060\n".toList := padded [' '] ['\n'] rfl rfl
  have spelled : wordyLeagues.SpelledBy (.object wordyFields) := by
    refine ⟨_, rfl, .cons (.cons ?_ (.cons ?_ .nil)) (.cons .nil .nil)⟩
    · exact ⟨rfl, rfl, rfl, .inr ⟨rfl, rfl⟩,
        .text ⟨-60, 0, by decide⟩ rfl (.minus minute) kickoff, .unknown,
        .text rfl rfl (by decide) home away⟩
    · exact ⟨rfl, rfl, rfl, .inl rfl, .number ⟨120, 0, by decide⟩ rfl, .text id,
        .goals nofun rfl (.text goals) .unknown⟩
  exact ⟨spelled, (fixtureSpellingsRead wordyLeagues).2 _ spelled⟩

end Leagues
end MatchGuide
