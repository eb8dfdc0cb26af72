import MatchGuide.Fixture.Basic
import MatchGuide.Payload
import MatchGuide.Text.Split

/-! Reading fixtures: an object with a list of matches under each league's name. A match without
team names or kickoff is left out; anything else it does not say stays empty. -/
namespace MatchGuide

namespace Fixture

def isScoreSep (c : Char) : Bool := c == '-' || c == '–' || c == ':'

def scoreOfText (s : String) : Score :=
  let parts := (Text.split isScoreSep s.toList).map fun part => Whole.uint32? (Text.trim part)
  ⟨parts[0]?.join, parts[1]?.join⟩

def scoreOfFields (j : Json) (home away : String) : Score :=
  ⟨Payload.uint32? (j.field home), Payload.uint32? (j.field away)⟩

def scoreOf (item : Json) : Score :=
  match item.field "score" with
  | .string s => scoreOfText s
  | score =>
    if (item.field "goals").isObject then scoreOfFields (item.field "goals") "home" "away"
    else if score.isObject then scoreOfFields score "home" "away"
    else scoreOfFields item "home_goals" "away_goals"

def ofPayload? (league : String) (item : Json) : Option Fixture := do
  let home ← (item.field "home").string?
  let away ← (item.field "away").string?
  let kickoff ← Payload.instant? (item.field "timestamp")
  some {
    league, home, away, kickoff
    venue := ((item.field "venue").string?).getD ""
    score := scoreOf item
    id := Payload.uint32? (item.field "fixture_id") }

theorem payloadIff {league : String} {item : Json} {f : Fixture} :
    ofPayload? league item = some f ↔
      f.league = league ∧ (item.field "home").string? = some f.home ∧
      (item.field "away").string? = some f.away ∧
      Payload.instant? (item.field "timestamp") = some f.kickoff ∧
      f.venue = ((item.field "venue").string?).getD "" ∧ f.score = scoreOf item ∧
      f.id = Payload.uint32? (item.field "fixture_id") := by
  simp only [ofPayload?, Option.bind_eq_bind, Option.bind_eq_some_iff, Option.some.injEq]
  constructor
  · rintro ⟨home, isHome, away, isAway, kickoff, reached, rfl⟩
    exact ⟨rfl, isHome, isAway, reached, rfl, rfl, rfl⟩
  · rintro ⟨rfl, isHome, isAway, reached, venue, score, id⟩
    refine ⟨f.home, isHome, f.away, isAway, f.kickoff, reached, ?_⟩
    rw [← venue, ← score, ← id]

def listOfPayload (league : String) (entries : Json) : List Fixture :=
  match entries with
  | .array items => items.filterMap (ofPayload? league)
  | _ => []

end Fixture

def Leagues.ofPayload (raw : Json) : Except ShapeError Leagues :=
  match raw with
  | .object fields =>
    .ok (.ofEntries (fields.map fun (league, entries) =>
      (league, Fixture.listOfPayload league entries)))
  | raw => .error ⟨"object", raw.shape⟩

theorem Leagues.payloadItem {raw : Json} {leagues : Leagues} {league : String}
    {fixtures : List Fixture} {f : Fixture} (read : ofPayload raw = .ok leagues)
    (found : leagues.find? league = some fixtures) (mem : f ∈ fixtures) :
    ∃ item, Fixture.ofPayload? league item = some f := by
  unfold ofPayload at read
  split at read
  · obtain rfl := Except.ok.inj read
    obtain ⟨⟨name, entries⟩, _, same⟩ := List.mem_map.mp (NameTable.memOfEntries found)
    obtain ⟨rfl, rfl⟩ := Prod.mk.inj same
    unfold Fixture.listOfPayload at mem
    split at mem
    · obtain ⟨item, _, made⟩ := List.mem_filterMap.mp mem
      exact ⟨item, made⟩
    · contradiction
  · contradiction

end MatchGuide
