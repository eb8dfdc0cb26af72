import MatchGuide.Html
import MatchGuide.Snapshot
import MatchGuide.Text.Percent

/-! The schedule of a league. The fixture that comes next is marked; those before it are greyed out
and may be cut to the last few; those from it on may be watched where there is a recording. -/
namespace MatchGuide

namespace Schedule

def noScore : String := "–"

structure Row where
  position : Nat
  date : String
  time : String
  home : String
  away : String
  venue : String
  score : String
  disabled : Bool
  upcoming : Bool
  watch : Option FixtureKey
  deriving DecidableEq

def upcomingIndex? (fixtures : List Fixture) (now : Instant) : Option Nat :=
  fixtures.findIdx? fun f => now.millis < f.kickoff.seconds * 1000

def start (upcoming history : Option Nat) : Nat :=
  match upcoming, history with
  | some u, some h => u - h
  | _, _ => 0

def row (recorded : Fixture → Bool) (upcoming : Option Nat) (f : Fixture) (i : Nat) : Row :=
  let disabled := match upcoming with
    | some u => decide (i < u)
    | none => false
  { position := i
    date := f.kickoff.dayText
    time := f.kickoff.clockText
    home := f.home
    away := f.away
    venue := f.venue
    score := f.score.text?.getD noScore
    disabled
    upcoming := upcoming == some i
    watch := if !disabled && recorded f then f.key? else none }

def rowsOf (fixtures : List Fixture) (now : Instant) (recorded : Fixture → Bool)
    (history : Option Nat) : List Row :=
  let upcoming := upcomingIndex? fixtures now
  (fixtures.zipIdx.drop (start upcoming history)).map fun (f, i) => row recorded upcoming f i

def rows (leagues : Leagues) (league : String) (now : Instant) (recorded : Fixture → Bool)
    (history : Option Nat) : List Row :=
  match leagues.find? league with
  | some fixtures => rowsOf fixtures now recorded history
  | none => []

def watchHtml (key : FixtureKey) : Html :=
  [.markup "<td><form method=\"post\" action=\"/play/fixture/",
    .text (Form.encodeSegment key.league), .markup "/", .markup (Whole.text key.id.toNat),
    .markup "\"><button type=\"submit\" class=\"btn btn-outline-primary\">Watch</button></form></td>"]

def Row.opening (r : Row) : String :=
  if r.disabled then "<tr class=\"disabled text-muted\"><th scope=\"row\"><div>"
  else if r.upcoming then "<tr class=\"table-active\"><th scope=\"row\"><div>"
  else "<tr><th scope=\"row\"><div>"

def Row.actionHtml (r : Row) : Html :=
  match r.watch, r.disabled with
  | some key, false => watchHtml key
  | _, _ => [.markup "<td></td>"]

def Row.html (r : Row) : Html :=
  [.markup r.opening, .text r.date, .markup "</div><div>", .text r.time,
    .markup "</div></th><td>", .text r.home, .markup "</td><td>", .text r.away,
    .markup "</td><td>", .text r.venue, .markup "</td><td>", .text r.score, .markup "</td>"] ++
  r.actionHtml ++ [.markup "</tr>"]

def html (rows : List Row) : Html := rows.flatMap Row.html

def headingMarkup : String := "</h4><table class=\"table table-responsive-md table-hover\"><thead><tr><th scope=\"col\">Date</th><th scope=\"col\">Home</th><th scope=\"col\">Away</th><th scope=\"col\">Venue</th><th scope=\"col\">Score</th><th scope=\"col\">Watch</th></tr></thead><tbody>"

def tableHtml (league : String) (rows : List Row) : Html :=
  [.markup "<h4>", .text league, .markup headingMarkup] ++
  html rows ++ [.markup "</tbody></table>"]

def tablesHtml (leagues : Leagues) (now : Instant) (recorded : Fixture → Bool)
    (history : Option Nat) : Html :=
  leagues.names.flatMap fun league => tableHtml league (rows leagues league now recorded history)

end Schedule
end MatchGuide
