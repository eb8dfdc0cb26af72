import MatchGuide.Html
import MatchGuide.Stream.Basic

/-! The table of streams. A stream with something to play has a button, red while it is live. -/
namespace MatchGuide.StreamTable

structure Row where
  position : Nat
  date : String
  description : String
  live : Bool
  key : Option StreamKey
  deriving DecidableEq

def Row.label (r : Row) : String := if r.live then "Live" else "Watch"

def Row.style (r : Row) : String := if r.live then "btn btn-danger" else "btn btn-outline-primary"

def row (s : Stream) (i : Nat) : Row where
  position := i
  date := s.date.dayText
  description := s.description
  live := s.live
  key := if s.sources.isEmpty then none else some s.key

def rows (streams : List Stream) : List Row := streams.zipIdx.map fun (s, i) => row s i

def Row.actionHtml (r : Row) : Html :=
  match r.key with
  | some key =>
    [.markup "<td><form method=\"post\" action=\"/play/stream/", .markup key.text,
      .markup "\"><button type=\"submit\" class=\"", .markup r.style, .markup "\">",
      .markup r.label, .markup "</button></form></td>"]
  | none => [.markup "<td></td>"]

def Row.html (r : Row) : Html :=
  [.markup "<tr><td>", .text r.date, .markup "</td><td>", .text r.description, .markup "</td>"] ++
  r.actionHtml ++ [.markup "</tr>"]

def html (rows : List Row) : Html := rows.flatMap Row.html

end MatchGuide.StreamTable
