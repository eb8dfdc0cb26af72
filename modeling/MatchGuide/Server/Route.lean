import MatchGuide.Fixture.Basic
import MatchGuide.Text.Percent
import MatchGuide.Text.Split
import MatchGuide.Text.Whole

/-! What a path on the site names. Parameters are single segments; an empty one is a parameter only
if another segment follows it. -/
namespace MatchGuide.Server

inductive Route where
  | page
  | fixtures
  | streams
  | streamTable
  | schedule (league : List Char)
  | player
  | playStream (key : List Char)
  | playIndex (index : List Char)
  | playFixture (league id : List Char)
  | asset (path : List Char)
  | recording (path : List Char)
  deriving DecidableEq, Repr

namespace Route

def segmentsOf (path : List Char) : List String := (Text.split (· == '/') path).map String.ofList

def below (rest : List String) : List Char :=
  let path := Text.join ['/'] (rest.map String.toList)
  if path.head? = some '/' then path else '/' :: path

def lastParameter (segment : String) (route : List Char → Route) : Option Route :=
  if segment.isEmpty then none else some (route segment.toList)

def ofSegments? : List String → Option Route
  | [""] => some page
  | ["fixtures"] => some fixtures
  | ["streams", "all"] => some streams
  | ["streams", "table"] => some streamTable
  | ["schedule", league] => lastParameter league schedule
  | ["player"] => some player
  | ["play", "stream", key] => lastParameter key playStream
  | ["play", "index", index] => lastParameter index playIndex
  | ["play", "fixture", league, id] => lastParameter id (playFixture league.toList)
  | "static" :: rest => some (asset (below rest))
  | "recordings" :: rest => some (recording (below rest))
  | _ => none

def ofPath? : List Char → Option Route
  | '/' :: path => ofSegments? (segmentsOf path)
  | _ => none

def isPost : Route → Bool
  | playStream _ => true
  | playIndex _ => true
  | playFixture _ _ => true
  | _ => false

def parameter? (segment : List Char) : Option String := Percent.decodeText? (.ofList segment)

def index? (segment : List Char) : Option Int64 :=
  (parameter? segment).bind fun s => Whole.int64? s.toList

def fixtureKey? (league id : List Char) : Option FixtureKey := do
  let league ← parameter? league
  let id ← parameter? id
  let id ← Whole.uint32? id.toList
  some ⟨league, id⟩

end Route
end MatchGuide.Server
