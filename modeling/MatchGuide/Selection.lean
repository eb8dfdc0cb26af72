import MatchGuide.Player
import MatchGuide.Text.Percent

/-! A visitor's choice, as it stands in the query of the page's URL. A stream's key counts before
its position, and both before a fixture. -/
namespace MatchGuide

structure Selection where
  stream : Option String
  index : Option Int64
  league : Option String
  fixture : Option UInt32
  deriving DecidableEq

namespace Selection

def empty : Selection := ⟨none, none, none, none⟩

def ofStream (key : StreamKey) : Selection := { empty with stream := some key.text }

def ofIndex (index : Int64) : Selection := { empty with index := some index }

def ofFixture (key : FixtureKey) : Selection :=
  { empty with league := some key.league, fixture := some key.id }

inductive Target where
  | stream (key : StreamKey)
  | index (i : Int64)
  | fixture (key : FixtureKey)
  deriving DecidableEq

def target? (s : Selection) : Option Target :=
  match s.stream, s.index, s.league, s.fixture with
  | some key, _, _, _ => some (.stream ⟨key⟩)
  | none, some i, _, _ => some (.index i)
  | none, none, some league, some id => some (.fixture ⟨league, id⟩)
  | _, _, _, _ => none

def Target.pairs : Target → List (String × String)
  | stream key => [("stream", key.text)]
  | index i => [("index", Whole.intText i.toInt)]
  | fixture key => [("league", key.league), ("fixture", Whole.text key.id.toNat)]

def location (s : Selection) : String :=
  match s.target? with
  | none => "/"
  | some t => .ofList ('/' :: '?' :: Form.encode t.pairs)

/- Takes one pair of a query. A field may stand only once and has to be of its kind; a name that is
no field does not count. -/
def take? (s : Selection) (pair : String × String) : Option Selection :=
  match pair.1 with
  | "stream" => if s.stream.isSome then none else some { s with stream := some pair.2 }
  | "index" =>
    if s.index.isSome then none
    else (Whole.int64? pair.2.toList).map fun i => { s with index := some i }
  | "league" => if s.league.isSome then none else some { s with league := some pair.2 }
  | "fixture" =>
    if s.fixture.isSome then none
    else (Whole.uint32? pair.2.toList).map fun id => { s with fixture := some id }
  | _ => some s

def ofQuery? (query : List Char) : Option Selection := (Form.decode query).foldlM take? empty

def run (sel : Selection) (s : Session) (shot : Snapshot) (recorded : Fixture → Bool) :
    Except SelectError Session :=
  match sel.target? with
  | none => .ok s
  | some (.stream key) => s.selectKey shot key
  | some (.index i) => s.selectAt shot i
  | some (.fixture key) => s.selectFixture shot recorded key

end Selection
end MatchGuide
