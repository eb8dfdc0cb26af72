import MatchGuide.Fixture.Payload
import MatchGuide.Store.Files
import MatchGuide.Stream.Payload

/-! What the page shows: the latest fixtures and the latest streams, each replaced as a whole by a
read that succeeded. -/
namespace MatchGuide

structure Snapshot where
  leagues : Leagues
  streams : List Stream

namespace Snapshot

def empty : Snapshot := ⟨.empty, []⟩

def streamAt? (s : Snapshot) (index : Int64) : Option Stream :=
  if 0 ≤ index then s.streams[index.toInt.toNat]? else none

def streamByKey? (s : Snapshot) (key : StreamKey) : Option Stream :=
  s.streams.find? (·.key == key)

def fixtureByKey? (s : Snapshot) (key : FixtureKey) : Option Fixture := do
  let fixtures ← s.leagues.find? key.league
  fixtures.find? (·.id == some key.id)

end Snapshot

inductive FetchError where
  | unreachable (url : String)
  | status (url : String) (code : Nat)
  | malformed (origin : String)
  | shape (origin : String) (cause : ShapeError)
  | unreadable (path : String) (cause : IoError)
  deriving DecidableEq, Repr

def FetchError.message : FetchError → String
  | unreachable url => s!"request to {url} failed"
  | status url code => s!"{url} returned HTTP {code}"
  | malformed origin => s!"invalid payload from {origin}"
  | shape origin cause => s!"invalid payload from {origin}: {cause.message}"
  | unreadable path cause => s!"failed to read {path}: {cause.message}"

structure Reads where
  fixtures : Except FetchError Leagues
  streams : Except FetchError (List Stream)

structure LoadReport where
  fixturesReplaced : Bool
  streamsReplaced : Bool
  deriving DecidableEq, Repr

def Snapshot.replace (s : Snapshot) (r : Reads) : Snapshot × LoadReport :=
  let (leagues, fixturesReplaced) := match r.fixtures with
    | .ok leagues => (leagues, true)
    | .error _ => (s.leagues, false)
  let (streams, streamsReplaced) := match r.streams with
    | .ok streams => (streams, true)
    | .error _ => (s.streams, false)
  (⟨leagues, streams⟩, ⟨fixturesReplaced, streamsReplaced⟩)

/- Loads are numbered from one as they start. The counter they are numbered by has 64 bits, and to
wrap around it would take 2 ^ 64 loads, so here it has no bound. -/
structure Load where
  number : Nat
  reads : Reads

structure Board where
  snapshot : Snapshot
  applied : Nat

namespace Board

def empty : Board := ⟨.empty, 0⟩

def apply (b : Board) (l : Load) : Board × Option LoadReport :=
  if l.number ≤ b.applied then (b, none)
  else
    let (snapshot, report) := b.snapshot.replace l.reads
    (⟨snapshot, l.number⟩, some report)

end Board
end MatchGuide
