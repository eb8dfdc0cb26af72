import MatchGuide.Json.Reader
import MatchGuide.Snapshot

/-! The two files of page data: the cache of fixtures and the catalog of streams. -/
namespace MatchGuide

structure Catalog where
  fixturesPath : String
  streamsPath : String
  deriving DecidableEq, Repr

def Store.readJson (store : Store) (path : String) (missing : Json) : Except FetchError Json :=
  match store.read path with
  | .ok raw =>
    match Json.ofBytes? raw with
    | some j => .ok j
    | none => .error (.malformed path)
  | .error .notFound => .ok missing
  | .error e => .error (.unreadable path e)

def FetchError.ofShape (origin : String) (result : Except ShapeError α) : Except FetchError α :=
  result.mapError (.shape origin)

namespace Catalog

def fixturesJson (c : Catalog) (store : Store) : Except FetchError Json :=
  store.readJson c.fixturesPath (.object [])

def streamsJson (c : Catalog) (store : Store) : Except FetchError Json :=
  store.readJson c.streamsPath (.array [])

def fixtures (c : Catalog) (store : Store) : Except FetchError Leagues := do
  FetchError.ofShape c.fixturesPath (Leagues.ofPayload (← c.fixturesJson store))

def streams (c : Catalog) (store : Store) : Except FetchError (List Stream) := do
  FetchError.ofShape c.streamsPath (Stream.listOfPayload (← c.streamsJson store))

def reads (c : Catalog) (store : Store) : Reads := ⟨c.fixtures store, c.streams store⟩

end Catalog
end MatchGuide
