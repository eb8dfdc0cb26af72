import MatchGuide.Feed.Football
import MatchGuide.Store.Files

/-! The fixture cache on disk and its refresh. A new cache is written beside the old one and then
moved over it, so that no reader meets half a file. -/
namespace MatchGuide

inductive CacheError where
  | creating (dir : String)
  | writing (path : String)
  | moving (source target : String)
  deriving DecidableEq, Repr

def CacheError.message : CacheError → String
  | creating dir => s!"creating {dir}"
  | writing path => s!"writing {path}"
  | moving source target => s!"renaming {source} to {target}"

namespace Cache

def draftPath (path : String) : String := Path.withExtension path "json.tmp"

def bytes (payload : Json) : Bytes := Utf8.encode payload.compact

def publish (store : Store) (path : String) (payload : Json) : Store × Except CacheError Unit :=
  let draft := draftPath path
  match store.write draft (bytes payload) with
  | .error _ => (store, .error (.writing draft))
  | .ok written =>
    match written.moveFile draft path with
    | .error _ => (written, .error (.moving draft path))
    | .ok moved => (moved, .ok ())

def write (store : Store) (path : String) (payload : Json) : Store × Except CacheError Unit :=
  let dir := Path.parent path
  if dir.isEmpty then publish store path payload
  else
    match store.makeDirectories dir with
    | (made, .error _) => (made, .error (.creating dir))
    | (made, .ok ()) => publish made path payload

end Cache

inductive RefreshError where
  | api (e : ApiError)
  | cache (e : CacheError)
  deriving DecidableEq, Repr

def RefreshError.message : RefreshError → String
  | api e => e.message
  | cache e => e.message

namespace Cache

def refresh (api : FootballApi) (path : String) (net : Network) (store : Store) :
    Store × Except RefreshError Nat :=
  match api.fetch net with
  | .error e => (store, .error (.api e))
  | .ok payload =>
    match write store path payload with
    | (store, .error e) => (store, .error (.cache e))
    | (store, .ok ()) => (store, .ok (Fixture.cacheSize payload))

def refreshAll (api : FootballApi) (path : String) :
    List Network → Store → Store × List (Except RefreshError Nat)
  | [], store => (store, [])
  | net :: nets, store =>
    let (store, result) := refresh api path net store
    let (store, results) := refreshAll api path nets store
    (store, result :: results)

/- What runs beside the site: a round on each tick, one after another. What a round came to is only
logged, so the loop goes on after one that failed, from the store that it left. -/
def refreshLoop (api : FootballApi) (path : String) : List Network → Store → Store
  | [], store => store
  | net :: nets, store => refreshLoop api path nets (refresh api path net store).1

theorem refreshLoopStore (api : FootballApi) (path : String) (nets : List Network) (store : Store) :
    refreshLoop api path nets store = (refreshAll api path nets store).1 := by
  induction nets generalizing store with
  | nil => rfl
  | cons net nets ih => exact ih _

end Cache
end MatchGuide
