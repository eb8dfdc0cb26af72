import MatchGuide.Feed.Network
import MatchGuide.Json.Printer
import MatchGuide.Json.Reader

/-! The football data service: what is asked of it, and how its answer becomes the payload of the
fixture cache. -/
namespace MatchGuide

namespace Fixture

def cachedScore (goals : Json) : String :=
  match (goals.field "home").uint64?, (goals.field "away").uint64? with
  | some h, some a => s!"{h} - {a}"
  | _, _ => ""

def cacheEntry (item : Json) : Json :=
  let game := item.field "fixture"
  let teams := item.field "teams"
  .object [
    ("away", (teams.field "away").field "name"),
    ("fixture_id", game.field "id"),
    ("home", (teams.field "home").field "name"),
    ("score", .string (cachedScore (item.field "goals"))),
    ("timestamp", game.field "timestamp"),
    ("venue", (game.field "venue").field "name")]

def leagueName? (item : Json) : Option String := ((item.field "league").field "name").string?

def groupByLeague (items : List Json) : NameTable (List Json) :=
  items.foldl (fun t item =>
    match leagueName? item with
    | some league => t.append league (cacheEntry item)
    | none => t) .empty

def cache? (raw : Json) : Option Json := do
  let items ← (raw.field "response").array?
  some (.object ((groupByLeague items).entries.map fun (league, entries) =>
    (league, .array entries)))

def cacheSize (payload : Json) : Nat :=
  match payload with
  | .object fields => (fields.flatMap fun f => f.2.array?.getD []).length
  | _ => 0

end Fixture

structure FootballApi where
  url : String
  host : String
  key : String
  season : String
  team : String
  deriving DecidableEq, Repr

inductive ApiUrlError where
  | invalid (url : String)
  | noHost (url : String)
  deriving DecidableEq, Repr

def ApiUrlError.message : ApiUrlError → String
  | invalid url => s!"invalid football API URL {url}"
  | noHost url => s!"football API URL {url} has no host"

inductive ApiError where
  | requestFailed
  | refused (status : Nat) (body : String)
  | notJson
  | noMatches (raw : Json)
  deriving DecidableEq, Repr

def ApiError.message : ApiError → String
  | requestFailed => "football API request failed"
  | refused status body => s!"football API error {statusText status}: {body}"
  | notJson => "not a valid json response body"
  | noMatches raw => s!"no 'response' array in {raw.compact}"

namespace FootballApi

def trimSlashes (s : String) : String :=
  .ofList (s.toList.reverse.dropWhile (· == '/')).reverse

def of (url key season team : String) : Except ApiUrlError FootballApi :=
  match Url.read? url with
  | none => .error (.invalid url)
  | some u =>
    match u.hostName? with
    | none => .error (.noHost url)
    | some host => .ok ⟨trimSlashes url, host, key, season, team⟩

def isHeaderByte (b : UInt8) : Bool := b == 0x09 || (0x20 ≤ b && b != 0x7F)

def request? (api : FootballApi) : Option Get := do
  let url ← Url.read? (api.url ++ "/v3/fixtures")
  if (Utf8.encode api.key).all isHeaderByte then
    some ⟨url.withPairs [("season", api.season), ("team", api.team)],
      [("X-RapidAPI-Host", api.host), ("X-RapidAPI-Key", api.key)]⟩
  else none

def ofReply (reply : Reply) : Except ApiError Json :=
  if reply.isSuccess then
    match Json.ofBytes? reply.body with
    | none => .error .notJson
    | some raw =>
      match Fixture.cache? raw with
      | some payload => .ok payload
      | none => .error (.noMatches raw)
  else .error (.refused reply.status (Utf8.decodeLossy reply.body))

def fetch (api : FootballApi) (net : Network) : Except ApiError Json :=
  match api.request?.bind net with
  | some reply => ofReply reply
  | none => .error .requestFailed

end FootballApi
end MatchGuide
