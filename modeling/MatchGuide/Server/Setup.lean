import MatchGuide.Config.Basic
import MatchGuide.Feed.Football
import MatchGuide.Server.Basic

/-! What a configuration sets up: the site, and the service from which its fixture cache is
refreshed. -/
namespace MatchGuide

inductive SetupError where
  | config (e : ConfigError)
  | remote (e : RemoteError)
  | api (e : ApiUrlError)
  deriving DecidableEq, Repr

def SetupError.message : SetupError → String
  | config e => e.message
  | remote e => e.message
  | api e => e.message

structure Setup where
  site : Server.Site
  api : Option FootballApi

namespace Config

def remote (c : Config) : Except RemoteError (Option Remote) :=
  match c.remoteUrl with
  | some base => (Remote.of base).map some
  | none => .ok none

def footballApi (c : Config) : Except ApiUrlError (Option FootballApi) :=
  match c.apiKey? with
  | some key => (FootballApi.of c.footballApiUrl key c.footballSeason c.footballTeam).map some
  | none => .ok none

def recordings (c : Config) : Recordings :=
  match c.recordingsDir with
  | some root => .folder root
  | none => .none

def catalog (c : Config) : Catalog := ⟨c.fixtureCachePath, c.streamsPath⟩

def site (c : Config) (remote : Option Remote) : Server.Site where
  catalog := c.catalog
  remote := remote
  staticDir := c.staticDir
  recordings := c.recordings
  history := c.scheduleHistory

def setUp (c : Config) : Except SetupError Setup := do
  c.validate.mapError .config
  let remote ← c.remote.mapError .remote
  let api ← c.footballApi.mapError .api
  return ⟨c.site remote, api⟩

end Config
end MatchGuide
