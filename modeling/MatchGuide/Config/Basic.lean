import MatchGuide.Net.Address
import MatchGuide.Text.Blank
import MatchGuide.Url.Parser

/-! How the site is set up, and what has to hold of it before it starts. -/
namespace MatchGuide

structure Config where
  listenAddr : String
  remoteUrl : Option String
  fixtureCachePath : String
  streamsPath : String
  staticDir : String
  recordingsDir : Option String
  scheduleHistory : Option Nat
  footballApiUrl : String
  footballApiKey : Option String
  footballSeason : String
  footballTeam : String
  refreshIntervalSecs : Nat
  deriving DecidableEq, Repr

inductive ConfigError where
  | listenAddr (value : String)
  | remoteUrl (value : String)
  | footballApiUrl (value : String)
  | refreshInterval
  deriving DecidableEq, Repr

def ConfigError.message : ConfigError → String
  | listenAddr value => s!"listen_addr '{value}' is not a valid socket address"
  | remoteUrl value => s!"upstream_url '{value}' is not a valid URL"
  | footballApiUrl value => s!"football_api_url '{value}' is not a valid URL"
  | refreshInterval => "refresh_interval_secs must be positive"

namespace Config

def validate (c : Config) : Except ConfigError Unit := do
  if (Net.socketAddress? c.listenAddr.toList).isNone then throw (.listenAddr c.listenAddr)
  if let some remote := c.remoteUrl then
    if (Url.read? remote).isNone then throw (.remoteUrl remote)
  if (Url.read? c.footballApiUrl).isNone then throw (.footballApiUrl c.footballApiUrl)
  if c.refreshIntervalSecs = 0 then throw .refreshInterval

def apiKey? (c : Config) : Option String := do
  let key := Text.trim (← c.footballApiKey).toList
  if key.isEmpty then none else some (.ofList key)

end Config
end MatchGuide
