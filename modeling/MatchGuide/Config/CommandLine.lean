import MatchGuide.Config.Basic

/-! The configuration as it is given: by arguments, by the environment where an argument is missing,
and by defaults where both are. -/
namespace MatchGuide.CommandLine

inductive UsageError where
  | displayHelp
  | displayVersion
  | unknownArgument
  | argumentConflict
  | invalidValue
  | valueValidation
  | tooManyValues
  deriving DecidableEq, Repr

structure Setting where
  name : String
  envName : String
  default : Option String
  isNumber : Bool
  about : String
  deriving DecidableEq, Repr

def settings : List Setting := [
  ⟨"listen-addr", "LISTEN_ADDR", some "0.0.0.0:8080", false,
    "Listen address for the page and data endpoints"⟩,
  ⟨"upstream-url", "UPSTREAM_URL", none, false, "Base URL of a server with both data endpoints"⟩,
  ⟨"fixture-cache-path", "FIXTURE_CACHE_PATH", some "fixtures.json", false,
    "Fixture cache file written by the refresh"⟩,
  ⟨"streams-path", "STREAMS_PATH", some "streams.json", false, "Streams catalog file"⟩,
  ⟨"static-dir", "STATIC_DIR", some "www", false, "Directory served under /static"⟩,
  ⟨"recordings-dir", "RECORDINGS_DIR", none, false, "Directory of fixture recordings"⟩,
  ⟨"schedule-history", "SCHEDULE_HISTORY", none, true,
    "Only show this many played fixtures before the upcoming one"⟩,
  ⟨"football-api-url", "FOOTBALL_API_URL", some "https://api-football-v1.p.rapidapi.com", false,
    "Base URL of the football data service"⟩,
  ⟨"football-api-key", "FOOTBALL_API_KEY", none, false,
    "Key of the football data service; no refresh without it"⟩,
  ⟨"football-season", "FOOTBALL_SEASON", some "2022", false, "Season to fetch fixtures for"⟩,
  ⟨"football-team", "FOOTBALL_TEAM", some "11075", false, "Team to fetch fixtures for"⟩,
  ⟨"refresh-interval-secs", "REFRESH_INTERVAL_SECS", some "3600", true,
    "Fixture cache refresh interval in seconds"⟩]

structure Given where
  values : List (String × String)
  pending : Option (Setting × Option String)

namespace Given

def empty : Given := ⟨[], none⟩

def take (g : Given) (setting : Setting) (value : String) : Except UsageError Given :=
  if (g.values.lookup setting.name).isSome then .error .argumentConflict
  else if setting.isNumber && (Whole.uint64? value.toList).isNone then .error .valueValidation
  else .ok ⟨g.values ++ [(setting.name, value)], none⟩

def settle (g : Given) : Except UsageError Given :=
  match g.pending with
  | none => .ok g
  | some (_, none) => .error .invalidValue
  | some (setting, some value) => { g with pending := none }.take setting value

end Given

def long (g : Given) (text : List Char) : Except UsageError Given :=
  let (name, value) := Text.cut (· == '=') text
  let name := String.ofList name
  let flag (answer : UsageError) : Except UsageError Given :=
    if value.isSome then .error .tooManyValues else do
      let _ ← g.settle
      .error answer
  if name = "help" then flag .displayHelp
  else if name = "version" then flag .displayVersion
  else
    match settings.find? (·.name == name), value with
    | none, _ => .error .unknownArgument
    | some setting, some value => do (← g.settle).take setting (.ofList value)
    | some setting, none => do
      let g ← g.settle
      .ok { g with pending := some (setting, none) }

def short (g : Given) (letter : Char) : Except UsageError Given := do
  if letter = 'h' then
    let _ ← g.settle
    .error .displayHelp
  else if letter = 'V' then
    let _ ← g.settle
    .error .displayVersion
  else .error .unknownArgument

/- Arguments in order. After two hyphens alone nothing may follow, since no argument stands without
an option. -/
def readArgs (g : Given) : List String → Except UsageError Given
  | [] => g.settle
  | arg :: rest => do
    match arg.toList with
    | ['-', '-'] => if rest.isEmpty then g.settle else .error .unknownArgument
    | '-' :: '-' :: text => readArgs (← long g text) rest
    | '-' :: letter :: _ => readArgs (← short g letter) rest
    | _ =>
      match g.pending with
      | some (setting, none) => readArgs { g with pending := some (setting, some arg) } rest
      | _ => .error .unknownArgument

def readEnvironment (env : String → Option String) (g : Given) : List Setting → Except UsageError Given
  | [] => .ok g
  | setting :: rest =>
    match g.values.lookup setting.name, env setting.envName with
    | none, some value => do readEnvironment env (← g.take setting value) rest
    | _, _ => readEnvironment env g rest

def value? (g : Given) (name : String) : Option String :=
  (g.values.lookup name).or ((settings.find? (·.name == name)).bind (·.default))

def number? (g : Given) (name : String) : Option Nat :=
  (value? g name).bind fun s => Whole.uint64? s.toList

def config (g : Given) : Config where
  listenAddr := (value? g "listen-addr").getD ""
  remoteUrl := value? g "upstream-url"
  fixtureCachePath := (value? g "fixture-cache-path").getD ""
  streamsPath := (value? g "streams-path").getD ""
  staticDir := (value? g "static-dir").getD ""
  recordingsDir := value? g "recordings-dir"
  scheduleHistory := number? g "schedule-history"
  footballApiUrl := (value? g "football-api-url").getD ""
  footballApiKey := value? g "football-api-key"
  footballSeason := (value? g "football-season").getD ""
  footballTeam := (value? g "football-team").getD ""
  refreshIntervalSecs := (number? g "refresh-interval-secs").getD 0

def read (args : List String) (env : String → Option String) : Except UsageError Config := do
  let g ← readArgs .empty args
  let g ← readEnvironment env g settings
  .ok (config g)

def helpText : String :=
  "Football fixtures schedule and stream player\n\nOptions:\n" ++
    String.join (settings.map fun s => s!"  --{s.name} <{s.envName}>\n          {s.about}\n") ++
    "  -h, --help\n          Print help\n  -V, --version\n          Print version\n"

def versionText : String := "0.1.0"

def UsageError.message : UsageError → String
  | displayHelp => helpText
  | displayVersion => versionText
  | unknownArgument => "error: unexpected argument found"
  | argumentConflict => "error: an argument cannot be used multiple times"
  | invalidValue => "error: a value is required for an argument"
  | valueValidation => "error: invalid value for an argument"
  | tooManyValues => "error: unexpected value for an argument"

end MatchGuide.CommandLine
