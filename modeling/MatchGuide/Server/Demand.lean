import MatchGuide.Server.Basic

/-! The files an answer may draw on, so that no others need to be looked at. -/
namespace MatchGuide

def Leagues.ids (leagues : Leagues) : List UInt32 :=
  leagues.entries.flatMap fun (_, fixtures) => fixtures.filterMap Fixture.id

def Recordings.paths (r : Recordings) (ids : List UInt32) : List String :=
  match r with
  | folder root => ids.flatMap fun id => [hlsPath root id, dashPath root id]
  | none => []

namespace Server.Site

def dataPaths (site : Site) : List String := [site.catalog.fixturesPath, site.catalog.streamsPath]

def servedPaths (root : String) (path : List Char) : List String :=
  match StaticFile.place? root path with
  | some file => [file, Path.inside file StaticFile.index]
  | none => []

def assetPaths (site : Site) (req : Request) : List String :=
  match Route.ofPath? req.path, site.recordings with
  | some (.asset path), _ => servedPaths site.staticDir path
  | some (.recording path), .folder root => servedPaths root path
  | _, _ => []

def recordingPaths (site : Site) (s : State) (store : Store) : List String :=
  let cached := (site.catalog.fixtures store).toOption.getD .empty
  site.recordings.paths (s.board.snapshot.leagues.ids ++ cached.ids)

end Server.Site
end MatchGuide
