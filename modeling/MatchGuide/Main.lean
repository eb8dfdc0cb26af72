import MatchGuide.Config.CommandLine
import MatchGuide.Server.Demand
import MatchGuide.Server.Setup
import Std.Time.DateTime.Timestamp

/-! The program. It is set up from the command line and the environment, and then answers requests
that come in lines of a method and a target, such as a gateway hands them on. Other servers are out
of its reach. -/
namespace MatchGuide.Program

def environment : IO (String → Option String) := do
  let values ← CommandLine.settings.mapM fun s => do return (s.envName, ← IO.getEnv s.envName)
  return fun name => (values.lookup name).join

def addFile (store : Store) (path : String) : IO Store := do
  try
    let content ← IO.FS.readBinFile path
    let made := (store.makeDirectories (Path.parent path)).1
    return (made.write path content.toList).toOption.getD made
  catch _ => return store

def now : IO (Option Instant) := do
  let t ← Std.Time.Timestamp.now
  return Instant.ofSeconds? t.toSecondsSinceUnixEpoch.val

def files (site : Server.Site) (s : Server.State) (req : Server.Request) : IO Store := do
  let store ← (site.dataPaths ++ site.assetPaths req).foldlM addFile Store.empty
  (site.recordingPaths s store).foldlM addFile store

def head (r : Server.Response) : String :=
  let line (name : String) : Option String → String
    | some value => s!"{name}: {value}\n"
    | none => ""
  s!"{statusText r.status}\n" ++ line "content-type" r.contentType ++ line "location" r.location ++
    line "access-control-allow-origin" (some Server.Response.anyOrigin) ++ "\n"

def body (r : Server.Response) : Bytes :=
  match r.body with
  | .text s => Utf8.encode s
  | .file content => content

def request? (line : String) : Option Server.Request :=
  match (Text.split (· == ' ') (Text.trim line.toList)).map String.ofList with
  | [method, target] => some ⟨method, target⟩
  | _ => none

partial def answerLines (site : Server.Site) (s : Server.State) (input output : IO.FS.Stream) :
    IO Unit := do
  let line ← input.getLine
  if line.isEmpty then return
  match request? line, ← now with
  | some req, some now =>
    let (s, answer) := Server.handle ⟨site, ← files site s req, Network.down, now⟩ s req
    output.putStr (head answer)
    output.write ⟨(body answer).toArray⟩
    output.putStr "\n"
    output.flush
    answerLines site s input output
  | _, _ => answerLines site s input output

def usage (e : CommandLine.UsageError) : IO UInt32 := do
  if e = .displayHelp ∨ e = .displayVersion then
    IO.println e.message
    return 0
  IO.eprintln e.message
  return 2

def start (config : Config) : IO UInt32 := do
  match config.setUp with
  | .ok setup =>
    answerLines setup.site .initial (← IO.getStdin) (← IO.getStdout)
    return 0
  | .error e =>
    IO.eprintln s!"Error: {e.message}"
    return 1

end MatchGuide.Program

def main (args : List String) : IO UInt32 := do
  match MatchGuide.CommandLine.read args (← MatchGuide.Program.environment) with
  | .ok config => MatchGuide.Program.start config
  | .error e => MatchGuide.Program.usage e
