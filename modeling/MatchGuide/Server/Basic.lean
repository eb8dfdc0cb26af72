import MatchGuide.Feed.Remote
import MatchGuide.Page.Basic
import MatchGuide.Server.Route
import MatchGuide.Server.StaticFile

/-! The site: its pages and endpoints over one shared snapshot. Only reading the page loads data, and
no visitor's choice is kept. -/
namespace MatchGuide.Server

structure Site where
  catalog : Catalog
  remote : Option Remote
  staticDir : String
  recordings : Recordings
  history : Option Nat

/- `started` is the last number given to a load, without a bound as these have none. -/
structure State where
  board : Board
  started : Nat

def State.initial : State := ⟨.empty, 0⟩

structure Scene where
  site : Site
  store : Store
  net : Network
  now : Instant

namespace Scene

def recorded (c : Scene) : Fixture → Bool := c.site.recordings.has c.store

def reads (c : Scene) : Reads :=
  match c.site.remote with
  | some remote => remote.reads c.net
  | none => c.site.catalog.reads c.store

end Scene

def State.load (s : State) (r : Reads) : State :=
  let number := s.started + 1
  ⟨(s.board.apply ⟨number, r⟩).1, number⟩

def choice? (req : Request) : Option Selection := Selection.ofQuery? (req.query?.getD [])

def notFound (e : SelectError) : Response := .plain 404 e.message

def pageAnswer (c : Scene) (shot : Snapshot) (choice : Selection) : Response :=
  let session := (choice.run .fresh shot c.recorded).toOption.getD .fresh
  .html (Page.html shot c.recorded c.site.history c.now session).render

def playerAnswer (c : Scene) (shot : Snapshot) (choice : Selection) : Response :=
  match choice.run .fresh shot c.recorded with
  | .ok session => .json (Page.playerState session).json
  | .error e => notFound e

def playAnswer (c : Scene) (shot : Snapshot) (choice : Selection) : Response :=
  match choice.run .fresh shot c.recorded with
  | .ok _ => .seeOther choice.location
  | .error e => notFound e

/- A position is turned into the key that stands there, which a later load cannot shift. -/
def playIndexAnswer (c : Scene) (shot : Snapshot) (index : Int64) : Response :=
  match shot.streamAt? index with
  | some stream => playAnswer c shot (.ofStream stream.key)
  | none => notFound (.noSuchStream (Whole.intText index.toInt))

def jsonAnswer : Except FetchError Json → Response
  | .ok j => .json j
  | .error e => .plain 500 e.message

def filesAnswer (c : Scene) (root : String) (path : List Char) (req : Request) : Response :=
  if req.isRead then StaticFile.serve c.store root path req.query? else .bare 405

def given (value : Option α) (answer : α → Response) : Response :=
  match value with
  | some a => answer a
  | none => .badRequest

def answer (c : Scene) (shot : Snapshot) (req : Request) : Route → Response
  | .page => given (choice? req) (pageAnswer c shot)
  | .fixtures => jsonAnswer (c.site.catalog.fixturesJson c.store)
  | .streams => jsonAnswer (c.site.catalog.streamsJson c.store)
  | .streamTable => .html (Page.streamsHtml shot).render
  | .schedule league => given (Route.parameter? league) fun league =>
    .html (Page.scheduleHtml shot c.recorded c.site.history c.now league).render
  | .player => given (choice? req) (playerAnswer c shot)
  | .playStream key => given (Route.parameter? key) fun key =>
    playAnswer c shot (.ofStream ⟨key⟩)
  | .playIndex index => given (Route.index? index) (playIndexAnswer c shot)
  | .playFixture league id => given (Route.fixtureKey? league id) fun key =>
    playAnswer c shot (.ofFixture key)
  | .asset path => filesAnswer c c.site.staticDir path req
  | .recording path =>
    match c.site.recordings with
    | .folder root => filesAnswer c root path req
    | .none => .bare 404

def Route.takes (route : Route) (req : Request) : Bool :=
  match route with
  | .asset _ => true
  | .recording _ => true
  | route => if route.isPost then req.method == "POST" else req.isRead

def loads (req : Request) (route : Route) : Bool :=
  route == .page && req.isRead && (choice? req).isSome

/-- Questions about what is allowed are answered for every path; then the path decides, then the
method. -/
def handle (c : Scene) (s : State) (req : Request) : State × Response :=
  if req.method = "OPTIONS" then (s, .bare 200)
  else
    match Route.ofPath? req.path with
    | none => (s, .bare 404)
    | some route =>
      if route.takes req then
        let s := if loads req route then s.load c.reads else s
        (s, (answer c s.board.snapshot req route).sentFor req)
      else (s, .bare 405)

end MatchGuide.Server
