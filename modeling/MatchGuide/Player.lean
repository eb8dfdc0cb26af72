import MatchGuide.Html
import MatchGuide.Recording
import MatchGuide.Snapshot

/-! The player of one visitor: what it is to play, the title above it, and how a choice fills it. -/
namespace MatchGuide

structure PlayerSource where
  mime : String
  src : String
  deriving DecidableEq, Repr

def PlayerSource.of (s : Source) : PlayerSource := ⟨s.media.mime, s.url⟩

def PlayerSource.html (s : PlayerSource) : Html :=
  [.markup "<source src=\"", .text s.src, .markup "\" type=\"", .text s.mime, .markup "\">"]

structure Player where
  sources : List PlayerSource
  playing : Bool
  deriving DecidableEq, Repr

namespace Player

def empty : Player := ⟨[], false⟩

def setSources (_ : Player) (sources : List PlayerSource) : Player := ⟨sources, false⟩

def play (p : Player) : Player := { p with playing := !p.sources.isEmpty }

def current? (p : Player) : Option PlayerSource := p.sources.head?

def html (p : Player) : Html := p.sources.flatMap PlayerSource.html

end Player

structure Title where
  text : String
  live : Bool
  deriving DecidableEq, Repr

def Title.html (t : Title) : Html :=
  .text t.text ::
    if t.live then [.markup " <span class=\"badge badge-danger\">Live</span>"] else []

inductive SelectError where
  | noSuchStream (named : String)
  | noSuchFixture (key : FixtureKey)
  deriving DecidableEq, Repr

def SelectError.message : SelectError → String
  | noSuchStream named => s!"no such stream: {named}"
  | noSuchFixture key => s!"no recording for fixture {key.league}/{key.id.toNat}"

structure Session where
  player : Player
  title : Option Title
  visible : Bool
  deriving DecidableEq, Repr

namespace Session

def fresh : Session := ⟨.empty, none, false⟩

def present (s : Session) (title : Title) (sources : List Source) : Session :=
  { player := (s.player.setSources (sources.map .of)).play, title := some title, visible := true }

def playStream (s : Session) (stream : Stream) : Session :=
  s.present ⟨stream.description, stream.live⟩ stream.sources

def selectAt (s : Session) (shot : Snapshot) (index : Int64) : Except SelectError Session :=
  match shot.streamAt? index with
  | some stream => .ok (s.playStream stream)
  | none => .error (.noSuchStream (Whole.intText index.toInt))

def selectKey (s : Session) (shot : Snapshot) (key : StreamKey) : Except SelectError Session :=
  match shot.streamByKey? key with
  | some stream => .ok (s.playStream stream)
  | none => .error (.noSuchStream key.text)

def selectFixture (s : Session) (shot : Snapshot) (recorded : Fixture → Bool) (key : FixtureKey) :
    Except SelectError Session :=
  match (shot.fixtureByKey? key).filter recorded with
  | some f => .ok (s.present ⟨s!"{f.home} - {f.away}", false⟩ (Recordings.sources key.id))
  | none => .error (.noSuchFixture key)

end Session
end MatchGuide
