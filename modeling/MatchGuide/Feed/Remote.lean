import MatchGuide.Feed.Catalog
import MatchGuide.Feed.Network

/-! Page data from another server that has both endpoints below one base URL. -/
namespace MatchGuide

structure Remote where
  fixturesUrl : Url
  streamsUrl : Url
  deriving DecidableEq

inductive RemoteError where
  | invalid (base : String)
  | pathless
  deriving DecidableEq, Repr

def RemoteError.message : RemoteError → String
  | invalid base => s!"Invalid upstream URL '{base}'"
  | pathless => "relative URL with a cannot-be-a-base base"

namespace Remote

/- The base with a slash at its end, so that its last segment stays. -/
def closeBase (base : String) : String :=
  if base.toList.getLast? = some '/' then base else base ++ "/"

def of (base : String) : Except RemoteError Remote :=
  match Url.read? (closeBase base) with
  | none => .error (.invalid base)
  | some u =>
    match u.beside? ["fixtures"], u.beside? ["streams", "all"] with
    | some fixturesUrl, some streamsUrl => .ok ⟨fixturesUrl, streamsUrl⟩
    | _, _ => .error .pathless

def getJson (net : Network) (url : Url) : Except FetchError Json :=
  match net ⟨url, []⟩ with
  | none => .error (.unreachable url.text)
  | some reply =>
    if reply.isSuccess then
      match Json.ofBytes? reply.body with
      | some j => .ok j
      | none => .error (.malformed url.text)
    else .error (.status url.text reply.status)

def fixtures (u : Remote) (net : Network) : Except FetchError Leagues := do
  FetchError.ofShape u.fixturesUrl.text (Leagues.ofPayload (← getJson net u.fixturesUrl))

def streams (u : Remote) (net : Network) : Except FetchError (List Stream) := do
  FetchError.ofShape u.streamsUrl.text (Stream.listOfPayload (← getJson net u.streamsUrl))

def reads (u : Remote) (net : Network) : Reads := ⟨u.fixtures net, u.streams net⟩

end Remote
end MatchGuide
