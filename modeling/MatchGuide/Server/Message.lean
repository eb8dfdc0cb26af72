import MatchGuide.Json.Printer
import MatchGuide.Text.Split
import MatchGuide.Text.Utf8

/-! Requests and answers of the site. -/
namespace MatchGuide.Server

structure Request where
  method : String
  target : String
  deriving DecidableEq, Repr

namespace Request

def named (r : Request) : List Char := (Text.cut (· == '#') r.target.toList).1

def path (r : Request) : List Char := (Text.cut (· == '?') r.named).1

def query? (r : Request) : Option (List Char) := (Text.cut (· == '?') r.named).2

def isRead (r : Request) : Bool := r.method == "GET" || r.method == "HEAD"

end Request

inductive Body where
  | text (s : String)
  | file (content : Bytes)
  deriving DecidableEq, Repr

/- Every answer may be read from any other site. -/
structure Response where
  status : Nat
  contentType : Option String
  location : Option String
  body : Body
  deriving DecidableEq, Repr

namespace Response

def anyOrigin : String := "*"

def bare (status : Nat) : Response := ⟨status, none, none, .text ""⟩

def html (s : String) : Response := ⟨200, some "text/html; charset=utf-8", none, .text s⟩

def json (j : Json) : Response := ⟨200, some "application/json", none, .text j.compact⟩

def plain (status : Nat) (s : String) : Response :=
  ⟨status, some "text/plain; charset=utf-8", none, .text s⟩

def seeOther (location : String) : Response := ⟨303, none, some location, .text ""⟩

def badRequest : Response := plain 400 "the request does not name what is there"

def withoutBody (r : Response) : Response := { r with body := .text "" }

def sentFor (r : Response) (req : Request) : Response :=
  if req.method = "HEAD" then r.withoutBody else r

end Response
end MatchGuide.Server
