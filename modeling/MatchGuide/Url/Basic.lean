import MatchGuide.Text.Percent
import MatchGuide.Url.Host

/-! URLs taken apart, written out, and led on to a path beside their own. -/
namespace MatchGuide

inductive UrlPath where
  | segments (names : List String)
  | plain (text : String)
  deriving DecidableEq, Repr

structure Url where
  scheme : String
  username : String
  password : String
  host : Option Host
  port : Option UInt16
  path : UrlPath
  query : Option String
  fragment : Option String
  deriving DecidableEq, Repr

namespace UrlPath

def chars : UrlPath → List Char
  | segments names => names.flatMap fun name => '/' :: name.toList
  | plain text => text.toList

end UrlPath

namespace Url

def webSchemes : List (String × Option UInt16) :=
  [("http", some 80), ("https", some 443), ("ws", some 80), ("wss", some 443), ("ftp", some 21),
    ("file", none)]

def isWeb (scheme : String) : Bool := (webSchemes.lookup scheme).isSome

def defaultPort? (scheme : String) : Option UInt16 := (webSchemes.lookup scheme).join

def credentialChars (u : Url) : List Char :=
  if u.username.isEmpty && u.password.isEmpty then []
  else u.username.toList ++ (if u.password.isEmpty then [] else ':' :: u.password.toList) ++ ['@']

def authorityChars (u : Url) (host : Host) : List Char :=
  ['/', '/'] ++ u.credentialChars ++ host.chars ++
    match u.port with
    | some p => ':' :: Whole.chars p.toNat
    | none => []

def queryChars (u : Url) : List Char :=
  match u.query with
  | some q => '?' :: q.toList
  | none => []

def fragmentChars (u : Url) : List Char :=
  match u.fragment with
  | some f => '#' :: f.toList
  | none => []

/- Without a host, a path that begins with an empty segment would read as one; a dot keeps it. -/
def placeChars (u : Url) : List Char :=
  match u.host, u.path with
  | some host, path => u.authorityChars host ++ path.chars
  | none, .segments ("" :: name :: names) =>
    ['/', '.'] ++ (UrlPath.segments ("" :: name :: names)).chars
  | none, path => path.chars

def chars (u : Url) : List Char :=
  u.scheme.toList ++ ':' :: u.placeChars ++ u.queryChars ++ u.fragmentChars

def text (u : Url) : String := .ofList u.chars

def hostName? (u : Url) : Option String := u.host.bind Host.name?

def target (u : Url) : String := .ofList (u.path.chars ++ u.queryChars)

def beside? (u : Url) (names : List String) : Option Url :=
  match u.path with
  | .segments own =>
    some { u with path := .segments (own.dropLast ++ names), query := none, fragment := none }
  | .plain _ => none

def withPairs (u : Url) (pairs : List (String × String)) : Url :=
  let added := String.ofList (Form.encode pairs)
  match u.query with
  | some q => { u with query := some (if q.isEmpty then added else q ++ "&" ++ added) }
  | none => { u with query := some added }

end Url
end MatchGuide
