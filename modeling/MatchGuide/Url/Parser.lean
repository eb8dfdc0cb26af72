import MatchGuide.Url.Basic

/-! Reading a URL that stands for itself, without another one that it is relative to. -/
namespace MatchGuide.Url

def isEdge (c : Char) : Bool := c.toNat ≤ 0x20

def clean (s : List Char) : List Char :=
  let s := ((s.dropWhile isEdge).reverse.dropWhile isEdge).reverse
  s.filter fun c => c != '\t' && c != '\n' && c != '\r'

def isSchemeChar (c : Char) : Bool := c.isAlphanum || c == '+' || c == '-' || c == '.'

def scheme? (s : List Char) : Option (String × List Char) := do
  let (name, rest) := Text.cut (· == ':') s
  let rest ← rest
  let first ← name.head?
  if first.isAlpha && name.all isSchemeChar then some (.ofList (Text.lower name), rest) else none

def isSlash (web : Bool) (c : Char) : Bool := c == '/' || (web && c == '\\')

/-! Bytes that are escaped in each part, besides controls and bytes outside ASCII. -/

def pathBytes : List UInt8 := " \x22#<>?\x60\x7b\x7d".toUTF8.toList

def userBytes : List UInt8 := " \x22#<>?\x60\x7b\x7d/:;=@[\\]^|".toUTF8.toList

def queryBytes : List UInt8 := " \x22#<>".toUTF8.toList

def fragmentBytes : List UInt8 := " \x22<>\x60".toUTF8.toList

def escaped (barred : List UInt8) (s : List Char) : String :=
  .ofList (Percent.encode (fun b => !Host.isControl b && !barred.contains b) (Utf8.encodeChars s))

/-! A dot in a segment may be written as an escape. -/

def dots? : List Char → Option Nat
  | [] => some 0
  | '.' :: rest => (dots? rest).map (· + 1)
  | '%' :: '2' :: 'e' :: rest => (dots? rest).map (· + 1)
  | '%' :: '2' :: 'E' :: rest => (dots? rest).map (· + 1)
  | _ => none

def drive? : List Char → Option Char
  | [c, d] => if c.isAlpha && (d == ':' || d == '|') then some c else none
  | _ => none

def beginsOnDrive (name : List Char) : Bool :=
  (drive? (name.take 2)).isSome && (name.drop 2).head?.all (· == '\\')

def shorten (names : List String) : List String :=
  if names.getLast?.any fun name => beginsOnDrive name.toList then names else names.dropLast

def descend (file : Bool) (names : List String) (segment : List Char) (isLast : Bool) :
    List String :=
  let closed (names : List String) := if isLast then names ++ [""] else names
  match dots? segment with
  | some 1 => closed names
  | some 2 => closed (shorten names)
  | _ =>
    match file && names.isEmpty, drive? segment with
    | true, some c => names ++ [String.ofList [c, ':']]
    | _, _ => names ++ [escaped pathBytes segment]

def segments (file : Bool) (names : List String) : List (List Char) → List String
  | [] => names
  | [segment] => descend file names segment true
  | segment :: rest => segments file (descend file names segment false) rest

def pathNames (scheme : String) (s : List Char) : List String :=
  let web := isWeb scheme
  match s with
  | [] => if web then [""] else []
  | c :: rest =>
    segments (scheme == "file") []
      (Text.split (isSlash web) (if isSlash web c then rest else c :: rest))

def credentials (s : List Char) : Option (List Char) × List Char :=
  let back := s.reverse.takeWhile (· != '@')
  if back.length = s.length then (none, s)
  else (some (s.take (s.length - back.length - 1)), back.reverse)

def hostAndPort : Bool → List Char → List Char × Option (List Char)
  | _, [] => ([], none)
  | inside, c :: rest =>
    if c = ':' ∧ inside = false then ([], some rest)
    else
      let (host, port) := hostAndPort (if c = '[' then true else if c = ']' then false else inside) rest
      (c :: host, port)

def port? (scheme : String) (s : List Char) : Option (Option UInt16) :=
  if s.isEmpty then some none
  else do
    let p ← Net.port? s
    some (if some p = defaultPort? scheme then none else some p)

/- What follows two slashes: credentials, host and port up to the next slash, and a path. Only in
schemes outside the web may the host be empty, and then nothing may be beside it; an at sign alone
may not lead on to more. A backslash after a port begins the path. -/
def afterSlashes? (u : Url) (s : List Char) : Option Url := do
  let web := isWeb u.scheme
  let (place, path) := s.span (!isSlash web ·)
  let (user, rest) := credentials place
  let (host, port) := hostAndPort false rest
  let (digits, stray) := (port.getD []).span (· != '\\')
  let (name, password) := Text.cut (· == ':') (user.getD [])
  let password := password.getD []
  let path := stray ++ path
  let isBare := name.isEmpty && password.isEmpty && port.isNone
  if host.isEmpty && (web || !isBare) then none
  else if place = ['@'] ∧ (!path.isEmpty || u.query.isSome || u.fragment.isSome) then none
  else
    some { u with
      username := escaped userBytes name
      password := escaped userBytes password
      host := some (← if web then Host.read? host else Host.readPlain? host)
      port := ← port? u.scheme digits
      path := .segments (pathNames u.scheme path) }

/- The path of a file. Empty segments in front do not count, and where the name of a drive comes
first there is no host. -/
def withFilePath (u : Url) (s : List Char) : Url :=
  let names := pathNames u.scheme s
  let isOnDrive := names.head?.any fun name => (drive? name.toList).isSome
  let rest := names.dropWhile (·.isEmpty)
  { u with
    host := if isOnDrive then some (.domain "") else u.host
    path := .segments (if rest.isEmpty then [""] else rest) }

def file? (u : Url) (s : List Char) : Option Url :=
  let here : Url := { u with host := some (.domain "") }
  match s with
  | a :: b :: rest =>
    if isSlash true a && isSlash true b then
      let (name, path) := rest.span (!isSlash true ·)
      if (drive? name).isSome then some (here.withFilePath rest)
      else if name.isEmpty then some (here.withFilePath path)
      else do
        let host ← Host.read? name
        let host := if host = .domain "localhost" then .domain "" else host
        some ({ u with host := some host }.withFilePath path)
    else some (here.withFilePath s)
  | s => some (here.withFilePath s)

def body? (u : Url) (s : List Char) : Option Url :=
  if u.scheme = "file" then file? u s
  else if isWeb u.scheme then afterSlashes? u (s.dropWhile (isSlash true))
  else match s with
    | '/' :: '/' :: rest => afterSlashes? u rest
    | '/' :: _ => some { u with path := .segments (pathNames u.scheme s) }
    | s => some { u with path := .plain (escaped [] s) }

def read? (s : String) : Option Url := do
  let (scheme, rest) ← scheme? (clean s.toList)
  let (rest, fragment) := Text.cut (· == '#') rest
  let (rest, query) := Text.cut (· == '?') rest
  let barred := if isWeb scheme then 0x27 :: queryBytes else queryBytes
  body? {
    scheme
    username := ""
    password := ""
    host := none
    port := none
    path := .segments []
    query := query.map (escaped barred)
    fragment := fragment.map (escaped fragmentBytes) } rest

end MatchGuide.Url
