import MatchGuide.Server.ContentType
import MatchGuide.Server.Message
import MatchGuide.Store.Files
import MatchGuide.Text.Percent

/-! Files served as they are, from one directory and nothing outside it. -/
namespace MatchGuide.Server.StaticFile

def contentType (path : String) : String :=
  match Text.afterLast? (· == '.') ((Path.lastComponent path.toList).2.drop 1) with
  | some ext => ContentType.ofExtension ext
  | none => ContentType.bytes

def index : String := "index.html"

def names? (path : List Char) : Option (List String) := do
  let text ← Percent.decodeText? (.ofList (path.dropWhile (· == '/')))
  let parts := Path.components text
  if parts.contains ['.', '.'] || text.toList.head? == some '/' then none
  else some ((parts.filter Path.isName).map String.ofList)

def place? (root : String) (path : List Char) : Option String :=
  (names? path).map fun names => names.foldl Path.inside root

def ofFile (store : Store) (path : String) : Response :=
  match store.read path with
  | .ok content => ⟨200, some (contentType path), none, .file content⟩
  | .error .notFound => .bare 404
  | .error .notDirectory => .bare 404
  | .error _ => .bare 500

def closed (path : List Char) (query? : Option (List Char)) : String :=
  let query := match query? with
    | some q => '?' :: q
    | none => []
  .ofList (path ++ '/' :: query)

def serve (store : Store) (root : String) (path : List Char) (query? : Option (List Char)) :
    Response :=
  match place? root path with
  | none => .bare 404
  | some file =>
    if store.isDirectory file then
      if path.getLast? = some '/' then ofFile store (Path.inside file index)
      else { Response.bare 307 with location := some (closed path query?) }
    else ofFile store file

end MatchGuide.Server.StaticFile
