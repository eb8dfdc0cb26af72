import MatchGuide.Store.Basic

/-! Operations on files by path. Each component before the last has to be a directory; so has the
last one if a separator follows it. -/
namespace MatchGuide.Store

def maxName : Nat := 255

def maxPath : Nat := 4095

def step (here : Place) (component : List Char) : Except IoError Place :=
  if component = [] ∨ component = ['.'] then .ok here
  else if component = ['.', '.'] then .ok here.dropLast
  else if maxName < (Utf8.encodeChars component).length then .error .nameTooLong
  else .ok (here ++ [.ofList component])

def follow (s : Store) : Place → List (List Char) → Except IoError Place
  | here, [] => .ok here
  | here, c :: cs =>
    match s.at? here with
    | some .directory => do
      let next ← step here c
      follow s next cs
    | some (.file _) => .error .notDirectory
    | none => .error .notFound

def fault? (path : String) : Option IoError :=
  if '\x00' ∈ path.toList then some .nulInPath
  else if maxPath < (Utf8.encode path).length then some .nameTooLong
  else none

def locate (s : Store) (path : String) : Except IoError Place :=
  if path.toList = [] then .error .notFound
  else
    match fault? path with
    | some e => .error e
    | none => s.follow [] (Path.components path)

def find? (s : Store) (path : String) : Option Entry :=
  match s.locate path with
  | .ok p => s.at? p
  | .error _ => none

def exists? (s : Store) (path : String) : Bool := (s.find? path).isSome

def isDirectory (s : Store) (path : String) : Bool := s.find? path == some .directory

def read (s : Store) (path : String) : Except IoError Bytes := do
  let p ← s.locate path
  match s.at? p with
  | some (.file content) => .ok content
  | some .directory => .error .isDirectory
  | none => .error .notFound

def write (s : Store) (path : String) (content : Bytes) : Except IoError Store := do
  let p ← s.locate path
  match s.at? p with
  | some .directory => .error .isDirectory
  | _ => .ok (s.put p (.file content))

def makeAlong (s : Store) : Place → List (List Char) → Store × Except IoError Unit
  | _, [] => (s, .ok ())
  | here, c :: cs =>
    match step here c with
    | .error e => (s, .error e)
    | .ok next =>
      match s.at? next with
      | some .directory => makeAlong s next cs
      | some (.file _) => (s, .error .occupied)
      | none => makeAlong (s.put next .directory) next cs

def makeDirectories (s : Store) (path : String) : Store × Except IoError Unit :=
  match fault? path with
  | some e => (s, .error e)
  | none => s.makeAlong [] (Path.components path)

def moveFile (s : Store) (source target : String) : Except IoError Store := do
  let p ← s.locate source
  let q ← s.locate target
  match s.at? p, s.at? q with
  | none, _ => .error .notFound
  | some .directory, _ => .error .isDirectory
  | some (.file _), some .directory => .error .isDirectory
  | some (.file content), _ => .ok ((s.erase p).put q (.file content))

def removeFile (s : Store) (path : String) : Except IoError Store := do
  let p ← s.locate path
  match s.at? p with
  | some (.file _) => .ok (s.erase p)
  | some .directory => .error .isDirectory
  | none => .error .notFound

end MatchGuide.Store
