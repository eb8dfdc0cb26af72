import MatchGuide.Text.Split

/-! Paths as text: their directory, their last name, and the name beside it for a file in the
making. Separators and dots at the end do not count. -/
namespace MatchGuide.Path

/- Drops separators, and dots that are a whole component, from the end of a path that is given
back to front. A dot that is the whole path stays. -/
def settle : List Char → List Char
  | '/' :: rest => settle rest
  | '.' :: '/' :: rest => settle rest
  | path => path

def lastComponent (path : List Char) : List Char × List Char :=
  let path := settle path.reverse
  (path.dropWhile (· != '/'), (path.takeWhile (· != '/')).reverse)

def parent (path : String) : String :=
  .ofList (settle (lastComponent path.toList).1).reverse

def extension? (name : List Char) : Option (List Char) := Text.afterLast? (· == '.') (name.drop 1)

def stem (name : List Char) : List Char :=
  match extension? name with
  | some ext => name.take (name.length - ext.length - 1)
  | none => name

def isName (component : List Char) : Bool :=
  component != [] && component != ['.'] && component != ['.', '.']

def addExtension (path ext : List Char) : List Char :=
  let (before, name) := lastComponent path
  if isName name then before.reverse ++ stem name ++ '.' :: ext else path

/- The path with another extension. As many characters as its own extension has go first; if two
dots are left of the name, it takes no other. -/
def withExtension (path ext : String) : String :=
  let name := (lastComponent path.toList).2
  let own := if isName name then ((extension? name).getD []).length else 0
  .ofList (addExtension (path.toList.take (path.toList.length - own)) ext.toList)

def inside (dir name : String) : String :=
  if dir.toList = [] then name
  else if dir.toList.getLast? = some '/' then dir ++ name
  else dir ++ "/" ++ name

/- The components as they are walked; an empty one stays where it is, like a dot. -/
def components (path : String) : List (List Char) := Text.split (· == '/') path.toList

end MatchGuide.Path
