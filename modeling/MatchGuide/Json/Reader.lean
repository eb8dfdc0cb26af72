import MatchGuide.Json.Token
import MatchGuide.Text.Utf8

/-! Reading JSON: the tokens are fed one by one to a stack of the containers still open. -/
namespace MatchGuide.Json

def maxDepth : Nat := 127

inductive Frame where
  | array (items : List Json)
  | object (fields : Entries Json) (name : String)

inductive Due where
  | value
  -- A value or, right after its opening, the end of the array.
  | firstItem
  -- A name or, right after its opening, the end of the object.
  | firstName
  | name (fields : Entries Json)
  | colon (fields : Entries Json) (name : String)
  | nextItem (items : List Json)
  | nextName (fields : Entries Json)
  | done (j : Json)

structure Reading where
  stack : List Frame
  due : Due

namespace Reading

/- Hands a complete value to the innermost container. Items are kept in reverse. -/
def put (stack : List Frame) (j : Json) : Reading :=
  match stack with
  | [] => ⟨[], .done j⟩
  | .array items :: stack => ⟨stack, .nextItem (j :: items)⟩
  | .object fields name :: stack => ⟨stack, .nextName (fields.insert name j)⟩

def begin? (stack : List Frame) (depth : Nat) : Token → Option Reading
  | .value j => some (put stack j)
  | .text s => some (put stack (string s))
  | .openArray => if depth < maxDepth then some ⟨.array [] :: stack, .firstItem⟩ else none
  | .openObject => if depth < maxDepth then some ⟨stack, .firstName⟩ else none
  | _ => none

def feed? (r : Reading) (t : Token) : Option Reading :=
  match r.due, t with
  | .value, t => begin? r.stack r.stack.length t
  | .firstItem, .closeArray => some (put r.stack.tail (array []))
  | .firstItem, t => begin? r.stack r.stack.length t
  | .firstName, .closeObject => some (put r.stack (object []))
  | .firstName, .text s => some ⟨r.stack, .colon [] s⟩
  | .name fields, .text s => some ⟨r.stack, .colon fields s⟩
  | .colon fields s, .colon => some ⟨.object fields s :: r.stack, .value⟩
  | .nextItem items, .comma => some ⟨.array items :: r.stack, .value⟩
  | .nextItem items, .closeArray => some (put r.stack (array items.reverse))
  | .nextName fields, .comma => some ⟨r.stack, .name fields⟩
  | .nextName fields, .closeObject => some (put r.stack (object fields))
  | _, _ => none

def result? (r : Reading) : Option Json :=
  match r.due with
  | .done j => some j
  | _ => none

end Reading

def ofTokens? (ts : List Token) : Option Json := do
  let r ← ts.foldlM Reading.feed? ⟨[], .value⟩
  r.result?

def read? (s : String) : Option Json := (tokens? s.toList).bind ofTokens?

def ofBytes? (raw : Bytes) : Option Json := (Utf8.decode? raw).bind read?

end MatchGuide.Json
