import MatchGuide.Text.Split
import MatchGuide.Text.Whole

/-! Tables over code points: spans in ascending order, each with what holds for all of it. A table
is written as words of hexadecimal numbers with dots between them. -/
namespace MatchGuide

structure Span (α : Type) where
  first : Nat
  last : Nat
  value : α

abbrev Spans (α : Type) := Array (Span α)

namespace Spans

variable {α : Type}

def search (t : Spans α) (n lo hi : Nat) : Nat :=
  if lo < hi then
    let mid := (lo + hi) / 2
    if t[mid]?.any (·.last < n) then search t n (mid + 1) hi else search t n lo mid
  else lo
termination_by hi - lo

def spanOf? (t : Spans α) (n : Nat) : Option (Span α) :=
  match t[search t n 0 t.size]? with
  | some s => if s.first ≤ n ∧ n ≤ s.last then some s else none
  | none => none

def valueAt? (t : Spans α) (c : Char) : Option α := (t.spanOf? c.toNat).map (·.value)

def has (t : Spans α) (c : Char) : Bool := (t.spanOf? c.toNat).isSome

/-! Tables in writing. -/

def words (s : String) : List (List Char) :=
  (Text.split (fun c => c == ' ' || c == '\n') s.toList).filter (!·.isEmpty)

def numbers (word : List Char) : List Nat := (Text.split (· == '.') word).map Hex.number

def set (s : String) : Spans Unit :=
  ((words s).map numbers).filterMap (fun
    | [n] => some ⟨n, n, ()⟩
    | [first, last] => some ⟨first, last, ()⟩
    | _ => none) |>.toArray

def valued (s : String) : Spans Nat :=
  ((words s).map numbers).filterMap (fun
    | [n, v] => some ⟨n, n, v⟩
    | [first, last, v] => some ⟨first, last, v⟩
    | _ => none) |>.toArray

def rows (s : String) : Spans (List Nat) :=
  let row (s : List Char) : List (Span (List Nat)) :=
    match (words (.ofList s)).map numbers with
    | [start] :: values => values.zipIdx.map fun v => ⟨start + v.2, start + v.2, v.1⟩
    | _ => []
  (Text.split (· == ';') s.toList).flatMap row |>.toArray

end Spans
end MatchGuide
