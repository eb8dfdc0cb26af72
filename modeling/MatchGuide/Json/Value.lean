import MatchGuide.NameTable
import MatchGuide.Number.Binary64

/-! JSON values. Whole numbers and floating-point numbers are kept apart, and the fields of an
object that was read stand in the order of their names. -/
namespace MatchGuide

inductive Json where
  | null
  | bool (b : Bool)
  | int (n : Int)
  | float (x : Binary64)
  | string (s : String)
  | array (items : List Json)
  | object (fields : List (String × Json))
  deriving Repr, Inhabited

namespace Json

mutual
def decEq : (a b : Json) → Decidable (a = b)
  | null, b => match b with
    | null => isTrue rfl
    | bool _ | int _ | float _ | string _ | array _ | object _ => isFalse nofun
  | bool x, b => match b with
    | bool y => decidable_of_iff (x = y) (by simp)
    | null | int _ | float _ | string _ | array _ | object _ => isFalse nofun
  | int x, b => match b with
    | int y => decidable_of_iff (x = y) (by simp)
    | null | bool _ | float _ | string _ | array _ | object _ => isFalse nofun
  | float x, b => match b with
    | float y => decidable_of_iff (x = y) (by simp)
    | null | bool _ | int _ | string _ | array _ | object _ => isFalse nofun
  | string x, b => match b with
    | string y => decidable_of_iff (x = y) (by simp)
    | null | bool _ | int _ | float _ | array _ | object _ => isFalse nofun
  | array xs, b => match b with
    | array ys => have := decEqItems xs ys; decidable_of_iff (xs = ys) (by simp)
    | null | bool _ | int _ | float _ | string _ | object _ => isFalse nofun
  | object xs, b => match b with
    | object ys => have := decEqFields xs ys; decidable_of_iff (xs = ys) (by simp)
    | null | bool _ | int _ | float _ | string _ | array _ => isFalse nofun

def decEqItems : (xs ys : List Json) → Decidable (xs = ys)
  | [], [] => isTrue rfl
  | [], _ :: _ => isFalse nofun
  | _ :: _, [] => isFalse nofun
  | x :: xs, y :: ys =>
    have := decEq x y
    have := decEqItems xs ys
    decidable_of_iff (x = y ∧ xs = ys) (by simp)

def decEqFields : (xs ys : List (String × Json)) → Decidable (xs = ys)
  | [], [] => isTrue rfl
  | [], _ :: _ => isFalse nofun
  | _ :: _, [] => isFalse nofun
  | (k, x) :: xs, (l, y) :: ys =>
    have := decEq x y
    have := decEqFields xs ys
    decidable_of_iff (k = l ∧ x = y ∧ xs = ys) (by simp [and_assoc])
end

instance : DecidableEq Json := decEq

def field (j : Json) (name : String) : Json :=
  match j with
  | object fields => (Entries.find? fields name).getD null
  | _ => null

def string? : Json → Option String
  | string s => some s
  | _ => none

def bool? : Json → Option Bool
  | bool b => some b
  | _ => none

def array? : Json → Option (List Json)
  | array items => some items
  | _ => none

def object? : Json → Option (Entries Json)
  | object fields => some fields
  | _ => none

def isObject (j : Json) : Bool := j.object?.isSome

def int64? : Json → Option Int
  | int n => if Int64.minValue.toInt ≤ n ∧ n ≤ Int64.maxValue.toInt then some n else none
  | _ => none

def uint64? : Json → Option Nat
  | int n => if 0 ≤ n ∧ n < UInt64.size then some n.toNat else none
  | _ => none

theorem stringIff {j : Json} {s : String} : j.string? = some s ↔ j = .string s := by
  cases j <;> simp [string?]

theorem arrayIff {j : Json} {items : List Json} : j.array? = some items ↔ j = .array items := by
  cases j <;> simp [array?]

theorem isObjectIff {j : Json} : j.isObject = true ↔ ∃ fields, j = .object fields := by
  cases j <;> simp [isObject, object?]

theorem uint64Iff {j : Json} {n : Nat} : j.uint64? = some n ↔ j = .int n ∧ n < UInt64.size := by
  constructor
  · intro read
    unfold uint64? at read
    split at read
    · split at read
      · rename_i m fits
        obtain rfl := Option.some.inj read
        have back : (m.toNat : Int) = m := Int.toNat_of_nonneg fits.1
        exact ⟨congrArg int back.symm, by omega⟩
      · contradiction
    · contradiction
  · rintro ⟨rfl, small⟩
    have fits : (0 : Int) ≤ n ∧ (n : Int) < UInt64.size := ⟨Int.natCast_nonneg _, by omega⟩
    simp only [uint64?, if_pos fits, Int.toNat_natCast]

def shape : Json → String
  | null => "null"
  | bool _ => "bool"
  | int _ => "number"
  | float _ => "number"
  | string _ => "string"
  | array _ => "array"
  | object _ => "object"

end Json
end MatchGuide
