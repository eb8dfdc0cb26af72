import MatchGuide.Store.Path
import MatchGuide.Text.Utf8

/-! Files and directories below one root. The root is its own parent and is always a directory. -/
namespace MatchGuide

abbrev Place := List String

inductive Entry where
  | file (content : Bytes)
  | directory
  deriving DecidableEq, Repr

structure Store where
  entries : List (Place × Entry)
  deriving DecidableEq, Repr, Inhabited

inductive IoError where
  | notFound
  | notDirectory
  | isDirectory
  | occupied
  | nameTooLong
  | nulInPath
  deriving DecidableEq, Repr

def IoError.message : IoError → String
  | notFound => "No such file or directory (os error 2)"
  | occupied => "File exists (os error 17)"
  | notDirectory => "Not a directory (os error 20)"
  | isDirectory => "Is a directory (os error 21)"
  | nameTooLong => "File name too long (os error 36)"
  | nulInPath => "file name contained an unexpected NUL byte"

namespace Store

def empty : Store := ⟨[]⟩

def at? (s : Store) (p : Place) : Option Entry :=
  if p = [] then some .directory else s.entries.lookup p

def erase (s : Store) (p : Place) : Store := ⟨s.entries.filter fun e => e.1 ≠ p⟩

def put (s : Store) (p : Place) (e : Entry) : Store := ⟨(p, e) :: (s.erase p).entries⟩

theorem lookupKept {α β : Type} [BEq α] [LawfulBEq α] (keep : α → Bool) (key : α)
    (l : List (α × β)) :
    (l.filter fun e => keep e.1).lookup key = if keep key then l.lookup key else none := by
  have kept (e : α × β) : (if keep e.1 then if key == e.1 then some e.2 else none else none) =
      if keep key then if key == e.1 then some e.2 else none else none := by
    by_cases same : key = e.1
    · rw [same]
    · simp [same]
  rw [List.lookup_eq_findSome?, List.lookup_eq_findSome?, ← List.head?_filterMap,
    List.filterMap_filter, ← List.head?_filterMap]
  simp only [kept]
  split <;> simp

theorem lookupErase (s : Store) (p q : Place) :
    (s.erase p).entries.lookup q = if q = p then none else s.entries.lookup q := by
  have kept := lookupKept (fun place => decide (place ≠ p)) q s.entries
  simpa [erase] using kept

@[simp] theorem atRoot (s : Store) : s.at? [] = some .directory := rfl

theorem atPutSelf (s : Store) {p : Place} (h : p ≠ []) (e : Entry) :
    (s.put p e).at? p = some e := by simp [at?, put, h]

theorem atPutOther (s : Store) {p q : Place} (h : q ≠ p) (e : Entry) :
    (s.put p e).at? q = s.at? q := by
  have : (q == p) = false := by simp [h]
  rw [at?, at?, put, List.lookup_cons, this]
  simp only [lookupErase, if_neg h]

theorem atEraseSelf (s : Store) {p : Place} (h : p ≠ []) : (s.erase p).at? p = none := by
  rw [at?, if_neg h, lookupErase, if_pos rfl]

theorem atEraseOther (s : Store) {p q : Place} (h : q ≠ p) : (s.erase p).at? q = s.at? q := by
  rw [at?, at?, lookupErase, if_neg h]

end Store
end MatchGuide
