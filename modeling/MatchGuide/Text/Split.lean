/-! Text cut at separators. -/
namespace MatchGuide.Text

def split (isSep : Char → Bool) : List Char → List (List Char)
  | [] => [[]]
  | c :: rest =>
    if isSep c then [] :: split isSep rest
    else match split isSep rest with
      | [] => [[c]]
      | part :: parts => (c :: part) :: parts

def cut (isSep : Char → Bool) : List Char → List Char × Option (List Char)
  | [] => ([], none)
  | c :: rest =>
    if isSep c then ([], some rest)
    else let (part, after) := cut isSep rest; (c :: part, after)

def afterLast? (isSep : Char → Bool) : List Char → Option (List Char)
  | [] => none
  | c :: rest =>
    match afterLast? isSep rest with
    | some part => some part
    | none => if isSep c then some rest else none

def join (sep : List Char) : List (List Char) → List Char
  | [] => []
  | [part] => part
  | part :: next :: parts => part ++ sep ++ join sep (next :: parts)

theorem splitNeNil (isSep : Char → Bool) (s : List Char) : split isSep s ≠ [] := by
  cases s with
  | nil => simp [split]
  | cons c rest =>
    unfold split
    split
    · simp
    · split <;> simp

theorem splitPlain {isSep : Char → Bool} {s : List Char} (plain : ∀ c ∈ s, isSep c = false) :
    split isSep s = [s] := by
  induction s with
  | nil => rfl
  | cons c rest ih =>
    have ⟨head, tail⟩ := List.forall_mem_cons.1 plain
    simp [split, head, ih tail]

theorem absentPlain {sep : Char} {s : List Char} (absent : sep ∉ s) : ∀ c ∈ s, (c == sep) = false :=
  fun _ mem => beq_eq_false_iff_ne.mpr fun same => absent (same ▸ mem)

theorem splitAtSeparator {isSep : Char → Bool} {sep : Char} {left : List Char}
    (plain : ∀ c ∈ left, isSep c = false) (is : isSep sep = true) (right : List Char) :
    split isSep (left ++ sep :: right) = left :: split isSep right := by
  induction left with
  | nil => simp [split, is]
  | cons c rest ih =>
    have ⟨head, tail⟩ := List.forall_mem_cons.1 plain
    simp [split, head, ih tail]

theorem splitAppend {isSep : Char → Bool} {sep : Char} (is : isSep sep = true)
    (left right : List Char) :
    split isSep (left ++ sep :: right) = split isSep left ++ split isSep right := by
  induction left with
  | nil => simp [split, is]
  | cons c rest ih =>
    by_cases head : isSep c = true
    · simp [split, head, ih]
    · cases h : split isSep rest with
      | nil => exact absurd h (splitNeNil _ rest)
      | cons part parts => simp [split, head, ih, h]

theorem cutPlain {isSep : Char → Bool} {s : List Char} (plain : ∀ c ∈ s, isSep c = false) :
    cut isSep s = (s, none) := by
  induction s with
  | nil => rfl
  | cons c rest ih =>
    have ⟨head, tail⟩ := List.forall_mem_cons.1 plain
    simp [cut, head, ih tail]

theorem cutAtSeparator {isSep : Char → Bool} {sep : Char} {left : List Char}
    (plain : ∀ c ∈ left, isSep c = false) (is : isSep sep = true) (right : List Char) :
    cut isSep (left ++ sep :: right) = (left, some right) := by
  induction left with
  | nil => simp [cut, is]
  | cons c rest ih =>
    have ⟨head, tail⟩ := List.forall_mem_cons.1 plain
    simp [cut, head, ih tail]

theorem splitJoin {isSep : Char → Bool} {sep : Char} {parts : List (List Char)}
    (is : isSep sep = true) (some : parts ≠ []) (plain : ∀ part ∈ parts, ∀ c ∈ part, isSep c = false) :
    split isSep (join [sep] parts) = parts := by
  induction parts with
  | nil => contradiction
  | cons part parts ih =>
    have ⟨head, tail⟩ := List.forall_mem_cons.1 plain
    cases parts with
    | nil => exact splitPlain head
    | cons next parts =>
      rw [join, List.append_assoc, List.singleton_append, splitAtSeparator head is,
        ih (List.cons_ne_nil _ _) tail]

theorem afterLastNone {isSep : Char → Bool} {s : List Char} :
    afterLast? isSep s = none ↔ ∀ c ∈ s, isSep c = false := by
  induction s with
  | nil => simp [afterLast?]
  | cons c rest ih =>
    rw [List.forall_mem_cons, ← ih, afterLast?]
    cases afterLast? isSep rest <;> simp

theorem afterLastAppend {isSep : Char → Bool} {sep : Char} {part : List Char}
    (is : isSep sep = true) (plain : ∀ c ∈ part, isSep c = false) (before : List Char) :
    afterLast? isSep (before ++ sep :: part) = some part := by
  induction before with
  | nil => simp [afterLast?, afterLastNone.2 plain, is]
  | cons c before ih => simp [afterLast?, ih]

theorem afterLastSome {isSep : Char → Bool} {s part : List Char}
    (found : afterLast? isSep s = some part) :
    ∃ before sep, s = before ++ sep :: part ∧ isSep sep = true ∧ ∀ c ∈ part, isSep c = false := by
  induction s with
  | nil => contradiction
  | cons c rest ih =>
    rw [afterLast?] at found
    cases later : afterLast? isSep rest with
    | some other =>
      simp only [later] at found
      obtain rfl := Option.some.inj found
      obtain ⟨before, sep, shape, is, plain⟩ := ih later
      exact ⟨c :: before, sep, congrArg (c :: ·) shape, is, plain⟩
    | none =>
      simp only [later] at found
      split at found
      · rename_i is
        obtain rfl := Option.some.inj found
        exact ⟨[], c, rfl, is, afterLastNone.1 later⟩
      · contradiction

theorem splitEnds (isSep : Char → Bool) (s : List Char) :
    ∃ front last, split isSep s = front ++ [last] ∧ (∀ c ∈ last, isSep c = false) ∧
      (last = [] → s = [] ∨ ∃ c, s.getLast? = some c ∧ isSep c = true) := by
  cases found : afterLast? isSep s with
  | none =>
    have plain := afterLastNone.mp found
    exact ⟨[], s, splitPlain plain, plain, .inl⟩
  | some last =>
    obtain ⟨before, sep, rfl, is, plain⟩ := afterLastSome found
    refine ⟨split isSep before, last, ?_, plain, ?_⟩
    · rw [splitAppend is, splitPlain plain]
    · rintro rfl
      exact .inr ⟨sep, by simp, is⟩

theorem lastAbsent {sep : Char} {s : List Char} (filled : s ≠ []) (absent : sep ∉ s)
    (before : List Char) : (before ++ s).getLast? ≠ some sep := by
  rw [List.getLast?_append, List.getLast?_eq_some_getLast filled, Option.some_or]
  intro last
  exact absent (Option.some.inj last ▸ List.getLast_mem filled)

theorem memJoin {sep : List Char} {parts : List (List Char)} {c : Char} (mem : c ∈ join sep parts) :
    c ∈ sep ∨ ∃ part ∈ parts, c ∈ part := by
  induction parts with
  | nil => contradiction
  | cons part parts ih =>
    cases parts with
    | nil => exact .inr ⟨part, List.mem_cons_self, mem⟩
    | cons next parts =>
      rw [join, List.mem_append, List.mem_append] at mem
      rcases mem with (head | between) | later
      · exact .inr ⟨part, List.mem_cons_self, head⟩
      · exact .inl between
      · exact (ih later).imp id fun ⟨other, there, inside⟩ => ⟨other, List.mem_cons_of_mem _ there, inside⟩

theorem joinSplit (sep : Char) (s : List Char) : join [sep] (split (· == sep) s) = s := by
  induction s with
  | nil => rfl
  | cons c rest ih =>
    unfold split
    cases h : split (· == sep) rest with
    | nil => exact absurd h (splitNeNil _ rest)
    | cons part parts =>
      rw [h] at ih
      by_cases eq : c = sep
      · subst eq; simp [join, ih]
      · cases parts <;> simp_all [join]

end MatchGuide.Text
