import MatchGuide.Html

/-! Marks in a text: what follows each of them, and what stands before the first. A text is read part
by part as long as no part ends within a mark. -/
namespace MatchGuide.Html

def following (mark : List Char) : List Char → List (List Char)
  | [] => []
  | c :: rest =>
    if mark.isPrefixOf (c :: rest) then (c :: rest).drop mark.length :: following mark rest
    else following mark rest

def before? (mark : List Char) : List Char → Option (List Char)
  | [] => none
  | c :: rest =>
    if mark.isPrefixOf (c :: rest) then some [] else (before? mark rest).map (c :: ·)

def whole (mark : List Char) : List Char → Bool
  | [] => true
  | c :: rest => (mark.isPrefixOf (c :: rest) || !(c :: rest).isPrefixOf mark) && whole mark rest

def lacks (mark s : List Char) : Bool := (following mark s).isEmpty && whole mark s

section
variable {mark s t : List Char} {c : Char}

theorem prefixWithin (here : (mark.isPrefixOf s || !s.isPrefixOf mark) = true) (rest : List Char) :
    mark.isPrefixOf (s ++ rest) = mark.isPrefixOf s := by
  rw [Bool.eq_iff_iff, List.isPrefixOf_iff_prefix, List.isPrefixOf_iff_prefix]
  refine ⟨fun across => ?_, fun inside => inside.trans (List.prefix_append s rest)⟩
  rcases List.prefix_or_prefix_of_prefix across (List.prefix_append s rest) with inside | beyond
  · exact inside
  · simpa [List.isPrefixOf_iff_prefix.mpr beyond] using here

theorem followingAppend (closed : whole mark s = true) (rest : List Char) :
    following mark (s ++ rest) = (following mark s).map (· ++ rest) ++ following mark rest := by
  induction s with
  | nil => rfl
  | cons c s ih =>
    obtain ⟨here, later⟩ := Bool.and_eq_true_iff.mp closed
    have within := prefixWithin here rest
    rw [List.cons_append] at within
    rw [List.cons_append, following, following, within, ih later]
    split
    · rename_i stands
      have fits := (List.isPrefixOf_iff_prefix.mp stands).length_le
      have dropped : (c :: (s ++ rest)).drop mark.length = (c :: s).drop mark.length ++ rest :=
        List.drop_append_of_le_length fits
      rw [dropped, List.map_cons, List.cons_append]
    · rfl

theorem wholeAppend (first : whole mark s = true) (second : whole mark t = true) :
    whole mark (s ++ t) = true := by
  induction s with
  | nil => exact second
  | cons c s ih =>
    obtain ⟨here, later⟩ := Bool.and_eq_true_iff.mp first
    rw [List.cons_append, whole, ih later, Bool.and_true, ← List.cons_append, prefixWithin here t]
    rw [Bool.or_eq_true, Bool.not_eq_true', ← Bool.not_eq_true, List.isPrefixOf_iff_prefix] at here ⊢
    refine here.imp_right fun apart longer => apart ?_
    rw [List.isPrefixOf_iff_prefix] at longer ⊢
    exact (List.prefix_append _ t).trans longer

theorem lacksIff : lacks mark s = true ↔ following mark s = [] ∧ whole mark s = true := by
  rw [lacks, Bool.and_eq_true, List.isEmpty_iff]

theorem lacksCons : lacks mark (c :: s) = true ↔
    mark.isPrefixOf (c :: s) = false ∧ (c :: s).isPrefixOf mark = false ∧ lacks mark s = true := by
  rw [lacks, following, whole, lacks]
  cases mark.isPrefixOf (c :: s) <;> cases (c :: s).isPrefixOf mark <;> simp

theorem lacksHere (lacking : lacks mark (c :: s) = true) (rest : List Char) :
    mark.isPrefixOf (c :: (s ++ rest)) = false := by
  obtain ⟨here, ending, _⟩ := lacksCons.mp lacking
  have kept : (mark.isPrefixOf (c :: s) || !(c :: s).isPrefixOf mark) = true := by
    rw [ending, Bool.not_false, Bool.or_true]
  exact (prefixWithin kept rest).trans here

theorem lacksAppend (first : lacks mark s = true) (second : lacks mark t = true) :
    lacks mark (s ++ t) = true := by
  rw [lacksIff] at *
  refine ⟨?_, wholeAppend first.2 second.2⟩
  rw [followingAppend first.2, first.1, second.1]
  rfl

theorem followingPast (lacking : lacks mark s = true) (rest : List Char) :
    following mark (s ++ rest) = following mark rest := by
  obtain ⟨none, closed⟩ := lacksIff.mp lacking
  rw [followingAppend closed, none, List.map_nil, List.nil_append]

theorem beforePast (lacking : lacks mark s = true) (rest : List Char) :
    before? mark (s ++ rest) = (before? mark rest).map (s ++ ·) := by
  induction s with
  | nil => simp
  | cons c s ih =>
    have later := (lacksCons.mp lacking).2.2
    rw [List.cons_append, before?, lacksHere lacking, ih later, Option.map_map]
    rfl

theorem beforeMark (filled : mark ≠ []) (rest : List Char) :
    before? mark (mark ++ rest) = some [] := by
  obtain ⟨c, tail, rfl⟩ := List.exists_cons_of_ne_nil filled
  rw [List.cons_append, before?, if_pos]
  exact List.isPrefixOf_iff_prefix.mpr (List.prefix_append (c :: tail) rest)

theorem beforeFound (lacking : lacks mark s = true) (filled : mark ≠ []) (rest : List Char) :
    before? mark (s ++ (mark ++ rest)) = some s := by
  rw [beforePast lacking, beforeMark filled, Option.map_some, List.append_nil]

theorem absentLacks {d : Char} {tail : List Char} (absent : d ∉ s) : lacks (d :: tail) s = true := by
  induction s with
  | nil => rfl
  | cons c s ih =>
    obtain ⟨other, later⟩ : d ≠ c ∧ d ∉ s := by simpa using absent
    rw [lacksCons]
    exact ⟨by simp [List.isPrefixOf, other], by simp [List.isPrefixOf, other.symm], ih later⟩

/- A mark of markup begins with a delimiter, of which there is none in a text from elsewhere. -/
theorem plainLacks (begins : mark.head?.any isDelimiter = true)
    (plain : ∀ c ∈ s, isDelimiter c = false) : lacks mark s = true := by
  obtain ⟨d, found, delimits⟩ := (Option.any_eq_true ..).mp begins
  obtain ⟨tail, rfl⟩ := List.head?_eq_some_iff.mp found
  exact absentLacks (delimiterAbsent delimits plain)

def differs (mark tag : List Char) : Bool := !mark.tail.isPrefixOf tag && !tag.isPrefixOf mark.tail

theorem lacksTags (opens : mark.head? = some '<')
    (tags : (following ['<'] s).all (differs mark) = true) : lacks mark s = true := by
  obtain ⟨name, rfl⟩ := List.head?_eq_some_iff.mp opens
  induction s with
  | nil => rfl
  | cons c s ih =>
    rw [lacksCons]
    by_cases opening : c = '<'
    · subst opening
      simp only [following, List.isPrefixOf, beq_self_eq_true, Bool.and_self, if_true,
        List.length_singleton, List.drop_one, List.tail_cons, List.all_cons, Bool.and_eq_true] at tags
      obtain ⟨here, later⟩ := tags
      simp only [differs, List.tail_cons, Bool.and_eq_true, Bool.not_eq_true'] at here
      simp [List.isPrefixOf, here, ih later]
    · have other : ('<' == c) = false := beq_eq_false_iff_ne.mpr (Ne.symm opening)
      have apart : (c == '<') = false := beq_eq_false_iff_ne.mpr opening
      simp only [following, List.isPrefixOf, other, Bool.false_and, Bool.false_eq_true, if_false]
        at tags
      simp [List.isPrefixOf, other, apart, ih tags]

theorem lacksText (opens : mark.head? = some '<') (s : String) :
    lacks mark (chars [.text s]) = true := by
  refine plainLacks (by rw [opens]; rfl) ?_
  simpa [chars, Piece.chars] using escapeNoDelimiter s.toList

theorem lacksFlatMap {α : Type} {f : α → Html} {l : List α}
    (each : ∀ a, lacks mark (f a).chars = true) : lacks mark (chars (l.flatMap f)) = true := by
  induction l with
  | nil => rfl
  | cons a l ih =>
    rw [List.flatMap_cons, charsAppend]
    exact lacksAppend (each a) ih

end

def Holds {α : Type} (mark : List Char) (read : List Char → α) (h : Html) (values : List α) : Prop :=
  ∀ rest, (following mark (h.chars ++ rest)).map read = values ++ (following mark rest).map read

section
variable {α β : Type} {mark : List Char} {read : List Char → α} {f : β → Html} {value : β → α}

theorem holdsOne {h : Html} {t : List Char} {a : α} (parted : h.chars = mark ++ t)
    (once : following mark mark = [[]]) (closed : whole mark mark = true)
    (others : lacks mark t = true) (told : ∀ rest, read (t ++ rest) = a) :
    Holds mark read h [a] := by
  intro rest
  rw [parted, List.append_assoc, followingAppend closed, once, followingPast others, List.map_append,
    List.map_singleton, List.nil_append, List.map_singleton, told]

theorem holdsMap (each : ∀ b, Holds mark read (f b) [value b]) (l : List β) :
    Holds mark read (l.flatMap f) (l.map value) := by
  induction l with
  | nil => exact fun _ => rfl
  | cons b l ih =>
    intro rest
    rw [List.flatMap_cons, charsAppend, List.append_assoc, each b, ih rest]
    rfl

end
end MatchGuide.Html
