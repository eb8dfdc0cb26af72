import MatchGuide.Store.Path

/-! Paths taken apart: the last name and what stands before it. The draft of a file differs from it
in the last name alone, and the directory of a path is a first part of its way. -/
namespace MatchGuide.Path

structure Ends (path front last : List Char) : Prop where
  text : path = front ++ last
  closed : front = [] ∨ ∃ f, front = f ++ ['/']
  plain : '/' ∉ last

theorem endsExist (path : List Char) : ∃ front last, Ends path front last := by
  induction path with
  | nil => exact ⟨[], [], rfl, .inl rfl, nofun⟩
  | cons c rest ih =>
    obtain ⟨front, last, rfl, rfl | ⟨f, rfl⟩, plain⟩ := ih
    · by_cases slash : c = '/'
      · subst slash
        exact ⟨['/'], last, rfl, .inr ⟨[], rfl⟩, plain⟩
      · exact ⟨[], c :: last, rfl, .inl rfl, by simp [plain, Ne.symm slash]⟩
    · exact ⟨c :: f ++ ['/'], last, rfl, .inr ⟨c :: f, rfl⟩, plain⟩

variable {path front last name : List Char}

theorem endsReverse (ends : Ends path front last) :
    path.reverse.takeWhile (· != '/') = last.reverse ∧
    path.reverse.dropWhile (· != '/') = front.reverse := by
  obtain ⟨rfl, closed, plain⟩ := ends
  have solid : ∀ c ∈ last.reverse, (c != '/') = true := by
    intro c mem
    simp only [bne_iff_ne, ne_eq]
    rintro rfl
    exact plain (List.mem_reverse.mp mem)
  rw [List.reverse_append, List.takeWhile_append_of_pos solid, List.dropWhile_append_of_pos solid]
  rcases closed with rfl | ⟨f, rfl⟩ <;> simp

theorem endsUnique {front' last' : List Char} (ends : Ends path front last)
    (also : Ends path front' last') : front' = front ∧ last' = last := by
  have first := endsReverse ends
  have second := endsReverse also
  exact ⟨List.reverse_inj.mp (second.2.symm.trans first.2),
    List.reverse_inj.mp (second.1.symm.trans first.1)⟩

theorem endsSplit (ends : Ends path front last) :
    ∃ init, Text.split (· == '/') path = init ++ [last] := by
  obtain ⟨rfl, closed, plain⟩ := ends
  have whole : Text.split (· == '/') last = [last] := Text.splitPlain fun c mem => by
    simp only [beq_eq_false_iff_ne, ne_eq]
    rintro rfl
    exact plain mem
  rcases closed with rfl | ⟨f, rfl⟩
  · exact ⟨[], whole⟩
  · refine ⟨Text.split (· == '/') f, ?_⟩
    rw [List.append_assoc, List.cons_append, List.nil_append, Text.splitAppend (by decide), whole]

theorem settleStop {c : Char} {rest : List Char} (solid : c ≠ '/')
    (whole : c = '.' → ∀ r, rest ≠ '/' :: r) : settle (c :: rest) = c :: rest := by
  unfold settle
  split
  · rename_i same
    exact absurd (List.cons.inj same).1 solid
  · rename_i same
    obtain ⟨dot, next⟩ := List.cons.inj same
    exact absurd next (whole dot _)
  · rfl

theorem settleNamed (ends : Ends path front name) (proper : isName name = true) :
    settle path.reverse = path.reverse := by
  obtain ⟨rfl, closed, plain⟩ := ends
  have plain : ∀ c ∈ name.reverse, c ≠ '/' := by
    rintro c mem rfl
    exact plain (List.mem_reverse.mp mem)
  rw [List.reverse_append]
  cases back : name.reverse with
  | nil => simp [isName, List.reverse_eq_nil_iff.mp back] at proper
  | cons c rest =>
    rw [back] at plain
    refine settleStop (plain c List.mem_cons_self) fun dot r => ?_
    cases rest with
    | nil =>
      have single : name = ['.'] := by simpa [dot] using congrArg List.reverse back
      simp [single, isName] at proper
    | cons d rest =>
      have solid := plain d (by simp)
      simp [solid]

theorem lastComponentNamed (ends : Ends path front name) (proper : isName name = true) :
    lastComponent path = (front.reverse, name) := by
  have ⟨taken, left⟩ := endsReverse ends
  simp only [lastComponent, settleNamed ends proper, taken, left, List.reverse_reverse]

theorem extensionCases (name : List Char) :
    (extension? name = none ∧ stem name = name) ∨
    ∃ base ext, base ≠ [] ∧ name = base ++ '.' :: ext ∧ '.' ∉ ext ∧
      extension? name = some ext := by
  cases found : extension? name with
  | none => exact .inl ⟨rfl, by rw [stem, found]⟩
  | some ext =>
    obtain ⟨before, sep, shape, is, plain⟩ := Text.afterLastSome found
    obtain rfl := beq_iff_eq.mp is
    cases name with
    | nil => simp at shape
    | cons c rest =>
      refine .inr ⟨c :: before, ext, by simp, congrArg (c :: ·) shape, fun mem => ?_, rfl⟩
      exact absurd (plain _ mem) (by decide)

theorem stemDotted {base ext : List Char} (filled : base ≠ []) (plain : '.' ∉ ext) :
    stem (base ++ '.' :: ext) = base := by
  have found : extension? (base ++ '.' :: ext) = some ext := by
    cases base with
    | nil => contradiction
    | cons c base =>
      refine Text.afterLastAppend (by decide) (fun d mem => ?_) base
      simp only [beq_eq_false_iff_ne, ne_eq]
      rintro rfl
      exact plain mem
  simp only [stem, found, List.length_append, List.length_cons]
  rw [show base.length + (ext.length + 1) - ext.length - 1 = base.length by omega,
    List.take_left]

theorem stemPlain (plain : '/' ∉ name) : '/' ∉ stem name := by
  unfold stem
  split
  · exact fun mem => plain (List.mem_of_mem_take mem)
  · exact plain

def Replaced (name ext draft : List Char) : Prop :=
  ∃ base, draft = base ++ '.' :: ext ∧
    (name = base ∨ ∃ own, name = base ++ '.' :: own ∧ '.' ∉ own)

theorem replacedOther {ext draft : List Char} (dotted : '.' ∈ ext)
    (replaced : Replaced name ext draft) : draft ≠ name := by
  obtain ⟨base, rfl, rfl | ⟨own, rfl, plain⟩⟩ := replaced
  · simp
  · intro same
    have same := (List.cons.inj (List.append_cancel_left same)).2
    exact plain (same ▸ dotted)

theorem addExtensionNamed (ends : Ends path front name) (proper : isName name = true)
    (ext : List Char) : addExtension path ext = front ++ (stem name ++ '.' :: ext) := by
  simp [addExtension, lastComponentNamed ends proper, proper]

theorem addExtensionUp (ends : Ends path front ['.', '.']) (ext : List Char) :
    addExtension path ext = path := by
  have same : settle path.reverse = path.reverse := by
    rw [ends.text, List.reverse_append]
    exact settleStop (by decide) fun _ r => by simp
  have ⟨taken, _⟩ := endsReverse ends
  simp [addExtension, lastComponent, same, taken, isName]

theorem extendedLast (ends : Ends path front name) (proper : isName name = true)
    {ext front' last' : List Char} (plainExt : '/' ∉ ext)
    (extended : Ends (addExtension path ext) front' last') : last' = stem name ++ '.' :: ext := by
  rw [addExtensionNamed ends proper] at extended
  have plain : '/' ∉ stem name ++ '.' :: ext := by simp [stemPlain ends.plain, plainExt]
  exact (endsUnique ⟨rfl, ends.closed, plain⟩ extended).2

theorem withExtensionText {path : String} (ends : Ends path.toList front name)
    (proper : isName name = true) (ext : String) :
    (withExtension path ext).toList = addExtension
      (front ++ name.take (name.length - ((extension? name).getD []).length)) ext.toList := by
  have short : ((extension? name).getD []).length ≤ name.length := by
    rcases extensionCases name with ⟨none, _⟩ | ⟨base, own, _, shape, _, found⟩
    · simp [none]
    · rw [found, shape, Option.getD_some, List.length_append, List.length_cons]
      omega
  simp only [withExtension, lastComponentNamed ends proper, proper, if_true, String.toList_ofList]
  rw [ends.text, List.take_append, List.length_append,
    List.take_of_length_le (by omega), show front.length + name.length -
      ((extension? name).getD []).length - front.length =
      name.length - ((extension? name).getD []).length by omega]

/- A name such as `..ab` leaves `..` without its extension, and then there is no name to extend. -/
theorem draftReplaced {path : String} (ends : Ends path.toList front name)
    (proper : isName name = true) {ext : String} (plainExt : '/' ∉ ext.toList)
    {front' name' : List Char} (draft : Ends (withExtension path ext).toList front' name')
    (named : isName name' = true) : Replaced name ext.toList name' := by
  rw [withExtensionText ends proper] at draft
  rcases extensionCases name with ⟨none, whole⟩ | ⟨base, own, filled, shape, plain, found⟩
  · simp only [none, Option.getD_none, List.length_nil, Nat.sub_zero, List.take_length,
      ← ends.text] at draft
    have same := extendedLast ends proper plainExt draft
    exact ⟨name, whole ▸ same, .inl rfl⟩
  · have cut : name.take (name.length - ((extension? name).getD []).length) = base ++ ['.'] := by
      rw [found, shape, Option.getD_some, List.length_append, List.length_cons,
        show base.length + (own.length + 1) - own.length = base.length + 1 by omega,
        List.take_length_add_append]
      rfl
    have noSlash : '/' ∉ base ++ ['.'] := by
      have plain := ends.plain
      rw [shape] at plain
      simp_all
    rw [cut] at draft
    by_cases rest : isName (base ++ ['.']) = true
    · have same := extendedLast ⟨rfl, ends.closed, noSlash⟩ rest plainExt draft
      rw [stemDotted filled List.not_mem_nil] at same
      exact ⟨base, same, .inr ⟨own, shape, plain⟩⟩
    · have up : base ++ ['.'] = ['.', '.'] := by
        cases base with
        | nil => contradiction
        | cons c base => simpa [isName] using rest
      rw [up] at draft noSlash
      have cutEnds : Ends (front ++ ['.', '.']) front ['.', '.'] := ⟨rfl, ends.closed, noSlash⟩
      rw [addExtensionUp cutEnds] at draft
      rw [(endsUnique cutEnds draft).2] at named
      contradiction

theorem settleJunk (r : List Char) :
    ∃ junk, r = junk ++ settle r ∧ (junk = [] ∨ ∃ j, junk = j ++ ['/']) := by
  fun_induction settle r with
  | case1 rest ih =>
    obtain ⟨junk, split, rfl | ⟨j, rfl⟩⟩ := ih
    · exact ⟨['/'], congrArg ('/' :: ·) split, .inr ⟨[], rfl⟩⟩
    · exact ⟨'/' :: j ++ ['/'], congrArg ('/' :: ·) split, .inr ⟨_, rfl⟩⟩
  | case2 rest ih =>
    obtain ⟨junk, split, rfl | ⟨j, rfl⟩⟩ := ih
    · exact ⟨['.', '/'], congrArg ('.' :: '/' :: ·) split, .inr ⟨['.'], rfl⟩⟩
    · exact ⟨'.' :: '/' :: j ++ ['/'], congrArg ('.' :: '/' :: ·) split, .inr ⟨_, rfl⟩⟩
  | case3 path => exact ⟨[], rfl, .inl rfl⟩

theorem settleHead (r : List Char) :
    (∀ rest, settle r ≠ '/' :: rest) ∧ ∀ rest, settle r ≠ '.' :: '/' :: rest := by
  fun_induction settle r with
  | case1 rest ih => exact ih
  | case2 rest ih => exact ih
  | case3 path slash dot => exact ⟨slash, dot⟩

theorem lastComponentParts (path : List Char) :
    ∃ junk, path = (lastComponent path).1.reverse ++ (lastComponent path).2 ++ junk ∧
      (junk = [] ∨ ∃ j, junk = '/' :: j) := by
  obtain ⟨junk, split, shape⟩ := settleJunk path.reverse
  refine ⟨junk.reverse, ?_, ?_⟩
  · have whole := congrArg List.reverse split
    rw [List.reverse_reverse, List.reverse_append] at whole
    rw [lastComponent, ← List.reverse_append, List.takeWhile_append_dropWhile, ← whole]
  · rcases shape with rfl | ⟨j, rfl⟩
    · exact .inl rfl
    · exact .inr ⟨j.reverse, by simp⟩

theorem lastComponentFront {path : List Char} (deep : (lastComponent path).1 ≠ []) :
    ∃ above, (lastComponent path).1 = '/' :: above := by
  cases shape : (lastComponent path).1 with
  | nil => contradiction
  | cons c above =>
    have stop := List.head?_dropWhile_not (· != '/') (settle path.reverse)
    rw [show (settle path.reverse).dropWhile (· != '/') = c :: above from shape] at stop
    have slash : c = '/' := by simpa using stop
    exact ⟨above, by rw [slash]⟩

theorem lastComponentDeep {path : List Char} (deep : (lastComponent path).1 ≠ []) :
    '/' ∉ (lastComponent path).2 ∧
    (isName (lastComponent path).2 = true ∨ (lastComponent path).2 = ['.', '.']) := by
  obtain ⟨above, front⟩ := lastComponentFront deep
  have ⟨slash, dot⟩ := settleHead path.reverse
  have joined : (lastComponent path).2.reverse ++ '/' :: above = settle path.reverse := by
    rw [← front, lastComponent, List.reverse_reverse, List.takeWhile_append_dropWhile]
  constructor
  · intro mem
    have taken := List.all_eq_true.mp List.all_takeWhile '/' (List.mem_reverse.mp mem)
    contradiction
  · by_cases name : isName (lastComponent path).2 = true
    · exact .inl name
    · simp only [isName, bne_iff_ne, Bool.and_eq_true, ne_eq, not_and, Decidable.not_not] at name
      refine .inr (name ⟨fun empty => ?_, fun single => ?_⟩)
      · rw [empty] at joined
        exact slash _ joined.symm
      · rw [single] at joined
        exact dot _ joined.symm

theorem memSplit {before after : List Char} (plain : '/' ∉ name)
    (closed : before = [] ∨ ∃ b, before = b ++ ['/']) (apart : after = [] ∨ ∃ a, after = '/' :: a) :
    name ∈ Text.split (· == '/') (before ++ name ++ after) := by
  obtain ⟨init, split⟩ := endsSplit ⟨rfl, closed, plain⟩
  rcases apart with rfl | ⟨a, rfl⟩
  · simp [split]
  · rw [Text.splitAppend (by decide), split]
    simp

theorem parentBefore {path : String} (filled : parent path ≠ "") :
    ∃ rest, path.toList = (parent path).toList ++ '/' :: rest ∧
      ∃ c ∈ Text.split (· == '/') rest, isName c = true ∨ c = ['.', '.'] := by
  have deep : (lastComponent path.toList).1 ≠ [] := fun empty => filled (by
    rw [parent, empty]
    rfl)
  obtain ⟨above, front⟩ := lastComponentFront deep
  obtain ⟨plain, named⟩ := lastComponentDeep deep
  obtain ⟨junk, whole, tail⟩ := lastComponentParts path.toList
  obtain ⟨left, split, rfl | ⟨j, rfl⟩⟩ := settleJunk ('/' :: above)
  · exact absurd split.symm ((settleHead _).1 above)
  · have opening : j.reverse = [] ∨ ∃ b, j.reverse = b ++ ['/'] := by
      cases j with
      | nil => exact .inl rfl
      | cons c j =>
        obtain ⟨rfl, _⟩ := List.cons.inj split
        exact .inr ⟨j.reverse, by simp⟩
    refine ⟨j.reverse ++ (lastComponent path.toList).2 ++ junk, ?_, _, memSplit plain opening tail,
      named⟩
    have turned := congrArg List.reverse split
    rw [List.reverse_append, List.reverse_concat] at turned
    rw [parent, front, String.toList_ofList]
    conv => lhs; rw [whole, front, turned]
    simp

end MatchGuide.Path
