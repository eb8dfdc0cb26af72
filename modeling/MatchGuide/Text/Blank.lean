/-! Blanks: the characters with the property White_Space. Trimming takes them from both ends,
closing up takes them all. -/
namespace MatchGuide.Text

def blankRanges : List (Nat × Nat) :=
  [(0x09, 0x0D), (0x20, 0x20), (0x85, 0x85), (0xA0, 0xA0), (0x1680, 0x1680), (0x2000, 0x200A),
    (0x2028, 0x2029), (0x202F, 0x202F), (0x205F, 0x205F), (0x3000, 0x3000)]

def isBlank (c : Char) : Bool := blankRanges.any fun r => r.1 ≤ c.toNat && c.toNat ≤ r.2

def trimLeft (s : List Char) : List Char := s.dropWhile isBlank

def trim (s : List Char) : List Char := (trimLeft (trimLeft s).reverse).reverse

def closeUp (s : List Char) : List Char := s.filter (!isBlank ·)

theorem trimLeftBlank {blanks : List Char} (s : List Char) (all : ∀ c ∈ blanks, isBlank c = true) :
    trimLeft (blanks ++ s) = trimLeft s := by
  unfold trimLeft
  exact List.dropWhile_append_of_pos all

theorem trimLeftSolid {s : List Char} (solid : ∀ c ∈ s.head?, isBlank c = false) :
    trimLeft s = s := by
  cases s with
  | nil => rfl
  | cons c rest =>
    have keep : ¬ isBlank c = true := by simp [solid c rfl]
    exact List.dropWhile_cons_of_neg keep

theorem trimPadded {left body right : List Char} (before : ∀ c ∈ left, isBlank c = true)
    (after : ∀ c ∈ right, isBlank c = true) (first : ∀ c ∈ body.head?, isBlank c = false)
    (last : ∀ c ∈ body.getLast?, isBlank c = false) : trim (left ++ body ++ right) = body := by
  have ending : ∀ c ∈ right.reverse, isBlank c = true :=
    fun c mem => after c (List.mem_reverse.1 mem)
  have solid : ∀ c ∈ body.reverse.head?, isBlank c = false := by
    rwa [List.head?_reverse]
  cases body with
  | nil =>
    have bare : trimLeft right = [] := by simpa [trimLeft] using trimLeftBlank [] after
    rw [trim, List.append_nil, trimLeftBlank _ before, bare]
    rfl
  | cons c rest =>
    have front : trimLeft (c :: rest ++ right) = c :: rest ++ right := trimLeftSolid first
    rw [trim, List.append_assoc, trimLeftBlank _ before, front, List.reverse_append,
      trimLeftBlank _ ending, trimLeftSolid solid, List.reverse_reverse]

theorem trimLeftHead (s : List Char) : ∀ c ∈ (trimLeft s).head?, isBlank c = false := by
  intro c first
  have solid := List.head?_dropWhile_not isBlank s
  unfold trimLeft at first
  rw [Option.mem_def.mp first] at solid
  simpa using solid

theorem closeUpLeft (s : List Char) : closeUp (trimLeft s) = closeUp s := by
  induction s with
  | nil => rfl
  | cons c rest ih =>
    by_cases blank : isBlank c = true
    · have gone : closeUp (c :: rest) = closeUp rest := by simp [closeUp, blank]
      rw [gone, trimLeft, List.dropWhile_cons_of_pos blank]
      exact ih
    · rw [trimLeft, List.dropWhile_cons_of_neg blank]

theorem closeUpTrim (s : List Char) : closeUp (trim s) = closeUp s := by
  have back (t : List Char) : closeUp t.reverse = (closeUp t).reverse := List.filter_reverse
  rw [trim, back, closeUpLeft, back, closeUpLeft, List.reverse_reverse]

theorem trimPrefix (s : List Char) : trim s <+: trimLeft s := by
  have behind : trimLeft (trimLeft s).reverse <:+ (trimLeft s).reverse := List.dropWhile_suffix _
  rwa [← List.reverse_prefix, List.reverse_reverse] at behind

theorem trimHead (s : List Char) : ∀ c ∈ (trim s).head?, isBlank c = false := by
  intro c mem
  obtain ⟨rest, whole⟩ := trimPrefix s
  refine trimLeftHead s c ?_
  rw [← whole, List.head?_append, Option.mem_def.mp mem, Option.some_or]
  exact Option.mem_some_self c

theorem trimLast (s : List Char) : ∀ c ∈ (trim s).getLast?, isBlank c = false := by
  rw [trim, List.getLast?_reverse]
  exact trimLeftHead _

theorem trimIdem (s : List Char) : trim (trim s) = trim s := by
  have bare : trim ([] ++ trim s ++ []) = trim s :=
    trimPadded (by simp) (by simp) (trimHead s) (trimLast s)
  rwa [List.nil_append, List.append_nil] at bare

theorem trimSolid {s : List Char} (solid : ∀ c ∈ s, isBlank c = false) : trim s = s := by
  have front : trimLeft s = s := trimLeftSolid fun c mem => solid c (List.mem_of_mem_head? mem)
  have back : trimLeft s.reverse = s.reverse := trimLeftSolid fun c mem =>
    solid c (List.mem_reverse.1 (List.mem_of_mem_head? mem))
  rw [trim, front, back, List.reverse_reverse]

end MatchGuide.Text
