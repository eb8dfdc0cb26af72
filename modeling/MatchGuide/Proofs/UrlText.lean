import MatchGuide.Proofs.UrlFrame

/-! The text of a URL with more text behind it. -/
namespace MatchGuide

namespace Text

theorem cutOnward {isSep : Char → Bool} {more : List Char} (plain : ∀ c ∈ more, isSep c = false)
    (s : List Char) : cut isSep (s ++ more) = match cut isSep s with
      | (part, some after) => (part, some (after ++ more))
      | (part, none) => (part ++ more, none) := by
  induction s with
  | nil => exact cutPlain plain
  | cons c s ih =>
    rw [List.cons_append, cut, cut]
    split
    · rfl
    · rw [ih]
      obtain ⟨part, after⟩ := cut isSep s
      cases after <;> rfl

theorem cutSome {isSep : Char → Bool} {s part after : List Char}
    (found : cut isSep s = (part, some after)) : ∃ sep, isSep sep = true ∧ s = part ++ sep :: after := by
  induction s generalizing part with
  | nil => simp [cut] at found
  | cons c s ih =>
    rw [cut] at found
    split at found
    · rename_i is
      obtain ⟨rfl, same⟩ := Prod.mk.inj found
      exact ⟨c, is, by rw [Option.some.inj same]; rfl⟩
    · obtain ⟨rfl, same⟩ := Prod.mk.inj found
      obtain ⟨sep, is, whole⟩ := ih (Prod.ext rfl same)
      exact ⟨sep, is, congrArg (c :: ·) whole⟩

theorem cutNone {isSep : Char → Bool} {s : List Char} (none : (cut isSep s).2 = none) :
    (cut isSep s).1 = s := by
  induction s with
  | nil => rfl
  | cons c s ih =>
    rw [cut] at none ⊢
    split at none
    · contradiction
    · rename_i other
      rw [if_neg other]
      exact congrArg (c :: ·) (ih none)

end Text

namespace Url

def cleanFront (s : List Char) : List Char :=
  (s.dropWhile isEdge).filter fun c => c != '\t' && c != '\n' && c != '\r'

def bare (scheme : String) : Url where
  scheme
  username := ""
  password := ""
  host := none
  port := none
  path := .segments []
  query := none
  fragment := none

def askedBytes (scheme : String) : List UInt8 :=
  if isWeb scheme then 0x27 :: queryBytes else queryBytes

theorem solidFilter {s : List Char} (solid : ∀ c ∈ s, isEdge c = false) :
    s.filter (fun c => c != '\t' && c != '\n' && c != '\r') = s := by
  refine List.filter_eq_self.mpr fun c mem => ?_
  have other {d : Char} (edge : isEdge d = true) : c ≠ d := by
    rintro rfl
    rw [solid c mem] at edge
    contradiction
  simp [other (d := '\t') rfl, other (d := '\n') rfl, other (d := '\r') rfl]

theorem dropSolid {s : List Char} (filled : s ≠ []) (solid : ∀ c ∈ s, isEdge c = false)
    (more : List Char) : (s ++ more).dropWhile isEdge = s ++ more := by
  obtain ⟨c, rest, rfl⟩ := List.exists_cons_of_ne_nil filled
  rw [List.cons_append, List.dropWhile_cons_of_neg (by simp [solid c])]

theorem dropOnward {more : List Char} (filled : more ≠ []) (solid : ∀ c ∈ more, isEdge c = false)
    (s : List Char) : (s ++ more).dropWhile isEdge = s.dropWhile isEdge ++ more := by
  rw [List.dropWhile_append]
  split
  · rename_i gone
    have own := dropSolid filled solid []
    rw [List.append_nil] at own
    rw [List.isEmpty_iff.mp gone, own]
    rfl
  · rfl

theorem cleanOnward {more : List Char} (filled : more ≠ []) (solid : ∀ c ∈ more, isEdge c = false)
    (s : List Char) : clean (s ++ more) = cleanFront s ++ more := by
  have back := dropSolid (List.reverse_ne_nil_iff.mpr filled)
    (fun c mem => solid c (List.mem_reverse.mp mem)) (s.dropWhile isEdge).reverse
  simp only [clean, cleanFront]
  rw [dropOnward filled solid, List.reverse_append, back, List.reverse_append, List.reverse_reverse,
    List.reverse_reverse, List.filter_append, solidFilter solid]

theorem frontOnward {more : List Char} (filled : more ≠ []) (solid : ∀ c ∈ more, isEdge c = false)
    (s : List Char) : cleanFront (s ++ more) = cleanFront s ++ more := by
  rw [cleanFront, dropOnward filled solid, List.filter_append, solidFilter solid, cleanFront]

theorem cleanSolid {s : List Char} (solid : ∀ c, s.getLast? = some c → isEdge c = false) :
    clean s = cleanFront s := by
  rcases List.eq_nil_or_concat s with rfl | ⟨front, c, rfl⟩
  · rfl
  · have last : ∀ d ∈ [c], isEdge d = false := by simpa using solid
    rw [List.concat_eq_append, cleanOnward (List.cons_ne_nil _ _) last,
      frontOnward (List.cons_ne_nil _ _) last]

theorem schemeOnward {more : List Char} (plain : ':' ∉ more) (s : List Char) :
    scheme? (s ++ more) = (scheme? s).map fun p => (p.1, p.2 ++ more) := by
  simp only [scheme?, Text.cutOnward (Text.absentPlain plain) s]
  obtain ⟨name, rest⟩ := Text.cut (· == ':') s
  cases rest with
  | none => rfl
  | some rest =>
    simp only [Option.bind_eq_bind, Option.bind_some]
    cases name.head? with
    | none => rfl
    | some first =>
      simp only [Option.bind_some]
      split <;> rfl

theorem schemeParts {s rest : List Char} {scheme : String} (found : scheme? s = some (scheme, rest)) :
    ∃ name, s = name ++ ':' :: rest := by
  simp only [scheme?] at found
  cases cut : Text.cut (· == ':') s with
  | mk name after =>
    rw [cut] at found
    obtain ⟨own, read, found⟩ := Option.bind_eq_some_iff.mp found
    obtain ⟨first, _, found⟩ := Option.bind_eq_some_iff.mp found
    split at found
    · obtain ⟨sep, is, whole⟩ := Text.cutSome (cut.trans (congrArg (name, ·) read))
      obtain rfl := (Prod.mk.inj (Option.some.inj found)).2
      exact ⟨name, by rw [whole, beq_iff_eq.mp is]⟩
    · contradiction

def parts? (s : List Char) : Option (Url × List Char) := do
  let (scheme, rest) ← scheme? s
  let (rest, fragment) := Text.cut (· == '#') rest
  let (rest, query) := Text.cut (· == '?') rest
  some ((bare scheme).asking (query.map (escaped (askedBytes scheme)))
    (fragment.map (escaped fragmentBytes)), rest)

theorem readParts (s : String) : read? s = (parts? (clean s.toList)).bind fun p => body? p.1 p.2 := by
  rw [read?, parts?]
  cases scheme? (clean s.toList) <;> rfl

def EndsInPath (u : Url) : Prop := u.query = none ∧ u.fragment = none

instance (u : Url) : Decidable u.EndsInPath := inferInstanceAs (Decidable (_ ∧ _))

theorem partsScheme {s rest : List Char} {u : Url} (found : parts? s = some (u, rest))
    (ends : u.EndsInPath) : scheme? s = some (u.scheme, rest) := by
  rw [parts?] at found
  obtain ⟨⟨scheme, text⟩, spelled, found⟩ := Option.bind_eq_some_iff.mp found
  obtain ⟨rfl, rfl⟩ := Prod.mk.inj (Option.some.inj found)
  have marks := Text.cutNone (Option.map_eq_none_iff.mp ends.2)
  have asks := Text.cutNone (Option.map_eq_none_iff.mp ends.1)
  exact spelled.trans (congrArg (fun rest => some (scheme, rest)) (asks.trans marks).symm)

/- More text goes to what comes last. -/
def led (more : List Char) (p : Url × List Char) : Url × List Char :=
  match p.1.query, p.1.fragment with
  | none, none => (p.1, p.2 ++ more)
  | some query, none =>
    (p.1.asking (some (query ++ escaped (askedBytes p.1.scheme) more)) none, p.2)
  | query, some fragment => (p.1.asking query (some (fragment ++ escaped fragmentBytes more)), p.2)

theorem escapedAppend (barred : List UInt8) (s t : List Char) :
    escaped barred (s ++ t) = escaped barred s ++ escaped barred t := by
  simp [escaped, Utf8.encodeChars, Percent.encode, String.ofList_append]

theorem partsOnward {more : List Char} (inert : ∀ c ∈ more, c ≠ ':' ∧ c ≠ '?' ∧ c ≠ '#')
    (s : List Char) : parts? (s ++ more) = (parts? s).map (led more) := by
  have apart {sep : Char} (other : ∀ c ∈ more, c ≠ sep) : ∀ c ∈ more, (c == sep) = false :=
    fun c mem => by simp [other c mem]
  rw [parts?, parts?, schemeOnward fun mem => (inert _ mem).1 rfl]
  cases scheme? s with
  | none => rfl
  | some p =>
    obtain ⟨scheme, rest⟩ := p
    simp only [Option.map_some, Option.bind_eq_bind, Option.bind_some,
      Text.cutOnward (apart fun c mem => (inert c mem).2.2)]
    obtain ⟨rest, fragment⟩ := Text.cut (· == '#') rest
    cases fragment with
    | some fragment =>
      obtain ⟨rest, query⟩ := Text.cut (· == '?') rest
      cases query <;> simp [led, asking, escapedAppend]
    | none =>
      simp only [Text.cutOnward (apart fun c mem => (inert c mem).2.1)]
      obtain ⟨rest, query⟩ := Text.cut (· == '?') rest
      cases query <;> simp [led, asking, escapedAppend, bare]

theorem partsHostless {s rest : List Char} {u : Url} (found : parts? s = some (u, rest)) :
    u.host = none := by
  rw [parts?] at found
  obtain ⟨_, _, found⟩ := Option.bind_eq_some_iff.mp found
  obtain ⟨rfl, _⟩ := Prod.mk.inj (Option.some.inj found)
  rfl

theorem ledNothing (p : Url × List Char) : led [] p = p := by
  obtain ⟨⟨_, _, _, _, _, _, query, fragment⟩, rest⟩ := p
  cases query <;> cases fragment <;>
    simp [led, asking, escaped, Utf8.encodeChars, Percent.encode]

theorem ledPath {p : Url × List Char} (ends : p.1.EndsInPath) (more : List Char) :
    led more p = (p.1, p.2 ++ more) := by
  rw [led, ends.1, ends.2]

theorem ledEnds (more : List Char) (p : Url × List Char) :
    (led more p).1.EndsInPath ↔ p.1.EndsInPath := by
  obtain ⟨⟨_, _, _, _, _, _, query, fragment⟩, rest⟩ := p
  cases query <;> cases fragment <;> simp [led, asking, EndsInPath]

theorem ledBehind {p : Url × List Char} (asks : ¬ p.1.EndsInPath) (more : List Char) :
    ∃ query fragment, led more p = (p.1.asking query fragment, p.2) ∧
      query.isSome = p.1.query.isSome ∧ fragment.isSome = p.1.fragment.isSome := by
  rw [led]
  cases query : p.1.query <;> cases fragment : p.1.fragment
  · exact absurd ⟨query, fragment⟩ asks
  · exact ⟨_, _, rfl, rfl, rfl⟩
  · exact ⟨_, _, rfl, rfl, rfl⟩
  · exact ⟨_, _, rfl, rfl, rfl⟩

def Solid (s : String) : Prop := ∀ c, s.toList.getLast? = some c → isEdge c = false

instance (s : String) : Decidable (Solid s) :=
  decidable_of_iff (s.toList.getLast?.all (!isEdge ·) = true) (by simp [Solid, Option.all_eq_true])

def isInert (c : Char) : Bool := !isEdge c && c != ':' && c != '?' && c != '#'

theorem readSolid {s : String} (solid : Solid s) :
    read? s = (parts? (cleanFront s.toList)).bind fun p => body? p.1 p.2 := by
  rw [readParts, cleanSolid solid]

theorem readOnward {more : List Char} (filled : more ≠ []) (inert : ∀ c ∈ more, isInert c = true)
    (s : String) : read? (s ++ .ofList more) =
      (parts? (cleanFront s.toList)).bind fun p => body? (led more p).1 (led more p).2 := by
  have inert (c : Char) (mem : c ∈ more) : isEdge c = false ∧ c ≠ ':' ∧ c ≠ '?' ∧ c ≠ '#' := by
    simpa [isInert, and_assoc] using inert c mem
  rw [readParts, String.toList_append, String.toList_ofList,
    cleanOnward filled fun c mem => (inert c mem).1, partsOnward fun c mem => (inert c mem).2]
  cases parts? (cleanFront s.toList) <;> rfl

theorem readSlash (s : String) : read? (s ++ "/") =
    (parts? (cleanFront s.toList)).bind fun p => body? (led ['/'] p).1 (led ['/'] p).2 :=
  readOnward (List.cons_ne_nil _ _) (List.forall_mem_singleton.mpr (by decide)) s

theorem suffixLast {s t : List Char} (suffix : s <:+ t) {c : Char} (last : s.getLast? = some c) :
    t.getLast? = some c := by
  obtain ⟨front, rfl⟩ := suffix
  rw [List.getLast?_append, last, Option.some_or]

theorem frontLast {s : List Char} {c : Char} (last : s.getLast? = some c) (solid : isEdge c = false) :
    (cleanFront s).getLast? = some c := by
  obtain ⟨front, rfl⟩ := List.getLast?_eq_some_iff.mp last
  rw [frontOnward (List.cons_ne_nil _ _) (List.forall_mem_singleton.mpr solid), List.getLast?_concat]

theorem endsKept {u v : Url} (keeps : Keeps v u) : v.EndsInPath ↔ u.EndsInPath := by
  rw [EndsInPath, EndsInPath, keeps.query, keeps.fragment]

theorem partsLast {s rest : List Char} {u : Url} (found : parts? s = some (u, rest))
    (ends : u.EndsInPath) {c : Char} (last : s.getLast? = some c) (other : c ≠ ':') :
    rest.getLast? = some c := by
  obtain ⟨name, rfl⟩ := schemeParts (partsScheme found ends)
  rw [List.getLast?_append, List.getLast?_cons, Option.some_or] at last
  cases own : rest.getLast? with
  | none =>
    rw [own] at last
    exact absurd (Option.some.inj last).symm other
  | some d =>
    rw [own] at last
    exact last

theorem restLast {u : Url} {rest : List Char} {base : String} (solid : Solid base)
    (spelled : parts? (cleanFront base.toList) = some (u, rest)) (ends : u.EndsInPath) {c : Char}
    (last : rest.getLast? = some c) : base.toList.getLast? = some c := by
  obtain ⟨name, whole⟩ := schemeParts (partsScheme spelled ends)
  have front : (cleanFront base.toList).getLast? = some c :=
    suffixLast ⟨name ++ [':'], by rw [whole, List.append_assoc]; rfl⟩ last
  cases final : base.toList.getLast? with
  | none =>
    rw [List.getLast?_eq_none_iff.mp final] at front
    contradiction
  | some d => rw [← front, frontLast final (solid d final)]

end Url
end MatchGuide
