import MatchGuide.Media
import MatchGuide.Proofs.Spelling

/-! The tags that stand for a format, and the addresses that give one away. The short name of a
format that comes from either, read as a tag again, is that format, so such formats are told apart
by it. -/
namespace MatchGuide

theorem lookupIff {α : Type} {table : List (String × α)} {name : String} {value : α}
    (apart : (table.map Prod.fst).Nodup) :
    table.lookup name = some value ↔ (name, value) ∈ table := by
  rw [List.lookup_eq_some_iff]
  constructor
  · rintro ⟨before, after, rfl, _⟩
    simp
  · intro mem
    obtain ⟨before, after, rfl⟩ := List.append_of_mem mem
    refine ⟨before, after, rfl, fun e early => ?_⟩
    rw [List.map_append, List.nodup_append] at apart
    have other := apart.2.2 e.1 (List.mem_map_of_mem early) name List.mem_cons_self
    exact bne_iff_ne.mpr other.symm

namespace Text

inductive Scrawled : List Char → List Char → Prop where
  | done : Scrawled [] []
  | blank {word text c} (blank : isBlank c = true) (rest : Scrawled word text) :
      Scrawled word (c :: text)
  | letter {word text c d} (same : foldCase c = d) (rest : Scrawled word text) :
      Scrawled (d :: word) (c :: text)

theorem foldBlank {c : Char} (blank : isBlank c = true) : foldCase c = c := by
  refine if_neg fun ⟨low, high⟩ => ?_
  have least : 65 ≤ c.toNat := low
  have most : c.toNat ≤ 90 := high
  simp [isBlank, blankRanges] at blank
  omega

theorem scrawledWord {word text : List Char} (scrawled : Scrawled word text)
    (solid : ∀ d ∈ word, isBlank d = false) : lower (closeUp text) = word := by
  induction scrawled with
  | done => rfl
  | blank blank _ ih => simpa [closeUp, blank] using ih solid
  | @letter word text c d same _ ih =>
    obtain ⟨head, tail⟩ := List.forall_mem_cons.mp solid
    have kept : isBlank c = false := by
      refine Bool.eq_false_iff.mpr fun blank => ?_
      rw [← same, foldBlank blank, blank] at head
      contradiction
    have later := ih tail
    simp only [lower, closeUp] at later ⊢
    simp [kept, same, later]

theorem scrawledText (text : List Char) : Scrawled (lower (closeUp text)) text := by
  induction text with
  | nil => exact .done
  | cons c text ih =>
    by_cases blank : isBlank c = true
    · have gone : closeUp (c :: text) = closeUp text := by simp [closeUp, blank]
      exact gone ▸ .blank blank ih
    · have kept : closeUp (c :: text) = c :: closeUp text := by simp [closeUp, blank]
      exact kept ▸ .letter rfl ih

inductive Extension (ext : List Char) : List Char → Prop where
  | behind (front tail) (path : ∀ c ∈ front ++ ext, c ≠ '?' ∧ c ≠ '#') (last : '.' ∉ ext)
      (stop : ∀ c ∈ tail.head?, c = '?' ∨ c = '#') : Extension ext (front ++ '.' :: ext ++ tail)

theorem extensionRead {ext url : List Char} :
    Extension ext url ↔
      afterLast? (· == '.') (url.takeWhile fun c => c != '?' && c != '#') = some ext := by
  constructor
  · rintro ⟨front, tail, path, last, stop⟩
    have inside : ∀ c ∈ front ++ '.' :: ext, (c != '?' && c != '#') = true := by
      intro c mem
      have named : c = '.' ∨ c ∈ front ++ ext := by
        simp only [List.mem_append, List.mem_cons] at mem ⊢
        exact mem.elim (.inr ∘ .inl) (.imp id .inr)
      rcases named with rfl | mem
      · decide
      · simpa using path c mem
    have outside : tail.takeWhile (fun c => c != '?' && c != '#') = [] := by
      cases tail with
      | nil => rfl
      | cons c tail =>
        refine List.takeWhile_cons_of_neg ?_
        rcases stop c rfl with rfl | rfl <;> decide
    have undotted : ∀ c ∈ ext, (c == '.') = false := fun c mem =>
      beq_eq_false_iff_ne.mpr fun dot => last (dot ▸ mem)
    rw [List.takeWhile_append_of_pos inside, outside, List.append_nil]
    exact afterLastAppend rfl undotted front
  · intro found
    obtain ⟨front, dot, shape, is, undotted⟩ := afterLastSome found
    obtain rfl := beq_iff_eq.mp is
    have parts := List.takeWhile_append_dropWhile (p := fun c => c != '?' && c != '#') (l := url)
    rw [← parts, shape]
    refine .behind _ _ (fun c mem => ?_) (fun mem => ?_) (fun c first => ?_)
    · have mem : c ∈ front ++ '.' :: ext := by
        rcases List.mem_append.mp mem with early | late
        · exact List.mem_append_left _ early
        · exact List.mem_append_right _ (.tail _ late)
      have kept : (c != '?' && c != '#') = true :=
        List.all_eq_true.mp List.all_takeWhile c (shape ▸ mem)
      simpa using kept
    · exact absurd (undotted '.' mem) (by decide)
    · have stop := List.head?_dropWhile_not (fun c => c != '?' && c != '#') url
      rw [Option.mem_def.mp first] at stop
      simpa [Decidable.or_iff_not_imp_left] using stop

end Text

namespace Media

/- A format that some tag stands for: a known one, or one without blanks around it whose name is no
spelling of a known one. -/
def Taggable : Media → Prop
  | other s => Text.trim s.toList = s.toList ∧
      String.ofList (Text.lower (Text.closeUp s.toList)) ∉ aliases.map Prod.fst
  | hls | dash | mp4 => True

inductive Spells : String → Media → Prop where
  | listed (name) {m tag} (known : (name, m) ∈ aliases)
      (scrawled : Text.Scrawled name.toList tag.toList) : Spells tag m
  | other {s tag} (plain : Taggable (.other s)) (padded : Text.Padded s.toList tag.toList) :
      Spells tag (.other s)

theorem tableTaggable {table : List (String × Media)} {name : String} {m : Media}
    (all : ∀ e ∈ table, e.2 ∈ [hls, dash, mp4]) (known : (name, m) ∈ table) : m.Taggable := by
  have one := all _ known
  cases m with
  | hls | dash | mp4 => trivial
  | other => simp at one

theorem aliasIff {name : String} {m : Media} :
    aliases.lookup name = some m ↔ (name, m) ∈ aliases := lookupIff (by decide)

theorem aliasNone {name : String} :
    aliases.lookup name = none ↔ name ∉ aliases.map Prod.fst := by
  rw [List.lookup_eq_none_iff, List.mem_map]
  constructor
  · rintro none ⟨e, listed, rfl⟩
    exact absurd rfl (bne_iff_ne.mp (none e listed))
  · exact fun unknown e listed => bne_iff_ne.mpr fun same => unknown ⟨e, listed, same.symm⟩

theorem tagRead {tag : String} {m : Media} (spelled : Spells tag m) : ofTag tag = m := by
  cases spelled with
  | listed name known scrawled =>
    have solid : ∀ e ∈ aliases, e.1.toList.any Text.isBlank = false := by decide
    have word := Text.scrawledWord scrawled fun d mem =>
      Bool.eq_false_iff.mpr (List.any_eq_false.mp (solid _ known) d mem)
    simp only [ofTag, word, String.ofList_toList, aliasIff.mpr known]
  | @other s tag plain padded =>
    obtain ⟨trimmed, unknown⟩ := plain
    have trim := Text.paddedTrim padded trimmed
    have same : Text.closeUp tag.toList = Text.closeUp s.toList := by
      rw [← Text.closeUpTrim, trim]
    simp only [ofTag, same, aliasNone.mpr unknown, trim, String.ofList_toList]

theorem tagIff {tag : String} {m : Media} : ofTag tag = m ↔ Spells tag m := by
  refine ⟨fun read => ?_, tagRead⟩
  subst read
  cases named : aliases.lookup (.ofList (Text.lower (Text.closeUp tag.toList))) with
  | some m =>
    have read : ofTag tag = m := by simp only [ofTag, named]
    have scrawled := Text.scrawledText tag.toList
    rw [← String.toList_ofList (l := Text.lower _)] at scrawled
    exact read ▸ .listed _ (aliasIff.mp named) scrawled
  | none =>
    have read : ofTag tag = other (.ofList (Text.trim tag.toList)) := by simp only [ofTag, named]
    have plain : Taggable (.other (.ofList (Text.trim tag.toList))) := by
      refine ⟨by rw [String.toList_ofList, Text.trimIdem], ?_⟩
      rw [String.toList_ofList, Text.closeUpTrim]
      exact aliasNone.mp named
    have padded := Text.trimAround tag.toList
    rw [← String.toList_ofList (l := Text.trim _)] at padded
    exact read ▸ .other plain padded

theorem spelledTaggable {tag : String} {m : Media} (spelled : Spells tag m) : m.Taggable := by
  cases spelled with
  | listed _ known => exact tableTaggable (by decide) known
  | other plain => exact plain

theorem taggableSpelled {m : Media} (plain : m.Taggable) : Spells m.shortName m := by
  have named {name : String} (known : (name, m) ∈ aliases) : Spells name m := by
    have plain : ∀ e ∈ aliases, Text.lower (Text.closeUp e.1.toList) = e.1.toList := by decide
    have scrawled := Text.scrawledText name.toList
    rw [plain _ known] at scrawled
    exact .listed name known scrawled
  cases m with
  | hls | dash | mp4 => exact named (by decide)
  | other s => exact .other plain (Text.paddedBare _)

/- A format that its short name leads back to. Not every one is: `other "HLS"` has the short name of
a tag that stands for `hls`. -/
def Settled (m : Media) : Prop := ofTag m.shortName = m

theorem taggableSettled {m : Media} (plain : m.Taggable) : m.Settled :=
  tagRead (taggableSpelled plain)

theorem taggableIff {m : Media} : (∃ tag, ofTag tag = m) ↔ m.Taggable :=
  ⟨fun ⟨_, read⟩ => spelledTaggable (tagIff.mp read), fun plain => ⟨_, taggableSettled plain⟩⟩

theorem tagSettled (tag : String) : (ofTag tag).Settled :=
  taggableSettled (taggableIff.mp ⟨tag, rfl⟩)

theorem urlIff {url : String} {m : Media} :
    ofUrl? url = some m ↔
      ∃ ext, Text.Extension ext url.toList ∧ (.ofList (Text.lower ext), m) ∈ extensions := by
  have known {name : String} : extensions.lookup name = some m ↔ (name, m) ∈ extensions :=
    lookupIff (by decide)
  simp only [ofUrl?, Option.bind_eq_bind, Option.bind_eq_some_iff, Text.extensionRead, known]

theorem urlTaggable {url : String} {m : Media} (read : ofUrl? url = some m) : m.Taggable := by
  obtain ⟨ext, _, known⟩ := urlIff.mp read
  exact tableTaggable (by decide) known

theorem urlSettled {url : String} {m : Media} (read : ofUrl? url = some m) : m.Settled :=
  taggableSettled (urlTaggable read)

theorem settledUnique {m n : Media} (first : m.Settled) (second : n.Settled)
    (same : m.shortName = n.shortName) : m = n := by
  rw [← first, same, second]

end Media
end MatchGuide
