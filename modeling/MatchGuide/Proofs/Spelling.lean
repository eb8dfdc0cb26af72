import MatchGuide.Proofs.Numeral
import Mathlib.Data.List.Forall2

/-! The spellings a payload may choose for what one field holds: a text with blanks around it, a
count, an instant. They are put in terms of what is written; the readers come back to it. -/
namespace MatchGuide

namespace Text

inductive Padded (body : List Char) : List Char → Prop where
  | around (left right) (before : ∀ c ∈ left, isBlank c = true)
      (after : ∀ c ∈ right, isBlank c = true) : Padded body (left ++ body ++ right)

theorem paddedBare (body : List Char) : Padded body body := by
  have bare : Padded body ([] ++ body ++ []) := .around [] [] nofun nofun
  rwa [List.nil_append, List.append_nil] at bare

theorem paddedMem {body text : List Char} {c : Char} (padded : Padded body text) (mem : c ∈ text) :
    isBlank c = true ∨ c ∈ body := by
  obtain ⟨_, _, before, after⟩ := padded
  rcases List.mem_append.mp mem with front | back
  · exact (List.mem_append.mp front).imp (before c) id
  · exact .inl (after c back)

theorem paddedTrim {body text : List Char} (padded : Padded body text) (trimmed : trim body = body) :
    trim text = body := by
  obtain ⟨_, _, before, after⟩ := padded
  have first : ∀ c ∈ body.head?, isBlank c = false := trimmed ▸ trimHead body
  have last : ∀ c ∈ body.getLast?, isBlank c = false := trimmed ▸ trimLast body
  exact trimPadded before after first last

theorem trimAround (s : List Char) : Padded (trim s) s := by
  have blank {t : List Char} : ∀ c ∈ t.takeWhile isBlank, isBlank c = true :=
    List.all_eq_true.mp List.all_takeWhile
  have front : s.takeWhile isBlank ++ trimLeft s = s := List.takeWhile_append_dropWhile
  have back : trim s ++ ((trimLeft s).reverse.takeWhile isBlank).reverse = trimLeft s := by
    have parts : (trimLeft s).reverse.takeWhile isBlank ++ trimLeft (trimLeft s).reverse =
        (trimLeft s).reverse := List.takeWhile_append_dropWhile
    rw [trim, ← List.reverse_append, parts, List.reverse_reverse]
  have padded : Padded (trim s) (s.takeWhile isBlank ++ trim s ++
      ((trimLeft s).reverse.takeWhile isBlank).reverse) :=
    .around _ _ blank fun c mem => blank c (List.mem_reverse.mp mem)
  rwa [List.append_assoc, back, front] at padded

end Text

namespace Whole

theorem unsignedSolid {s : List Char} {n : Nat} (told : Unsigned s n) :
    ∀ c ∈ s, Text.isBlank c = false := by
  cases told with
  | bare digits => exact fun c mem => digitNotBlank (digits.digits c mem)
  | plus digits =>
    exact List.forall_mem_cons.mpr ⟨by decide, fun c mem => digitNotBlank (digits.digits c mem)⟩

theorem signedSolid {s : List Char} {n : Int} (told : Signed s n) :
    ∀ c ∈ s, Text.isBlank c = false := by
  cases told with
  | unsigned told => exact unsignedSolid told
  | minus digits =>
    exact List.forall_mem_cons.mpr ⟨by decide, fun c mem => digitNotBlank (digits.digits c mem)⟩

def Shows (text : List Char) (n : Nat) : Prop := ∃ s, Unsigned s n ∧ Text.Padded s text

theorem showsTrim {text : List Char} {n : Nat} (shows : Shows text n) : Unsigned (Text.trim text) n := by
  obtain ⟨s, told, padded⟩ := shows
  rwa [Text.paddedTrim padded (Text.trimSolid (unsignedSolid told))]

end Whole

namespace Json

theorem noStringIff {j : Json} : j.string? = none ↔ ∀ s, j ≠ .string s := by
  rw [Option.eq_none_iff_forall_ne_some]
  exact forall_congr' fun s => not_congr stringIff

end Json

namespace Payload

inductive SpellsText (item : Json) (name other : String) : String → Prop where
  | first {s} (given : item.field name = .string s) : SpellsText item name other s
  | second {s} (noFirst : ∀ t, item.field name ≠ .string t) (given : item.field other = .string s) :
      SpellsText item name other s

theorem textIff {item : Json} {name other s : String} :
    (item.field name).string?.or (item.field other).string? = some s ↔
      SpellsText item name other s := by
  rw [Option.or_eq_some_iff, Json.stringIff, Json.stringIff, Json.noStringIff]
  constructor
  · rintro (given | ⟨noFirst, given⟩)
    · exact .first given
    · exact .second noFirst given
  · rintro (given | ⟨noFirst, given⟩)
    · exact .inl given
    · exact .inr ⟨noFirst, given⟩

/- A count is a number, its digits in a text, or unknown. A field that is left out counts as null. -/
inductive SpellsCount : Json → Option UInt32 → Prop where
  | number (n : UInt32) : SpellsCount (.int n.toNat) (some n)
  | text {s : String} {n : UInt32} (shows : Whole.Shows s.toList n.toNat) :
      SpellsCount (.string s) (some n)
  | unknown : SpellsCount .null none

inductive SpellsInstant : Json → Instant → Prop where
  | number (t) (whole : t.nanos = 0) : SpellsInstant (.int t.seconds) t
  | text (t) {digits} {s : String} (whole : t.nanos = 0) (told : Whole.Signed digits t.seconds)
      (padded : Text.Padded digits s.toList) : SpellsInstant (.string s) t

theorem countRead {j : Json} {count : Option UInt32} (spelled : SpellsCount j count) :
    uint32? j = count := by
  cases spelled with
  | number n => exact uint32Iff.mpr (.number n)
  | text shows => exact uint32Iff.mpr (.text (Whole.showsTrim shows))
  | unknown => rfl

theorem countSpelled (count : Option UInt32) : ∃ j, SpellsCount j count := by
  cases count with
  | none => exact ⟨_, .unknown⟩
  | some n => exact ⟨_, .number n⟩

theorem instantRead {j : Json} {t : Instant} (spelled : SpellsInstant j t) :
    instant? j = some t := by
  refine instantIff.mpr ?_
  cases spelled with
  | number t whole => exact ⟨.whole t.seconds, whole⟩
  | text t whole told padded =>
    have trimmed := Text.paddedTrim padded (Text.trimSolid (Whole.signedSolid told))
    exact ⟨.wholeText (trimmed ▸ told), whole⟩

def Epoch (j : Json) (n : Int) : Prop :=
  SaysSeconds j n ∧ Instant.minSeconds ≤ n ∧ n ≤ Instant.maxSeconds

theorem epochIff {j : Json} {t : Instant} :
    instant? j = some t ↔ Epoch j t.seconds ∧ t.nanos = 0 := by
  obtain ⟨low, high, _⟩ := t.admitted
  rw [instantIff]
  constructor
  · exact fun ⟨told, whole⟩ => ⟨⟨told, low, high⟩, whole⟩
  · exact fun ⟨⟨told, _⟩, whole⟩ => ⟨told, whole⟩

theorem instantTold {j : Json} : (∃ t, instant? j = some t) ↔ ∃ n, Epoch j n := by
  constructor
  · exact fun ⟨t, read⟩ => ⟨t.seconds, (epochIff.mp read).1⟩
  · rintro ⟨n, told⟩
    let t : Instant := ⟨n, 0, told.2.1, told.2.2, .inl (by decide)⟩
    exact ⟨t, epochIff.mpr ⟨told, rfl⟩⟩

theorem noEpoch {j : Json} : (∀ n, ¬ Epoch j n) ↔ instant? j = none := by
  rw [← not_exists, ← instantTold, not_exists, Option.eq_none_iff_forall_ne_some]

theorem instantWhole {j : Json} {t : Instant} (spelled : SpellsInstant j t) : t.nanos = 0 :=
  (epochIff.mp (instantRead spelled)).2

end Payload

section Lists
variable {α β : Type} {R : α → β → Prop} {xs : List α} {ys : List β}

theorem filterMapSpelled {f : α → Option β} (each : List.Forall₂ R xs ys)
    (read : ∀ x y, R x y → f x = some y) : xs.filterMap f = ys := by
  induction each with
  | nil => rfl
  | cons head _ ih => rw [List.filterMap_cons_some (read _ _ head), ih]

theorem listSpelled (each : ∀ y ∈ ys, ∃ x, R x y) : ∃ xs, List.Forall₂ R xs ys := by
  induction ys with
  | nil => exact ⟨[], .nil⟩
  | cons y ys ih =>
    have ⟨⟨x, head⟩, tail⟩ := List.forall_mem_cons.mp each
    obtain ⟨xs, rest⟩ := ih tail
    exact ⟨x :: xs, .cons head rest⟩

theorem spelledMem (each : List.Forall₂ R xs ys) {y : β} (mem : y ∈ ys) : ∃ x ∈ xs, R x y := by
  obtain ⟨i, inside, rfl⟩ := List.mem_iff_getElem.mp mem
  have within : i < xs.length := each.length_eq ▸ inside
  exact ⟨xs[i], List.getElem_mem within, List.forall₂_iff_get.mp each |>.2 i within inside⟩

end Lists
end MatchGuide
