import MatchGuide.Payload

/-! What the text of a number says, apart from how it is read. The readers answer exactly what is
said, and what is written is read back. -/
namespace MatchGuide

namespace Whole

structure Numeral (s : List Char) (n : Nat) : Prop where
  filled : s ≠ []
  digits : ∀ c ∈ s, c.isDigit = true
  value : Nat.ofDigitChars 10 s 0 = n

inductive Unsigned : List Char → Nat → Prop where
  | bare {s n} (digits : Numeral s n) : Unsigned s n
  | plus {s n} (digits : Numeral s n) : Unsigned ('+' :: s) n

inductive Signed : List Char → Int → Prop where
  | unsigned {s n} (told : Unsigned s n) : Signed s n
  | minus {s n} (digits : Numeral s n) : Signed ('-' :: s) (-n)

theorem digitRead (c : Char) : digit? c = if c.isDigit then some (c.toNat - '0'.toNat) else none := by
  unfold digit?
  have same : ('0' ≤ c ∧ c ≤ '9') ↔ c.isDigit = true := by
    simp [Char.isDigit, Char.le_def]
  by_cases h : c.isDigit = true
  · rw [if_pos (same.2 h), if_pos h]
    rfl
  · rw [if_neg (not_congr same |>.2 h), if_neg h]

theorem digitsRead {s : List Char} (all : ∀ c ∈ s, c.isDigit = true) :
    s.mapM digit? = some (s.map fun c => c.toNat - '0'.toNat) := by
  induction s with
  | nil => rfl
  | cons c rest ih =>
    have ⟨head, tail⟩ := List.forall_mem_cons.1 all
    simp [List.mapM_cons, digitRead, head, ih tail]

theorem readDigits {s : List Char} {ds : List Nat} (read : s.mapM digit? = some ds) :
    ∀ c ∈ s, c.isDigit = true := by
  induction s generalizing ds with
  | nil => simp
  | cons c rest ih =>
    simp only [List.mapM_cons, Option.bind_eq_bind, Option.bind_eq_some_iff, digitRead] at read
    obtain ⟨d, digit, tail, read, _⟩ := read
    refine List.forall_mem_cons.2 ⟨?_, ih read⟩
    split at digit
    · assumption
    · contradiction

theorem valueOfDigits (s : List Char) :
    valueOf (s.map fun c => c.toNat - '0'.toNat) = Nat.ofDigitChars 10 s 0 := by
  rw [valueOf, List.foldl_map, Nat.ofDigitChars_eq_foldl]

theorem digitsIff {s : List Char} {n : Nat} : (digits? s).map valueOf = some n ↔ Numeral s n := by
  constructor
  · intro h
    simp only [digits?, Option.map_eq_some_iff, Option.bind_eq_bind, Option.bind_eq_some_iff] at h
    obtain ⟨ds, ⟨digits, read, full⟩, value⟩ := h
    have all := readDigits read
    rw [digitsRead all] at read
    obtain rfl := Option.some.inj read
    split at full
    · contradiction
    obtain rfl := Option.some.inj full
    rename_i filled
    exact ⟨by simpa using filled, all, by rwa [valueOfDigits] at value⟩
  · rintro ⟨filled, all, value⟩
    simp only [digits?, digitsRead all, Option.bind_eq_bind, Option.bind_some, List.isEmpty_iff,
      List.map_eq_nil_iff, if_neg filled, Option.map_some, valueOfDigits, value]

theorem numeralHead {c : Char} {s : List Char} {n : Nat} (h : Numeral (c :: s) n) :
    c.isDigit = true := h.digits c List.mem_cons_self

theorem naturalIff {s : List Char} {n : Nat} : natural? s = some n ↔ Unsigned s n := by
  unfold natural?
  split
  · rename_i rest
    rw [digitsIff]
    constructor
    · exact .plus
    · rintro (digits | digits)
      · exact absurd (numeralHead digits) (by decide)
      · exact digits
  · rename_i noPlus
    rw [digitsIff]
    constructor
    · exact .bare
    · intro h
      cases h with
      | bare digits => exact digits
      | plus digits => exact absurd rfl (noPlus _)

theorem integerIff {s : List Char} {n : Int} : integer? s = some n ↔ Signed s n := by
  unfold integer?
  split
  · rename_i rest
    constructor
    · intro h
      obtain ⟨ds, read, rfl⟩ := Option.map_eq_some_iff.1 h
      exact .minus (digitsIff.1 (by rw [read]; rfl))
    · rintro (told | digits)
      · rcases told with digits | digits
        exact absurd (numeralHead digits) (by decide)
      · obtain ⟨ds, read, rfl⟩ := Option.map_eq_some_iff.1 (digitsIff.2 digits)
        rw [read]
        rfl
  · rename_i noMinus
    constructor
    · intro h
      obtain ⟨m, read, rfl⟩ := Option.map_eq_some_iff.1 h
      exact .unsigned (naturalIff.1 read)
    · intro h
      cases h with
      | unsigned told => rw [naturalIff.2 told]; rfl
      | minus digits => exact absurd rfl (noMinus _)

theorem uint32Iff {s : List Char} {n : UInt32} : uint32? s = some n ↔ Unsigned s n.toNat := by
  simp only [uint32?, Option.bind_eq_bind, Option.bind_eq_some_iff]
  constructor
  · rintro ⟨m, read, fits⟩
    split at fits
    · rename_i small
      obtain rfl := Option.some.inj fits
      rwa [UInt32.toNat_ofNat_of_lt' small, ← naturalIff]
    · contradiction
  · intro told
    refine ⟨n.toNat, naturalIff.2 told, ?_⟩
    rw [if_pos n.toNat_lt_size, UInt32.ofNat_toNat]

theorem charsNumeral (n : Nat) : Numeral (chars n) n where
  filled := Nat.toDigits_ne_nil
  digits := fun _ mem => Nat.isDigit_of_mem_toDigits (by decide) (by decide) mem
  value := Nat.ofDigitChars_ten_toDigits

theorem unsignedUnique {s : List Char} {m n : Nat} (first : Unsigned s m) (second : Unsigned s n) :
    m = n := Option.some.inj ((naturalIff.2 first).symm.trans (naturalIff.2 second))

theorem digitNotBlank {c : Char} (digit : c.isDigit = true) : Text.isBlank c = false := by
  have ⟨low, high⟩ := Char.isDigit_iff_toNat.1 digit
  simp only [Char.reduceToNat] at low high
  simp [Text.isBlank, Text.blankRanges]
  omega

theorem numeralTrimmed {s : List Char} {n : Nat} (digits : Numeral s n) (left right : List Char)
    (before : ∀ c ∈ left, Text.isBlank c = true) (after : ∀ c ∈ right, Text.isBlank c = true) :
    Text.trim (left ++ s ++ right) = s := by
  refine Text.trimPadded before after ?_ ?_
  · exact fun c mem => digitNotBlank (digits.digits c (List.mem_of_mem_head? mem))
  · exact fun c mem => digitNotBlank (digits.digits c (List.mem_of_mem_getLast? mem))

end Whole

namespace Payload
open Whole

inductive SaysUInt32 : Json → UInt32 → Prop where
  | number (n) : SaysUInt32 (.int n.toNat) n
  | text {s : String} {n} (digits : Unsigned (Text.trim s.toList) n.toNat) :
      SaysUInt32 (.string s) n

/- Seconds as a whole number, a number with its fraction dropped, or a text of either with blanks
around it. A whole number in a text is taken as it is; only other decimals are rounded. -/
inductive SaysSeconds : Json → Int → Prop where
  | whole (n) : SaysSeconds (.int n) n
  | number (x) : SaysSeconds (.float x) x.trunc
  | wholeText {s : String} {n} (digits : Signed (Text.trim s.toList) n) : SaysSeconds (.string s) n
  | decimalText {s : String} {d : Decimal} {x} (other : ∀ n, ¬ Signed (Text.trim s.toList) n)
      (decimal : Decimal.read? (Text.trim s.toList) = some d) (nearest : d.toBinary64? = some x) :
      SaysSeconds (.string s) x.trunc

theorem uint32Iff {j : Json} {n : UInt32} : uint32? j = some n ↔ SaysUInt32 j n := by
  constructor
  · intro h
    cases j with
    | int m =>
      simp only [uint32?] at h
      split at h
      · rename_i fits
        obtain rfl := Option.some.inj h
        have back : (m.toNat : Int) = m := Int.toNat_of_nonneg fits.1
        have small : m.toNat < UInt32.size := by omega
        have told := SaysUInt32.number (.ofNat m.toNat)
        rwa [UInt32.toNat_ofNat_of_lt' small, back] at told
      · contradiction
    | string s => exact .text (Whole.uint32Iff.1 h)
    | null | bool _ | float _ | array _ | object _ => contradiction
  · rintro (n | digits)
    · have fits : (0 : Int) ≤ n.toNat ∧ (n.toNat : Int) < UInt32.size :=
        ⟨Int.natCast_nonneg _, Int.ofNat_lt.2 n.toNat_lt_size⟩
      simp only [uint32?, if_pos fits, Int.toNat_natCast, UInt32.ofNat_toNat]
    · exact Whole.uint32Iff.2 digits

theorem secondsIff {j : Json} {n : Int} : seconds? j = some n ↔ SaysSeconds j n := by
  constructor
  · intro h
    cases j with
    | int m => obtain rfl := Option.some.inj h; exact .whole m
    | float x => obtain rfl := Option.some.inj h; exact .number x
    | string s =>
      simp only [seconds?, secondsOfText?] at h
      split at h
      · rename_i m read
        obtain rfl := Option.some.inj h
        exact .wholeText (integerIff.1 read)
      · rename_i other
        simp only [Option.map_eq_some_iff, Option.bind_eq_some_iff] at h
        obtain ⟨x, ⟨d, decimal, nearest⟩, rfl⟩ := h
        refine .decimalText (fun m digits => ?_) decimal nearest
        rw [integerIff.2 digits] at other
        contradiction
    | null | bool _ | array _ | object _ => contradiction
  · intro told
    cases told with
    | whole => rfl
    | number => rfl
    | wholeText digits => simp only [seconds?, secondsOfText?, integerIff.2 digits]
    | @decimalText s d x other decimal nearest =>
      have none : integer? (Text.trim s.toList) = none :=
        Option.eq_none_iff_forall_ne_some.2 fun m read => other m (integerIff.1 read)
      simp only [seconds?, secondsOfText?, none, decimal, Option.bind_some, nearest, Option.map_some]

theorem instantIff {j : Json} {t : Instant} :
    instant? j = some t ↔ SaysSeconds j t.seconds ∧ t.nanos = 0 := by
  obtain ⟨seconds, nanos, admitted⟩ := t
  simp only [instant?, Option.bind_eq_some_iff, secondsIff]
  constructor
  · rintro ⟨n, told, reached⟩
    simp only [Instant.ofSeconds?, Instant.of?] at reached
    split at reached
    · cases Option.some.inj reached
      exact ⟨told, rfl⟩
    · contradiction
  · rintro ⟨told, rfl⟩
    exact ⟨seconds, told, dif_pos admitted⟩

end Payload
end MatchGuide
