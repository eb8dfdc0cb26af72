import MatchGuide.Calendar.Instant
import MatchGuide.Proofs.TableText
import Mathlib.Data.Int.Init
import Mathlib.Data.Nat.Digits.Defs

/-! Dates as a calendar counts them: each day follows the one before by the lengths of the months and
the rule for leap years. What is written of an instant tells its day, and with the clock its
minute. -/
namespace MatchGuide

namespace Date

def IsLeap (year : Int) : Prop := year % 4 = 0 ∧ (year % 100 = 0 → year % 400 = 0)

instance (year : Int) : Decidable (IsLeap year) := by unfold IsLeap; infer_instance

def monthLength (leap : Bool) (month : Nat) : Nat :=
  if month = 2 then (if leap then 29 else 28)
  else if month = 4 ∨ month = 6 ∨ month = 9 ∨ month = 11 then 30
  else 31

theorem monthLengthMax (leap : Bool) (month : Nat) : monthLength leap month ≤ 31 := by
  unfold monthLength
  cases leap <;> grind

def lastDay (d : Date) : Nat := monthLength (IsLeap d.year) d.month

structure Valid (d : Date) : Prop where
  month : 1 ≤ d.month ∧ d.month ≤ 12
  day : 1 ≤ d.day ∧ d.day ≤ d.lastDay

def next (d : Date) : Date :=
  if d.day < d.lastDay then { d with day := d.day + 1 }
  else if d.month < 12 then ⟨d.year, d.month + 1, 1⟩
  else ⟨d.year + 1, 1, 1⟩

inductive Falls : Int → Date → Prop where
  | epoch : Falls 0 ⟨1970, 1, 1⟩
  | later {n d} (before : Falls n d) : Falls (n + 1) d.next
  | earlier {n d} (valid : d.Valid) (after : Falls (n + 1) d.next) : Falls n d

theorem nextCases {d : Date} (valid : d.Valid) :
    (d.day < d.lastDay ∧ d.next = ⟨d.year, d.month, d.day + 1⟩) ∨
    (d.day = d.lastDay ∧ d.month < 12 ∧ d.next = ⟨d.year, d.month + 1, 1⟩) ∨
    (d.day = d.lastDay ∧ d.month = 12 ∧ d.next = ⟨d.year + 1, 1, 1⟩) := by
  have ⟨_, latest⟩ := valid.month
  have ⟨_, within⟩ := valid.day
  by_cases more : d.day < d.lastDay
  · exact .inl ⟨more, if_pos more⟩
  · have last : d.day = d.lastDay := by omega
    by_cases month : d.month < 12
    · exact .inr (.inl ⟨last, month, by rw [next, if_neg more, if_pos month]⟩)
    · exact .inr (.inr ⟨last, by omega, by rw [next, if_neg more, if_neg month]⟩)

theorem nextUnique {d e : Date} (valid : d.Valid) (also : e.Valid) (same : d.next = e.next) :
    d = e := by
  have ⟨_, _⟩ := valid.month
  have ⟨_, _⟩ := also.month
  have ⟨_, _⟩ := valid.day
  have ⟨_, _⟩ := also.day
  have forward := nextCases valid
  have onward := nextCases also
  obtain ⟨year, month, day⟩ := d
  obtain ⟨year', month', day'⟩ := e
  simp only [lastDay] at *
  grind

/-! A year that begins in March has its leap day at the end, so that its other days stand where they
stand in every year. -/

def marchStart (year : Int) : Int := 365 * year + year / 4 - year / 100 + year / 400

def marchLength (year : Int) : Nat := 365 + (decide (IsLeap (year + 1))).toNat

theorem marchStartNext (year : Int) :
    marchStart (year + 1) = marchStart year + marchLength year := by
  unfold marchStart marchLength
  by_cases leap : IsLeap (year + 1)
  · rw [decide_eq_true leap, Bool.toNat_true]
    unfold IsLeap at leap
    omega
  · rw [decide_eq_false leap, Bool.toNat_false]
    unfold IsLeap at leap
    omega

structure OnMarch (n year : Int) (day : Nat) : Prop where
  counted : n + marchShift = marchStart year + day
  within : day < marchLength year

def ofMarch (year : Int) (dayOfYear : Nat) : Date :=
  let march := (5 * dayOfYear + 2) / 153
  let month := if march < 10 then march + 3 else march - 9
  ⟨if month ≤ 2 then year + 1 else year, month, dayOfYear - (153 * march + 2) / 5 + 1⟩

theorem marchStartParts (era : Int) {century cycle year : Nat} (centuries : century < 4)
    (cycles : cycle < 25) (years : year < 4) :
    marchStart (400 * era + (100 * century + 4 * cycle + year : Nat)) =
      146097 * era + (36524 * century + 1461 * cycle + 365 * year : Nat) := by
  unfold marchStart
  omega

theorem onMarchExists (n : Int) : ∃ year day, OnMarch n year day := by
  obtain ⟨era, inEra, whole, fits⟩ :
      ∃ (era : Int) (inEra : Nat), n + marchShift = 146097 * era + inEra ∧ inEra < 146097 :=
    ⟨(n + marchShift) / 146097, ((n + marchShift) % 146097).toNat, by omega, by omega⟩
  -- The fourth century of an era and the fourth year of a cycle may have a day more.
  obtain ⟨century, inCentury, centuries, centuryFits⟩ : ∃ century inCentury,
      inEra = 36524 * century + inCentury ∧
        century < 4 ∧ (inCentury < 36524 ∨ inCentury = 36524 ∧ century = 3) :=
    ⟨min (inEra / 36524) 3, inEra - 36524 * min (inEra / 36524) 3, by omega, by omega, by omega⟩
  obtain ⟨cycle, inCycle, cycles, cycleFits⟩ : ∃ cycle inCycle,
      inCentury = 1461 * cycle + inCycle ∧ cycle < 25 ∧ inCycle < 1461 :=
    ⟨inCentury / 1461, inCentury % 1461, by omega, by omega, by omega⟩
  obtain ⟨year, day, years, yearFits⟩ : ∃ year day,
      inCycle = 365 * year + day ∧ year < 4 ∧ (day < 365 ∨ day = 365 ∧ year = 3) :=
    ⟨min (inCycle / 365) 3, inCycle - 365 * min (inCycle / 365) 3, by omega, by omega, by omega⟩
  refine ⟨400 * era + (100 * century + 4 * cycle + year : Nat), day, ?_, ?_⟩
  · rw [marchStartParts era centuryFits.1 cycleFits.1 yearFits.1]
    omega
  · unfold marchLength
    by_cases leap : IsLeap (400 * era + (100 * century + 4 * cycle + year : Nat) + 1)
    · rw [decide_eq_true leap, Bool.toNat_true]
      omega
    · rw [decide_eq_false leap, Bool.toNat_false]
      unfold IsLeap at leap
      omega

/- The year within an era is found from the days with one in each year of a cycle, century and era
left out. -/
theorem yearRead {century cycle year day : Nat} (centuries : century < 4) (cycles : cycle < 25)
    (years : year < 4) (days : day < 366)
    (leap : day = 365 → year = 3 ∧ (cycle = 24 → century = 3)) :
    yearOfEra (36524 * century + 1461 * cycle + 365 * year + day) =
      (100 * century + 4 * cycle + year, day) := by
  generalize whole : 36524 * century + 1461 * cycle + 365 * year + day = n
  have found : (n - n / 1460 + n / 36524 - n / 146096) / 365 = 100 * century + 4 * cycle + year := by
    have longer : n - n / 1460 + n / 36524 - n / 146096 = n - n / 1460 + century := by omega
    have shorter : n / 1460 = 25 * century + cycle ∨ n / 1460 = 25 * century + cycle + 1 := by omega
    rw [longer]
    rcases shorter with same | more
    · have early : day ≤ 364 := by omega
      rw [same]
      omega
    · have late : 1 ≤ day := by omega
      rw [more]
      omega
  have quarters : (100 * century + 4 * cycle + year) / 4 = 25 * century + cycle := by omega
  have hundreds : (100 * century + 4 * cycle + year) / 100 = century := by omega
  simp only [yearOfEra, found, quarters, hundreds, Prod.mk.injEq, true_and]
  omega

theorem onMarchRead {n year : Int} {day : Nat} (on : OnMarch n year day) :
    ofDay n = ofMarch year day := by
  obtain ⟨counted, within⟩ := on
  obtain ⟨era, century, cycle, inCycle, parted, fits⟩ : ∃ (era : Int) (century cycle inCycle : Nat),
      year = 400 * era + (100 * century + 4 * cycle + inCycle : Nat) ∧
        century < 4 ∧ cycle < 25 ∧ inCycle < 4 :=
    ⟨year / 400, (year % 400 / 100).toNat, (year % 100 / 4).toNat, (year % 4).toNat,
      by omega, by omega, by omega, by omega⟩
  obtain ⟨centuries, cycles, years⟩ := fits
  have days : day < 366 ∧ (day = 365 → inCycle = 3 ∧ (cycle = 24 → century = 3)) := by
    unfold marchLength at within
    by_cases leap : IsLeap (year + 1)
    · rw [decide_eq_true leap, Bool.toNat_true] at within
      unfold IsLeap at leap
      omega
    · rw [decide_eq_false leap, Bool.toNat_false] at within
      omega
  have start : n + marchShift =
      146097 * era + (36524 * century + 1461 * cycle + 365 * inCycle + day : Nat) := by
    rw [counted, parted, marchStartParts era centuries cycles years]
    omega
  have eras : (n + marchShift).fdiv eraDays = era := by
    rw [start, Int.fdiv_eq_ediv_of_nonneg _ (by decide), eraDays]
    omega
  have rest : ((n + marchShift).fmod eraDays).toNat =
      36524 * century + 1461 * cycle + 365 * inCycle + day := by
    rw [start, Int.fmod_eq_emod_of_nonneg _ (by decide), eraDays]
    omega
  simp only [ofDay, eras, rest, yearRead centuries cycles years days.1 days.2, ofMarch, mk.injEq,
    and_true]
  generalize (if (5 * day + 2) / 153 < 10 then (5 * day + 2) / 153 + 3
    else (5 * day + 2) / 153 - 9) = month
  split <;> omega

theorem monthsRun : ∀ leap : Bool, ∀ n < 365 + leap.toNat,
    let d := ofMarch 0 n
    let e := ofMarch 0 (n + 1)
    let last := monthLength leap d.month
    1 ≤ d.month ∧ d.month ≤ 12 ∧ 1 ≤ d.day ∧ d.day ≤ last ∧
    if n + 1 = 365 + leap.toNat then d.month = 2 ∧ d.day = last
    else if d.day < last then e.month = d.month ∧ e.day = d.day + 1
    else d.month ≠ 2 ∧ e.month = d.month % 12 + 1 ∧ e.day = 1 := by
  decide +kernel

theorem ofMarchLast (year : Int) (day : Nat) :
    (ofMarch year day).lastDay =
      monthLength (IsLeap (year + 1)) (ofMarch 0 day).month := by
  by_cases early : (ofMarch 0 day).month ≤ 2
  · have years : (ofMarch year day).year = year + 1 := if_pos early
    rw [lastDay, years]
    rfl
  · have february : (ofMarch 0 day).month ≠ 2 := by omega
    simp only [lastDay, monthLength, if_neg february]
    exact if_neg february

theorem ofMarchValid {year : Int} {day : Nat} (within : day < marchLength year) :
    (ofMarch year day).Valid := by
  obtain ⟨low, high, first, last, _⟩ := monthsRun _ day within
  exact ⟨⟨low, high⟩, first, ofMarchLast year day ▸ last⟩

theorem ofMarchNext {year : Int} {day : Nat} (within : day < marchLength year) :
    (ofMarch year day).next =
      if day + 1 = marchLength year then ofMarch (year + 1) 0 else ofMarch year (day + 1) := by
  obtain ⟨_, _, _, _, after⟩ := monthsRun _ day within
  rw [← ofMarchLast] at after
  have parts (n : Nat) : ofMarch year n = ⟨if (ofMarch 0 n).month ≤ 2 then year + 1 else year,
    (ofMarch 0 n).month, (ofMarch 0 n).day⟩ := rfl
  have march : ofMarch (year + 1) 0 = ⟨year + 1, 3, 1⟩ := rfl
  rcases nextCases (ofMarchValid within) with ⟨more, next⟩ | ⟨last, month, next⟩ | ⟨last, month, next⟩
  all_goals
    rw [next, march, parts day, parts (day + 1)]
    rw [parts day] at *
    unfold marchLength
    grind

theorem ofDayValid (n : Int) : (ofDay n).Valid := by
  obtain ⟨year, day, on⟩ := onMarchExists n
  rw [onMarchRead on]
  exact ofMarchValid on.within

theorem ofDayNext (n : Int) : ofDay (n + 1) = (ofDay n).next := by
  obtain ⟨year, day, on⟩ := onMarchExists n
  have ⟨counted, within⟩ := on
  rw [onMarchRead on, ofMarchNext within]
  split
  · rename_i last
    refine onMarchRead ⟨?_, ?_⟩
    · rw [marchStartNext]
      omega
    · unfold marchLength
      omega
  · refine onMarchRead ⟨?_, ?_⟩ <;> omega

theorem fallsIff {n : Int} {d : Date} : Falls n d ↔ ofDay n = d := by
  constructor
  · intro falls
    induction falls with
    | epoch => decide
    | later before ih => rw [ofDayNext, ih]
    | @earlier n d valid after ih =>
      rw [ofDayNext] at ih
      exact nextUnique (ofDayValid n) valid ih
  · rintro rfl
    induction n using Int.induction_on with
    | zero => exact .epoch
    | succ n ih => exact ofDayNext n ▸ ih.later
    | pred n ih =>
      refine .earlier (ofDayValid _) ?_
      rwa [← ofDayNext, Int.sub_add_cancel]

theorem toDayOfDay (n : Int) : (ofDay n).toDay = n := by
  obtain ⟨year, day, on⟩ := onMarchExists n
  have within : day < 366 := by
    have fits := on.within
    have leap := Bool.toNat_le (decide (IsLeap (year + 1)))
    unfold marchLength at fits
    omega
  have counted := on.counted
  have floor (a : Int) {b : Int} (positive : 0 ≤ b) : a.fdiv b = a / b ∧ a.fmod b = a % b :=
    ⟨Int.fdiv_eq_ediv_of_nonneg a positive, Int.fmod_eq_emod_of_nonneg a positive⟩
  rw [onMarchRead on]
  unfold marchStart at counted
  simp (disch := decide) only [toDay, ofMarch, floor, eraDays]
  by_cases early : (5 * day + 2) / 153 < 10
  · have late : ¬ (5 * day + 2) / 153 + 3 ≤ 2 := by omega
    have later : 2 < (5 * day + 2) / 153 + 3 := by omega
    simp only [if_pos early, if_neg late, if_pos later]
    omega
  · have soon : (5 * day + 2) / 153 - 9 ≤ 2 := by omega
    have sooner : ¬ 2 < (5 * day + 2) / 153 - 9 := by omega
    simp only [if_neg early, if_pos soon, if_neg sooner, Int.add_sub_cancel]
    omega

theorem ofDayUnique {m n : Int} (same : ofDay m = ofDay n) : m = n := by
  rw [← toDayOfDay m, same, toDayOfDay]

theorem monthNameUnique {m n : Nat} (some : 1 ≤ m ∧ m ≤ 12) (other : 1 ≤ n ∧ n ≤ 12)
    (same : monthName m = monthName n) : m = n := by
  have all : ∀ m < 13, ∀ n < 13, 1 ≤ m → 1 ≤ n → monthName m = monthName n → m = n := by decide
  exact all m (by omega) n (by omega) some.1 other.1 same

theorem monthNamePlain (m : Nat) : ' ' ∉ (monthName m).toList := by
  have all : ∀ name ∈ "" :: monthNames, ' ' ∉ name.toList := by decide
  refine all _ ?_
  unfold monthName
  cases held : monthNames[m - 1]? with
  | none => exact List.mem_cons_self
  | some name => exact List.mem_cons_of_mem _ (List.mem_of_getElem? held)

end Date

namespace Whole

theorem numeralUnique {s : List Char} {m n : Nat} (first : Numeral s m) (second : Numeral s n) :
    m = n := first.value.symm.trans second.value

theorem numeralLacks {s : List Char} {n : Nat} (digits : Numeral s n) {c : Char}
    (other : c.isDigit = false) : c ∉ s := fun mem => by
  rw [digits.digits c mem] at other
  contradiction

theorem paddedNumeral (width n : Nat) : Numeral (padded width n) n where
  filled := by simp [padded, (charsNumeral n).filled]
  digits c mem := by
    rcases List.mem_append.mp mem with zero | digit
    · rw [(List.mem_replicate.mp zero).2]
      rfl
    · exact (charsNumeral n).digits c digit
  value := by
    have zeros (k : Nat) : Nat.ofDigitChars 10 (List.replicate k '0') 0 = 0 := by
      induction k with
      | zero => rfl
      | succ k ih => simpa [List.replicate_succ, Nat.ofDigitChars_eq_foldl] using ih
    rw [padded, Nat.ofDigitChars_append, zeros, (charsNumeral n).value]

theorem paddedLength {width n : Nat} (some : 0 < width) (fits : n < 10 ^ width) :
    (padded width n).length = width := by
  have short : (chars n).length ≤ width := Nat.toDigits_length 10 n width some fits
  rw [padded, List.length_append, List.length_replicate]
  omega

end Whole

namespace Date

inductive ShowsYear : List Char → Int → Prop where
  | four {s n} (digits : Whole.Numeral s n) (length : s.length = 4) : ShowsYear s n
  | before {s} {n : Nat} (digits : Whole.Numeral s n) (length : 4 ≤ s.length) (some : 0 < n) :
      ShowsYear ('-' :: s) (-n)
  | beyond {s} {n : Nat} (digits : Whole.Numeral s n) (more : 9999 < n) : ShowsYear ('+' :: s) n

inductive Shows : List Char → Date → Prop where
  | parts {day name year d} (days : Whole.Numeral day d.day) (bare : day.head? ≠ some '0')
      (month : monthNames[d.month - 1]? = some name) (years : ShowsYear year d.year) :
      Shows (day ++ ' ' :: (name.toList ++ ' ' :: year)) d

theorem yearShown (year : Int) : ShowsYear (yearChars year) year := by
  unfold yearChars
  split
  · rename_i negative
    have wide : 4 ≤ (Whole.padded 4 year.natAbs).length := by
      rw [Whole.padded, List.length_append, List.length_replicate]
      omega
    have shown := ShowsYear.before (Whole.paddedNumeral 4 year.natAbs) wide (by omega)
    rwa [show -(year.natAbs : Int) = year by omega] at shown
  · rename_i since
    have same : (year.natAbs : Int) = year := by omega
    split
    · exact same ▸ .four (Whole.paddedNumeral 4 year.natAbs)
        (Whole.paddedLength (by decide) (by omega))
    · exact same ▸ .beyond (Whole.paddedNumeral 4 year.natAbs) (by omega)

theorem charsShown {d : Date} (valid : d.Valid) : Shows d.chars d := by
  have ⟨early, late⟩ := valid.month
  have ⟨first, last⟩ := valid.day
  have short : d.lastDay ≤ 31 := monthLengthMax _ _
  have bare : ∀ n < 32, 1 ≤ n → (Whole.chars n).head? ≠ some '0' := by decide
  have inside : d.month - 1 < monthNames.length := by
    rw [show monthNames.length = 12 from rfl]
    omega
  have shown := Shows.parts (Whole.charsNumeral d.day) (bare d.day (by omega) first)
    (List.getElem?_eq_getElem inside) (yearShown d.year)
  simpa [chars, monthName, inside] using shown

theorem ShowsYear.signed {s : List Char} {year : Int} (shown : ShowsYear s year) :
    Whole.Signed s year := by
  cases shown with
  | four digits => exact .unsigned (.bare digits)
  | before digits => exact .minus digits
  | beyond digits => exact .unsigned (.plus digits)

theorem charsUnique {d e : Date} (valid : d.Valid) (also : e.Valid) (same : d.chars = e.chars) :
    d = e := by
  have blank : ' '.isDigit = false := rfl
  simp only [chars, List.append_assoc, List.cons_append] at same
  obtain ⟨day, rest⟩ := (Text.partIff (Whole.numeralLacks (Whole.charsNumeral d.day) blank)
    (Whole.numeralLacks (Whole.charsNumeral e.day) blank)).mp same
  obtain ⟨month, year⟩ := (Text.partIff (monthNamePlain _) (monthNamePlain _)).mp rest
  have days := Whole.numeralUnique (Whole.charsNumeral d.day) (day ▸ Whole.charsNumeral e.day)
  have months := monthNameUnique valid.month also.month (String.toList_inj.mp month)
  have read := Whole.integerIff.mpr (yearShown d.year).signed
  rw [year, Whole.integerIff.mpr (yearShown e.year).signed] at read
  have years := Option.some.inj read
  cases d
  cases e
  simp_all

end Date

namespace Instant

theorem dayTextIff (a b : Instant) : a.dayText = b.dayText ↔ a.day = b.day := by
  constructor
  · intro same
    exact Date.ofDayUnique (Date.charsUnique (Date.ofDayValid _) (Date.ofDayValid _)
      (String.ofList_injective same))
  · intro same
    rw [dayText, dayText, date, date, same]

theorem secondOfDayParts (t : Instant) :
    t.secondOfDay < 86400 ∧ t.seconds = 86400 * t.day + t.secondOfDay := by
  have floor : t.seconds.fdiv 86400 = t.seconds / 86400 ∧ t.seconds.fmod 86400 = t.seconds % 86400 :=
    ⟨Int.fdiv_eq_ediv_of_nonneg _ (by decide), Int.fmod_eq_emod_of_nonneg _ (by decide)⟩
  rw [secondOfDay, day, floor.1, floor.2]
  omega

theorem clockTextIff (a b : Instant) :
    a.clockText = b.clockText ↔ a.secondOfDay / 60 = b.secondOfDay / 60 := by
  have colon : ':'.isDigit = false := rfl
  constructor
  · intro same
    obtain ⟨hours, minutes⟩ := (Text.partIff
      (Whole.numeralLacks (Whole.paddedNumeral 2 (a.secondOfDay / 3600)) colon)
      (Whole.numeralLacks (Whole.paddedNumeral 2 (b.secondOfDay / 3600)) colon)).mp
      (String.ofList_injective same)
    have hour := Whole.numeralUnique (Whole.paddedNumeral 2 _) (hours ▸ Whole.paddedNumeral 2 _)
    have minute := Whole.numeralUnique (Whole.paddedNumeral 2 _) (minutes ▸ Whole.paddedNumeral 2 _)
    omega
  · intro same
    have hour : a.secondOfDay / 3600 = b.secondOfDay / 3600 := by omega
    rw [clockText, clockText, clockChars, clockChars, same, hour]

inductive ShowsClock : List Char → Nat → Nat → Prop where
  | parts {hours minutes hour minute} (two : hours.length = 2) (hourTold : Whole.Numeral hours hour)
      (also : minutes.length = 2) (minuteTold : Whole.Numeral minutes minute) :
      ShowsClock (hours ++ ':' :: minutes) hour minute

theorem clockShown (t : Instant) :
    ShowsClock t.clockText.toList (t.secondOfDay / 3600) (t.secondOfDay / 60 % 60) := by
  have ⟨early, _⟩ := t.secondOfDayParts
  rw [clockText, String.toList_ofList]
  exact .parts (Whole.paddedLength (by decide) (by omega)) (Whole.paddedNumeral 2 _)
    (Whole.paddedLength (by decide) (by omega)) (Whole.paddedNumeral 2 _)

theorem writtenToMinute (a b : Instant) :
    (a.dayText = b.dayText ∧ a.clockText = b.clockText ↔
      a.seconds.fdiv 60 = b.seconds.fdiv 60) ∧
    (a.dayText = b.dayText ↔ a.seconds.fdiv 86400 = b.seconds.fdiv 86400) ∧
    (∃ d, Date.Falls (a.seconds.fdiv 86400) d ∧ Date.Shows a.dayText.toList d) ∧
    ∃ hour minute second : Nat, hour < 24 ∧ minute < 60 ∧ second < 60 ∧
      a.seconds.fmod 86400 = 3600 * hour + 60 * minute + second ∧
      ShowsClock a.clockText.toList hour minute := by
  have ⟨early, parts⟩ := a.secondOfDayParts
  have ⟨soon, others⟩ := b.secondOfDayParts
  have shown : Date.Shows a.dayText.toList a.date := by
    rw [dayText, String.toList_ofList]
    exact Date.charsShown (Date.ofDayValid a.day)
  refine ⟨?_, dayTextIff a b, ⟨a.date, Date.fallsIff.mpr rfl, shown⟩, a.secondOfDay / 3600,
    a.secondOfDay / 60 % 60, a.secondOfDay % 60, by omega, by omega, by omega, ?_, clockShown a⟩
  · rw [dayTextIff, clockTextIff, Int.fdiv_eq_ediv_of_nonneg _ (by decide),
      Int.fdiv_eq_ediv_of_nonneg _ (by decide)]
    omega
  · rw [Int.fmod_eq_emod_of_nonneg _ (by decide)]
    omega

end Instant
end MatchGuide
