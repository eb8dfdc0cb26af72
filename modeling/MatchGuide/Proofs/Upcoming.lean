import MatchGuide.Fixture.Payload
import MatchGuide.Page.Schedule
import MatchGuide.Proofs.Numeral

/-! The fixture that comes next, by the clock. The schedule compares whole milliseconds; on kickoffs
as payloads give them this is the order of the instants themselves, except within a leap second,
which is counted into the second after it. -/
namespace MatchGuide

namespace Instant

/- A leap second stands behind the second it prolongs and before the next one. -/
instance : LT Instant where
  lt s t := s.seconds < t.seconds ∨ (s.seconds = t.seconds ∧ s.nanos < t.nanos)

instance : LE Instant where
  le s t := s.seconds < t.seconds ∨ (s.seconds = t.seconds ∧ s.nanos ≤ t.nanos)

theorem ltIff {s t : Instant} :
    s < t ↔ s.seconds < t.seconds ∨ (s.seconds = t.seconds ∧ s.nanos < t.nanos) := Iff.rfl

theorem leIff {s t : Instant} :
    s ≤ t ↔ s.seconds < t.seconds ∨ (s.seconds = t.seconds ∧ s.nanos ≤ t.nanos) := Iff.rfl

theorem notLt {s t : Instant} : ¬ s < t ↔ t ≤ s := by
  rw [ltIff, leIff]
  omega

instance (s t : Instant) : Decidable (s < t) := decidable_of_iff _ ltIff.symm

instance (s t : Instant) : Decidable (s ≤ t) := decidable_of_iff _ leIff.symm

def Regular (t : Instant) : Prop := t.nanos < 1000000000

def Whole (t : Instant) : Prop := t.nanos = 0

variable {now later kickoff : Instant}

theorem kickoffLater (regular : now.Regular) (whole : kickoff.Whole) :
    now.millis < kickoff.seconds * 1000 ↔ now < kickoff := by
  unfold Regular at regular
  unfold Whole at whole
  rw [millis, ltIff]
  omega

theorem millisOnward (regular : now.Regular) (onward : now ≤ later) : now.millis ≤ later.millis := by
  unfold Regular at regular
  rw [leIff] at onward
  rw [millis, millis]
  omega

/- Of a kickoff that is not later by the milliseconds: it was reached, or it is the end of the leap
second that runs. -/
theorem kickoffReached (whole : kickoff.Whole) (reached : ¬ now.millis < kickoff.seconds * 1000) :
    kickoff ≤ now ∨ (¬ now.Regular ∧ kickoff.seconds = now.seconds + 1) := by
  have fraction : now.nanos < 2000000000 := now.admitted.2.2.elim (by omega) (by omega)
  unfold Whole at whole
  unfold millis at reached
  unfold Regular
  rw [leIff]
  omega

def FitsWord (n : Int) : Prop := Int64.minValue.toInt ≤ n ∧ n ≤ Int64.maxValue.toInt

theorem wordRead {n : Int} (fits : FitsWord n) : (Int64.ofInt n).toInt = n := by
  unfold FitsWord at fits
  rw [Int64.toInt_minValue, Int64.toInt_maxValue] at fits
  exact Int64.toInt_ofInt_of_le fits.1 (by omega)

theorem millisFit (t : Instant) : FitsWord t.millis := by
  obtain ⟨low, high, fraction⟩ := t.admitted
  have small : t.nanos < 2000000000 := fraction.elim (by omega) (by omega)
  unfold minSeconds at low
  unfold maxSeconds at high
  unfold FitsWord millis
  rw [Int64.toInt_minValue, Int64.toInt_maxValue]
  omega

theorem secondFits (t : Instant) : FitsWord (t.seconds * 1000) := by
  obtain ⟨low, high, _⟩ := t.admitted
  unfold minSeconds at low
  unfold maxSeconds at high
  unfold FitsWord
  rw [Int64.toInt_minValue, Int64.toInt_maxValue]
  omega

end Instant

def Fixture.Listed (f : Fixture) : Prop :=
  ∃ raw leagues league fixtures, Leagues.ofPayload raw = .ok leagues ∧
    leagues.find? league = some fixtures ∧ f ∈ fixtures

theorem Fixture.listedWhole {f : Fixture} (listed : f.Listed) : f.kickoff.Whole := by
  obtain ⟨raw, leagues, league, fixtures, read, found, mem⟩ := listed
  obtain ⟨item, made⟩ := Leagues.payloadItem read found mem
  obtain ⟨_, _, _, reached, _⟩ := payloadIff.mp made
  exact (Payload.instantIff.mp reached).2

namespace Schedule

structure FirstLater (fixtures : List Fixture) (now : Instant) (u : Nat) : Prop where
  later : ∃ f, fixtures[u]? = some f ∧ now < f.kickoff
  earlier : ∀ (i : Nat) (f : Fixture), i < u → fixtures[i]? = some f → f.kickoff ≤ now

/- The index as computed in signed words of 64 bits, which wrap around. -/
def wordIndex? (fixtures : List Fixture) (now : Instant) : Option Nat :=
  fixtures.findIdx? fun f =>
    decide (Int64.ofInt now.millis < Int64.ofInt f.kickoff.seconds * Int64.ofInt 1000)

variable {fixtures : List Fixture} {now later : Instant} {u : Nat}

theorem indexIff : upcomingIndex? fixtures now = some u ↔
    (∃ f, fixtures[u]? = some f ∧ now.millis < f.kickoff.seconds * 1000) ∧
    ∀ (i : Nat) (f : Fixture), i < u → fixtures[i]? = some f →
      ¬ now.millis < f.kickoff.seconds * 1000 := by
  rw [upcomingIndex?, List.findIdx?_eq_some_iff_getElem]
  simp only [decide_eq_true_eq, List.getElem?_eq_some_iff]
  constructor
  · rintro ⟨inside, after, before⟩
    refine ⟨⟨_, ⟨inside, rfl⟩, after⟩, fun i f less there => ?_⟩
    obtain ⟨_, rfl⟩ := there
    exact before i less
  · rintro ⟨⟨_, ⟨inside, rfl⟩, after⟩, before⟩
    exact ⟨inside, after, fun i less => before i _ less ⟨Nat.lt_trans less inside, rfl⟩⟩

theorem indexNone : upcomingIndex? fixtures now = none ↔
    ∀ f ∈ fixtures, ¬ now.millis < f.kickoff.seconds * 1000 := by
  simp [upcomingIndex?, List.findIdx?_eq_none_iff]

theorem indexInside (found : upcomingIndex? fixtures now = some u) : u < fixtures.length := by
  obtain ⟨⟨_, there, _⟩, _⟩ := indexIff.mp found
  exact (List.getElem?_eq_some_iff.mp there).1

theorem firstLaterIff (whole : ∀ f ∈ fixtures, f.kickoff.Whole) (regular : now.Regular) :
    upcomingIndex? fixtures now = some u ↔ FirstLater fixtures now u := by
  have order {i : Nat} {f : Fixture} (there : fixtures[i]? = some f) :
      now.millis < f.kickoff.seconds * 1000 ↔ now < f.kickoff :=
    Instant.kickoffLater regular (whole f (List.mem_of_getElem? there))
  rw [indexIff]
  constructor
  · rintro ⟨⟨f, there, after⟩, before⟩
    exact ⟨⟨f, there, (order there).mp after⟩, fun i f less there =>
      Instant.notLt.mp ((not_congr (order there)).mp (before i f less there))⟩
  · rintro ⟨⟨f, there, after⟩, before⟩
    exact ⟨⟨f, there, (order there).mpr after⟩, fun i f less there =>
      (not_congr (order there)).mpr (Instant.notLt.mpr (before i f less there))⟩

theorem noneLaterIff (whole : ∀ f ∈ fixtures, f.kickoff.Whole) (regular : now.Regular) :
    upcomingIndex? fixtures now = none ↔ ∀ f ∈ fixtures, f.kickoff ≤ now := by
  rw [indexNone]
  refine forall₂_congr fun f mem => ?_
  rw [Instant.kickoffLater regular (whole f mem), Instant.notLt]

theorem indexOnward {u : Nat} (regular : now.Regular) (onward : now ≤ later)
    (found : upcomingIndex? fixtures later = some u) :
    ∃ earlier ≤ u, upcomingIndex? fixtures now = some earlier := by
  obtain ⟨⟨f, there, after⟩, _⟩ := indexIff.mp found
  have still : now.millis < f.kickoff.seconds * 1000 :=
    Int.lt_of_le_of_lt (Instant.millisOnward regular onward) after
  cases first : upcomingIndex? fixtures now with
  | none => exact absurd still (indexNone.mp first f (List.mem_of_getElem? there))
  | some earlier =>
    refine ⟨earlier, Nat.le_of_not_lt fun less => ?_, rfl⟩
    exact (indexIff.mp first).2 u f less there still

theorem wordIndexSame (fixtures : List Fixture) (now : Instant) :
    wordIndex? fixtures now = upcomingIndex? fixtures now := by
  have same (f : Fixture) :
      Int64.ofInt now.millis < Int64.ofInt f.kickoff.seconds * Int64.ofInt 1000 ↔
        now.millis < f.kickoff.seconds * 1000 := by
    rw [← Int64.ofInt_mul, Int64.lt_iff_toInt_lt, Instant.wordRead now.millisFit,
      Instant.wordRead f.kickoff.secondFits]
  simp only [wordIndex?, upcomingIndex?, same]

end Schedule
end MatchGuide
