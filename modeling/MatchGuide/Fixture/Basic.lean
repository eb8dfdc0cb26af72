import MatchGuide.Calendar.Instant
import MatchGuide.NameTable

/-! Scheduled matches, grouped by league. -/
namespace MatchGuide

structure Score where
  home : Option UInt32
  away : Option UInt32
  deriving DecidableEq, Repr, Inhabited

def Score.text? (s : Score) : Option String :=
  match s.home, s.away with
  | some h, some a => some s!"{h.toNat} - {a.toNat}"
  | _, _ => none

theorem Score.textIff {s : Score} {text : String} :
    s.text? = some text ↔
      ∃ h a, s.home = some h ∧ s.away = some a ∧ text = s!"{h.toNat} - {a.toNat}" := by
  obtain ⟨home, away⟩ := s
  cases home with
  | none => simp [Score.text?]
  | some h =>
    cases away with
    | none => simp [Score.text?]
    | some a => simp [Score.text?, eq_comm]

structure FixtureKey where
  league : String
  id : UInt32
  deriving DecidableEq, Repr

structure Fixture where
  league : String
  home : String
  away : String
  venue : String
  score : Score
  kickoff : Instant
  id : Option UInt32
  deriving DecidableEq

def Fixture.key? (f : Fixture) : Option FixtureKey := f.id.map fun id => ⟨f.league, id⟩

abbrev Leagues := NameTable (List Fixture)

end MatchGuide
