import MatchGuide.Calendar.Date

/-! Instants of universal time, to the nanosecond, and how they are written. -/
namespace MatchGuide

def Instant.minSeconds : Int := -8334601228800

def Instant.maxSeconds : Int := 8210266876799

/-- A second has less than `10 ^ 9` nanoseconds; the last one of a minute may be a leap second and
have twice as many. -/
def Instant.Admits (seconds : Int) (nanos : Nat) : Prop :=
  Instant.minSeconds ≤ seconds ∧ seconds ≤ Instant.maxSeconds ∧
    (nanos < 1000000000 ∨ (nanos < 2000000000 ∧ seconds.fmod 60 = 59))

instance (seconds : Int) (nanos : Nat) : Decidable (Instant.Admits seconds nanos) := by
  unfold Instant.Admits; infer_instance

structure Instant where
  seconds : Int
  nanos : Nat
  admitted : Instant.Admits seconds nanos
  deriving DecidableEq

namespace Instant

def of? (seconds : Int) (nanos : Nat) : Option Instant :=
  if h : Admits seconds nanos then some ⟨seconds, nanos, h⟩ else none

def ofSeconds? (seconds : Int) : Option Instant := of? seconds 0

def epoch : Instant := ⟨0, 0, by decide⟩

def millis (t : Instant) : Int := t.seconds * 1000 + (t.nanos / 1000000 : Nat)

def day (t : Instant) : Int := t.seconds.fdiv 86400

def secondOfDay (t : Instant) : Nat := (t.seconds.fmod 86400).toNat

def date (t : Instant) : Date := .ofDay t.day

def dayText (t : Instant) : String := String.ofList t.date.chars

def clockChars (t : Instant) : List Char :=
  Whole.padded 2 (t.secondOfDay / 3600) ++ ':' :: Whole.padded 2 (t.secondOfDay / 60 % 60)

def clockText (t : Instant) : String := String.ofList t.clockChars

def stamp (t : Instant) : String :=
  let d := t.date
  String.ofList (Date.yearChars d.year ++ '-' :: Whole.padded 2 d.month ++
    '-' :: Whole.padded 2 d.day ++ 'T' :: t.clockChars ++
    ':' :: Whole.padded 2 (t.secondOfDay % 60) ++ ['Z'])

end Instant
end MatchGuide
