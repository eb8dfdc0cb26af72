import MatchGuide.Calendar.Instant
import MatchGuide.Json.Value
import MatchGuide.Number.Decimal
import MatchGuide.Text.Blank

/-! What the payloads have in common: how a field says a number, and what is wrong with a payload as
a whole. -/
namespace MatchGuide

structure ShapeError where
  expected : String
  got : String
  deriving DecidableEq, Repr

def ShapeError.message (e : ShapeError) : String :=
  s!"expected {e.expected} at top level, got {e.got}"

namespace Payload

def uint32? : Json → Option UInt32
  | .int n => if 0 ≤ n ∧ n < UInt32.size then some (.ofNat n.toNat) else none
  | .string s => Whole.uint32? (Text.trim s.toList)
  | _ => none

def secondsOfText? (s : List Char) : Option Int :=
  match Whole.integer? s with
  | some n => some n
  | none => ((Decimal.read? s).bind Decimal.toBinary64?).map Binary64.trunc

def seconds? : Json → Option Int
  | .int n => some n
  | .float x => some x.trunc
  | .string s => secondsOfText? (Text.trim s.toList)
  | _ => none

def instant? (j : Json) : Option Instant := (seconds? j).bind Instant.ofSeconds?

end Payload
end MatchGuide
