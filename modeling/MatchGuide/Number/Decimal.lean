import MatchGuide.Number.Binary64
import MatchGuide.Text.Whole

/-! Numbers in decimal notation with a point and an exponent. A digit on either side of the point
is enough. -/
namespace MatchGuide

structure Decimal where
  negative : Bool
  digits : Nat
  exponent : Int
  deriving DecidableEq, Repr

namespace Decimal

def sign : List Char → Bool × List Char
  | '-' :: s => (true, s)
  | '+' :: s => (false, s)
  | s => (false, s)

def run (s : List Char) : List Nat × List Char :=
  (s.takeWhile Char.isDigit |>.filterMap Whole.digit?, s.dropWhile Char.isDigit)

def fraction : List Char → List Nat × List Char
  | '.' :: s => run s
  | s => ([], s)

def exponent? : List Char → Option Int
  | [] => some 0
  | c :: s =>
    if c = 'e' ∨ c = 'E' then
      let (negative, s) := sign s
      (Whole.digits? s).map fun ds =>
        if negative then -(Whole.valueOf ds : Int) else Whole.valueOf ds
    else none

def read? (s : List Char) : Option Decimal := do
  let (negative, s) := sign s
  let (whole, s) := run s
  let (part, s) := fraction s
  let e ← exponent? s
  if whole.isEmpty && part.isEmpty then none
  else some ⟨negative, Whole.valueOf (whole ++ part), e - part.length⟩

def toBinary64? (d : Decimal) : Option Binary64 :=
  Binary64.ofDecimal? d.negative d.digits d.exponent

end Decimal
end MatchGuide
