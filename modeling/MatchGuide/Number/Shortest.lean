import MatchGuide.Number.Binary64
import MatchGuide.Text.Whole

/-! The shortest decimal that reads back as a given binary64 number, and of those the nearest. -/
namespace MatchGuide.Shortest

structure Ratio where
  num : Nat
  den : Nat

namespace Ratio

def le (a b : Ratio) : Bool := a.num * b.den ≤ b.num * a.den

def lt (a b : Ratio) : Bool := a.num * b.den < b.num * a.den

def scaled (n base : Nat) (k : Int) : Ratio :=
  if 0 ≤ k then ⟨n * base.pow k.toNat, 1⟩ else ⟨n, base.pow (-k).toNat⟩

def gap (a b : Ratio) : Ratio :=
  let x := a.num * b.den
  let y := b.num * a.den
  ⟨max x y - min x y, a.den * b.den⟩

/- The exponent `k` with `10 ^ k ≤ r < 10 ^ (k + 1)`, corrected from an estimate that is at most
one off. -/
def floorLog10 (r : Ratio) : Int :=
  let k := Binary64.floorLog2 r.num r.den * 30103 / 100000
  if r.lt (scaled 1 10 k) then k - 1
  else if (scaled 1 10 (k + 1)).le r then k + 1
  else k

end Ratio

/-- The numbers that round to `m * 2 ^ q`; the ends belong to them exactly when `m` is even. Below
a power of two the next number is half as far away. -/
structure Interval where
  low : Ratio
  high : Ratio
  closed : Bool

def Interval.around (m : Nat) (q : Int) : Interval where
  low :=
    if m = Nat.pow 2 (Binary64.precision - 1) ∧ Binary64.minExponent < q then
      .scaled (4 * m - 1) 2 (q - 2)
    else .scaled (2 * m - 1) 2 (q - 1)
  high := .scaled (2 * m + 1) 2 (q - 1)
  closed := m % 2 = 0

def Interval.holds (i : Interval) (r : Ratio) : Bool :=
  if i.closed then i.low.le r && r.le i.high else i.low.lt r && r.lt i.high

def onGrid? (i : Interval) (value : Ratio) (k : Int) : Option Nat :=
  let unit := Ratio.scaled 1 10 k
  let below := value.num * unit.den / (value.den * unit.num)
  let lower := Ratio.scaled below 10 k
  let upper := Ratio.scaled (below + 1) 10 k
  match below != 0 && i.holds lower, i.holds upper with
  | true, true =>
    let a := value.gap lower
    let b := value.gap upper
    if a.lt b then some below
    else if b.lt a then some (below + 1)
    else some (if below % 2 = 0 then below else below + 1)
  | true, false => some below
  | false, true => some (below + 1)
  | false, false => none

/- The first grid with a hit, from coarse to fine; seventeen digits always suffice. -/
def search (i : Interval) (value : Ratio) : Nat → Int → Nat × Int
  | 0, k => ((onGrid? i value k).getD 0, k)
  | more + 1, k =>
    match onGrid? i value k with
    | some d => (d, k)
    | none => search i value more (k - 1)

def stripZeros : Nat → Nat → Int → Nat × Int
  | 0, d, k => (d, k)
  | fuel + 1, d, k => if d % 10 = 0 then stripZeros fuel (d / 10) (k + 1) else (d, k)

def digits (x : Binary64) : Nat × Int :=
  let value := Ratio.scaled x.significand 2 x.exponent
  let (d, k) := search (.around x.significand x.exponent) value 16 value.floorLog10
  stripZeros 20 d k

def plainFrom : Int := -5

def plainTo : Int := 16

def chars (x : Binary64) : List Char :=
  let sign := if x.negative then ['-'] else []
  if x.isZero then sign ++ ['0', '.', '0']
  else
    let (d, k) := digits x
    let ds := Whole.chars d
    let point : Int := ds.length + k
    sign ++
      if 0 ≤ k ∧ point ≤ plainTo then ds ++ List.replicate k.toNat '0' ++ ['.', '0']
      else if 0 < point ∧ point ≤ plainTo then
        ds.take point.toNat ++ '.' :: ds.drop point.toNat
      else if plainFrom < point ∧ point ≤ 0 then
        ['0', '.'] ++ List.replicate (-point).toNat '0' ++ ds
      else
        let e := point - 1
        ds.take 1 ++ (if ds.length = 1 then [] else '.' :: ds.drop 1) ++
          'e' :: (if e < 0 then '-' else '+') :: Whole.chars e.natAbs

end MatchGuide.Shortest
