/-! Whole numbers in digits. Decimal ones are read with an optional sign and any number of leading
zeros, and written without either; hexadecimal digits may be capitals or not. -/
namespace MatchGuide.Whole

def digit? (c : Char) : Option Nat :=
  if '0' ≤ c ∧ c ≤ '9' then some (c.toNat - 48) else none

def valueOf (digits : List Nat) : Nat := digits.foldl (fun n d => 10 * n + d) 0

def digits? (s : List Char) : Option (List Nat) := do
  let ds ← s.mapM digit?
  if ds.isEmpty then none else some ds

def natural? : List Char → Option Nat
  | '+' :: s => (digits? s).map valueOf
  | s => (digits? s).map valueOf

def integer? : List Char → Option Int
  | '-' :: s => (digits? s).map fun ds => -(valueOf ds : Int)
  | s => (natural? s).map Int.ofNat

def uint32? (s : List Char) : Option UInt32 := do
  let n ← natural? s
  if n < UInt32.size then some (.ofNat n) else none

def int64? (s : List Char) : Option Int64 := do
  let n ← integer? s
  if Int64.minValue.toInt ≤ n ∧ n ≤ Int64.maxValue.toInt then some (.ofInt n) else none

def maxUInt64 : Nat := UInt64.size - 1

def uint64? (s : List Char) : Option Nat := do
  let n ← natural? s
  if n ≤ maxUInt64 then some n else none

def chars (n : Nat) : List Char := Nat.toDigits 10 n

def intChars : Int → List Char
  | .ofNat n => chars n
  | .negSucc n => '-' :: chars (n + 1)

def text (n : Nat) : String := String.ofList (chars n)

def intText (n : Int) : String := String.ofList (intChars n)

def padded (width n : Nat) : List Char :=
  let ds := chars n
  List.replicate (width - ds.length) '0' ++ ds

end MatchGuide.Whole

namespace MatchGuide.Hex

def value? (c : Char) : Option Nat :=
  if '0' ≤ c ∧ c ≤ '9' then some (c.toNat - 0x30)
  else if 'A' ≤ c ∧ c ≤ 'F' then some (c.toNat - 0x37)
  else if 'a' ≤ c ∧ c ≤ 'f' then some (c.toNat - 0x57)
  else none

def digit (n : Nat) : Char := if n < 10 then .ofNat (0x30 + n) else .ofNat (0x37 + n)

def number (s : List Char) : Nat := (s.filterMap value?).foldl (fun n d => 16 * n + d) 0

theorem valueDigit : ∀ n < 16, value? (digit n) = some n := by decide

theorem digitAscii : ∀ n < 16, (digit n).toNat < 128 := by decide

end MatchGuide.Hex
