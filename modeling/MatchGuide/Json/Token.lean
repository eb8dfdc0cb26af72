import MatchGuide.Json.Value
import MatchGuide.Number.Decimal
import MatchGuide.Text.Whole

/-! The tokens of JSON text. Numbers and the words `null`, `true` and `false` are values already. -/
namespace MatchGuide.Json

inductive Token where
  | openArray
  | closeArray
  | openObject
  | closeObject
  | comma
  | colon
  | text (s : String)
  | value (j : Json)
  deriving DecidableEq, Repr

def isGap (c : Char) : Bool := c == ' ' || c == '\t' || c == '\n' || c == '\r'

def unit? (a b c d : Char) : Option Nat := do
  let a ← Hex.value? a
  let b ← Hex.value? b
  let c ← Hex.value? c
  let d ← Hex.value? d
  some (((a * 16 + b) * 16 + c) * 16 + d)

def simpleEscape? : Char → Option Char
  | '\x22' => some '\x22'
  | '\\' => some '\\'
  | '/' => some '/'
  | 'b' => some '\x08'
  | 'f' => some '\x0C'
  | 'n' => some '\n'
  | 'r' => some '\r'
  | 't' => some '\t'
  | _ => none

def textBody? : List Char → Option (List Char × List Char)
  | [] => none
  | '\x22' :: rest => some ([], rest)
  | '\\' :: 'u' :: a :: b :: c :: d :: rest => do
    let n ← unit? a b c d
    if n < 0xD800 ∨ 0xDFFF < n then
      let (s, rest) ← textBody? rest
      some (.ofNat n :: s, rest)
    else if 0xDBFF < n then none
    else match rest with
      | '\\' :: 'u' :: e :: f :: g :: h :: rest => do
        let m ← unit? e f g h
        if m < 0xDC00 ∨ 0xDFFF < m then none
        else
          let (s, rest) ← textBody? rest
          some (.ofNat (0x10000 + (n - 0xD800) * 0x400 + (m - 0xDC00)) :: s, rest)
      | _ => none
  | '\\' :: c :: rest => do
    let c ← simpleEscape? c
    let (s, rest) ← textBody? rest
    some (c :: s, rest)
  | c :: rest => do
    if c.toNat < 0x20 ∨ c = '\\' then none
    else
      let (s, rest) ← textBody? rest
      some (c :: s, rest)

def isNumeral (c : Char) : Bool :=
  c.isDigit || c == '.' || c == 'e' || c == 'E' || c == '+' || c == '-'

def maxPower : Nat := 308

def power (k : Nat) : Binary64 := (Binary64.ofRatio? false (Nat.pow 10 k) 1).getD (.zero false)

/- Scales by a power of ten with one product or quotient; an exponent below the table's is made up
in steps of its largest power. Fuel counts the steps. -/
def scale? : Nat → Binary64 → Int → Option Binary64
  | 0, x, _ => some (.zero x.negative)
  | fuel + 1, x, e =>
    if e.natAbs ≤ maxPower then
      if 0 ≤ e then x.mul? (power e.toNat) else x.div? (power e.natAbs)
    else if x.isZero then some x
    else if 0 ≤ e then none
    else do
      let x ← x.div? (power maxPower)
      scale? fuel x (e + maxPower)

def significant (start : Nat) : List Nat → Nat × Nat
  | [] => (start, 0)
  | d :: ds =>
    if 10 * start + d < UInt64.size then significant (10 * start + d) ds
    else (start, (d :: ds).length)

/- A floating-point number is made in two roundings: of the leading digits, as many as fit 64
bits, and of their product or quotient with the power of ten. -/
def float? (negative : Bool) (whole part : List Nat) (exponent : Int) : Option Binary64 := do
  let (m, left) := significant 0 whole
  let (m, skipped) := significant m part
  let x ← Binary64.ofRatio? negative m 1
  scale? 4 x (exponent + left - (part.length - skipped : Nat))

def number? (s : List Char) : Option Json := do
  let (negative, s) := match s with
    | '-' :: s => (true, s)
    | s => (false, s)
  let (whole, s) := Decimal.run s
  if whole.isEmpty || (whole.head? == some 0 && whole.length != 1) then none
  else
    let (part, rest) := Decimal.fraction s
    let e ← Decimal.exponent? rest
    if s.isEmpty then
      let n := Whole.valueOf whole
      if !negative && n < UInt64.size then some (int n)
      else if negative && n != 0 && Int64.minValue.toInt ≤ -(n : Int) then some (int (-(n : Int)))
      else (float? negative whole [] 0).map float
    else if s.head? == some '.' && part.isEmpty then none
    else (float? negative whole part e).map float

def token? : List Char → Option (Token × List Char)
  | [] => none
  | '[' :: rest => some (.openArray, rest)
  | ']' :: rest => some (.closeArray, rest)
  | '\x7b' :: rest => some (.openObject, rest)
  | '\x7d' :: rest => some (.closeObject, rest)
  | ',' :: rest => some (.comma, rest)
  | ':' :: rest => some (.colon, rest)
  | '\x22' :: rest => (textBody? rest).map fun (s, rest) => (.text (.ofList s), rest)
  | 'n' :: 'u' :: 'l' :: 'l' :: rest => some (.value .null, rest)
  | 't' :: 'r' :: 'u' :: 'e' :: rest => some (.value (.bool true), rest)
  | 'f' :: 'a' :: 'l' :: 's' :: 'e' :: rest => some (.value (.bool false), rest)
  | s => (number? (s.takeWhile isNumeral)).map fun j => (.value j, s.dropWhile isNumeral)

/- All tokens; each takes at least one character, so the length bounds their number. -/
def tokensWithin : Nat → List Char → Option (List Token)
  | 0, s => if (s.dropWhile isGap).isEmpty then some [] else none
  | fuel + 1, s =>
    match s.dropWhile isGap with
    | [] => some []
    | s => do
      let (t, rest) ← token? s
      let ts ← tokensWithin fuel rest
      some (t :: ts)

def tokens? (s : List Char) : Option (List Token) := tokensWithin s.length s

end MatchGuide.Json
