/-! Labels of a domain name outside ASCII, written with ASCII letters, digits and hyphens by the
encoding of RFC 3492. -/
namespace MatchGuide.Punycode

def digitChar (d : Nat) : Char := if d < 26 then .ofNat (0x61 + d) else .ofNat (0x16 + d)

def digitValue? (c : Char) : Option Nat :=
  if 'a' ≤ c ∧ c ≤ 'z' then some (c.toNat - 0x61)
  else if 'A' ≤ c ∧ c ≤ 'Z' then some (c.toNat - 0x41)
  else if '0' ≤ c ∧ c ≤ '9' then some (c.toNat - 0x30 + 26)
  else none

def threshold (position bias : Nat) : Nat :=
  if position ≤ bias then 1 else if bias + 26 ≤ position then 26 else position - bias

def adaptLoop : Nat → Nat → Nat → Nat
  | 0, _, k => k
  | fuel + 1, delta, k =>
    if 455 < delta then adaptLoop fuel (delta / 35) (k + 36) else k + 36 * delta / (delta + 38)

def adapt (delta count : Nat) (isFirst : Bool) : Nat :=
  let halved := if isFirst then delta / 700 else delta / 2
  adaptLoop 64 (halved + halved / count) 0

def encodeDigits : Nat → Nat → Nat → Nat → List Char
  | 0, _, _, _ => []
  | fuel + 1, bias, position, q =>
    let t := threshold position bias
    if q < t then [digitChar q]
    else
      digitChar (t + (q - t) % (36 - t)) ::
        encodeDigits fuel bias (position + 36) ((q - t) / (36 - t))

structure State where
  out : List Char
  delta : Nat
  bias : Nat
  placed : Nat

def place (basic n : Nat) (s : State) (c : Char) : State :=
  if c.toNat < n then { s with delta := s.delta + 1 }
  else if c.toNat = n then
    { out := s.out ++ encodeDigits 64 s.bias 36 s.delta
      delta := 0
      bias := adapt s.delta (s.placed + 1) (s.placed == basic)
      placed := s.placed + 1 }
  else s

def insertSorted (n : Nat) : List Nat → List Nat
  | [] => [n]
  | m :: ms => if n < m then n :: m :: ms else if n = m then m :: ms else m :: insertSorted n ms

def encodeLoop (label : List Char) (basic : Nat) : List Nat → Nat → State → List Char
  | [], _, s => s.out
  | m :: ms, n, s =>
    let s := { s with delta := s.delta + (m - n) * (s.placed + 1) }
    let s := label.foldl (place basic m) s
    encodeLoop label basic ms (m + 1) { s with delta := s.delta + 1 }

def encode (label : List Char) : List Char :=
  let basic := label.filter (·.toNat < 128)
  let others := (label.filter (128 ≤ ·.toNat)).foldr (fun c ms => insertSorted c.toNat ms) []
  basic ++ (if basic.isEmpty then [] else ['-']) ++
    encodeLoop label basic.length others 128 ⟨[], 0, 72, basic.length⟩

/- A delta and what follows its digits. No digit is worth 2 ^ 32 or more. -/
def decodeDigits? (bias : Nat) : List Char → Nat → Nat → Nat → Option (Nat × List Char)
  | [], _, _, _ => none
  | c :: rest, position, weight, i => do
    let d ← digitValue? c
    let t := threshold position bias
    let i := i + d * weight
    if d < t then some (i, rest)
    else if 4294967296 ≤ weight * (36 - t) then none
    else decodeDigits? bias rest (position + 36) (weight * (36 - t)) i

def decodeLoop? : Nat → List Char → List Char → Nat → Nat → Nat → Option (List Char)
  | 0, _, _, _, _, _ => none
  | fuel + 1, input, out, n, i, bias =>
    match input with
    | [] => some out
    | input => do
      let (j, rest) ← decodeDigits? bias input 36 1 i
      let size := out.length + 1
      let n := n + j / size
      let slot := j % size
      if h : n.isValidChar then
        let c : Char := ⟨.ofNat n, by
          simpa [UInt32.isValidChar, Nat.mod_eq_of_lt (show n < 4294967296 by
            unfold Nat.isValidChar at h; omega)] using h⟩
        decodeLoop? fuel rest (out.take slot ++ c :: out.drop slot) n (slot + 1)
          (adapt (j - i) size (i == 0))
      else none

def lastHyphen (s : List Char) : List Char × List Char :=
  let back := s.reverse.takeWhile (· != '-')
  if s.length ≤ back.length + 1 then ([], s)
  else (s.take (s.length - back.length - 1), back.reverse)

def decode? (s : List Char) : Option (List Char) :=
  let (basic, deltas) := lastHyphen s
  decodeLoop? (s.length + 1) deltas basic 128 0 72

end MatchGuide.Punycode
