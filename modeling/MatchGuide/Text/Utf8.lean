/-! Text as UTF-8 bytes. Encoding is total; decoding reads one byte at a time and says, piece by
piece, where the bytes are no UTF-8, so that a strict and a forgiving reader share one walk. -/
namespace MatchGuide

abbrev Bytes := List UInt8

namespace Utf8

def encodeChar (c : Char) : Bytes :=
  let n := c.toNat
  if n < 0x80 then [.ofNat n]
  else if n < 0x800 then [.ofNat (0xC0 + n / 64), .ofNat (0x80 + n % 64)]
  else if n < 0x10000 then
    [.ofNat (0xE0 + n / 4096), .ofNat (0x80 + n / 64 % 64), .ofNat (0x80 + n % 64)]
  else
    [.ofNat (0xF0 + n / 262144), .ofNat (0x80 + n / 4096 % 64), .ofNat (0x80 + n / 64 % 64),
      .ofNat (0x80 + n % 64)]

def encodeChars (s : List Char) : Bytes := s.flatMap encodeChar

def encode (s : String) : Bytes := encodeChars s.toList

/- A character that has begun: the bits read so far, how many bytes must follow the next one,
and the bounds of the next one. -/
structure Begun where
  bits : Nat
  more : Nat
  low : Nat
  high : Nat
  deriving DecidableEq, Repr

structure Yield where
  out : List (Option Char)
  begun : Option Begun

/- A byte between characters. The byte after it has narrower bounds in four cases: no overlong
form, no surrogate, nothing above the last code point. -/
def first (b : Nat) : Yield :=
  if b < 0x80 then ⟨[some (.ofNat b)], none⟩
  else if b < 0xC2 then ⟨[none], none⟩
  else if b < 0xE0 then ⟨[], some ⟨b % 32, 0, 0x80, 0xBF⟩⟩
  else if b < 0xF0 then
    ⟨[], some ⟨b % 16, 1, if b = 0xE0 then 0xA0 else 0x80, if b = 0xED then 0x9F else 0xBF⟩⟩
  else if b < 0xF5 then
    ⟨[], some ⟨b % 8, 2, if b = 0xF0 then 0x90 else 0x80, if b = 0xF4 then 0x8F else 0xBF⟩⟩
  else ⟨[none], none⟩

/- A byte that cannot go on with the character begun breaks it off and is read afresh. -/
def next : Option Begun → Nat → Yield
  | none, b => first b
  | some p, b =>
    if p.low ≤ b ∧ b ≤ p.high then
      let bits := p.bits * 64 + b % 64
      match p.more with
      | 0 => ⟨[some (.ofNat bits)], none⟩
      | more + 1 => ⟨[], some ⟨bits, more, 0x80, 0xBF⟩⟩
    else
      let y := first b
      ⟨none :: y.out, y.begun⟩

def piecesFrom : Option Begun → Bytes → List (Option Char)
  | none, [] => []
  | some _, [] => [none]
  | p, b :: rest => let y := next p b.toNat; y.out ++ piecesFrom y.begun rest

def pieces (raw : Bytes) : List (Option Char) := piecesFrom none raw

def decode? (raw : Bytes) : Option String :=
  ((pieces raw).mapM id).map String.ofList

def decodeLossy (raw : Bytes) : String :=
  String.ofList ((pieces raw).map (·.getD '\uFFFD'))

private theorem byte (n : Nat) (h : n < 256) : (UInt8.ofNat n).toNat = n := by
  simp [Nat.mod_eq_of_lt h]

private theorem openTwo {k : Nat} (low : 2 ≤ k) (high : k < 32) :
    first (0xC0 + k) = ⟨[], some ⟨k, 0, 0x80, 0xBF⟩⟩ := by
  rw [first, if_neg (by omega), if_neg (by omega), if_pos (by omega)]
  simp; omega

private theorem openThree {k : Nat} (high : k < 16) :
    first (0xE0 + k) = ⟨[], some ⟨k, 1, if k = 0 then 0xA0 else 0x80,
      if k = 13 then 0x9F else 0xBF⟩⟩ := by
  rw [first, if_neg (by omega), if_neg (by omega), if_neg (by omega), if_pos (by omega),
    show (0xE0 + k) % 16 = k by omega]
  simp only [show 0xE0 + k = 0xE0 ↔ k = 0 by omega, show 0xE0 + k = 0xED ↔ k = 13 by omega]

private theorem openFour {k : Nat} (high : k < 5) :
    first (0xF0 + k) = ⟨[], some ⟨k, 2, if k = 0 then 0x90 else 0x80,
      if k = 4 then 0x8F else 0xBF⟩⟩ := by
  rw [first, if_neg (by omega), if_neg (by omega), if_neg (by omega), if_neg (by omega),
    if_pos (by omega), show (0xF0 + k) % 8 = k by omega]
  simp only [show 0xF0 + k = 0xF0 ↔ k = 0 by omega, show 0xF0 + k = 0xF4 ↔ k = 4 by omega]

private theorem goOn {p : Begun} {b more : Nat} (low : p.low ≤ b) (high : b ≤ p.high)
    (m : p.more = more + 1) :
    next (some p) b = ⟨[], some ⟨p.bits * 64 + b % 64, more, 0x80, 0xBF⟩⟩ := by
  simp [next, low, high, m]

private theorem finish {p : Begun} {b : Nat} (low : p.low ≤ b) (high : b ≤ p.high)
    (m : p.more = 0) : next (some p) b = ⟨[some (.ofNat (p.bits * 64 + b % 64))], none⟩ := by
  simp [next, low, high, m]

theorem piecesEncodeChar (c : Char) (rest : Bytes) :
    pieces (encodeChar c ++ rest) = some c :: pieces rest := by
  have valid : c.toNat < 0xD800 ∨ (0xDFFF < c.toNat ∧ c.toNat < 0x110000) := c.valid
  have back : Char.ofNat c.toNat = c := Char.ofNat_toNat c
  unfold encodeChar
  generalize c.toNat = n at *
  simp only
  split
  · simp only [pieces, List.cons_append, List.nil_append, piecesFrom, next, byte n (by omega)]
    rw [first, if_pos (by omega), back]
    rfl
  split
  · simp only [pieces, List.cons_append, List.nil_append, piecesFrom]
    rw [byte _ (by omega), byte _ (by omega), next, openTwo (by omega) (by omega),
      finish (by simp) (by simp; omega) rfl]
    simp only [List.nil_append, List.cons_append]
    rw [show n / 64 * 64 + (0x80 + n % 64) % 64 = n by omega, back]
  split
  · simp only [pieces, List.cons_append, List.nil_append, piecesFrom]
    rw [byte _ (by omega), byte _ (by omega), byte _ (by omega), next, openThree (by omega)]
    have h1 : (if n / 4096 = 0 then 0xA0 else 0x80) ≤ 0x80 + n / 64 % 64 := by split <;> omega
    have h2 : 0x80 + n / 64 % 64 ≤ (if n / 4096 = 13 then 0x9F else 0xBF) := by split <;> omega
    rw [goOn h1 h2 rfl, finish (by simp) (by simp; omega) rfl]
    simp only [List.nil_append, List.cons_append]
    rw [show (n / 4096 * 64 + (0x80 + n / 64 % 64) % 64) * 64 + (0x80 + n % 64) % 64 = n by omega,
      back]
  · simp only [pieces, List.cons_append, List.nil_append, piecesFrom]
    rw [byte _ (by omega), byte _ (by omega), byte _ (by omega), byte _ (by omega), next,
      openFour (by omega)]
    have h1 : (if n / 262144 = 0 then 0x90 else 0x80) ≤ 0x80 + n / 4096 % 64 := by split <;> omega
    have h2 : 0x80 + n / 4096 % 64 ≤ (if n / 262144 = 4 then 0x8F else 0xBF) := by
      split <;> omega
    rw [goOn h1 h2 rfl, goOn (by simp) (by simp; omega) rfl, finish (by simp) (by simp; omega) rfl]
    simp only [List.nil_append, List.cons_append]
    rw [show ((n / 262144 * 64 + (0x80 + n / 4096 % 64) % 64) * 64 + (0x80 + n / 64 % 64) % 64) *
      64 + (0x80 + n % 64) % 64 = n by omega, back]

theorem piecesEncodeChars (s : List Char) (rest : Bytes) :
    pieces (encodeChars s ++ rest) = s.map some ++ pieces rest := by
  induction s with
  | nil => rfl
  | cons c s ih =>
    rw [encodeChars, List.flatMap_cons, List.append_assoc, piecesEncodeChar]
    simpa [encodeChars] using ih

theorem piecesEncode (s : String) : pieces (encode s) = s.toList.map some := by
  simpa [encode, pieces, piecesFrom] using piecesEncodeChars s.toList []

@[simp] theorem decodeEncode (s : String) : decode? (encode s) = some s := by
  have all (l : List Char) : (l.map some).mapM id = some l := by
    induction l with
    | nil => rfl
    | cons c l ih => simp [ih]
  simp [decode?, piecesEncode, all]

@[simp] theorem decodeLossyEncode (s : String) : decodeLossy (encode s) = s := by
  simp [decodeLossy, piecesEncode, Function.comp_def]

theorem encodeCharLess {c d : Char} (less : c < d) (s t : Bytes) :
    encodeChar c ++ s < encodeChar d ++ t := by
  have numbers : c.toNat < d.toNat := less
  have valid : d.toNat < 0xD800 ∨ (0xDFFF < d.toNat ∧ d.toNat < 0x110000) := d.valid
  have sixes (n : Nat) : n / 64 / 64 = n / 4096 ∧ n / 4096 / 64 = n / 262144 := by omega
  have first := sixes c.toNat
  have second := sixes d.toNat
  simp only [encodeChar]
  generalize c.toNat = m at *
  generalize d.toNat = n at *
  -- A character of more bytes has a greater first one; of as many, the first byte in which they
  -- differ decides.
  repeat' split
  all_goals
    simp only [List.cons_append, List.nil_append, List.cons_lt_cons_iff, UInt8.lt_iff_toNat_lt,
      ← UInt8.toNat_inj]
    simp (disch := omega) only [byte]
    omega

theorem encodeCharFilled (c : Char) : encodeChar c ≠ [] := by
  simp only [encodeChar]
  repeat' split
  all_goals exact List.cons_ne_nil _ _

theorem encodeCharHigh {c : Char} (large : 0x80 ≤ c.toNat) : ∀ b ∈ encodeChar c, 0x80 ≤ b.toNat := by
  have valid : c.toNat < 0xD800 ∨ (0xDFFF < c.toNat ∧ c.toNat < 0x110000) := c.valid
  simp only [encodeChar]
  generalize c.toNat = n at *
  repeat' split
  all_goals
    simp only [List.mem_cons, List.not_mem_nil, or_false, forall_eq_or_imp, forall_eq]
    simp (disch := omega) only [byte]
    omega

theorem encodeLess {s t : String} (less : s < t) : encode s < encode t := by
  have onto {s t : List Char} (less : s < t) : encodeChars s < encodeChars t := by
    induction less with
    | @nil d t =>
      rw [encodeChars, encodeChars, List.flatMap_cons]
      obtain ⟨b, bytes, first⟩ := List.exists_cons_of_ne_nil (encodeCharFilled d)
      rw [first]
      exact List.nil_lt_cons _ _
    | rel less =>
      rw [encodeChars, encodeChars, List.flatMap_cons, List.flatMap_cons]
      exact encodeCharLess less _ _
    | cons rest ih =>
      rw [encodeChars, encodeChars, List.flatMap_cons, List.flatMap_cons]
      exact List.append_left_lt ih
  exact onto less

end Utf8
end MatchGuide
