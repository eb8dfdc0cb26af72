import MatchGuide.Proofs.Numeral
import MatchGuide.Selection
import MatchGuide.Server.Route

/-! What is written into a query or into a segment of a path is read back from it, whatever the text,
and what is written there holds none of the characters that part a URL. -/
namespace MatchGuide

namespace Utf8

theorem asciiByte {c : Char} (ascii : c.toNat < 0x80) : encodeChar c = [.ofNat c.toNat] := by
  rw [encodeChar, if_pos ascii]

theorem asciiBack {c : Char} (ascii : c.toNat < 0x80) :
    Char.ofNat (UInt8.ofNat c.toNat).toNat = c := by
  rw [UInt8.toNat_ofNat_of_lt' (Nat.lt_trans ascii (by decide)), Char.ofNat_toNat]

theorem encodeCharsAppend (s t : List Char) : encodeChars (s ++ t) = encodeChars s ++ encodeChars t :=
  List.flatMap_append

end Utf8

namespace Percent

theorem byteAscii {b : UInt8} (ascii : b.toNat < 0x80) : (Char.ofNat b.toNat).toNat = b.toNat := by
  rw [Char.ofNat, dif_pos (.inl (by omega))]
  rfl

theorem unescaped {b : UInt8} (plain : b ≠ 0x25) (rest : Bytes) : escaped? b rest = none := by
  unfold escaped?
  split
  · contradiction
  · rfl

theorem keptDecoded {b : UInt8} (ascii : b.toNat < 0x80) (plain : b ≠ 0x25) (rest : Bytes) :
    decodeAfter 0 (Utf8.encodeChars [.ofNat b.toNat] ++ rest) = b :: decodeAfter 0 rest := by
  have same := byteAscii ascii
  have alone : Utf8.encodeChars [.ofNat b.toNat] = [b] := by
    rw [Utf8.encodeChars, List.flatMap_singleton, Utf8.asciiByte (by omega), same, UInt8.ofNat_toNat]
  rw [alone, List.singleton_append, decodeAfter, unescaped plain]

theorem escapeDecoded (b : UInt8) (rest : Bytes) :
    decodeAfter 0 (Utf8.encodeChars (escape b) ++ rest) = b :: decodeAfter 0 rest := by
  have size := b.toNat_lt
  have high := Hex.digitAscii (b.toNat / 16) (by omega)
  have low := Hex.digitAscii (b.toNat % 16) (by omega)
  have spelled : Utf8.encodeChars (escape b) = [0x25, .ofNat (Hex.digit (b.toNat / 16)).toNat,
      .ofNat (Hex.digit (b.toNat % 16)).toNat] := by
    simp only [Utf8.encodeChars, escape, List.flatMap_cons, List.flatMap_nil, Utf8.asciiByte high,
      Utf8.asciiByte low]
    rfl
  have read : escaped? 0x25 (.ofNat (Hex.digit (b.toNat / 16)).toNat ::
      .ofNat (Hex.digit (b.toNat % 16)).toNat :: rest) = some b := by
    simp only [escaped?, Utf8.asciiBack high, Utf8.asciiBack low,
      Hex.valueDigit _ (show b.toNat / 16 < 16 by omega),
      Hex.valueDigit _ (show b.toNat % 16 < 16 by omega), Option.bind_eq_bind, Option.bind_some,
      Nat.div_add_mod, UInt8.ofNat_toNat]
  simp only [spelled, List.cons_append, List.nil_append]
  rw [decodeAfter, read]
  rfl

theorem encodeDecoded {keep : UInt8 → Bool} (kept : ∀ b, keep b = true → b.toNat < 0x80 ∧ b ≠ 0x25)
    (raw : Bytes) : decode (Utf8.encodeChars (encode keep raw)) = raw := by
  rw [decode, encode]
  induction raw with
  | nil => rfl
  | cons b raw ih =>
    rw [List.flatMap_cons, Utf8.encodeCharsAppend]
    split
    · rename_i keeps
      obtain ⟨ascii, plain⟩ := kept b keeps
      rw [keptDecoded ascii plain, ih]
    · rw [escapeDecoded, ih]

theorem plainUnchanged {raw : Bytes} (plain : ∀ b ∈ raw, b ≠ 0x25) : decode raw = raw := by
  rw [decode]
  induction raw with
  | nil => rfl
  | cons b raw ih =>
    have ⟨head, tail⟩ := List.forall_mem_cons.mp plain
    rw [decodeAfter, unescaped head]
    exact congrArg (b :: ·) (ih tail)

theorem plainRead {s : List Char} (plain : ∀ c ∈ s, c.toNat < 0x80 ∧ c ≠ '%') :
    decodeText? (.ofList s) = some (.ofList s) := by
  have bytes : ∀ b ∈ Utf8.encode (.ofList s), b ≠ 0x25 := by
    rintro b mem rfl
    rw [Utf8.encode, String.toList_ofList] at mem
    obtain ⟨c, inside, mem⟩ := List.mem_flatMap.mp mem
    obtain ⟨ascii, other⟩ := plain c inside
    rw [Utf8.asciiByte ascii, List.mem_singleton] at mem
    exact other (by rw [← Utf8.asciiBack ascii, ← mem]; rfl)
  rw [decodeText?, plainUnchanged bytes, Utf8.decodeEncode]

end Percent

namespace Form

theorem everyByte {p : UInt8 → Prop} (all : ∀ n < 256, p (.ofNat n)) (b : UInt8) : p b := by
  have own := all b.toNat b.toNat_lt
  rwa [UInt8.ofNat_toNat] at own

theorem plainKept {b : UInt8} (plain : isPlain b = true) :
    b.toNat < 0x80 ∧ b ≠ 0x25 ∧ b ≠ 0x2B :=
  everyByte (p := fun b => isPlain b = true → b.toNat < 0x80 ∧ b ≠ 0x25 ∧ b ≠ 0x2B)
    (by decide +kernel) b plain

theorem segmentRead (s : String) : Percent.decodeText? (encodeSegment s) = some s := by
  rw [Percent.decodeText?, encodeSegment, Utf8.encode, String.toList_ofList,
    Percent.encodeDecoded fun b plain => ⟨(plainKept plain).1, (plainKept plain).2.1⟩,
    Utf8.decodeEncode]

theorem alphanumAscii {c : Char} (plain : c.isAlphanum = true) : c.toNat < 0x80 := by
  have within : (decide (c.val ≥ 'A'.val ∧ c.val ≤ 'Z'.val) ||
      decide (c.val ≥ 'a'.val) && decide (c.val ≤ 'z'.val) ||
      decide (c.val ≥ '0'.val) && decide (c.val ≤ '9'.val)) = true := plain
  simp only [Bool.or_eq_true, decide_eq_true_eq, Bool.and_eq_true, UInt32.le_iff_toNat_le,
    Char.reduceVal, UInt32.reduceToNat, ge_iff_le] at within
  rw [Char.toNat]
  omega

theorem plainSegment {s : String} (plain : ∀ c ∈ s.toList, c.isAlphanum = true) :
    encodeSegment s = s := by
  have kept : ∀ n < 0x80, (Char.ofNat n).isAlphanum = true → isPlain (.ofNat n) = true := by
    decide +kernel
  have chars (l : List Char) (plain : ∀ c ∈ l, c.isAlphanum = true) :
      Percent.encode isPlain (Utf8.encodeChars l) = l := by
    induction l with
    | nil => rfl
    | cons c l ih =>
      have ⟨head, tail⟩ := List.forall_mem_cons.mp plain
      have ascii := alphanumAscii head
      have own : isPlain (.ofNat c.toNat) = true := kept c.toNat ascii (by rwa [Char.ofNat_toNat])
      rw [Utf8.encodeChars, List.flatMap_cons, Utf8.asciiByte ascii, List.singleton_append,
        Percent.encode, List.flatMap_cons, if_pos own, Utf8.asciiBack ascii, ← Percent.encode,
        ← Utf8.encodeChars, ih tail, List.singleton_append]
  rw [encodeSegment, Utf8.encode, chars _ plain, String.ofList_toList]

theorem segmentFilled {s : String} (filled : s ≠ "") : encodeSegment s ≠ "" := by
  intro empty
  have read := segmentRead s
  rw [empty] at read
  exact filled (Option.some.inj read).symm

theorem byteDecoded (b : UInt8) (rest : Bytes) :
    Percent.decodeAfter 0
      (Utf8.encodeChars ((encodeByte b).map fun c => if c = '+' then ' ' else c) ++ rest) =
        b :: Percent.decodeAfter 0 rest := by
  unfold encodeByte
  split
  · rename_i blank
    obtain rfl := beq_iff_eq.mp blank
    exact Percent.keptDecoded (b := 0x20) (by decide) (by decide) rest
  · split
    · rename_i plain
      obtain ⟨ascii, whole, noPlus⟩ := plainKept plain
      have other : Char.ofNat b.toNat ≠ '+' := fun same => noPlus <| UInt8.toNat_inj.mp <| by
        rw [← Percent.byteAscii ascii, same]
        rfl
      rw [List.map_singleton, if_neg other, Percent.keptDecoded ascii whole]
    · have size := b.toNat_lt
      have noPlus : ∀ n < 16, Hex.digit n ≠ '+' := by decide
      have untouched : (Percent.escape b).map (fun c => if c = '+' then ' ' else c) =
          Percent.escape b := by
        simp [Percent.escape, noPlus (b.toNat / 16) (by omega), noPlus (b.toNat % 16) (by omega)]
      rw [untouched, Percent.escapeDecoded]

theorem componentRead (s : String) : decodeComponent (encodeComponent s) = s := by
  have bytes (raw : Bytes) : Percent.decodeAfter 0
      (Utf8.encodeChars ((raw.flatMap encodeByte).map fun c => if c = '+' then ' ' else c)) = raw := by
    induction raw with
    | nil => rfl
    | cons b raw ih =>
      rw [List.flatMap_cons, List.map_append, Utf8.encodeCharsAppend, byteDecoded, ih]
  rw [decodeComponent, encodeComponent, Percent.decode, bytes, Utf8.decodeLossyEncode]

def isQuiet (c : Char) : Bool := c.isAlphanum || ['*', '-', '.', '_', '+', '%'].contains c

theorem byteQuiet (b : UInt8) : ∀ c ∈ encodeByte b, isQuiet c = true :=
  List.all_eq_true.mp <|
    everyByte (p := fun b => (encodeByte b).all isQuiet = true) (by decide +kernel) b

theorem componentQuiet {s : String} {c : Char} (mem : c ∈ encodeComponent s) : isQuiet c = true := by
  obtain ⟨b, _, mem⟩ := List.mem_flatMap.mp mem
  exact byteQuiet b c mem

theorem segmentQuiet {s : String} {c : Char} (mem : c ∈ (encodeSegment s).toList) :
    isQuiet c = true := by
  rw [encodeSegment, String.toList_ofList, Percent.encode] at mem
  obtain ⟨b, _, mem⟩ := List.mem_flatMap.mp mem
  have own := everyByte (p := fun b =>
    (if isPlain b then [Char.ofNat b.toNat] else Percent.escape b).all isQuiet = true)
    (by decide +kernel) b
  exact List.all_eq_true.mp own c mem

theorem quietApart {c sep : Char} (quiet : isQuiet c = true) (loud : isQuiet sep = false) :
    (c == sep) = false := by
  refine beq_eq_false_iff_ne.mpr ?_
  rintro rfl
  rw [quiet] at loud
  contradiction

theorem pairRead (pair : String × String) : decodePair (encodePair pair) = pair := by
  have names : ∀ c ∈ encodeComponent pair.1, (c == '=') = false :=
    fun c mem => quietApart (componentQuiet mem) (by decide)
  rw [decodePair, encodePair, Text.cutAtSeparator names rfl]
  simp only [Option.getD_some, componentRead]

theorem pairApart {pair : String × String} {sep c : Char} (loud : isQuiet sep = false)
    (other : sep ≠ '=') (mem : c ∈ encodePair pair) : (c == sep) = false := by
  rcases List.mem_append.mp mem with name | value
  · exact quietApart (componentQuiet name) loud
  · rcases List.mem_cons.mp value with rfl | value
    · exact beq_eq_false_iff_ne.mpr other.symm
    · exact quietApart (componentQuiet value) loud

theorem encodeApart {pairs : List (String × String)} {sep c : Char} (loud : isQuiet sep = false)
    (noEquals : sep ≠ '=') (noAnd : sep ≠ '&') (mem : c ∈ encode pairs) : (c == sep) = false := by
  rcases Text.memJoin mem with between | ⟨part, there, inside⟩
  · obtain rfl := List.mem_singleton.mp between
    exact beq_eq_false_iff_ne.mpr noAnd.symm
  · obtain ⟨pair, _, rfl⟩ := List.mem_map.mp there
    exact pairApart loud noEquals inside

theorem pairsRead (pairs : List (String × String)) : decode (encode pairs) = pairs := by
  cases pairs with
  | nil => rfl
  | cons pair pairs =>
    have parts : Text.split (· == '&') (encode (pair :: pairs)) = (pair :: pairs).map encodePair := by
      refine Text.splitJoin rfl (by simp) fun part mem c inside => ?_
      obtain ⟨_, _, rfl⟩ := List.mem_map.mp mem
      exact pairApart (by decide) (by decide) inside
    have filled : ∀ part ∈ (pair :: pairs).map encodePair, (!part.isEmpty) = true := by
      intro part mem
      obtain ⟨_, _, rfl⟩ := List.mem_map.mp mem
      simp [encodePair]
    rw [decode, parts, List.filter_eq_self.mpr filled, List.map_map]
    exact (List.map_congr_left fun p _ => pairRead p).trans (List.map_id _)

end Form

namespace Whole

theorem intCharsSigned (n : Int) : Signed (intChars n) n := by
  cases n with
  | ofNat n => exact .unsigned (.bare (charsNumeral n))
  | negSucc n => exact .minus (charsNumeral (n + 1))

theorem numeralQuiet {s : List Char} {n : Nat} (numeral : Numeral s n) :
    ∀ c ∈ s, Form.isQuiet c = true ∧ c.toNat < 0x80 ∧ c ≠ '%' := by
  intro c mem
  have digit := numeral.digits c mem
  have ⟨low, high⟩ := Char.isDigit_iff_toNat.mp digit
  simp only [Char.reduceToNat] at low high
  refine ⟨by simp [Form.isQuiet, Char.isAlphanum, digit], by omega, ?_⟩
  rintro rfl
  contradiction

theorem intQuiet (n : Int) :
    ∀ c ∈ intChars n, Form.isQuiet c = true ∧ c.toNat < 0x80 ∧ c ≠ '%' := by
  cases n with
  | ofNat n => exact numeralQuiet (charsNumeral n)
  | negSucc n => exact List.forall_mem_cons.mpr ⟨by decide, numeralQuiet (charsNumeral (n + 1))⟩

theorem intCharsFilled (n : Int) : intChars n ≠ [] := by
  cases n with
  | ofNat n => exact (charsNumeral n).filled
  | negSucc n => exact List.cons_ne_nil _ _

theorem int64Read (i : Int64) : int64? (intChars i.toInt) = some i := by
  have fits : Int64.minValue.toInt ≤ i.toInt ∧ i.toInt ≤ Int64.maxValue.toInt :=
    ⟨i.minValue_le_toInt, i.toInt_le⟩
  simp only [int64?, integerIff.mpr (intCharsSigned i.toInt), Option.bind_eq_bind, Option.bind_some,
    if_pos fits, Int64.ofInt_toInt]

theorem uint32Read (n : UInt32) : uint32? (chars n.toNat) = some n :=
  uint32Iff.mpr (.bare (charsNumeral n.toNat))

end Whole

namespace Selection

def Target.choice : Target → Selection
  | stream key => .ofStream key
  | index i => .ofIndex i
  | fixture key => .ofFixture key

theorem queryRead (t : Target) : ofQuery? (Form.encode t.pairs) = some t.choice := by
  rw [ofQuery?, Form.pairsRead]
  cases t with
  | stream key => rfl
  | index i =>
    simp only [Target.pairs, List.foldlM_cons, List.foldlM_nil, take?, Whole.intText,
      String.toList_ofList, Whole.int64Read]
    rfl
  | fixture key =>
    simp only [Target.pairs, List.foldlM_cons, List.foldlM_nil, take?, Whole.text,
      String.toList_ofList, Whole.uint32Read]
    rfl

end Selection
end MatchGuide
