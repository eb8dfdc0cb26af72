import MatchGuide.Text.Split
import MatchGuide.Text.Utf8
import MatchGuide.Text.Whole

/-! Percent escapes, a byte written as `%` and two hexadecimal digits, and what is written with
them: names and values in the query of a URL, and single segments of its path. In a query a space is
a plus sign; in a path it is escaped like any other byte. -/
namespace MatchGuide.Percent

def escape (b : UInt8) : List Char := ['%', Hex.digit (b.toNat / 16), Hex.digit (b.toNat % 16)]

def encode (keep : UInt8 → Bool) (raw : Bytes) : List Char :=
  raw.flatMap fun b => if keep b then [.ofNat b.toNat] else escape b

def escaped? : UInt8 → Bytes → Option UInt8
  | 0x25, high :: low :: _ => do
    let h ← Hex.value? (.ofNat high.toNat)
    let l ← Hex.value? (.ofNat low.toNat)
    some (.ofNat (16 * h + l))
  | _, _ => none

def decodeAfter : Nat → Bytes → Bytes
  | _, [] => []
  | skip + 1, _ :: rest => decodeAfter skip rest
  | 0, b :: rest =>
    match escaped? b rest with
    | some v => v :: decodeAfter 2 rest
    | none => b :: decodeAfter 0 rest

def decode (raw : Bytes) : Bytes := decodeAfter 0 raw

def decodeText? (s : String) : Option String := Utf8.decode? (decode (Utf8.encode s))

end MatchGuide.Percent

namespace MatchGuide.Form

def isPlain (b : UInt8) : Bool :=
  (0x30 ≤ b && b ≤ 0x39) || (0x41 ≤ b && b ≤ 0x5A) || (0x61 ≤ b && b ≤ 0x7A) ||
    b == 0x2A || b == 0x2D || b == 0x2E || b == 0x5F

def encodeByte (b : UInt8) : List Char :=
  if b == 0x20 then ['+'] else if isPlain b then [.ofNat b.toNat] else Percent.escape b

def encodeComponent (s : String) : List Char := (Utf8.encode s).flatMap encodeByte

def decodeComponent (s : List Char) : String :=
  Utf8.decodeLossy (Percent.decode (Utf8.encodeChars (s.map fun c => if c = '+' then ' ' else c)))

def encodeSegment (s : String) : String :=
  String.ofList (Percent.encode isPlain (Utf8.encode s))

def encodePair (pair : String × String) : List Char :=
  encodeComponent pair.1 ++ '=' :: encodeComponent pair.2

def encode (pairs : List (String × String)) : List Char :=
  Text.join ['&'] (pairs.map encodePair)

def decodePair (s : List Char) : String × String :=
  let (name, value) := Text.cut (· == '=') s
  (decodeComponent name, decodeComponent (value.getD []))

def decode (query : List Char) : List (String × String) :=
  ((Text.split (· == '&') query).filter (!·.isEmpty)).map decodePair

end MatchGuide.Form
