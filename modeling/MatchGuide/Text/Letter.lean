/-! Letters compared without case. The words compared with are written in lower case and in ASCII
without `k`; the only letters outside ASCII whose lower case holds an ASCII letter are the Kelvin
sign, a `k`, and the dotted capital I, whose dot stays; so folding A to Z decides these
comparisons. -/
namespace MatchGuide.Text

def foldCase (c : Char) : Char :=
  if 'A' ≤ c ∧ c ≤ 'Z' then .ofNat (c.toNat + 32) else c

/- A letter as the small letters it counts as where words are compared in full: the long s, the
Kelvin sign, the sharp s and the ligatures are letters of ASCII there. -/
def foldFully (c : Char) : List Char :=
  match c with
  | '\u017F' => ['s']
  | '\u212A' => ['k']
  | '\u00DF' => ['s', 's']
  | '\u1E9E' => ['s', 's']
  | '\uFB00' => ['f', 'f']
  | '\uFB01' => ['f', 'i']
  | '\uFB02' => ['f', 'l']
  | '\uFB03' => ['f', 'f', 'i']
  | '\uFB04' => ['f', 'f', 'l']
  | '\uFB05' => ['s', 't']
  | '\uFB06' => ['s', 't']
  | c => [foldCase c]

def lower (s : List Char) : List Char := s.map foldCase

end MatchGuide.Text
