import MatchGuide.Text.Composite
import MatchGuide.Text.Mark

/-! The composed form of a text: one of all texts that differ only in how letters are put together
with their marks. Characters that always come apart have to be replaced before. -/
namespace MatchGuide.Text

def decompose : Nat → Char → List Char
  | 0, c => [c]
  | depth + 1, c =>
    match parts? c with
    | some (c, d) => decompose depth c ++ [d]
    | none => [c]

def settle (c : Char) : List Char → List Char
  | [] => [c]
  | d :: rest =>
    if combiningClass d ≠ 0 ∧ combiningClass d < combiningClass c then d :: settle c rest
    else c :: d :: rest

def settled (s : List Char) : List Char := s.foldr settle []

/- Puts a letter together with what follows. A mark that stays keeps later ones of its class from
the letter. -/
def composeFrom (c : Char) (kept : List Char) : List Char → List Char
  | [] => c :: kept.reverse
  | d :: rest =>
    let isFree := kept.head?.all (combiningClass · < combiningClass d)
    match if isFree then composite? c d else none with
    | some e => composeFrom e kept rest
    | none =>
      if combiningClass d = 0 then c :: kept.reverse ++ composeFrom d [] rest
      else composeFrom c (d :: kept) rest

def compose : List Char → List Char
  | [] => []
  | c :: rest => if combiningClass c = 0 then composeFrom c [] rest else c :: compose rest

def composed (s : List Char) : List Char := compose (settled (s.flatMap (decompose 3)))

end MatchGuide.Text
