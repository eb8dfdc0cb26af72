import MatchGuide.Text.Direction
import MatchGuide.Url.Mapping
import MatchGuide.Url.Punycode

/-! Domain names: labels with dots between them, in ASCII whatever characters they were given in. A
label outside ASCII has an encoded form with a mark in front. -/
namespace MatchGuide.Label

open Text (direction)

def isAscii (label : List Char) : Bool := label.all (·.toNat < 128)

/- The characters that the code after the mark stands for. They count as themselves, as no label
has two encoded forms. -/
def decode? (code : List Char) : Option (List Char) :=
  if code.isEmpty ∨ code.getLast? = some '-' ∨ 2000 < code.length then none
  else (Punycode.decode? code).filter fun label => Mapping.ofText? label = some label

def read? : List Char → Option (List Char)
  | 'x' :: 'n' :: '-' :: '-' :: code => if isAscii code then decode? code else none
  | label => some label

def ascii (label : List Char) : List Char :=
  if isAscii label then label else ['x', 'n', '-', '-'] ++ Punycode.encode label

/-! Which labels may stand in a name. -/

def nonJoiner : Char := '\u200c'

def joiner : Char := '\u200d'

def reaches (joins : Char → Bool) (s : List Char) : Bool :=
  (s.dropWhile Text.isTransparent).head?.any joins

/- Both joiners may follow a virama; the one that keeps letters apart may also stand between
letters that would join. What is in front comes reversed. -/
def joinersFit : List Char → List Char → Bool
  | _, [] => true
  | back, c :: rest =>
    let fits :=
      if c = nonJoiner ∨ c = joiner then
        back.head?.any Text.isVirama ||
          (c == nonJoiner && reaches Text.joinsNext back && reaches Text.joinsPrevious rest)
      else true
    fits && joinersFit (c :: back) rest

def fits (label : List Char) : Bool :=
  !label.head?.any Text.isMark && joinersFit [] label && (isAscii label || label.length ≤ 1000)

def runsRight (label : List Char) : Bool :=
  label.any fun c => 128 ≤ c.toNat && (direction c == .right || direction c == .rightDigit)

/- A label runs one way, as its first character does. Marks at its end aside, it ends in a letter
of its way or a digit; from the right, only one kind of digits stands in it. -/
def directionFits : List Char → Bool
  | [] => true
  | first :: rest =>
    let back := (rest.map direction).reverse.dropWhile (· == .mark)
    match direction first with
    | .left =>
      back.head?.all [.left, .digit].contains && !back.contains .right &&
        !back.contains .rightDigit
    | .right =>
      back.head?.all [.right, .digit, .rightDigit].contains && !back.contains .left &&
        !(back.contains .digit && back.contains .rightDigit)
    | _ => false

end MatchGuide.Label

namespace MatchGuide.Domain

def isForbidden (c : Char) : Bool :=
  c.toNat ≤ 0x20 || c == '\x7f' ||
    ['%', '#', '/', ':', '<', '>', '?', '@', '[', '\\', ']', '^', '|'].contains c

def fits (labels : List (List Char)) : Bool :=
  labels.all Label.fits && (!labels.any Label.runsRight || labels.all Label.directionFits)

def ofText? (s : List Char) : Option (List Char) := do
  let text ← Mapping.ofText? s
  let labels ← (Text.split (· == '.') text).mapM Label.read?
  let name := Text.join ['.'] (labels.map Label.ascii)
  if fits labels && !name.any isForbidden then some name else none

end MatchGuide.Domain
