import MatchGuide.Json.Value
import MatchGuide.Number.Shortest

/-! JSON text without blanks. Fields are written in the order they stand in. -/
namespace MatchGuide.Json

def lowHex (n : Nat) : Char := if n < 10 then .ofNat (0x30 + n) else .ofNat (0x57 + n)

def escapeChar (c : Char) : List Char :=
  if c = '\x22' then ['\\', '\x22']
  else if c = '\\' then ['\\', '\\']
  else if c = '\x08' then ['\\', 'b']
  else if c = '\t' then ['\\', 't']
  else if c = '\n' then ['\\', 'n']
  else if c = '\x0C' then ['\\', 'f']
  else if c = '\r' then ['\\', 'r']
  else if c.toNat < 0x20 then ['\\', 'u', '0', '0', lowHex (c.toNat / 16), lowHex (c.toNat % 16)]
  else [c]

def quoted (s : String) : List Char := '\x22' :: s.toList.flatMap escapeChar ++ ['\x22']

mutual
def chars : Json → List Char
  | null => ['n', 'u', 'l', 'l']
  | bool true => ['t', 'r', 'u', 'e']
  | bool false => ['f', 'a', 'l', 's', 'e']
  | int n => Whole.intChars n
  | float x => Shortest.chars x
  | string s => quoted s
  | array [] => ['[', ']']
  | array (j :: items) => '[' :: chars j ++ moreItems items
  | object [] => ['\x7b', '\x7d']
  | object ((name, j) :: fields) => '\x7b' :: quoted name ++ ':' :: chars j ++ moreFields fields

def moreItems : List Json → List Char
  | [] => [']']
  | j :: items => ',' :: chars j ++ moreItems items

def moreFields : List (String × Json) → List Char
  | [] => ['\x7d']
  | (name, j) :: fields => ',' :: quoted name ++ ':' :: chars j ++ moreFields fields
end

def compact (j : Json) : String := String.ofList j.chars

end MatchGuide.Json
