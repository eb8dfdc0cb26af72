import MatchGuide.Net.Address
import MatchGuide.Text.Percent
import MatchGuide.Url.Domain

/-! Hosts of a URL. In the schemes of the web a host is a domain name or an address, with several
spellings for each; elsewhere it is any text without delimiters. -/
namespace MatchGuide

inductive Host where
  | domain (name : String)
  | ipv4 (n : Nat)
  | ipv6 (groups : List Nat)
  deriving DecidableEq, Repr

namespace Host

def longestZeros (groups : List Nat) : Nat × Nat :=
  let runs := (List.range groups.length).map fun i => ((groups.drop i).takeWhile (· == 0)).length
  runs.zipIdx.foldl (fun best run => if best.1 < run.1 then run else best) (0, 0)

def groupChars (n : Nat) : List Char := Nat.toDigits 16 n

def ipv6Chars (groups : List Nat) : List Char :=
  let (size, start) := longestZeros groups
  let write (gs : List Nat) := Text.join [':'] (gs.map groupChars)
  if size < 2 then write groups
  else write (groups.take start) ++ [':', ':'] ++ write (groups.drop (start + size))

def ipv4Chars (n : Nat) : List Char :=
  Text.join ['.'] ([n / 16777216, n / 65536 % 256, n / 256 % 256, n % 256].map Whole.chars)

def chars : Host → List Char
  | domain name => name.toList
  | ipv4 n => ipv4Chars n
  | ipv6 groups => '[' :: ipv6Chars groups ++ [']']

def name? (h : Host) : Option String :=
  if h.chars = [] then none else some (.ofList h.chars)

def ipv4Part? (s : List Char) : Option Nat :=
  let read (base : Nat) (ds : List Char) : Option Nat := do
    let ds ← ds.mapM Hex.value?
    if ds.all (· < base) then some (ds.foldl (fun n d => base * n + d) 0) else none
  match s with
  | [] => none
  | '0' :: 'x' :: ds => read 16 ds
  | '0' :: 'X' :: ds => read 16 ds
  | '0' :: d :: ds => read 8 (d :: ds)
  | ds => read 10 ds

def parts (name : List Char) : List (List Char) :=
  let labels := Text.split (· == '.') name
  if labels.getLast? = some [] then labels.dropLast else labels

def endsInNumber (name : List Char) : Bool :=
  match (parts name).getLast? with
  | none => false
  | some last => (!last.isEmpty && last.all Char.isDigit) || (ipv4Part? last).isSome

def ipv4? (name : List Char) : Option Nat := do
  let ns ← (parts name).mapM ipv4Part?
  let last ← ns.getLast?
  let front := ns.dropLast
  if 4 < ns.length ∨ front.any (255 < ·) ∨ 1 <<< (8 * (4 - front.length)) ≤ last then none
  else some (front.foldl (fun n b => 256 * n + b) 0 <<< (8 * (4 - front.length)) + last)

def bracketed? (s : List Char) : Option Host :=
  if s.getLast? = some ']' then (Net.ipv6? s.dropLast).map ipv6 else none

def read? (s : List Char) : Option Host :=
  match s with
  | '[' :: s => bracketed? s
  | s => do
    let text ← Utf8.decode? (Percent.decode (Utf8.encodeChars s))
    let name ← Domain.ofText? text.toList
    if name.isEmpty then none
    else if endsInNumber name then (ipv4? name).map ipv4
    else some (domain (.ofList name))

def isControl (b : UInt8) : Bool := b < 0x20 || 0x7E < b

def readPlain? (s : List Char) : Option Host :=
  let barred := ['\x00', '\t', '\n', '\r', ' ', '#', '/', ':', '<', '>', '?', '@', '[', '\\', ']', '^', '|']
  match s with
  | '[' :: s => bracketed? s
  | s =>
    if s.any barred.contains then none
    else some (domain (.ofList (Percent.encode (!isControl ·) (Utf8.encodeChars s))))

end Host
end MatchGuide
