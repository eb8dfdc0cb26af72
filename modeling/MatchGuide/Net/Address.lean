import MatchGuide.Text.Split
import MatchGuide.Text.Whole

/-! Internet addresses as text: four decimal bytes, eight hexadecimal groups, and either of them with
a port. -/
namespace MatchGuide.Net

def byte? (s : List Char) : Option Nat := do
  let ds ← Whole.digits? s
  let n := Whole.valueOf ds
  if 3 < ds.length ∨ (ds.head? = some 0 ∧ 1 < ds.length) ∨ 255 < n then none else some n

def ipv4? (s : List Char) : Option Nat := do
  let bytes ← (Text.split (· == '.') s).mapM byte?
  if bytes.length = 4 then some (bytes.foldl (fun n b => 256 * n + b) 0) else none

def group? (s : List Char) : Option Nat := do
  let ds ← s.mapM Hex.value?
  if ds.isEmpty ∨ 4 < ds.length then none else some (ds.foldl (fun n d => 16 * n + d) 0)

/- Groups between colons; the last two may be written as four bytes where `tail` allows it. -/
def groups? (tail : Bool) : List (List Char) → Option (List Nat)
  | [] => some []
  | [s] =>
    match group? s with
    | some n => some [n]
    | none => if tail then (ipv4? s).map fun n => [n / 65536, n % 65536] else none
  | s :: rest => do
    let n ← group? s
    let ns ← groups? tail rest
    some (n :: ns)

def side? (tail : Bool) (s : List Char) : Option (List Nat) :=
  if s.isEmpty then some [] else groups? tail (Text.split (· == ':') s)

def cutDouble : List Char → Option (List Char × List Char)
  | [] => none
  | ':' :: ':' :: rest => some ([], rest)
  | c :: rest => (cutDouble rest).map fun (a, b) => (c :: a, b)

def ipv6? (s : List Char) : Option (List Nat) :=
  match cutDouble s with
  | none => do
    let ns ← groups? true (Text.split (· == ':') s)
    if ns.length = 8 then some ns else none
  | some (front, back) => do
    let front ← side? false front
    let back ← side? true back
    let known := front.length + back.length
    if known ≤ 7 then some (front ++ List.replicate (8 - known) 0 ++ back) else none

inductive Address where
  | v4 (n : Nat)
  | v6 (groups : List Nat) (scope : Nat)
  deriving DecidableEq, Repr

structure SocketAddress where
  address : Address
  port : UInt16
  deriving DecidableEq, Repr

def below? (bound : Nat) (s : List Char) : Option Nat := do
  let ds ← Whole.digits? s
  let n := Whole.valueOf ds
  if n < bound then some n else none

def port? (s : List Char) : Option UInt16 := (below? UInt16.size s).map .ofNat

def bracketed? (s : List Char) : Option (Address × List Char) := do
  let (inner, after) := Text.cut (· == ']') s
  let rest ← after
  let (groups, scope) := Text.cut (· == '%') inner
  let groups ← ipv6? groups
  let scope ← match scope with
    | none => some 0
    | some s => below? UInt32.size s
  some (.v6 groups scope, rest)

def socketAddress? : List Char → Option SocketAddress
  | '[' :: s => do
    let (address, rest) ← bracketed? s
    match rest with
    | ':' :: port => (port? port).map (⟨address, ·⟩)
    | _ => none
  | s => do
    let (address, port) := Text.cut (· == ':') s
    let port ← port
    let n ← ipv4? address
    (port? port).map (⟨.v4 n, ·⟩)

end MatchGuide.Net
