import Mathlib.Data.List.TakeWhile
import MatchGuide.Proofs.QueryText
import MatchGuide.Url.Parser

/-! The path of a URL as a walk over its segments. What stands behind a further slash begins where
the walk over the segments before it has led. -/
namespace MatchGuide

theorem Utf8.asciiInside {b : UInt8} {s : List Char} (ascii : b.toNat < 0x80)
    (mem : b ∈ encodeChars s) : .ofNat b.toNat ∈ s := by
  obtain ⟨c, inside, mem⟩ := List.mem_flatMap.mp mem
  by_cases small : c.toNat < 0x80
  · rw [asciiByte small, List.mem_singleton] at mem
    subst mem
    rwa [asciiBack small]
  · have high := encodeCharHigh (by omega) b mem
    omega

namespace Url

theorem escapedLacks {barred : List UInt8} {s : List Char} (absent : '/' ∉ s) :
    '/' ∉ (escaped barred s).toList := by
  intro mem
  rw [escaped, String.toList_ofList, Percent.encode] at mem
  obtain ⟨b, inside, mem⟩ := List.mem_flatMap.mp mem
  split at mem
  · rename_i kept
    have ascii : b.toNat < 0x80 := by
      simp only [Host.isControl, Bool.and_eq_true, Bool.not_eq_true', Bool.or_eq_false_iff,
        decide_eq_false_iff_not, UInt8.not_lt] at kept
      have high := UInt8.le_iff_toNat_le.mp kept.1.2
      simp at high
      omega
    rw [List.mem_singleton] at mem
    exact absent (mem ▸ Utf8.asciiInside ascii inside)
  · have size := b.toNat_lt
    have apart : ∀ n < 16, Hex.digit n ≠ '/' := by decide
    have high := apart (b.toNat / 16) (by omega)
    have low := apart (b.toNat % 16) (by omega)
    simp [Percent.escape, high.symm, low.symm] at mem

theorem escapedFilled {barred : List UInt8} {s : List Char} (filled : s ≠ []) :
    escaped barred s ≠ "" := by
  obtain ⟨c, rest, rfl⟩ := List.exists_cons_of_ne_nil filled
  obtain ⟨b, bytes, first⟩ := List.exists_cons_of_ne_nil (Utf8.encodeCharFilled c)
  intro empty
  have chars := congrArg String.toList empty
  rw [escaped, String.toList_ofList, Percent.encode, Utf8.encodeChars, List.flatMap_cons, first,
    List.cons_append, List.flatMap_cons] at chars
  split at chars
  · contradiction
  · contradiction

def walk (file : Bool) (names : List String) (parts : List (List Char)) : List String :=
  parts.foldl (fun names part => descend file names part false) names

def parts (web : Bool) : List Char → List (List Char)
  | [] => []
  | c :: rest => Text.split (isSlash web) (if isSlash web c then rest else c :: rest)

/- Where a path has led when one more slash follows it. -/
def stem (scheme : String) (way : List Char) : List String :=
  walk (scheme == "file") [] (parts (isWeb scheme) way)

theorem segmentsAppend (file : Bool) (names : List String) (parts : List (List Char))
    {more : List (List Char)} (filled : more ≠ []) :
    segments file names (parts ++ more) = segments file (walk file names parts) more := by
  induction parts generalizing names with
  | nil => rfl
  | cons part parts ih =>
    obtain ⟨next, others, list⟩ := List.exists_cons_of_ne_nil (List.append_ne_nil_of_right_ne_nil parts filled)
    rw [List.cons_append, list, segments.eq_3 _ _ _ _ (List.cons_ne_nil _ _), ← list, ih]
    rfl

theorem slashAlways (web : Bool) : isSlash web '/' = true := rfl

theorem partsAppend (web : Bool) (way rest : List Char) :
    parts web (way ++ '/' :: rest) = parts web way ++ Text.split (isSlash web) rest := by
  cases way with
  | nil => rfl
  | cons c way =>
    rw [List.cons_append, parts, parts]
    split
    · exact Text.splitAppend (slashAlways web) way rest
    · exact Text.splitAppend (slashAlways web) (c :: way) rest

theorem pathNamesFilled (scheme : String) {way : List Char} (filled : way ≠ []) :
    pathNames scheme way = segments (scheme == "file") [] (parts (isWeb scheme) way) := by
  cases way with
  | nil => contradiction
  | cons c way => rfl

theorem namesBelow (scheme : String) (way rest : List Char) :
    pathNames scheme (way ++ '/' :: rest) =
      segments (scheme == "file") (stem scheme way) (Text.split (isSlash (isWeb scheme)) rest) := by
  rw [pathNamesFilled scheme (by simp), partsAppend, segmentsAppend _ _ _ (Text.splitNeNil _ _), stem]

/- A segment of dots leads back or nowhere, which leaves an empty name at the end of a path; any
other one leads to a name. -/
inductive Descent (file : Bool) (names : List String) (part : List Char) : Prop where
  | dots (left : List String)
      (same : ∀ isLast, descend file names part isLast = if isLast then left ++ [""] else left)
  | name (name : String) (same : ∀ isLast, descend file names part isLast = names ++ [name])
      (filled : part ≠ [] → name ≠ "") (unslashed : '/' ∉ part → '/' ∉ name.toList)

theorem driveLetter {part : List Char} {c : Char} (drive : drive? part = some c) :
    c.isAlpha = true := by
  unfold drive? at drive
  split at drive
  · split at drive
    · rename_i letter
      obtain rfl := Option.some.inj drive
      exact (Bool.and_eq_true_iff.mp letter).1
    · contradiction
  · contradiction

theorem driveLacks {c : Char} (letter : c.isAlpha = true) : '/' ∉ (String.ofList [c, ':']).toList := by
  have other : '/' ≠ c := by
    rintro rfl
    contradiction
  simp [other]

theorem descent (file : Bool) (names : List String) (part : List Char) :
    Descent file names part := by
  by_cases nowhere : dots? part = some 1
  · exact .dots names fun _ => by simp only [descend, nowhere]
  by_cases back : dots? part = some 2
  · exact .dots (shorten names) fun _ => by simp only [descend, back]
  have named (isLast : Bool) : descend file names part isLast =
      ((if file && names.isEmpty then drive? part else none).map fun c => .ofList [c, ':']).elim
        (names ++ [escaped pathBytes part]) fun name => names ++ [name] := by
    unfold descend
    cases dots : dots? part with
    | none => cases file && names.isEmpty <;> cases drive? part <;> rfl
    | some n =>
      rcases n with _ | _ | _ | n
      · cases file && names.isEmpty <;> cases drive? part <;> rfl
      · exact absurd dots nowhere
      · exact absurd dots back
      · cases file && names.isEmpty <;> cases drive? part <;> rfl
  cases drive : if file && names.isEmpty then drive? part else none with
  | none =>
    exact .name _ (fun isLast => by rw [named, drive]; rfl) escapedFilled escapedLacks
  | some c =>
    have own : drive? part = some c := (Option.ite_none_right_eq_some.mp drive).2
    refine .name (.ofList [c, ':']) (fun isLast => by rw [named, drive]; rfl) (fun _ => by simp)
      fun _ => ?_
    exact driveLacks (driveLetter own)

inductive Ends (names stem : List String) : Prop where
  | closed (same : names = stem ++ [""])
  | named (same : names = stem) (last : ∀ name, stem.getLast? = some name →
      name ≠ "" ∧ '/' ∉ name.toList)

theorem partsEnds (web : Bool) {way : List Char} (filled : way ≠ []) :
    ∃ front last, parts web way = front ++ [last] ∧ '/' ∉ last ∧
      (last = [] → ∃ c, way.getLast? = some c ∧ isSlash web c = true) := by
  obtain ⟨c, rest, rfl⟩ := List.exists_cons_of_ne_nil filled
  rw [parts]
  split
  · rename_i slash
    obtain ⟨front, last, split, plain, ends⟩ := Text.splitEnds (isSlash web) rest
    refine ⟨front, last, split, fun mem => absurd (plain _ mem) (by simp [slashAlways]), fun empty => ?_⟩
    rcases ends empty with rfl | ⟨d, final, is⟩
    · exact ⟨c, rfl, slash⟩
    · exact ⟨d, by simp [List.getLast?_cons, final], is⟩
  · obtain ⟨front, last, split, plain, ends⟩ := Text.splitEnds (isSlash web) (c :: rest)
    refine ⟨front, last, split, fun mem => absurd (plain _ mem) (by simp [slashAlways]), fun empty => ?_⟩
    exact (ends empty).resolve_left (List.cons_ne_nil _ _)

theorem stemLast (scheme : String) {way : List Char} (filled : way ≠ []) :
    ∃ names last, pathNames scheme way = descend (scheme == "file") names last true ∧
      stem scheme way = descend (scheme == "file") names last false ∧ '/' ∉ last ∧
      (last = [] → ∃ c, way.getLast? = some c ∧ isSlash (isWeb scheme) c = true) := by
  obtain ⟨front, last, list, absent, ends⟩ := partsEnds (isWeb scheme) filled
  refine ⟨walk (scheme == "file") [] front, last, ?_, ?_, absent, ends⟩
  · rw [pathNamesFilled scheme filled, list, segmentsAppend _ _ _ (List.cons_ne_nil _ _)]
    rfl
  · rw [stem, list, walk, List.foldl_append]
    rfl

theorem pathNamesEmpty (scheme : String) :
    pathNames scheme [] = [] ∨ pathNames scheme [] = [""] := by
  rw [pathNames]
  split
  · exact .inr rfl
  · exact .inl rfl

theorem stemEnds (scheme : String) {way : List Char}
    (solid : ∀ c, way.getLast? = some c → isSlash (isWeb scheme) c = false) :
    Ends (pathNames scheme way) (stem scheme way) := by
  by_cases filled : way = []
  · subst filled
    rcases pathNamesEmpty scheme with none | one
    · exact .named none (by simp [stem, parts, walk])
    · exact .closed one
  · obtain ⟨names, last, own, led, absent, ends⟩ := stemLast scheme filled
    have named : last ≠ [] := fun empty => by
      obtain ⟨c, final, slash⟩ := ends empty
      rw [solid c final] at slash
      contradiction
    rw [own, led]
    cases descent (scheme == "file") names last with
    | dots left same => exact .closed (by rw [same, same]; rfl)
    | name name same filled unslashed =>
      refine .named (by rw [same, same]) fun final there => ?_
      rw [same, List.getLast?_concat] at there
      obtain rfl := Option.some.inj there
      exact ⟨filled named, unslashed absent⟩

theorem stemTrimmed (scheme : String) (way : List Char) :
    pathNames scheme way = stem scheme way ∨ pathNames scheme way = stem scheme way ++ [""] := by
  by_cases filled : way = []
  · subst filled
    exact pathNamesEmpty scheme
  · obtain ⟨names, last, own, led, _, _⟩ := stemLast scheme filled
    rw [own, led]
    cases descent (scheme == "file") names last with
    | dots left same => exact .inr (by rw [same, same]; rfl)
    | name name same _ _ => exact .inl (by rw [same, same])

structure PlainPart (part : List Char) : Prop where
  named : dots? part ≠ some 1 ∧ dots? part ≠ some 2
  driveless : drive? part = none
  unescaped : escaped pathBytes part = .ofList part

theorem descendPlain {part : List Char} (plain : PlainPart part) (file : Bool)
    (names : List String) (isLast : Bool) :
    descend file names part isLast = names ++ [.ofList part] := by
  have ⟨⟨one, two⟩, driveless, unescaped⟩ := plain
  simp only [descend, driveless, unescaped]
  cases file && names.isEmpty <;> rfl

theorem segmentsPlain {parts : List (List Char)} (plain : ∀ part ∈ parts, PlainPart part)
    (file : Bool) (names : List String) :
    segments file names parts = names ++ parts.map String.ofList := by
  induction parts generalizing names with
  | nil => simp [segments]
  | cons part rest ih =>
    have ⟨head, tail⟩ := List.forall_mem_cons.mp plain
    cases rest with
    | nil => exact descendPlain head file names true
    | cons next rest =>
      rw [segments.eq_3 _ _ _ _ (List.cons_ne_nil _ _), descendPlain head, ih tail]
      simp

end Url

namespace UrlPath

def close (path : List Char) : List Char :=
  if path.getLast? = some '/' then path else path ++ ['/']

def trimmed (path : List Char) : List Char := (path.reverse.dropWhile (· == '/')).reverse

theorem segmentsAppend (names more : List String) :
    (segments (names ++ more)).chars = (segments names).chars ++ (segments more).chars :=
  List.flatMap_append

theorem closeEnds {names stem : List String} (ends : Url.Ends names stem) :
    close (segments names).chars = (segments stem).chars ++ ['/'] := by
  cases ends with
  | closed same =>
    subst same
    rw [segmentsAppend, close]
    exact if_pos (by simp [chars])
  | named same last =>
    subst same
    rw [close, if_neg]
    rcases List.eq_nil_or_concat names with rfl | ⟨front, name, rfl⟩
    · simp [chars]
    · obtain ⟨filled, absent⟩ := last name (by simp)
      have written : (segments (front ++ [name])).chars =
          ((segments front).chars ++ ['/']) ++ name.toList := by
        rw [segmentsAppend, List.append_assoc]
        simp [chars]
      rw [List.concat_eq_append, written]
      exact Text.lastAbsent (by simpa using filled) absent _

theorem trimmedClosed (path : List Char) (k : Nat) :
    trimmed (path ++ List.replicate k '/') = trimmed path := by
  induction k with
  | zero => simp
  | succ k ih =>
    rw [List.replicate_succ', ← List.append_assoc, trimmed, List.reverse_concat,
      List.dropWhile_cons_of_pos rfl]
    exact ih

theorem trimmedSplit (path : List Char) : ∃ k, path = trimmed path ++ List.replicate k '/' := by
  refine ⟨(path.reverse.takeWhile (· == '/')).length, ?_⟩
  have slashes : path.reverse.takeWhile (· == '/') =
      List.replicate (path.reverse.takeWhile (· == '/')).length '/' :=
    List.eq_replicate_of_mem fun c mem => beq_iff_eq.mp (List.mem_takeWhile_imp (p := (· == '/')) mem)
  rw [trimmed, ← List.reverse_replicate, ← slashes, ← List.reverse_append,
    List.takeWhile_append_dropWhile, List.reverse_reverse]

theorem trimmedBare {path : List Char} (bare : path.getLast? ≠ some '/') : trimmed path = path := by
  rcases List.eq_nil_or_concat path with rfl | ⟨front, c, rfl⟩
  · rfl
  · have other : c ≠ '/' := by simpa using bare
    rw [List.concat_eq_append, trimmed, List.reverse_concat,
      List.dropWhile_cons_of_neg (by simpa using other), List.reverse_cons, List.reverse_reverse]

theorem emptyNames (k : Nat) : (segments (List.replicate k "")).chars = List.replicate k '/' := by
  induction k with
  | zero => rfl
  | succ k ih =>
    rw [List.replicate_succ, List.replicate_succ, ← ih]
    rfl

end UrlPath

namespace Url

def lead (scheme : String) (names : List String) : List String :=
  if scheme = "file" then names.dropWhile (·.isEmpty) else names

def onDrive (names : List String) : Bool :=
  names.head?.any fun name => (drive? name.toList).isSome

def placed (u : Url) (names : List String) : Url :=
  if u.scheme = "file" then
    { u with
      host := if onDrive names then some (.domain "") else u.host
      path := .segments (if (lead u.scheme names).isEmpty then [""] else lead u.scheme names) }
  else { u with path := .segments names }

structure SameServer (u v : Url) : Prop where
  scheme : u.scheme = v.scheme
  username : u.username = v.username
  password : u.password = v.password
  host : u.host = v.host
  port : u.port = v.port

theorem withFilePathPlaced {u : Url} (file : u.scheme = "file") (way : List Char) :
    u.withFilePath way = u.placed (pathNames u.scheme way) := by
  rw [placed, if_pos file, lead, if_pos file]
  rfl

theorem onDriveAppend (names : List String) {more : List String} (off : onDrive more = false) :
    onDrive (names ++ more) = onDrive names := by
  cases names with
  | nil => exact off
  | cons name names => rfl

theorem placedServer (u : Url) (names : List String) {more : List String}
    (off : onDrive more = false) : SameServer (u.placed (names ++ more)) (u.placed names) := by
  unfold placed
  split
  · exact ⟨rfl, rfl, rfl, by simp only [onDriveAppend names off], rfl⟩
  · exact ⟨rfl, rfl, rfl, rfl, rfl⟩

theorem leadAppend (scheme : String) (names : List String) {name : String} (filled : name ≠ "")
    (more : List String) : lead scheme (names ++ name :: more) = lead scheme names ++ name :: more := by
  unfold lead
  split
  · rw [List.dropWhile_append]
    split
    · rename_i none
      rw [List.isEmpty_iff.mp none, List.dropWhile_cons_of_neg (by simpa using filled)]
      rfl
    · rfl
  · rfl

theorem placedBelow (u : Url) (names : List String) {name : String} (filled : name ≠ "")
    (more : List String) :
    (u.placed (names ++ name :: more)).path = .segments (lead u.scheme names ++ name :: more) := by
  unfold placed
  split
  · simp [leadAppend _ _ filled]
  · rename_i other
    rw [lead, if_neg other]

theorem leadEmpties (scheme : String) (names : List String) (k : Nat) :
    lead scheme (names ++ List.replicate k "") = lead scheme names ++ List.replicate k "" ∨
      lead scheme names = [] ∧ lead scheme (names ++ List.replicate k "") = [] := by
  unfold lead
  split
  · rw [List.dropWhile_append]
    split
    · rename_i none
      exact .inr ⟨List.isEmpty_iff.mp none, by rw [List.dropWhile_replicate]; rfl⟩
    · exact .inl rfl
  · exact .inl rfl

theorem leadLast {scheme : String} {names : List String} (filled : lead scheme names ≠ []) :
    (lead scheme names).getLast? = names.getLast? := by
  unfold lead at *
  split at filled
  · rename_i file
    rw [if_pos file]
    conv => rhs; rw [← List.takeWhile_append_dropWhile (p := (·.isEmpty)) (l := names)]
    rw [List.getLast?_append, List.getLast?_eq_some_getLast filled, Option.some_or]
  · rename_i other
    rw [if_neg other]

theorem placedClosed (u : Url) (names : List String) :
    (u.placed (names ++ [""])).path = .segments (lead u.scheme names ++ [""]) := by
  unfold placed
  split
  · rcases leadEmpties u.scheme names 1 with kept | ⟨none, gone⟩
    · have kept : lead u.scheme (names ++ [""]) = lead u.scheme names ++ [""] := kept
      simp [kept]
    · have gone : lead u.scheme (names ++ [""]) = [] := gone
      simp [gone, none]
  · rename_i other
    rw [lead, if_neg other]

theorem placedEnds (u : Url) {names stem : List String} (ends : Ends names stem) :
    ∃ list, (u.placed names).path = .segments list ∧ Ends list (lead u.scheme stem) := by
  cases ends with
  | closed same => exact ⟨_, same ▸ placedClosed u stem, .closed rfl⟩
  | named same last =>
    subst same
    unfold placed
    split
    · refine ⟨_, rfl, ?_⟩
      split
      · rename_i none
        exact .closed (by rw [List.isEmpty_iff.mp none]; rfl)
      · rename_i some
        refine .named rfl fun name there => last name ?_
        rwa [leadLast (by simpa using some)] at there
    · rename_i other
      rw [lead, if_neg other]
      exact ⟨names, rfl, .named rfl last⟩

theorem placedTrimmed (u : Url) (names : List String) (k : Nat) :
    UrlPath.trimmed (u.placed (names ++ List.replicate k "")).path.chars =
      UrlPath.trimmed (UrlPath.segments (lead u.scheme names)).chars := by
  have filled (list : List String) :
      UrlPath.trimmed (UrlPath.segments (if list.isEmpty then [""] else list)).chars =
        UrlPath.trimmed (UrlPath.segments list).chars := by
    cases list <;> rfl
  unfold placed
  split
  · rw [filled]
    rcases leadEmpties u.scheme names k with kept | ⟨none, gone⟩
    · rw [kept, UrlPath.segmentsAppend, UrlPath.emptyNames, UrlPath.trimmedClosed]
    · rw [gone, none]
  · rename_i other
    rw [lead, if_neg other, UrlPath.segmentsAppend, UrlPath.emptyNames, UrlPath.trimmedClosed]

end Url
end MatchGuide
