import Mathlib.Data.List.TakeDrop
import Mathlib.Tactic.ByContra
import MatchGuide.Proofs.UrlPath

/-! A URL as two parts: what stands before its path, and the path. The first stays what it is while
text is added behind the second. -/
namespace MatchGuide.Url

/- What is read between two slashes and the path. Of a port, what follows a backslash belongs to the
path. -/
structure Authority where
  username : String
  password : String
  host : Host
  port : Option UInt16
  stray : List Char

def host? (scheme : String) (name : List Char) : Option Host :=
  if isWeb scheme then Host.read? name else Host.readPlain? name

def authority? (scheme : String) (place : List Char) : Option Authority := do
  let web := isWeb scheme
  let (user, rest) := credentials place
  let (host, port) := hostAndPort false rest
  let (digits, stray) := (port.getD []).span (· != '\\')
  let (name, password) := Text.cut (· == ':') (user.getD [])
  let password := password.getD []
  let isBare := name.isEmpty && password.isEmpty && port.isNone
  if host.isEmpty && (web || !isBare) then none
  else
    let host ← host? scheme host
    let port ← port? scheme digits
    some ⟨escaped userBytes name, escaped userBytes password, host, port, stray⟩

def seated (u : Url) (a : Authority) : Url :=
  { u with username := a.username, password := a.password, host := some a.host, port := a.port }

theorem afterSlashesRead (u : Url) (s : List Char) :
    afterSlashes? u s =
      let (place, path) := s.span (!isSlash (isWeb u.scheme) ·)
      (authority? u.scheme place).bind fun a =>
        if place = ['@'] ∧ (!(a.stray ++ path).isEmpty || u.query.isSome || u.fragment.isSome) then none
        else some { u.seated a with path := .segments (pathNames u.scheme (a.stray ++ path)) } := by
  simp only [afterSlashes?, authority?, host?]
  generalize s.span (!isSlash (isWeb u.scheme) ·) = parts
  obtain ⟨place, path⟩ := parts
  generalize credentials place = parts
  obtain ⟨user, rest⟩ := parts
  generalize hostAndPort false rest = parts
  obtain ⟨name, port⟩ := parts
  generalize (port.getD []).span (· != '\\') = parts
  obtain ⟨digits, stray⟩ := parts
  dsimp only
  split
  · rfl
  generalize Host.read? name = web
  generalize Host.readPlain? name = other
  cases isWeb u.scheme <;> cases web <;> cases other <;> cases port? u.scheme digits <;>
    simp [seated]

structure Frame where
  front : Url
  way : List Char

def Frame.url (f : Frame) : Url := f.front.placed (pathNames f.front.scheme f.way)

def Frame.onward (f : Frame) (more : List Char) : Frame := { f with way := f.way ++ '/' :: more }

def serverFrame? (u : Url) (s : List Char) : Option Frame :=
  let (place, path) := s.span (!isSlash (isWeb u.scheme) ·)
  if place = ['@'] then none
  else (authority? u.scheme place).map fun a => ⟨u.seated a, a.stray ++ path⟩

def fileFrame? (u : Url) (s : List Char) : Option Frame :=
  let here : Url := { u with host := some (.domain "") }
  match s with
  | a :: b :: rest =>
    if isSlash true a && isSlash true b then
      let (name, path) := rest.span (!isSlash true ·)
      if (drive? name).isSome then some ⟨here, rest⟩
      else if name.isEmpty then some ⟨here, path⟩
      else (Host.read? name).map fun host =>
        ⟨{ u with host := some (if host = .domain "localhost" then .domain "" else host) }, path⟩
    else some ⟨here, s⟩
  | s => some ⟨here, s⟩

def frame? (u : Url) (s : List Char) : Option Frame :=
  if u.scheme = "file" then fileFrame? u s
  else if isWeb u.scheme then serverFrame? u (s.dropWhile (isSlash true))
  else match s with
    | '/' :: '/' :: rest => serverFrame? u rest
    | '/' :: rest => some ⟨u, '/' :: rest⟩
    | _ => none

def hostless (u : Url) : Url :=
  { u with
    username := "", password := "", host := some (.domain ""), port := none, path := .segments [] }

/- What is read without a frame: outside the web, a path that cannot be led on or an at sign
alone. -/
def unframed? (u : Url) (s : List Char) : Option Url :=
  if isWeb u.scheme then none
  else if s.head? ≠ some '/' then some { u with path := .plain (escaped [] s) }
  else if s = ['/', '/', '@'] ∧ u.query = none ∧ u.fragment = none then some u.hostless
  else none

variable {u b : Url} {s : List Char} {f : Frame}

theorem authorityNone (scheme : String) {place : List Char} (unnamed : place = [] ∨ place = ['@']) :
    authority? scheme place =
      if isWeb scheme then none else some ⟨"", "", .domain "", none, []⟩ := by
  simp only [authority?, host?]
  rcases unnamed with rfl | rfl <;> cases isWeb scheme <;> rfl

theorem spanWhole (p : Char → Bool) (s : List Char) : (s.span p).1 ++ (s.span p).2 = s := by
  rw [List.span_eq_takeWhile_dropWhile, List.takeWhile_append_dropWhile]

theorem serverRead (other : u.scheme ≠ "file") :
    afterSlashes? u s = ((serverFrame? u s).map Frame.url).or
      (if isWeb u.scheme = false ∧ s = ['@'] ∧ u.query = none ∧ u.fragment = none then
        some u.hostless else none) := by
  rw [afterSlashesRead, serverFrame?]
  by_cases sign : s = ['@']
  · have alone : s.span (!isSlash (isWeb u.scheme) ·) = (['@'], []) := by
      rw [sign]
      cases isWeb u.scheme <;> rfl
    rw [alone]
    simp only [authorityNone u.scheme (.inr rfl), if_true, Option.map_none, Option.none_or]
    cases web : isWeb u.scheme <;> cases query : u.query <;> cases fragment : u.fragment <;>
      simp [seated, hostless, pathNames, sign, web, query, fragment]
  · rw [if_neg fun all => sign all.2.1, Option.or_none]
    have whole := spanWhole (!isSlash (isWeb u.scheme) ·) s
    generalize s.span (!isSlash (isWeb u.scheme) ·) = parts at *
    obtain ⟨place, path⟩ := parts
    dsimp only at *
    by_cases own : place = ['@']
    · have more : path ≠ [] := by
        rintro rfl
        exact sign (by rw [← whole, own]; rfl)
      rw [if_pos own]
      cases authority? u.scheme place with
      | none => rfl
      | some a => simp [own, more]
    · rw [if_neg own]
      cases authority? u.scheme place with
      | none => rfl
      | some a =>
        rw [Option.bind_some, if_neg fun both => own both.1, Option.map_some, Option.map_some,
          Frame.url, placed, if_neg (show (u.seated a).scheme ≠ "file" from other)]
        rfl

theorem fileRead (file : u.scheme = "file") : file? u s = (fileFrame? u s).map Frame.url := by
  have placed (v : Url) (way : List Char) (same : v.scheme = "file") :
      some (v.withFilePath way) = (some (Frame.mk v way)).map Frame.url :=
    congrArg some (withFilePathPlaced same way)
  match s with
  | [] => exact placed _ _ file
  | [a] => exact placed _ _ file
  | a :: b :: rest =>
    simp only [file?, fileFrame?]
    generalize rest.span (!isSlash true ·) = parts
    obtain ⟨name, path⟩ := parts
    dsimp only
    split
    · split
      · exact placed _ _ file
      · split
        · exact placed _ _ file
        · cases Host.read? name with
          | none => rfl
          | some host => exact placed _ _ file
    · exact placed _ _ file

theorem plainOther (plain : isWeb u.scheme = false) : u.scheme ≠ "file" := fun file => by
  rw [file] at plain
  contradiction

theorem frameFile (file : u.scheme = "file") : frame? u s = fileFrame? u s := by
  unfold frame?
  exact if_pos file

theorem frameWeb (other : u.scheme ≠ "file") (web : isWeb u.scheme = true) :
    frame? u s = serverFrame? u (s.dropWhile (isSlash true)) := by
  unfold frame?
  rw [if_neg other, if_pos web]

theorem frameServer (plain : isWeb u.scheme = false) (rest : List Char) :
    frame? u ('/' :: '/' :: rest) = serverFrame? u rest := by
  unfold frame?
  rw [if_neg (plainOther plain), if_neg (by simp [plain])]
  rfl

theorem frameRooted (plain : isWeb u.scheme = false) {rest : List Char}
    (apart : rest.head? ≠ some '/') : frame? u ('/' :: rest) = some ⟨u, '/' :: rest⟩ := by
  unfold frame?
  rw [if_neg (plainOther plain), if_neg (by simp [plain])]
  cases rest with
  | nil => rfl
  | cons c rest =>
    have other : c ≠ '/' := by simpa using apart
    split
    · rename_i same
      exact absurd (List.cons.inj (List.cons.inj same).2).1 other
    · rename_i same
      rw [same]
    · rename_i bare
      exact absurd rfl (bare _)

theorem frameBare (plain : isWeb u.scheme = false) (bare : s.head? ≠ some '/') :
    frame? u s = none := by
  unfold frame?
  rw [if_neg (plainOther plain), if_neg (by simp [plain])]
  split
  · exact absurd rfl bare
  · exact absurd rfl bare
  · rfl

inductive Start : List Char → Prop where
  | server (rest : List Char) : Start ('/' :: '/' :: rest)
  | rooted {rest : List Char} (apart : rest.head? ≠ some '/') : Start ('/' :: rest)
  | bare {s : List Char} (bare : s.head? ≠ some '/') : Start s

theorem start (s : List Char) : Start s := by
  by_cases slash : s.head? = some '/'
  · obtain ⟨rest, rfl⟩ := List.head?_eq_some_iff.mp slash
    by_cases second : rest.head? = some '/'
    · obtain ⟨rest, rfl⟩ := List.head?_eq_some_iff.mp second
      exact .server rest
    · exact .rooted second
  · exact .bare slash

inductive Framed (u : Url) (s : List Char) (f : Frame) : Prop where
  | file (scheme : u.scheme = "file") (frame : fileFrame? u s = some f)
  | server (rest : List Char) (behind : rest <:+ s) (frame : serverFrame? u rest = some f)
  | rooted (same : f = ⟨u, s⟩)

theorem framed (frame : frame? u s = some f) : Framed u s f := by
  by_cases file : u.scheme = "file"
  · exact .file file ((frameFile file).symm.trans frame)
  by_cases web : isWeb u.scheme = true
  · exact .server _ (List.dropWhile_suffix _) ((frameWeb file web).symm.trans frame)
  have plain : isWeb u.scheme = false := by simpa using web
  cases start s with
  | server rest => exact .server rest ⟨['/', '/'], rfl⟩ ((frameServer plain rest).symm.trans frame)
  | rooted apart =>
    rw [frameRooted plain apart] at frame
    exact .rooted (Option.some.inj frame).symm
  | bare bare =>
    rw [frameBare plain bare] at frame
    contradiction

theorem bodyRead (u : Url) (s : List Char) :
    body? u s = ((frame? u s).map Frame.url).or (unframed? u s) := by
  unfold body?
  by_cases file : u.scheme = "file"
  · have web : isWeb u.scheme = true := file ▸ rfl
    rw [if_pos file, frameFile file, fileRead file, unframed?, if_pos web, Option.or_none]
  by_cases web : isWeb u.scheme = true
  · rw [if_neg file, if_pos web, frameWeb file web, serverRead file, unframed?, if_pos web,
      if_neg (by simp [web])]
  have plain : isWeb u.scheme = false := by simpa using web
  rw [if_neg file, if_neg web]
  cases start s with
  | server rest =>
    rw [frameServer plain]
    exact (serverRead file).trans (by simp [unframed?, plain])
  | @rooted rest apart =>
    rw [frameRooted plain apart, Option.map_some, Option.some_or, Frame.url, placed, if_neg file]
    split
    · rename_i same
      rw [(List.cons.inj same).2] at apart
      contradiction
    · rfl
    · rename_i bare
      exact absurd rfl (bare _)
  | bare bare =>
    rw [frameBare plain bare, unframed?, if_neg web, if_pos bare]
    split
    · exact absurd rfl bare
    · exact absurd rfl bare
    · rfl

theorem frameBody (frame : frame? u s = some f) : body? u s = some f.url := by
  rw [bodyRead, frame]
  rfl

theorem bodyBare (plain : isWeb u.scheme = false) (bare : s.head? ≠ some '/') :
    body? u s = some { u with path := .plain (escaped [] s) } := by
  rw [bodyRead, frameBare plain bare, unframed?, if_neg (by simp [plain]), if_pos bare]
  rfl

inductive Body (u : Url) (s : List Char) (b : Url) : Prop where
  | framed (f : Frame) (frame : frame? u s = some f) (same : b = f.url)
  | plain (other : isWeb u.scheme = false) (bare : s.head? ≠ some '/')
      (same : b = { u with path := .plain (escaped [] s) })
  | atSign (other : isWeb u.scheme = false) (spelled : s = ['/', '/', '@'])
      (alone : u.query = none ∧ u.fragment = none) (same : b = u.hostless)

theorem bodyCases (read : body? u s = some b) : Body u s b := by
  rw [bodyRead] at read
  cases frame : frame? u s with
  | some f =>
    rw [frame] at read
    exact .framed f frame (Option.some.inj read).symm
  | none =>
    rw [frame, Option.map_none, Option.none_or, unframed?, Option.ite_none_left_eq_some] at read
    obtain ⟨other, read⟩ := read
    have plain : isWeb u.scheme = false := by simpa using other
    split at read
    · rename_i bare
      exact .plain plain bare (Option.some.inj read).symm
    · obtain ⟨⟨spelled, alone⟩, same⟩ := Option.ite_none_right_eq_some.mp read
      exact .atSign plain spelled alone (Option.some.inj same).symm

structure Keeps (v u : Url) : Prop where
  scheme : v.scheme = u.scheme
  query : v.query = u.query
  fragment : v.fragment = u.fragment

theorem placedKeeps (u : Url) (names : List String) : Keeps (u.placed names) u := by
  unfold placed
  split <;> exact ⟨rfl, rfl, rfl⟩

theorem serverKeeps (frame : serverFrame? u s = some f) : Keeps f.front u := by
  simp only [serverFrame?] at frame
  split at frame
  · contradiction
  · obtain ⟨a, _, rfl⟩ := Option.map_eq_some_iff.mp frame
    exact ⟨rfl, rfl, rfl⟩

theorem fileKeeps (frame : fileFrame? u s = some f) : Keeps f.front u := by
  simp only [fileFrame?] at frame
  repeat' split at frame
  · obtain rfl := Option.some.inj frame
    exact ⟨rfl, rfl, rfl⟩
  · obtain rfl := Option.some.inj frame
    exact ⟨rfl, rfl, rfl⟩
  · obtain ⟨_, _, rfl⟩ := Option.map_eq_some_iff.mp frame
    exact ⟨rfl, rfl, rfl⟩
  · obtain rfl := Option.some.inj frame
    exact ⟨rfl, rfl, rfl⟩
  · obtain rfl := Option.some.inj frame
    exact ⟨rfl, rfl, rfl⟩

theorem frameKeeps (frame : frame? u s = some f) : Keeps f.front u := by
  cases framed frame with
  | file _ frame => exact fileKeeps frame
  | server _ _ frame => exact serverKeeps frame
  | rooted same => exact same ▸ ⟨rfl, rfl, rfl⟩

theorem bodyKeeps (read : body? u s = some b) : Keeps b u := by
  cases bodyCases read with
  | framed f frame same =>
    have placed : Keeps f.url f.front := placedKeeps _ _
    have front := frameKeeps frame
    exact same ▸ ⟨placed.scheme.trans front.scheme, placed.query.trans front.query,
      placed.fragment.trans front.fragment⟩
  | plain _ _ same => exact same ▸ ⟨rfl, rfl, rfl⟩
  | atSign _ _ _ same => exact same ▸ ⟨rfl, rfl, rfl⟩

section Suffixes

theorem hostAndPortSuffix {inside : Bool} {s port : List Char}
    (read : (hostAndPort inside s).2 = some port) : port <:+ s := by
  induction s generalizing inside with
  | nil => contradiction
  | cons c rest ih =>
    unfold hostAndPort at read
    split at read
    · obtain rfl := Option.some.inj read
      exact List.suffix_cons _ _
    · exact (ih read).trans (List.suffix_cons _ _)

theorem credentialsSuffix (place : List Char) : (credentials place).2 <:+ place := by
  rw [credentials]
  split
  · exact List.suffix_refl _
  · rw [← List.reverse_prefix, List.reverse_reverse]
    exact List.takeWhile_prefix _

theorem spanSuffix (p : Char → Bool) (s : List Char) : (s.span p).2 <:+ s :=
  ⟨(s.span p).1, spanWhole p s⟩

theorem authoritySuffix {scheme : String} {place : List Char} {a : Authority}
    (read : authority? scheme place = some a) : a.stray <:+ place := by
  simp only [authority?, Option.ite_none_left_eq_some, Option.bind_eq_bind,
    Option.bind_eq_some_iff] at read
  obtain ⟨_, _, _, _, _, made⟩ := read
  obtain rfl := Option.some.inj made
  refine (spanSuffix _ _).trans (List.IsSuffix.trans ?_ (credentialsSuffix place))
  cases port : (hostAndPort false (credentials place).2).2 with
  | none => exact List.nil_suffix
  | some p => exact hostAndPortSuffix port

theorem serverSuffix (frame : serverFrame? u s = some f) : f.way <:+ s := by
  have whole := spanWhole (!isSlash (isWeb u.scheme) ·) s
  simp only [serverFrame?] at frame
  generalize s.span (!isSlash (isWeb u.scheme) ·) = parts at *
  obtain ⟨place, path⟩ := parts
  dsimp only at *
  split at frame
  · contradiction
  · obtain ⟨a, read, rfl⟩ := Option.map_eq_some_iff.mp frame
    obtain ⟨before, same⟩ := authoritySuffix read
    exact ⟨before, by rw [← whole, ← same, List.append_assoc]⟩

theorem fileSuffix (frame : fileFrame? u s = some f) : f.way <:+ s := by
  match s with
  | [] =>
    obtain rfl := Option.some.inj frame
    exact List.suffix_refl _
  | [a] =>
    obtain rfl := Option.some.inj frame
    exact List.suffix_refl _
  | a :: b :: rest =>
    simp only [fileFrame?] at frame
    have inside : rest <:+ a :: b :: rest := ⟨[a, b], rfl⟩
    have path := (spanSuffix (!isSlash true ·) rest).trans inside
    split at frame
    · split at frame
      · obtain rfl := Option.some.inj frame
        exact inside
      · split at frame
        · obtain rfl := Option.some.inj frame
          exact path
        · obtain ⟨_, _, rfl⟩ := Option.map_eq_some_iff.mp frame
          exact path
    · obtain rfl := Option.some.inj frame
      exact List.suffix_refl _

theorem frameSuffix (frame : frame? u s = some f) : f.way <:+ s := by
  cases framed frame with
  | file _ frame => exact fileSuffix frame
  | server _ behind frame => exact (serverSuffix frame).trans behind
  | rooted same => exact same ▸ List.suffix_refl _

end Suffixes

section Onward

theorem spanOnward (web : Bool) (s more : List Char) :
    (s ++ '/' :: more).span (!isSlash web ·) =
      ((s.span (!isSlash web ·)).1, (s.span (!isSlash web ·)).2 ++ '/' :: more) := by
  simp only [List.span_eq_takeWhile_dropWhile]
  induction s with
  | nil => rfl
  | cons c s ih =>
    obtain ⟨place, path⟩ := Prod.mk.inj ih
    rw [List.cons_append, List.takeWhile_cons, List.takeWhile_cons, List.dropWhile_cons,
      List.dropWhile_cons, place, path]
    split <;> rfl

theorem serverOnward (u : Url) (s more : List Char) :
    serverFrame? u (s ++ '/' :: more) = (serverFrame? u s).map (·.onward more) := by
  simp only [serverFrame?, spanOnward]
  split
  · rfl
  · rw [Option.map_map]
    refine congrArg (Option.map · _) (funext fun a => ?_)
    simp [Frame.onward]

theorem fileOnward (u : Url) {s : List Char} (solid : ∃ c ∈ s, isSlash true c = false)
    (more : List Char) : fileFrame? u (s ++ '/' :: more) = (fileFrame? u s).map (·.onward more) := by
  match s with
  | [] =>
    obtain ⟨_, mem, _⟩ := solid
    contradiction
  | [a] =>
    obtain ⟨c, mem, apart⟩ := solid
    obtain rfl := List.mem_singleton.mp mem
    simp [fileFrame?, apart, Frame.onward]
  | a :: b :: rest =>
    simp only [fileFrame?, List.cons_append, spanOnward]
    split
    · split
      · rfl
      · split
        · rfl
        · rw [Option.map_map]
          rfl
    · rfl

theorem frameOnward (solid : ∃ c ∈ s, isSlash (isWeb u.scheme) c = false) (more : List Char) :
    frame? u (s ++ '/' :: more) = (frame? u s).map (·.onward more) := by
  by_cases file : u.scheme = "file"
  · rw [frameFile file, frameFile file]
    exact fileOnward u (by rwa [file] at solid) more
  by_cases web : isWeb u.scheme = true
  · -- A text of slashes alone would lose them all, the new one too.
    have left : (s.dropWhile (isSlash true)).isEmpty = false := by
      rw [web] at solid
      obtain ⟨c, mem, apart⟩ := solid
      rw [List.isEmpty_eq_false_iff, Ne, List.dropWhile_eq_nil_iff]
      intro all
      rw [all c mem] at apart
      contradiction
    rw [frameWeb file web, frameWeb file web, List.dropWhile_append, if_neg (by simp [left])]
    exact serverOnward u _ more
  have plain : isWeb u.scheme = false := by simpa using web
  rw [plain] at solid
  obtain ⟨c, mem, apart⟩ := solid
  have other : c ≠ '/' := by simpa [isSlash] using apart
  have begins {rest : List Char} (filled : rest ≠ []) (bare : rest.head? ≠ some '/') :
      (rest ++ '/' :: more).head? ≠ some '/' := by
    rwa [List.head?_append, List.head?_eq_some_head filled, Option.some_or,
      ← List.head?_eq_some_head filled]
  cases start s with
  | server rest =>
    rw [List.cons_append, List.cons_append, frameServer plain, frameServer plain]
    exact serverOnward u rest more
  | @rooted rest bare =>
    have filled : rest ≠ [] := by
      rintro rfl
      exact other (List.mem_singleton.mp mem)
    rw [List.cons_append, frameRooted plain bare, frameRooted plain (begins filled bare)]
    rfl
  | bare bare =>
    rw [frameBare plain bare, frameBare plain (begins (List.ne_nil_of_mem mem) bare)]
    rfl

theorem serverEmpty (web : isWeb u.scheme = true) : serverFrame? u [] = none := by
  simp only [serverFrame?, List.span_eq_takeWhile_dropWhile, List.takeWhile_nil,
    authorityNone u.scheme (.inl rfl), web]
  rfl

theorem frameEmpty (web : isWeb u.scheme = true) :
    frame? u ['/'] = (frame? u []).map (·.onward []) := by
  by_cases file : u.scheme = "file"
  · rw [frameFile file, frameFile file]
    rfl
  · rw [frameWeb file web, frameWeb file web, List.dropWhile_cons_of_pos rfl, List.dropWhile_nil,
      serverEmpty web]
    rfl

end Onward

section Slashes

theorem spanSlashes {web : Bool} (all : ∀ c ∈ s, isSlash web c = true) :
    s.span (!isSlash web ·) = ([], s) := by
  cases s with
  | nil => rfl
  | cons c s =>
    have slash := all c List.mem_cons_self
    simp [List.span_eq_takeWhile_dropWhile, slash]

theorem fileSlashes (all : ∀ c ∈ s, isSlash true c = true) :
    ∃ way, fileFrame? u s = some ⟨{ u with host := some (.domain "") }, way⟩ := by
  match s with
  | [] => exact ⟨_, rfl⟩
  | [a] => exact ⟨_, rfl⟩
  | a :: b :: rest =>
    have ⟨first, others⟩ := List.forall_mem_cons.mp all
    have ⟨second, others⟩ := List.forall_mem_cons.mp others
    simp only [fileFrame?, first, second, spanSlashes others]
    exact ⟨rest, rfl⟩

theorem slashesFramed (web : isWeb u.scheme = true) (all : ∀ c ∈ s, isSlash true c = true) :
    (∃ f, frame? u s = some f) ↔ u.scheme = "file" := by
  constructor
  · rintro ⟨f, frame⟩
    by_contra other
    have gone : s.dropWhile (isSlash true) = [] := List.dropWhile_eq_nil_iff.mpr all
    rw [frameWeb other web, gone, serverEmpty web] at frame
    contradiction
  · intro file
    obtain ⟨way, frame⟩ := fileSlashes (u := u) all
    exact ⟨_, (frameFile file).trans frame⟩

theorem slashesHostless (all : ∀ c ∈ s, isSlash (isWeb u.scheme) c = true)
    (frame : frame? u s = some f) : f.front.host = u.host ∨ f.front.host = some (.domain "") := by
  cases framed frame with
  | file scheme frame =>
    rw [scheme] at all
    obtain ⟨way, own⟩ := fileSlashes (u := u) all
    rw [own] at frame
    exact .inr (Option.some.inj frame ▸ rfl)
  | server rest behind frame =>
    have inner : ∀ c ∈ rest, isSlash (isWeb u.scheme) c = true :=
      fun c mem => all c (behind.subset mem)
    simp only [serverFrame?, spanSlashes inner, authorityNone u.scheme (.inl rfl)] at frame
    split at frame
    · contradiction
    split at frame
    · contradiction
    · exact .inr (Option.some.inj frame ▸ rfl)
  | rooted same => exact .inl (same ▸ rfl)

end Slashes

section Asking

def asking (u : Url) (query fragment : Option String) : Url :=
  { u with query := query, fragment := fragment }

variable {query fragment : Option String}

def Frame.asking (f : Frame) (query fragment : Option String) : Frame :=
  { f with front := f.front.asking query fragment }

theorem urlAsking (f : Frame) : (f.asking query fragment).url = f.url.asking query fragment := by
  have scheme : (f.asking query fragment).front.scheme = f.front.scheme := rfl
  simp only [Frame.url, placed, scheme]
  split <;> rfl

theorem serverAsking :
    serverFrame? (u.asking query fragment) s = (serverFrame? u s).map (·.asking query fragment) := by
  have scheme : (u.asking query fragment).scheme = u.scheme := rfl
  simp only [serverFrame?, scheme]
  split
  · rfl
  · rw [Option.map_map]
    rfl

theorem fileAsking :
    fileFrame? (u.asking query fragment) s = (fileFrame? u s).map (·.asking query fragment) := by
  match s with
  | [] => rfl
  | [a] => rfl
  | a :: b :: rest =>
    simp only [fileFrame?]
    split
    · split
      · rfl
      · split
        · rfl
        · rw [Option.map_map]
          rfl
    · rfl

theorem frameAsking :
    frame? (u.asking query fragment) s = (frame? u s).map (·.asking query fragment) := by
  have scheme : (u.asking query fragment).scheme = u.scheme := rfl
  simp only [frame?, scheme]
  split
  · exact fileAsking
  split
  · exact serverAsking
  split
  · exact serverAsking
  · rfl
  · rfl

theorem unframedAsking
    (same : query.isSome = u.query.isSome ∧ fragment.isSome = u.fragment.isSome) :
    unframed? (u.asking query fragment) s = (unframed? u s).map (·.asking query fragment) := by
  have scheme : (u.asking query fragment).scheme = u.scheme := rfl
  have none {a b : Option String} (same : a.isSome = b.isSome) : a = .none ↔ b = .none := by
    cases a <;> cases b <;> simp_all
  have asked : (u.asking query fragment).query = .none ↔ u.query = .none := none same.1
  have marked : (u.asking query fragment).fragment = .none ↔ u.fragment = .none := none same.2
  simp only [unframed?, scheme, asked, marked]
  repeat' split
  all_goals rfl

/- What a query or a fragment says does not matter for the rest, only that there is one. -/
theorem bodyAsking (same : query.isSome = u.query.isSome ∧ fragment.isSome = u.fragment.isSome) :
    body? (u.asking query fragment) s = (body? u s).map (·.asking query fragment) := by
  rw [bodyRead, bodyRead, frameAsking, unframedAsking same]
  cases frame? u s with
  | none => rfl
  | some f => exact congrArg some (urlAsking f)

end Asking

end MatchGuide.Url
