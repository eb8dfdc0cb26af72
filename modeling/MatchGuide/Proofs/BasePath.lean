import MatchGuide.Feed.Football
import MatchGuide.Proofs.Upstream
import MatchGuide.Proofs.UrlText

/-! Requests to other servers go below the path of the address that is configured for them, if its
text ends with that path. -/
namespace MatchGuide

def UrlPath.isClosed : UrlPath → Bool
  | segments names => names.getLast?.all (·.isEmpty)
  | plain _ => false

namespace Url

theorem emptyPlain : PlainPart [] := ⟨⟨by decide, by decide⟩, rfl, rfl⟩

theorem namesClosed (scheme : String) (way : List Char) :
    pathNames scheme (way ++ ['/']) = stem scheme way ++ [""] := by
  rw [namesBelow, Text.split, segmentsPlain (List.forall_mem_singleton.mpr emptyPlain)]
  rfl

theorem placedNone (u : Url) :
    (u.placed []).path = .segments [] ∨ (u.placed []).path = .segments [""] := by
  unfold placed
  split
  · rename_i file
    rw [lead, if_pos file]
    exact .inr rfl
  · exact .inl rfl

inductive Closed : List String → Prop where
  | none : Closed []
  | slash (front : List String) : Closed (front ++ [""])

theorem frameClosed {f : Frame} (closed : f.way = [] ∨ f.way.getLast? = some '/') :
    ∃ own, f.url.path = .segments own ∧ Closed own := by
  rcases closed with none | slash
  · rw [Frame.url, none]
    rcases pathNamesEmpty f.front.scheme with empty | one
    · rw [empty]
      rcases placedNone f.front with path | path
      · exact ⟨_, path, .none⟩
      · exact ⟨_, path, .slash []⟩
    · rw [one]
      exact ⟨_, placedClosed f.front [], .slash _⟩
  · obtain ⟨way, list⟩ := List.getLast?_eq_some_iff.mp slash
    rw [Frame.url, list, namesClosed]
    exact ⟨_, placedClosed f.front _, .slash _⟩

theorem readClosed {s : String} {u : Url} (slash : s.toList.getLast? = some '/')
    (read : read? s = some u) (ends : u.EndsInPath) {own : List String}
    (path : u.path = .segments own) : Closed own := by
  have solid : Solid s := fun c last => Option.some.inj (slash.symm.trans last) ▸ rfl
  rw [readSolid solid] at read
  obtain ⟨⟨v, rest⟩, spelled, read⟩ := Option.bind_eq_some_iff.mp read
  have last := partsLast spelled ((endsKept (bodyKeeps read)).mp ends) (frontLast slash rfl) (by decide)
  cases bodyCases read with
  | framed f frame same =>
    have way : f.way = [] ∨ f.way.getLast? = some '/' := by
      cases final : f.way.getLast? with
      | none => exact .inl (List.getLast?_eq_none_iff.mp final)
      | some c => exact .inr ((suffixLast (frameSuffix frame) final).symm.trans last)
    obtain ⟨names, named, closed⟩ := frameClosed way
    rw [same, named] at path
    exact UrlPath.segments.inj path ▸ closed
  | plain _ _ same =>
    rw [same] at path
    contradiction
  | atSign _ _ _ same =>
    rw [same] at path
    obtain rfl := UrlPath.segments.inj path
    exact .none

theorem SameServer.symm {u v : Url} (same : SameServer u v) : SameServer v u :=
  ⟨same.scheme.symm, same.username.symm, same.password.symm, same.host.symm, same.port.symm⟩

theorem SameServer.trans {u v w : Url} (first : SameServer u v) (second : SameServer v w) :
    SameServer u w :=
  ⟨first.scheme.trans second.scheme, first.username.trans second.username,
    first.password.trans second.password, first.host.trans second.host,
    first.port.trans second.port⟩

theorem stemServer (u : Url) {names stem : List String} (ends : Ends names stem) :
    SameServer (u.placed names) (u.placed stem) := by
  cases ends with
  | closed same => exact same ▸ placedServer u stem rfl
  | named same _ => exact same ▸ ⟨rfl, rfl, rfl, rfl, rfl⟩

def Leads (root u : Url) : Prop :=
  SameServer root u ∧ UrlPath.close root.path.chars = UrlPath.close u.path.chars

variable {u : Url} {s rest : List Char} {f : Frame}

theorem slashUnless {web : Bool} {c : Char} (other : c ≠ '/') (straight : web = true → c ≠ '\\') :
    isSlash web c = false := by
  cases web with
  | false => simp [isSlash, other]
  | true => simp [isSlash, other, straight rfl]

theorem slashesGone {web : Bool} (all : ∀ c ∈ rest, isSlash web c = true)
    (unslashed : rest.getLast? ≠ some '/') (straight : web = true → rest.getLast? ≠ some '\\') :
    rest = [] := by
  rcases List.eq_nil_or_concat rest with rfl | ⟨front, c, rfl⟩
  · rfl
  · have slash := all c (by simp)
    rw [slashUnless (by simpa using unslashed) (by simpa using straight)] at slash
    contradiction

theorem onwardLeads (frame : frame? u rest = some f) (unslashed : rest.getLast? ≠ some '/')
    (straight : isWeb u.scheme = true → rest.getLast? ≠ some '\\') :
    Leads (f.onward []).url f.url := by
  have ends : Ends (pathNames f.front.scheme f.way) (stem f.front.scheme f.way) := by
    refine stemEnds f.front.scheme fun c final => ?_
    have last := suffixLast (frameSuffix frame) final
    rw [(frameKeeps frame).scheme]
    exact slashUnless (fun same => unslashed (same ▸ last)) fun web same => straight web (same ▸ last)
  have onward : (f.onward []).url = f.front.placed (stem f.front.scheme f.way ++ [""]) :=
    congrArg f.front.placed (namesClosed _ _)
  obtain ⟨own, path, closed⟩ := placedEnds f.front ends
  refine ⟨?_, ?_⟩
  · rw [onward]
    exact (placedServer f.front _ rfl).trans (stemServer f.front ends).symm
  · rw [onward, placedClosed, UrlPath.closeEnds (.closed rfl), Frame.url, path,
      UrlPath.closeEnds closed]

theorem slashedOnward (unslashed : rest.getLast? ≠ some '/')
    (straight : isWeb u.scheme = true → rest.getLast? ≠ some '\\')
    (begun : isWeb u.scheme = false → rest ≠ []) :
    frame? u (rest ++ ['/']) = (frame? u rest).map (·.onward []) := by
  by_cases solid : ∃ c ∈ rest, isSlash (isWeb u.scheme) c = false
  · exact frameOnward solid []
  · have gone : rest = [] := slashesGone (by simpa using solid) unslashed straight
    have web : isWeb u.scheme = true := Bool.of_not_eq_false fun plain => begun plain gone
    rw [gone]
    exact frameEmpty web

theorem slashedFramed (unslashed : rest.getLast? ≠ some '/')
    (begun : isWeb u.scheme = false → rest ≠ []) :
    (∃ f, frame? u rest = some f) ↔ ∃ g, frame? u (rest ++ ['/']) = some g := by
  by_cases solid : ∃ c ∈ rest, isSlash (isWeb u.scheme) c = false
  · rw [frameOnward solid]
    cases frame? u rest <;> simp
  have all : ∀ c ∈ rest, isSlash (isWeb u.scheme) c = true := by simpa using solid
  by_cases web : isWeb u.scheme = true
  · -- In the web slashes alone are the root of a file.
    rw [web] at all
    have both : ∀ c ∈ rest ++ ['/'], isSlash true c = true :=
      List.forall_mem_append.mpr ⟨all, List.forall_mem_singleton.mpr rfl⟩
    exact (slashesFramed web all).trans (slashesFramed web both).symm
  · have plain : isWeb u.scheme = false := by simpa using web
    exact absurd (slashesGone all unslashed fun also => absurd also web) (begun plain)

theorem slashedBody {root : Url} {own : List String} (read : body? u (rest ++ ['/']) = some root)
    (path : root.path = .segments own) (unslashed : rest.getLast? ≠ some '/') :
    ∃ b, body? u rest = some b ∧
      ((isWeb u.scheme = true → rest.getLast? ≠ some '\\') → Leads root b) := by
  cases bodyCases read with
  | plain _ _ same =>
    rw [same] at path
    contradiction
  | atSign _ spelled _ _ =>
    have last := congrArg List.getLast? spelled
    rw [List.getLast?_concat] at last
    exact absurd last (by decide)
  | framed g led same =>
    subst same
    by_cases begun : isWeb u.scheme = false → rest ≠ []
    · obtain ⟨f, frame⟩ := (slashedFramed unslashed begun).mpr ⟨g, led⟩
      refine ⟨f.url, frameBody frame, fun straight => ?_⟩
      rw [slashedOnward unslashed straight begun, frame] at led
      exact Option.some.inj led ▸ onwardLeads frame unslashed straight
    · -- Outside the web nothing is no path yet, and the slash begins one.
      obtain ⟨plain, rfl⟩ : isWeb u.scheme = false ∧ rest = [] := by simpa using begun
      have bare : [].head? ≠ some '/' := nofun
      obtain rfl := Option.some.inj ((frameRooted plain bare).symm.trans led)
      have placed : (Frame.mk u ['/']).url = { u with path := .segments [""] } :=
        (congrArg u.placed (namesClosed _ [])).trans (if_neg (plainOther plain))
      refine ⟨_, bodyBare plain bare, fun _ => ?_⟩
      rw [placed]
      exact ⟨⟨rfl, rfl, rfl, rfl, rfl⟩, rfl⟩

/- Where a slash behind the text of a URL is one behind its path, or the path needs none. -/
def LeadsOn (base : String) (b : Url) : Prop :=
  if b.EndsInPath then isWeb b.scheme = true → base.toList.getLast? ≠ some '\\'
  else b.path.isClosed = true

instance (base : String) (b : Url) : Decidable (LeadsOn base b) := by
  unfold LeadsOn
  infer_instance

theorem closedBehind {base : String} {b : Url} {own : List String} (leadsOn : LeadsOn base b)
    (asks : ¬ b.EndsInPath) (path : b.path = .segments own) : Closed own := by
  rw [LeadsOn, if_neg asks, path] at leadsOn
  rcases List.eq_nil_or_concat own with rfl | ⟨front, name, rfl⟩
  · exact .none
  · obtain rfl : name = "" := by simpa [UrlPath.isClosed] using leadsOn
    exact List.concat_eq_append ▸ .slash front

theorem readSlashed {base : String} {root : Url} {own : List String} (solid : Solid base)
    (unslashed : base.toList.getLast? ≠ some '/') (read : read? (base ++ "/") = some root)
    (path : root.path = .segments own) :
    ∃ b, read? base = some b ∧ (LeadsOn base b → Leads root b ∧ Closed own) := by
  obtain ⟨⟨u, rest⟩, spelled, body⟩ := Option.bind_eq_some_iff.mp ((readSlash base).symm.trans read)
  have reread {b : Url} (body : body? u rest = some b) : read? base = some b := by
    rw [readSolid solid, spelled]
    exact body
  by_cases ends : u.EndsInPath
  · rw [ledPath ends] at body
    have closed : Closed own := by
      refine readClosed ?_ read ((endsKept (bodyKeeps body)).mpr ends) path
      rw [String.toList_append]
      exact List.getLast?_concat
    obtain ⟨b, own, leads⟩ := slashedBody body path fun last =>
      unslashed (restLast solid spelled ends last)
    refine ⟨b, reread own, fun leadsOn => ⟨leads fun web last => ?_, closed⟩⟩
    rw [LeadsOn, if_pos ((endsKept (bodyKeeps own)).mpr ends), (bodyKeeps own).scheme] at leadsOn
    exact leadsOn web (restLast solid spelled ends last)
  · -- The slash goes to the query or the fragment, and the path stays.
    obtain ⟨query, fragment, same, kinds⟩ := ledBehind (p := (u, rest)) ends ['/']
    rw [same, bodyAsking kinds] at body
    obtain ⟨b, own, rfl⟩ := Option.map_eq_some_iff.mp body
    refine ⟨b, reread own, fun leadsOn => ⟨⟨⟨rfl, rfl, rfl, rfl, rfl⟩, rfl⟩, ?_⟩⟩
    exact closedBehind leadsOn ((endsKept (bodyKeeps own)).not.mpr ends) path

end Url

namespace Remote
open Url

theorem besideChars {root url : Url} {own : List String} (path : root.path = .segments own)
    (closed : Closed own) (half : Loading.Half) (beside : root.beside? (names half) = some url) :
    SameServer url root ∧ url.query = none ∧
      url.path.chars = UrlPath.close root.path.chars ++
        Text.join ['/'] ((names half).map String.toList) := by
  rw [Url.beside?, path] at beside
  obtain rfl := Option.some.inj beside
  refine ⟨⟨rfl, rfl, rfl, rfl, rfl⟩, rfl, ?_⟩
  have written (list : List String) : (UrlPath.segments (list ++ names half)).chars =
      (UrlPath.segments list).chars ++ '/' :: Text.join ['/'] ((names half).map String.toList) := by
    rw [UrlPath.segmentsAppend]
    cases half <;> rfl
  rw [path]
  cases closed with
  | none => exact written []
  | slash front =>
    rw [List.dropLast_concat, UrlPath.closeEnds (.closed rfl), List.append_assoc]
    exact written front

theorem endpointsBelow {base : String} {u : Remote} (configured : Remote.of base = .ok u)
    (solid : Solid base) :
    ∃ b, read? base = some b ∧ (LeadsOn base b → ∀ half,
      SameServer (u.url half) b ∧ (u.url half).query = none ∧
        (u.url half).path.chars = UrlPath.close b.path.chars ++
          Text.join ['/'] ((names half).map String.toList)) := by
  obtain ⟨root, read, beside⟩ := ofBase configured
  obtain ⟨own, path⟩ : ∃ own, root.path = .segments own := by
    cases path : root.path with
    | segments own => exact ⟨own, rfl⟩
    | plain text =>
      have found := beside .fixtures
      rw [Url.beside?, path] at found
      contradiction
  have below (closed : Closed own) (half : Loading.Half) := besideChars path closed half (beside half)
  by_cases slash : base.toList.getLast? = some '/'
  · rw [closeBase, if_pos slash] at read
    refine ⟨root, read, fun leadsOn => below ?_⟩
    by_cases ends : root.EndsInPath
    · exact readClosed slash read ends path
    · exact closedBehind leadsOn ends path
  · rw [closeBase, if_neg slash] at read
    obtain ⟨b, reread, leads⟩ := readSlashed solid slash read path
    refine ⟨b, reread, fun leadsOn half => ?_⟩
    obtain ⟨⟨server, closes⟩, closed⟩ := leads leadsOn
    obtain ⟨same, unasked, chars⟩ := below closed half
    exact ⟨same.trans server, unasked, by rw [chars, closes]⟩

end Remote

namespace Url
variable {u : Url} {s rest : List Char} {f : Frame}

theorem slashesSplit (web : Bool) (k : Nat) :
    Text.split (isSlash web) (List.replicate k '/') = List.replicate (k + 1) [] := by
  induction k with
  | zero => rfl
  | succ k ih => rw [List.replicate_succ, Text.split, if_pos (slashAlways web), ih]; rfl

theorem frameTrailing (solid : ∃ c ∈ rest, isSlash (isWeb u.scheme) c = false) (k : Nat) {g : Frame}
    (led : frame? u (rest ++ List.replicate k '/') = some g) :
    ∃ f m, frame? u rest = some f ∧
      g.url = f.front.placed (stem f.front.scheme f.way ++ List.replicate m "") := by
  cases k with
  | zero =>
    rw [List.replicate_zero, List.append_nil] at led
    rcases stemTrimmed g.front.scheme g.way with same | same
    · exact ⟨g, 0, led, by rw [Frame.url, same]; simp⟩
    · exact ⟨g, 1, led, by rw [Frame.url, same]; rfl⟩
  | succ k =>
    rw [List.replicate_succ, frameOnward solid] at led
    obtain ⟨f, frame, rfl⟩ := Option.map_eq_some_iff.mp led
    have plain : ∀ part ∈ List.replicate (k + 1) [], PlainPart part := fun part mem =>
      List.eq_of_mem_replicate mem ▸ emptyPlain
    refine ⟨f, k + 1, frame, congrArg f.front.placed ?_⟩
    rw [Frame.onward, namesBelow, slashesSplit, segmentsPlain plain, List.map_replicate]

theorem readTrailing {s t : String} (solid : Solid s) {k : Nat}
    (whole : s.toList = t.toList ++ List.replicate k '/') :
    read? s = (parts? (cleanFront t.toList)).bind fun p =>
      body? (led (List.replicate k '/') p).1 (led (List.replicate k '/') p).2 := by
  cases k with
  | zero =>
    obtain rfl := String.toList_injective (whole.trans (List.append_nil _))
    simp only [List.replicate_zero, ledNothing]
    exact readSolid solid
  | succ k =>
    have joined : s = t ++ .ofList (List.replicate (k + 1) '/') :=
      String.toList_injective (by rw [whole, String.toList_append, String.toList_ofList])
    rw [joined, readOnward (by simp) fun c mem => List.eq_of_mem_replicate mem ▸ rfl]

theorem emptiesOff (k : Nat) : onDrive (List.replicate k "") = false := by
  cases k <;> rfl

theorem withPairsServer (u : Url) (pairs : List (String × String)) :
    SameServer (u.withPairs pairs) u := by
  unfold withPairs
  split <;> exact ⟨rfl, rfl, rfl, rfl, rfl⟩

theorem withPairsPath (u : Url) (pairs : List (String × String)) :
    (u.withPairs pairs).path = u.path := by
  unfold withPairs
  split <;> rfl

theorem withPairsRead {u : Url} (unasked : u.query = none) (pairs : List (String × String)) :
    (u.withPairs pairs).query.map (fun q => Form.decode q.toList) = some pairs := by
  unfold withPairs
  rw [unasked]
  exact congrArg some ((congrArg Form.decode String.toList_ofList).trans (Form.pairsRead pairs))

theorem hostlessName {u : Url} (hostless : u.host = none ∨ u.host = some (.domain "")) :
    u.hostName? = none := by
  rcases hostless with none | empty
  · rw [hostName?, none]
    rfl
  · rw [hostName?, empty]
    rfl

theorem placedHostless {u : Url} (names : List String)
    (hostless : u.host = none ∨ u.host = some (.domain "")) :
    (u.placed names).hostName? = none := by
  refine hostlessName ?_
  unfold placed
  split
  · dsimp only
    split
    · exact .inr rfl
    · exact hostless
  · exact hostless

end Url

namespace FootballApi
open Url

theorem ofIff {url key season team : String} {api : FootballApi} :
    of url key season team = .ok api ↔ ∃ b host, read? url = some b ∧ b.hostName? = some host ∧
      api = ⟨trimSlashes url, host, key, season, team⟩ := by
  unfold of
  cases read? url with
  | none => simp
  | some b =>
    cases host : b.hostName? with
    | none => simp [host]
    | some host => simp [host, eq_comm]

structure Continues (text : String) (b : Url) (f : Frame) : Prop where
  readOnward : ∀ more, (∀ c ∈ '/' :: more, isInert c = true) →
    read? (text ++ .ofList ('/' :: more)) = some (f.onward more).url
  basePlaced : ∃ m, b = f.front.placed (stem f.front.scheme f.way ++ List.replicate m "")
  noQuery : f.front.query = none

theorem addressContinues {url host : String} {b : Url} (solid : Solid url) (read : read? url = some b)
    (ends : b.EndsInPath) (named : b.hostName? = some host) :
    ∃ f, Continues (trimSlashes url) b f := by
  obtain ⟨k, whole⟩ := UrlPath.trimmedSplit url.toList
  have kept : url.toList = (trimSlashes url).toList ++ List.replicate k '/' :=
    whole.trans (congrArg (· ++ _) String.toList_ofList.symm)
  obtain ⟨⟨u, rest⟩, spelled, body⟩ :=
    Option.bind_eq_some_iff.mp ((readTrailing solid kept).symm.trans read)
  have hostless := partsHostless spelled
  have own : u.EndsInPath := (ledEnds _ (u, rest)).mp ((endsKept (bodyKeeps body)).mp ends)
  rw [ledPath own] at body
  dsimp only at body
  cases bodyCases body with
  | plain _ _ same =>
    rw [hostlessName (.inl (same ▸ hostless))] at named
    cases named
  | atSign _ _ _ same =>
    rw [same, hostlessName (.inr rfl)] at named
    cases named
  | framed g framed same =>
    by_cases filled : ∃ c ∈ rest, isSlash (isWeb u.scheme) c = false
    · obtain ⟨f, m, frame, placed⟩ := frameTrailing filled k framed
      refine ⟨f, fun more inert => ?_, ⟨m, same.trans placed⟩, (frameKeeps frame).query.trans own.1⟩
      rw [readOnward (List.cons_ne_nil _ _) inert, spelled, Option.bind_some, ledPath own]
      refine frameBody ?_
      rw [frameOnward filled, frame]
      rfl
    · -- Slashes alone name no host, and the address has one.
      have all : ∀ c ∈ rest ++ List.replicate k '/', isSlash (isWeb u.scheme) c = true :=
        List.forall_mem_append.mpr ⟨by simpa using filled, fun c mem => List.eq_of_mem_replicate mem ▸ rfl⟩
      have front : g.front.host = none ∨ g.front.host = some (.domain "") :=
        (slashesHostless all framed).imp_left fun same => same.trans hostless
      rw [same, Frame.url, placedHostless _ front] at named
      cases named

namespace Continues

variable {text : String} {b : Url} {f : Frame}

theorem closed (continues : Continues text b f) : read? (text ++ "/") =
    some (f.front.placed (stem f.front.scheme f.way ++ [""])) := by
  have slashed := continues.readOnward [] (List.forall_mem_singleton.mpr (by decide))
  rwa [Frame.url, Frame.onward, namesClosed] at slashed

theorem endpointParts : ∀ part ∈ ["v3".toList, "fixtures".toList], PlainPart part := by
  simp only [List.forall_mem_cons]
  exact ⟨⟨⟨by decide, by decide⟩, by decide, by decide +kernel⟩,
    ⟨⟨by decide, by decide⟩, by decide, by decide +kernel⟩, nofun⟩

theorem endpointSplit (web : Bool) :
    Text.split (isSlash web) "v3/fixtures".toList = ["v3".toList, "fixtures".toList] := by
  cases web <;> decide

theorem endpoint (continues : Continues text b f) : read? (text ++ "/v3/fixtures") =
    some (f.front.placed (stem f.front.scheme f.way ++ ["v3", "fixtures"])) := by
  have asked := continues.readOnward "v3/fixtures".toList (List.all_eq_true.mp (by decide))
  rwa [Frame.url, Frame.onward, namesBelow, endpointSplit, segmentsPlain endpointParts] at asked

theorem server (continues : Continues text b f) {names : List String} (off : onDrive names = false) :
    SameServer (f.front.placed (stem f.front.scheme f.way ++ names)) b := by
  obtain ⟨m, same⟩ := continues.basePlaced
  refine (placedServer f.front _ off).trans (SameServer.symm ?_)
  rw [same]
  exact placedServer f.front _ (emptiesOff m)

theorem path (continues : Continues text b f)
    (apart : ¬ ['/', '/'] <:+ (f.front.placed (stem f.front.scheme f.way ++ [""])).path.chars) :
    (UrlPath.segments (lead f.front.scheme (stem f.front.scheme f.way))).chars =
      UrlPath.trimmed b.path.chars := by
  obtain ⟨m, same⟩ := continues.basePlaced
  rw [same, placedTrimmed, UrlPath.trimmedBare]
  intro last
  obtain ⟨before, list⟩ := List.getLast?_eq_some_iff.mp last
  refine apart ⟨before, ?_⟩
  rw [placedClosed, UrlPath.segmentsAppend, list, List.append_assoc]
  rfl

end Continues

theorem requestBelow {url key season team : String} {api : FootballApi}
    (configured : of url key season team = .ok api) (solid : Solid url) :
    ∃ b, read? url = some b ∧ (b.EndsInPath → ∃ closed, read? (api.url ++ "/") = some closed ∧
      (¬ ['/', '/'] <:+ closed.path.chars → ∃ get, SameServer get b ∧
        get.path.chars = UrlPath.trimmed b.path.chars ++ "/v3/fixtures".toList ∧
        get.query.map (fun q => Form.decode q.toList) = some [("season", season), ("team", team)] ∧
        api.request? = if (Utf8.encode key).all isHeaderByte then
          some ⟨get, [("X-RapidAPI-Host", api.host), ("X-RapidAPI-Key", key)]⟩ else none)) := by
  obtain ⟨b, host, read, named, rfl⟩ := ofIff.mp configured
  refine ⟨b, read, fun ends => ?_⟩
  obtain ⟨f, continues⟩ := addressContinues solid read ends named
  have server : SameServer (f.front.placed (stem f.front.scheme f.way ++ ["v3", "fixtures"])) b :=
    continues.server rfl
  refine ⟨_, continues.closed, fun apart => ?_⟩
  refine ⟨_, (withPairsServer _ [("season", season), ("team", team)]).trans server, ?_, ?_, ?_⟩
  · rw [withPairsPath, placedBelow f.front _ (by decide), UrlPath.segmentsAppend, continues.path apart]
    rfl
  · exact withPairsRead ((placedKeeps _ _).query.trans continues.noQuery) _
  · rw [request?, continues.endpoint]
    rfl

end FootballApi

open Url

/- What is asked of other servers lies below the path of the address that is configured for them:
for page data where a slash behind the address leads its path on, for fixtures where nothing comes
after the path, and where it does not end in two slashes still when it has one instead of its own. -/
theorem requestsBelow (base : String) (u : Remote) (url key season team : String) (api : FootballApi) :
    (Remote.of base = .ok u → Solid base →
      ∃ b, read? base = some b ∧ (LeadsOn base b → ∀ half : Loading.Half,
        SameServer (u.url half) b ∧ (u.url half).query = none ∧
        (u.url half).path.chars = UrlPath.close b.path.chars ++
          Text.join ['/'] ((Remote.names half).map String.toList) ∧
        ∀ net other : Network, net ⟨u.url half, []⟩ = other ⟨u.url half, []⟩ →
          half.read? (u.reads net) = half.read? (u.reads other))) ∧
    (FootballApi.of url key season team = .ok api → Solid url →
      ∃ b, read? url = some b ∧ (b.EndsInPath →
        ∃ closed, read? (api.url ++ "/") = some closed ∧ (¬ ['/', '/'] <:+ closed.path.chars →
          ∃ get, SameServer get b ∧
            get.path.chars = UrlPath.trimmed b.path.chars ++ "/v3/fixtures".toList ∧
            get.query.map (fun q => Form.decode q.toList) =
              some [("season", season), ("team", team)] ∧
            api.request? = if (Utf8.encode key).all FootballApi.isHeaderByte then
              some ⟨get, [("X-RapidAPI-Host", api.host), ("X-RapidAPI-Key", key)]⟩ else none))) := by
  refine ⟨fun configured solid => ?_, FootballApi.requestBelow⟩
  obtain ⟨b, read, below⟩ := Remote.endpointsBelow configured solid
  refine ⟨b, read, fun leadsOn half => ?_⟩
  obtain ⟨server, unasked, path⟩ := below leadsOn half
  refine ⟨server, unasked, path, fun net other same => ?_⟩
  rw [Remote.readRemote, Remote.readRemote, Remote.getJson, Remote.getJson, same]

def siteUrl (names : List String) : Url :=
  ⟨"http", "", "", some (.domain "h"), none, .segments names, none, none⟩

theorem sitesAsked :
    (∃ u, Remote.of "http://h/a/./site" = .ok u ∧ ∀ half,
      SameServer (u.url half) (siteUrl ["a", "site"]) ∧
      (u.url half).path.chars =
        "/a/site/".toList ++ Text.join ['/'] ((Remote.names half).map String.toList)) ∧
    ∃ api get, FootballApi.of "http://h/base//" "k" "20&22" "é #" = .ok api ∧
      SameServer get (siteUrl ["base", "", ""]) ∧ get.path.chars = "/base/v3/fixtures".toList ∧
      get.query.map (fun q => Form.decode q.toList) = some [("season", "20&22"), ("team", "é #")] ∧
      api.request? = some ⟨get, [("X-RapidAPI-Host", "h"), ("X-RapidAPI-Key", "k")]⟩ := by
  have configured : Remote.of "http://h/a/./site" =
      .ok ⟨siteUrl ["a", "site", "fixtures"], siteUrl ["a", "site", "streams", "all"]⟩ := by
    decide +kernel
  have started : FootballApi.of "http://h/base//" "k" "20&22" "é #" =
      .ok ⟨"http://h/base", "h", "k", "20&22", "é #"⟩ := by
    decide +kernel
  obtain ⟨below, asked⟩ := requestsBelow _ _ _ _ _ _ _
  constructor
  · have read : read? "http://h/a/./site" = some (siteUrl ["a", "site"]) := by decide +kernel
    obtain ⟨b, reread, goes⟩ := below configured (by decide)
    obtain rfl := Option.some.inj (read.symm.trans reread)
    refine ⟨_, configured, fun half => ?_⟩
    obtain ⟨server, _, path, _⟩ := goes (by decide +kernel) half
    exact ⟨server, path⟩
  · have read : read? "http://h/base//" = some (siteUrl ["base", "", ""]) := by decide +kernel
    obtain ⟨b, reread, goes⟩ := asked started (by decide)
    obtain rfl := Option.some.inj (read.symm.trans reread)
    obtain ⟨closed, slashed, goes⟩ := goes (by decide +kernel)
    have closes : read? "http://h/base/" = some (siteUrl ["base", ""]) := by decide +kernel
    obtain rfl := Option.some.inj (closes.symm.trans slashed)
    obtain ⟨get, server, path, query, sent⟩ := goes (by decide +kernel)
    exact ⟨_, get, started, server, path, query, sent⟩

/- Behind a query a slash is one of the query, and the last name of the path is lost. -/
theorem queryLosesName :
    ∃ u b, Remote.of "http://h/p?x" = .ok u ∧ read? "http://h/p?x" = some b ∧
      b.path.chars = "/p".toList ∧ ∀ half,
        (u.url half).path.chars = '/' :: Text.join ['/'] ((Remote.names half).map String.toList) ∧
        (u.url half).path.chars ≠ UrlPath.close b.path.chars ++
          Text.join ['/'] ((Remote.names half).map String.toList) := by
  refine ⟨⟨siteUrl ["fixtures"], siteUrl ["streams", "all"]⟩, { siteUrl ["p"] with query := some "x" },
    by decide +kernel, by decide +kernel, rfl, fun half => ?_⟩
  cases half <;> exact ⟨by decide, by decide⟩

end MatchGuide
