import MatchGuide.Proofs.BasePath
import MatchGuide.Server.Setup

/-! What a configuration that is accepted sets up: which of its URLs can be asked for anything. -/
namespace MatchGuide

namespace Host

theorem readFilled {s : List Char} {h : Host} (read : read? s = some h) : h.chars ≠ [] := by
  have bracketed {s : List Char} (read : bracketed? s = some h) : h.chars ≠ [] := by
    unfold bracketed? at read
    split at read
    · obtain ⟨groups, _, rfl⟩ := Option.map_eq_some_iff.mp read
      exact List.cons_ne_nil _ _
    · contradiction
  unfold read? at read
  split at read
  · exact bracketed read
  · obtain ⟨text, _, read⟩ := Option.bind_eq_some_iff.mp read
    obtain ⟨name, _, read⟩ := Option.bind_eq_some_iff.mp read
    split at read
    · contradiction
    · rename_i filled
      split at read
      · obtain ⟨n, _, rfl⟩ := Option.map_eq_some_iff.mp read
        simp [chars, ipv4Chars, Text.join]
      · obtain rfl := Option.some.inj read
        simpa [chars] using filled

end Host

namespace Url

variable {u b : Url} {s rest : List Char} {f : Frame}

theorem authorityHost {place : List Char} {a : Authority} (web : isWeb u.scheme = true)
    (read : authority? u.scheme place = some a) : a.host.chars ≠ [] := by
  simp only [authority?, host?, web, if_true, Option.ite_none_left_eq_some, Option.bind_eq_bind,
    Option.bind_eq_some_iff] at read
  obtain ⟨_, host, read, _, _, made⟩ := read
  obtain rfl := Option.some.inj made
  exact Host.readFilled read

theorem webHost (web : isWeb u.scheme = true) (other : u.scheme ≠ "file")
    (read : body? u s = some b) : ∃ host, b.hostName? = some host := by
  cases bodyCases read with
  | plain plain _ _ =>
    rw [web] at plain
    contradiction
  | atSign plain _ _ _ =>
    rw [web] at plain
    contradiction
  | framed f frame same =>
    rw [frameWeb other web] at frame
    simp only [serverFrame?] at frame
    split at frame
    · contradiction
    · obtain ⟨a, read, rfl⟩ := Option.map_eq_some_iff.mp frame
      have filled := authorityHost web read
      have host : b.host = some a.host := by
        rw [same, Frame.url, placed, if_neg (show (u.seated a).scheme ≠ "file" from other)]
        rfl
      rw [hostName?, host]
      exact ⟨_, if_neg filled⟩

/- What more names can be put behind, once there is a slash at the end of the text. -/
def Joins (u : Url) : Prop :=
  match u.path with
  | .segments _ => True
  | .plain text => text = "" ∧ u.EndsInPath

instance (u : Url) : Decidable u.Joins := by
  unfold Joins
  split <;> infer_instance

theorem placedSegments (u : Url) (names : List String) : ∃ own, (u.placed names).path = .segments own := by
  unfold placed
  split <;> exact ⟨_, rfl⟩

theorem segmentsJoin {own : List String} (path : u.path = .segments own) : u.Joins := by
  rw [Joins, path]
  trivial

theorem webJoins (web : isWeb u.scheme = true) (read : body? u s = some b) : b.Joins := by
  cases bodyCases read with
  | framed f frame same =>
    obtain ⟨own, path⟩ := placedSegments f.front (pathNames f.front.scheme f.way)
    exact same ▸ segmentsJoin path
  | plain plain _ _ =>
    rw [web] at plain
    contradiction
  | atSign _ _ _ same => exact segmentsJoin (congrArg Url.path same)

theorem joinsFilled (read : body? u rest = some b) (filled : u.EndsInPath → rest ≠ []) :
    (∃ own, b.path = .segments own) ↔ b.Joins := by
  refine ⟨fun ⟨_, path⟩ => segmentsJoin path, fun joins => ?_⟩
  cases bodyCases read with
  | framed f frame same => exact same ▸ placedSegments _ _
  | atSign _ _ _ same => exact ⟨_, congrArg Url.path same⟩
  | plain plain bare same =>
    rw [same, Joins] at joins
    exact absurd joins.1 (escapedFilled (filled joins.2))

theorem slashedJoins (read : body? u rest = some b) (ends : u.EndsInPath)
    (unslashed : rest.getLast? ≠ some '/') (apart : isWeb u.scheme = false → rest ≠ "//@".toList) :
    ∃ root, body? u (rest ++ ['/']) = some root ∧
      ((∃ own, root.path = .segments own) ↔ b.Joins) := by
  cases bodyCases read with
  | framed f frame same =>
    have begun (plain : isWeb u.scheme = false) : rest ≠ [] := by
      rintro rfl
      have bare : [].head? ≠ some '/' := nofun
      rw [frameBare plain bare] at frame
      contradiction
    obtain ⟨g, slashed⟩ := (slashedFramed unslashed begun).mp ⟨f, frame⟩
    obtain ⟨own, path⟩ := placedSegments f.front (pathNames f.front.scheme f.way)
    exact ⟨g.url, frameBody slashed, fun _ => same ▸ segmentsJoin path,
      fun _ => placedSegments _ _⟩
  | atSign other spelled _ _ => exact absurd spelled (apart other)
  | plain plain bare same =>
    cases rest with
    | nil =>
      refine ⟨_, frameBody (frameRooted plain nofun), fun _ => ?_, fun _ => placedSegments _ _⟩
      rw [same, Joins]
      exact ⟨by decide +kernel, ends⟩
    | cons c rest =>
      refine ⟨_, bodyBare plain (by simpa using bare), ⟨nofun, fun joins => ?_⟩⟩
      rw [same, Joins] at joins
      exact absurd joins.1 (escapedFilled (List.cons_ne_nil _ _))

theorem readBody {s : String} (read : read? s = some b) :
    ∃ u rest, body? u rest = some b ∧ b.scheme = u.scheme := by
  rw [readParts] at read
  obtain ⟨⟨u, rest⟩, _, body⟩ := Option.bind_eq_some_iff.mp read
  exact ⟨u, rest, body, (bodyKeeps body).scheme⟩

theorem webHosted {s : String} (read : read? s = some b) (web : isWeb b.scheme = true)
    (other : b.scheme ≠ "file") : ∃ host, b.hostName? = some host := by
  obtain ⟨u, rest, body, same⟩ := readBody read
  rw [same] at web other
  exact webHost web other body

theorem webJoined {s : String} (read : read? s = some b) (web : isWeb b.scheme = true) : b.Joins := by
  obtain ⟨u, rest, body, same⟩ := readBody read
  rw [same] at web
  exact webJoins web body

end Url

namespace Remote
open Url

theorem ofRoot {base : String} {root : Url} (read : read? (closeBase base) = some root) :
    (∃ own, root.path = .segments own) ∧ (∃ u, Remote.of base = .ok u) ∨
      ¬ (∃ own, root.path = .segments own) ∧ Remote.of base = .error .pathless := by
  rw [Remote.of, read]
  cases path : root.path with
  | segments own => exact .inl ⟨⟨own, rfl⟩, by simp [beside?, path]⟩
  | plain text => exact .inr ⟨by simp, by simp [beside?, path]⟩

theorem rootJoins {base : String} {b : Url} (read : read? base = some b) (solid : Solid base)
    (apart : isWeb b.scheme = false →
      ∀ scheme, scheme? (clean base.toList) ≠ some (scheme, "//@".toList)) :
    ∃ root, read? (closeBase base) = some root ∧ ((∃ own, root.path = .segments own) ↔ b.Joins) := by
  obtain ⟨⟨u, rest⟩, spelled, body⟩ := Option.bind_eq_some_iff.mp ((readSolid solid).symm.trans read)
  dsimp only at body
  by_cases slash : base.toList.getLast? = some '/'
  · rw [closeBase, if_pos slash]
    refine ⟨b, read, joinsFilled body fun ends none => ?_⟩
    have last := partsLast spelled ends (frontLast slash rfl) (by decide)
    rw [none] at last
    contradiction
  · rw [closeBase, if_neg slash, readSlash, spelled, Option.bind_some]
    by_cases ends : u.EndsInPath
    · rw [ledPath ends]
      refine slashedJoins body ends (fun last => slash (restLast solid spelled ends last))
        fun other same => ?_
      rw [cleanSolid solid, partsScheme spelled ends, (bodyKeeps body).scheme] at apart
      exact apart other u.scheme (congrArg (fun rest => some (u.scheme, rest)) same)
    · -- The slash does not reach the path.
      obtain ⟨query, fragment, same, kinds⟩ := ledBehind (p := (u, rest)) ends ['/']
      rw [same, bodyAsking kinds, body]
      have whole := joinsFilled body fun own => absurd own ends
      exact ⟨_, rfl, whole⟩

theorem ofJoins {base : String} {b : Url} (read : read? base = some b) (solid : Solid base)
    (apart : isWeb b.scheme = false →
      ∀ scheme, scheme? (clean base.toList) ≠ some (scheme, "//@".toList)) :
    if b.Joins then ∃ u, Remote.of base = .ok u else Remote.of base = .error .pathless := by
  obtain ⟨root, slashed, paths⟩ := rootJoins read solid apart
  rcases ofRoot slashed with ⟨own, ok⟩ | ⟨none, failed⟩
  · rwa [if_pos (paths.mp own)]
  · rwa [if_neg (paths.not.mp none)]

end Remote

namespace FootballApi

theorem ofRead {url : String} {b : Url} (read : Url.read? url = some b) (key season team : String) :
    match b.hostName? with
    | some host => of url key season team = .ok ⟨trimSlashes url, host, key, season, team⟩
    | none => of url key season team = .error (.noHost url) := by
  rw [of, read]
  cases host : b.hostName? <;> simp [host]

end FootballApi

namespace Config
open Url

theorem refusedIff {p : Prop} [Decidable p] {e : ConfigError} {rest : Except ConfigError Unit} :
    (if p then (throw e : Except ConfigError PUnit) >>= fun _ => rest else rest) = .ok () ↔
      ¬ p ∧ rest = .ok () := by
  split <;> rename_i met
  · exact ⟨nofun, fun both => absurd met both.1⟩
  · simp [met]

theorem lastIff {p : Prop} [Decidable p] {e : ConfigError} :
    (if p then (throw e : Except ConfigError PUnit) else pure ()) = .ok () ↔ ¬ p := by
  split <;> rename_i met
  · exact ⟨nofun, fun unmet => absurd met unmet⟩
  · exact ⟨fun _ => met, fun _ => rfl⟩

theorem validIff {c : Config} : c.validate = .ok () ↔
    (Net.socketAddress? c.listenAddr.toList).isSome = true ∧
    (∀ base, c.remoteUrl = some base → (read? base).isSome = true) ∧
    (read? c.footballApiUrl).isSome = true ∧ c.refreshIntervalSecs ≠ 0 := by
  unfold validate
  dsimp only
  rw [refusedIff]
  cases c.remoteUrl with
  | none => simp [refusedIff, lastIff, Option.isSome_iff_ne_none]
  | some base => simp [refusedIff, lastIff, Option.isSome_iff_ne_none]

/- A configuration that is accepted has a service to ask for fixtures just if the address of it names
a host, and a site to read from just if its URL has a path, where a slash can be put behind it. -/
theorem acceptedStarts {c : Config} (accepted : c.validate = .ok ()) :
    (∃ b, read? c.footballApiUrl = some b ∧
      (isWeb b.scheme = true → b.scheme ≠ "file" → ∃ host, b.hostName? = some host) ∧
      ∀ key season team, match b.hostName? with
        | some host => FootballApi.of c.footballApiUrl key season team =
            .ok ⟨FootballApi.trimSlashes c.footballApiUrl, host, key, season, team⟩
        | none => FootballApi.of c.footballApiUrl key season team = .error (.noHost c.footballApiUrl)) ∧
    ∀ base, c.remoteUrl = some base → ∃ b, read? base = some b ∧
      (isWeb b.scheme = true → b.Joins) ∧
      (Solid base → (isWeb b.scheme = false →
          ∀ scheme, scheme? (clean base.toList) ≠ some (scheme, "//@".toList)) →
        if b.Joins then ∃ u, Remote.of base = .ok u else Remote.of base = .error .pathless) := by
  obtain ⟨_, remotes, football, _⟩ := validIff.mp accepted
  constructor
  · obtain ⟨b, read⟩ := Option.isSome_iff_exists.mp football
    exact ⟨b, read, fun web other => webHosted read web other, FootballApi.ofRead read⟩
  · intro base configured
    obtain ⟨b, read⟩ := Option.isSome_iff_exists.mp (remotes base configured)
    exact ⟨b, read, webJoined read, Remote.ofJoins read⟩

def readingFrom (base apiUrl : String) : Config where
  listenAddr := "0.0.0.0:8080"
  remoteUrl := some base
  fixtureCachePath := "fixtures.json"
  streamsPath := "streams.json"
  staticDir := "www"
  recordingsDir := none
  scheduleHistory := none
  footballApiUrl := apiUrl
  footballApiKey := some "k"
  footballSeason := "2022"
  footballTeam := "11075"
  refreshIntervalSecs := 3600

theorem siteStarted : (readingFrom "http://h/site?x" "foo://h/").validate = .ok () ∧
    (∃ u, Remote.of "http://h/site?x" = .ok u) ∧ ∀ key season team,
      FootballApi.of "foo://h/" key season team = .ok ⟨"foo://h", "h", key, season, team⟩ := by
  have accepted : (readingFrom "http://h/site?x" "foo://h/").validate = .ok () := by decide +kernel
  obtain ⟨⟨api, address, _, started⟩, joined⟩ := acceptedStarts accepted
  refine ⟨accepted, ?_, fun key season team => ?_⟩
  · obtain ⟨b, read, joins, starts⟩ := joined "http://h/site?x" rfl
    have known : read? "http://h/site?x" = some { siteUrl ["site"] with query := some "x" } := by
      decide +kernel
    obtain rfl := Option.some.inj (known.symm.trans read)
    have started := starts (by decide) fun other => absurd other (by decide)
    rwa [if_pos (joins rfl)] at started
  · have known : (read? "foo://h/").bind hostName? = some "h" := by decide +kernel
    have named : api.hostName? = some "h" := by
      rw [← known, show read? "foo://h/" = some api from address]
      rfl
    have started := started key season team
    rw [named] at started
    exact started

theorem mailAddressAccepted : (readingFrom "mailto:x" "mailto:x").validate = .ok () ∧
    Remote.of "mailto:x" = .error .pathless ∧
    ∀ key season team, FootballApi.of "mailto:x" key season team = .error (.noHost "mailto:x") := by
  have read : read? "mailto:x" = some { bare "mailto" with path := .plain "x" } := by decide +kernel
  exact ⟨by decide +kernel, by decide +kernel, FootballApi.ofRead read⟩

theorem webSetUp {c : Config} (accepted : c.validate = .ok ())
    (football : ∀ b, read? c.footballApiUrl = some b → isWeb b.scheme = true ∧ b.scheme ≠ "file")
    (remotes : ∀ base, c.remoteUrl = some base → Solid base ∧
      ∀ b, read? base = some b → isWeb b.scheme = true) : ∃ s, c.setUp = .ok s := by
  obtain ⟨_, urls, api, _⟩ := validIff.mp accepted
  obtain ⟨service, asked⟩ : ∃ service, c.footballApi = .ok service := by
    unfold footballApi
    cases c.apiKey? with
    | none => exact ⟨_, rfl⟩
    | some key =>
      obtain ⟨b, read⟩ := Option.isSome_iff_exists.mp api
      obtain ⟨web, other⟩ := football b read
      obtain ⟨host, named⟩ := webHosted read web other
      have made : FootballApi.of c.footballApiUrl key c.footballSeason c.footballTeam = .ok _ :=
        FootballApi.ofIff.mpr ⟨b, host, read, named, rfl⟩
      exact ⟨_, congrArg (Except.map some) made⟩
  obtain ⟨site, reads⟩ : ∃ site, c.remote = .ok site := by
    unfold remote
    cases configured : c.remoteUrl with
    | none => exact ⟨_, rfl⟩
    | some base =>
      obtain ⟨b, read⟩ := Option.isSome_iff_exists.mp (urls base configured)
      obtain ⟨solid, web⟩ := remotes base configured
      have made := Remote.ofJoins read solid fun other => absurd (web b read) (by simp [other])
      rw [if_pos (webJoined read (web b read))] at made
      obtain ⟨u, made⟩ := made
      exact ⟨_, congrArg (Except.map some) made⟩
  rw [setUp, accepted, asked, reads]
  exact ⟨_, rfl⟩

end Config
end MatchGuide
