import MatchGuide.Proofs.Forms
import MatchGuide.Proofs.History

/-! The buttons of a page. What one of them posts is there to be played, as long as the page and the
files stay as they were. -/
namespace MatchGuide

def Snapshot.Filed (shot : Snapshot) : Prop :=
  ∀ league fixtures, shot.leagues.find? league = some fixtures → ∀ f ∈ fixtures, f.league = league

namespace Schedule

theorem targetWatched {r : Row} {target : Selection.Target} (mem : target ∈ r.target?.toList) :
    ∃ key, r.watch = some key ∧ target = .fixture key := by
  rw [Option.mem_toList] at mem
  unfold Row.target? at mem
  split at mem
  · rename_i key watched _
    exact ⟨key, watched, (Option.some.inj mem).symm⟩
  · contradiction

theorem watchedRow {leagues : Leagues} {league : String} {now : Instant} {recorded : Fixture → Bool}
    {history : Option Nat} {r : Row} {key : FixtureKey}
    (mem : r ∈ rows leagues league now recorded history) (watched : r.watch = some key) :
    ∃ fixtures, leagues.find? league = some fixtures ∧
      ∃ f ∈ fixtures, recorded f = true ∧ f.key? = some key := by
  unfold rows at mem
  split at mem
  · rename_i fixtures found
    obtain ⟨⟨f, i⟩, shown, rfl⟩ := List.mem_map.mp mem
    simp only [row, Option.ite_none_right_eq_some, Bool.and_eq_true] at watched
    obtain ⟨⟨_, recorded⟩, named⟩ := watched
    exact ⟨fixtures, found, f, List.fst_mem_of_mem_zipIdx (List.mem_of_mem_drop shown), recorded,
      named⟩
  · contradiction

end Schedule

namespace Server
open Html
open Selection (Target Offers)
open Loading (Half)

def Scene.Playable (c : Scene) (shot : Snapshot) (target : Target) : Prop :=
  ∃ item, Offers shot c.recorded target item ∧ item.sources ≠ []

variable {c : Scene} {s : State} {shot : Snapshot} {target : Target}

theorem streamsPlay (apart : KeysApart shot) :
    ∀ target ∈ streamTargets shot, c.Playable shot target := by
  intro target mem
  obtain ⟨r, listed, mem⟩ := List.mem_flatMap.mp mem
  obtain ⟨⟨s, i⟩, there, rfl⟩ := List.mem_map.mp listed
  have inside : s ∈ shot.streams := List.fst_mem_of_mem_zipIdx there
  simp only [StreamTable.Row.target?, StreamTable.row] at mem
  split at mem
  · contradiction
  · rename_i filled
    obtain rfl := List.mem_singleton.mp mem
    obtain ⟨t, other, same, offers⟩ := keyOffered (c := c) inside
    -- The first stream with the key is that of the row, or the key would stand for two.
    obtain rfl := apart t other s inside same
    exact ⟨_, offers, by simpa [Item.ofStream] using filled⟩

theorem schedulePlays (filed : shot.Filed) (league : String) :
    ∀ target ∈ scheduleTargets c shot league, c.Playable shot target := by
  intro target mem
  obtain ⟨r, listed, mem⟩ := List.mem_flatMap.mp mem
  obtain ⟨key, watched, rfl⟩ := Schedule.targetWatched mem
  obtain ⟨fixtures, found, f, inside, recorded, named⟩ := Schedule.watchedRow listed watched
  obtain ⟨id, own, rfl⟩ := Option.map_eq_some_iff.mp named
  have resolves : c.Resolves shot (.fixture ⟨f.league, id⟩) := by
    rw [filed league fixtures found f inside]
    exact ⟨fixtures, found, f, inside, own, recorded⟩
  obtain ⟨item, offers⟩ := resolvesIff.mp resolves
  refine ⟨item, offers, ?_⟩
  cases offers
  exact List.cons_ne_nil _ _

theorem pagePlays (filed : shot.Filed) (apart : KeysApart shot) :
    ∀ target ∈ pageTargets c shot, c.Playable shot target := by
  intro target mem
  rcases List.mem_append.mp mem with stream | fixture
  · exact streamsPlay apart target stream
  · obtain ⟨league, _, inside⟩ := List.mem_flatMap.mp fixture
    exact schedulePlays filed league target inside

/- The forms of an answer post these targets and no others. -/
def Response.Shows (r : Response) (targets : List Target) : Prop :=
  ∃ text, r.body = .text text ∧ formActions text.toList = targets.map actionOf

theorem htmlShows {h : Html} {targets : List Target} (carries : Carries h targets) :
    (Response.html h.render).Shows targets := by
  refine ⟨_, rfl, ?_⟩
  have found := carries []
  rwa [List.append_nil, formActions, List.append_nil,
    ← String.toList_ofList (l := h.chars)] at found

theorem pageShows (c : Scene) (shot : Snapshot) (choice : Selection) :
    (pageAnswer c shot choice).Shows (pageTargets c shot) := htmlShows (pageCarries c shot _)

theorem badShows : Response.badRequest.Shows [] := by
  refine ⟨_, rfl, ?_⟩
  have silent := formlessActions (spelledFormless
    (s := "the request does not name what is there") rfl (by decide)) []
  rwa [List.append_nil] at silent

theorem emptyShows (r : Response) : r.withoutBody.Shows [] := ⟨_, rfl, rfl⟩

inductive Route.IsView : Route → Prop where
  | page : IsView .page
  | streamTable : IsView .streamTable
  | schedule (league : List Char) : IsView (.schedule league)

def viewTargets (c : Scene) (shot : Snapshot) (req : Request) : Route → List Target
  | .page => if (choice? req).isSome then pageTargets c shot else []
  | .streamTable => streamTargets shot
  | .schedule segment => (Route.parameter? segment).toList.flatMap (scheduleTargets c shot)
  | _ => []

theorem viewShows {route : Route} (view : route.IsView) (req : Request) :
    (answer c shot req route).Shows (viewTargets c shot req route) := by
  cases view with
  | page =>
    rw [answer, viewTargets]
    cases choice? req with
    | none => exact badShows
    | some choice => exact pageShows c shot choice
  | streamTable => exact htmlShows (streamsCarries shot)
  | schedule segment =>
    rw [answer, viewTargets]
    cases Route.parameter? segment with
    | none => exact badShows
    | some league =>
      rw [Option.toList_some, List.flatMap_singleton]
      exact htmlShows (scheduleCarries c shot league)

theorem viewPlays {route : Route} (view : route.IsView) (filed : shot.Filed)
    (apart : KeysApart shot) (req : Request) :
    ∀ target ∈ viewTargets c shot req route, c.Playable shot target := by
  intro target mem
  cases view with
  | page =>
    rw [viewTargets] at mem
    split at mem
    · exact pagePlays filed apart target mem
    · contradiction
  | streamTable => exact streamsPlay apart target mem
  | schedule segment =>
    obtain ⟨league, _, inside⟩ := List.mem_flatMap.mp mem
    exact schedulePlays filed league target inside

theorem sentShows {r : Response} {targets : List Target} (shown : r.Shows targets)
    (req : Request) :
    ∃ sent, (r.sentFor req).Shows sent ∧ (∀ target ∈ sent, target ∈ targets) ∧
      (req.method = "GET" → sent = targets) := by
  by_cases head : req.method = "HEAD"
  · rw [Response.sentFor, if_pos head]
    refine ⟨[], emptyShows r, List.forall_mem_nil _, fun get => ?_⟩
    rw [get] at head
    contradiction
  · rw [Response.sentFor, if_neg head]
    exact ⟨targets, shown, fun _ => id, fun _ => rfl⟩

theorem keyFilled (s : Stream) : s.key.text ≠ "" := by
  intro empty
  have none : s.key.text.toList = [] := by rw [empty, String.toList_empty]
  simp [Stream.key, Digest.sha256, Digest.bigEndian, List.range, List.range.loop,
    Stream.hexByte] at none

theorem playableFilled (playable : c.Playable shot target) : target ≠ .stream ⟨""⟩ := by
  rintro rfl
  obtain ⟨item, offers, _⟩ := playable
  obtain ⟨s, _, same⟩ := resolvesIff.mpr ⟨item, offers⟩
  exact keyFilled s (congrArg StreamKey.text same)

theorem playableWorks (playable : c.Playable s.board.snapshot target)
    (apart : KeysApart s.board.snapshot) :
    ∃ query player, handle c s (button target) = (s, .seeOther ("/?" ++ query)) ∧
      (handle c s ⟨"GET", "/player?" ++ query⟩).2 = .json (Page.PlayerState.json player) ∧
      player.visible = true ∧ player.playing = true := by
  have plays := buttonPlays target (playableFilled playable)
  obtain ⟨item, offers, filled⟩ := playable
  have resolves := resolvesIff.mpr ⟨item, offers⟩
  obtain ⟨found, query, offered, led, shown, _⟩ := playsFollowed plays resolves fun _ _ => apart
  obtain rfl : found = item := Option.some.inj
    ((Selection.offeredIff.mpr offered).symm.trans (Selection.offeredIff.mpr offers))
  have player : (Page.playerState found.session).json = playedJson found := by
    simp only [Page.playerState, Page.PlayerState.json, Item.session, playedJson, List.map_map]
    rfl
  refine ⟨query, Page.playerState found.session, ?_, by rw [shown, player], rfl, ?_⟩
  · exact Prod.ext (playsStatus plays).1 led
  · simpa [Page.playerState, Item.session] using filled

theorem payloadFiled {raw : Json} {leagues : Leagues} (read : Leagues.ofPayload raw = .ok leagues)
    (streams : List Stream) : Snapshot.Filed ⟨leagues, streams⟩ := by
  intro league fixtures found f mem
  obtain ⟨item, made⟩ := Leagues.payloadItem read found mem
  exact (Fixture.payloadIff.mp made).1

theorem readShaped {c : Scene} {leagues : Leagues} (read : c.reads.fixtures = .ok leagues) :
    ∃ raw, Leagues.ofPayload raw = .ok leagues := by
  have shaped (origin : String) (raw : Except FetchError Json)
      (read : (do FetchError.ofShape origin (Leagues.ofPayload (← raw))) = .ok leagues) :
      ∃ raw, Leagues.ofPayload raw = .ok leagues := by
    rw [← Half.okOption, Half.shapedOption, Option.bind_eq_some_iff] at read
    obtain ⟨j, _, made⟩ := read
    exact ⟨j, Half.okOption.mp made⟩
  unfold Scene.reads at read
  split at read
  · exact shaped _ _ read
  · exact shaped _ _ read

theorem replaceFiled {r : Reads} (filed : shot.Filed)
    (read : ∀ leagues, r.fixtures = .ok leagues → ∃ raw, Leagues.ofPayload raw = .ok leagues) :
    (shot.replace r).1.Filed := by
  obtain ⟨fixtures, streams⟩ := r
  cases fixtures with
  | error e => exact filed
  | ok leagues =>
    obtain ⟨raw, made⟩ := read leagues rfl
    exact payloadFiled made _

theorem afterFiled (site : Site) (visits : List Visit) :
    (site.after visits).board.snapshot.Filed := by
  induction visits with
  | nil =>
    intro league fixtures found
    contradiction
  | cons v earlier ih =>
    by_cases page : v.req.ReadsPage
    · rw [site.afterPage page]
      exact replaceFiled ih fun _ => readShaped
    · rw [site.afterOther page]
      exact ih

theorem buttonsWork (site : Site) (earlier : List Visit) (v : Visit) (route : Route)
    (reads : v.req.Reads route) (view : route.IsView)
    (apart : KeysApart (site.after (v :: earlier)).board.snapshot) :
    let shot := (site.after (v :: earlier)).board.snapshot
    ∃ text, (handle (v.scene site) (site.after earlier) v.req).2.body = .text text ∧
      (v.req.method = "GET" → formActions text.toList =
        (viewTargets (v.scene site) shot v.req route).map actionOf) ∧
      ∀ action ∈ formActions text.toList, ∀ (c : Scene) (s : State), c.site = site →
        c.store = v.store → s.board.snapshot = shot →
        ∃ query player,
          handle c s ⟨"POST", .ofList action⟩ = (s, .seeOther ("/?" ++ query)) ∧
          (handle c s ⟨"GET", "/player?" ++ query⟩).2 = .json (Page.PlayerState.json player) ∧
          player.visible = true ∧ player.playing = true := by
  intro shot
  have gets : route.isPost = false := by
    cases view <;> rfl
  have answered : (handle (v.scene site) (site.after earlier) v.req).2 =
      (answer (v.scene site) shot v.req route).sentFor v.req := by
    rw [readHandled reads.1 reads.2 gets]
    simp only [shot, Site.after, readHandled reads.1 reads.2 gets]
  obtain ⟨targets, ⟨text, sent, printed⟩, inside, whole⟩ :=
    sentShows (viewShows (c := v.scene site) view v.req) v.req
  refine ⟨text, by rw [answered, sent], fun get => by rw [printed, whole get], ?_⟩
  intro action mem c s place files same
  have recorded : c.recorded = (v.scene site).recorded := by
    rw [Scene.recorded, place, files]
    rfl
  rw [printed] at mem
  obtain ⟨target, listed, rfl⟩ := List.mem_map.mp mem
  have posted : Request.mk "POST" (.ofList (actionOf target)) = button target := by
    rw [actionOf, String.ofList_toList]
    rfl
  have there : c.Playable s.board.snapshot target := by
    rw [Scene.Playable, recorded, same]
    exact viewPlays view (afterFiled site (v :: earlier)) apart v.req target (inside target listed)
  rw [posted]
  exact playableWorks there (same ▸ apart)

def recordedSite : Site :=
  ⟨⟨"fixtures.json", "streams.json"⟩, none, "static", .folder "kept", none⟩

def recordedStore : Store := ⟨[
  (["fixtures.json"], .file (Utf8.encode
    "\x7b\"\":[\x7b\"home\":\"A\",\"away\":\"B\",\"timestamp\":9,\"fixture_id\":7\x7d]\x7d")),
  (["streams.json"], .file (Utf8.encode
    "[\x7b\"title\":\"Final\",\"date\":0,\"sources\":[\x7b\"url\":\".mpd\"\x7d]\x7d]")),
  (["kept"], .directory),
  (["kept", "hls"], .directory),
  (["kept", "hls", "7.m3u8"], .file [])]⟩

def recordedVisit : Visit := visiting "GET" "/" recordedStore

theorem namelessLeaguePlayed :
    let c := recordedVisit.scene recordedSite
    let s := recordedSite.after [recordedVisit]
    recordedVisit.req.Reads .page ∧ KeysApart s.board.snapshot ∧
    ∃ text, (handle c (recordedSite.after []) recordedVisit.req).2.body = .text text ∧
      "/play/fixture//7".toList ∈ formActions text.toList ∧
      ∃ query player,
        handle c s ⟨"POST", "/play/fixture//7"⟩ = (s, .seeOther ("/?" ++ query)) ∧
        (handle c s ⟨"GET", "/player?" ++ query⟩).2 = .json (Page.PlayerState.json player) ∧
        player.visible = true ∧ player.playing = true := by
  dsimp only
  have reads : recordedVisit.req.Reads .page := ⟨rfl, by decide⟩
  -- Both facts in one go, so that the files are read once.
  have ⟨one, listed⟩ : (recordedSite.after [recordedVisit]).board.snapshot.streams.length = 1 ∧
      .fixture ⟨"", 7⟩ ∈ pageTargets (recordedVisit.scene recordedSite)
        (recordedSite.after [recordedVisit]).board.snapshot := by decide +kernel
  have apart := oneApart one
  obtain ⟨text, sent, printed, works⟩ :=
    buttonsWork recordedSite [] recordedVisit .page reads .page apart
  have action : actionOf (.fixture ⟨"", 7⟩) = "/play/fixture//7".toList := by decide +kernel
  have inside : "/play/fixture//7".toList ∈ formActions text.toList := by
    rw [printed rfl, ← action]
    exact List.mem_map_of_mem listed
  have played := works _ inside (recordedVisit.scene recordedSite)
    (recordedSite.after [recordedVisit]) rfl rfl rfl
  rw [String.ofList_toList] at played
  exact ⟨reads, apart, text, sent, inside, played⟩

end Server
end MatchGuide
