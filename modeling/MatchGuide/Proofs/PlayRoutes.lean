import MatchGuide.Proofs.Choice
import MatchGuide.Proofs.QueryText
import MatchGuide.Proofs.Visitors

/-! A choice goes through the site in three ways: posted by a button, asked of the player, and read
from the address of the page. What it stands for is the same in all three. -/
namespace MatchGuide.Server
open Selection (Target Offers)

inductive Plays (req : Request) : Target → Prop where
  | stream {segment key} (posted : req.method = "POST")
      (route : Route.ofPath? req.path = some (.playStream segment))
      (read : Route.parameter? segment = some key) : Plays req (.stream ⟨key⟩)
  | index {segment i} (posted : req.method = "POST")
      (route : Route.ofPath? req.path = some (.playIndex segment))
      (read : Route.index? segment = some i) : Plays req (.index i)
  | fixture {league id key} (posted : req.method = "POST")
      (route : Route.ofPath? req.path = some (.playFixture league id))
      (read : Route.fixtureKey? league id = some key) : Plays req (.fixture key)

def buttonNames : Target → List String
  | .stream key => ["play", "stream", Form.encodeSegment key.text]
  | .index i => ["play", "index", Whole.intText i.toInt]
  | .fixture key => ["play", "fixture", Form.encodeSegment key.league, Whole.text key.id.toNat]

def button (target : Target) : Request :=
  ⟨"POST", .ofList ('/' :: Text.join ['/'] ((buttonNames target).map String.toList))⟩

structure Asks (req : Request) (path : String) (choice : Selection) : Prop where
  read : req.method = "GET"
  path : req.path = path.toList
  choice : choice? req = some choice

def Scene.Resolves (c : Scene) (shot : Snapshot) : Target → Prop
  | .stream key => ∃ s ∈ shot.streams, s.key = key
  | .index i => 0 ≤ i.toInt ∧ i.toInt < shot.streams.length
  | .fixture key => ∃ fixtures, shot.leagues.find? key.league = some fixtures ∧
      ∃ f ∈ fixtures, f.id = some key.id ∧ c.recorded f = true

def KeysApart (shot : Snapshot) : Prop :=
  ∀ s ∈ shot.streams, ∀ t ∈ shot.streams, s.key = t.key → s = t

theorem oneApart {shot : Snapshot} (one : shot.streams.length = 1) : KeysApart shot := by
  obtain ⟨only, list⟩ := List.length_eq_one_iff.mp one
  intro a first b second _
  rw [list, List.mem_singleton] at first second
  exact first.trans second.symm

variable {c : Scene} {s : State} {shot : Snapshot} {req : Request} {target : Target} {item : Item}
variable {choice : Selection}

section Buttons

theorem buttonQuiet (target : Target) :
    ∀ name ∈ buttonNames target, ∀ c ∈ name.toList, Form.isQuiet c = true := by
  have play : ∀ c ∈ "play".toList, Form.isQuiet c = true := List.all_eq_true.mp (by decide)
  cases target with
  | stream key =>
    simp only [buttonNames, List.forall_mem_cons]
    exact ⟨play, List.all_eq_true.mp (by decide), fun _ mem => Form.segmentQuiet mem, nofun⟩
  | index i =>
    simp only [buttonNames, List.forall_mem_cons, Whole.intText]
    refine ⟨play, List.all_eq_true.mp (by decide), ?_, nofun⟩
    exact String.toList_ofList ▸ fun c mem => (Whole.intQuiet _ c mem).1
  | fixture key =>
    simp only [buttonNames, List.forall_mem_cons, Whole.text]
    refine ⟨play, List.all_eq_true.mp (by decide), fun _ mem => Form.segmentQuiet mem, ?_, nofun⟩
    exact String.toList_ofList ▸ fun c mem => (Whole.numeralQuiet (Whole.charsNumeral _) c mem).1

theorem buttonNamed (target : Target) : buttonNames target ≠ [] := by
  cases target <;> exact List.cons_ne_nil _ _

theorem quietCut {names : List String}
    (quiet : ∀ name ∈ names, ∀ c ∈ name.toList, Form.isQuiet c = true) (method : String) :
    Text.cut (· == '?')
        (Request.mk method (.ofList ('/' :: Text.join ['/'] (names.map String.toList)))).named =
      ('/' :: Text.join ['/'] (names.map String.toList), none) := by
  have apart {sep c : Char} (loud : Form.isQuiet sep = false) (other : sep ≠ '/')
      (mem : c ∈ '/' :: Text.join ['/'] (names.map String.toList)) : (c == sep) = false := by
    rcases List.mem_cons.mp mem with rfl | inside
    · exact beq_eq_false_iff_ne.mpr other.symm
    · rcases Text.memJoin inside with slash | ⟨part, there, inside⟩
      · obtain rfl := List.mem_singleton.mp slash
        exact beq_eq_false_iff_ne.mpr other.symm
      · obtain ⟨name, named, rfl⟩ := List.mem_map.mp there
        exact Form.quietApart (quiet name named c inside) loud
  rw [Request.named, String.toList_ofList,
    Text.cutPlain fun c mem => apart (by decide) (by decide) mem,
    Text.cutPlain fun c mem => apart (by decide) (by decide) mem]

theorem quietPath {names : List String}
    (quiet : ∀ name ∈ names, ∀ c ∈ name.toList, Form.isQuiet c = true) (method : String) :
    (Request.mk method (.ofList ('/' :: Text.join ['/'] (names.map String.toList)))).path =
      '/' :: Text.join ['/'] (names.map String.toList) := by
  rw [Request.path, quietCut quiet]

theorem quietParts {names : List String} (named : names ≠ [])
    (quiet : ∀ name ∈ names, ∀ c ∈ name.toList, Form.isQuiet c = true) :
    Text.split (· == '/') (Text.join ['/'] (names.map String.toList)) = names.map String.toList := by
  refine Text.splitJoin rfl (by simpa using named) fun part mem c inside => ?_
  obtain ⟨name, listed, rfl⟩ := List.mem_map.mp mem
  exact Form.quietApart (quiet name listed c inside) (by decide)

theorem quietRoute {names : List String} (named : names ≠ [])
    (quiet : ∀ name ∈ names, ∀ c ∈ name.toList, Form.isQuiet c = true) :
    Route.ofPath? ('/' :: Text.join ['/'] (names.map String.toList)) = Route.ofSegments? names := by
  rw [Route.ofPath?, Route.segmentsOf, quietParts named quiet, List.map_map]
  exact congrArg _ ((List.map_congr_left fun name _ => String.ofList_toList).trans (List.map_id _))

theorem buttonRoute (target : Target) :
    Route.ofPath? (button target).path = Route.ofSegments? (buttonNames target) := by
  rw [button, quietPath (buttonQuiet target), quietRoute (buttonNamed target) (buttonQuiet target)]

theorem lastRoute {segment : String} (filled : segment ≠ "") (route : List Char → Route) :
    Route.lastParameter segment route = some (route segment.toList) := by
  rw [Route.lastParameter, if_neg (by simpa using filled)]

theorem segmentParameter (s : String) :
    Route.parameter? (Form.encodeSegment s).toList = some s := by
  rw [Route.parameter?, String.ofList_toList, Form.segmentRead]

theorem fixtureRouted (key : FixtureKey) :
    let segment := (Form.encodeSegment key.league).toList
    let number := (Whole.text key.id.toNat).toList
    Route.ofPath? (button (.fixture key)).path = some (.playFixture segment number) ∧
      Route.fixtureKey? segment number = some key := by
  have numeral := Whole.charsNumeral key.id.toNat
  have digits : Whole.text key.id.toNat ≠ "" := fun empty =>
    numeral.filled (by simpa [Whole.text] using empty)
  refine ⟨(buttonRoute _).trans (lastRoute digits _), ?_⟩
  rw [Route.fixtureKey?, segmentParameter, Route.parameter?, Whole.text, String.toList_ofList,
    Percent.plainRead fun c mem => (Whole.numeralQuiet numeral c mem).2]
  simp only [Option.bind_eq_bind, Option.bind_some, String.toList_ofList, Whole.uint32Read]

/- An empty segment at the end of a path is no parameter. -/
theorem buttonPlays (target : Target) (filled : target ≠ .stream ⟨""⟩) :
    Plays (button target) target := by
  have route := buttonRoute target
  cases target with
  | stream key =>
    have named : key.text ≠ "" := fun empty => filled (by rw [← empty])
    exact .stream rfl (route.trans (lastRoute (Form.segmentFilled named) _)) (segmentParameter _)
  | index i =>
    have digits : Whole.intText i.toInt ≠ "" := fun empty =>
      Whole.intCharsFilled _ (by simpa [Whole.intText] using empty)
    refine .index rfl (route.trans (lastRoute digits _)) ?_
    rw [Route.index?, Route.parameter?, Whole.intText, String.toList_ofList,
      Percent.plainRead fun c mem => (Whole.intQuiet _ c mem).2, Option.bind_some,
      String.toList_ofList, Whole.int64Read]
  | fixture key =>
    obtain ⟨route, read⟩ := fixtureRouted key
    exact .fixture rfl route read

end Buttons

section Resolving

theorem firstWith {α : Type} {l : List α} {p : α → Prop} [DecidablePred p] {a : α} (mem : a ∈ l)
    (holds : p a) : ∃ before b after, l = before ++ b :: after ∧ p b ∧ ∀ other ∈ before, ¬ p other := by
  obtain ⟨b, found⟩ := Option.isSome_iff_exists.mp
    (List.find?_isSome (p := (decide <| p ·)).mpr ⟨a, mem, decide_eq_true holds⟩)
  obtain ⟨yes, before, after, list, first⟩ := List.find?_eq_some_iff_append.mp found
  exact ⟨before, b, after, list, of_decide_eq_true yes, fun other mem => by simpa using first other mem⟩

theorem recordedSame {f g : Fixture} (same : f.id = g.id) : c.recorded f = c.recorded g := by
  unfold Scene.recorded Recordings.has
  rw [same]

theorem keyOffered {s : Stream} (mem : s ∈ shot.streams) :
    ∃ t ∈ shot.streams, t.key = s.key ∧ Offers shot c.recorded (.stream s.key) (.ofStream t) := by
  obtain ⟨before, t, after, list, same, first⟩ := firstWith (p := (·.key = s.key)) mem rfl
  refine ⟨t, by simp [list], same, ?_⟩
  rw [← same]
  exact .stream list fun other early => same ▸ first other early

theorem resolvesIff : c.Resolves shot target ↔ ∃ item, Offers shot c.recorded target item := by
  constructor
  · intro resolves
    cases target with
    | stream key =>
      obtain ⟨s, mem, rfl⟩ := resolves
      obtain ⟨t, _, _, offers⟩ := keyOffered mem
      exact ⟨_, offers⟩
    | index i =>
      obtain ⟨low, high⟩ := resolves
      have inside : i.toInt.toNat < shot.streams.length := by omega
      exact ⟨_, .index (Int64.le_iff_toInt_le.mpr low) (List.getElem?_eq_getElem inside)⟩
    | fixture key =>
      obtain ⟨fixtures, found, f, mem, own, there⟩ := resolves
      obtain ⟨before, g, after, rfl, same, first⟩ := firstWith (p := (·.id = some key.id)) mem own
      have recorded := recordedSame (c := c) (own.trans same.symm)
      exact ⟨_, .fixture found same first (recorded ▸ there)⟩
  · rintro ⟨item, offers⟩
    cases offers with
    | @stream before s after list => exact ⟨s, by simp [list], rfl⟩
    | @index i s low there =>
      have inside := (List.getElem?_eq_some_iff.mp there).1
      have low := Int64.le_iff_toInt_le.mp low
      simp only [Int64.toInt_zero] at low
      exact ⟨low, by omega⟩
    | @fixture league before f after id list own first there =>
      exact ⟨_, list, f, by simp, own, there⟩

theorem unresolvedIff :
    ¬ c.Resolves shot target ↔ ∀ item, ¬ Offers shot c.recorded target item := by
  rw [resolvesIff, not_exists]

end Resolving

section Posting

theorem choiceNames (target : Target) : target.choice.Names target := by
  cases target with
  | stream key => exact .stream rfl
  | index i => exact .index rfl rfl
  | fixture key => exact .fixture rfl rfl rfl rfl

theorem choiceLocation (target : Target) :
    target.choice.location = "/?" ++ String.ofList (Form.encode target.pairs) := by
  rw [Selection.location, Selection.targetIff.mpr (choiceNames target)]
  exact String.toList_injective (by simp)

def ledTo? (shot : Snapshot) : Target → Option Target
  | .index i => (shot.streamAt? i).map (.stream ·.key)
  | target => some target

theorem postHandled {route : Route} (posted : req.method = "POST")
    (found : Route.ofPath? req.path = some route) (post : route.isPost = true) :
    handle c s req = (s, answer c s.board.snapshot req route) := by
  have unread : req.isRead = false := by simp [Request.isRead, posted]
  have taken : route.takes req = true := by
    unfold Route.takes
    split
    · rfl
    · rfl
    · rw [if_pos post, posted]
      rfl
  simp [handle, posted, found, taken, loads, unread, Response.sentFor]

theorem playsHandled (plays : Plays req target) :
    handle c s req = (s, match ledTo? s.board.snapshot target with
      | some led => playAnswer c s.board.snapshot led.choice
      | none => notFound target.refusal) := by
  cases plays with
  | stream posted route read =>
    rw [postHandled posted route rfl, answer, read]
    rfl
  | @index _ i posted route read =>
    rw [postHandled posted route rfl, answer, read, given, playIndexAnswer, ledTo?]
    cases s.board.snapshot.streamAt? i <;> rfl
  | fixture posted route read =>
    rw [postHandled posted route rfl, answer, read]
    rfl

theorem playOffered (offers : Offers shot c.recorded target item) :
    playAnswer c shot target.choice = .seeOther target.choice.location := by
  rw [playAnswer, Selection.runOffered (choiceNames target) offers]

theorem playRefused (nothing : ∀ item, ¬ Offers shot c.recorded target item) :
    playAnswer c shot target.choice = notFound target.refusal := by
  rw [playAnswer, Selection.runRefused (choiceNames target) nothing]

theorem ledOffered (offers : Offers shot c.recorded target item) :
    ∃ led found, ledTo? shot target = some led ∧ Offers shot c.recorded led found ∧
      ((∀ i, target = .index i → KeysApart shot) → found = item) := by
  cases offers with
  | stream list first => exact ⟨_, _, rfl, .stream list first, fun _ => rfl⟩
  | @index i s low there =>
    have mem := List.mem_of_getElem? there
    obtain ⟨t, other, same, led⟩ := keyOffered (c := c) mem
    refine ⟨_, _, ?_, led, fun apart => ?_⟩
    · rw [ledTo?, Snapshot.streamAt?, if_pos low, there, Option.map_some]
    · rw [apart i rfl t other s mem same]
  | fixture list own first there => exact ⟨_, _, rfl, .fixture list own first there, fun _ => rfl⟩

theorem ledRefused (nothing : ∀ item, ¬ Offers shot c.recorded target item) :
    (match ledTo? shot target with
      | some led => playAnswer c shot led.choice
      | none => notFound target.refusal) = notFound target.refusal := by
  cases target with
  | stream key => exact playRefused nothing
  | index i =>
    cases found : shot.streamAt? i with
    | none => simp [ledTo?, found]
    | some t =>
      have offered : Selection.offered? shot c.recorded (.index i) = some (.ofStream t) := by
        simp [Selection.offered?, found]
      exact absurd (Selection.offeredIff.mp offered) (nothing _)
  | fixture key => exact playRefused nothing

theorem playsRefused (plays : Plays req target) (missing : ¬ c.Resolves s.board.snapshot target) :
    handle c s req = (s, notFound target.refusal) := by
  rw [playsHandled plays, ledRefused (unresolvedIff.mp missing)]

theorem playsLed (plays : Plays req target)
    (offers : Offers s.board.snapshot c.recorded target item) :
    ∃ led found, handle c s req = (s, .seeOther led.choice.location) ∧
      Offers s.board.snapshot c.recorded led found ∧
      ((∀ i, target = .index i → KeysApart s.board.snapshot) → found = item) := by
  obtain ⟨led, found, toLed, offered, same⟩ := ledOffered offers
  refine ⟨led, found, ?_, offered, same⟩
  rw [playsHandled plays, toLed]
  exact congrArg (s, ·) (playOffered offered)

end Posting

section Asking

theorem getHandled {route : Route} (read : req.method = "GET")
    (found : Route.ofPath? req.path = some route) (gets : route.isPost = false) :
    let t := if loads req route then s.load c.reads else s
    handle c s req = (t, answer c t.board.snapshot req route) := by
  have reading : req.isRead = true := by simp [Request.isRead, read]
  have whole (r : Response) : r.sentFor req = r := if_neg (by simp [read])
  rw [readHandled reading found gets, whole]

theorem askedPlayer (asks : Asks req "/player" choice) :
    handle c s req = (s, playerAnswer c s.board.snapshot choice) := by
  have route : Route.ofPath? req.path = some .player := by rw [asks.path]; decide
  rw [getHandled asks.read route rfl, answer, asks.choice]
  rfl

theorem askedPage (asks : Asks req "/" choice) :
    handle c s req =
      (s.load c.reads, pageAnswer c (s.load c.reads).board.snapshot choice) := by
  have route : Route.ofPath? req.path = some .page := by rw [asks.path]; decide
  have loaded : loads req .page = true := by simp [loads, Request.isRead, asks.read, asks.choice]
  rw [getHandled asks.read route rfl, if_pos loaded, answer, asks.choice, given]

theorem queryAsks (target : Target) (path : String)
    (plain : path.toList.all (fun c => c != '#' && c != '?') = true) :
    Asks ⟨"GET", path ++ "?" ++ String.ofList (Form.encode target.pairs)⟩ path target.choice := by
  have apart : ∀ c ∈ path.toList, (c == '#') = false ∧ (c == '?') = false := by
    simpa [bne] using plain
  have named : (Request.mk "GET" (path ++ "?" ++ String.ofList (Form.encode target.pairs))).named =
      path.toList ++ '?' :: Form.encode target.pairs := by
    rw [Request.named, Text.cutPlain]
    · simp
    · intro c mem
      simp only [String.toList_append, String.toList_ofList, List.append_assoc] at mem
      rcases List.mem_append.mp mem with early | late
      · exact (apart c early).1
      · rcases List.mem_cons.mp late with rfl | late
        · decide
        · exact Form.encodeApart (by decide) (by decide) (by decide) late
  have parted : Text.cut (· == '?') (path.toList ++ '?' :: Form.encode target.pairs) =
      (path.toList, some (Form.encode target.pairs)) :=
    Text.cutAtSeparator (fun c mem => (apart c mem).2) rfl _
  refine ⟨rfl, ?_, ?_⟩
  · rw [Request.path, named, parted]
  · rw [choice?, Request.query?, named, parted]
    exact Selection.queryRead target

def playedJson (i : Item) : Json :=
  .object [
    ("title", .object [("text", .string i.title.text), ("live", .bool i.title.live)]),
    ("visible", .bool true),
    ("playing", .bool (!i.sources.isEmpty)),
    ("sources", .array (i.sources.map fun s =>
      .object [("type", .string s.media.mime), ("src", .string s.url)]))]

theorem playerOffered (names : choice.Names target) (offers : Offers shot c.recorded target item) :
    playerAnswer c shot choice = .json (playedJson item) := by
  rw [playerAnswer, Selection.runOffered names offers]
  simp only [Page.playerState, Page.PlayerState.json, Item.session, playedJson, List.map_map]
  rfl

def pageWith (c : Scene) (shot : Snapshot) (player : Html) : Response :=
  .html (Html.render ([.markup Page.headMarkup] ++ player ++ [.markup Page.streamsMarkup] ++
    Page.streamsHtml shot ++ [.markup Page.scheduleMarkup] ++
    Schedule.tablesHtml shot.leagues c.now c.recorded c.site.history ++ [.markup Page.footMarkup]))

def shownPlayer (i : Item) : Html :=
  [.markup "", .markup Page.titleMarkup] ++ i.title.html ++
  [.markup Page.videoMarkup, .markup (if i.sources.isEmpty then "false" else "true"),
    .markup Page.sourcesMarkup] ++
  i.sources.flatMap fun s =>
    [.markup "<source src=\"", .text s.url, .markup "\" type=\"", .text s.media.mime, .markup "\">"]

def hiddenPlayer : Html :=
  [.markup " d-none", .markup Page.titleMarkup, .markup Page.videoMarkup, .markup "false",
    .markup Page.sourcesMarkup]

theorem shownHtml (i : Item) :
    [.markup (Page.hiddenMarkup i.session.visible), .markup Page.titleMarkup] ++ i.title.html ++
      [.markup Page.videoMarkup,
        .markup (if i.session.player.current?.isSome then "true" else "false"),
        .markup Page.sourcesMarkup] ++ i.session.player.html = shownPlayer i := by
  obtain ⟨title, sources⟩ := i
  cases sources with
  | nil => rfl
  | cons first others =>
    simp only [Item.session, Player.html, List.flatMap_map, shownPlayer]
    rfl

theorem pageOffered (names : choice.Names target) (offers : Offers shot c.recorded target item) :
    pageAnswer c shot choice = pageWith c shot (shownPlayer item) := by
  rw [pageAnswer, Selection.runOffered names offers, pageWith, ← shownHtml]
  simp only [Except.toOption, Option.getD_some, Page.html, Item.session, List.append_assoc,
    List.cons_append, List.nil_append]
  rfl

theorem pageRefused (names : choice.Names target)
    (nothing : ∀ item, ¬ Offers shot c.recorded target item) :
    pageAnswer c shot choice = pageWith c shot hiddenPlayer := by
  rw [pageAnswer, Selection.runRefused names nothing]
  rfl

end Asking

theorem replaceTwice (shot : Snapshot) (r : Reads) :
    ((shot.replace r).1.replace r).1 = (shot.replace r).1 := by
  obtain ⟨fixtures, streams⟩ := r
  cases fixtures <;> cases streams <;> rfl

theorem reloadKept {r : Reads} (counted : s.board.applied ≤ s.started) :
    ((s.load r).load r).board.snapshot = (s.load r).board.snapshot := by
  rw [loadCounted counted, loadCounted (Nat.le_refl _)]
  exact replaceTwice s.board.snapshot r

theorem playsStatus (plays : Plays req target) :
    (handle c s req).1 = s ∧
    ((handle c s req).2.status = 303 ↔ c.Resolves s.board.snapshot target) ∧
    ((handle c s req).2.status = 404 ↔ ¬ c.Resolves s.board.snapshot target) := by
  by_cases resolves : c.Resolves s.board.snapshot target
  · obtain ⟨item, offers⟩ := resolvesIff.mp resolves
    obtain ⟨led, _, sent, _⟩ := playsLed plays offers
    rw [sent]
    simp [Response.seeOther, resolves]
  · rw [playsRefused plays resolves]
    simp [notFound, Response.plain, resolves]

theorem playsFollowed (plays : Plays req target) (resolves : c.Resolves s.board.snapshot target)
    (apart : ∀ i, target = .index i → KeysApart s.board.snapshot) :
    ∃ item query, Offers s.board.snapshot c.recorded target item ∧
      (handle c s req).2 = .seeOther ("/?" ++ query) ∧
      (handle c s ⟨"GET", "/player?" ++ query⟩).2 = .json (playedJson item) ∧
      ∀ later : State, (later.load c.reads).board.snapshot = s.board.snapshot →
        (handle c later ⟨"GET", "/?" ++ query⟩).2 = pageWith c s.board.snapshot (shownPlayer item) := by
  obtain ⟨item, offers⟩ := resolvesIff.mp resolves
  obtain ⟨led, found, sent, offered, same⟩ := playsLed plays offers
  obtain rfl := same apart
  have names := choiceNames led
  have player : Asks ⟨"GET", "/player?" ++ String.ofList (Form.encode led.pairs)⟩ "/player" led.choice :=
    queryAsks led "/player" (by decide)
  have page : Asks ⟨"GET", "/?" ++ String.ofList (Form.encode led.pairs)⟩ "/" led.choice :=
    queryAsks led "/" (by decide)
  refine ⟨found, String.ofList (Form.encode led.pairs), offers, ?_, ?_, fun later kept => ?_⟩
  · rw [sent, choiceLocation]
  · rw [askedPlayer player]
    exact playerOffered names offered
  · rw [askedPage page, kept]
    exact pageOffered names offered

theorem askedMissing (asks : Asks req "/player" choice) :
    (handle c s req).2.status = 404 ↔
      ∃ target, choice.Names target ∧ ¬ c.Resolves s.board.snapshot target := by
  have ended := Selection.runEnds s.board.snapshot c.recorded choice .fresh
  rw [askedPlayer asks, playerAnswer]
  generalize choice.run .fresh s.board.snapshot c.recorded = outcome at ended ⊢
  cases ended with
  | idle idle =>
    refine ⟨nofun, ?_⟩
    rintro ⟨target, names, _⟩
    exact absurd names (Selection.idleNames.mp idle target)
  | found names offers =>
    refine ⟨nofun, ?_⟩
    rintro ⟨target, also, missing⟩
    obtain rfl := Selection.namesUnique names also
    exact absurd (resolvesIff.mpr ⟨_, offers⟩) missing
  | refused names nothing => exact ⟨fun _ => ⟨_, names, unresolvedIff.mpr nothing⟩, fun _ => rfl⟩

theorem routesAgree (c : Scene) (s : State) :
    let shot := s.board.snapshot
    (∀ req target, Plays req target →
      (handle c s req).1 = s ∧
      ((handle c s req).2.status = 303 ↔ c.Resolves shot target) ∧
      ((handle c s req).2.status = 404 ↔ ¬ c.Resolves shot target) ∧
      ((handle c s req).2.status = 303 → (∀ i, target = .index i → KeysApart shot) →
        ∃ item query, Offers shot c.recorded target item ∧
          (handle c s req).2 = .seeOther ("/?" ++ query) ∧
          (handle c s ⟨"GET", "/player?" ++ query⟩).2 = .json (playedJson item) ∧
          ∀ later : State, (later.load c.reads).board.snapshot = shot →
            (handle c later ⟨"GET", "/?" ++ query⟩).2 = pageWith c shot (shownPlayer item))) ∧
    (∀ req choice, Asks req "/player" choice →
      ((handle c s req).2.status = 404 ↔
        ∃ target, choice.Names target ∧ ¬ c.Resolves shot target) ∧
      ((handle c s req).2.status = 404 → ∀ (later : State) view,
        (later.load c.reads).board.snapshot = shot → Asks view "/" choice →
          (handle c later view).2 = pageWith c shot hiddenPlayer)) := by
  refine ⟨fun req target plays => ?_, fun req choice asks => ⟨askedMissing asks, ?_⟩⟩
  · obtain ⟨kept, sent, refused⟩ := playsStatus (c := c) (s := s) plays
    exact ⟨kept, sent, refused, fun answered apart => playsFollowed plays (sent.mp answered) apart⟩
  · intro refused later view same viewed
    obtain ⟨target, names, missing⟩ := (askedMissing asks).mp refused
    rw [askedPage viewed, same]
    exact pageRefused names (unresolvedIff.mp missing)

def oneStream : Scene where
  site := ⟨⟨"fixtures.json", "streams.json"⟩, none, "static", .none, none⟩
  store := ⟨[(["streams.json"], .file (Utf8.encode
    "[\x7b\"description\":\"Final\",\"date\":0,\"sources\":[\x7b\"url\":\"a.m3u8\"\x7d]\x7d]"))]⟩
  net := Network.down
  now := .epoch

def oneStreamState : State := State.initial.load oneStream.reads

theorem firstStreamFollowed :
    Plays (button (.index 0)) (.index 0) ∧ oneStream.Resolves oneStreamState.board.snapshot (.index 0) ∧
    ∃ item query, (handle oneStream oneStreamState (button (.index 0))).2 = .seeOther ("/?" ++ query) ∧
      (handle oneStream oneStreamState ⟨"GET", "/player?" ++ query⟩).2 = .json (playedJson item) ∧
      (handle oneStream oneStreamState ⟨"GET", "/?" ++ query⟩).2 =
        pageWith oneStream oneStreamState.board.snapshot (shownPlayer item) := by
  have one : oneStreamState.board.snapshot.streams.length = 1 := by decide +kernel
  have resolves : oneStream.Resolves oneStreamState.board.snapshot (.index 0) :=
    ⟨by decide, by rw [one]; decide⟩
  have plays := buttonPlays (.index 0) nofun
  obtain ⟨_, sent, _, followed⟩ := (routesAgree oneStream oneStreamState).1 _ _ plays
  obtain ⟨item, query, _, location, player, page⟩ := followed (sent.mpr resolves) fun _ _ => oneApart one
  exact ⟨plays, resolves, item, query, location, player, page _ (reloadKept (by decide))⟩

inductive Holds : Selection → Target → Prop where
  | stream {choice key} (given : choice.stream = some key) : Holds choice (.stream ⟨key⟩)
  | index {choice i} (given : choice.index = some i) : Holds choice (.index i)
  | fixture {choice league id} (givenLeague : choice.league = some league)
      (givenFixture : choice.fixture = some id) : Holds choice (.fixture ⟨league, id⟩)

theorem laterFieldsUnread :
    ¬ ∀ (c : Scene) (s : State) (req : Request) (choice : Selection), Asks req "/player" choice →
      (∃ target, Holds choice target ∧ ¬ c.Resolves s.board.snapshot target) →
      (handle c s req).2.status = 404 := by
  intro unresolvedRefused
  have asks : Asks ⟨"GET", "/player?index=0&league=Cup&fixture=1"⟩ "/player"
      ⟨none, some 0, some "Cup", some 1⟩ := ⟨rfl, by decide, by decide⟩
  have missing : ¬ oneStream.Resolves oneStreamState.board.snapshot (.fixture ⟨"Cup", 1⟩) := by
    rintro ⟨fixtures, found, _⟩
    have absent : oneStreamState.board.snapshot.leagues.find? "Cup" = none := by decide +kernel
    rw [absent] at found
    contradiction
  have refused := unresolvedRefused oneStream oneStreamState _ _ asks ⟨_, .fixture rfl rfl, missing⟩
  have answered : (handle oneStream oneStreamState
      ⟨"GET", "/player?index=0&league=Cup&fixture=1"⟩).2.status = 200 := by decide +kernel
  rw [answered] at refused
  contradiction

end MatchGuide.Server
