import MatchGuide.Proofs.History

/-! A page that reads its data from another site, which has the files. What it reads there is what
the files say, so that it shows the same as a page with the files at hand. -/
namespace MatchGuide

open Loading (Half)

def Loading.Half.Rereads (half : Half) (c : Catalog) (store : Store) : Prop :=
  ∀ raw j, store.read (half.path c) = .ok raw → Json.ofBytes? raw = some j →
    Json.ofBytes? (Utf8.encode j.compact) = some j

namespace Remote

def url (u : Remote) : Half → Url
  | .fixtures => u.fixturesUrl
  | .streams => u.streamsUrl

def names : Half → List String
  | .fixtures => ["fixtures"]
  | .streams => ["streams", "all"]

theorem ofBase {base : String} {u : Remote} (configured : Remote.of base = .ok u) :
    ∃ root, Url.read? (closeBase base) = some root ∧
      ∀ half, root.beside? (names half) = some (u.url half) := by
  unfold Remote.of at configured
  split at configured
  · cases configured
  · rename_i root read
    split at configured
    · rename_i fixtures streams
      obtain rfl := Except.ok.inj configured
      refine ⟨root, read, fun half => ?_⟩
      cases half with
      | fixtures => exact fixtures
      | streams => exact streams
    · cases configured

theorem readRemote (half : Half) (u : Remote) (net : Network) :
    half.read? (u.reads net) =
      (getJson net (u.url half)).toOption.bind fun j => (half.ofPayload j).toOption := by
  cases half with
  | fixtures => exact Half.shapedOption u.fixturesUrl.text _ Leagues.ofPayload
  | streams => exact Half.shapedOption u.streamsUrl.text _ Stream.listOfPayload

end Remote

namespace Server

def Response.reply (r : Response) : Reply where
  status := r.status
  body := match r.body with
    | .text s => Utf8.encode s
    | .file content => content

def pathRequest (names : List String) : Request :=
  ⟨"GET", .ofList ('/' :: Text.join ['/'] (names.map String.toList))⟩

/- A site stands at a base if what is asked for below it is answered as the site answers, in
whatever state. -/
def Serves (net : Network) (base : String) (c : Scene) : Prop :=
  ∃ root, Url.read? (Remote.closeBase base) = some root ∧
    ∀ names url, root.beside? names = some url →
      ∃ s, net ⟨url, []⟩ = some (handle c s (pathRequest names)).2.reply

theorem endpointReads (half : Half) :
    (pathRequest (Remote.names half)).Reads (routeOf half) := by
  cases half <;> exact ⟨rfl, by decide +kernel⟩

theorem endpointReply (c : Scene) (s : State) (half : Half) :
    (handle c s (pathRequest (Remote.names half))).2 =
      jsonAnswer (half.json c.site.catalog c.store) := by
  rw [endpointHandled (endpointReads half)]
  exact if_neg (by simp [pathRequest])

theorem missingReread (half : Half) :
    Json.ofBytes? (Utf8.encode half.missing.compact) = some half.missing := by
  cases half <;> decide +kernel

theorem jsonReread {half : Half} {c : Catalog} {store : Store} (rereads : half.Rereads c store)
    {j : Json} (read : half.json c store = .ok j) :
    Json.ofBytes? (Utf8.encode j.compact) = some j := by
  cases Half.jsonIff.mp read with
  | absent gone => exact missingReread half
  | written content json => exact rereads _ _ content json

theorem servedJson {net : Network} {url : Url} {c : Scene} {half : Half}
    (rereads : half.Rereads c.site.catalog c.store)
    (served : net ⟨url, []⟩ = some (jsonAnswer (half.json c.site.catalog c.store)).reply) :
    (Remote.getJson net url).toOption = (half.json c.site.catalog c.store).toOption := by
  unfold Remote.getJson
  rw [served]
  cases read : half.json c.site.catalog c.store with
  | error e => rfl
  | ok j =>
    have back := jsonReread rereads read
    simp only [jsonAnswer, Response.json, Response.reply, back]
    rfl

theorem upstreamRead {net : Network} {base : String} {u : Remote} {c : Scene} {half : Half}
    (configured : Remote.of base = .ok u) (serves : Serves net base c)
    (rereads : half.Rereads c.site.catalog c.store) :
    half.read? (u.reads net) = half.read? (c.site.catalog.reads c.store) := by
  obtain ⟨root, read, endpoints⟩ := Remote.ofBase configured
  obtain ⟨same, reread, answers⟩ := serves
  obtain rfl := Option.some.inj (read.symm.trans reread)
  obtain ⟨s, replied⟩ := answers _ _ (endpoints half)
  rw [endpointReply] at replied
  rw [Remote.readRemote, Half.readCatalog, servedJson rereads replied]

theorem reportEq {a b : LoadReport} (same : ∀ half : Half, half.replaced a = half.replaced b) :
    a = b := by
  obtain ⟨fixtures, streams⟩ := a
  have left : fixtures = b.fixturesReplaced := same .fixtures
  have right : streams = b.streamsReplaced := same .streams
  rw [left, right]

theorem replaceAlike (shot : Snapshot) {r other : Reads}
    (alike : ∀ half : Half, half.read? r = half.read? other) :
    shot.replace r = shot.replace other :=
  Prod.ext
    (Half.snapshotEq fun half => by rw [Half.shownReplace, Half.shownReplace, alike half])
    (reportEq fun half => by rw [Half.replacedReplace, Half.replacedReplace, alike half])

theorem applyAlike (b : Board) (number : Nat) {r other : Reads}
    (alike : ∀ half : Half, half.read? r = half.read? other) :
    b.apply ⟨number, r⟩ = b.apply ⟨number, other⟩ := by
  rw [Board.apply, Board.apply, replaceAlike b.snapshot alike]

/- Two visits with one request: to a page that has the files, and to one whose upstream has them.
What the latter has beside its upstream is left open. -/
structure Twins (base : String) (upstream : Site) (near far : Visit) : Prop where
  req : near.req = far.req
  serves : ∃ c : Scene, c.site = upstream ∧ c.store = near.store ∧ Serves far.net base c
  rereads : ∀ half : Half, half.Rereads upstream.catalog near.store

def Site.report? (site : Site) (earlier : List Visit) (v : Visit) : Option LoadReport :=
  let s := site.after earlier
  (s.board.apply ⟨s.started + 1, (v.scene site).reads⟩).2

section Twin
variable {base : String} {u : Remote} {upstream near far : Site} {v w : Visit}
variable (configured : Remote.of base = .ok u) (files : near.remote = none)
  (catalog : near.catalog = upstream.catalog) (remote : far.remote = some u)
include configured files catalog remote

theorem twinsRead (twins : Twins base upstream v w) (half : Half) :
    half.read? (v.scene near).reads = half.read? (w.scene far).reads := by
  obtain ⟨c, rfl, store, serves⟩ := twins.serves
  have rereads : half.Rereads c.site.catalog c.store := store ▸ twins.rereads half
  have nearReads : (v.scene near).reads = c.site.catalog.reads c.store := by
    rw [Scene.reads, Visit.scene, files, store, ← catalog]
  have farReads : (w.scene far).reads = u.reads w.net := by
    rw [Scene.reads, Visit.scene, remote]
  rw [nearReads, farReads, upstreamRead configured serves rereads]

theorem twinsLoad (twins : Twins base upstream v w) (s : State) :
    (handle (v.scene near) s v.req).1 = (handle (w.scene far) s w.req).1 := by
  have alike := twinsRead configured files catalog remote twins
  by_cases page : v.req.ReadsPage
  · have also : w.req.ReadsPage := twins.req ▸ page
    rw [pageState _ _ page, pageState _ _ also, State.load, State.load, applyAlike _ _ alike]
  · have neither : ¬ w.req.ReadsPage := twins.req ▸ page
    rw [otherState _ _ page, otherState _ _ neither]

theorem twinsAfter {visits : List (Visit × Visit)}
    (twins : ∀ p ∈ visits, Twins base upstream p.1 p.2) :
    near.after (visits.map Prod.fst) = far.after (visits.map Prod.snd) := by
  induction visits with
  | nil => rfl
  | cons p earlier ih =>
    have ⟨latest, before⟩ := List.forall_mem_cons.mp twins
    rw [List.map_cons, List.map_cons, Site.after, Site.after, ih before]
    exact twinsLoad configured files catalog remote latest _

end Twin

theorem upstreamReadsFiles (base : String) (u : Remote) (configured : Remote.of base = .ok u) :
    (∀ (net : Network) (c : Scene) (half : Half), Serves net base c →
      half.Rereads c.site.catalog c.store →
        half.read? (u.reads net) = half.read? (c.site.catalog.reads c.store)) ∧
    (∀ (upstream near far : Site) (earlier : List (Visit × Visit)) (v w : Visit),
      near.remote = none → near.catalog = upstream.catalog → far.remote = some u →
      (∀ p ∈ (v, w) :: earlier, Twins base upstream p.1 p.2) →
        (near.after (v :: earlier.map Prod.fst)).board.snapshot =
          (far.after (w :: earlier.map Prod.snd)).board.snapshot ∧
        near.report? (earlier.map Prod.fst) v = far.report? (earlier.map Prod.snd) w) := by
  refine ⟨fun net c half => upstreamRead configured, ?_⟩
  intro upstream near far earlier v w files catalog remote twins
  have same := twinsAfter configured files catalog remote twins
  have ⟨latest, before⟩ := List.forall_mem_cons.mp twins
  have already := twinsAfter configured files catalog remote before
  have alike := twinsRead configured files catalog remote latest
  exact ⟨congrArg (·.board.snapshot) same, by
    rw [Site.report?, Site.report?, already, applyAlike _ _ alike]⟩

def Scene.hosted (c : Scene) : Network := fun get =>
  match get.url.path with
  | .segments names => some (handle c .initial (pathRequest names)).2.reply
  | .plain _ => none

theorem hostedServes (c : Scene) {base : String} {root : Url}
    (read : Url.read? (Remote.closeBase base) = some root) (top : root.path = .segments [""]) :
    Serves c.hosted base c := by
  refine ⟨root, read, fun names url beside => ⟨.initial, ?_⟩⟩
  simp only [Url.beside?, top] at beside
  obtain rfl := Option.some.inj beside
  rfl

def upstreamBase : String := "http://127.0.0.1"

def upstreamUrl (names : List String) : Url :=
  ⟨"http", "", "", some (.ipv4 0x7F000001), none, .segments names, none, none⟩

def upstreamRemote : Remote := ⟨upstreamUrl ["fixtures"], upstreamUrl ["streams", "all"]⟩

theorem upstreamRoot :
    Url.read? (Remote.closeBase upstreamBase) = some (upstreamUrl [""]) := by decide +kernel

theorem upstreamConfigured : Remote.of upstreamBase = .ok upstreamRemote := by
  rw [Remote.of, upstreamRoot]
  rfl

def farSite : Site := { fileSite with remote := some upstreamRemote }

def farVisit (store : Store) : Visit :=
  ⟨⟨"GET", "/"⟩, .empty, Scene.hosted ⟨fileSite, store, Network.down, .epoch⟩, .epoch⟩

theorem rereadsFile {store : Store} {half : Half} {c : Catalog}
    (back : ((store.read (half.path c)).toOption.bind Json.ofBytes?).all (fun j =>
      Json.ofBytes? (Utf8.encode j.compact) == some j) = true) : half.Rereads c store := by
  intro raw j content json
  rw [content] at back
  simpa [Except.toOption, json] using back

theorem farTwins {store : Store} (rereads : ∀ half : Half, half.Rereads fileSite.catalog store) :
    Twins upstreamBase fileSite (visiting "GET" "/" store) (farVisit store) :=
  ⟨rfl, ⟨_, rfl, rfl, hostedServes _ upstreamRoot rfl⟩, rereads⟩

theorem listedTwins : Twins upstreamBase fileSite (visiting "GET" "/" listed) (farVisit listed) :=
  farTwins fun half => rereadsFile (by cases half <;> decide +kernel)

theorem brokenTwins : Twins upstreamBase fileSite (visiting "GET" "/" broken) (farVisit broken) :=
  farTwins fun half => rereadsFile (by cases half <;> decide +kernel)

theorem streamsKeptFarAway :
    Remote.of upstreamBase = .ok upstreamRemote ∧
    Half.streams.read? (upstreamRemote.reads (farVisit listed).net) = some [final] ∧
    (farSite.after [farVisit broken, farVisit listed]).board.snapshot.streams = [final] ∧
    farSite.report? [farVisit listed] (farVisit broken) = some ⟨true, false⟩ := by
  obtain ⟨reads, pages⟩ := upstreamReadsFiles upstreamBase upstreamRemote upstreamConfigured
  have read := reads (farVisit listed).net ⟨fileSite, listed, Network.down, .epoch⟩ .streams
    (hostedServes _ upstreamRoot rfl) (listedTwins.rereads .streams)
  have twins : ∀ p ∈ [(visiting "GET" "/" broken, farVisit broken),
      (visiting "GET" "/" listed, farVisit listed)], Twins upstreamBase fileSite p.1 p.2 :=
    List.forall_mem_cons.mpr ⟨brokenTwins, List.forall_mem_singleton.mpr listedTwins⟩
  have ⟨shown, reported⟩ := pages fileSite fileSite farSite _ _ _ rfl rfl rfl twins
  have near : (fileSite.after [visiting "GET" "/" broken,
      visiting "GET" "/" listed]).board.snapshot.streams = [final] :=
    heldUnique (.kept rootReads brokenSilent (.read rootReads listedSays))
      (afterHeld rfl _ .streams)
  have report : fileSite.report? [visiting "GET" "/" listed] (visiting "GET" "/" broken) =
      some ⟨true, false⟩ := by decide +kernel
  exact ⟨upstreamConfigured, read.trans (Half.saysIff.mpr listedSays), shown ▸ near,
    reported ▸ report⟩

end Server
end MatchGuide
