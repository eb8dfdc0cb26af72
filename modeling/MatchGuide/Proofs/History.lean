import MatchGuide.Proofs.Loading
import MatchGuide.Proofs.Visitors

/-! A site that answers one request after another. Between two of them its files, the clock and what
other servers answer may change at will. What it shows of a file is the last reading of it that
succeeded; a file that is not there reads as one without entries. -/
namespace MatchGuide

open Loading (Half)

inductive Store.Holds (store : Store) (path : String) (missing : Json) : Json → Prop where
  | absent (gone : store.read path = .error .notFound) : Holds store path missing missing
  | written {raw j} (content : store.read path = .ok raw) (json : Json.ofBytes? raw = some j) :
      Holds store path missing j

theorem Store.holdsIff {store : Store} {path : String} {missing j : Json} :
    store.readJson path missing = .ok j ↔ store.Holds path missing j := by
  unfold Store.readJson
  constructor
  · intro read
    split at read
    · rename_i raw content
      split at read
      · rename_i json
        obtain rfl := Except.ok.inj read
        exact .written content json
      · contradiction
    · rename_i gone
      obtain rfl := Except.ok.inj read
      exact .absent gone
    · contradiction
  · intro holds
    cases holds with
    | absent gone => rw [gone]
    | written content json => rw [content]; simp only [json]

namespace Loading.Half

def path (c : Catalog) : Half → String
  | fixtures => c.fixturesPath
  | streams => c.streamsPath

def missing : Half → Json
  | fixtures => .object []
  | streams => .array []

def ofPayload : (half : Half) → Json → Except ShapeError half.Data
  | fixtures => Leagues.ofPayload
  | streams => Stream.listOfPayload

def json (c : Catalog) (store : Store) : Half → Except FetchError Json
  | fixtures => c.fixturesJson store
  | streams => c.streamsJson store

theorem jsonIff {half : Half} {c : Catalog} {store : Store} {j : Json} :
    half.json c store = .ok j ↔ store.Holds (half.path c) half.missing j := by
  cases half <;> exact Store.holdsIff

inductive Says (half : Half) (c : Catalog) (store : Store) : half.Data → Prop where
  | absent (gone : store.read (half.path c) = .error .notFound) :
      Says half c store (half.shown .empty)
  | parsed {raw j data} (content : store.read (half.path c) = .ok raw)
      (json : Json.ofBytes? raw = some j) (shaped : half.ofPayload j = .ok data) :
      Says half c store data

theorem shapedOption {α : Type} (origin : String) (raw : Except FetchError Json)
    (read : Json → Except ShapeError α) :
    (do FetchError.ofShape origin (read (← raw))).toOption =
      raw.toOption.bind fun j => (read j).toOption := by
  cases raw with
  | error e => rfl
  | ok j =>
    change (FetchError.ofShape origin (read j)).toOption = (read j).toOption
    cases read j <;> rfl

theorem readCatalog (half : Half) (c : Catalog) (store : Store) :
    half.read? (c.reads store) =
      (half.json c store).toOption.bind fun j => (half.ofPayload j).toOption := by
  cases half with
  | fixtures => exact shapedOption c.fixturesPath (c.fixturesJson store) Leagues.ofPayload
  | streams => exact shapedOption c.streamsPath (c.streamsJson store) Stream.listOfPayload

theorem missingShaped (half : Half) : half.ofPayload half.missing = .ok (half.shown .empty) := by
  cases half <;> rfl

theorem okOption {ε α : Type} {e : Except ε α} {a : α} : e.toOption = some a ↔ e = .ok a := by
  cases e <;> simp [Except.toOption]

theorem saysIff {half : Half} {c : Catalog} {store : Store} {data : half.Data} :
    half.read? (c.reads store) = some data ↔ half.Says c store data := by
  simp only [readCatalog, Option.bind_eq_some_iff, okOption, jsonIff]
  constructor
  · rintro ⟨j, holds, shaped⟩
    cases holds with
    | absent gone =>
      obtain rfl := Except.ok.inj (shaped.symm.trans half.missingShaped)
      exact .absent gone
    | written content json => exact .parsed content json shaped
  · intro speaks
    cases speaks with
    | absent gone => exact ⟨half.missing, .absent gone, half.missingShaped⟩
    | parsed content json shaped => exact ⟨_, .written content json, shaped⟩

end Loading.Half

namespace Server

structure Visit where
  req : Request
  store : Store
  net : Network
  now : Instant

def Visit.scene (v : Visit) (site : Site) : Scene := ⟨site, v.store, v.net, v.now⟩

namespace Site

def after (site : Site) : List Visit → State
  | [] => .initial
  | v :: earlier => (handle (v.scene site) (site.after earlier) v.req).1

theorem afterCounted (site : Site) (visits : List Visit) :
    (site.after visits).board.applied ≤ (site.after visits).started := by
  induction visits with
  | nil => exact Nat.le_refl _
  | cons v earlier ih =>
    by_cases page : v.req.ReadsPage
    · simp only [after, pageState _ _ page, loadCounted ih, Nat.le_refl]
    · rw [after, otherState _ _ page]
      exact ih

theorem afterPage (site : Site) {v : Visit} (page : v.req.ReadsPage) (earlier : List Visit) :
    (site.after (v :: earlier)).board.snapshot =
      ((site.after earlier).board.snapshot.replace (v.scene site).reads).1 := by
  rw [after, pageState _ _ page, loadCounted (site.afterCounted earlier)]

theorem afterOther (site : Site) {v : Visit} (other : ¬ v.req.ReadsPage) (earlier : List Visit) :
    site.after (v :: earlier) = site.after earlier := otherState _ _ other

end Site

/- The data of a half after some visits, the latest first, where some requests are taken to load the
page: what its file said at the last of these at which it said anything. -/
inductive Held (half : Half) (c : Catalog) (loads : Request → Prop) : List Visit → half.Data → Prop
    where
  | never : Held half c loads [] (half.shown .empty)
  | idle {v earlier data} (other : ¬ loads v.req) (before : Held half c loads earlier data) :
      Held half c loads (v :: earlier) data
  | read {v earlier data} (page : loads v.req) (speaks : half.Says c v.store data) :
      Held half c loads (v :: earlier) data
  | kept {v earlier data} (page : loads v.req) (silent : ∀ other, ¬ half.Says c v.store other)
      (before : Held half c loads earlier data) : Held half c loads (v :: earlier) data

theorem saysUnique {half : Half} {c : Catalog} {store : Store} {data other : half.Data}
    (speaks : half.Says c store data) (also : half.Says c store other) : other = data :=
  Option.some.inj ((Half.saysIff.mpr also).symm.trans (Half.saysIff.mpr speaks))

theorem heldUnique {half : Half} {c : Catalog} {loads : Request → Prop} {visits : List Visit}
    {data other : half.Data} (held : Held half c loads visits data)
    (also : Held half c loads visits other) : other = data := by
  induction held with
  | never =>
    cases also
    rfl
  | idle quiet _ ih =>
    cases also with
    | idle _ before => exact ih before
    | read page _ => exact absurd page quiet
    | kept page _ _ => exact absurd page quiet
  | read page speaks =>
    cases also with
    | idle quiet _ => exact absurd page quiet
    | read _ again => exact saysUnique speaks again
    | kept _ silent _ => exact absurd speaks (silent _)
  | kept page silent _ ih =>
    cases also with
    | idle quiet _ => exact absurd page quiet
    | read _ speaks => exact absurd speaks (silent _)
    | kept _ _ before => exact ih before

theorem afterHeld {site : Site} (files : site.remote = none) (visits : List Visit) (half : Half) :
    Held half site.catalog Request.ReadsPage visits
      (half.shown (site.after visits).board.snapshot) := by
  induction visits with
  | nil => exact .never
  | cons v earlier ih =>
    by_cases page : v.req.ReadsPage
    · have reads : (v.scene site).reads = site.catalog.reads v.store := by
        rw [Scene.reads, Visit.scene, files]
      rw [site.afterPage page, Half.shownReplace, reads]
      cases said : half.read? (site.catalog.reads v.store) with
      | some data => exact .read page (Half.saysIff.mp said)
      | none =>
        refine .kept page (fun other speaks => ?_) ih
        rw [Half.saysIff.mpr speaks] at said
        contradiction
    · rw [site.afterOther page]
      exact .idle page ih

def Request.Reads (req : Request) (route : Route) : Prop :=
  req.isRead = true ∧ Route.ofPath? req.path = some route

def routeOf : Half → Route
  | .fixtures => .fixtures
  | .streams => .streams

variable {site : Site} {v : Visit} {earlier : List Visit} {route : Route}

theorem pageAnswered {choice : Selection} (reads : v.req.Reads .page)
    (accepted : choice? v.req = some choice) :
    (handle (v.scene site) (site.after earlier) v.req).2 =
      (pageAnswer (v.scene site) (site.after (v :: earlier)).board.snapshot choice).sentFor
        v.req := by
  have page : v.req.ReadsPage :=
    ⟨reads.1, Route.ofPathPage.mp reads.2, by rw [accepted]; rfl⟩
  have loaded : loads v.req .page = true := (loadsPage reads.2).mpr page
  rw [Site.after, readHandled reads.1 reads.2 rfl, if_pos loaded, answer, accepted, given]

theorem otherAnswered (reads : v.req.Reads route) (gets : route.isPost = false)
    (other : route ≠ .page) :
    (handle (v.scene site) (site.after earlier) v.req).2 =
      (answer (v.scene site) (site.after earlier).board.snapshot v.req route).sentFor v.req := by
  have idle : loads v.req route = false := by simp [loads, other]
  rw [readHandled reads.1 reads.2 gets, idle]
  rfl

theorem endpointHandled {c : Scene} {s : State} {req : Request} {half : Half}
    (reads : req.Reads (routeOf half)) :
    (handle c s req).2 = (jsonAnswer (half.json c.site.catalog c.store)).sentFor req := by
  have gets : (routeOf half).isPost = false := by cases half <;> rfl
  have idle : loads req (routeOf half) = false := by cases half <;> rfl
  rw [readHandled reads.1 reads.2 gets, idle]
  cases half <;> rfl

theorem endpointAnswered {half : Half} (reads : v.req.Reads (routeOf half)) :
    (handle (v.scene site) (site.after earlier) v.req).2 =
      (jsonAnswer (half.json site.catalog v.store)).sentFor v.req := endpointHandled reads

theorem lastReadShown (site : Site) (files : site.remote = none) (earlier : List Visit)
    (v : Visit) :
    let answer := (handle (v.scene site) (site.after earlier) v.req).2
    let held (visits : List Visit) (shot : Snapshot) :=
      ∀ half : Half, Held half site.catalog Request.ReadsPage visits (half.shown shot)
    (∀ choice, v.req.Reads .page → choice? v.req = some choice →
      ∃ shot, held (v :: earlier) shot ∧
        answer = (pageAnswer (v.scene site) shot choice).sentFor v.req) ∧
    (∃ shot, held earlier shot ∧
      (v.req.Reads .streamTable →
        answer = (Response.html (Page.streamsHtml shot).render).sentFor v.req) ∧
      (∀ segment league, v.req.Reads (.schedule segment) →
        Route.parameter? segment = some league →
          answer = (Response.html (Page.scheduleHtml shot (v.scene site).recorded site.history
            v.now league).render).sentFor v.req)) ∧
    (∀ half : Half, v.req.Reads (routeOf half) →
      (∀ j, v.store.Holds (half.path site.catalog) half.missing j →
        answer = (Response.json j).sentFor v.req) ∧
      ((∀ j, ¬ v.store.Holds (half.path site.catalog) half.missing j) → answer.status = 500)) := by
  refine ⟨fun choice reads accepted => ?_, ?_, fun half reads => ⟨fun j holds => ?_, ?_⟩⟩
  · exact ⟨_, afterHeld files (v :: earlier), pageAnswered reads accepted⟩
  · refine ⟨_, afterHeld files earlier, fun reads => ?_, fun segment league reads read => ?_⟩
    · exact otherAnswered reads rfl nofun
    · rw [otherAnswered reads rfl nofun, answer, read]
      rfl
  · rw [endpointAnswered reads, Half.jsonIff.mpr holds]
    rfl
  · intro nothing
    rw [endpointAnswered reads]
    cases read : half.json site.catalog v.store with
    | ok j => exact absurd (Half.jsonIff.mp read) (nothing j)
    | error e =>
      rw [jsonAnswer, Response.sentFor]
      split <;> rfl

def fileSite : Site := ⟨⟨"fixtures.json", "streams.json"⟩, none, "static", .none, none⟩

def streamsFile (text : String) : Store := ⟨[(["streams.json"], .file (Utf8.encode text))]⟩

def listed : Store := streamsFile "[\x7b\"description\":\"Final\",\"date\":0\x7d]"

def broken : Store := streamsFile "["

def final : Stream := ⟨"Final", .epoch, false, []⟩

def visiting (method target : String) (store : Store) : Visit :=
  ⟨⟨method, target⟩, store, Network.down, .epoch⟩

theorem listedSays : Half.streams.Says fileSite.catalog listed [final] := by
  have read : (fileSite.catalog.streams listed).toOption = some [final] := by decide +kernel
  exact Half.saysIff.mp read

theorem brokenSilent (data : Half.streams.Data) :
    ¬ Half.streams.Says fileSite.catalog broken data := by
  have unread : (fileSite.catalog.streams broken).toOption = none := by decide +kernel
  intro speaks
  exact Option.some_ne_none data ((Half.saysIff.mpr speaks).symm.trans unread)

theorem rootReads : (Request.mk "GET" "/").ReadsPage := ⟨rfl, rfl, rfl⟩

theorem tableKeptWhileBroken :
    let v := visiting "GET" "/streams/table" listed
    fileSite.remote = none ∧
    (handle (v.scene fileSite)
      (fileSite.after [visiting "GET" "/" broken, visiting "GET" "/" listed]) v.req).2 =
        .html (StreamTable.html (StreamTable.rows [final])).render := by
  intro v
  obtain ⟨_, ⟨shot, held, table, _⟩, _⟩ := lastReadShown fileSite rfl
    [visiting "GET" "/" broken, visiting "GET" "/" listed] v
  have kept : shot.streams = [final] :=
    heldUnique (.kept (rootReads) brokenSilent (.read (rootReads) listedSays))
      (held .streams)
  refine ⟨rfl, ?_⟩
  rw [table ⟨rfl, by decide⟩, Page.streamsHtml, kept]
  rfl

/- The table is not that of the last page that was sent: a request for its head loads it too. -/
theorem headLoadsTable :
    ¬ ∀ (site : Site) (earlier : List Visit) (v : Visit), site.remote = none →
      v.req.method = "GET" → v.req.Reads .streamTable →
        ∃ shot : Snapshot,
          (∀ half : Half, Held half site.catalog (fun req => req.method = "GET" ∧ req.ReadsPage)
            earlier (half.shown shot)) ∧
          (handle (v.scene site) (site.after earlier) v.req).2 =
            .html (Page.streamsHtml shot).render := by
  intro sentPageShown
  obtain ⟨shot, held, table⟩ := sentPageShown fileSite [visiting "HEAD" "/" listed]
    (visiting "GET" "/streams/table" listed) rfl rfl ⟨rfl, by decide⟩
  have none : shot.streams = [] := heldUnique (.idle (nomatch ·.1) .never) (held .streams)
  rw [Page.streamsHtml, none] at table
  exact absurd table (by decide +kernel)

end Server
end MatchGuide
