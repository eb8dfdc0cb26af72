import MatchGuide.Feed.Catalog
import MatchGuide.Proofs.CacheWrite
import MatchGuide.Proofs.FixtureCache

/-! Rounds of refreshing the fixture cache. What the service replies is given round by round; the
cache holds what the last round made of its reply that got as far as the file. -/
namespace MatchGuide

namespace Entries

theorem sizeInsert (name : String) (value : List α) {entries : Entries (List α)}
    (sorted : entries.Sorted) :
    ((entries.insert name value).flatMap Prod.snd).length + ((entries.find? name).getD []).length =
      (entries.flatMap Prod.snd).length + value.length := by
  induction entries with
  | nil => simp [insert, find?]
  | cons head rest ih =>
    obtain ⟨key, old⟩ := head
    obtain ⟨first, tail⟩ := List.pairwise_cons.1 sorted
    unfold insert
    split
    · rename_i before
      have absent : find? ((key, old) :: rest) name = none := by
        rw [← Option.not_isSome_iff_eq_none, ← memNamesIff]
        intro mem
        rcases List.mem_cons.1 mem with same | mem
        · obtain rfl : name = key := same
          exact String.lt_irrefl name before
        · exact String.lt_irrefl name (String.lt_trans before (first name mem))
      simp only [absent, List.flatMap_cons, List.length_append, Option.getD_none, List.length_nil]
      omega
    split
    · rename_i same
      subst same
      simp only [find?, if_true, List.flatMap_cons, List.length_append, Option.getD_some]
      omega
    · rename_i other
      have rest := ih tail
      simp only [find?, if_neg (Ne.symm other), List.flatMap_cons, List.length_append]
      omega

end Entries

namespace Fixture

def total (t : NameTable (List Json)) : Nat := (t.entries.flatMap Prod.snd).length

theorem totalAppend (t : NameTable (List Json)) (name : String) (item : Json) :
    total (t.append name item) = total t + 1 := by
  have sum := Entries.sizeInsert name ((t.find? name).getD [] ++ [item]) t.sorted
  have whole : total (t.append name item) =
    ((t.entries.insert name ((t.find? name).getD [] ++ [item])).flatMap Prod.snd).length := rfl
  have held : ((t.find? name).getD []).length = ((t.entries.find? name).getD []).length := rfl
  rw [whole, total]
  simp only [List.length_append, List.length_cons, List.length_nil] at sum
  omega

def hasLeague (item : Json) : Bool := (leagueName? item).isSome

theorem totalGroups (t : NameTable (List Json)) (items : List Json) :
    total (items.foldl group t) = total t + items.countP hasLeague := by
  induction items generalizing t with
  | nil => rfl
  | cons item rest ih =>
    rw [List.foldl_cons, ih, List.countP_cons, hasLeague, group]
    cases leagueName? item with
    | none => simp
    | some league =>
      rw [totalAppend]
      simp only [Option.isSome_some, if_true]
      omega

theorem cacheSizeOf (t : NameTable (List Json)) :
    cacheSize (.object (t.entries.map fun e => (e.1, .array e.2))) = total t := by
  simp only [cacheSize, total, List.flatMap_map]
  rfl

theorem cacheIff {raw payload : Json} :
    cache? raw = some payload ↔ ∃ items, raw.field "response" = .array items ∧
      payload = .object ((groupByLeague items).entries.map fun e => (e.1, .array e.2)) := by
  simp only [cache?, Option.bind_eq_bind, Option.bind_eq_some_iff, Json.arrayIff, Option.some.injEq,
    eq_comm (b := payload)]

end Fixture

namespace Refresh
open Store

def Brings (reply : Option Reply) (items : List Json) (payload : Json) : Prop :=
  ∃ r raw, reply = some r ∧ (200 ≤ r.status ∧ r.status < 300) ∧ Json.ofBytes? r.body = some raw ∧
    raw.field "response" = .array items ∧ Fixture.cache? raw = some payload

theorem ofReplyIff {r : Reply} {payload : Json} :
    FootballApi.ofReply r = .ok payload ↔ r.isSuccess = true ∧
      ∃ raw, Json.ofBytes? r.body = some raw ∧ Fixture.cache? raw = some payload := by
  unfold FootballApi.ofReply
  cases r.isSuccess with
  | false => simp
  | true =>
    cases Json.ofBytes? r.body with
    | none => simp
    | some raw => cases made : Fixture.cache? raw <;> simp [made]

theorem fetchIff {api : FootballApi} {net : Network} {payload : Json} :
    api.fetch net = .ok payload ↔ ∃ items, Brings (api.request?.bind net) items payload := by
  unfold FootballApi.fetch Brings
  cases api.request?.bind net with
  | none => simp
  | some r =>
    simp only [ofReplyIff, Reply.isSuccess, Bool.and_eq_true, decide_eq_true_eq]
    constructor
    · rintro ⟨success, raw, read, made⟩
      obtain ⟨items, response, _⟩ := Fixture.cacheIff.mp made
      exact ⟨items, r, raw, rfl, success, read, response, made⟩
    · rintro ⟨items, _, raw, same, success, read, _, made⟩
      obtain rfl := Option.some.inj same
      exact ⟨success, raw, read, made⟩

def EntryCount (payload : Json) (n : Nat) : Prop :=
  ∃ lists : List (String × List Json),
    payload = .object (lists.map fun l => (l.1, .array l.2)) ∧ n = (lists.flatMap Prod.snd).length

theorem bringsCount {reply : Option Reply} {items : List Json} {payload : Json}
    (brings : Brings reply items payload) :
    EntryCount payload (Fixture.cacheSize payload) ∧
      Fixture.cacheSize payload = items.countP Fixture.hasLeague := by
  obtain ⟨_, raw, _, _, _, response, made⟩ := brings
  obtain ⟨items', response', rfl⟩ := Fixture.cacheIff.mp made
  obtain rfl := Json.array.inj (response'.symm.trans response)
  rw [Fixture.cacheSizeOf]
  constructor
  · exact ⟨_, rfl, rfl⟩
  · rw [Fixture.groupByLeagueEq, Fixture.totalGroups]
    simp [Fixture.total, NameTable.empty]

variable {path : String}

/- What a round makes of a reply, and the payload it served if it got so far. -/
inductive Round (reply : Option Reply) (path : String) (before : Store) :
    Store → Except RefreshError Nat → Option Json → Prop where
  | unanswered {e} (nothing : ∀ items payload, ¬ Brings reply items payload) :
      Round reply path before before (.error (.api e)) none
  | unwritten {items payload e after} (brings : Brings reply items payload)
      (failed : (Cache.write before path payload).2 = .error e)
      (kept : before.Firm path → after.find? path = before.find? path) :
      Round reply path before after (.error (.cache e)) none
  | served {items payload after n} (brings : Brings reply items payload)
      (wrote : (Cache.write before path payload).2 = .ok ())
      (matched : n = items.countP Fixture.hasLeague) (counted : EntryCount payload n)
      (held : after.find? path = some (.file (Cache.bytes payload)))
      (readBack : Json.ofBytes? (Cache.bytes payload) = some payload → ∀ streamsPath,
        ∃ leagues, Leagues.ofPayload payload = .ok leagues ∧
          (⟨path, streamsPath⟩ : Catalog).fixtures after = .ok leagues) :
      Round reply path before after (.ok n) (some payload)

theorem servedRead {reply : Option Reply} {items : List Json} {payload : Json} {s : Store}
    (brings : Brings reply items payload)
    (held : s.find? path = some (.file (Cache.bytes payload)))
    (inverse : Json.ofBytes? (Cache.bytes payload) = some payload) (streamsPath : String) :
    ∃ leagues, Leagues.ofPayload payload = .ok leagues ∧
      (⟨path, streamsPath⟩ : Catalog).fixtures s = .ok leagues := by
  obtain ⟨_, raw, _, _, _, _, made⟩ := brings
  obtain ⟨items', _, rfl⟩ := Fixture.cacheIff.mp made
  obtain ⟨leagues, read, _⟩ := leaguesOfCache (Fixture.groupByLeague items')
  refine ⟨leagues, read, ?_⟩
  simp only [Catalog.fixtures, Catalog.fixturesJson, Store.readJson, readIff.mpr held, inverse]
  simp only [bind, Except.bind, read]
  rfl

variable {s t u : Store} {nets : List Network}

theorem refreshRound (api : FootballApi) (path : String) (net : Network) (tree : s.Tree) :
    ∃ served, Round (api.request?.bind net) path s (Cache.refresh api path net s).1
      (Cache.refresh api path net s).2 served := by
  unfold Cache.refresh
  cases fetched : api.fetch net with
  | error e =>
    refine ⟨none, .unanswered fun items payload brings => ?_⟩
    rw [fetchIff.mpr ⟨items, brings⟩] at fetched
    contradiction
  | ok payload =>
    obtain ⟨items, brings⟩ := fetchIff.mp fetched
    have whole : Cache.AllOrNothing s (Cache.write s path payload).1 path payload
      (Cache.write s path payload).2 := Cache.oneWriteWhole tree
    dsimp only
    split
    · rename_i after e wrote
      rw [wrote] at whole
      exact ⟨none, .unwritten brings (by rw [wrote]) (whole.kept e rfl)⟩
    · rename_i after wrote
      rw [wrote] at whole
      obtain ⟨counted, matched⟩ := bringsCount brings
      have held := (whole.written rfl).1
      exact ⟨some payload, .served brings (by rw [wrote]) matched counted held
        (servedRead brings held)⟩

theorem refreshTree (api : FootballApi) (path : String) (net : Network) (tree : s.Tree) :
    (Cache.refresh api path net s).1.Tree := by
  unfold Cache.refresh
  split
  · exact tree
  · rename_i payload _
    have kept : (Cache.write s path payload).1.Tree := Cache.writeTree tree
    split <;> rename_i wrote <;> rwa [wrote] at kept

inductive Rounds (api : FootballApi) (path : String) : Store → List Network → Store →
    List (Except RefreshError Nat) → List (Option Json) → Prop where
  | none (s : Store) : Rounds api path s [] s [] []
  | more {s net t result served nets u results later}
      (round : Round (api.request?.bind net) path s t result served)
      (rest : Rounds api path t nets u results later) :
      Rounds api path s (net :: nets) u (result :: results) (served :: later)

theorem refreshRounds (api : FootballApi) (path : String) (nets : List Network) (tree : s.Tree) :
    ∃ served, Rounds api path s nets (Cache.refreshAll api path nets s).1
      (Cache.refreshAll api path nets s).2 served := by
  induction nets generalizing s with
  | nil => exact ⟨[], .none s⟩
  | cons net nets ih =>
    obtain ⟨served, round⟩ := refreshRound api path net tree
    obtain ⟨later, rest⟩ := ih (refreshTree api path net tree)
    rw [Cache.refreshAll]
    exact ⟨served :: later, .more round rest⟩

theorem loopRounds (api : FootballApi) (path : String) (nets : List Network) (tree : s.Tree) :
    ∃ results served,
      Rounds api path s nets (Cache.refreshLoop api path nets s) results served := by
  obtain ⟨served, rounds⟩ := refreshRounds api path nets tree
  rw [Cache.refreshLoopStore]
  exact ⟨_, served, rounds⟩

def last? (served : List (Option Json)) : Option Json := (served.filterMap id).getLast?

theorem lastServed (payload : Json) (later : List (Option Json)) :
    last? (some payload :: later) = some ((last? later).getD payload) := by
  simp [last?, List.getLast?_cons]

theorem firmHeld {e : Entry} (found : s.find? path = some e) : s.Firm path := .inr (by simp [found])

theorem firmKept (firm : s.Firm path) (same : t.find? path = s.find? path) : t.Firm path :=
  firm.imp id fun found => same ▸ found

theorem lastHeld {results served} (rounds : Rounds api path s nets t results served) :
    (∀ payload, last? served = some payload →
      t.find? path = some (.file (Cache.bytes payload))) ∧
    (last? served = none → s.Firm path → t.find? path = s.find? path) := by
  induction rounds with
  | none => exact ⟨nofun, fun _ _ => rfl⟩
  | @more _ _ _ _ _ _ _ _ later round rest ih =>
    cases round with
    | unanswered => exact ih
    | unwritten brings failed kept =>
      refine ⟨ih.1, fun absent firm => ?_⟩
      have same := kept firm
      exact (ih.2 absent (firmKept firm same)).trans same
    | @served items payload after n brings wrote matched counted held readBack =>
      rw [lastServed]
      refine ⟨fun final found => ?_, nofun⟩
      obtain rfl := Option.some.inj found
      cases more : last? later with
      | some newer => exact ih.1 newer more
      | none => rw [ih.2 more (firmHeld held), held, Option.getD_none]

theorem lastServedHeld (api : FootballApi) (path : String) (nets : List Network) {store : Store}
    (tree : store.Tree) :
    ∃ served, Rounds api path store nets (Cache.refreshAll api path nets store).1
        (Cache.refreshAll api path nets store).2 served ∧
      (∀ payload, last? served = some payload →
        (Cache.refreshAll api path nets store).1.find? path =
          some (.file (Cache.bytes payload))) ∧
      (last? served = none → store.Firm path →
        (Cache.refreshAll api path nets store).1.find? path = store.find? path) := by
  obtain ⟨served, rounds⟩ := refreshRounds api path nets tree
  exact ⟨served, rounds, lastHeld rounds⟩

def service : FootballApi := ⟨"http://a", "a", "k", "2022", "1"⟩

def replying (status : Nat) (body : String) : Network := fun _ => some ⟨status, Utf8.encode body⟩

def oneMatch : String :=
  "\x7b\"response\":[\x7b\"league\":\x7b\"name\":\"Cup\"\x7d\x7d,null]\x7d"

def oneMatchCache : Json := .object [("Cup", .array [.object [
  ("away", .null), ("fixture_id", .null), ("home", .null), ("score", .string ""),
  ("timestamp", .null), ("venue", .null)]])]

theorem leagueKeptThroughOutage :
    Store.empty.Tree ∧
    (Cache.refreshAll service "data/fixtures.json"
      [replying 200 oneMatch, replying 403 "no"] .empty).1.find? "data/fixtures.json" =
        some (.file (Cache.bytes oneMatchCache)) ∧
    ∃ leagues, (⟨"data/fixtures.json", "streams.json"⟩ : Catalog).fixtures
      (Cache.refreshAll service "data/fixtures.json"
        [replying 200 oneMatch, replying 403 "no"] .empty).1 = .ok leagues := by
  obtain ⟨served, rounds, held, _⟩ := lastServedHeld service "data/fixtures.json"
    [replying 200 oneMatch, replying 403 "no"] emptyTree
  have results : (Cache.refreshAll service "data/fixtures.json"
      [replying 200 oneMatch, replying 403 "no"] .empty).2 =
      [.ok 1, .error (.api (.refused 403 "no"))] := by decide +kernel
  have fetched : service.fetch (replying 200 oneMatch) = .ok oneMatchCache := by decide +kernel
  rw [results] at rounds
  obtain _ | ⟨first, rest⟩ := rounds
  obtain _ | ⟨second, rest⟩ := rest
  obtain _ | _ := rest
  cases first with
  | @served items payload _ _ brings _ _ _ _ readBack =>
    cases second
    obtain rfl := Except.ok.inj ((fetchIff.mpr ⟨items, brings⟩).symm.trans fetched)
    obtain ⟨leagues, _, read⟩ := readBack (by decide +kernel) "streams.json"
    exact ⟨emptyTree, held _ rfl, leagues, read⟩

/- The directory `a` is made for the way up, though the round fails. -/
theorem failedRoundOpensPath :
    ¬ ∀ (api : FootballApi) (path : String) (net : Network) (store : Store) (e : RefreshError),
      store.Tree → (Cache.refresh api path net store).2 = .error e →
        (Cache.refresh api path net store).1.find? path = store.find? path := by
  intro failureKeeps
  have same := failureKeeps service "a/../a" (replying 200 oneMatch) .empty
    (.cache (.moving "a/../a.json.tmp" "a/../a")) emptyTree (by decide +kernel)
  exact absurd same (by decide +kernel)

end Refresh
end MatchGuide
