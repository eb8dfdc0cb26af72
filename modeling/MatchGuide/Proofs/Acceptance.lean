import MatchGuide.Fixture.Payload
import MatchGuide.Proofs.MediaSpelling
import MatchGuide.Proofs.Upcoming
import MatchGuide.Stream.Payload

/-! Which entries of a payload are kept. An entry that says enough is taken, in its place; one that
does not is passed over, and nothing around it depends on it. -/
namespace MatchGuide
open Payload (SpellsText Epoch)

section Lists
variable {α β : Type} {fits : α → Prop}

inductive Picked (fits : α → Prop) (tells : α → β → Prop) : List α → List β → Prop where
  | nil : Picked fits tells [] []
  | kept {x y xs ys} (fit : fits x) (told : tells x y) (rest : Picked fits tells xs ys) :
      Picked fits tells (x :: xs) (y :: ys)
  | passed {x xs ys} (unfit : ¬ fits x) (rest : Picked fits tells xs ys) :
      Picked fits tells (x :: xs) ys

inductive Alike (fits : α → Prop) (same : α → α → Prop) : List α → List α → Prop where
  | nil : Alike fits same [] []
  | both {x y xs ys} (here : same x y) (rest : Alike fits same xs ys) :
      Alike fits same (x :: xs) (y :: ys)
  | left {x xs ys} (unfit : ¬ fits x) (rest : Alike fits same xs ys) : Alike fits same (x :: xs) ys
  | right {y xs ys} (unfit : ¬ fits y) (rest : Alike fits same xs ys) : Alike fits same xs (y :: ys)

theorem unfitRead {f : α → Option β} {x : α} (fit : fits x ↔ ∃ y, f x = some y)
    (unfit : ¬ fits x) : f x = none :=
  Option.eq_none_iff_forall_ne_some.mpr fun y read => unfit (fit.mpr ⟨y, read⟩)

theorem pickedIff {tells : α → β → Prop} {f : α → Option β}
    (each : ∀ x y, f x = some y ↔ tells x y) (fit : ∀ x, fits x ↔ ∃ y, f x = some y)
    {xs : List α} {ys : List β} : xs.filterMap f = ys ↔ Picked fits tells xs ys := by
  constructor
  · rintro rfl
    induction xs with
    | nil => exact .nil
    | cons x xs ih =>
      -- Whether an entry fits is whether the reader answers.
      cases read : f x with
      | none =>
        rw [List.filterMap_cons_none read]
        refine .passed (fun fitting => ?_) ih
        obtain ⟨y, other⟩ := (fit x).mp fitting
        rw [read] at other
        contradiction
      | some y =>
        rw [List.filterMap_cons_some read]
        exact .kept ((fit x).mpr ⟨y, read⟩) ((each x y).mp read) ih
  · intro picked
    induction picked with
    | nil => rfl
    | kept _ told _ ih => rw [List.filterMap_cons_some ((each _ _).mpr told), ih]
    | passed unfit _ ih => rw [List.filterMap_cons_none (unfitRead (fit _) unfit), ih]

theorem alikeRead {same : α → α → Prop} {f : α → Option β}
    (each : ∀ x y, same x y → f x = f y) (fit : ∀ x, fits x ↔ ∃ y, f x = some y)
    {xs others : List α} (alike : Alike fits same xs others) :
    xs.filterMap f = others.filterMap f := by
  induction alike with
  | nil => rfl
  | both here _ ih => rw [List.filterMap_cons, List.filterMap_cons, each _ _ here, ih]
  | left unfit _ ih => rw [List.filterMap_cons_none (unfitRead (fit _) unfit), ih]
  | right unfit _ ih => rw [List.filterMap_cons_none (unfitRead (fit _) unfit), ih]

theorem pickedMem {tells : α → β → Prop} {xs : List α} {ys : List β}
    (picked : Picked fits tells xs ys) {y : β} (mem : y ∈ ys) : ∃ x, tells x y := by
  induction picked with
  | nil => contradiction
  | kept _ told _ ih =>
    rcases List.mem_cons.mp mem with rfl | later
    · exact ⟨_, told⟩
    · exact ih later
  | passed _ _ ih => exact ih mem

end Lists

def Json.items (j : Json) : List Json := j.array?.getD []

def Instant.WholeInRange (t : Instant) : Prop :=
  t.Whole ∧ minSeconds ≤ t.seconds ∧ t.seconds ≤ maxSeconds

theorem Instant.wholeInRange {t : Instant} (whole : t.Whole) : t.WholeInRange :=
  ⟨whole, t.admitted.1, t.admitted.2.1⟩

namespace Payload

theorem stringTold {j : Json} : (∃ s, j.string? = some s) ↔ ∃ s, j = .string s :=
  exists_congr fun _ => Json.stringIff

theorem eitherTold {α : Type} {a b : Option α} :
    (∃ x, a.or b = some x) ↔ (∃ x, a = some x) ∨ ∃ x, b = some x := by
  cases a <;> simp

theorem flagIff {j : Json} {b : Bool} : b = j.bool?.getD false ↔ (b = true ↔ j = .bool true) := by
  cases j <;> cases b <;> simp [Json.bool?]

end Payload

namespace Fixture

structure Acceptable (item : Json) : Prop where
  home : ∃ s, item.field "home" = .string s
  away : ∃ s, item.field "away" = .string s
  kickoff : ∃ n, Epoch (item.field "timestamp") n

structure Tells (league : String) (item : Json) (f : Fixture) : Prop where
  league : f.league = league
  home : item.field "home" = .string f.home
  away : item.field "away" = .string f.away
  kickoff : Epoch (item.field "timestamp") f.kickoff.seconds
  whole : f.kickoff.Whole
  venue : f.venue = ((item.field "venue").string?).getD ""
  score : f.score = scoreOf item
  id : f.id = Payload.uint32? (item.field "fixture_id")

theorem tellsIff {league : String} {item : Json} {f : Fixture} :
    ofPayload? league item = some f ↔ Tells league item f := by
  rw [payloadIff, Json.stringIff, Json.stringIff, Payload.epochIff]
  constructor
  · rintro ⟨league, home, away, ⟨kickoff, whole⟩, venue, score, id⟩
    exact ⟨league, home, away, kickoff, whole, venue, score, id⟩
  · rintro ⟨league, home, away, kickoff, whole, venue, score, id⟩
    exact ⟨league, home, away, ⟨kickoff, whole⟩, venue, score, id⟩

theorem acceptableIff {league : String} {item : Json} :
    Acceptable item ↔ ∃ f, ofPayload? league item = some f := by
  constructor
  · rintro ⟨home, away, kickoff⟩
    obtain ⟨home, isHome⟩ := Payload.stringTold.mpr home
    obtain ⟨away, isAway⟩ := Payload.stringTold.mpr away
    obtain ⟨kickoff, reached⟩ := Payload.instantTold.mpr kickoff
    exact ⟨⟨league, home, away, _, _, kickoff, _⟩,
      payloadIff.mpr ⟨rfl, isHome, isAway, reached, rfl, rfl, rfl⟩⟩
  · rintro ⟨f, read⟩
    have told := tellsIff.mp read
    exact ⟨⟨_, told.home⟩, ⟨_, told.away⟩, _, told.kickoff⟩

theorem listItems (league : String) (entries : Json) :
    listOfPayload league entries = entries.items.filterMap (ofPayload? league) := by
  cases entries <;> rfl

theorem listPicked {league : String} {entries : Json} {fixtures : List Fixture} :
    listOfPayload league entries = fixtures ↔
      Picked Acceptable (Tells league) entries.items fixtures := by
  rw [listItems]
  exact pickedIff (fun _ _ => tellsIff) (fun _ => acceptableIff)

theorem listAlike {league : String} {entries others : Json}
    (alike : Alike Acceptable Eq entries.items others.items) :
    listOfPayload league entries = listOfPayload league others := by
  rw [listItems, listItems]
  exact alikeRead (fun _ _ => congrArg _) (fun _ => acceptableIff) alike

end Fixture

namespace Leagues

def Filed (field : String × Json) (league : String × List Fixture) : Prop :=
  league.1 = field.1 ∧ Picked Fixture.Acceptable (Fixture.Tells field.1) field.2.items league.2

/- One league to a field. Of fields with one name the last counts; an object that was read from a
text has no such fields. -/
def Sifted (fields : Entries Json) (leagues : Leagues) : Prop :=
  List.Forall₂ Filed (NameTable.ofEntries fields).entries leagues.entries

def AlikeIn (fields others : Entries Json) : Prop :=
  List.Forall₂ (fun field other => field.1 = other.1 ∧
    Alike Fixture.Acceptable Eq field.2.items other.2.items) fields others

theorem payloadTable (fields : Entries Json) :
    ∃ leagues, ofPayload (.object fields) = .ok leagues ∧
      leagues.entries = (NameTable.ofEntries fields).entries.map fun e =>
        (e.1, Fixture.listOfPayload e.1 e.2) :=
  ⟨_, rfl, NameTable.ofEntriesMap Fixture.listOfPayload fields⟩

theorem payloadFails {raw : Json} {e : ShapeError} :
    ofPayload raw = .error e ↔ (∀ fields, raw ≠ .object fields) ∧ e = ⟨"object", raw.shape⟩ := by
  cases raw <;> simp [ofPayload, eq_comm]

theorem siftedIff {fields : Entries Json} {leagues : Leagues} :
    ofPayload (.object fields) = .ok leagues ↔ Sifted fields leagues := by
  obtain ⟨table, read, made⟩ := payloadTable fields
  have each : Filed = fun field league =>
      (field.1, Fixture.listOfPayload field.1 field.2) = league := by
    funext field league
    rw [Filed, ← Fixture.listPicked, Prod.ext_iff, eq_comm (a := league.1)]
  -- A table is its list of entries, so it is enough that the lists are the same.
  have listed : Sifted fields leagues ↔ table.entries = leagues.entries := by
    rw [Sifted, each, made, ← List.forall₂_map_left_iff, List.forall₂_eq_eq_eq]
  rw [read, listed, Except.ok.injEq]
  exact ⟨congrArg NameTable.entries, NameTable.entriesUnique⟩

theorem siftedSorted {fields : Entries Json} (sorted : fields.Sorted) {leagues : Leagues} :
    Sifted fields leagues ↔ List.Forall₂ Filed fields leagues.entries := by
  rw [Sifted, NameTable.ofSorted sorted]

theorem siftedNames {fields : Entries Json} {leagues : Leagues} (sifted : Sifted fields leagues)
    {name : String} : name ∈ leagues.names ↔ name ∈ Entries.names fields := by
  obtain ⟨table, read, made⟩ := payloadTable fields
  obtain rfl := Except.ok.inj (read.symm.trans (siftedIff.mpr sifted))
  have names : table.names = (NameTable.ofEntries fields).names := by
    rw [NameTable.names, made, Entries.namesMap, NameTable.names]
  rw [names, NameTable.memOfEntriesNames]

theorem siftedEmpty {fields : Entries Json} {leagues : Leagues} (sifted : Sifted fields leagues)
    {name : String} {value : Json} (given : (NameTable.ofEntries fields).find? name = some value)
    (noList : ∀ items, value ≠ .array items) : leagues.find? name = some [] := by
  obtain ⟨table, read, made⟩ := payloadTable fields
  obtain rfl := Except.ok.inj (read.symm.trans (siftedIff.mpr sifted))
  have empty : Fixture.listOfPayload name value = [] := by
    cases value with
    | array items => exact absurd rfl (noList items)
    | null | bool | int | float | string | object => rfl
  rw [NameTable.find?] at given
  rw [NameTable.find?, made, Entries.findMap, given, Option.map_some, empty]

theorem siftedWhole {fields : Entries Json} {leagues : Leagues} (sifted : Sifted fields leagues)
    {league : String} {fixtures : List Fixture} (filed : (league, fixtures) ∈ leagues.entries)
    {f : Fixture} (mem : f ∈ fixtures) : f.league = league ∧ f.kickoff.WholeInRange := by
  obtain ⟨field, _, name, picked⟩ := spelledMem sifted filed
  obtain ⟨item, told⟩ := pickedMem picked mem
  exact ⟨told.league.trans name.symm, Instant.wholeInRange told.whole⟩

theorem alikePayload {fields others : Entries Json} (alike : AlikeIn fields others) :
    ofPayload (.object fields) = ofPayload (.object others) := by
  have same : (fields.map fun e => (e.1, Fixture.listOfPayload e.1 e.2)) =
      others.map fun e => (e.1, Fixture.listOfPayload e.1 e.2) := by
    induction alike with
    | nil => rfl
    | cons here _ ih =>
      obtain ⟨name, items⟩ := here
      rw [List.map_cons, List.map_cons, ih, name, Fixture.listAlike items]
  exact congrArg (fun entries => Except.ok (NameTable.ofEntries entries)) same

end Leagues

namespace Source

def Acceptable (item : Json) : Prop :=
  ∃ url, item.field "url" = .string url ∧
    ((∃ tag, item.field "type" = .string tag) ∨ (∃ tag, item.field "typ" = .string tag) ∨
      ∃ ext m, Text.Extension ext url.toList ∧ (.ofList (Text.lower ext), m) ∈ Media.extensions)

inductive TellsFormat (item : Json) (url : String) : Media → Prop where
  | tag {tag} (given : SpellsText item "type" "typ" tag) : TellsFormat item url (.ofTag tag)
  | address {ext m} (noType : ∀ t, item.field "type" ≠ .string t)
      (noTyp : ∀ t, item.field "typ" ≠ .string t) (behind : Text.Extension ext url.toList)
      (known : (.ofList (Text.lower ext), m) ∈ Media.extensions) : TellsFormat item url m

structure Tells (item : Json) (s : Source) : Prop where
  url : item.field "url" = .string s.url
  format : TellsFormat item s.url s.media

theorem formatIff {item : Json} {url : String} {m : Media} :
    (((item.field "type").string?.or (item.field "typ").string?).map Media.ofTag).or
      (Media.ofUrl? url) = some m ↔ TellsFormat item url m := by
  rw [Option.or_eq_some_iff, Option.map_eq_some_iff, Option.map_eq_none_iff, Option.or_eq_none_iff,
    Json.noStringIff, Json.noStringIff, Media.urlIff]
  constructor
  · rintro (⟨tag, given, rfl⟩ | ⟨⟨noType, noTyp⟩, ext, behind, known⟩)
    · exact .tag (Payload.textIff.mp given)
    · exact .address noType noTyp behind known
  · intro told
    cases told with
    | tag given => exact .inl ⟨_, Payload.textIff.mpr given, rfl⟩
    | address noType noTyp behind known => exact .inr ⟨⟨noType, noTyp⟩, _, behind, known⟩

theorem tellsIff {item : Json} {s : Source} : ofPayload? item = some s ↔ Tells item s := by
  rw [payloadIff, Json.stringIff, formatIff]
  exact ⟨fun ⟨url, format⟩ => ⟨url, format⟩, fun ⟨url, format⟩ => ⟨url, format⟩⟩

theorem acceptableIff {item : Json} : Acceptable item ↔ ∃ s, ofPayload? item = some s := by
  constructor
  · rintro ⟨url, isUrl, format⟩
    have named : ∃ m, (((item.field "type").string?.or (item.field "typ").string?).map
        Media.ofTag).or (Media.ofUrl? url) = some m := by
      refine Payload.eitherTold.mpr ?_
      rcases format with tag | tag | ⟨ext, m, behind, known⟩
      · obtain ⟨tag, given⟩ := Payload.eitherTold.mpr (.inl (Payload.stringTold.mpr tag))
        exact .inl ⟨_, Option.map_eq_some_iff.mpr ⟨tag, given, rfl⟩⟩
      · obtain ⟨tag, given⟩ := Payload.eitherTold.mpr (.inr (Payload.stringTold.mpr tag))
        exact .inl ⟨_, Option.map_eq_some_iff.mpr ⟨tag, given, rfl⟩⟩
      · exact .inr ⟨m, Media.urlIff.mpr ⟨ext, behind, known⟩⟩
    obtain ⟨m, read⟩ := named
    exact ⟨⟨m, url⟩, payloadIff.mpr ⟨Json.stringIff.mpr isUrl, read⟩⟩
  · rintro ⟨⟨m, url⟩, read⟩
    obtain ⟨isUrl, told⟩ := tellsIff.mp read
    refine ⟨url, isUrl, ?_⟩
    cases told with
    | tag given =>
      cases given with
      | first given => exact .inl ⟨_, given⟩
      | second _ given => exact .inr (.inl ⟨_, given⟩)
    | address _ _ behind known => exact .inr (.inr ⟨_, m, behind, known⟩)

end Source

namespace Stream

structure Acceptable (item : Json) : Prop where
  description : (∃ s, item.field "description" = .string s) ∨ ∃ s, item.field "title" = .string s
  date : (∃ n, Epoch (item.field "date") n) ∨ ∃ n, Epoch (item.field "timestamp") n

structure Tells (item : Json) (s : Stream) : Prop where
  description : SpellsText item "description" "title" s.description
  date : Epoch (item.field "date") s.date.seconds ∨
    ((∀ n, ¬ Epoch (item.field "date") n) ∧ Epoch (item.field "timestamp") s.date.seconds)
  whole : s.date.Whole
  live : s.live = true ↔ item.field "live" = .bool true
  sources : Picked Source.Acceptable Source.Tells (item.field "sources").items s.sources

structure AlikeIn (item other : Json) : Prop where
  fields : ∀ name, name ≠ "sources" → item.field name = other.field name
  sources : Alike Source.Acceptable Eq (item.field "sources").items (other.field "sources").items

inductive Lists : Json → List Json → Prop where
  | array (items) : Lists (.array items) items
  | object (fields : Entries Json) : Lists (.object fields) (fields.map Prod.snd)

theorem dateIff {item : Json} {t : Instant} :
    (Payload.instant? (item.field "date")).or (Payload.instant? (item.field "timestamp")) = some t ↔
      (Epoch (item.field "date") t.seconds ∨
        ((∀ n, ¬ Epoch (item.field "date") n) ∧ Epoch (item.field "timestamp") t.seconds)) ∧
      t.nanos = 0 := by
  rw [Option.or_eq_some_iff, ← Payload.noEpoch, Payload.epochIff, Payload.epochIff, ← and_assoc,
    or_and_right]

theorem tellsIff {item : Json} {s : Stream} : ofPayload? item = some s ↔ Tells item s := by
  have sources : s.sources = (item.field "sources").items.filterMap Source.ofPayload? ↔
      Picked Source.Acceptable Source.Tells (item.field "sources").items s.sources :=
    eq_comm.trans (pickedIff (fun _ _ => Source.tellsIff) (fun _ => Source.acceptableIff))
  rw [payloadIff, Payload.textIff, dateIff, Payload.flagIff]
  constructor
  · rintro ⟨description, ⟨date, whole⟩, live, list⟩
    exact ⟨description, date, whole, live, sources.mp list⟩
  · rintro ⟨description, date, whole, live, picked⟩
    exact ⟨description, ⟨date, whole⟩, live, sources.mpr picked⟩

theorem acceptableIff {item : Json} : Acceptable item ↔ ∃ s, ofPayload? item = some s := by
  have description := Payload.eitherTold (a := (item.field "description").string?)
    (b := (item.field "title").string?)
  have date := Payload.eitherTold (a := Payload.instant? (item.field "date"))
    (b := Payload.instant? (item.field "timestamp"))
  rw [Payload.stringTold, Payload.stringTold] at description
  rw [Payload.instantTold, Payload.instantTold] at date
  constructor
  · intro fitting
    obtain ⟨text, isText⟩ := description.mpr fitting.description
    obtain ⟨day, isDay⟩ := date.mpr fitting.date
    exact ⟨⟨text, day, _, _⟩, payloadIff.mpr ⟨isText, isDay, rfl, rfl⟩⟩
  · rintro ⟨s, read⟩
    have ⟨isText, isDay, _⟩ := payloadIff.mp read
    exact ⟨description.mp ⟨_, isText⟩, date.mp ⟨_, isDay⟩⟩

theorem itemsPicked (items : List Json) :
    Picked Acceptable Tells items (items.filterMap ofPayload?) :=
  (pickedIff (fun _ _ => tellsIff) (fun _ => acceptableIff)).mp rfl

theorem alikePayload {item other : Json} (alike : AlikeIn item other) :
    ofPayload? item = ofPayload? other := by
  have list : (item.field "sources").items.filterMap Source.ofPayload? =
      (other.field "sources").items.filterMap Source.ofPayload? :=
    alikeRead (fun _ _ => congrArg _) (fun _ => Source.acceptableIff) alike.sources
  -- Five fields are read besides the sources.
  refine Option.ext fun s => ?_
  rw [payloadIff, payloadIff, alike.fields _ (by decide), alike.fields _ (by decide),
    alike.fields _ (by decide), alike.fields _ (by decide), alike.fields _ (by decide)]
  exact and_congr_right' (and_congr_right' (and_congr_right' (Eq.congr_right list)))

theorem itemsAlike {items others : List Json} (alike : Alike Acceptable AlikeIn items others) :
    items.filterMap ofPayload? = others.filterMap ofPayload? :=
  alikeRead (fun _ _ here => alikePayload here) (fun _ => acceptableIff) alike

theorem payloadFails {raw : Json} {e : ShapeError} :
    listOfPayload raw = .error e ↔
      (∀ items, raw ≠ .array items) ∧ (∀ fields, raw ≠ .object fields) ∧ e = ⟨"array", raw.shape⟩ := by
  cases raw <;> simp [listOfPayload, eq_comm]

theorem listRead {raw : Json} {items : List Json} (lists : Lists raw items) :
    listOfPayload raw = .ok (items.filterMap ofPayload?) := by
  cases lists <;> rfl

end Stream

theorem entriesSifted (raw : Json) :
    (∀ e, Leagues.ofPayload raw = .error e ↔
      (∀ fields, raw ≠ .object fields) ∧ e = ⟨"object", raw.shape⟩) ∧
    (∀ e, Stream.listOfPayload raw = .error e ↔
      (∀ items, raw ≠ .array items) ∧ (∀ fields, raw ≠ .object fields) ∧ e = ⟨"array", raw.shape⟩) ∧
    (∀ fields, raw = .object fields → ∃ leagues, Leagues.ofPayload raw = .ok leagues ∧
      Leagues.Sifted fields leagues ∧
      (Entries.Sorted fields → List.Forall₂ Leagues.Filed fields leagues.entries) ∧
      (∀ name, name ∈ leagues.names ↔ name ∈ Entries.names fields) ∧
      (∀ name value, (NameTable.ofEntries fields).find? name = some value →
        (∀ items, value ≠ .array items) → leagues.find? name = some []) ∧
      (∀ league fixtures, (league, fixtures) ∈ leagues.entries →
        ∀ f ∈ fixtures, f.league = league ∧ f.kickoff.WholeInRange) ∧
      ∀ others, Leagues.AlikeIn fields others → Leagues.ofPayload (.object others) = .ok leagues) ∧
    (∀ items, Stream.Lists raw items → ∃ streams, Stream.listOfPayload raw = .ok streams ∧
      Picked Stream.Acceptable Stream.Tells items streams ∧ (∀ s ∈ streams, s.date.WholeInRange) ∧
      ∀ other others, Stream.Lists other others → Alike Stream.Acceptable Stream.AlikeIn items others →
        Stream.listOfPayload other = .ok streams) := by
  refine ⟨fun _ => Leagues.payloadFails, fun _ => Stream.payloadFails, ?_, fun items lists => ?_⟩
  · rintro fields rfl
    obtain ⟨leagues, read, _⟩ := Leagues.payloadTable fields
    have sifted := Leagues.siftedIff.mp read
    refine ⟨leagues, read, sifted, fun sorted => (Leagues.siftedSorted sorted).mp sifted,
      fun _ => Leagues.siftedNames sifted, fun _ _ => Leagues.siftedEmpty sifted,
      fun _ _ filed _ => Leagues.siftedWhole sifted filed, fun others alike => ?_⟩
    rw [← Leagues.alikePayload alike, read]
  · have picked := Stream.itemsPicked items
    refine ⟨_, Stream.listRead lists, picked, fun s mem => ?_, fun other others also alike => ?_⟩
    · obtain ⟨item, told⟩ := pickedMem picked mem
      exact Instant.wholeInRange told.whole
    · rw [Stream.listRead also, Stream.itemsAlike alike]

def cluttered : Entries Json := [
  ("Cup", .array [
    .string "A - B",
    .object [("away", .string "B"), ("home", .string "A"), ("timestamp", .string " 90 ")],
    .object [("away", .null), ("home", .string "A"), ("timestamp", .int 90)],
    .object [("away", .string "D"), ("home", .string "C"), ("timestamp", .int 8210266876800)]]),
  ("Liga", .string "none")]

def tidied : Entries Json := [
  ("Cup", .array [
    .object [("away", .string "B"), ("home", .string "A"), ("timestamp", .string " 90 ")]]),
  ("Liga", .array [.object [("home", .string "A")]])]

def final (sources : List Json) : Json := .object [
  ("date", .string "soon"), ("sources", .array sources), ("timestamp", .int 60),
  ("title", .string "Final")]

def clutteredList : List Json :=
  [.int 3, final [.null, .object [("url", .string "a.MPD#x")], .object [("url", .string "b")]]]

def tidiedFields : Entries Json := [
  ("1", final [.object [("url", .string "a.MPD#x")]]),
  ("2", .object [("date", .int 0)])]

theorem clutterPassed :
    (∃ leagues, Leagues.ofPayload (.object cluttered) = .ok leagues ∧
      Leagues.ofPayload (.object tidied) = .ok leagues ∧ leagues.find? "Liga" = some [] ∧
      leagues.find? "Cup" = some [⟨"Cup", "A", "B", "", ⟨none, none⟩, ⟨90, 0, by decide⟩, none⟩]) ∧
    Stream.listOfPayload (.array clutteredList) =
      .ok [⟨"Final", ⟨60, 0, by decide⟩, false, [⟨.dash, "a.MPD#x"⟩]⟩] ∧
    Stream.listOfPayload (.object tidiedFields) = Stream.listOfPayload (.array clutteredList) ∧
    Leagues.ofPayload .null = .error ⟨"object", "null"⟩ ∧
    Stream.listOfPayload (.int 0) = .error ⟨"array", "number"⟩ := by
  have noTeam : ¬ Fixture.Acceptable (.string "A - B") := by
    rintro ⟨⟨_, given⟩, _⟩
    cases given
  have noAway : ¬ Fixture.Acceptable
      (.object [("away", .null), ("home", .string "A"), ("timestamp", .int 90)]) := by
    rintro ⟨_, ⟨_, given⟩, _⟩
    cases given
  have tooLate : ¬ Fixture.Acceptable
      (.object [("away", .string "D"), ("home", .string "C"), ("timestamp", .int 8210266876800)]) := by
    rintro ⟨_, _, n, told⟩
    exact Payload.noEpoch.mpr rfl n told
  have homeOnly : ¬ Fixture.Acceptable (.object [("home", .string "A")]) := by
    rintro ⟨_, ⟨_, given⟩, _⟩
    cases given
  have leagues : Leagues.AlikeIn cluttered tidied := by
    refine .cons ⟨rfl, ?_⟩ (.cons ⟨rfl, .right homeOnly .nil⟩ .nil)
    exact .left noTeam (.both rfl (.left noAway (.left tooLate .nil)))
  have noUrl : ¬ Source.Acceptable .null := by
    rintro ⟨_, given, _⟩
    cases given
  have noFormat : ¬ Source.Acceptable (.object [("url", .string "b")]) := by
    rw [Source.acceptableIff]
    rintro ⟨_, read⟩
    cases read
  have noTitle : ¬ Stream.Acceptable (.int 3) := by
    rintro ⟨⟨_, given⟩ | ⟨_, given⟩, _⟩ <;> cases given
  have dateOnly : ¬ Stream.Acceptable (.object [("date", .int 0)]) := by
    rintro ⟨⟨_, given⟩ | ⟨_, given⟩, _⟩ <;> cases given
  have streams : Alike Stream.Acceptable Stream.AlikeIn clutteredList (tidiedFields.map Prod.snd) := by
    refine .left noTitle (.both ⟨fun name other => ?_, ?_⟩ (.right dateOnly .nil))
    · simp [final, Json.field, Entries.find?, Ne.symm other]
    · exact .left noUrl (.both rfl (.left noFormat .nil))
  obtain ⟨_, _, fixtures, _⟩ := entriesSifted (.object cluttered)
  obtain ⟨table, read, _, _, _, empty, _, same⟩ := fixtures cluttered rfl
  obtain ⟨_, _, _, reels⟩ := entriesSifted (.array clutteredList)
  obtain ⟨list, listed, _, _, agree⟩ := reels clutteredList (.array _)
  have liga := empty "Liga" (.string "none") rfl fun _ => Json.noConfusion
  refine ⟨⟨table, read, same tidied leagues, liga, ?_⟩, ?_, ?_, ?_, ?_⟩
  · obtain rfl := Except.ok.inj read
    rfl
  · rfl
  · rw [agree _ _ (.object _) streams, listed]
  · exact ((entriesSifted .null).1 _).mpr ⟨fun _ => Json.noConfusion, rfl⟩
  · exact ((entriesSifted (.int 0)).2.1 _).mpr
      ⟨fun _ => Json.noConfusion, fun _ => Json.noConfusion, rfl⟩

end MatchGuide
