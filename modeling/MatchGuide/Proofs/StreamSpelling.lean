import MatchGuide.Proofs.MediaSpelling
import MatchGuide.Stream.Payload

/-! The spellings of a payload of streams: the shape of the whole, the names of the fields and the
tags of the sources. What is read is the list that was spelled, so the keys are those of the list. -/
namespace MatchGuide
open Payload (SpellsInstant SpellsText Epoch)

namespace Source

inductive SpellsFormat (item : Json) (url : String) : Media → Prop where
  | tag {tag m} (given : SpellsText item "type" "typ" tag) (spelled : Media.Spells tag m) :
      SpellsFormat item url m
  | address {m} (noType : ∀ t, item.field "type" ≠ .string t)
      (noTyp : ∀ t, item.field "typ" ≠ .string t) (inferred : Media.ofUrl? url = some m) :
      SpellsFormat item url m

structure Spells (item : Json) (s : Source) : Prop where
  url : item.field "url" = .string s.url
  format : SpellsFormat item s.url s.media

theorem sourceRead {item : Json} {s : Source} (spelled : Spells item s) :
    ofPayload? item = some s := by
  refine payloadIff.mpr ⟨Json.stringIff.mpr spelled.url, ?_⟩
  cases spelled.format with
  | tag given written =>
    rw [Payload.textIff.mpr given, Option.map_some, Option.some_or, Media.tagRead written]
  | address noType noTyp inferred =>
    rw [Json.noStringIff.mpr noType, Json.noStringIff.mpr noTyp, Option.or_none, Option.map_none,
      Option.none_or, inferred]

theorem sourceTaggable {item : Json} {s : Source} (spelled : Spells item s) : s.media.Taggable := by
  cases spelled.format with
  | tag _ written => exact Media.spelledTaggable written
  | address _ _ inferred => exact Media.urlTaggable inferred

theorem sourceSpelled {s : Source} (plain : s.media.Taggable) : ∃ item, Spells item s := by
  refine ⟨.object [("type", .string s.media.shortName), ("url", .string s.url)], rfl, ?_⟩
  exact .tag (.first rfl) (Media.taggableSpelled plain)

end Source

namespace Stream

structure Spells (item : Json) (s : Stream) : Prop where
  description : SpellsText item "description" "title" s.description
  date : SpellsInstant (item.field "date") s.date ∨
    ((∀ n, ¬ Epoch (item.field "date") n) ∧ SpellsInstant (item.field "timestamp") s.date)
  live : item.field "live" = .bool s.live ∨ (s.live = false ∧ item.field "live" = .null)
  sources : ∃ items, item.field "sources" = .array items ∧ List.Forall₂ Source.Spells items s.sources

inductive SpelledBy (streams : List Stream) : Json → Prop where
  | list {items} (each : List.Forall₂ Spells items streams) : SpelledBy streams (.array items)
  | named {fields : Entries Json} (sorted : fields.Sorted)
      (each : List.Forall₂ Spells (fields.map Prod.snd) streams) : SpelledBy streams (.object fields)

structure Expressible (s : Stream) : Prop where
  date : s.date.nanos = 0
  media : ∀ source ∈ s.sources, source.media.Taggable

theorem streamRead {item : Json} {s : Stream} (spelled : Spells item s) :
    ofPayload? item = some s := by
  have date : (Payload.instant? (item.field "date")).or
      (Payload.instant? (item.field "timestamp")) = some s.date := by
    rcases spelled.date with given | ⟨unusable, given⟩
    · rw [Payload.instantRead given, Option.some_or]
    · rw [Payload.noEpoch.mp unusable, Option.none_or, Payload.instantRead given]
  have live : s.live = ((item.field "live").bool?).getD false := by
    rcases spelled.live with given | ⟨off, left⟩
    · rw [given]
      rfl
    · rw [off, left]
      rfl
  obtain ⟨items, given, each⟩ := spelled.sources
  have sources := filterMapSpelled each fun _ _ => Source.sourceRead
  refine payloadIff.mpr ⟨Payload.textIff.mpr spelled.description, date, live, ?_⟩
  rw [given, ← sources]
  rfl

theorem streamExpressible {item : Json} {s : Stream} (spelled : Spells item s) : s.Expressible where
  date := spelled.date.elim Payload.instantWhole fun given => Payload.instantWhole given.2
  media := fun source mem => by
    obtain ⟨items, _, each⟩ := spelled.sources
    obtain ⟨entry, _, written⟩ := spelledMem each mem
    exact Source.sourceTaggable written

theorem streamSpelled {s : Stream} (expressible : s.Expressible) : ∃ item, Spells item s := by
  obtain ⟨items, each⟩ := listSpelled fun source mem =>
    Source.sourceSpelled (expressible.media source mem)
  refine ⟨.object [("date", .int s.date.seconds), ("description", .string s.description),
    ("live", .bool s.live), ("sources", .array items)], .first rfl, .inl ?_, .inl rfl, items, rfl, each⟩
  exact .number s.date expressible.date

theorem streamsRead {streams : List Stream} {raw : Json} (spelled : SpelledBy streams raw) :
    listOfPayload raw = .ok streams := by
  cases spelled with
  | list each => rw [listOfPayload, filterMapSpelled each fun _ _ => streamRead]
  | named _ each => rw [listOfPayload, filterMapSpelled each fun _ _ => streamRead]

theorem spelledAs (streams : List Stream) :
    (∃ raw, SpelledBy streams raw) ↔ ∀ s ∈ streams, s.Expressible := by
  constructor
  · rintro ⟨raw, spelled⟩ s mem
    cases spelled with
    | list each =>
      obtain ⟨item, _, written⟩ := spelledMem each mem
      exact streamExpressible written
    | named _ each =>
      obtain ⟨item, _, written⟩ := spelledMem each mem
      exact streamExpressible written
  · intro expressible
    obtain ⟨items, each⟩ := listSpelled fun s mem => streamSpelled (expressible s mem)
    exact ⟨.array items, .list each⟩

theorem streamSpellingsRead (streams : List Stream) :
    ((∃ raw, SpelledBy streams raw) ↔ ∀ s ∈ streams, s.Expressible) ∧
    ∀ raw, SpelledBy streams raw → listOfPayload raw = .ok streams ∧
      ∀ other, SpelledBy streams other →
        (listOfPayload other).map (·.map key) = (listOfPayload raw).map (·.map key) := by
  refine ⟨spelledAs streams, fun raw spelled => ⟨streamsRead spelled, fun other also => ?_⟩⟩
  rw [streamsRead spelled, streamsRead also]

def motleyFields : Entries Json := [
  ("10", .object [
    ("date", .string "soon"), ("description", .int 1),
    ("sources", .array [
      .object [("type", .string " H\nlS"), ("url", .string "a")],
      .object [("typ", .string "VIDEO / mp4"), ("type", .null), ("url", .string "b.mpd")],
      .object [("url", .string "c.mp4/d.MPD?e.m3u8")],
      .object [("type", .string "\tReal Video"), ("url", .string "")]]),
    ("timestamp", .string " 60"), ("title", .string "Final")]),
  ("9", .object [
    ("date", .int 0), ("description", .string ""), ("live", .bool true), ("sources", .array [])])]

def motley : List Stream := [
  ⟨"Final", ⟨60, 0, by decide⟩, false, [⟨.hls, "a"⟩, ⟨.mp4, "b.mpd"⟩, ⟨.dash, "c.mp4/d.MPD?e.m3u8"⟩,
    ⟨.other "Real Video", ""⟩]⟩,
  ⟨"", .epoch, true, []⟩]

theorem motleyRead :
    SpelledBy motley (.object motleyFields) ∧ listOfPayload (.object motleyFields) = .ok motley := by
  have hls : Media.Spells " H\nlS" .hls :=
    .listed "hls" (by decide) (Text.scrawledText " H\nlS".toList)
  have mp4 : Media.Spells "VIDEO / mp4" .mp4 :=
    .listed "video/mp4" (by decide) (Text.scrawledText "VIDEO / mp4".toList)
  have real : Media.Spells "\tReal Video" (.other "Real Video") :=
    .other ⟨by decide, by decide⟩ (.around ['\t'] [] (List.all_eq_true.mp rfl) nofun)
  have sixty : Whole.Signed ['6', '0'] 60 := .unsigned (.bare ⟨nofun, List.all_eq_true.mp rfl, rfl⟩)
  have date : SpellsInstant (.string " 60") ⟨60, 0, by decide⟩ :=
    .text _ rfl sixty (.around [' '] [] (List.all_eq_true.mp rfl) nofun)
  have soon : ∀ n, ¬ Epoch (.string "soon") n := Payload.noEpoch.mpr rfl
  have spelled : SpelledBy motley (.object motleyFields) := by
    refine .named (by decide) (.cons ?_ (.cons ?_ .nil))
    · refine ⟨.second nofun rfl, .inr ⟨soon, date⟩, .inr ⟨rfl, rfl⟩, _, rfl, ?_⟩
      exact .cons ⟨rfl, .tag (.first rfl) hls⟩ <| .cons ⟨rfl, .tag (.second nofun rfl) mp4⟩ <|
        .cons ⟨rfl, .address nofun nofun (by decide)⟩ <| .cons ⟨rfl, .tag (.first rfl) real⟩ .nil
    · exact ⟨.first rfl, .inl (.number .epoch rfl), .inl rfl, _, rfl, .nil⟩
  exact ⟨spelled, ((streamSpellingsRead motley).2 _ spelled).1⟩

end Stream
end MatchGuide
