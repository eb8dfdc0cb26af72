import MatchGuide.Payload
import MatchGuide.Stream.Basic

/-! Reading streams: a list of them, or an object whose values are taken in the order of its names.
A stream without description or date is left out, and so is a source without address or format. -/
namespace MatchGuide

def Source.ofPayload? (item : Json) : Option Source := do
  let url ← (item.field "url").string?
  let tag := (item.field "type").string?.or (item.field "typ").string?
  let media ← (tag.map Media.ofTag).or (Media.ofUrl? url)
  some ⟨media, url⟩

theorem Source.payloadIff {item : Json} {s : Source} :
    ofPayload? item = some s ↔
      (item.field "url").string? = some s.url ∧
      (((item.field "type").string?.or (item.field "typ").string?).map Media.ofTag).or
        (Media.ofUrl? s.url) = some s.media := by
  simp only [ofPayload?, Option.bind_eq_bind, Option.bind_eq_some_iff, Option.some.injEq]
  constructor
  · rintro ⟨url, isUrl, media, isMedia, rfl⟩
    exact ⟨isUrl, isMedia⟩
  · rintro ⟨isUrl, isMedia⟩
    exact ⟨s.url, isUrl, s.media, isMedia, rfl⟩

namespace Stream

def ofPayload? (item : Json) : Option Stream := do
  let description ← (item.field "description").string?.or (item.field "title").string?
  let date ← (Payload.instant? (item.field "date")).or (Payload.instant? (item.field "timestamp"))
  some {
    description, date
    live := ((item.field "live").bool?).getD false
    sources := match item.field "sources" with
      | .array items => items.filterMap Source.ofPayload?
      | _ => [] }

theorem payloadIff {item : Json} {s : Stream} :
    ofPayload? item = some s ↔
      (item.field "description").string?.or (item.field "title").string? = some s.description ∧
      (Payload.instant? (item.field "date")).or (Payload.instant? (item.field "timestamp")) =
        some s.date ∧
      s.live = ((item.field "live").bool?).getD false ∧
      s.sources = ((item.field "sources").array?.getD []).filterMap Source.ofPayload? := by
  have sources : (match item.field "sources" with
      | .array items => items.filterMap Source.ofPayload?
      | _ => []) = ((item.field "sources").array?.getD []).filterMap Source.ofPayload? := by
    cases item.field "sources" <;> rfl
  simp only [ofPayload?, Option.bind_eq_bind, Option.bind_eq_some_iff, Option.some.injEq, sources]
  constructor
  · rintro ⟨description, told, date, reached, rfl⟩
    exact ⟨told, reached, rfl, rfl⟩
  · rintro ⟨told, reached, live, list⟩
    refine ⟨s.description, told, s.date, reached, ?_⟩
    rw [← live, ← list]

def listOfPayload (raw : Json) : Except ShapeError (List Stream) :=
  match raw with
  | .array items => .ok (items.filterMap ofPayload?)
  | .object fields => .ok ((fields.map Prod.snd).filterMap ofPayload?)
  | raw => .error ⟨"array", raw.shape⟩

end Stream
end MatchGuide
