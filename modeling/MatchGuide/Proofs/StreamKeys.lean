import MatchGuide.Proofs.MediaSpelling
import MatchGuide.Stream.Payload

/-! What the key of a stream is made of. Texts end in a zero byte there, so a stream can be told
from its content as long as no text of it has a zero character; with one, another stream may have
the same content. The digest itself is not looked into. -/
namespace MatchGuide

namespace Utf8

theorem zeroByte {c : Char} (mem : (0 : UInt8) ∈ encodeChar c) : c = '\x00' := by
  have wrapped {n : Nat} (zero : (0 : UInt8) = .ofNat n) : n % 256 = 0 := by
    simpa using (congrArg UInt8.toNat zero).symm
  have valid : c.toNat < 0xD800 ∨ (0xDFFF < c.toNat ∧ c.toNat < 0x110000) := c.valid
  suffices c.toNat = 0 from Char.toNat_inj.mp this
  unfold encodeChar at mem
  generalize c.toNat = n at *
  simp only at mem
  split at mem
  · have := wrapped (List.mem_singleton.mp mem)
    omega
  split at mem
  · simp only [List.mem_cons, List.not_mem_nil, or_false] at mem
    rcases mem with zero | zero <;> have := wrapped zero <;> omega
  split at mem
  · simp only [List.mem_cons, List.not_mem_nil, or_false] at mem
    rcases mem with zero | zero | zero <;> have := wrapped zero <;> omega
  · simp only [List.mem_cons, List.not_mem_nil, or_false] at mem
    rcases mem with zero | zero | zero | zero <;> have := wrapped zero <;> omega

theorem zeroText {s : String} (mem : (0 : UInt8) ∈ encode s) : '\x00' ∈ s.toList := by
  obtain ⟨c, inside, zero⟩ := List.mem_flatMap.mp mem
  exact zeroByte zero ▸ inside

theorem encodeUnique {s t : String} (same : encode s = encode t) : s = t :=
  Option.some.inj ((decodeEncode s).symm.trans (same ▸ decodeEncode t))

theorem textUnique {s t : String} {rest other : Bytes} (first : '\x00' ∉ s.toList)
    (second : '\x00' ∉ t.toList) (same : encode s ++ 0 :: rest = encode t ++ 0 :: other) :
    s = t ∧ rest = other := by
  have ended {raw tail : Bytes} (clear : (0 : UInt8) ∉ raw) :
      (raw ++ 0 :: tail).takeWhile (· != 0) = raw := by
    have solid : ∀ b ∈ raw, (b != 0) = true := fun b mem => by
      rw [bne_iff_ne]
      rintro rfl
      exact clear mem
    rw [List.takeWhile_append_of_pos solid]
    simp
  have texts := congrArg (List.takeWhile (· != 0)) same
  rw [ended fun mem => first (zeroText mem), ended fun mem => second (zeroText mem)] at texts
  rw [texts] at same
  exact ⟨encodeUnique texts, (List.cons.inj (List.append_cancel_left same)).2⟩

end Utf8

namespace Digest

theorem bigEndianSucc (width n : Nat) :
    bigEndian (width + 1) n = .ofNat (n >>> (8 * width)) :: bigEndian width n := by
  simp [bigEndian, List.range_succ]

theorem bigEndianLength (width n : Nat) : (bigEndian width n).length = width := by
  simp [bigEndian]

theorem bigEndianUnique {m n : Nat} (same : bigEndian 8 m = bigEndian 8 n) :
    m % UInt64.size = n % UInt64.size := by
  have low (width : Nat) (same : bigEndian width m = bigEndian width n) :
      m % 256 ^ width = n % 256 ^ width := by
    induction width with
    | zero => simp [Nat.mod_one]
    | succ width ih =>
      rw [bigEndianSucc, bigEndianSucc] at same
      obtain ⟨top, rest⟩ := List.cons.inj same
      have digit : m / 256 ^ width % 256 = n / 256 ^ width % 256 := by
        have shift (k : Nat) : k >>> (8 * width) = k / 256 ^ width := by
          rw [Nat.shiftRight_eq_div_pow, Nat.pow_mul]
        simpa [shift] using congrArg UInt8.toNat top
      rw [Nat.pow_succ, Nat.mod_mul, Nat.mod_mul, ih rest, digit]
  exact low 8 same

end Digest

theorem Source.payloadSettled {item : Json} {s : Source} (read : ofPayload? item = some s) :
    s.media.Settled := by
  simp only [ofPayload?, Option.bind_eq_bind, Option.bind_eq_some_iff, Option.or_eq_some_iff,
    Option.map_eq_some_iff] at read
  obtain ⟨url, _, media, named, same⟩ := read
  obtain rfl := Option.some.inj same
  rcases named with ⟨tag, _, rfl⟩ | ⟨_, byUrl⟩
  · exact Media.tagSettled tag
  · exact Media.urlSettled byUrl

namespace Stream

def Listed (s : Stream) : Prop := ∃ raw streams, listOfPayload raw = .ok streams ∧ s ∈ streams

theorem listedRead {s : Stream} (listed : s.Listed) : ∃ item, ofPayload? item = some s := by
  obtain ⟨raw, streams, read, mem⟩ := listed
  unfold listOfPayload at read
  split at read
  · obtain rfl := Except.ok.inj read
    obtain ⟨item, _, found⟩ := List.mem_filterMap.mp mem
    exact ⟨item, found⟩
  · obtain rfl := Except.ok.inj read
    obtain ⟨item, _, found⟩ := List.mem_filterMap.mp mem
    exact ⟨item, found⟩
  · contradiction

structure Regular (s : Stream) : Prop where
  date : s.date.nanos = 0
  media : ∀ source ∈ s.sources, source.media.Settled

theorem listedRegular {s : Stream} (listed : s.Listed) : s.Regular := by
  obtain ⟨item, read⟩ := listedRead listed
  simp only [ofPayload?, Option.bind_eq_bind, Option.bind_eq_some_iff, Option.or_eq_some_iff] at read
  obtain ⟨description, _, date, told, same⟩ := read
  obtain rfl := Option.some.inj same
  constructor
  · rcases told with told | ⟨_, told⟩
    · exact (Payload.instantIff.mp told).2
    · exact (Payload.instantIff.mp told).2
  · intro source mem
    simp only at mem
    split at mem
    · obtain ⟨entry, _, found⟩ := List.mem_filterMap.mp mem
      exact Source.payloadSettled found
    · contradiction

end Stream

structure Source.ZeroFree (s : Source) : Prop where
  media : '\x00' ∉ s.media.shortName.toList
  url : '\x00' ∉ s.url.toList

namespace Stream

structure ZeroFree (s : Stream) : Prop where
  description : '\x00' ∉ s.description.toList
  sources : ∀ source ∈ s.sources, source.ZeroFree

theorem sourceUnique {s t : Source} {rest other : Bytes}
    (first : s.media.Settled ∧ s.ZeroFree) (second : t.media.Settled ∧ t.ZeroFree)
    (same : sourceBytes s ++ rest = sourceBytes t ++ other) : s = t ∧ rest = other := by
  simp only [sourceBytes, List.append_assoc, List.cons_append, List.nil_append] at same
  obtain ⟨named, urls⟩ := Utf8.textUnique first.2.media second.2.media same
  obtain ⟨url, ends⟩ := Utf8.textUnique first.2.url second.2.url urls
  have media := Media.settledUnique first.1 second.1 named
  exact ⟨by cases s; cases t; simp_all only, ends⟩

theorem sourcesUnique {xs ys : List Source} (first : ∀ s ∈ xs, s.media.Settled ∧ s.ZeroFree)
    (second : ∀ s ∈ ys, s.media.Settled ∧ s.ZeroFree)
    (same : xs.flatMap sourceBytes = ys.flatMap sourceBytes) : xs = ys := by
  induction xs generalizing ys with
  | nil =>
    cases ys with
    | nil => rfl
    | cons y ys => simp [sourceBytes] at same
  | cons x xs ih =>
    cases ys with
    | nil => simp [sourceBytes] at same
    | cons y ys =>
      obtain ⟨head, rest⟩ := List.forall_mem_cons.mp first
      obtain ⟨top, others⟩ := List.forall_mem_cons.mp second
      rw [List.flatMap_cons, List.flatMap_cons] at same
      obtain ⟨rfl, behind⟩ := sourceUnique head top same
      rw [ih rest others behind]

theorem dateUnique {a b : Instant} (first : a.nanos = 0) (second : b.nanos = 0)
    (same : Digest.bigEndian 8 (a.seconds % UInt64.size).toNat =
      Digest.bigEndian 8 (b.seconds % UInt64.size).toNat) : a = b := by
  have words := Digest.bigEndianUnique same
  obtain ⟨low, high, _⟩ := a.admitted
  obtain ⟨bottom, top, _⟩ := b.admitted
  have seconds : a.seconds = b.seconds := by
    unfold Instant.minSeconds at low bottom
    unfold Instant.maxSeconds at high top
    simp only [UInt64.size] at words
    omega
  cases a
  cases b
  simp_all only

theorem liveUnique {a b : Bool} (same : (if a then 1 else 0 : UInt8) = if b then 1 else 0) :
    a = b := by
  cases a <;> cases b <;> simp_all

theorem contentUnique {s t : Stream} (first : s.Regular) (second : t.Regular)
    (clear : s.ZeroFree) (plain : t.ZeroFree) (same : s.content = t.content) : s = t := by
  simp only [content, List.append_assoc, List.cons_append] at same
  obtain ⟨description, fields⟩ := Utf8.textUnique clear.description plain.description same
  obtain ⟨day, rest⟩ := List.append_inj fields (by simp only [Digest.bigEndianLength])
  obtain ⟨flag, list⟩ := List.cons.inj rest
  have date := dateUnique first.date second.date day
  have live := liveUnique flag
  have sources := sourcesUnique (fun x mem => ⟨first.media x mem, clear.sources x mem⟩)
    (fun x mem => ⟨second.media x mem, plain.sources x mem⟩) list
  cases s
  cases t
  simp_all only

theorem contentTells {s t : Stream} (first : s.Listed) (second : t.Listed) (clear : s.ZeroFree)
    (plain : t.ZeroFree) (same : s.content = t.content) :
    s.description = t.description ∧ s.date = t.date ∧ s.live = t.live ∧ s.sources = t.sources := by
  obtain rfl := contentUnique (listedRegular first) (listedRegular second) clear plain same
  exact ⟨rfl, rfl, rfl, rfl⟩

def shorthand : Json := .object [
  ("date", .int 60), ("description", .string "Final"),
  ("sources", .array [.object [("url", .string "final.m3u8")]])]

def spelledOut : Json := .object [
  ("live", .bool false),
  ("sources", .array [.object [("type", .string " HLS"), ("url", .string "final.m3u8")], .null]),
  ("timestamp", .string "60.5"), ("title", .string "Final")]

theorem spellingsAgree :
    ∃ s t, listOfPayload (.array [shorthand]) = .ok [s] ∧
      listOfPayload (.object [("1", spelledOut)]) = .ok [t] ∧ s.ZeroFree ∧ t.ZeroFree ∧
      s.content = t.content ∧ s.sources = t.sources := by
  let final : Stream := ⟨"Final", ⟨60, 0, by decide⟩, false, [⟨.hls, "final.m3u8"⟩]⟩
  have short : listOfPayload (.array [shorthand]) = .ok [final] := by rfl
  have long : listOfPayload (.object [("1", spelledOut)]) = .ok [final] := by rfl
  have clear : final.ZeroFree := ⟨by decide, fun s mem => by
    obtain rfl := List.mem_singleton.mp mem
    exact ⟨by decide, by decide⟩⟩
  obtain ⟨_, _, _, sources⟩ :=
    contentTells ⟨_, _, short, .head _⟩ ⟨_, _, long, .head _⟩ clear clear rfl
  exact ⟨final, final, short, long, clear, clear, rfl, sources⟩

/- The address of the one source goes on where the other stream has its date, its flag and its
sources. -/
def terse : Stream where
  description := "A"
  date := .epoch
  live := false
  sources := [⟨.other "x", "\x00\x00\x00\x00\x00\x00\x00\x01\x01y\x00z"⟩]

def wordy : Stream where
  description := "A\x00\x00\x00\x00\x00\x00\x00\x00\x00\x00x"
  date := ⟨1, 0, by decide⟩
  live := true
  sources := [⟨.other "y", "z"⟩]

def terseText : Json := .object [
  ("date", .int 0), ("description", .string terse.description),
  ("sources", .array [.object [
    ("type", .string "x"), ("url", .string "\x00\x00\x00\x00\x00\x00\x00\x01\x01y\x00z")]])]

def wordyText : Json := .object [
  ("date", .int 1), ("description", .string wordy.description), ("live", .bool true),
  ("sources", .array [.object [("type", .string "y"), ("url", .string "z")]])]

theorem zeroCharactersConfuse :
    listOfPayload (.array [terseText]) = .ok [terse] ∧
    listOfPayload (.array [wordyText]) = .ok [wordy] ∧ terse.content = wordy.content ∧
    terse.description ≠ wordy.description ∧ terse.date ≠ wordy.date ∧ terse.live ≠ wordy.live ∧
    terse.sources ≠ wordy.sources := by
  refine ⟨rfl, rfl, rfl, ?_, ?_, ?_, ?_⟩ <;> decide

end Stream
end MatchGuide
