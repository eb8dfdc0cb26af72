import MatchGuide.Proofs.MediaSpelling
import Mathlib.Data.Set.Function

/-! The names a format goes by. A format that comes from a tag comes from its short name too, and
from its MIME type, so either of them tells it from every other one. How letters outside ASCII are
lowered makes no difference to what is read. -/
namespace MatchGuide

namespace Text

/- A way to write texts in lower case that knows all letters. Within ASCII it folds A to Z. Of a
letter outside ASCII something outside it is left, but for the Kelvin sign, which becomes a `k`. -/
structure Lowers (low : List Char → List Char) : Prop where
  within : ∀ s, (∀ c ∈ s, c.toNat < 0x80) → low s = lower s
  beyond : ∀ s, (∃ c ∈ s, 0x80 ≤ c.toNat) → ∃ d ∈ low s, 0x80 ≤ d.toNat ∨ d = 'k'

theorem lowerLowers : Lowers lower where
  within _ _ := rfl
  beyond s := by
    rintro ⟨c, mem, large⟩
    have kept : foldCase c = c := by
      refine if_neg fun ⟨_, most⟩ => ?_
      have most : c.toNat ≤ 90 := most
      omega
    exact ⟨c, List.mem_map.mpr ⟨c, mem, kept⟩, .inl large⟩

theorem loweredAlike {α : Type} {table : List (String × α)} {low : List Char → List Char}
    (plain : ∀ e ∈ table, e.1.toList.all (fun d => d.toNat < 0x80 && d != 'k') = true)
    (lowers : Lowers low) (s : List Char) :
    table.lookup (.ofList (low s)) = table.lookup (.ofList (lower s)) := by
  by_cases ascii : ∀ c ∈ s, c.toNat < 0x80
  · rw [lowers.within s ascii]
  · have large : ∃ c ∈ s, 0x80 ≤ c.toNat := by simpa using ascii
    have unknown {low : List Char → List Char} (lowers : Lowers low) :
        table.lookup (.ofList (low s)) = none := by
      obtain ⟨d, mem, odd⟩ := lowers.beyond s large
      refine List.lookup_eq_none_iff.mpr fun e listed => bne_iff_ne.mpr fun same => ?_
      have own := List.all_eq_true.mp (plain e listed) d (by rwa [← same, String.toList_ofList])
      rw [Bool.and_eq_true, decide_eq_true_eq, bne_iff_ne] at own
      rcases odd with large | k
      · omega
      · exact own.2 k
    rw [unknown lowers, unknown lowerLowers]

end Text

namespace Media

theorem ofTagLowered {low : List Char → List Char} (lowers : Text.Lowers low) (tag : String) :
    ofTag tag = (aliases.lookup (.ofList (low (Text.closeUp tag.toList)))).getD
      (other (.ofList (Text.trim tag.toList))) := by
  rw [Text.loweredAlike (by decide) lowers]
  simp only [ofTag]
  cases aliases.lookup (.ofList (Text.lower (Text.closeUp tag.toList))) <;> rfl

theorem ofUrlLowered {low : List Char → List Char} (lowers : Text.Lowers low) (url : String) :
    ofUrl? url = (Text.afterLast? (· == '.')
      (url.toList.takeWhile fun c => c != '?' && c != '#')).bind fun ext =>
        extensions.lookup (.ofList (low ext)) := by
  have plain : ∀ e ∈ extensions, e.1.toList.all (fun d => d.toNat < 0x80 && d != 'k') = true := by
    decide
  simp only [Text.loweredAlike plain lowers]
  rfl

theorem mimeSettled {m : Media} (settled : m.Settled) : ofTag m.mime = m := by
  cases m with
  | hls | dash | mp4 => decide
  | other _ => exact settled

theorem mimeUnique {m n : Media} (first : m.Settled) (second : n.Settled)
    (same : m.mime = n.mime) : m = n := by
  rw [← mimeSettled first, same, mimeSettled second]

def known : List Media := [hls, dash, mp4]

def knownNames : List String := known.flatMap fun m => [m.shortName, m.mime]

theorem otherApart {s : String} (settled : (other s).Settled) : s ∉ knownNames := by
  have all : ∀ m ∈ known, ofTag m.shortName = m := by decide
  have listed : other s ∉ known := by simp [known]
  intro mem
  obtain ⟨m, mem, named⟩ := List.mem_flatMap.mp mem
  have own : m.Settled := all m mem
  have unlike : other s ≠ m := fun same => listed (same ▸ mem)
  simp only [List.mem_cons, List.not_mem_nil, or_false] at named
  rcases named with short | long
  · exact unlike (settledUnique settled own short)
  · exact unlike (mimeUnique settled own long)

theorem namesReadBack :
    (∀ tag, ofTag (ofTag tag).shortName = ofTag tag ∧ ofTag (ofTag tag).mime = ofTag tag) ∧
    Set.range ofTag = {m | m.Taggable} ∧
    Set.InjOn shortName (Set.range ofTag) ∧ Set.InjOn mime (Set.range ofTag) ∧
    ∀ s, other s ∈ Set.range ofTag →
      (other s).shortName ∉ knownNames ∧ (other s).mime ∉ knownNames := by
  have settled : ∀ m ∈ Set.range ofTag, m.Settled := by
    rintro _ ⟨tag, rfl⟩
    exact tagSettled tag
  refine ⟨fun tag => ⟨tagSettled tag, mimeSettled (tagSettled tag)⟩, ?_, ?_, ?_, ?_⟩
  · exact Set.ext fun _ => taggableIff
  · intro m first n second same
    exact settledUnique (settled m first) (settled n second) same
  · intro m first n second same
    exact mimeUnique (settled m first) (settled n second) same
  · exact fun s read => ⟨otherApart (settled _ read), otherApart (settled _ read)⟩

theorem spellingsTold :
    let webm := ofTag "\u3000Video/WebM "
    let list := ofTag "application/vnd.apple.MPEGURL"
    webm = other "Video/WebM" ∧ webm ∈ Set.range ofTag ∧ ofTag "Video/WebM" ∈ Set.range ofTag ∧
    webm.mime = (ofTag "Video/WebM").mime ∧
    list ∈ Set.range ofTag ∧ ofTag "H L S" ∈ Set.range ofTag ∧
    list.shortName = (ofTag "H L S").shortName ∧
    ofTag webm.mime = webm ∧ webm = ofTag "Video/WebM" ∧ list = ofTag "H L S" ∧
    webm.shortName ∉ knownNames ∧ webm.mime ∉ knownNames := by
  intro webm list
  have named : webm = other "Video/WebM" := by decide
  have range (tag : String) : ofTag tag ∈ Set.range ofTag := ⟨tag, rfl⟩
  have mime : webm.mime = (ofTag "Video/WebM").mime := by decide
  have shortName : list.shortName = (ofTag "H L S").shortName := by decide
  obtain ⟨back, _, byName, byMime, apart⟩ := namesReadBack
  have unknown := apart "Video/WebM" (named ▸ range _)
  rw [← named] at unknown
  exact ⟨named, range _, range _, mime, range _, range _, shortName, (back _).2,
    byMime (range _) (range _) mime, byName (range _) (range _) shortName, unknown⟩

end Media
end MatchGuide
