import MatchGuide.Feed.Football
import MatchGuide.Proofs.PlayRoutes
import MatchGuide.Proofs.Sessions

/-! What of a choice the address of the page keeps: the one thing in it that counts. Read back, the
address gives the choice of that thing alone, and this does whatever the whole choice does. -/
namespace MatchGuide

def Text.Printable (c : Char) : Prop := 0x21 ≤ c.toNat ∧ c.toNat ≤ 0x7E

instance (c : Char) : Decidable (Text.Printable c) := by
  unfold Text.Printable; infer_instance

namespace Form

theorem quietPrintable {c : Char} (quiet : isQuiet c = true) : Text.Printable c := by
  have signs : ['*', '-', '.', '_', '+', '%'].all (Text.Printable ·) = true := by decide
  rcases Bool.or_eq_true_iff.mp quiet with alphanum | sign
  · have all : ∀ n < 0x80, (Char.ofNat n).isAlphanum = true → 0x21 ≤ n ∧ n ≤ 0x7E := by decide +kernel
    exact all c.toNat (alphanumAscii alphanum) (by rwa [Char.ofNat_toNat])
  · exact of_decide_eq_true (List.all_eq_true.mp signs c (List.contains_iff_mem.mp sign))

theorem encodePrintable {pairs : List (String × String)} {c : Char} (mem : c ∈ encode pairs) :
    Text.Printable c := by
  rcases Text.memJoin mem with between | ⟨part, there, inside⟩
  · obtain rfl := List.mem_singleton.mp between
    decide
  · obtain ⟨pair, _, rfl⟩ := List.mem_map.mp there
    rcases List.mem_append.mp inside with name | value
    · exact quietPrintable (componentQuiet name)
    · rcases List.mem_cons.mp value with rfl | value
      · decide
      · exact quietPrintable (componentQuiet value)

end Form

theorem FootballApi.printableHeader {s : String} (printable : ∀ c ∈ s.toList, Text.Printable c) :
    (Utf8.encode s).all isHeaderByte = true := by
  have bytes : ∀ n < 0x80, 0x21 ≤ n ∧ n ≤ 0x7E → isHeaderByte (.ofNat n) = true := by decide +kernel
  refine List.all_eq_true.mpr fun b mem => ?_
  obtain ⟨c, inside, mem⟩ := List.mem_flatMap.mp mem
  have ⟨low, high⟩ := printable c inside
  rw [Utf8.asciiByte (by omega), List.mem_singleton] at mem
  exact mem ▸ bytes c.toNat (by omega) ⟨low, high⟩

namespace Selection
open Server (Asks)

/- The part of a choice that counts: the stream if there is one, else the position, else a league
with a fixture. -/
def canonical (s : Selection) : Selection :=
  if s.stream.isSome then { empty with stream := s.stream }
  else if s.index.isSome then { empty with index := s.index }
  else if s.league.isSome && s.fixture.isSome then
    { empty with league := s.league, fixture := s.fixture }
  else empty

theorem canonicalChoice (s : Selection) :
    s.canonical = (s.target?.map Target.choice).getD empty := by
  obtain ⟨stream, index, league, fixture⟩ := s
  cases stream <;> cases index <;> cases league <;> cases fixture <;> rfl

theorem choiceTarget (t : Target) : t.choice.target? = some t :=
  targetIff.mpr (Server.choiceNames t)

theorem canonicalTarget (s : Selection) : s.canonical.target? = s.target? := by
  rw [canonicalChoice]
  cases s.target? with
  | none => rfl
  | some t => exact choiceTarget t

theorem canonicalRun (s : Selection) (session : Session) (shot : Snapshot)
    (recorded : Fixture → Bool) :
    s.canonical.run session shot recorded = s.run session shot recorded := by
  rw [run, run, canonicalTarget]

theorem canonicalLocation (s : Selection) : s.canonical.location = s.location := by
  rw [location, location, canonicalTarget]

theorem locationAsks (s : Selection) : Asks ⟨"GET", s.location⟩ "/" s.canonical := by
  rw [← canonicalLocation, canonicalChoice]
  cases s.target? with
  | none => exact ⟨rfl, by decide, by decide⟩
  | some t =>
    rw [Option.map_some, Option.getD_some, Server.choiceLocation]
    exact Server.queryAsks t "/" (by decide)

theorem locationSlash (s : Selection) : s.location.toList.head? = some '/' := by
  unfold location
  cases s.target? with
  | none => rfl
  | some t => simp

theorem locationPrintable (s : Selection) : ∀ c ∈ s.location.toList, Text.Printable c := by
  unfold location
  cases s.target? with
  | none => exact List.forall_mem_singleton.mpr (by decide)
  | some t =>
    simp only [String.toList_ofList, List.forall_mem_cons]
    exact ⟨by decide, by decide, fun c mem => Form.encodePrintable mem⟩

theorem locationKeepsChoice (s : Selection) :
    Asks ⟨"GET", s.location⟩ "/" s.canonical ∧
    (∀ (session : Session) (shot : Snapshot) (recorded : Fixture → Bool),
      s.canonical.run session shot recorded = s.run session shot recorded) ∧
    (∀ (state : Sessions.SessionState) (v : Nat) (recorded : Fixture → Bool),
      state.step (.choose v s.canonical recorded) = state.step (.choose v s recorded)) ∧
    (∀ again, Server.choice? ⟨"GET", s.location⟩ = some again → again.location = s.location) ∧
    s.location.toList.head? = some '/' ∧ (∀ c ∈ s.location.toList, Text.Printable c) ∧
    (Utf8.encode s.location).all FootballApi.isHeaderByte = true := by
  have asks := locationAsks s
  refine ⟨asks, canonicalRun s, fun state v recorded => ?_, fun again read => ?_, locationSlash s,
    locationPrintable s, FootballApi.printableHeader (locationPrintable s)⟩
  · rw [Sessions.SessionState.step, Sessions.SessionState.step, canonicalRun]
  · rw [asks.choice] at read
    obtain rfl := Option.some.inj read
    exact canonicalLocation s

def crowded : Selection := ⟨none, some Int64.minValue, some "+ &=%/?#", some 7⟩

theorem crowdedKeepsPosition :
    crowded.canonical = .ofIndex Int64.minValue ∧
    Server.choice? ⟨"GET", crowded.location⟩ = some (.ofIndex Int64.minValue) ∧
    (Selection.ofIndex Int64.minValue).location = crowded.location ∧
    '-' ∈ crowded.location.toList ∧ Text.Printable '-' := by
  obtain ⟨asks, _, _, again, _, printable, _⟩ := locationKeepsChoice crowded
  have sign : '-' ∈ crowded.location.toList := by decide +kernel
  exact ⟨rfl, asks.choice, again _ asks.choice, sign, printable _ sign⟩

end Selection
end MatchGuide
