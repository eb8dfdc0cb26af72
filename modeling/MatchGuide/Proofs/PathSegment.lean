import MatchGuide.Proofs.TableText

/-! A text as one segment of a path. It is written in letters, digits and a few signs of ASCII and in
escapes, none of which parts a path or the markup around it, and the text is read back from it; so
the path of a button has the league of its fixture between two slashes, whatever the name. Dots stay
as they are, also in a name of dots alone, which is a segment to the site like any other. -/
namespace MatchGuide

namespace Form

def isEscapeDigit (c : Char) : Bool := c.isDigit || ('A' ≤ c && c ≤ 'F')

inductive Escaped : List Char → Prop where
  | done : Escaped []
  | plain {c rest} (plain : c.isAlphanum = true ∨ c ∈ ['*', '-', '.', '_']) (more : Escaped rest) :
      Escaped (c :: rest)
  | escape {high low rest} (digits : isEscapeDigit high = true ∧ isEscapeDigit low = true)
      (more : Escaped rest) : Escaped ('%' :: high :: low :: rest)

/- The signs that part a path from what is around it, in a URL or in markup, or stand for a blank. -/
def partingSigns : List Char := ['/', '?', '#', '+', ' ', '\x22', '\x27', '&']

def blankEscaped (c : Char) : List Char := if c = '+' then ['%', '2', '0'] else [c]

theorem byteEscaped (b : UInt8) {rest : List Char} (more : Escaped rest) :
    Escaped ((if isPlain b then [.ofNat b.toNat] else Percent.escape b) ++ rest) := by
  have own := everyByte (p := fun b => isPlain b = true →
    (Char.ofNat b.toNat).isAlphanum = true ∨ Char.ofNat b.toNat ∈ ['*', '-', '.', '_'])
    (by decide +kernel) b
  have digits : ∀ n < 16, isEscapeDigit (Hex.digit n) = true := by decide
  have size := b.toNat_lt
  split
  · rename_i plain
    exact .plain (own plain) more
  · have high := digits (b.toNat / 16) (by omega)
    have low := digits (b.toNat % 16) (by omega)
    exact .escape ⟨high, low⟩ more

theorem segmentSpelled (s : String) : Escaped (encodeSegment s).toList := by
  rw [encodeSegment, String.toList_ofList, Percent.encode]
  induction Utf8.encode s with
  | nil => exact .done
  | cons b raw ih =>
    rw [List.flatMap_cons]
    exact byteEscaped b ih

theorem escapedClear {s : List Char} (escaped : Escaped s) : s.Disjoint partingSigns := by
  have letters : ∀ c ∈ partingSigns, (!c.isAlphanum) = true := List.all_eq_true.mp (by decide)
  have signs : ∀ c ∈ ['%', '*', '-', '.', '_'], (!partingSigns.contains c) = true :=
    List.all_eq_true.mp (by decide)
  have digits : ∀ c ∈ partingSigns, (!isEscapeDigit c) = true := List.all_eq_true.mp (by decide)
  have letterClear {c : Char} (letter : c.isAlphanum = true) : c ∉ partingSigns := fun parts => by
    simpa [letter] using letters c parts
  have signClear {c : Char} (sign : c ∈ ['%', '*', '-', '.', '_']) : c ∉ partingSigns := by
    simpa using signs c sign
  have digitClear {c : Char} (digit : isEscapeDigit c = true) : c ∉ partingSigns := fun parts => by
    simpa [digit] using digits c parts
  induction escaped with
  | done => exact List.disjoint_nil_left _
  | plain plain _ ih =>
    exact List.disjoint_cons_left.mpr
      ⟨plain.elim letterClear fun sign => signClear (.tail _ sign), ih⟩
  | escape digits _ ih =>
    exact List.disjoint_cons_left.mpr ⟨signClear (.head _), List.disjoint_cons_left.mpr
      ⟨digitClear digits.1, List.disjoint_cons_left.mpr ⟨digitClear digits.2, ih⟩⟩⟩

theorem blanksEscaped (s : String) :
    (encodeSegment s).toList = (encodeComponent s).flatMap blankEscaped := by
  have byte : ∀ b, (if isPlain b then [Char.ofNat b.toNat] else Percent.escape b) =
      (encodeByte b).flatMap blankEscaped := everyByte (by decide +kernel)
  rw [encodeSegment, String.toList_ofList, Percent.encode, encodeComponent, List.flatMap_assoc]
  exact congrArg (List.flatMap · _) (funext byte)

structure Segment (s segment : String) : Prop where
  escaped : Escaped segment.toList
  clear : segment.toList.Disjoint partingSigns
  written : segment.toList = (encodeComponent s).flatMap blankEscaped
  read : Percent.decodeText? segment = some s
  filled : segment = "" ↔ s = ""
  inert : Html.escape segment = segment

theorem segmentOf (s : String) : Segment s (encodeSegment s) where
  escaped := segmentSpelled s
  clear := escapedClear (segmentSpelled s)
  written := blanksEscaped s
  read := segmentRead s
  filled := by
    constructor
    · intro empty
      by_contra filled
      exact segmentFilled filled empty
    · rintro rfl
      rfl
  inert := by rw [Html.escape, Server.segmentEscaped, String.ofList_toList]

end Form

namespace Server
open Html
open Form (encodeSegment)
open Selection (Target)

structure LeadsTo (path : List Char) (key : FixtureKey) : Prop where
  whole : Request.path ⟨"POST", .ofList path⟩ = path
  parts : Text.split (· == '/') path =
    [[], "play".toList, "fixture".toList, (encodeSegment key.league).toList,
      (Whole.text key.id.toNat).toList]
  route : Route.ofPath? path = some
    (.playFixture (encodeSegment key.league).toList (Whole.text key.id.toNat).toList)
  read : Route.fixtureKey? (encodeSegment key.league).toList (Whole.text key.id.toNat).toList =
    some key

theorem actionSpelled (target : Target) : actionOf target =
    '/' :: Text.join ['/'] ((buttonNames target).map String.toList) := by
  rw [actionOf, button, String.toList_ofList]

theorem actionButton (target : Target) :
    Request.mk "POST" (.ofList (actionOf target)) = button target := by
  rw [actionSpelled, button]

theorem actionPath (target : Target) : (button target).path = actionOf target := by
  rw [actionSpelled]
  exact quietPath (buttonQuiet target) "POST"

theorem actionParts (target : Target) : Text.split (· == '/') (actionOf target) =
    [] :: (buttonNames target).map String.toList := by
  have rooted (rest : List Char) :
      Text.split (· == '/') ('/' :: rest) = [] :: Text.split (· == '/') rest := rfl
  rw [actionSpelled, rooted, quietParts (buttonNamed target) (buttonQuiet target)]

theorem actionLeads (key : FixtureKey) : LeadsTo (actionOf (.fixture key)) key := by
  obtain ⟨route, read⟩ := fixtureRouted key
  rw [actionPath] at route
  exact ⟨by rw [actionButton, actionPath], actionParts _, route, read⟩

theorem leadsUnique {path : List Char} {key other : FixtureKey} (first : LeadsTo path key)
    (second : LeadsTo path other) : key = other := by
  have same := first.route.symm.trans second.route
  simp only [Option.some.injEq, Route.playFixture.injEq] at same
  obtain ⟨league, number⟩ := same
  have read := first.read
  rw [league, number, second.read] at read
  exact (Option.some.inj read).symm

theorem actionUnique {key other : FixtureKey} :
    actionOf (.fixture key) = actionOf (.fixture other) ↔ key = other :=
  ⟨fun same => leadsUnique (same ▸ actionLeads key) (actionLeads other), fun same => by rw [same]⟩

theorem buttonTarget (r : Schedule.Row) :
    r.target? = r.button?.map .fixture := by
  unfold Schedule.Row.target? Schedule.Row.button?
  cases r.watch <;> cases r.disabled <;> rfl

theorem rowActions (rows : List Schedule.Row) :
    formActions (Schedule.html rows).render.toList =
      (rows.filterMap Schedule.Row.button?).map fun key => actionOf (.fixture key) := by
  have carried := carriesFlatMap (l := rows) scheduleRowCarries []
  rw [List.append_nil, formActions, List.append_nil] at carried
  have targets : rows.flatMap (·.target?.toList) =
      (rows.filterMap Schedule.Row.button?).map .fixture := by
    rw [List.map_filterMap, List.filterMap_eq_flatMap_toList]
    simp only [buttonTarget]
  rw [Html.render, String.toList_ofList, Schedule.html, carried, targets, List.map_map]
  rfl

theorem leaguesTellPaths :
    (∀ s, Form.Segment s (encodeSegment s)) ∧
    (∀ rows : List Schedule.Row, formActions (Schedule.html rows).render.toList =
      (rows.filterMap Schedule.Row.button?).map fun key => actionOf (.fixture key)) ∧
    (∀ key, LeadsTo (actionOf (.fixture key)) key) ∧
    ∀ key other, actionOf (.fixture key) = actionOf (.fixture other) ↔ key = other :=
  ⟨Form.segmentOf, rowActions, actionLeads, fun _ _ => actionUnique⟩

example : encodeSegment "1+1 Süd/%20" = "1%2B1%20S%C3%BCd%2F%2520" := by decide

end Server
end MatchGuide
