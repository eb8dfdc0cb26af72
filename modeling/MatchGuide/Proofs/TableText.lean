import MatchGuide.Proofs.Forms
import Mathlib.Data.List.Forall2

/-! What a table says, as its text has it. An escaped text holds no delimiter, so it ends where the
markup behind it begins; two tables with one text say the same in each of their rows. -/
namespace MatchGuide

namespace Text

theorem partIff {sep : Char} {s t rest more : List Char} (absent : sep ∉ s) (also : sep ∉ t) :
    s ++ sep :: rest = t ++ sep :: more ↔ s = t ∧ rest = more := by
  constructor
  · intro same
    have parts := congrArg (cut (· == sep)) same
    rw [cutAtSeparator (absentPlain absent) (beq_self_eq_true sep),
      cutAtSeparator (absentPlain also) (beq_self_eq_true sep)] at parts
    obtain ⟨first, second⟩ := Prod.mk.inj parts
    exact ⟨first, Option.some.inj second⟩
  · rintro ⟨rfl, rfl⟩
    rfl

end Text

theorem Form.segmentUnique {s t : String} (same : encodeSegment s = encodeSegment t) : s = t := by
  have read := segmentRead s
  rw [same, segmentRead] at read
  exact (Option.some.inj read).symm

theorem Whole.wordUnique {m n : UInt32} (same : text m.toNat = text n.toNat) : m = n := by
  have read := uint32Read m
  rw [String.ofList_injective same, uint32Read] at read
  exact (Option.some.inj read).symm

namespace Html

theorem escapeUnique {s t : String} (same : escapeChars s.toList = escapeChars t.toList) :
    s = t := by
  rw [← String.toList_inj, ← unescapeEscape s.toList, same, unescapeEscape]

/- Parts that are read off any text that begins with them: if two texts are the same, so is what
their first parts say, and what follows these. -/
def Tells {α : Type} (part : α → Html) (alike : α → α → Prop) : Prop :=
  ∀ a b rest more, (part a).chars ++ rest = (part b).chars ++ more ↔ alike a b ∧ rest = more

section
variable {α β : Type} {part other : α → Html} {alike also : α → α → Prop} {s : String} {sep : Char}

theorem tellsFixed (h : Html) : Tells (fun _ : α => h) fun _ _ => True :=
  fun _ _ _ _ => by rw [List.append_cancel_left_eq, true_and]

theorem Tells.append (first : Tells part alike) (second : Tells other also) :
    Tells (fun a => part a ++ other a) fun a b => alike a b ∧ also a b := by
  intro a b rest more
  simp only [charsAppend, List.append_assoc, first a b, second a b, and_assoc]

theorem Tells.of (tells : Tells part alike) (f : β → α) :
    Tells (fun b => part (f b)) fun x y => alike (f x) (f y) := fun x y => tells (f x) (f y)

theorem Tells.congr (tells : Tells part alike) (same : ∀ a b, alike a b ↔ also a b) :
    Tells part also := fun a b rest more => by rw [tells, same]

theorem tellsUpTo (piece : α → Piece) (sep : Char) (first : s.toList.head? = some sep)
    (absent : ∀ a, sep ∉ (piece a).chars) :
    Tells (fun a => [piece a, .markup s]) fun a b => (piece a).chars = (piece b).chars := by
  obtain ⟨tail, spelled⟩ := List.head?_eq_some_iff.mp first
  intro a b rest more
  have parts := @Text.partIff sep _ _ (tail ++ rest) (tail ++ more) (absent a) (absent b)
  rw [List.append_cancel_left_eq] at parts
  simpa [chars, Piece.chars, spelled] using parts

theorem tellsCell (text : α → String) (first : s.toList.head? = some '<') :
    Tells (fun a => [.text (text a), .markup s]) fun a b => text a = text b := by
  have absent (a : α) : '<' ∉ (Piece.text (text a)).chars :=
    delimiterAbsent rfl (escapeNoDelimiter _)
  exact (tellsUpTo _ '<' first absent).congr fun a b => ⟨escapeUnique, fun same => by rw [same]⟩

theorem tellsList (tells : Tells part alike) (filled : ∀ a, (part a).chars ≠ []) (as bs : List α) :
    chars (as.flatMap part) = chars (bs.flatMap part) ↔ List.Forall₂ alike as bs := by
  have more (a : α) (as : List α) : chars ((a :: as).flatMap part) ≠ [] := by
    rw [List.flatMap_cons, charsAppend]
    exact List.append_ne_nil_of_left_ne_nil (filled a) _
  induction as generalizing bs with
  | nil =>
    cases bs with
    | nil => exact iff_of_true rfl .nil
    | cons b bs => exact iff_of_false (more b bs).symm nofun
  | cons a as ih =>
    cases bs with
    | nil => exact iff_of_false (more a as) nofun
    | cons b bs =>
      rw [List.flatMap_cons, List.flatMap_cons, charsAppend, charsAppend, tells,
        List.forall₂_cons]
      exact and_congr_right fun _ => ih bs

theorem tellsRows (tells : Tells part alike) (filled : ∀ a, (part a).chars ≠ []) (as bs : List α) :
    render (as.flatMap part) = render (bs.flatMap part) ↔ List.Forall₂ alike as bs := by
  rw [render, render, String.ofList_inj, tellsList tells filled]

def cell (form : α → Html) : Option α → Html
  | some a => form a
  | none => [.markup "<td></td>"]

theorem tellsButton (tells : Tells part alike)
    (opens : ∀ a, ∃ tail, (part a).chars = "<td><form".toList ++ tail) :
    Tells (cell part) (Option.Rel alike) := by
  have apart (a : α) (rest more : List Char) :
      (part a).chars ++ rest ≠ chars [.markup "<td></td>"] ++ more := by
    obtain ⟨tail, spelled⟩ := opens a
    rw [spelled]
    simp [chars, Piece.chars]
  intro a b rest more
  cases a with
  | none =>
    cases b with
    | none =>
      rw [List.append_cancel_left_eq]
      exact (and_iff_right .none).symm
    | some b => exact iff_of_false (apart b more rest).symm fun same => by cases same.1
  | some a =>
    cases b with
    | none => exact iff_of_false (apart a rest more) fun same => by cases same.1
    | some b => exact (tells a b rest more).trans (and_congr_left' (by simp))

end
end Html

namespace Schedule
open Html

/- Rows that look alike: of one greyed out it is not shown whether it is marked or may be watched. -/
structure Row.Alike (r s : Row) : Prop where
  disabled : r.disabled = s.disabled
  date : r.date = s.date
  time : r.time = s.time
  home : r.home = s.home
  away : r.away = s.away
  venue : r.venue = s.venue
  score : r.score = s.score
  upcoming : r.disabled = false → r.upcoming = s.upcoming
  watch : r.disabled = false → r.watch = s.watch

def Row.button? (r : Row) : Option FixtureKey := if r.disabled then none else r.watch

theorem actionCell (r : Row) : r.actionHtml = cell watchHtml r.button? := by
  unfold Row.actionHtml Row.button?
  cases r.watch <;> cases r.disabled <;> rfl

theorem openingTells : Tells (fun r : Row => [.markup r.opening]) fun r s =>
    r.disabled = s.disabled ∧ (r.disabled = false → r.upcoming = s.upcoming) := by
  intro r s rest more
  simp only [chars, Row.opening, List.flatMap_singleton, Piece.chars]
  cases r.disabled <;> cases s.disabled <;> cases r.upcoming <;> cases s.upcoming <;> simp

theorem sameButton {a b : Option FixtureKey} : Option.Rel (· = ·) a b ↔ a = b := by
  cases a <;> cases b <;> simp

theorem watchTells : Tells watchHtml (· = ·) := by
  have league : Tells (fun key : FixtureKey => [.text (Form.encodeSegment key.league), .markup "/"])
      fun key other => key.league = other.league := by
    refine (tellsUpTo _ '/' rfl fun key mem => ?_).congr fun key other => ?_
    · rw [Piece.chars, Server.segmentEscaped] at mem
      exact absurd (Form.segmentQuiet mem) (by decide)
    · rw [Piece.chars, Piece.chars, Server.segmentEscaped, Server.segmentEscaped, String.toList_inj]
      exact ⟨Form.segmentUnique, congrArg _⟩
  have number : Tells (fun key : FixtureKey => [.markup (Whole.text key.id.toNat), .markup
      "\"><button type=\"submit\" class=\"btn btn-outline-primary\">Watch</button></form></td>"])
      fun key other => key.id = other.id := by
    have absent (key : FixtureKey) : '\x22' ∉ (Piece.markup (Whole.text key.id.toNat)).chars :=
      delimiterAbsent rfl (numberPlain _)
    refine (tellsUpTo _ '\x22' rfl absent).congr fun key other => ?_
    rw [Piece.chars, Piece.chars, String.toList_inj]
    exact ⟨Whole.wordUnique, fun same => by rw [same]⟩
  refine ((tellsFixed [.markup "<td><form method=\"post\" action=\"/play/fixture/"]).append
    (league.append number)).congr fun key other => ?_
  cases key
  cases other
  simp

theorem rowTells : Tells Row.html Row.Alike := by
  have between (text : Row → String) : Tells (fun r => [.text (text r), .markup "</td><td>"])
      fun r s => text r = text s := tellsCell text rfl
  have date : Tells (fun r : Row => [.text r.date, .markup "</div><div>"])
      fun r s => r.date = s.date := tellsCell _ rfl
  have time : Tells (fun r : Row => [.text r.time, .markup "</div></th><td>"])
      fun r s => r.time = s.time := tellsCell _ rfl
  have score : Tells (fun r : Row => [.text r.score, .markup "</td>"])
      fun r s => r.score = s.score := tellsCell _ rfl
  have action : Tells (fun r : Row => r.actionHtml ++ [.markup "</tr>"]) fun r s =>
      Option.Rel (· = ·) r.button? s.button? ∧ True := by
    simp only [actionCell]
    exact ((tellsButton watchTells fun key => ⟨_, rfl⟩).of Row.button?).append (tellsFixed _)
  refine (openingTells.append (date.append (time.append ((between Row.home).append
    ((between Row.away).append ((between Row.venue).append (score.append action))))))).congr
      fun r s => ?_
  constructor
  · rintro ⟨⟨disabled, upcoming⟩, date, time, home, away, venue, score, action, _⟩
    refine ⟨disabled, date, time, home, away, venue, score, upcoming, fun active => ?_⟩
    have also := disabled ▸ active
    simpa [Row.button?, active, also] using sameButton.mp action
  · rintro ⟨disabled, date, time, home, away, venue, score, upcoming, watch⟩
    have same : r.button? = s.button? := by
      rw [Row.button?, Row.button?, ← disabled]
      cases active : r.disabled with
      | true => rfl
      | false => exact watch active
    exact ⟨⟨disabled, upcoming⟩, date, time, home, away, venue, score, sameButton.mpr same, trivial⟩

end Schedule

namespace StreamTable
open Html

structure Row.Alike (r s : Row) : Prop where
  date : r.date = s.date
  description : r.description = s.description
  key : r.key = s.key
  live : r.key.isSome → r.live = s.live

def button? (s : Stream) : Option Stream := if s.sources.isEmpty then none else some s

def formHtml (s : Stream) : Html :=
  [.markup "<td><form method=\"post\" action=\"/play/stream/", .markup s.key.text,
    .markup "\"><button type=\"submit\" class=\"", .markup (row s 0).style, .markup "\">",
    .markup (row s 0).label, .markup "</button></form></td>"]

theorem actionCell (s : Stream) (i : Nat) : (row s i).actionHtml = cell formHtml (button? s) := by
  unfold Row.actionHtml button? row
  cases s.sources.isEmpty <;> rfl

theorem formTells : Tells formHtml fun s t => s.key = t.key ∧ s.live = t.live := by
  have key : Tells (fun s : Stream => [.markup s.key.text,
      .markup "\"><button type=\"submit\" class=\""]) fun s t => s.key = t.key := by
    have absent (s : Stream) : '\x22' ∉ (Piece.markup s.key.text).chars :=
      delimiterAbsent rfl (keyPlain s)
    refine (tellsUpTo _ '\x22' rfl absent).congr fun s t => ?_
    rw [Piece.chars, Piece.chars, String.toList_inj]
    exact ⟨congrArg StreamKey.mk, congrArg StreamKey.text⟩
  have live : Tells (fun s : Stream => [.markup (row s 0).style, .markup "\">",
      .markup (row s 0).label, .markup "</button></form></td>"]) fun s t => s.live = t.live := by
    intro s t rest more
    have shown (s : Stream) : (row s 0).live = s.live := rfl
    simp only [chars, Row.style, Row.label, shown, Piece.chars, List.flatMap_cons, List.flatMap_nil]
    cases s.live <;> cases t.live <;> simp
  refine ((tellsFixed [.markup "<td><form method=\"post\" action=\"/play/stream/"]).append
    (key.append live)).congr fun s t => ?_
  rw [true_and]

theorem rowTells : Tells (fun p : Stream × Nat => (row p.1 p.2).html)
    fun p q => (row p.1 p.2).Alike (row q.1 q.2) := by
  have date : Tells (fun p : Stream × Nat => [.text (row p.1 p.2).date, .markup "</td><td>"])
      fun p q => (row p.1 p.2).date = (row q.1 q.2).date := tellsCell _ rfl
  have description :
      Tells (fun p : Stream × Nat => [.text (row p.1 p.2).description, .markup "</td>"])
        fun p q => (row p.1 p.2).description = (row q.1 q.2).description := tellsCell _ rfl
  have action : Tells (fun p : Stream × Nat => (row p.1 p.2).actionHtml ++ [.markup "</tr>"])
      fun p q => Option.Rel (fun s t => s.key = t.key ∧ s.live = t.live) (button? p.1)
        (button? q.1) ∧ True := by
    simp only [actionCell]
    have buttons := (tellsButton formTells fun _ => ⟨_, rfl⟩).of fun p : Stream × Nat => button? p.1
    exact buttons.append (tellsFixed _)
  have opening : Tells (fun _ : Stream × Nat => [.markup "<tr><td>"]) fun _ _ => True :=
    tellsFixed _
  refine (opening.append (date.append (description.append action))).congr fun p q => ?_
  have button : Option.Rel (fun s t => s.key = t.key ∧ s.live = t.live) (button? p.1)
      (button? q.1) ↔ (row p.1 p.2).key = (row q.1 q.2).key ∧
        ((row p.1 p.2).key.isSome → (row p.1 p.2).live = (row q.1 q.2).live) := by
    simp only [button?, row]
    cases p.1.sources.isEmpty <;> cases q.1.sources.isEmpty <;> simp
  rw [button, true_and, and_true]
  constructor
  · rintro ⟨date, description, key, live⟩
    exact ⟨date, description, key, live⟩
  · rintro ⟨date, description, key, live⟩
    exact ⟨date, description, key, live⟩

end StreamTable

namespace Page
open Html

theorem tablesFaithful :
    (∀ rows others : List Schedule.Row,
      (Schedule.html rows).render = (Schedule.html others).render ↔
        List.Forall₂ Schedule.Row.Alike rows others) ∧
    (∀ streams others : List Stream,
      (StreamTable.html (StreamTable.rows streams)).render =
          (StreamTable.html (StreamTable.rows others)).render ↔
        List.Forall₂ StreamTable.Row.Alike (StreamTable.rows streams) (StreamTable.rows others)) ∧
    ∀ s : String, unescape (escapeChars s.toList) = s.toList := by
  refine ⟨?_, fun streams others => ?_, fun s => unescapeEscape s.toList⟩
  · exact tellsRows Schedule.rowTells fun r => by simp [Schedule.Row.html, chars, Piece.chars]
  · rw [StreamTable.rowsHtml, StreamTable.rowsHtml, StreamTable.rows, StreamTable.rows,
      List.forall₂_map_left_iff, List.forall₂_map_right_iff]
    exact tellsRows StreamTable.rowTells
      (fun p => by simp [StreamTable.Row.html, chars, Piece.chars]) _ _

end Page
end MatchGuide
