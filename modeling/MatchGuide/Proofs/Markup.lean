import MatchGuide.Page.Basic
import MatchGuide.Proofs.QueryText

/-! The markup of a page, with the texts in it left out. How many rows of which kind there are fixes
it; what stands in them does not. -/
namespace MatchGuide

namespace Stream

theorem keyAlphanum (s : Stream) : ∀ c ∈ s.key.text.toList, c.isAlphanum = true := by
  have digit : ∀ n < 16, (Json.lowHex n).isAlphanum = true := by decide
  intro c mem
  rw [key, String.toList_ofList] at mem
  obtain ⟨b, _, mem⟩ := List.mem_flatMap.mp mem
  have size := b.toNat_lt
  rcases List.mem_cons.mp mem with rfl | mem
  · exact digit _ (by omega)
  · obtain rfl := List.mem_singleton.mp mem
    exact digit _ (by omega)

end Stream

namespace Html

def delimiters (h : Html) : List Char := h.render.toList.filter isDelimiter

theorem alphanumPlain {c : Char} (plain : c.isAlphanum = true) : isDelimiter c = false := by
  rw [Bool.eq_false_iff]
  intro delimiter
  simp only [isDelimiter, Bool.or_eq_true, beq_iff_eq] at delimiter
  rcases delimiter with ((rfl | rfl) | rfl) | rfl <;> contradiction

theorem delimitersAppend (g h : Html) : delimiters (g ++ h) = g.delimiters ++ h.delimiters := by
  simp only [delimiters, render, String.toList_ofList, charsAppend, List.filter_append]

theorem delimitersText (s : String) : delimiters [.text s] = [] := by
  rw [delimiters, render, String.toList_ofList, chars, List.flatMap_singleton]
  exact List.filter_eq_nil_iff.mpr fun c mem => by simp [escapeNoDelimiter s.toList c mem]

theorem delimitersPlain {s : String} (plain : ∀ c ∈ s.toList, isDelimiter c = false) :
    delimiters [.markup s] = [] := by
  rw [delimiters, render, String.toList_ofList, chars, List.flatMap_singleton]
  exact List.filter_eq_nil_iff.mpr fun c mem => by simp [plain c mem]

theorem delimitersCons (p : Piece) (h : Html) :
    delimiters (p :: h) = delimiters [p] ++ h.delimiters := delimitersAppend [p] h

/- Two lists of parts, each made in its own way, have the same markup if their kinds agree one by
one and the parts of one kind have. -/
theorem delimitersFlatMap {α β κ : Type} {f : α → Html} {g : β → Html} (kind : α → κ)
    (other : β → κ) (alike : ∀ a b, kind a = other b → (f a).delimiters = (g b).delimiters)
    {as : List α} {bs : List β} (same : as.map kind = bs.map other) :
    delimiters (as.flatMap f) = delimiters (bs.flatMap g) := by
  induction as generalizing bs with
  | nil =>
    obtain rfl := List.map_eq_nil_iff.mp same.symm
    rfl
  | cons a as ih =>
    cases bs with
    | nil => contradiction
    | cons b bs =>
      obtain ⟨head, tail⟩ := List.cons.inj same
      rw [List.flatMap_cons, List.flatMap_cons, delimitersAppend, delimitersAppend, alike a b head,
        ih tail]

end Html

namespace Schedule
open Html

theorem numberPlain (n : Nat) : ∀ c ∈ (Whole.text n).toList, isDelimiter c = false := by
  intro c mem
  rw [Whole.text, String.toList_ofList] at mem
  exact alphanumPlain (by simp [Char.isAlphanum, (Whole.charsNumeral n).digits c mem])

structure RowShape where
  disabled : Bool
  upcoming : Bool
  watched : Bool
  deriving DecidableEq

def Row.shape (r : Row) : RowShape := ⟨r.disabled, r.upcoming, r.watch.isSome⟩

theorem watchMarkup (key other : FixtureKey) :
    (watchHtml key).delimiters = (watchHtml other).delimiters := by
  have number (n : Nat) : delimiters [.markup (Whole.text n)] = [] :=
    delimitersPlain (numberPlain n)
  simp only [watchHtml, delimitersCons _ (_ :: _), delimitersText, number]

theorem actionMarkup {r s : Row} (disabled : r.disabled = s.disabled)
    (watched : r.watch.isSome = s.watch.isSome) :
    r.actionHtml.delimiters = s.actionHtml.delimiters := by
  unfold Row.actionHtml
  rw [disabled]
  cases first : r.watch with
  | none =>
    cases second : s.watch with
    | none => rfl
    | some other => simp [first, second] at watched
  | some key =>
    cases second : s.watch with
    | none => simp [first, second] at watched
    | some other =>
      cases s.disabled
      · exact watchMarkup key other
      · rfl

theorem rowMarkup {r s : Row} (same : r.shape = s.shape) :
    r.html.delimiters = s.html.delimiters := by
  obtain ⟨disabled, upcoming, watched⟩ := RowShape.mk.inj same
  have opening : r.opening = s.opening := by rw [Row.opening, Row.opening, disabled, upcoming]
  have action := actionMarkup disabled watched
  simp only [Row.html, delimitersAppend, action, opening, delimitersCons _ (_ :: _), delimitersText]

theorem rowsMarkup {rows others : List Row} (same : rows.map Row.shape = others.map Row.shape) :
    (html rows).delimiters = (html others).delimiters :=
  delimitersFlatMap _ _ (fun _ _ => rowMarkup) same

theorem tableMarkup {league other : String} {rows others : List Row}
    (same : rows.map Row.shape = others.map Row.shape) :
    (tableHtml league rows).delimiters = (tableHtml other others).delimiters := by
  simp only [tableHtml, delimitersAppend, rowsMarkup same, delimitersCons _ (_ :: _), delimitersText]

end Schedule

namespace StreamTable
open Html

structure RowShape where
  live : Bool
  playable : Bool
  deriving DecidableEq

def shape (s : Stream) : RowShape := ⟨s.live, !s.sources.isEmpty⟩

theorem keyPlain (s : Stream) : ∀ c ∈ s.key.text.toList, isDelimiter c = false :=
  fun c mem => alphanumPlain (s.keyAlphanum c mem)

theorem keyUndelimited (s : Stream) : delimiters [.markup s.key.text] = [] :=
  delimitersPlain (keyPlain s)

theorem rowMarkup {s t : Stream} (i j : Nat) (same : shape s = shape t) :
    (row s i).html.delimiters = (row t j).html.delimiters := by
  obtain ⟨live, playable⟩ := RowShape.mk.inj same
  have empty : s.sources.isEmpty = t.sources.isEmpty := Bool.not_inj playable
  have action : (row s i).actionHtml.delimiters = (row t j).actionHtml.delimiters := by
    simp only [Row.actionHtml, row, empty]
    cases t.sources.isEmpty with
    | true => rfl
    | false =>
      simp only [Bool.false_eq_true, if_false, Row.style, Row.label, live,
        delimitersCons _ (_ :: _), keyUndelimited]
  simp only [Row.html, delimitersAppend, action, delimitersCons _ (_ :: _), delimitersText]

theorem rowsHtml (streams : List Stream) :
    html (rows streams) = streams.zipIdx.flatMap fun p => (row p.1 p.2).html := by
  rw [html, rows, List.flatMap_map]

theorem rowsMarkup {streams others : List Stream} (same : streams.map shape = others.map shape) :
    (html (rows streams)).delimiters = (html (rows others)).delimiters := by
  have shapes (l : List Stream) : l.zipIdx.map (shape ∘ Prod.fst) = l.map shape := by
    rw [← List.map_map, List.zipIdx_map_fst]
  rw [rowsHtml, rowsHtml]
  refine delimitersFlatMap (shape ∘ Prod.fst) (shape ∘ Prod.fst) ?_ ?_
  · exact fun p q alike => rowMarkup p.2 q.2 alike
  · rw [shapes, shapes, same]

end StreamTable

namespace Page
open Html

structure View where
  shot : Snapshot
  recorded : Fixture → Bool
  history : Option Nat
  now : Instant
  session : Session

structure Shape where
  leagues : List (List Schedule.RowShape)
  streams : List StreamTable.RowShape
  title : Option Bool
  visible : Bool
  sources : Nat
  deriving DecidableEq

namespace View

def html (v : View) : Html := Page.html v.shot v.recorded v.history v.now v.session

def scheduleHtml (v : View) (league : String) : Html :=
  Page.scheduleHtml v.shot v.recorded v.history v.now league

def scheduleShape (v : View) (league : String) : List Schedule.RowShape :=
  (Schedule.rows v.shot.leagues league v.now v.recorded v.history).map Schedule.Row.shape

def streamsShape (v : View) : List StreamTable.RowShape := v.shot.streams.map StreamTable.shape

def shape (v : View) : Shape where
  leagues := v.shot.leagues.names.map v.scheduleShape
  streams := v.streamsShape
  title := v.session.title.map Title.live
  visible := v.session.visible
  sources := v.session.player.sources.length

end View

variable {v w : View}

theorem headingMarkup {s t : Title} (live : s.live = t.live) :
    s.html.delimiters = t.html.delimiters := by
  rw [Title.html, Title.html, live, delimitersCons, delimitersCons (.text t.text), delimitersText,
    delimitersText]

theorem playerMarkup {p q : Player} (same : p.sources.length = q.sources.length) :
    p.html.delimiters = q.html.delimiters := by
  refine delimitersFlatMap (fun _ => ()) (fun _ => ()) (fun a b _ => ?_) ?_
  · simp only [PlayerSource.html, delimitersCons _ (_ :: _), delimitersText]
  · rw [List.map_const', List.map_const', same]

theorem autoplayMarkup (p : Player) :
    delimiters [.markup (if p.current?.isSome then "true" else "false")] = [] := by
  split <;> rfl

theorem tablesMarkup (same : v.shape.leagues = w.shape.leagues) :
    (Schedule.tablesHtml v.shot.leagues v.now v.recorded v.history).delimiters =
      (Schedule.tablesHtml w.shot.leagues w.now w.recorded w.history).delimiters :=
  delimitersFlatMap _ _ (fun _ _ => Schedule.tableMarkup) same

theorem pageMarkup (same : v.shape = w.shape) : v.html.delimiters = w.html.delimiters := by
  obtain ⟨leagues, streams, title, visible, sources⟩ := Shape.mk.inj same
  have tables := tablesMarkup leagues
  have table : (streamsHtml v.shot).delimiters = (streamsHtml w.shot).delimiters :=
    StreamTable.rowsMarkup streams
  have tags := playerMarkup sources
  have hidden := congrArg hiddenMarkup visible
  simp only [View.html, Page.html, delimitersAppend, tables, table, tags, hidden,
    delimitersCons _ (_ :: _), autoplayMarkup]
  cases first : v.session.title with
  | none =>
    cases second : w.session.title with
    | none => rfl
    | some other => simp [first, second] at title
  | some heading =>
    cases second : w.session.title with
    | none => simp [first, second] at title
    | some other =>
      have live : heading.live = other.live := by simpa [first, second] using title
      simp only [headingMarkup live]

theorem shapeFixesMarkup :
    (∀ v w : View, v.shape = w.shape → v.html.delimiters = w.html.delimiters) ∧
    (∀ (v w : View) (league other : String), v.scheduleShape league = w.scheduleShape other →
      (v.scheduleHtml league).delimiters = (w.scheduleHtml other).delimiters) ∧
    (∀ v w : View, v.streamsShape = w.streamsShape →
      (streamsHtml v.shot).delimiters = (streamsHtml w.shot).delimiters) :=
  ⟨fun _ _ => pageMarkup, fun _ _ _ _ => Schedule.rowsMarkup, fun _ _ => StreamTable.rowsMarkup⟩

def oneOfEach (league home title url : String) : View where
  shot :=
    ⟨NameTable.empty.insert league [⟨league, home, "B", "", ⟨none, none⟩, .epoch, some 1⟩],
      [⟨title, .epoch, true, [⟨.other url, url⟩]⟩]⟩
  recorded := fun _ => true
  history := none
  now := .epoch
  session := ⟨⟨[⟨url, url⟩], true⟩, some ⟨title, true⟩, true⟩

theorem scriptsShownAsText :
    let plain := oneOfEach "Cup" "A" "Final" "a.m3u8"
    let hostile := oneOfEach "</h4><script>" "<b>" "'Final'" "\x22 onerror=\x22x()"
    hostile.shape = plain.shape ∧ hostile.html.delimiters = plain.html.delimiters ∧
    (hostile.scheduleHtml "</h4><script>").delimiters = (plain.scheduleHtml "Cup").delimiters ∧
    (streamsHtml hostile.shot).delimiters = (streamsHtml plain.shot).delimiters := by
  intro plain hostile
  obtain ⟨page, schedule, streams⟩ := shapeFixesMarkup
  have shape : hostile.shape = plain.shape := by decide +kernel
  have rows : hostile.scheduleShape "</h4><script>" = plain.scheduleShape "Cup" := by decide +kernel
  exact ⟨shape, page _ _ shape, schedule _ _ _ _ rows, streams _ _ (congrArg Shape.streams shape)⟩

end Page
end MatchGuide
