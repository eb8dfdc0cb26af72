import MatchGuide.Proofs.Marks
import MatchGuide.Proofs.Markup

/-! Where the parts of a page stand in its text. Each is found by a mark that no other part holds, as
texts from elsewhere have no delimiter. -/
namespace MatchGuide.Page
open Html

/- What the container of the player, its title, the player, a source of it, the table of streams and
the table of a league begin with. -/
def containerMark : List Char := "<div id=\"video_container\"".toList
def titleMark : List Char := "<h4 id=\"current_title\" class=\"col-12\">".toList
def playerMark : List Char := "<video-js".toList
def sourceMark : List Char := "<source".toList
def streamsMark : List Char := "<tbody id=\"streams_table\">".toList
def leagueMark : List Char := "<h4>".toList

def marks : List (List Char) :=
  [containerMark, titleMark, playerMark, sourceMark, streamsMark, leagueMark]

def headingEnd : List Char := "</h4>".toList
def bodyEnd : List Char := "</tbody>".toList

def Apart (own : List Char) (h : Html) : Prop :=
  ∀ mark ∈ marks, mark ≠ own → lacks mark h.chars = true

def Clear (h : Html) : Prop := ∀ mark ∈ headingEnd :: bodyEnd :: marks, lacks mark h.chars = true

theorem marksOpen : ∀ mark ∈ headingEnd :: bodyEnd :: marks, mark.head? = some '<' := by
  decide

section
variable {own : List Char} {g h : Html}

theorem clearApart (clear : Clear h) : Apart own h :=
  fun mark mem _ => clear mark (.tail _ (.tail _ mem))

theorem apartAppend (first : Apart own g) (second : Apart own h) : Apart own (g ++ h) := by
  intro mark mem other
  rw [charsAppend]
  exact lacksAppend (first mark mem other) (second mark mem other)

theorem apartFlatMap {α : Type} {f : α → Html} {l : List α} (each : ∀ a, Apart own (f a)) :
    Apart own (l.flatMap f) := fun mark mem other => lacksFlatMap fun a => each a mark mem other

theorem clearAppend (first : Clear g) (second : Clear h) : Clear (g ++ h) := by
  intro mark mem
  rw [charsAppend]
  exact lacksAppend (first mark mem) (second mark mem)

theorem clearFlatMap {α : Type} {f : α → Html} {l : List α} (each : ∀ a, Clear (f a)) :
    Clear (l.flatMap f) := fun mark mem => lacksFlatMap fun a => each a mark mem

theorem clearText (s : String) : Clear [.text s] :=
  fun mark mem => lacksText (marksOpen mark mem) s

theorem clearPlain {s : String} (plain : ∀ c ∈ s.toList, isDelimiter c = false) :
    Clear [.markup s] := by
  intro mark mem
  rw [chars, List.flatMap_singleton]
  exact plainLacks (by rw [marksOpen mark mem]; rfl) plain

def isClear : Piece → Bool
  | .markup s => (following ['<'] s.toList).all fun tag =>
    (headingEnd :: bodyEnd :: marks).all fun mark => differs mark tag
  | .text _ => true

theorem clearPieces (checked : h.all isClear = true) : Clear h := by
  induction h with
  | nil => exact fun _ _ => rfl
  | cons p h ih =>
    rw [List.all_cons, Bool.and_eq_true] at checked
    have first : Clear [p] := by
      cases p with
      | text s => exact clearText s
      | markup s =>
        intro mark mem
        rw [chars, List.flatMap_singleton]
        refine lacksTags (marksOpen mark mem) (List.all_eq_true.mpr fun tag there => ?_)
        exact List.all_eq_true.mp (List.all_eq_true.mp checked.1 tag there) mark mem
    exact clearAppend first (ih checked.2)

theorem spelledApart {s : String} {l : List Char} (spelled : s = .ofList l)
    (checked : ((following ['<'] l).all fun tag =>
      marks.all fun mark => mark == own || differs mark tag) = true) : Apart own [.markup s] := by
  intro mark mem other
  rw [chars, List.flatMap_singleton, Piece.chars, spelled, String.toList_ofList]
  have opens := marksOpen mark (.tail _ (.tail _ mem))
  refine lacksTags opens (List.all_eq_true.mpr fun tag there => ?_)
  have here := List.all_eq_true.mp (List.all_eq_true.mp checked tag there) mark mem
  rwa [Bool.or_eq_true, beq_iff_eq, or_iff_right other] at here

end

theorem scheduleRowClear (r : Schedule.Row) : Clear r.html := by
  have opening : Clear [.markup r.opening] := by
    unfold Schedule.Row.opening
    split
    · exact clearPieces rfl
    split <;> exact clearPieces rfl
  have cells : Clear [.text r.date, .markup "</div><div>", .text r.time,
      .markup "</div></th><td>", .text r.home, .markup "</td><td>", .text r.away,
      .markup "</td><td>", .text r.venue, .markup "</td><td>", .text r.score,
      .markup "</td>"] := clearPieces rfl
  have action : Clear r.actionHtml := by
    unfold Schedule.Row.actionHtml
    split
    · rename_i key _ _
      have number := clearPlain (Schedule.numberPlain key.id.toNat)
      have path : Clear [.markup "<td><form method=\"post\" action=\"/play/fixture/",
          .text (Form.encodeSegment key.league), .markup "/"] := clearPieces rfl
      have button : Clear [.markup
          "\"><button type=\"submit\" class=\"btn btn-outline-primary\">Watch</button></form></td>"] :=
        clearPieces rfl
      exact clearAppend (clearAppend path number) button
    · exact clearPieces rfl
  have ending : Clear [.markup "</tr>"] := clearPieces rfl
  exact clearAppend (clearAppend (clearAppend opening cells) action) ending

theorem streamRowClear (s : Stream) (i : Nat) : Clear (StreamTable.row s i).html := by
  have cells (r : StreamTable.Row) : Clear [.markup "<tr><td>", .text r.date,
      .markup "</td><td>", .text r.description, .markup "</td>"] := clearPieces rfl
  have action : Clear (StreamTable.row s i).actionHtml := by
    unfold StreamTable.Row.actionHtml
    split
    · rename_i key shown
      have number : Clear [.markup key.text] := by
        simp only [StreamTable.row] at shown
        split at shown
        · contradiction
        · obtain rfl := Option.some.inj shown
          exact clearPlain (StreamTable.keyPlain s)
      have path : Clear [.markup "<td><form method=\"post\" action=\"/play/stream/"] :=
        clearPieces rfl
      have button (r : StreamTable.Row) : Clear [.markup "\"><button type=\"submit\" class=\"",
          .markup r.style, .markup "\">", .markup r.label, .markup "</button></form></td>"] := by
        unfold StreamTable.Row.style StreamTable.Row.label
        cases r.live <;> exact clearPieces rfl
      exact clearAppend (clearAppend path number) (button _)
    · exact clearPieces rfl
  have ending : Clear [.markup "</tr>"] := clearPieces rfl
  exact clearAppend (clearAppend (cells _) action) ending

theorem streamsClear (shot : Snapshot) : Clear (streamsHtml shot) := by
  rw [streamsHtml, StreamTable.rowsHtml]
  exact clearFlatMap fun p => streamRowClear p.1 p.2

theorem scheduleClear (rows : List Schedule.Row) : Clear (Schedule.html rows) :=
  clearFlatMap scheduleRowClear

def titleHtml (title : Option Title) : Html := (title.map Title.html).getD []

theorem titleClear (title : Option Title) : Clear (titleHtml title) := by
  cases title with
  | none => exact clearPieces rfl
  | some t =>
    rw [titleHtml, Option.map_some, Option.getD_some, Title.html]
    cases t.live <;> exact clearPieces rfl

def sourceRest (s : PlayerSource) : Html :=
  [.markup " src=\"", .text s.src, .markup "\" type=\"", .text s.mime, .markup "\">"]

theorem sourceClear (s : PlayerSource) : Clear (sourceRest s) := clearPieces rfl

theorem sourceParted (s : PlayerSource) : s.html.chars = sourceMark ++ (sourceRest s).chars := by
  have split : "<source src=\"" = "<source" ++ " src=\"" := rfl
  simp only [PlayerSource.html, sourceRest, chars, List.flatMap_cons, Piece.chars, split,
    String.toList_append, List.append_assoc]
  rfl

theorem playerApart (p : Player) : Apart sourceMark p.html := by
  have opening : Apart sourceMark [.markup "<source"] := spelledApart rfl (by decide)
  refine apartFlatMap fun s mark mem other => ?_
  rw [sourceParted]
  exact lacksAppend (opening mark mem other) (clearApart (sourceClear s) mark mem other)

def tableRest (league : String) (rows : List Schedule.Row) : Html :=
  [.text league, .markup Schedule.headingMarkup] ++ Schedule.html rows ++
    [.markup "</tbody></table>"]

theorem tableParted (league : String) (rows : List Schedule.Row) :
    (Schedule.tableHtml league rows).chars = leagueMark ++ (tableRest league rows).chars := rfl

set_option maxRecDepth 4000 in
theorem tableLacks (league : String) (rows : List Schedule.Row) :
    ∀ mark ∈ marks, lacks mark (tableRest league rows).chars = true := by
  have heading : Apart [] [.markup Schedule.headingMarkup] := spelledApart rfl (by decide +kernel)
  have ending : Apart [] [.markup "</tbody></table>"] := spelledApart rfl (by decide)
  have name : Apart [] [.text league] := clearApart (clearText league)
  have whole : Apart [] (tableRest league rows) :=
    apartAppend (apartAppend (apartAppend name heading) (clearApart (scheduleClear rows))) ending
  intro mark mem
  refine whole mark mem ?_
  rintro rfl
  exact absurd mem (by decide)

theorem tableApart (league : String) (rows : List Schedule.Row) :
    Apart leagueMark (Schedule.tableHtml league rows) := by
  have opening : Apart leagueMark [.markup "<h4>"] := spelledApart rfl (by decide)
  intro mark mem other
  rw [tableParted]
  exact lacksAppend (opening mark mem other) (tableLacks league rows mark mem)

structure Part where
  own : List Char
  html : Html
  apart : Apart own html

def wording (parts : List Part) : List Char := parts.flatMap (·.html.chars)

theorem wordingLacks {mark : List Char} {parts : List Part} (mem : mark ∈ marks)
    (others : ∀ p ∈ parts, p.own ≠ mark) : lacks mark (wording parts) = true := by
  induction parts with
  | nil => rfl
  | cons p parts ih =>
    obtain ⟨head, tail⟩ := List.forall_mem_cons.mp others
    exact lacksAppend (p.apart mark mem head.symm) (ih tail)

section
set_option maxRecDepth 4000

def headPart : Part :=
  ⟨containerMark, [.markup headMarkup], spelledApart rfl (by decide +kernel)⟩

def hiddenPart (visible : Bool) : Part where
  own := []
  html := [.markup (hiddenMarkup visible)]
  apart := clearApart (by cases visible <;> exact clearPieces rfl)

def titlePart : Part := ⟨titleMark, [.markup titleMarkup], spelledApart rfl (by decide +kernel)⟩

def namePart (title : Option Title) : Part := ⟨[], titleHtml title, clearApart (titleClear title)⟩

def videoPart : Part := ⟨playerMark, [.markup videoMarkup], spelledApart rfl (by decide +kernel)⟩

def autoplayPart (p : Player) : Part where
  own := []
  html := [.markup (if p.current?.isSome then "true" else "false"), .markup sourcesMarkup]
  apart := clearApart (by split <;> exact clearPieces rfl)

def playerPart (p : Player) : Part := ⟨sourceMark, p.html, playerApart p⟩

def streamsPart : Part :=
  ⟨streamsMark, [.markup streamsMarkup], spelledApart rfl (by decide +kernel)⟩

def rowsPart (shot : Snapshot) : Part := ⟨[], streamsHtml shot, clearApart (streamsClear shot)⟩

def schedulePart : Part := ⟨[], [.markup scheduleMarkup], spelledApart rfl (by decide +kernel)⟩

def tablesPart (v : View) : Part where
  own := leagueMark
  html := Schedule.tablesHtml v.shot.leagues v.now v.recorded v.history
  apart := apartFlatMap fun _ => tableApart _ _

def footPart : Part := ⟨[], [.markup footMarkup], spelledApart rfl (by decide +kernel)⟩

end

def View.parts (v : View) : List Part :=
  [headPart, hiddenPart v.session.visible, titlePart, namePart v.session.title, videoPart,
    autoplayPart v.session.player, playerPart v.session.player, streamsPart, rowsPart v.shot,
    schedulePart, tablesPart v, footPart]

section
variable {v : View} {p : Part} {i : Nat}

theorem pageWording (v : View) : v.html.chars = wording v.parts := by
  have parted : v.html = v.parts.flatMap Part.html := by
    obtain ⟨shot, recorded, history, now, session⟩ := v
    simp only [View.html, View.parts, Page.html, List.flatMap_cons, List.flatMap_nil, headPart,
      hiddenPart, titlePart, namePart, titleHtml, videoPart, autoplayPart, playerPart, streamsPart,
      rowsPart, schedulePart, tablesPart, footPart]
    cases session.title <;> simp
  rw [parted, chars, wording, List.flatMap_assoc]
  rfl

theorem pageMarks (v : View) : (v.parts.map Part.own).filter (· ≠ []) = marks := rfl

theorem partSplit (there : v.parts[i]? = some p) :
    v.parts.take i ++ p :: v.parts.drop (i + 1) = v.parts := by
  obtain ⟨inside, rfl⟩ := List.getElem?_eq_some_iff.mp there
  rw [List.getElem_cons_drop, List.take_append_drop]

theorem partAlone (there : v.parts[i]? = some p) (marked : p.own ∈ marks) :
    ∀ q ∈ v.parts.take i ++ v.parts.drop (i + 1), q.own ≠ p.own := by
  have filled : p.own ≠ [] := by
    rintro empty
    rw [empty] at marked
    exact absurd marked (by decide)
  have once : marks.Nodup := by decide
  rw [← pageMarks v, ← partSplit there, List.map_append, List.map_cons, List.filter_append,
    List.filter_cons_of_pos (by simpa using filled), List.perm_middle.nodup_iff] at once
  intro q mem same
  refine (List.nodup_cons.mp once).1 ?_
  rw [← List.filter_append, ← List.map_append, ← same]
  refine List.mem_filter.mpr ⟨List.mem_map_of_mem mem, ?_⟩
  simpa [same] using filled

/- The mark of a part leads to it, past all that stands before it, and to nothing behind it. -/
theorem partReached (there : v.parts[i]? = some p) (marked : p.own ∈ marks) :
    following p.own v.html.chars =
        following p.own (p.html.chars ++ wording (v.parts.drop (i + 1))) ∧
      following p.own (wording (v.parts.drop (i + 1))) = [] := by
  obtain ⟨above, below⟩ := List.forall_mem_append.mp (partAlone there marked)
  refine ⟨?_, (lacksIff.mp (wordingLacks marked below)).1⟩
  have parted (before after : List Part) :
      wording (before ++ p :: after) = wording before ++ (p.html.chars ++ wording after) := by
    rw [wording, List.flatMap_append, List.flatMap_cons]
    rfl
  have text := parted (v.parts.take i) (v.parts.drop (i + 1))
  rw [partSplit there, ← pageWording] at text
  rw [text, followingPast (wordingLacks marked above)]

theorem partOnce {more : List Char} (there : v.parts[i]? = some p) (marked : p.own ∈ marks)
    (once : following p.own p.html.chars = [more]) (closed : whole p.own p.html.chars = true) :
    following p.own v.html.chars = [more ++ wording (v.parts.drop (i + 1))] := by
  obtain ⟨reached, none⟩ := partReached there marked
  rw [reached, followingAppend closed, once, none]
  rfl

theorem partHolds {α : Type} {read : List Char → α} {values : List α}
    (there : v.parts[i]? = some p) (marked : p.own ∈ marks)
    (holds : Holds p.own read p.html values) :
    (following p.own v.html.chars).map read = values := by
  obtain ⟨reached, none⟩ := partReached there marked
  rw [reached, holds, none, List.map_nil, List.append_nil]

end

theorem spelledOnce {s : String} {l mark more : List Char} (spelled : s = .ofList l)
    (once : following mark l = [more] ∧ whole mark l = true) :
    following mark (chars [.markup s]) = [more] ∧ whole mark (chars [.markup s]) = true := by
  rwa [chars, List.flatMap_singleton, Piece.chars, spelled, String.toList_ofList]

theorem spelledStart {s : String} {l start : List Char} (spelled : s = .ofList l)
    (starts : start.isPrefixOf l = true) : ∃ more, chars [.markup s] = start ++ more := by
  obtain ⟨more, rfl⟩ := List.isPrefixOf_iff_prefix.mp starts
  exact ⟨more, by rw [chars, List.flatMap_singleton, Piece.chars, spelled, String.toList_ofList]⟩

def playerAttributes : List Char :=
  (" id=\"video_player\" class=\"vjs-default-skin embed-responsive-item\" controls" ++
    " preload=\"auto\" data-autoplay=\"").toList

section
set_option maxRecDepth 4000

theorem containerOnce : following containerMark headPart.html.chars = [" class=\"row".toList] ∧
    whole containerMark headPart.html.chars = true := spelledOnce rfl (by decide +kernel)

theorem titleOnce : following titleMark titlePart.html.chars = [[]] ∧
    whole titleMark titlePart.html.chars = true := spelledOnce rfl (by decide +kernel)

theorem videoOnce : following playerMark videoPart.html.chars = [playerAttributes] ∧
    whole playerMark videoPart.html.chars = true := spelledOnce rfl (by decide +kernel)

theorem streamsOnce : following streamsMark streamsPart.html.chars = [[]] ∧
    whole streamsMark streamsPart.html.chars = true := spelledOnce rfl (by decide +kernel)

end

theorem containerFound (v : View) : ∃ more, following containerMark v.html.chars =
    [" class=\"row".toList ++ ((hiddenMarkup v.session.visible).toList ++ '\x22' :: '>' :: more)] := by
  obtain ⟨once, closed⟩ := containerOnce
  obtain ⟨more, starts⟩ : ∃ more, titlePart.html.chars = ['\x22', '>'] ++ more :=
    spelledStart rfl (by decide)
  have behind : wording (v.parts.drop 1) = chars [.markup (hiddenMarkup v.session.visible)] ++
      (titlePart.html.chars ++ wording (v.parts.drop 3)) := rfl
  refine ⟨more ++ wording (v.parts.drop 3), (partOnce (i := 0) rfl (by decide) once closed).trans ?_⟩
  rw [behind, starts, chars, List.flatMap_singleton]
  rfl

set_option maxRecDepth 4000 in
theorem titleFound (v : View) : ∃ more, following titleMark v.html.chars =
    [(titleHtml v.session.title).chars ++ (headingEnd ++ more)] := by
  obtain ⟨once, closed⟩ := titleOnce
  obtain ⟨more, starts⟩ : ∃ more, videoPart.html.chars = headingEnd ++ more :=
    spelledStart rfl (by decide)
  have behind : wording (v.parts.drop 3) = (titleHtml v.session.title).chars ++
      (videoPart.html.chars ++ wording (v.parts.drop 5)) := rfl
  refine ⟨more ++ wording (v.parts.drop 5), (partOnce (i := 2) rfl (by decide) once closed).trans ?_⟩
  rw [behind, starts, List.nil_append, List.append_assoc headingEnd]

theorem playerFound (v : View) : ∃ more, following playerMark v.html.chars =
    [playerAttributes ++ ((if v.session.player.current?.isSome then "true" else "false").toList ++
      '\x22' :: '>' :: more)] := by
  obtain ⟨once, closed⟩ := videoOnce
  have behind : wording (v.parts.drop 5) =
      chars [.markup (if v.session.player.current?.isSome then "true" else "false")] ++
        (chars [.markup sourcesMarkup] ++ wording (v.parts.drop 6)) := by
    rw [← List.append_assoc, ← charsAppend]
    rfl
  refine ⟨wording (v.parts.drop 6), (partOnce (i := 4) rfl (by decide) once closed).trans ?_⟩
  rw [behind, chars, List.flatMap_singleton]
  rfl

theorem streamsFound (v : View) : ∃ more, following streamsMark v.html.chars =
    [(streamsHtml v.shot).chars ++ (bodyEnd ++ more)] := by
  obtain ⟨once, closed⟩ := streamsOnce
  obtain ⟨more, starts⟩ : ∃ more, schedulePart.html.chars = bodyEnd ++ more :=
    spelledStart rfl (by decide)
  have behind : wording (v.parts.drop 8) = (streamsHtml v.shot).chars ++
      (schedulePart.html.chars ++ wording (v.parts.drop 10)) := rfl
  refine ⟨more ++ wording (v.parts.drop 10), (partOnce (i := 7) rfl (by decide) once closed).trans ?_⟩
  rw [behind, starts, List.nil_append, List.append_assoc bodyEnd]

section
variable {α β : Type} {read : List Char → α}

theorem sourcesRead {value : PlayerSource → α}
    (each : ∀ s : PlayerSource, Holds sourceMark read s.html [value s]) (v : View) :
    (following sourceMark v.html.chars).map read = v.session.player.sources.map value :=
  partHolds (p := playerPart v.session.player) (i := 6) rfl
    (by decide : sourceMark ∈ marks) (holdsMap each _)

theorem tablesRead {value : String → α} (v : View)
    (each : ∀ league, Holds leagueMark read
      (Schedule.tableHtml league (Schedule.rows v.shot.leagues league v.now v.recorded v.history))
      [value league]) :
    (following leagueMark v.html.chars).map read = v.shot.leagues.names.map value :=
  partHolds (p := tablesPart v) (i := 10) rfl (by decide : leagueMark ∈ marks)
    (holdsMap each _)

end
end MatchGuide.Page
