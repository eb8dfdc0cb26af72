import MatchGuide.Proofs.Buttons
import MatchGuide.Proofs.Reading

/-! The parts of a page that are answered on their own. Until the page is loaded again they say what
the page said, each league's table under the escaped name of the league. -/
namespace MatchGuide

namespace Page
open Html

def bodyMark : List Char := "<tbody>".toList

def streamRows (page : List Char) : List (Option String) :=
  (following streamsMark page).map fun text => (before? bodyEnd text).map .ofList

def table? (text : List Char) : Option (String × String) := do
  let name ← before? headingEnd text
  let body ← (following bodyMark text).head?
  let rows ← before? bodyEnd body
  some (.ofList (unescape name), .ofList rows)

def tables (page : List Char) : List (Option (String × String)) :=
  (following leagueMark page).map table?

theorem streamRowsRead (v : View) :
    streamRows v.html.chars = [some (streamsHtml v.shot).render] := by
  obtain ⟨more, found⟩ := streamsFound v
  have clear := streamsClear v.shot bodyEnd (.tail _ (.head _))
  rw [streamRows, found, List.map_singleton, beforeFound clear (by decide)]
  rfl

section
set_option maxRecDepth 4000

theorem headingStart :
    ∃ more, chars [.markup Schedule.headingMarkup] = headingEnd ++ more :=
  spelledStart rfl (by decide)

theorem headingBody : following bodyMark (chars [.markup Schedule.headingMarkup]) = [[]] ∧
    whole bodyMark (chars [.markup Schedule.headingMarkup]) = true :=
  spelledOnce rfl (by decide +kernel)

end

theorem tableTold (league : String) (rows : List Schedule.Row) (rest : List Char) :
    table? ((tableRest league rows).chars ++ rest) = some (league, (Schedule.html rows).render) := by
  obtain ⟨more, starts⟩ := headingStart
  obtain ⟨once, closed⟩ := headingBody
  have parted : (tableRest league rows).chars ++ rest = escapeChars league.toList ++
      (chars [.markup Schedule.headingMarkup] ++
        ((Schedule.html rows).chars ++ (bodyEnd ++ ("</table>".toList ++ rest)))) := by
    have ending : chars [.markup "</tbody></table>"] = bodyEnd ++ "</table>".toList := by decide
    have opening : chars [.text league, .markup Schedule.headingMarkup] =
        escapeChars league.toList ++ chars [.markup Schedule.headingMarkup] := rfl
    rw [tableRest, charsAppend, charsAppend, ending, opening]
    simp only [List.append_assoc]
  have named : lacks headingEnd (escapeChars league.toList) = true :=
    plainLacks rfl (escapeNoDelimiter league.toList)
  have passed : lacks bodyMark (escapeChars league.toList) = true :=
    plainLacks rfl (escapeNoDelimiter league.toList)
  have shown := scheduleClear rows bodyEnd (.tail _ (.head _))
  have name : before? headingEnd ((tableRest league rows).chars ++ rest) =
      some (escapeChars league.toList) := by
    rw [parted, starts, List.append_assoc, beforeFound named (by decide)]
  have body : (following bodyMark ((tableRest league rows).chars ++ rest)).head? =
      some ((Schedule.html rows).chars ++ (bodyEnd ++ ("</table>".toList ++ rest))) := by
    rw [parted, followingPast passed, followingAppend closed, once]
    rfl
  simp only [table?, name, body, beforeFound shown (by decide), Option.bind_eq_bind,
    Option.bind_some, unescapeEscape, String.ofList_toList]
  rfl

theorem tableHolds (league : String) (rows : List Schedule.Row) :
    Holds leagueMark table? (Schedule.tableHtml league rows)
      [some (league, (Schedule.html rows).render)] :=
  holdsOne (tableParted league rows) (by decide) (by decide)
    (tableLacks league rows leagueMark (by decide)) (tableTold league rows)

theorem leagueTablesRead (v : View) : tables v.html.chars =
    v.shot.leagues.names.map fun league => some (league, (v.scheduleHtml league).render) :=
  tablesRead v fun _ => tableHolds _ _

end Page

namespace Server
open Page (streamRows tables)

def streamsRequest : Request := ⟨"GET", "/streams/table"⟩

def scheduleRequest (league : String) : Request := ⟨"GET", "/schedule/" ++ Form.encodeSegment league⟩

def SameRecordings (shot : Snapshot) (league : String) (recorded other : Fixture → Bool) : Prop :=
  ∀ fixtures, shot.leagues.find? league = some fixtures → ∀ f ∈ fixtures, recorded f = other f

structure Repeats (site : Site) (s : State) (page : List Char) (now : Instant)
    (recorded : Fixture → Bool) : Prop where
  streams : ∀ w : Visit, w.req = streamsRequest → ∃ rows, streamRows page = [some rows] ∧
    (handle (w.scene site) s w.req).2 = .html rows
  schedule : ∀ (w : Visit) (league : String), w.req = scheduleRequest league → league ≠ "" →
    league ∈ s.board.snapshot.leagues.names → w.now = now →
    SameRecordings s.board.snapshot league (w.scene site).recorded recorded →
      ∃ rows, some (league, rows) ∈ tables page ∧ (handle (w.scene site) s w.req).2 = .html rows
  unknown : ∀ (w : Visit) (league : String), w.req = scheduleRequest league → league ≠ "" →
    league ∉ s.board.snapshot.leagues.names → (handle (w.scene site) s w.req).2 = .html ""

theorem scheduleReads {league : String} (filled : league ≠ "") :
    (scheduleRequest league).Reads (.schedule (Form.encodeSegment league).toList) := by
  have quiet : ∀ name ∈ ["schedule", Form.encodeSegment league], ∀ c ∈ name.toList,
      Form.isQuiet c = true := by
    simp only [List.forall_mem_cons]
    exact ⟨List.all_eq_true.mp (by decide), fun _ mem => Form.segmentQuiet mem, nofun⟩
  have spelled : "/schedule/" ++ Form.encodeSegment league =
      .ofList ('/' :: Text.join ['/'] (["schedule", Form.encodeSegment league].map String.toList)) := by
    have names : "/schedule/".toList = '/' :: ("schedule".toList ++ ['/']) := by simp
    rw [← String.toList_inj, String.toList_append, names]
    refine Eq.trans ?_ String.toList_ofList.symm
    simp only [List.map_cons, List.map_nil, Text.join, List.append_assoc, List.cons_append,
      List.nil_append]
  refine ⟨rfl, ?_⟩
  rw [scheduleRequest, spelled, quietPath quiet, quietRoute (by simp) quiet]
  exact lastRoute (Form.segmentFilled filled) _

variable {site : Site} {earlier : List Visit}

theorem afterKept {between : List Visit} (others : ∀ u ∈ between, ¬ u.req.ReadsPage) :
    site.after (between ++ earlier) = site.after earlier := by
  induction between with
  | nil => rfl
  | cons u between ih =>
    obtain ⟨head, tail⟩ := List.forall_mem_cons.mp others
    rw [List.cons_append, site.afterOther head, ih tail]

theorem rowsSame {shot : Snapshot} {league : String} {recorded other : Fixture → Bool}
    (same : SameRecordings shot league recorded other) (history : Option Nat) (now : Instant) :
    Schedule.rows shot.leagues league now recorded history =
      Schedule.rows shot.leagues league now other history := by
  rw [Schedule.rows, Schedule.rows]
  cases found : shot.leagues.find? league with
  | none => rfl
  | some fixtures =>
    refine List.map_congr_left fun p listed => ?_
    have inside : p.1 ∈ fixtures := List.fst_mem_of_mem_zipIdx (List.mem_of_mem_drop listed)
    simp only [Schedule.row, same fixtures found p.1 inside]

theorem pageText (site : Site) (earlier : List Visit) {v : Visit}
    (get : v.req.method = "GET") (page : v.req.ReadsPage) :
    ∃ view : Page.View, view.shot = (site.after (v :: earlier)).board.snapshot ∧
      view.recorded = (v.scene site).recorded ∧ view.history = site.history ∧ view.now = v.now ∧
      (handle (v.scene site) (site.after earlier) v.req).2 = .html view.html.render := by
  obtain ⟨choice, accepted⟩ := Option.isSome_iff_exists.mp page.2.2
  have reads : v.req.Reads .page := ⟨page.1, Route.ofPathPage.mpr page.2.1⟩
  have answered := @pageAnswered site v earlier choice reads accepted
  rw [Response.sentFor, if_neg (by rw [get]; decide)] at answered
  exact ⟨⟨_, _, _, _, _⟩, rfl, rfl, rfl, rfl, answered⟩

theorem streamsAnswered (s : State) (c : Scene) :
    (handle c s streamsRequest).2 = .html (Page.streamsHtml s.board.snapshot).render := by
  have found : Route.ofPath? streamsRequest.path = some .streamTable := by decide
  have idle : loads streamsRequest .streamTable = false := rfl
  rw [readHandled rfl found rfl, idle]
  rfl

theorem scheduleAnswered {league : String} (filled : league ≠ "") (s : State) (c : Scene) :
    (handle c s (scheduleRequest league)).2 =
      .html (Page.scheduleHtml s.board.snapshot c.recorded c.site.history c.now league).render := by
  have ⟨read, found⟩ := scheduleReads filled
  have idle : loads (scheduleRequest league)
      (.schedule (Form.encodeSegment league).toList) = false := rfl
  rw [readHandled read found rfl, idle]
  simp only [Bool.false_eq_true, if_false, answer, segmentParameter, given]
  rfl

theorem fragmentsRepeatPage (site : Site) (earlier : List Visit) (v : Visit)
    (get : v.req.method = "GET") (page : v.req.ReadsPage) :
    let names := (site.after (v :: earlier)).board.snapshot.leagues.names
    names.Pairwise (fun a b => Utf8.encode a < Utf8.encode b) ∧
    ∃ text, (handle (v.scene site) (site.after earlier) v.req).2 = .html text ∧
      (tables text.toList).map (Option.map Prod.fst) = names.map some ∧
      ∀ between, (∀ u ∈ between, ¬ u.req.ReadsPage) →
        Repeats site (site.after (between ++ v :: earlier)) text.toList v.now
          (v.scene site).recorded := by
  intro names
  obtain ⟨view, shot, recorded, history, now, answered⟩ :=
    pageText site earlier get page
  have text : view.html.render.toList = view.html.chars := String.toList_ofList
  have ordered : names.Pairwise fun a b => Utf8.encode a < Utf8.encode b :=
    (site.after (v :: earlier)).board.snapshot.leagues.sorted.imp Utf8.encodeLess
  refine ⟨ordered, _, answered, ?_, fun between others => ?_⟩
  · rw [text, Page.leagueTablesRead, shot, List.map_map]
    rfl
  rw [afterKept others, text]
  refine ⟨fun w req => ?_, fun w league req filled listed still same => ?_,
    fun w league req filled absent => ?_⟩
  · exact ⟨_, Page.streamRowsRead view, by rw [req, streamsAnswered, shot]⟩
  · refine ⟨(view.scheduleHtml league).render, ?_, ?_⟩
    · rw [Page.leagueTablesRead, shot]
      exact List.mem_map_of_mem listed
    · rw [req, scheduleAnswered filled, Page.View.scheduleHtml, shot, recorded, history, now,
        Page.scheduleHtml, Page.scheduleHtml, rowsSame same, ← still]
      rfl
  · have unknown : (site.after (v :: earlier)).board.snapshot.leagues.find? league = none := by
      rwa [NameTable.memNamesIff, Option.not_isSome_iff_eq_none] at absent
    rw [req, scheduleAnswered filled, Page.scheduleHtml, Schedule.rows, unknown]
    rfl

def matchFile : String :=
  "\x7b\"A/B\":[\x7b\"home\":\"A\",\"away\":\"B\",\"timestamp\":9,\"fixture_id\":7\x7d]\x7d"

def keptStore : Store := ⟨[
  (["fixtures.json"], .file (Utf8.encode matchFile)),
  (["kept"], .directory),
  (["kept", "hls"], .directory),
  (["kept", "hls", "7.m3u8"], .file [])]⟩

def emptiedStore : Store := ⟨[
  (["fixtures.json"], .file (Utf8.encode matchFile)),
  (["kept"], .directory),
  (["kept", "hls"], .directory)]⟩

def keptVisit : Visit := visiting "GET" "/" keptStore

theorem slashedLeagueRepeated :
    keptVisit.req.method = "GET" ∧ keptVisit.req.ReadsPage ∧
    ∃ text rows, (handle (keptVisit.scene recordedSite) (recordedSite.after []) keptVisit.req).2 =
        .html text ∧
      some ("A/B", rows) ∈ tables text.toList ∧
      (handle (keptVisit.scene recordedSite) (recordedSite.after [keptVisit])
        ⟨"GET", "/schedule/A%2FB"⟩).2 = .html rows := by
  have listed : "A/B" ∈ (recordedSite.after [keptVisit]).board.snapshot.leagues.names := by
    decide +kernel
  have escaped : scheduleRequest "A/B" = ⟨"GET", "/schedule/A%2FB"⟩ := by decide
  obtain ⟨_, text, answered, _, repeats⟩ :=
    fragmentsRepeatPage recordedSite [] keptVisit rfl rootReads
  obtain ⟨rows, inside, same⟩ := (repeats [] (List.forall_mem_nil _)).schedule
    (visiting "GET" "/schedule/A%2FB" keptStore) "A/B" escaped.symm (by decide) listed rfl
      fun _ _ _ _ => rfl
  exact ⟨rfl, rootReads, text, rows, answered, inside, same⟩

/- A button goes with the recording, also while the page is not loaded again. -/
theorem buttonGoneFromFragment :
    ¬ ∀ (site : Site) (earlier : List Visit) (v w : Visit) (text league rows : String),
      v.req.method = "GET" → v.req.ReadsPage →
      (handle (v.scene site) (site.after earlier) v.req).2 = .html text →
      w.req = scheduleRequest league → league ≠ "" → w.now = v.now →
      some (league, rows) ∈ tables text.toList →
        (handle (w.scene site) (site.after (v :: earlier)) w.req).2 = .html rows := by
  intro fragmentRepeats
  obtain ⟨view, shot, recorded, history, now, answered⟩ :=
    pageText recordedSite [] (v := keptVisit) rfl rootReads
  have text : view.html.render.toList = view.html.chars := String.toList_ofList
  have listed : "A/B" ∈ (recordedSite.after [keptVisit]).board.snapshot.leagues.names := by
    decide +kernel
  have inside : some ("A/B", (view.scheduleHtml "A/B").render) ∈ tables view.html.render.toList := by
    rw [text, Page.leagueTablesRead, shot]
    exact List.mem_map_of_mem listed
  let w : Visit := ⟨scheduleRequest "A/B", emptiedStore, Network.down, .epoch⟩
  have same :=
    fragmentRepeats recordedSite [] keptVisit w _ _ _ rfl rootReads answered rfl (by decide) rfl inside
  rw [scheduleAnswered (by decide), Page.View.scheduleHtml, shot, recorded, history, now] at same
  have differ : (Page.scheduleHtml (recordedSite.after [keptVisit]).board.snapshot
      (w.scene recordedSite).recorded none .epoch "A/B").chars ≠
        (Page.scheduleHtml (recordedSite.after [keptVisit]).board.snapshot
          (keptVisit.scene recordedSite).recorded none .epoch "A/B").chars := by
    decide +kernel
  exact differ (String.ofList_injective (Body.text.inj (congrArg Response.body same)))

end Server
end MatchGuide
