import MatchGuide.Proofs.Marks
import MatchGuide.Proofs.Markup
import MatchGuide.Proofs.PlayRoutes

/-! The forms of a page, as a reader of its text finds them: each for something that can be played,
as its row has it. -/
namespace MatchGuide

namespace Html

def unescape : List Char → List Char
  | '&' :: 'a' :: 'm' :: 'p' :: ';' :: rest => '&' :: unescape rest
  | '&' :: 'l' :: 't' :: ';' :: rest => '<' :: unescape rest
  | '&' :: 'g' :: 't' :: ';' :: rest => '>' :: unescape rest
  | '&' :: 'q' :: 'u' :: 'o' :: 't' :: ';' :: rest => '\x22' :: unescape rest
  | '&' :: '#' :: '3' :: '9' :: ';' :: rest => '\x27' :: unescape rest
  | c :: rest => c :: unescape rest
  | [] => []

theorem unescapeOther {c : Char} (other : c ≠ '&') (rest : List Char) :
    unescape (c :: rest) = c :: unescape rest := by
  rw [unescape] <;> simp [other]

theorem unescapeChar (c : Char) (rest : List Char) :
    unescape (escapeChar c ++ rest) = c :: unescape rest := by
  unfold escapeChar
  split
  · simp_all [unescape]
  split
  · simp_all [unescape]
  split
  · simp_all [unescape]
  split
  · simp_all [unescape]
  split
  · simp_all [unescape]
  · rename_i other _ _ _ _
    exact unescapeOther other rest

theorem unescapeEscape (s : List Char) : unescape (escapeChars s) = s := by
  induction s with
  | nil => rfl
  | cons c s ih => rw [escapeChars, List.flatMap_cons, unescapeChar, ← escapeChars, ih]

def isInert (c : Char) : Bool := c != '&' && !isDelimiter c

theorem inertEscaped {s : List Char} (inert : ∀ c ∈ s, isInert c = true) : escapeChars s = s := by
  have kept (c : Char) (plain : isInert c = true) : escapeChar c = [c] := by
    simp only [isInert, isDelimiter, Bool.and_eq_true, bne_iff_ne, Bool.not_eq_true',
      Bool.or_eq_false_iff, beq_eq_false_iff_ne] at plain
    obtain ⟨other, ⟨⟨less, greater⟩, double⟩, single⟩ := plain
    rw [escapeChar, if_neg other, if_neg less, if_neg greater, if_neg double, if_neg single]
  induction s with
  | nil => rfl
  | cons c s ih =>
    obtain ⟨head, tail⟩ := List.forall_mem_cons.mp inert
    rw [escapeChars, List.flatMap_cons, kept c head, ← escapeChars, ih tail, List.singleton_append]

def valueAfter? (mark : List Char) : List Char → Option (List Char)
  | [] => none
  | c :: rest =>
    if mark.isPrefixOf (c :: rest) then
      some (((c :: rest).drop mark.length).takeWhile (· != '\x22'))
    else valueAfter? mark rest

def formMark : List Char := ['<', 'f', 'o', 'r', 'm', ' ']

def actionMark : List Char := ['a', 'c', 't', 'i', 'o', 'n', '=', '\x22']

def formActions : List Char → List (List Char)
  | [] => []
  | c :: rest =>
    if formMark.isPrefixOf (c :: rest) then
      ((valueAfter? actionMark rest).map unescape).toList ++ formActions rest
    else formActions rest

def formless : List Char → Bool
  | [] => true
  | c :: rest =>
    !formMark.isPrefixOf (c :: rest) && !(c :: rest).isPrefixOf formMark && formless rest

theorem formlessLacks (s : List Char) : formless s = lacks formMark s := by
  induction s with
  | nil => rfl
  | cons c s ih =>
    rw [formless, ih, Bool.eq_iff_iff, lacksCons]
    simp only [Bool.and_eq_true, Bool.not_eq_true', and_assoc]

theorem formlessActions {s : List Char} (none : formless s = true) (rest : List Char) :
    formActions (s ++ rest) = formActions rest := by
  rw [formlessLacks] at none
  induction s with
  | nil => rfl
  | cons c s ih =>
    have later := (lacksCons.mp none).2.2
    rw [List.cons_append, formActions, lacksHere none, ih later]
    rfl

def Piece.isFormless : Piece → Bool
  | markup s => formless s.toList
  | text _ => true

/- The characters of a long text are cheaper to go through where they are written out. -/
theorem spelledFormless {s : String} {l : List Char} (spelled : s = .ofList l)
    (none : formless l = true) : formless s.toList = true := by
  rw [spelled, String.toList_ofList, none]

theorem plainFormless {s : List Char} (plain : ∀ c ∈ s, isDelimiter c = false) :
    formless s = true := by
  rw [formlessLacks]
  exact plainLacks rfl plain

theorem inertFormless {s : List Char} (inert : ∀ c ∈ s, isInert c = true) : formless s = true :=
  plainFormless fun c mem => by
    have own := inert c mem
    simp only [isInert, Bool.and_eq_true, Bool.not_eq_true'] at own
    exact own.2

def formAttributes : List Char := "form method=\"post\" action=\"".toList

theorem formRead {path closing : List Char} (inert : ∀ c ∈ path, isInert c = true)
    (closed : formless closing = true) (rest : List Char) :
    formActions ('<' :: (formAttributes ++ (path ++ '\x22' :: (closing ++ rest)))) =
      path :: formActions rest := by
  have quoted : (path ++ '\x22' :: (closing ++ rest)).takeWhile (· != '\x22') = path := by
    have unquoted : ∀ c ∈ path, (c != '\x22') = true := by
      intro c mem
      have own := inert c mem
      rw [bne_iff_ne]
      rintro rfl
      contradiction
    rw [List.takeWhile_append_of_pos unquoted, List.takeWhile_cons_of_neg (by simp),
      List.append_nil]
  have value : valueAfter? actionMark (formAttributes ++ (path ++ '\x22' :: (closing ++ rest))) =
      some path := congrArg some quoted
  have decoded : unescape path = path := by
    have back := unescapeEscape path
    rwa [inertEscaped inert] at back
  have begun : formMark.isPrefixOf
      ('<' :: (formAttributes ++ (path ++ '\x22' :: (closing ++ rest)))) = true := rfl
  have quote : formless ['\x22'] = true := rfl
  have attributes : formless formAttributes = true := by decide
  rw [formActions, if_pos begun, value, Option.map_some, decoded, formlessActions attributes,
    formlessActions (inertFormless inert), ← List.singleton_append, formlessActions quote,
    formlessActions closed]
  rfl

end Html

namespace Schedule

def Row.target? (r : Row) : Option Selection.Target :=
  match r.watch, r.disabled with
  | some key, false => some (.fixture key)
  | _, _ => none

end Schedule

namespace StreamTable

def Row.target? (r : Row) : Option Selection.Target := r.key.map .stream

end StreamTable

namespace Server
open Html
open Selection (Target)

def actionOf (target : Target) : List Char := (button target).target.toList

theorem quietInert {c : Char} (quiet : Form.isQuiet c = true) : isInert c = true := by
  have other {d : Char} (loud : Form.isQuiet d = false) : c ≠ d :=
    beq_eq_false_iff_ne.mp (Form.quietApart quiet loud)
  have apart : c ≠ '&' ∧ c ≠ '<' ∧ c ≠ '>' ∧ c ≠ '\x22' ∧ c ≠ '\x27' :=
    ⟨other (by decide), other (by decide), other (by decide), other (by decide), other (by decide)⟩
  simp [isInert, isDelimiter, apart]

theorem segmentEscaped (s : String) :
    escapeChars (Form.encodeSegment s).toList = (Form.encodeSegment s).toList :=
  inertEscaped fun _ mem => quietInert (Form.segmentQuiet mem)

theorem actionInert (target : Target) : ∀ c ∈ actionOf target, isInert c = true := by
  intro c mem
  rw [actionOf, button, String.toList_ofList] at mem
  rcases List.mem_cons.mp mem with rfl | mem
  · rfl
  · rcases Text.memJoin mem with slash | ⟨part, there, inside⟩
    · obtain rfl := List.mem_singleton.mp slash
      rfl
    · obtain ⟨name, named, rfl⟩ := List.mem_map.mp there
      exact quietInert (buttonQuiet target name named c inside)

def Carries (h : Html) (targets : List Target) : Prop :=
  ∀ rest, formActions (h.chars ++ rest) = targets.map actionOf ++ formActions rest

section Carrying
variable {g h : Html} {targets others : List Target}

theorem formlessCarries (none : formless h.chars = true) : Carries h [] := formlessActions none

theorem markupCarries {s : String} (none : formless s.toList = true) : Carries [.markup s] [] :=
  formlessCarries (by rwa [chars, List.flatMap_singleton])

theorem textCarries (s : String) : Carries [.text s] [] := by
  refine formlessCarries (plainFormless ?_)
  simpa [chars, Piece.chars] using escapeNoDelimiter s.toList

theorem carriesAppend (first : Carries g targets) (second : Carries h others) :
    Carries (g ++ h) (targets ++ others) := by
  intro rest
  rw [charsAppend, List.append_assoc, first, second, List.map_append, List.append_assoc]

theorem carriesCons {p : Piece} (first : Carries [p] []) (others : Carries h targets) :
    Carries (p :: h) targets := carriesAppend first others

theorem silentCarries (silent : h.all Piece.isFormless = true) : Carries h [] := by
  induction h with
  | nil => exact fun _ => rfl
  | cons p h ih =>
    rw [List.all_cons, Bool.and_eq_true] at silent
    have first : Carries [p] [] := by
      cases p with
      | text s => exact textCarries s
      | markup s => exact markupCarries silent.1
    exact carriesCons first (ih silent.2)

theorem carriesFlatMap {α : Type} {f : α → Html} {on : α → List Target} {l : List α}
    (each : ∀ a, Carries (f a) (on a)) : Carries (l.flatMap f) (l.flatMap on) := by
  induction l with
  | nil => exact fun _ => rfl
  | cons a l ih => simpa only [List.flatMap_cons] using carriesAppend (each a) ih

end Carrying

def buttonOpening : String := "<td><form method=\"post\" action=\""

theorem formCarries {h : Html} {target : Target} {closing : List Char}
    (quote : closing.head? = some '\x22') (closed : formless closing = true)
    (spelled : h.chars = buttonOpening.toList ++ (actionOf target ++ closing)) :
    Carries h [target] := by
  obtain ⟨more, rfl⟩ := List.head?_eq_some_iff.mp quote
  have cell : formless "<td>".toList = true := by decide
  have parts : buttonOpening.toList = "<td>".toList ++ '<' :: formAttributes := by decide
  rw [formless, Bool.and_eq_true] at closed
  intro rest
  rw [spelled, parts]
  simp only [List.append_assoc, List.cons_append]
  rw [formlessActions cell, formRead (actionInert target) closed.2]
  rfl

theorem fixtureAction (key : FixtureKey) :
    actionOf (.fixture key) = "/play/fixture/".toList ++
      ((Form.encodeSegment key.league).toList ++ '/' :: (Whole.text key.id.toNat).toList) := by
  have names : "/play/fixture/".toList =
      '/' :: ("play".toList ++ '/' :: ("fixture".toList ++ ['/'])) := by simp
  rw [actionOf, button, String.toList_ofList, names]
  simp only [buttonNames, List.map_cons, List.map_nil, Text.join, List.append_assoc,
    List.cons_append, List.nil_append]

theorem streamAction (key : StreamKey) :
    actionOf (.stream key) = "/play/stream/".toList ++ (Form.encodeSegment key.text).toList := by
  have names : "/play/stream/".toList =
      '/' :: ("play".toList ++ '/' :: ("stream".toList ++ ['/'])) := by simp
  rw [actionOf, button, String.toList_ofList, names]
  simp only [buttonNames, List.map_cons, List.map_nil, Text.join, List.append_assoc,
    List.cons_append, List.nil_append]

theorem watchCarries (key : FixtureKey) : Carries (Schedule.watchHtml key) [.fixture key] := by
  have opening : "<td><form method=\"post\" action=\"/play/fixture/" =
      buttonOpening ++ "/play/fixture/" := rfl
  have slash : "/".toList = ['/'] := rfl
  have closed := spelledFormless
    (s := "\"><button type=\"submit\" class=\"btn btn-outline-primary\">Watch</button></form></td>")
    rfl (by decide +kernel)
  refine formCarries rfl closed ?_
  simp only [Schedule.watchHtml, chars, Piece.chars, List.flatMap_cons, List.flatMap_nil, opening,
    String.toList_append, segmentEscaped, fixtureAction, slash, List.append_assoc, List.append_nil,
    List.cons_append, List.nil_append]

theorem streamCarries {r : StreamTable.Row} {key : StreamKey} (shown : r.key = some key)
    (plain : ∀ c ∈ key.text.toList, c.isAlphanum = true) : Carries r.actionHtml [.stream key] := by
  have opening : "<td><form method=\"post\" action=\"/play/stream/" =
      buttonOpening ++ "/play/stream/" := rfl
  have closed : formless "\"><button type=\"submit\" class=\"".toList = true :=
    spelledFormless rfl (by decide)
  have form : Carries [.markup "<td><form method=\"post\" action=\"/play/stream/",
      .markup key.text, .markup "\"><button type=\"submit\" class=\""] [.stream key] := by
    refine formCarries rfl closed ?_
    simp only [chars, Piece.chars, List.flatMap_cons, List.flatMap_nil, opening,
      String.toList_append, streamAction, Form.plainSegment plain, List.append_assoc,
      List.append_nil]
  have label : Carries [.markup r.style, .markup "\">", .markup r.label,
      .markup "</button></form></td>"] [] := by
    unfold StreamTable.Row.style StreamTable.Row.label
    cases r.live <;> exact silentCarries rfl
  have whole := carriesAppend form label
  rw [List.append_nil] at whole
  rw [StreamTable.Row.actionHtml, shown]
  exact whole

theorem scheduleRowCarries (r : Schedule.Row) : Carries r.html r.target?.toList := by
  have cells : Carries [.markup r.opening, .text r.date, .markup "</div><div>", .text r.time,
      .markup "</div></th><td>", .text r.home, .markup "</td><td>", .text r.away,
      .markup "</td><td>", .text r.venue, .markup "</td><td>", .text r.score,
      .markup "</td>"] [] := by
    refine silentCarries ?_
    unfold Schedule.Row.opening
    split
    · rfl
    split
    · rfl
    · rfl
  have action : Carries r.actionHtml r.target?.toList := by
    unfold Schedule.Row.actionHtml Schedule.Row.target?
    cases r.watch with
    | none => exact silentCarries rfl
    | some key =>
      cases r.disabled with
      | true => exact silentCarries rfl
      | false => exact watchCarries key
  have ending : Carries [.markup "</tr>"] [] := silentCarries rfl
  have whole := carriesAppend (carriesAppend cells action) ending
  rwa [List.nil_append, List.append_nil] at whole

theorem streamRowCarries (s : Stream) (i : Nat) :
    Carries (StreamTable.row s i).html (StreamTable.row s i).target?.toList := by
  have cells (r : StreamTable.Row) : Carries [.markup "<tr><td>", .text r.date,
      .markup "</td><td>", .text r.description, .markup "</td>"] [] := silentCarries rfl
  have action : Carries (StreamTable.row s i).actionHtml (StreamTable.row s i).target?.toList := by
    rw [StreamTable.Row.target?]
    cases shown : (StreamTable.row s i).key with
    | none =>
      rw [StreamTable.Row.actionHtml, shown]
      exact silentCarries rfl
    | some key =>
      refine streamCarries shown ?_
      simp only [StreamTable.row] at shown
      split at shown
      · contradiction
      · obtain rfl := Option.some.inj shown
        exact s.keyAlphanum
  have ending : Carries [.markup "</tr>"] [] := silentCarries rfl
  have whole := carriesAppend (carriesAppend (cells (StreamTable.row s i)) action) ending
  rwa [List.nil_append, List.append_nil] at whole

def streamTargets (shot : Snapshot) : List Target :=
  (StreamTable.rows shot.streams).flatMap (·.target?.toList)

def scheduleTargets (c : Scene) (shot : Snapshot) (league : String) : List Target :=
  (Schedule.rows shot.leagues league c.now c.recorded c.site.history).flatMap (·.target?.toList)

def pageTargets (c : Scene) (shot : Snapshot) : List Target :=
  streamTargets shot ++ shot.leagues.names.flatMap (scheduleTargets c shot)

theorem streamsCarries (shot : Snapshot) :
    Carries (Page.streamsHtml shot) (streamTargets shot) := by
  rw [Page.streamsHtml, StreamTable.rowsHtml, streamTargets, StreamTable.rows, List.flatMap_map]
  exact carriesFlatMap fun p => streamRowCarries p.1 p.2

theorem scheduleCarries (c : Scene) (shot : Snapshot) (league : String) :
    Carries (Page.scheduleHtml shot c.recorded c.site.history c.now league)
      (scheduleTargets c shot league) := carriesFlatMap scheduleRowCarries

def frame : List String :=
  [Page.headMarkup, Page.titleMarkup, Page.videoMarkup, Page.streamsMarkup, Page.footMarkup,
    Schedule.headingMarkup]

set_option maxRecDepth 4000 in
theorem frameFormless : ∀ s ∈ frame, formless s.toList = true := by
  simp only [frame, List.forall_mem_cons]
  exact ⟨spelledFormless rfl (by decide +kernel), spelledFormless rfl (by decide +kernel),
    spelledFormless rfl (by decide +kernel), spelledFormless rfl (by decide +kernel),
    spelledFormless rfl (by decide +kernel), spelledFormless rfl (by decide +kernel), nofun⟩

theorem frameCarries {s : String} (mem : s ∈ frame) : Carries [.markup s] [] :=
  markupCarries (frameFormless s mem)

theorem tablesCarries (c : Scene) (shot : Snapshot) :
    Carries (Schedule.tablesHtml shot.leagues c.now c.recorded c.site.history)
      (shot.leagues.names.flatMap (scheduleTargets c shot)) := by
  refine carriesFlatMap fun league => ?_
  have name : Carries [.markup "<h4>", .text league] [] := silentCarries rfl
  have ending : Carries [.markup "</tbody></table>"] [] := silentCarries rfl
  have heading : Carries [.markup Schedule.headingMarkup] [] := frameCarries (by simp [frame])
  have table := carriesAppend (carriesAppend (carriesAppend name heading)
    (scheduleCarries c shot league)) ending
  rwa [List.nil_append, List.append_nil] at table

theorem playerCarries (p : Player) : Carries p.html [] := by
  have tags := carriesFlatMap (l := p.sources) fun s => (silentCarries rfl : Carries s.html [])
  rwa [List.flatMap_eq_nil_iff.mpr fun _ _ => rfl] at tags

theorem titleCarries (t : Title) : Carries t.html [] := by
  unfold Title.html
  cases t.live <;> exact silentCarries rfl

theorem pageCarries (c : Scene) (shot : Snapshot) (s : Session) :
    Carries (Page.html shot c.recorded c.site.history c.now s) (pageTargets c shot) := by
  have hidden : Carries [.markup (Page.hiddenMarkup s.visible)] [] := by
    cases s.visible <;> exact silentCarries rfl
  have above : Carries [.markup Page.headMarkup, .markup (Page.hiddenMarkup s.visible),
      .markup Page.titleMarkup] [] :=
    carriesCons (frameCarries (by simp [frame]))
      (carriesCons hidden (frameCarries (by simp [frame])))
  have autoplay : Carries [.markup (if s.player.current?.isSome then "true" else "false")] [] := by
    split <;> exact silentCarries rfl
  have video : Carries [.markup Page.videoMarkup,
      .markup (if s.player.current?.isSome then "true" else "false"),
      .markup Page.sourcesMarkup] [] :=
    carriesCons (frameCarries (by simp [frame])) (carriesCons autoplay (silentCarries rfl))
  have between : Carries [.markup Page.scheduleMarkup] [] := silentCarries rfl
  have whole : Carries (Page.html shot c.recorded c.site.history c.now s)
      ([] ++ [] ++ [] ++ [] ++ [] ++ streamTargets shot ++ [] ++
        shot.leagues.names.flatMap (scheduleTargets c shot) ++ []) := by
    rw [Page.html]
    refine carriesAppend (carriesAppend (carriesAppend (carriesAppend (carriesAppend
      (carriesAppend (carriesAppend (carriesAppend above ?_) video) ?_) ?_) ?_) ?_) ?_) ?_
    · cases s.title with
      | none => exact silentCarries rfl
      | some t => exact titleCarries t
    · exact playerCarries s.player
    · exact frameCarries (by simp [frame])
    · exact streamsCarries shot
    · exact between
    · exact tablesCarries c shot
    · exact frameCarries (by simp [frame])
  simpa only [pageTargets, List.nil_append, List.append_nil] using whole

end Server
end MatchGuide
