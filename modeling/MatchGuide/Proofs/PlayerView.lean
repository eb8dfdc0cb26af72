import MatchGuide.Proofs.Forms
import MatchGuide.Proofs.Reading
import MatchGuide.Proofs.Sessions

/-! The player of a page and the state of the player agree. The page looks at the sources where the
state looks at the play, which is the same in every session that choices lead to. -/
namespace MatchGuide

namespace Html

def attributes : List (List Char) → List (List Char × List Char)
  | name :: value :: more => (name, unescape value) :: attributes more
  | _ => []

def attributesOf (tag : List Char) : List (List Char × List Char) :=
  attributes (Text.split (· == '\x22') tag)

def attribute? (name : String) (tag : List Char) : Option String :=
  ((attributesOf tag).find? fun p => (' ' :: name.toList ++ ['=']).isSuffixOf p.1).map
    fun p => .ofList p.2

def tags (mark page : List Char) : List (Option (List Char)) :=
  (following mark page).map (before? ['>'])

theorem attributesCons {name value : List Char} (named : '\x22' ∉ name) (quoted : '\x22' ∉ value)
    (more : List Char) :
    attributesOf (name ++ '\x22' :: (value ++ '\x22' :: more)) =
      (name, unescape value) :: attributesOf more := by
  have quote : ('\x22' == '\x22') = true := rfl
  rw [attributesOf, Text.splitAtSeparator (Text.absentPlain named) quote,
    Text.splitAtSeparator (Text.absentPlain quoted) quote]
  rfl

theorem escapeUnquoted (s : List Char) : '\x22' ∉ escapeChars s :=
  delimiterAbsent rfl (escapeNoDelimiter s)

end Html

namespace Page
open Html

def titleJson : Option Title → Json
  | some t => .object [("text", .string t.text), ("live", .bool t.live)]
  | none => .null

def sourceJson? (tag? : Option (List Char)) : Option Json := do
  let tag ← tag?
  let src ← attribute? "src" tag
  let mime ← attribute? "type" tag
  some (.object [("type", .string mime), ("src", .string src)])

/- What the text of a page and a state of the player say in common. -/
structure Agrees (page : List Char) (state : Json) : Prop where
  container : ∃ tag names, tags containerMark page = [some tag] ∧
    attribute? "class" tag = some names ∧
    ("d-none".toList ∉ Text.split (· == ' ') names.toList ↔ state.field "visible" = .bool true)
  autoplay : ∃ tag value, tags playerMark page = [some tag] ∧
    attribute? "data-autoplay" tag = some value ∧
    (value = "true" ↔ state.field "playing" = .bool true)
  title : ∃ title : Option Title, state.field "title" = titleJson title ∧
    (following titleMark page).map (before? headingEnd) = [some (titleHtml title).chars]
  sources : ∃ list, state.field "sources" = .array list ∧
    (tags sourceMark page).map sourceJson? = list.map some

theorem containerTag (v : View) : tags containerMark v.html.chars =
    [some (" class=\"row".toList ++ ((hiddenMarkup v.session.visible).toList ++ ['\x22']))] := by
  obtain ⟨more, found⟩ := containerFound v
  rw [tags, found]
  cases v.session.visible <;> rfl

set_option maxRecDepth 4000 in
theorem playerTag (v : View) : tags playerMark v.html.chars = [some (playerAttributes ++
    ((if v.session.player.current?.isSome then "true" else "false").toList ++ ['\x22']))] := by
  obtain ⟨more, found⟩ := playerFound v
  rw [tags, found]
  cases v.session.player.current?.isSome <;> rfl

theorem titleRead (v : View) : (following titleMark v.html.chars).map (before? headingEnd) =
    [some (titleHtml v.session.title).chars] := by
  obtain ⟨more, found⟩ := titleFound v
  have clear := titleClear v.session.title headingEnd (.head _)
  rw [found, List.map_singleton, beforeFound clear (by decide)]

def sourceJson (s : PlayerSource) : Json := .object [("type", .string s.mime), ("src", .string s.src)]

def sourceTag (s : PlayerSource) : List Char :=
  " src=".toList ++ '\x22' :: (escapeChars s.src.toList ++ '\x22' ::
    (" type=".toList ++ '\x22' :: (escapeChars s.mime.toList ++ ['\x22'])))

theorem sourceSpelled (s : PlayerSource) : (sourceRest s).chars = sourceTag s ++ ['>'] := by
  have src : " src=\"".toList = " src=".toList ++ ['\x22'] := by decide
  have mime : "\" type=\"".toList = '\x22' :: (" type=".toList ++ ['\x22']) := by decide
  have ending : "\">".toList = ['\x22', '>'] := by decide
  simp only [sourceRest, sourceTag, chars, List.flatMap_cons, List.flatMap_nil, Piece.chars, src, mime,
    ending, List.append_assoc, List.cons_append, List.nil_append]

theorem sourceEnds (s : PlayerSource) (rest : List Char) :
    before? ['>'] ((sourceRest s).chars ++ rest) = some (sourceTag s) := by
  have text (t : String) : '>' ∉ escapeChars t.toList :=
    delimiterAbsent rfl (escapeNoDelimiter t.toList)
  have closed : '>' ∉ sourceTag s := by simp [sourceTag, text]
  rw [sourceSpelled, List.append_assoc, beforeFound (absentLacks closed) (by decide)]

theorem sourceAttributes (s : PlayerSource) :
    attributesOf (sourceTag s) = [(" src=".toList, s.src.toList), (" type=".toList, s.mime.toList)] := by
  rw [sourceTag, attributesCons (by decide) (escapeUnquoted _),
    attributesCons (by decide) (escapeUnquoted _), unescapeEscape, unescapeEscape]
  rfl

theorem sourceHolds (s : PlayerSource) :
    Holds sourceMark (sourceJson? ∘ before? ['>']) s.html [some (sourceJson s)] := by
  refine holdsOne (sourceParted s) (by decide) (by decide) (sourceClear s sourceMark (by decide))
    fun rest => ?_
  have src : attribute? "src" (sourceTag s) = some s.src := by
    rw [attribute?, sourceAttributes, List.find?_cons_of_pos (by dsimp only; decide), Option.map_some,
      String.ofList_toList]
  have mime : attribute? "type" (sourceTag s) = some s.mime := by
    rw [attribute?, sourceAttributes, List.find?_cons_of_neg (by dsimp only; decide),
      List.find?_cons_of_pos (by dsimp only; decide), Option.map_some, String.ofList_toList]
  rw [Function.comp_apply, sourceEnds, sourceJson?, Option.bind_eq_bind, Option.bind_some, src, mime]
  rfl

theorem viewAgrees (v : View) (sound : Sessions.Sound v.session) :
    Agrees v.html.chars (playerState v.session).json where
  container := by
    refine ⟨_, "row" ++ hiddenMarkup v.session.visible, containerTag v, ?_, ?_⟩
    · cases v.session.visible <;> decide
    · rw [playerState]
      cases v.session.visible
      · exact iff_of_false (by decide) fun same => Bool.false_ne_true (Json.bool.inj same)
      · exact iff_of_true (by decide) rfl
  autoplay := by
    refine ⟨_, if v.session.player.current?.isSome then "true" else "false", playerTag v, ?_, ?_⟩
    · cases v.session.player.current?.isSome <;> decide
    · have playing : v.session.player.current?.isSome = v.session.player.playing := by
        rw [Bool.eq_iff_iff, sound.playing, Player.current?, List.isSome_head?]
      rw [playing, playerState]
      cases v.session.player.playing
      · exact iff_of_false (by decide) fun same => Bool.false_ne_true (Json.bool.inj same)
      · exact iff_of_true rfl rfl
  title := by
    refine ⟨v.session.title, ?_, titleRead v⟩
    rw [playerState]
    cases v.session.title <;> rfl
  sources := by
    refine ⟨v.session.player.sources.map sourceJson, rfl, ?_⟩
    rw [tags, List.map_map, sourcesRead sourceHolds, List.map_map]
    rfl

theorem viewsAgree (events : List Sessions.Event) (visitor : Nat) (shot : Snapshot)
    (recorded : Fixture → Bool) (history : Option Nat) (now : Instant) :
    let session := (Sessions.SessionState.run events).sessions visitor
    Agrees (html shot recorded history now session).render.toList (playerState session).json := by
  intro session
  rw [render, String.toList_ofList]
  have sound := Sessions.settledSound (Sessions.runSettled visitor events)
  exact viewAgrees ⟨shot, recorded, history, now, session⟩ sound

end Page
end MatchGuide
