import MatchGuide.Json.Printer
import MatchGuide.Page.Schedule
import MatchGuide.Page.StreamTable
import MatchGuide.Selection

/-! The page as one visitor sees it: the player, the streams and the schedules. -/
namespace MatchGuide.Page

structure PlayerState where
  title : Option Title
  visible : Bool
  playing : Bool
  sources : List PlayerSource
  deriving DecidableEq, Repr

def playerState (s : Session) : PlayerState :=
  ⟨s.title, s.visible, s.player.playing, s.player.sources⟩

def PlayerState.json (p : PlayerState) : Json :=
  .object [
    ("title", match p.title with
      | some t => .object [("text", .string t.text), ("live", .bool t.live)]
      | none => .null),
    ("visible", .bool p.visible),
    ("playing", .bool p.playing),
    ("sources", .array (p.sources.map fun s =>
      .object [("type", .string s.mime), ("src", .string s.src)]))]

def scheduleHtml (shot : Snapshot) (recorded : Fixture → Bool) (history : Option Nat)
    (now : Instant) (league : String) : Html :=
  Schedule.html (Schedule.rows shot.leagues league now recorded history)

def streamsHtml (shot : Snapshot) : Html := StreamTable.html (StreamTable.rows shot.streams)

def headMarkup : String :=
"<!doctype html>
<html lang=\"en\">
<head>
<meta charset=\"utf-8\">
<meta name=\"viewport\" content=\"width=device-width, initial-scale=1, shrink-to-fit=no\">
<link rel=\"stylesheet\" href=\"https://cdn.jsdelivr.net/npm/bootstrap@4.3.1/dist/css/bootstrap.min.css\">
<link rel=\"stylesheet\" href=\"https://vjs.zencdn.net/7.18.1/video-js.css\">
<title>Matchday Streaming</title>
<style>tr.disabled \x7b opacity: .5; \x7d</style>
</head>
<body>
<nav class=\"navbar navbar-expand-md navbar-dark bg-dark\"><a class=\"navbar-brand\" href=\"/\">Matchday Streaming</a></nav>
<div class=\"container pt-4\">
  <div id=\"video_container\" class=\"row"

def titleMarkup : String :=
"\">
    <h4 id=\"current_title\" class=\"col-12\">"

def videoMarkup : String :=
"</h4>
    <div class=\"col-12 embed-responsive embed-responsive-16by9\">
      <video-js id=\"video_player\" class=\"vjs-default-skin embed-responsive-item\" controls preload=\"auto\" data-autoplay=\""

def sourcesMarkup : String := "\">"

def streamsMarkup : String :=
"</video-js>
    </div>
  </div>
  <div class=\"row pt-5\">
    <h4 class=\"col-12\">Streams</h4>
    <table class=\"table table-responsive-md table-hover\">
      <thead><tr><th scope=\"col\">Date</th><th scope=\"col\">Description</th><th scope=\"col\"></th></tr></thead>
      <tbody id=\"streams_table\">"

def scheduleMarkup : String :=
"</tbody>
    </table>
  </div>
  <div class=\"row pt-5\"><div class=\"col-12\" id=\"schedule\">"

def footMarkup : String :=
"</div></div>
</div>
<script src=\"https://vjs.zencdn.net/7.18.1/video.min.js\"></script>
<script src=\"/static/player.js\"></script>
</body>
</html>"

def hiddenMarkup (visible : Bool) : String := if visible then "" else " d-none"

def html (shot : Snapshot) (recorded : Fixture → Bool) (history : Option Nat) (now : Instant)
    (s : Session) : Html :=
  [.markup headMarkup, .markup (hiddenMarkup s.visible), .markup titleMarkup] ++
  (match s.title with
    | some t => t.html
    | none => []) ++
  [.markup videoMarkup, .markup (if s.player.current?.isSome then "true" else "false"),
    .markup sourcesMarkup] ++
  s.player.html ++ [.markup streamsMarkup] ++
  streamsHtml shot ++ [.markup scheduleMarkup] ++
  Schedule.tablesHtml shot.leagues now recorded history ++ [.markup footMarkup]

end MatchGuide.Page
