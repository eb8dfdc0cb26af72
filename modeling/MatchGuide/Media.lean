import MatchGuide.Text.Blank
import MatchGuide.Text.Letter
import MatchGuide.Text.Split

/-! Formats of a video, by the tag that names them or by the address of the file. -/
namespace MatchGuide

inductive Media where
  | hls
  | dash
  | mp4
  | other (tag : String)
  deriving DecidableEq, Repr

namespace Media

def aliases : List (String × Media) :=
  [("hls", hls), ("application/x-mpegurl", hls), ("application/vnd.apple.mpegurl", hls),
    ("dash", dash), ("application/dash+xml", dash), ("mp4", mp4), ("video/mp4", mp4)]

def ofTag (tag : String) : Media :=
  let spelling := String.ofList (Text.lower (Text.closeUp tag.toList))
  match aliases.lookup spelling with
  | some m => m
  | none => other (.ofList (Text.trim tag.toList))

def extensions : List (String × Media) :=
  [("m3u8", hls), ("m3u", hls), ("mpd", dash), ("dash", dash), ("mp4", mp4)]

def ofUrl? (url : String) : Option Media := do
  let path := url.toList.takeWhile fun c => c != '?' && c != '#'
  let ext ← Text.afterLast? (· == '.') path
  extensions.lookup (.ofList (Text.lower ext))

def mime : Media → String
  | hls => "application/x-mpegURL"
  | dash => "application/dash+xml"
  | mp4 => "video/mp4"
  | other tag => tag

def shortName : Media → String
  | hls => "hls"
  | dash => "dash"
  | mp4 => "mp4"
  | other tag => tag

end Media
end MatchGuide
