import MatchGuide.Calendar.Instant
import MatchGuide.Digest
import MatchGuide.Json.Printer
import MatchGuide.Media

/-! Videos to watch, each with the sources it can be played from. -/
namespace MatchGuide

structure Source where
  media : Media
  url : String
  deriving DecidableEq, Repr

structure Stream where
  description : String
  date : Instant
  live : Bool
  sources : List Source
  deriving DecidableEq

structure StreamKey where
  text : String
  deriving DecidableEq, Repr

namespace Stream

def sourceBytes (s : Source) : Bytes :=
  Utf8.encode s.media.shortName ++ 0 :: Utf8.encode s.url ++ [0]

/-- What identifies a stream, as bytes: description, date in seconds, live flag and sources. Texts
end in a zero byte. -/
def content (s : Stream) : Bytes :=
  Utf8.encode s.description ++ 0 :: Digest.bigEndian 8 (s.date.seconds % UInt64.size).toNat ++
    (if s.live then 1 else 0) :: s.sources.flatMap sourceBytes

def hexByte (b : UInt8) : List Char := [Json.lowHex (b.toNat / 16), Json.lowHex (b.toNat % 16)]

def key (s : Stream) : StreamKey :=
  ⟨.ofList (((Digest.sha256 s.content).take 8).flatMap hexByte)⟩

end Stream
end MatchGuide
