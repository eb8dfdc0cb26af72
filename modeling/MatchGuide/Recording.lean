import MatchGuide.Fixture.Basic
import MatchGuide.Store.Files
import MatchGuide.Stream.Basic

/-! Recordings of matches, kept by the number of the fixture: for each an HLS playlist, a DASH
manifest, or both. -/
namespace MatchGuide

inductive Recordings where
  | none
  | folder (root : String)
  deriving DecidableEq, Repr

namespace Recordings

def hlsName (id : UInt32) : String := s!"{id.toNat}.m3u8"

def dashName (id : UInt32) : String := s!"{id.toNat}.mpd"

def hlsPath (root : String) (id : UInt32) : String :=
  Path.inside (Path.inside root "hls") (hlsName id)

def dashPath (root : String) (id : UInt32) : String :=
  Path.inside (Path.inside root "dash") (dashName id)

def has (r : Recordings) (store : Store) (f : Fixture) : Bool :=
  match r, f.id with
  | folder root, some id => store.exists? (hlsPath root id) || store.exists? (dashPath root id)
  | _, _ => false

def sources (id : UInt32) : List Source :=
  [⟨.hls, "recordings/hls/" ++ hlsName id⟩, ⟨.dash, "recordings/dash/" ++ dashName id⟩]

end Recordings
end MatchGuide
