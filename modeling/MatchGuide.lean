import MatchGuide.Main
import MatchGuide.Proofs.FixtureCache
import MatchGuide.Proofs.Loading
import MatchGuide.Proofs.Numeral
import MatchGuide.Proofs.Visitors
import MatchGuide.Feed.Cache
import MatchGuide.Proofs.DraftPath
import MatchGuide.Proofs.FileWalk
import MatchGuide.Proofs.CacheWrite
import MatchGuide.Proofs.CacheRefresh
import MatchGuide.Proofs.Choice
import MatchGuide.Proofs.Sessions
import MatchGuide.Proofs.QueryText
import MatchGuide.Proofs.PlayRoutes
import MatchGuide.Proofs.Markup
import MatchGuide.Proofs.Buttons
import MatchGuide.Proofs.Upstream
import MatchGuide.Proofs.StreamKeys
import MatchGuide.Proofs.KeyedChoice
import MatchGuide.Proofs.Upcoming
import MatchGuide.Proofs.ScheduleRows
import MatchGuide.Proofs.Canonical
import MatchGuide.Proofs.Spelling
import MatchGuide.Proofs.FixtureSpelling
import MatchGuide.Proofs.MediaSpelling
import MatchGuide.Proofs.StreamSpelling
import MatchGuide.Proofs.Acceptance
import MatchGuide.Proofs.TableText
import MatchGuide.Proofs.Marks
import MatchGuide.Proofs.Reading
import MatchGuide.Proofs.WatchKeys
import MatchGuide.Proofs.PlayerView
import MatchGuide.Proofs.Fragments
import MatchGuide.Proofs.Calendar
import MatchGuide.Proofs.UrlPath
import MatchGuide.Proofs.UrlFrame
import MatchGuide.Proofs.UrlText
import MatchGuide.Proofs.BasePath
import MatchGuide.Proofs.RecordingFiles
import MatchGuide.Proofs.StartUp
import MatchGuide.Proofs.MediaNames
import MatchGuide.Proofs.PathSegment
