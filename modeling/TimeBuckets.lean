import TimeBuckets.Cursor.Playback
import TimeBuckets.Host.Disk
import TimeBuckets.Main
import TimeBuckets.Proofs.Feed
import TimeBuckets.Proofs.Groups
import TimeBuckets.Proofs.Operation
import TimeBuckets.Proofs.Walk
import TimeBuckets.Proofs.Runs
import TimeBuckets.Proofs.Alignment
import TimeBuckets.Proofs.Grid
import TimeBuckets.Proofs.FixedWidth
import TimeBuckets.Proofs.Seek
import TimeBuckets.Proofs.Dates
import TimeBuckets.Proofs.Units
import TimeBuckets.Proofs.Zones
import TimeBuckets.Proofs.LocalUnits
import TimeBuckets.Proofs.Calendar
import TimeBuckets.Proofs.CalendarSeek
import TimeBuckets.Proofs.Supply
import TimeBuckets.Proofs.Conservation
import TimeBuckets.Proofs.Disorder
import TimeBuckets.Proofs.Agreement
import TimeBuckets.Proofs.Likeness
import TimeBuckets.Proofs.Forgetting
import TimeBuckets.Proofs.Readings
import TimeBuckets.Proofs.Enclosure
import TimeBuckets.Proofs.RunSeek
import TimeBuckets.Proofs.Stranding
import TimeBuckets.Proofs.Retrying
import TimeBuckets.Proofs.Faults
import TimeBuckets.Proofs.Validation
import TimeBuckets.Proofs.Course
import TimeBuckets.Proofs.CalendarCourse
import TimeBuckets.Proofs.Delivery
import TimeBuckets.Proofs.Rest
import TimeBuckets.Proofs.Layers
import TimeBuckets.Proofs.Nesting
import TimeBuckets.Proofs.Rounding
import TimeBuckets.Proofs.Waning
import TimeBuckets.Proofs.Midnights
import TimeBuckets.Proofs.Insisting
import TimeBuckets.Proofs.FailedReads
import TimeBuckets.Proofs.FailedRuns
import TimeBuckets.Proofs.Loading
import TimeBuckets.Proofs.Patterns
import TimeBuckets.Proofs.Hours
import TimeBuckets.Proofs.Following
import TimeBuckets.Proofs.Signs
import TimeBuckets.Proofs.Elapsed
import TimeBuckets.Proofs.Rollover
import TimeBuckets.Proofs.Numerals
import TimeBuckets.Proofs.Spelling
import TimeBuckets.Proofs.RateText
import TimeBuckets.Proofs.Tallies
import TimeBuckets.Proofs.Differences
import TimeBuckets.Proofs.Tiling
import TimeBuckets.Proofs.Remaining
import TimeBuckets.Proofs.Laziness
