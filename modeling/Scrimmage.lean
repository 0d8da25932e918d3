import Scrimmage.Main
import Scrimmage.Metrics.Exposition
import Scrimmage.Practice
import Scrimmage.Rehearsal
import Scrimmage.Proofs.Play
import Scrimmage.Proofs.Transcript
import Scrimmage.Proofs.Changes
import Scrimmage.Proofs.Upkeep
import Scrimmage.Proofs.Hall
import Scrimmage.Proofs.Views
import Scrimmage.Proofs.Refusals
import Scrimmage.Proofs.Isolation
import Scrimmage.Proofs.Supervision
import Scrimmage.Proofs.Attendance
import Scrimmage.Proofs.Moves
import Scrimmage.Proofs.Lifecycle
import Scrimmage.Proofs.Succession
import Scrimmage.Proofs.Gauge
import Scrimmage.Proofs.Closing
import Scrimmage.Proofs.Shutdown
import Scrimmage.Proofs.Values
import Scrimmage.Proofs.Rereading
import Scrimmage.Proofs.Parsed
import Scrimmage.Proofs.Notices
import Scrimmage.Proofs.Applications
import Scrimmage.Proofs.Visits
import Scrimmage.Proofs.Bookkeeping
import Scrimmage.Proofs.SuspendedRequests
import Scrimmage.Proofs.Parties
import Scrimmage.Proofs.Duties
import Scrimmage.Proofs.Lives
import Scrimmage.Proofs.Letters
import Scrimmage.Proofs.Frames
import Scrimmage.Proofs.Echo
import Scrimmage.Proofs.Balance
import Scrimmage.Proofs.Announcement
import Scrimmage.Proofs.Rush
import Scrimmage.Proofs.Reaping
import Scrimmage.Proofs.Classification
import Scrimmage.Proofs.Drafts
import Scrimmage.Proofs.Correlation
import Scrimmage.Proofs.Deadlines
import Scrimmage.Proofs.Backlog
import Scrimmage.Proofs.SessionRuns
import Scrimmage.Proofs.Totals
import Scrimmage.Proofs.Fullness
import Scrimmage.Proofs.Search
import Scrimmage.Proofs.Variables
import Scrimmage.Proofs.Making
import Scrimmage.Proofs.PackageSteps
import Scrimmage.Proofs.Legibility
