import CrateGuard.Main
import CrateGuard.Proofs.Calendar.ReviewDeadline
import CrateGuard.Proofs.Source.Replay
import CrateGuard.Proofs.Gate.Sessions
import CrateGuard.Proofs.Gate.AuditVerdict
import CrateGuard.Proofs.Gate.WatchVerdict
import CrateGuard.Proofs.Freshness.Completion
import CrateGuard.Proofs.Freshness.Modes
import CrateGuard.Proofs.Gate.WatchModes
import CrateGuard.Proofs.Gate.GraphOrder
import CrateGuard.Proofs.Advisory.Rearrangement
import CrateGuard.Proofs.Gate.AuditCompletion
import CrateGuard.Proofs.Graph.Records
import CrateGuard.Proofs.Report.SummaryTable
import CrateGuard.Proofs.Freshness.Spelling
import CrateGuard.Proofs.Gate.WatchSpelling
import CrateGuard.Proofs.Advisory.Rulings
import CrateGuard.Proofs.Advisory.ReviewDates
import CrateGuard.Proofs.Freshness.Batch
import CrateGuard.Proofs.Advisory.ExactAllow
import CrateGuard.Proofs.Version.Printing
import CrateGuard.Proofs.Version.Sorting
import CrateGuard.Proofs.Freshness.Growth
import CrateGuard.Proofs.Report.TableRows
import CrateGuard.Proofs.Gate.WatchStreams
import CrateGuard.Proofs.Gate.AuditStreams
import CrateGuard.Proofs.Advisory.ReportShape
import CrateGuard.Proofs.Settings.PolicyLoading
import CrateGuard.Proofs.Release.Replies
import CrateGuard.Proofs.Calendar.Timestamps
import CrateGuard.Proofs.Gate.TableFile
import CrateGuard.Proofs.Version.CanonicalText
import CrateGuard.Proofs.Settings.WatchlistLoading
import CrateGuard.Proofs.Graph.VersionSets
