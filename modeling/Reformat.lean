import Reformat.CommandLine.Run
import Reformat.Edit.Substitution
import Reformat.Main
import Reformat.Proofs.Acceptance
import Reformat.Proofs.Baseline
import Reformat.Proofs.Bounds
import Reformat.Proofs.Carrying
import Reformat.Proofs.Consultation
import Reformat.Proofs.Coordinates
import Reformat.Proofs.Culprit
import Reformat.Proofs.Cursor
import Reformat.Proofs.Delivery
import Reformat.Proofs.Forward
import Reformat.Proofs.History
import Reformat.Proofs.InsertedBreaks
import Reformat.Proofs.LastChange
import Reformat.Proofs.Layering
import Reformat.Proofs.LineBreaks
import Reformat.Proofs.Loading
import Reformat.Proofs.Ranges
import Reformat.Proofs.Recognition
import Reformat.Proofs.Reload
import Reformat.Proofs.Report
import Reformat.Proofs.ReportedCursor
import Reformat.Proofs.Retention
import Reformat.Proofs.Selection
import Reformat.Proofs.Toolchain
import Reformat.Proofs.Translation
import Reformat.Proofs.Truncation
import Reformat.Proofs.Unsaved
import Reformat.Tool.Recorded
