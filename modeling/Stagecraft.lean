import Stagecraft.Main
import Stagecraft.Catalog.InPlace
import Stagecraft.Proofs.Allocation
import Stagecraft.Proofs.Cascade
import Stagecraft.Proofs.Refusal
import Stagecraft.Proofs.Rewriting
import Stagecraft.Proofs.Steps
import Stagecraft.SceneRegistry
import Stagecraft.Proofs.Rollback
import Stagecraft.Proofs.Safety
import Stagecraft.Proofs.Script.Parts
import Stagecraft.Proofs.Script.Names
import Stagecraft.Proofs.Script.Soundness
import Stagecraft.Proofs.Script.Runs
import Stagecraft.Proofs.Script.Loading
import Stagecraft.Proofs.Interchange
import Stagecraft.Proofs.Registration
import Stagecraft.Proofs.Snapshots
import Stagecraft.Proofs.Population
import Stagecraft.Proofs.Copies
import Stagecraft.Proofs.Frames
import Stagecraft.Proofs.Mirroring
import Stagecraft.Proofs.Script.Mirroring
import Stagecraft.Proofs.Twins
import Stagecraft.Proofs.Reload
import Stagecraft.Proofs.Confinement
import Stagecraft.Proofs.Blindness
import Stagecraft.Proofs.Integrity
import Stagecraft.Proofs.Script.Integrity
import Stagecraft.Proofs.Script.RoundTrip
import Stagecraft.Proofs.Course
import Stagecraft.Proofs.Limits
import Stagecraft.Proofs.Overflow
import Stagecraft.Proofs.Attendance
import Stagecraft.Proofs.Script.Emission
import Stagecraft.Proofs.Script.Budgets
import Stagecraft.Proofs.Script.TypeSafety
import Stagecraft.Proofs.Script.Staging
import Stagecraft.Script.InPlace
import Stagecraft.Proofs.Contents
import Stagecraft.Proofs.Script.Lens
import Stagecraft.Proofs.Script.Odometer
import Stagecraft.Proofs.Script.Combinations
import Stagecraft.Proofs.Script.InPlace
import Stagecraft.Proofs.Script.Failures
import Stagecraft.Proofs.Script.Forecasts
import Stagecraft.Catalog.Loading
import Stagecraft.Proofs.Script.Transactions
import Stagecraft.Proofs.Script.Fields
import Stagecraft.Proofs.Script.Vocabulary
import Stagecraft.Proofs.Decoding
import Stagecraft.Proofs.Script.Precedence
import Stagecraft.Proofs.Script.Layout
import Stagecraft.Proofs.Script.LogicalLines
import Stagecraft.Proofs.Script.Pieces
import Stagecraft.Proofs.Script.Spans
import Stagecraft.Proofs.Script.Complaints
import Stagecraft.Proofs.Census
import Stagecraft.Proofs.Ledgers
import Stagecraft.Proofs.Matching
import Stagecraft.Proofs.Tenure
