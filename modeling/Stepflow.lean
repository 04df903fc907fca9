import Stepflow.Http.Service
import Stepflow.Proofs.Dependencies
import Stepflow.Proofs.TimeRange
import Stepflow.Proofs.Wire
import Stepflow.Proofs.Graph
import Stepflow.Proofs.Import
import Stepflow.Proofs.Wiring
import Stepflow.Proofs.Export
import Stepflow.Proofs.Record
import Stepflow.Proofs.Round
import Stepflow.Proofs.RoundTrip
import Stepflow.Proofs.Rewire
import Stepflow.Proofs.Finding
import Stepflow.Proofs.Recheck
import Stepflow.Proofs.Clear
import Stepflow.Proofs.FixedPoint
import Stepflow.Proofs.Sound
import Stepflow.Proofs.Run
import Stepflow.Proofs.Writable
import Stepflow.Proofs.Reader
import Stepflow.Proofs.Failure
import Stepflow.Proofs.Answer
import Stepflow.Proofs.Atomic
import Stepflow.Proofs.Document
import Stepflow.Proofs.Image
import Stepflow.Proofs.Isomorphism
import Stepflow.Proofs.Placeholder
import Stepflow.Proofs.Hints
import Stepflow.Proofs.SinglePath
import Stepflow.Proofs.Restored
import Stepflow.Proofs.Complete
import Stepflow.Proofs.Upload
import Stepflow.Proofs.Recency
import Stepflow.Proofs.OneHop
import Stepflow.Proofs.FieldEdit
import Stepflow.Proofs.NewStep
import Stepflow.Proofs.LocalEdit
import Stepflow.Proofs.Antitone
import Stepflow.Proofs.Layout
import Stepflow.Proofs.WholeFlow
import Stepflow.Proofs.Highlight
import Stepflow.Proofs.Profile
import Stepflow.Proofs.Spelling
import Stepflow.Proofs.Bench
