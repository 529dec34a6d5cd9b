import SigCheck.Main
import SigCheck.Proofs.Comparable
import SigCheck.Proofs.Frame
import SigCheck.Proofs.RoundTrip
import SigCheck.Proofs.Compatibility
import SigCheck.Proofs.Correspondence
import SigCheck.Proofs.Coupling
import SigCheck.Proofs.Sharing
import SigCheck.Proofs.Unlabelled
import SigCheck.Proofs.Canonicalisation
import SigCheck.Proofs.Resolution
import SigCheck.Proofs.Weakening
import SigCheck.Proofs.Latch
import SigCheck.Proofs.Declarations
import SigCheck.Proofs.FrontEnds
import SigCheck.Proofs.Stack
import SigCheck.Proofs.Lossless
import SigCheck.Proofs.Bodies
import SigCheck.Proofs.FirstMismatch
import SigCheck.Proofs.Locations
import SigCheck.Proofs.Returns
import SigCheck.Proofs.FieldOrder
import SigCheck.Proofs.Arguments
import SigCheck.Proofs.WellFormedness
import SigCheck.Proofs.Recovery
import SigCheck.Proofs.Offsets
import SigCheck.Proofs.Wrapping
import SigCheck.Proofs.AsWritten
import SigCheck.Proofs.Spans
import SigCheck.Proofs.Blanks
import SigCheck.Proofs.Reflow
import SigCheck.Proofs.KeyOrder
import SigCheck.Proofs.Literals
