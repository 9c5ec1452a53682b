import WireSketch.Call.Library
import WireSketch.Fit.Font
import WireSketch.Main
import WireSketch.Proofs.Call.CursorRun
import WireSketch.Proofs.Call.Naming
import WireSketch.Proofs.Call.Shifted
import WireSketch.Proofs.Command.Outcome
import WireSketch.Proofs.Document.Readable
import WireSketch.Proofs.Drawing.BoxLabel
import WireSketch.Proofs.Drawing.Centred
import WireSketch.Proofs.Drawing.Coordinate
import WireSketch.Proofs.Drawing.Headers
import WireSketch.Proofs.Drawing.Row
import WireSketch.Proofs.Drawing.RowHeader
import WireSketch.Proofs.Drawing.Spans
import WireSketch.Proofs.Fit.Cache
import WireSketch.Proofs.Fit.Check
import WireSketch.Proofs.Format.Limit
import WireSketch.Proofs.Script.Augmented
import WireSketch.Proofs.Script.Blame
import WireSketch.Proofs.Script.Budget
import WireSketch.Proofs.Script.CallFree
import WireSketch.Proofs.Script.Display
import WireSketch.Proofs.Script.Growth
import WireSketch.Proofs.Script.Loop
import WireSketch.Proofs.Script.Registry
import WireSketch.Proofs.Script.Unreported
