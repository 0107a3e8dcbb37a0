import StoneDebug.Adapter.Client
import StoneDebug.Config
import StoneDebug.Foreign.Reply
import StoneDebug.Proofs.Adapter.Announcements
import StoneDebug.Proofs.Adapter.Framing
import StoneDebug.Proofs.Adapter.Ownership
import StoneDebug.Proofs.Adapter.Pending
import StoneDebug.Proofs.Adapter.Responses
import StoneDebug.Proofs.Adapter.Sequence
import StoneDebug.Proofs.Adapter.Suspension
import StoneDebug.Proofs.Debug.Batch
import StoneDebug.Proofs.Debug.Breakpoints
import StoneDebug.Proofs.Debug.Evaluating
import StoneDebug.Proofs.Debug.Failures
import StoneDebug.Proofs.Debug.FrameCache
import StoneDebug.Proofs.Debug.Levels
import StoneDebug.Proofs.Debug.Lifetimes
import StoneDebug.Proofs.Debug.Operations
import StoneDebug.Proofs.Debug.Process
import StoneDebug.Proofs.Debug.Recompiling
import StoneDebug.Proofs.Debug.Requests
import StoneDebug.Proofs.Debug.Resubmission
import StoneDebug.Proofs.Debug.Scopes
import StoneDebug.Proofs.Debug.Traces
import StoneDebug.Proofs.Debug.Windows
import StoneDebug.Proofs.Foreign.Replies
import StoneDebug.Proofs.Oop.Codec
import StoneDebug.Proofs.Oop.Predicates
import StoneDebug.Proofs.Session.Abandoning
import StoneDebug.Proofs.Session.Busy
import StoneDebug.Proofs.Session.Converting
import StoneDebug.Proofs.Session.Fetching
import StoneDebug.Proofs.Session.Paging
import StoneDebug.Proofs.Session.PollTrace
import StoneDebug.Proofs.Session.Registry
import StoneDebug.Proofs.Session.Texts
import StoneDebug.Proofs.Source.LineTable
import StoneDebug.Proofs.Source.Locations
import StoneDebug.Proofs.Source.Paths
import StoneDebug.Proofs.Source.Positions
import StoneDebug.Proofs.Source.Scanning
import StoneDebug.Proofs.Source.Selectors
import StoneDebug.Proofs.Traversal.Boundary
import StoneDebug.Proofs.Traversal.Capacity
import StoneDebug.Proofs.Version
import StoneDebug.Script
