import Choreography.Diagnostic
import Choreography.Main
import Choreography.Proofs.Generation
import Choreography.Proofs.Identity
import Choreography.Proofs.RoundTrip
import Choreography.Proofs.Saving.Clash
import Choreography.Proofs.Session.Pending
import Choreography.Proofs.Session.Refusals
import Choreography.Run
import Choreography.SaveQueue
import Choreography.Session
import Choreography.Proofs.Saving.Failure
import Choreography.Proofs.Saving.Regeneration
import Choreography.Proofs.Backend.Declarations
import Choreography.Proofs.Backend.Interfaces
import Choreography.Proofs.Coverage
import Choreography.Proofs.Backend.Omission
import Choreography.Proofs.Containment
import Choreography.Proofs.Loading
import Choreography.Proofs.Saving.Queue
import Choreography.Proofs.SameModel
import Choreography.Proofs.Session.Replay
import Choreography.Proofs.Session.Gestures
import Choreography.Proofs.Backend.Exports
import Choreography.Proofs.Backend.Comments
import Choreography.Proofs.Backend.Index
import Choreography.Proofs.Growth
import Choreography.Proofs.Saving.Rerun
import Choreography.Proofs.Faults
import Choreography.Proofs.Independence
import Choreography.Proofs.Unseen
import Choreography.Proofs.Attachment
import Choreography.Proofs.StepEdits
import Choreography.Proofs.Backend.Quoting
import Choreography.Proofs.Backend.Stems
import Choreography.Proofs.Naming.Search
import Choreography.Proofs.Naming.Canonical
import Choreography.Proofs.Labels
import Choreography.Proofs.Fresh
