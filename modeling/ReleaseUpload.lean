import ReleaseUpload.Dictionary.Lookup
import ReleaseUpload.Json.Reading
import ReleaseUpload.Reaper
import ReleaseUpload.Settings.Document
import ReleaseUpload.Settings.Loading
import ReleaseUpload.Text.Utf8
import ReleaseUpload.UploadSession.Status
import ReleaseUpload.Proofs.FileUpload.Progress
import ReleaseUpload.Proofs.UploadSession.Files
import ReleaseUpload.Proofs.UploadSession.Requests
import ReleaseUpload.Proofs.UploadSession.Cancellation
import ReleaseUpload.Proofs.UploadSession.Runs
import ReleaseUpload.Proofs.UploadSession.Settlement
import ReleaseUpload.Proofs.UploadSession.Publication
import ReleaseUpload.Proofs.Store.Operations
import ReleaseUpload.Proofs.Store.Sweeps
import ReleaseUpload.Proofs.Store.Runs
import ReleaseUpload.Proofs.Store.Consistency
import ReleaseUpload.Proofs.Store.Indexes
import ReleaseUpload.Proofs.Store.Effect
import ReleaseUpload.Proofs.Store.Listings
import ReleaseUpload.Proofs.Store.Settlement
import ReleaseUpload.Proofs.UploadSession.Atomicity
import ReleaseUpload.Proofs.UploadSession.Looks
import ReleaseUpload.Proofs.UploadSession.Visibility
import ReleaseUpload.Proofs.Store.Accounting
import ReleaseUpload.Proofs.Store.Draining
import ReleaseUpload.Proofs.UploadSession.Failures
import ReleaseUpload.Proofs.UploadSession.Recovery
import ReleaseUpload.Proofs.UploadSession.Children
import ReleaseUpload.Proofs.UploadSession.Independence
import ReleaseUpload.Proofs.UploadSession.Deadlines
import ReleaseUpload.Proofs.Store.Extension
import ReleaseUpload.Proofs.Documents
import ReleaseUpload.Proofs.FileUpload.Lifecycle
import ReleaseUpload.Proofs.Store.Sightings
import ReleaseUpload.Proofs.UploadSession.Unblocking
import ReleaseUpload.Proofs.Store.Insertion
import ReleaseUpload.Proofs.Store.Conflicts
import ReleaseUpload.Proofs.Saturation
import ReleaseUpload.Proofs.Countdown
import ReleaseUpload.Proofs.UploadSession.Snapshot
import ReleaseUpload.Proofs.TokenText
import ReleaseUpload.Proofs.IdentifierText
import ReleaseUpload.Proofs.Registrations
import ReleaseUpload.Proofs.UploadSession.Urls
import ReleaseUpload.Proofs.Lifetimes
import ReleaseUpload.Proofs.StartUp
import ReleaseUpload.Proofs.Settings.Overlay
import ReleaseUpload.Proofs.Settings.Variables
import ReleaseUpload.Proofs.Settings.Layering
