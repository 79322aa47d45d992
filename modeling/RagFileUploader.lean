import RagFileUploader.Application.CommitPoint
import RagFileUploader.Serial.Uploaded
import RagFileUploader.Serial.Balance
import RagFileUploader.Sessions.Expiry
import RagFileUploader.Sessions.Resurrection
import RagFileUploader.Serial.Orphans
import RagFileUploader.Serial.Client
import RagFileUploader.Concurrent.Retries
import RagFileUploader.Concurrent.Serialised
import RagFileUploader.Concurrent.Absorbing
import RagFileUploader.Concurrent.Racing
import RagFileUploader.Concurrent.Published
import RagFileUploader.Workspaces.Neighbours
import RagFileUploader.Workspaces.Noninterference
import RagFileUploader.Workspaces.OneByOne
import RagFileUploader.Concurrent.Duplicates
import RagFileUploader.Contracts.Rejections
import RagFileUploader.Contracts.Aborts
import RagFileUploader.Concurrent.Overshoot
import RagFileUploader.Concurrent.Clamping
import RagFileUploader.Contracts.Initiation
import RagFileUploader.Contracts.Settling
import RagFileUploader.Contracts.DeadLetters
import RagFileUploader.Contracts.RoundTrip
import RagFileUploader.Contracts.Assembly
import RagFileUploader.Contracts.Statuses
import RagFileUploader.Contracts.Validation
import RagFileUploader.Contracts.Lifecycle
import RagFileUploader.Contracts.Keys
import RagFileUploader.Contracts.Claims
import RagFileUploader.Contracts.StoredMetadata
import RagFileUploader.Contracts.StoredSessions
import RagFileUploader.Contracts.Checksums
import RagFileUploader.Contracts.Subjects
import RagFileUploader.Contracts.Manifests
import RagFileUploader.Contracts.Formats
import RagFileUploader.Contracts.Completeness
