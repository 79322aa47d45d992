import RagFileUploader.Infrastructure.DeduplicationStore
import RagFileUploader.Infrastructure.StorageClient
import RagFileUploader.Application.InitiateUpload
import RagFileUploader.Application.ProcessChunk
import RagFileUploader.Application.CompleteUpload
import RagFileUploader.Application.AbortUpload

/-!
# The service

The use cases over the real infrastructure, as programs, and serial runs of them: one call after
another, each against its own list of faults, with time passing between calls.
-/

namespace RagFileUploader

open Effects

def publisherPort : IEventPublisher Service where
  publish := fun event => send (.publish event)

def redisPort : RedisClient Service where
  set := fun key data ttlSeconds => send (.setChunk key data ttlSeconds)
  get := fun key => send (.getChunk key)
  delete := fun key => send (.deleteChunk key)

def runtimePort : Runtime Service where
  uuid4 := send .uuid4
  now := send .now

/-- The dependencies that the composition root hands to the use cases. -/
def dependencies (settings : Settings) : Dependencies Service where
  sessionStore := RedisSessionStore.port
  storageClient := S3StorageClient.port settings
  dedupStore := RedisDeduplicationStore.port
  eventPublisher := publisherPort
  rateLimiter := RedisRateLimiter.port settings
  redis := redisPort
  runtime := runtimePort

/-- A call of one of the four use cases. -/
inductive Call where
  | initiate (request : InitiateUploadRequest)
  | processChunk (request : ProcessChunkRequest)
  | complete (request : CompleteUploadRequest)
  | abort (workspaceId sessionId : UUID)
  deriving DecidableEq

/-- What a call returns. -/
inductive Response where
  | initiated (response : InitiateUploadResponse)
  | chunkProcessed (response : ProcessChunkResponse)
  | completed (response : CompleteUploadResponse)
  | aborted
  deriving DecidableEq

def Call.program (settings : Settings) : Call → Service Response
  | .initiate request =>
      .initiated <$> InitiateUploadUseCase.execute (dependencies settings) request
  | .processChunk request =>
      .chunkProcessed <$> ProcessChunkUseCase.execute (dependencies settings) request
  | .complete request =>
      .completed <$> CompleteUploadUseCase.execute (dependencies settings) request
  | .abort workspaceId sessionId =>
      (fun _ => .aborted) <$> AbortUploadUseCase.execute (dependencies settings) workspaceId
        sessionId

/-- A step of a serial run: a whole call with the faults it meets, or time passing. -/
inductive Op where
  | call (call : Call) (faults : List (Option Fault))
  | tick (ms : ℕ)

/-- A call and its outcome. -/
structure Record where
  call : Call
  result : Except Exc Response

/-- The state of a run: the world and the calls so far, newest first. -/
structure Run where
  world : World
  history : List Record

namespace Run

/-- A run that has not started. -/
def start : Run := ⟨.empty, []⟩

/-- One call, alone. -/
def call (env : Environment) (settings : Settings) (σ : World) (c : Call)
    (faults : List (Option Fault)) : Except Exc Response × World :=
  (c.program settings).run (serviceMachine env) faults σ

def step (env : Environment) (settings : Settings) (run : Run) : Op → Run
  | .call c faults =>
      let out := call env settings run.world c faults
      ⟨out.2, ⟨c, out.1⟩ :: run.history⟩
  | .tick ms => { run with world := run.world.tick ms }

def steps (env : Environment) (settings : Settings) (run : Run) (ops : List Op) : Run :=
  ops.foldl (step env settings) run

end Run

/-! ## A small upload

One byte in one chunk, for runs on concrete inputs.
-/

namespace Sample

def environment : Environment where
  uuid4 := fun n => ⟨BitVec.ofNat 128 (n + 7)⟩
  wallClock := fun n => 1777631400000000 + n

/-- One upload at a time. -/
def settings : Settings := ⟨"uploads", 1, by decide, by decide⟩

theorem twoUploads_pos : (0 : ℤ) < 2 := by decide

/-- Two uploads at a time. -/
def twoUploads : Settings := ⟨"uploads", 2, settings.bucket_ne_empty, twoUploads_pos⟩

def workspace : UUID := ⟨1⟩

/-- The first id of the environment. -/
def session : UUID := ⟨7⟩

def upload : InitiateUploadRequest :=
  ⟨workspace, "a.pdf", 1, "application/pdf", sha256Hexdigest [1]⟩

def chunk : ProcessChunkRequest :=
  ⟨workspace, session, [1], 0, sha256Hexdigest [1], by decide, by decide,
    .inl (isHex64_sha256Hexdigest _)⟩

/-- Another byte at the same offset. -/
def rival : ProcessChunkRequest :=
  ⟨workspace, session, [2], 0, sha256Hexdigest [2], by decide, by decide,
    .inl (isHex64_sha256Hexdigest _)⟩

/-- A file of two bytes. -/
def pairUpload : InitiateUploadRequest :=
  ⟨workspace, "a.pdf", 2, "application/pdf", sha256Hexdigest [1, 2]⟩

/-- The second of the two. -/
def secondChunk : ProcessChunkRequest :=
  ⟨workspace, session, [2], 1, sha256Hexdigest [2], by decide, by decide,
    .inl (isHex64_sha256Hexdigest _)⟩

def completion : CompleteUploadRequest := ⟨workspace, session⟩

/-- The session that the first initiation creates. -/
def pendingSession : UploadSession where
  sessionId := session
  workspaceId := workspace
  filename := "a.pdf"
  size := 1
  mimeType := "application/pdf"
  sha256Checksum := .fromBytes [1]
  offset := 0
  status := .pending
  createdAt := .utc (environment.wallClock 0)
  expiresAt := (DateTime.utc (environment.wallClock 0)).addHours 24
  chunkManifest := []
  valid := by decide +kernel

/-- The world after the first initiation. -/
def initiated : World :=
  (Run.steps environment settings Run.start [.call (.initiate upload) []]).world

def outage (area : Area) : Option Fault := some ⟨area, .exception "unavailable"⟩

/-- Two chunks, the first of which is accepted at the second try. -/
def uploaded : List Op :=
  [.call (.initiate pairUpload) [],
    .call (.processChunk chunk) [none, none, none, outage .sessions],
    .call (.processChunk chunk) [], .call (.processChunk secondChunk) []]

def completed : List Op :=
  [.call (.initiate upload) [], .call (.processChunk chunk) [], .call (.complete completion) []]

/-- The completion asks S3 for the file, in vain. -/
def failed : List Op :=
  [.call (.initiate upload) [], .call (.processChunk chunk) [],
    .call (.complete completion) [none, none, outage .s3]]

end Sample

end RagFileUploader
