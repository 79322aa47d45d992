import RagFileUploader.Concurrent.FilingCalls
import RagFileUploader.Serial.Capacity

/-!
# Completions of the same file

Completions of sessions with the same checksum, each of which has all it needs.  A `Milestone` says
how far a completion has got, and above all whether it has found the fingerprint free or taken.  The
replies are those of a world in which the other completions leave the session, its chunks and its
file alone, so that a completion ends in one of two ways: it has published its event and the session
is COMPLETE, or the file is a duplicate and the session is FAILED.

* `Milestone.May` lists the commands of each stage, `Milestone.after` the stage that they lead to,
  and `Milestone.Hears` the replies that are granted.
* `obeys_assembleContest`, `obeys_publishContest`, `obeys_registerContest` and
  `obeys_finishContest` are the parts of a completion, and `obeys_contest` the whole of it.
-/

namespace RagFileUploader

open Effects Stores

variable {env : Environment} {settings : Settings} {σ σ₀ : World} {w s : UUID} {sha256 : String}
  {α β : Type}

/-! ## How far a completion has got -/

inductive Milestone where
  | unread
  | gathering
  | uploading (uploadId : UploadId) (done : List Bytes)
  | stored
  /-- The fingerprint is there. -/
  | taken
  /-- The fingerprint was not there. -/
  | free
  /-- The clock has been read for the event. -/
  | dated (uploadedAt : DateTime)
  | published
  | complete
  | failed

namespace Milestone

/-- The completion has found the fingerprint free. -/
def Cleared : Milestone → Prop
  | .free | .dated _ | .published | .complete => True
  | _ => False

/-- The event is out. -/
def Out : Milestone → Prop
  | .published | .complete => True
  | _ => False

/-- After a reply. -/
def after (stage : Milestone) (c : Command) (reply : Except Exc c.Reply) : Milestone :=
  match stage, c, reply with
  | .unread, .hgetallSession _, _ => .gathering
  | .gathering, .createMultipartUpload _, .ok (some uploadId) => .uploading uploadId []
  | .uploading uploadId done, .uploadPart _ _ _ body, _ => .uploading uploadId (done ++ [body])
  | .uploading _ _, .completeMultipartUpload .., _ => .stored
  | .stored, .hexistsDedup .., .ok found => if found then .taken else .free
  | .free, .now, .ok t => .dated t
  | .dated _, .publish _, _ => .published
  | .published, .hsetSession .., _ => .complete
  | .taken, .hsetSession .., _ => .failed
  | stage, _, _ => stage

/-- The commands of the completion of this session. -/
inductive May (w : UUID) (sha256 : String) (s : UUID) : Milestone → Command → Prop
  | read : May w sha256 s .unread (.hgetallSession ⟨w, s⟩)
  | gather (index : ℤ) : May w sha256 s .gathering (.getChunk ⟨w, s, index⟩)
  | head : May w sha256 s .gathering (.headObject ⟨w, s⟩)
  | create : May w sha256 s .gathering (.createMultipartUpload ⟨w, s⟩)
  | part (uploadId : UploadId) (done : List Bytes) (body : Bytes) :
      May w sha256 s (.uploading uploadId done)
        (.uploadPart ⟨w, s⟩ uploadId (done.length + 1) body)
  | assemble (uploadId : UploadId) (done : List Bytes) :
      May w sha256 s (.uploading uploadId done)
        (.completeMultipartUpload ⟨w, s⟩ uploadId (S3StorageClient.partsFrom 1 done))
  | ask : May w sha256 s .stored (.hexistsDedup w sha256)
  | look : May w sha256 s .taken (.hgetDedup w sha256)
  | live (stage : Milestone) : May w sha256 s stage (.ttlSession ⟨w, s⟩)
  | fail {data : SessionHash} (h : data.status = SessionStatus.failed.value) :
      May w sha256 s .taken (.hsetSession ⟨w, s⟩ data)
  | date (stage : Milestone) : May w sha256 s stage .now
  | publish (uploadedAt : DateTime) {event : FileLoadCompletedEvent} (h : event.fileId = s) :
      May w sha256 s (.dated uploadedAt) (.publish event)
  | complete {data : SessionHash} (h : data.status = SessionStatus.complete.value) :
      May w sha256 s .published (.hsetSession ⟨w, s⟩ data)
  | release : May w sha256 s .complete (.hincrbyCounter w (-1))
  | clamp : May w sha256 s .complete (.hsetCounter w 0)
  | register (metadata : FileMetadata) :
      May w sha256 s .complete (.hsetDedup w sha256 metadata.toMetadataFields)
  | clean (index : ℤ) : May w sha256 s .complete (.deleteChunk ⟨w, s, index⟩)

/-- What a completion is told beyond the replies of a world in which nothing fails: its session and
its chunks are as in the world in which it started, there is no file yet, whatever is registered can
be read, and the clock does not go back. -/
def Hears (σ₀ : World) (stage : Milestone) : (c : Command) → Except Exc c.Reply → Prop
  | .hgetallSession key, reply => reply = .ok (σ₀.session? key)
  | .getChunk key, reply => reply = .ok (σ₀.chunk? key)
  | .headObject _, reply => ∃ e : Exc, reply = .error e ∧ e.saysAbsent = true
  | .hgetDedup _ _, reply => ∃ metadata : FileMetadata, reply = .ok (some metadata.toMetadataFields)
  | .ttlSession _, reply => reply ≠ .ok (-2)
  | .now, reply => ∀ uploadedAt, stage = .dated uploadedAt → ∀ t, reply = .ok t →
      uploadedAt.instant ≤ t.instant
  | _, _ => True

end Milestone

/-- A completion with its session. -/
structure Contender where
  sessionId : UUID
  stage : Milestone

/-- A monitor for completions of sessions with the checksum, from the world `σ₀` on. -/
def contestMonitor (σ₀ : World) (w : UUID) (sha256 : String) :
    Monitor serviceSignature Contender where
  may := fun γ c => γ.stage.May w sha256 γ.sessionId c
  replies := fun γ c reply => c.Prompt reply ∧ γ.stage.Hears σ₀ c reply
  after := fun γ c reply => ⟨γ.sessionId, γ.stage.after c reply⟩

/-- How the call ends at its last stage. -/
def Milestone.Ends : Milestone → Except Exc α → Prop
  | .complete, r => r.isOk = true
  | .failed, r => ∃ e : Exc, r = .error e ∧ e.isDuplicateFileError = true
  | _, _ => False

/-! ## What a completion needs -/

/-- A session under way whose chunks are there and make up the declared file. -/
structure World.Completable (σ : World) (w s : UUID) (session : UploadSession)
    (chunks : List Bytes) : Prop where
  reads : σ.Reads w s session
  validated : CompleteUploadUseCase.validateSession ⟨w, s⟩ session = .ok ()
  assemblable : CompleteUploadUseCase.Assemblable σ ⟨w, s⟩ session chunks
  size : (chunks.flatten.length : ℤ) = session.size

/-- A session that is ready for completion and declared with the checksum. -/
def World.Ready (σ : World) (w : UUID) (sha256 : String) (s : UUID) : Prop :=
  ∃ session chunks, σ.Completable w s session chunks ∧ session.sha256Checksum.value = sha256

/-! ## The stores -/

variable {sha : SHA256Hash} {stage : Milestone}

section Stores

variable {σ₀ : World} {sha256 : String}

theorem Milestone.after_ttl {key : SessionKey} {reply : Except Exc ℤ} :
    stage.after (.ttlSession key) reply = stage := by
  cases stage <;> rfl

/-- The session is there, so its hash is written. -/
theorem obeys_storeContest {session : UploadSession} {Q : Except Exc Unit → Contender → Prop}
    (hkey : session.key = ⟨w, s⟩) (hvalid : SessionKey.Valid ⟨w, s⟩)
    (hmay : stage.May w sha256 s
      (.hsetSession ⟨w, s⟩ (RedisSessionStore.serializeSession session)))
    (hQ : Q (.ok ()) ⟨s, stage.after
      (.hsetSession ⟨w, s⟩ (RedisSessionStore.serializeSession session)) (.ok ())⟩) :
    (RedisSessionStore.updateSession session).Obeys (contestMonitor σ₀ w sha256) Q ⟨s, stage⟩ := by
  have hafter : ∀ reply, (contestMonitor σ₀ w sha256).after ⟨s, stage⟩ (.ttlSession session.key)
      reply = ⟨s, stage⟩ := fun reply => congrArg (Contender.mk s) Milestone.after_ttl
  refine obeys_updateSession (fun e hinvalid _ => absurd (hkey ▸ hvalid) hinvalid)
    (hkey ▸ .live stage) (fun e he => ?_) (fun _ hgone => absurd rfl hgone.2) fun ttl _ _ => ?_
  · obtain ⟨ttl, hok⟩ := he.1.resolve_left (by rintro ⟨⟩)
    cases hok
  · rw [hafter, hkey]
    refine obeys_send hmay fun reply hreply => ?_
    obtain ⟨r, rfl⟩ := hreply.1.resolve_left (by rintro ⟨⟩)
    exact hQ

/-- A fingerprint that is there can be read. -/
theorem obeys_lookup {Q : Except Exc (Option FileMetadata) → Contender → Prop}
    (hw : w.int ≠ 0#128) (hsha : sha.value = sha256)
    (hfree : Q (.ok none) ⟨s, .free⟩)
    (htaken : ∀ metadata : FileMetadata, Q (.ok (some metadata)) ⟨s, .taken⟩) :
    (RedisDeduplicationStore.checkDuplicate w sha).Obeys (contestMonitor σ₀ w sha256) Q
      ⟨s, .stored⟩ := by
  subst hsha
  refine obeys_tryExcept ?_
  rw [dedupKey, workspaceKey_of_ne hw]
  refine Program.obeys_bind.mpr (obeys_send .ask fun reply hreply => ?_)
  obtain ⟨found, rfl⟩ := hreply.1.resolve_left (by rintro ⟨⟩)
  cases found with
  | false => exact hfree
  | true =>
      refine Program.obeys_bind.mpr (obeys_send .look fun reply hreply => ?_)
      obtain ⟨metadata, rfl⟩ := hreply.2
      have hread : RedisDeduplicationStore.deserializeMetadata metadata.toMetadataFields =
          .ok metadata := by
        have hsize := Int.not_lt.mpr (metadata.postInit_eq_ok_iff.mp metadata.valid).1
        simp [RedisDeduplicationStore.deserializeMetadata, FileMetadata.new_of_valid metadata.valid,
          raiseIf, hsize, tryCatch, tryCatchThe, MonadExceptOf.tryCatch, Except.tryCatch, pure,
          Except.pure, bind, Except.bind]
      refine obeys_map (obeys_ofExcept.mpr ?_)
      rw [hread]
      exact htaken metadata

/-- Nothing fails when the counter is decremented. -/
theorem obeys_giveBack {Q : Except Exc Unit → Contender → Prop} (hw : w.int ≠ 0#128)
    (hQ : Q (.ok ()) ⟨s, .complete⟩) :
    (RedisRateLimiter.decrement w).Obeys (contestMonitor σ₀ w sha256) Q ⟨s, .complete⟩ := by
  unfold RedisRateLimiter.decrement
  rw [rateLimitKey, workspaceKey_of_ne hw]
  refine Program.obeys_tryCatch.mpr (Program.obeys_bind.mpr
    (obeys_send .release fun reply hreply => ?_))
  obtain ⟨count, rfl⟩ := hreply.1.resolve_left (by rintro ⟨⟩)
  dsimp only
  split
  · refine obeys_send .clamp fun reply hreply => ?_
    obtain ⟨r, rfl⟩ := hreply.1.resolve_left (by rintro ⟨⟩)
    exact hQ
  · exact hQ

end Stores

/-! ## The use case -/

namespace CompleteUploadUseCase

variable {request : CompleteUploadRequest} {session : UploadSession} {chunks : List Bytes}

/-- The chunks are those that were there at the start. -/
theorem obeys_retrieveAll {manifest : List ChunkMeta} (h : Retrieved σ₀ w s manifest chunks) :
    (manifest.mapM (retrieveChunk (dependencies settings) w s)).Obeys
      (contestMonitor σ₀ w sha256) (fun r γ => r = .ok chunks ∧ γ = ⟨s, .gathering⟩)
      ⟨s, .gathering⟩ := by
  induction h with
  | nil => exact ⟨rfl, rfl⟩
  | @cons chunkMeta chunk manifest chunks hchunk _ ih =>
      rw [List.mapM_cons, Program.obeys_bind]
      refine obeys_tryExcept (Program.obeys_bind.mpr
        (obeys_send (.gather chunkMeta.index) fun reply hreply => ?_))
      obtain rfl : reply = .ok (some chunk) := hreply.2.trans (congrArg Except.ok hchunk)
      refine Program.obeys_bind.mpr (Program.obeys_mono ih fun r γ hr => ?_)
      obtain ⟨rfl, rfl⟩ := hr
      exact ⟨rfl, rfl⟩

open S3StorageClient in
theorem follows_contest (σ₀ : World) (w s : UUID) (sha256 : String) (chunks : List Bytes)
    (expected : SHA256Hash) (hsha : sha256Hexdigest chunks.flatten = expected.value) :
    Follows (contestMonitor σ₀ w sha256) ⟨w, s⟩ chunks expected False ⟨s, .gathering⟩
      (fun uploadId done => ⟨s, .uploading uploadId done⟩) ⟨s, .stored⟩ where
  head := obeys_send .head fun reply hreply => ⟨rfl, .inr hreply.2⟩
  create := by
    refine obeys_send .create fun reply hreply => ?_
    obtain ⟨uploadId, rfl⟩ := hreply.1
    exact ⟨uploadId, rfl, rfl⟩
  part := fun uploadId done body =>
    obeys_send (.part uploadId done body) fun reply hreply => ⟨hreply.1, rfl⟩
  complete := fun uploadId =>
    obeys_send (.assemble uploadId chunks) fun reply hreply => ⟨hreply.1, rfl⟩
  delete := fun hne => absurd hsha hne

/-- The file is put together; if its fingerprint is taken, the session is FAILED. -/
theorem obeys_assembleContest
    (h : σ₀.Completable request.workspaceId request.sessionId session chunks)
    (hsha : session.sha256Checksum.value = sha256) :
    (assemble (dependencies settings) request session).Obeys
      (contestMonitor σ₀ request.workspaceId sha256)
      (fun r γ => match r with
        | .ok (s3Path, finalSize) => γ = ⟨request.sessionId, .free⟩ ∧
            s3Path = S3StorageClient.s3Path settings (fileKey request) ∧
            finalSize = chunks.flatten.length
        | .error e => γ = ⟨request.sessionId, .failed⟩ ∧ e.isDuplicateFileError = true)
      ⟨request.sessionId, .gathering⟩ := by
  obtain ⟨hretrieved, -, hcontent, hvalid⟩ := h.assemblable
  rw [assemble, Program.obeys_bind, retrieveChunks]
  refine Program.obeys_mono (obeys_retrieveAll hretrieved) fun r γ hr => ?_
  obtain ⟨rfl, rfl⟩ := hr
  refine Program.obeys_bind.mpr (S3StorageClient.obeys_assembleFile
    (follows_contest _ _ _ _ chunks _ hcontent) (fun hwhy => ?_) fun _ => ?_)
  · rcases hwhy with hpresent | hinvalid | hne
    · exact hpresent.elim
    · exact absurd hvalid hinvalid
    · exact absurd hcontent hne
  refine Program.obeys_bind.mpr (obeys_lookup h.reads.valid.1 hsha ⟨rfl, rfl, rfl⟩
    fun metadata => ?_)
  have hkey : session.markFailed.key = ⟨request.workspaceId, request.sessionId⟩ := h.reads.key_eq
  refine Program.obeys_bind.mpr (obeys_storeContest hkey h.reads.valid (.fail rfl) ⟨rfl, ?_⟩)
  -- what is registered has a path and a time with an offset
  obtain ⟨-, hzone, hblank⟩ := metadata.postInit_eq_ok_iff.mp metadata.valid
  have hpath : metadata.s3Path ≠ "" := fun h => by simp [h, isBlank] at hblank
  rw [Exc.duplicateFile, if_neg hpath, if_neg hzone]
  rfl

theorem obeys_publishContest
    (h : σ₀.Completable request.workspaceId request.sessionId session chunks) :
    (publish (dependencies settings) request session
        (S3StorageClient.s3Path settings (fileKey request)) chunks.flatten.length).Obeys
      (contestMonitor σ₀ request.workspaceId sha256)
      (fun r γ => r = .ok () ∧ γ = ⟨request.sessionId, .published⟩)
      ⟨request.sessionId, .free⟩ := by
  rw [publish, Program.obeys_bind]
  refine obeys_send (.date _) fun reply hreply => ?_
  obtain ⟨n, rfl⟩ := hreply.1
  refine Program.obeys_bind.mpr (obeys_send (.date _) fun reply hreply => ?_)
  obtain ⟨n', rfl⟩ := hreply.1
  have hle : n ≤ n' := hreply.2 (.utc n) rfl (.utc n') rfl
  have hvalid := @postInit_event settings _ _ _ _ session.sha256Checksum h.reads.valid
    (h.size ▸ session.size_pos) (h.size ▸ session.size_le) hle
  refine obeys_ofExcept_bind (fun event hevent => ?_) fun e he => ?_
  · have hfields := FileLoadCompletedEvent.new_eq_ok_iff.mp hevent
    have hfile : event.fileId = request.sessionId := by rw [hfields]
    refine obeys_tryExcept (obeys_send (.publish _ hfile) fun reply hreply => ?_)
    obtain ⟨r, rfl⟩ := hreply.1.resolve_left (by rintro ⟨⟩)
    exact ⟨rfl, rfl⟩
  · have hok : FileLoadCompletedEvent.new _ = .ok ⟨_, hvalid⟩ :=
      FileLoadCompletedEvent.new_eq_ok_iff.mpr rfl
    cases hok.symm.trans he

theorem obeys_registerContest {Q : Except Exc Unit → Contender → Prop} {finalSize : ℤ}
    (hsize : 0 ≤ finalSize) (hw : request.workspaceId.int ≠ 0#128)
    (hQ : Q (.ok ()) ⟨request.sessionId, .complete⟩) :
    (register (dependencies settings) request session
        (S3StorageClient.s3Path settings (fileKey request)) finalSize).Obeys
      (contestMonitor σ₀ request.workspaceId session.sha256Checksum.value) Q
      ⟨request.sessionId, .complete⟩ := by
  rw [register, Program.obeys_bind]
  refine obeys_send (.date _) fun reply hreply => ?_
  obtain ⟨n, rfl⟩ := hreply.1
  have hmetadata : MetadataFields.postInit ⟨request.sessionId,
      S3StorageClient.s3Path settings (fileKey request), finalSize, .utc n⟩ = .ok () :=
    (MetadataFields.postInit_eq_ok_iff _).mpr
      ⟨hsize, Option.some_ne_none _, isBlank_s3Path request⟩
  refine obeys_ofExcept_bind (fun metadata hnew => ?_) fun e he => by
    cases (FileMetadata.new_of_valid hmetadata).symm.trans he
  have hzone := (metadata.postInit_eq_ok_iff.mp metadata.valid).2.1
  refine obeys_tryExcept ?_
  simp only [dedupKey, workspaceKey_of_ne hw, RedisDeduplicationStore.serializeMetadata, raiseIf,
    if_neg hzone]
  refine obeys_send (.register metadata) fun reply hreply => ?_
  obtain ⟨r, rfl⟩ := hreply.1.resolve_left (by rintro ⟨⟩)
  exact hQ

theorem obeys_cleanContest (manifest : List ChunkMeta) :
    (cleanupChunks (dependencies settings) w s manifest).Obeys (contestMonitor σ₀ w sha256)
      (fun r γ => r = .ok () ∧ γ = ⟨s, .complete⟩) ⟨s, .complete⟩ := by
  unfold cleanupChunks
  induction manifest with
  | nil => exact ⟨rfl, rfl⟩
  | cons chunkMeta manifest ih =>
      refine Program.obeys_bind.mpr (obeys_tryExcept
        (obeys_send (.clean chunkMeta.index) fun reply hreply => ?_))
      obtain ⟨r, rfl⟩ := hreply.1.resolve_left (by rintro ⟨⟩)
      exact ih

theorem obeys_finishContest
    (h : σ₀.Completable request.workspaceId request.sessionId session chunks)
    (hsha : session.sha256Checksum.value = sha256) :
    (finish (dependencies settings) request session
        (S3StorageClient.s3Path settings (fileKey request)) chunks.flatten.length).Obeys
      (contestMonitor σ₀ request.workspaceId sha256)
      (fun r γ => r.isOk = true ∧ γ = ⟨request.sessionId, .complete⟩)
      ⟨request.sessionId, .published⟩ := by
  subst hsha
  obtain ⟨hstatus, hoffset, -⟩ := validateSession_eq_ok h.validated
  refine obeys_ofExcept_bind (fun done hdone => ?_) fun e he => by
    cases (UploadSession.markComplete_eq hstatus hoffset).symm.trans he
  cases (UploadSession.markComplete_eq hstatus hoffset).symm.trans hdone
  set done := session.withStatus .complete
  have hkey : done.key = ⟨request.workspaceId, request.sessionId⟩ := h.reads.key_eq
  refine Program.obeys_bind.mpr (obeys_storeContest hkey h.reads.valid (.complete rfl) ?_)
  refine Program.obeys_bind.mpr (obeys_tryExcept (obeys_giveBack h.reads.valid.1 ?_))
  refine Program.obeys_bind.mpr (obeys_tryExcept (obeys_registerContest
    (Int.natCast_nonneg _) h.reads.valid.1 ?_))
  refine Program.obeys_bind.mpr (obeys_tryExcept (Program.obeys_mono (obeys_cleanContest _)
    fun r γ hr => ?_))
  obtain ⟨rfl, rfl⟩ := hr
  have hpath : S3StorageClient.s3Path settings (fileKey request) ≠ "" := fun h => by
    simpa [h, isBlank] using @isBlank_s3Path settings request
  rw [CompleteUploadResponse.new_of_valid hpath (Int.natCast_nonneg _)]
  exact ⟨rfl, rfl⟩

/-- A completion that has all it needs ends at its last stage. -/
theorem obeys_contest (settings : Settings) (request : CompleteUploadRequest)
    (h : σ₀.Ready request.workspaceId sha256 request.sessionId) :
    (execute (dependencies settings) request).Obeys (contestMonitor σ₀ request.workspaceId sha256)
      (fun r γ => γ.stage.Ends r) ⟨request.sessionId, .unread⟩ := by
  obtain ⟨session, chunks, h, hsha⟩ := h
  rw [execute, Program.obeys_bind]
  refine obeys_getSession (fun e hinvalid _ => absurd h.reads.valid hinvalid) .read
    fun reply hreply => ?_
  obtain rfl : reply = .ok (some (RedisSessionStore.serializeSession session)) :=
    hreply.2.trans (congrArg Except.ok h.reads.stored)
  rw [RedisSessionStore.readReply, RedisSessionStore.deserialize_serialize]
  dsimp only
  rw [Program.obeys_tryCatch, body]
  refine obeys_ofExcept_bind (fun _ _ => ?_) fun e he => by cases h.validated.symm.trans he
  refine Program.obeys_bind.mpr (Program.obeys_mono (obeys_assembleContest h hsha) fun r γ hr => ?_)
  cases r with
  | error e =>
      obtain ⟨rfl, hduplicate⟩ := hr
      have hpass : marks e = false := by
        simp [marks, passes, hduplicate]
      dsimp only
      rw [settle_eq, hpass]
      exact ⟨e, rfl, hduplicate⟩
  | ok file =>
      obtain ⟨s3Path, finalSize⟩ := file
      obtain ⟨rfl, rfl, rfl⟩ := hr
      refine Program.obeys_bind.mpr (Program.obeys_mono (obeys_publishContest h) fun r γ hr => ?_)
      obtain ⟨rfl, rfl⟩ := hr
      refine Program.obeys_mono (obeys_finishContest h hsha) fun r γ hr => ?_
      obtain ⟨hok, rfl⟩ := hr
      cases r with
      | ok response => exact hok
      | error e => cases hok

end CompleteUploadUseCase

end RagFileUploader
