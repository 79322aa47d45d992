import RagFileUploader.Serial.AssembleSpec

/-!
# What completing an upload does

`Outcome` lists how a completion can end: it found nothing to complete, it failed before the
event was out, it failed after, or it went through.  Each outcome says which parts of the world
moved, and why it was not a better one.  `wp_body` collects the outcomes of the `try` block phase
by phase, and `wp_settle` adds the status write of the handlers.

* `Retrieved`, `Assembled`, `Published` and `FinishOutcome` are what the phases leave behind, each
  with a `wp_` lemma about the code that comes up to it.
* `Unpublished` is the frame of all phases before the event: nothing but the object at the file's
  key, multipart uploads and the session's own hash may have moved.
* `Obstacle` lists the reasons for which a completion fails before its event.  `wp_execute_of_ready`
  goes the other way: where there is none, and nothing fails, the completion goes through.
-/

namespace RagFileUploader.CompleteUploadUseCase

open Effects Stores

variable {env : Environment} {F : Fault → Prop} {settings : Settings} {α : Type}
  {σ σ₁ σ' : World} {request : CompleteUploadRequest} {session : UploadSession} {w s : UUID}

/-! ## Reading and deleting the chunks -/

/-- What is stored under the keys of these manifest entries, in their order. -/
def Retrieved (σ : World) (w s : UUID) (manifest : List ChunkMeta) (chunks : List Bytes) : Prop :=
  List.Forall₂ (fun chunkMeta chunk => σ.chunk? ⟨w, s, chunkMeta.index⟩ = some chunk) manifest
    chunks

theorem wp_retrieveChunk {chunkMeta : ChunkMeta} {Q : Except Exc Bytes → World → Prop}
    (hok : ∀ chunk, σ.chunk? ⟨w, s, chunkMeta.index⟩ = some chunk → Q (.ok chunk) σ)
    (hmissing : σ.chunk? ⟨w, s, chunkMeta.index⟩ = none →
      ∀ e, e.isInvalidSessionStateError = true → Q (.error e) σ)
    (hfail : CanFail F .chunks → ∀ e, e.isException = true → Q (.error e) σ) :
    (retrieveChunk (dependencies settings) w s chunkMeta).wp (serviceMachine env) F Q σ := by
  rw [retrieveChunk, wp_tryExcept, Program.wp_bind]
  refine wp_send ?_ fun hcan e he _ => ⟨fun _ => ?_, fun _ => hfail hcan e he⟩
  · simp only [Command.act]
    cases hchunk : σ.chunk? ⟨w, s, chunkMeta.index⟩ with
    | some chunk => exact hok chunk hchunk
    | none => exact ⟨fun _ => hmissing hchunk _ rfl, fun h => by cases h⟩
  · split
    · exact hfail hcan e he
    · exact hfail hcan _ rfl

theorem wp_retrieveAll {Q : Except Exc (List Bytes) → World → Prop} (manifest : List ChunkMeta)
    (hok : ∀ chunks, Retrieved σ w s manifest chunks → Q (.ok chunks) σ)
    (hmissing : (∃ chunkMeta ∈ manifest, σ.chunk? ⟨w, s, chunkMeta.index⟩ = none) →
      ∀ e, e.isInvalidSessionStateError = true → Q (.error e) σ)
    (hfail : CanFail F .chunks → ∀ e, e.isException = true → Q (.error e) σ) :
    (manifest.mapM (retrieveChunk (dependencies settings) w s)).wp (serviceMachine env) F Q σ := by
  induction manifest generalizing Q with
  | nil => exact hok [] .nil
  | cons chunkMeta manifest ih =>
      rw [List.mapM_cons, Program.wp_bind]
      refine wp_retrieveChunk (fun chunk hchunk => ?_)
        (fun h => hmissing ⟨chunkMeta, List.mem_cons_self, h⟩) hfail
      dsimp only
      rw [Program.wp_bind]
      exact ih (fun chunks hchunks => hok (chunk :: chunks) (.cons hchunk hchunks))
        (fun ⟨c, hc, h⟩ => hmissing ⟨c, List.mem_cons_of_mem _ hc, h⟩) hfail

/-- A world in which some chunk keys of one session are gone. -/
structure Cleaned (w s : UUID) (σ σ' : World) : Prop where
  frame : ∃ chunks, σ' = { σ with chunks }
  chunks : ∀ key, σ'.chunks key = σ.chunks key ∨ (key.workspaceId = w ∧ key.sessionId = s)

theorem wp_cleanupChunks {Q : Except Exc Unit → World → Prop} (manifest : List ChunkMeta)
    (hok : ∀ σ', Cleaned w s σ σ' → Q (.ok ()) σ') :
    (cleanupChunks (dependencies settings) w s manifest).wp (serviceMachine env) F Q σ := by
  unfold cleanupChunks
  induction manifest generalizing σ with
  | nil => exact hok σ ⟨⟨σ.chunks, rfl⟩, fun _ => .inl rfl⟩
  | cons chunkMeta manifest ih =>
      refine Program.wp_bind.mpr ?_
      refine wp_swallow (wp_send ?_ fun _ e he _ => ⟨he, ih hok⟩)
      simp only [Command.act]
      refine ih fun σ' hσ' => hok σ' ?_
      obtain ⟨⟨chunks, rfl⟩, hkeys⟩ := hσ'
      refine ⟨⟨chunks, rfl⟩, fun key => ?_⟩
      rcases hkeys key with h | h
      · by_cases hkey : key = ⟨w, s, chunkMeta.index⟩
        · right; simp [hkey]
        · left; rw [h]; exact Keyspace.erase_of_ne hkey
      · exact .inr h

/-! ## What a failed completion may have changed -/

/-- The S3 key of the file. -/
def fileKey (request : CompleteUploadRequest) : S3Key := ⟨request.workspaceId, request.sessionId⟩

/-- No event came out: at most the session was marked FAILED and an object appeared at the file's
key, where there was none. -/
structure Unpublished (request : CompleteUploadRequest) (session : UploadSession) (σ σ' : World) :
    Prop where
  sessions : σ'.sessions = σ.sessions ∨
    σ'.sessions = (σ.putSession session.markFailed).sessions
  objects : σ'.objects = σ.objects ∨ (σ.objects (fileKey request) = none ∧ ∃ content,
    σ'.objects = Function.update σ.objects (fileKey request) (some content))
  clock : σ'.clock = σ.clock
  expiry : σ'.expiry = σ.expiry
  chunks : σ'.chunks = σ.chunks
  counters : σ'.counters = σ.counters
  dedup : σ'.dedup = σ.dedup
  published : σ'.published = σ.published
  drawn : σ'.drawn = σ.drawn

theorem Unpublished.refl : Unpublished request session σ σ :=
  ⟨.inl rfl, .inl rfl, rfl, rfl, rfl, rfl, rfl, rfl, rfl⟩

theorem sessions_putSession_congr {t : UploadSession} (h : σ'.sessions = σ.sessions)
    (hclock : σ'.clock = σ.clock) :
    (σ'.putSession t).sessions = (σ.putSession t).sessions := by
  simp [World.putSession, h, hclock]

/-- Writing a session twice is writing it the second time. -/
theorem sessions_putSession_putSession {t t' : UploadSession} (hkey : t'.key = t.key) :
    ((σ.putSession t).putSession t').sessions = (σ.putSession t').sessions := by
  simp only [World.putSession, hkey]
  exact Keyspace.overwrite_overwrite

theorem Unpublished.markFailed (h : Unpublished request session σ σ₁) :
    Unpublished request session σ (σ₁.putSession session.markFailed) := by
  refine ⟨.inr ?_, h.objects, h.clock, h.expiry, h.chunks, h.counters, h.dedup, h.published,
    h.drawn⟩
  rcases h.sessions with hs | hs
  · exact sessions_putSession_congr hs h.clock
  · rw [sessions_putSession_congr (σ := σ.putSession session.markFailed) hs h.clock]
    exact sessions_putSession_putSession rfl

theorem session?_congr {key : SessionKey} (h : σ'.sessions = σ.sessions)
    (hclock : σ'.clock = σ.clock) : σ'.session? key = σ.session? key := by
  simp [World.session?, h, hclock]

theorem live_of_reads (hreads : σ.Reads w s session) : σ.session? session.key ≠ none := by
  rw [hreads.key_eq, hreads.stored]
  exact Option.some_ne_none _

theorem Unpublished.live (h : Unpublished request session σ σ₁) (hreads : σ.Reads w s session) :
    σ₁.session? session.key ≠ none := by
  rcases h.sessions with hs | hs
  · rw [session?_congr hs h.clock]
    exact live_of_reads hreads
  · have hput : (σ.putSession session.markFailed).session? session.key = some _ :=
      World.session?_putSession rfl
    rw [session?_congr (σ := σ.putSession session.markFailed) hs h.clock, hput]
    exact Option.some_ne_none _

/-! ## Why a completion may fail -/

/-- The fields of the event that goes out. -/
def eventFields (env : Environment) (settings : Settings) (σ : World)
    (request : CompleteUploadRequest) (session : UploadSession) (chunks : List Bytes) :
    EventFields where
  fileId := request.sessionId
  workspaceId := request.workspaceId
  s3Path := S3StorageClient.s3Path settings (fileKey request)
  sha256Checksum := session.sha256Checksum
  sizeBytes := chunks.flatten.length
  uploadedAt := .utc (env.wallClock σ.clockReads)
  timestamp := .utc (env.wallClock (σ.clockReads + 1))

/-- What stands between a session that is ready for completion and its event. -/
inductive Obstacle (env : Environment) (settings : Settings) (F : Fault → Prop) (σ : World)
    (request : CompleteUploadRequest) (session : UploadSession) : Prop
  | chunkMissing (c : ChunkMeta) (hmem : c ∈ session.chunkManifest)
      (hnone : σ.chunk? ⟨request.workspaceId, request.sessionId, c.index⟩ = none)
  | fault (area : Area) (harea : area ∈ [Area.chunks, .dedupLookup, .publisher])
      (hcan : CanFail F area)
  | duplicate (h : σ.dedup request.workspaceId session.sha256Checksum.value ≠ none)
  | assembly (chunks : List Bytes)
      (hretrieved : Retrieved σ request.workspaceId request.sessionId
        (sortManifest session.chunkManifest) chunks)
      (h : S3StorageClient.AssemblyObstacle F σ (fileKey request) chunks session.sha256Checksum)
  | event (chunks : List Bytes) (e : Exc)
      (hretrieved : Retrieved σ request.workspaceId request.sessionId
        (sortManifest session.chunkManifest) chunks)
      (h : FileLoadCompletedEvent.new (eventFields env settings σ request session chunks) =
        .error e)

/-- The chunks make up the declared file, and nothing keeps S3 from taking it. -/
structure Assemblable (σ : World) (request : CompleteUploadRequest) (session : UploadSession)
    (chunks : List Bytes) : Prop where
  retrieved : Retrieved σ request.workspaceId request.sessionId
    (sortManifest session.chunkManifest) chunks
  absent : σ.objects (fileKey request) = none
  sha : sha256Hexdigest chunks.flatten = session.sha256Checksum.value
  valid : S3StorageClient.validateChunkData chunks = .ok ()

/-- A file is left behind only if it was put together, or if S3 failed. -/
def Leftover (F : Fault → Prop) (request : CompleteUploadRequest) (session : UploadSession)
    (σ σ' : World) : Prop :=
  σ'.objects = σ.objects ∨ CanFail F .s3 ∨ ∃ chunks, Assemblable σ request session chunks

/-! ## Up to the event -/

/-- The file is there and it is the first of its kind. -/
structure Assembled (request : CompleteUploadRequest) (session : UploadSession)
    (chunks : List Bytes) (σ σ' : World) : Prop extends Assemblable σ request session chunks where
  unregistered : σ.dedup request.workspaceId session.sha256Checksum.value = none
  frame : ∃ uploads nextUpload,
    σ' = (σ.withUploads uploads nextUpload).setObject (fileKey request) (some chunks.flatten)

/-- The event is out, too. -/
structure Published (env : Environment) (settings : Settings) (request : CompleteUploadRequest)
    (session : UploadSession) (chunks : List Bytes) (σ σ' : World) : Prop where
  retrieved : Retrieved σ request.workspaceId request.sessionId
    (sortManifest session.chunkManifest) chunks
  absent : σ.objects (fileKey request) = none
  sha : sha256Hexdigest chunks.flatten = session.sha256Checksum.value
  unregistered : σ.dedup request.workspaceId session.sha256Checksum.value = none
  objects : σ'.objects = Function.update σ.objects (fileKey request) (some chunks.flatten)
  published : ∃ event : FileLoadCompletedEvent,
    event.toEventFields = eventFields env settings σ request session chunks ∧
      σ'.published = event :: σ.published
  clock : σ'.clock = σ.clock
  expiry : σ'.expiry = σ.expiry
  drawn : σ'.drawn = σ.drawn

theorem Assembled.unpublished {chunks : List Bytes}
    (h : Assembled request session chunks σ σ₁) : Unpublished request session σ σ₁ := by
  obtain ⟨uploads, nextUpload, rfl⟩ := h.frame
  exact ⟨.inl rfl, .inr ⟨h.absent, _, rfl⟩, rfl, rfl, rfl, rfl, rfl, rfl, rfl⟩

/-- Marking a session FAILED on the way out, and raising. -/
theorem wp_markFailed {e : Exc} (he : e.isException = true) {Q : Except Exc α → World → Prop}
    (hreads : σ.Reads w s session) (h : Unpublished request session σ σ₁)
    (hQ : ∀ e' σ', e'.isException = true → Unpublished request session σ σ' → Q (.error e') σ') :
    (RedisSessionStore.updateSession session.markFailed >>= fun _ => throw e : Service α).wp
      (serviceMachine env) F Q σ₁ := by
  have hkey : session.markFailed.key = ⟨w, s⟩ := hreads.key_eq
  rw [Program.wp_bind]
  refine wp_updateSession (hkey ▸ hreads.valid) (h.live hreads) ?_ fun _ e' he' => hQ e' σ₁ he' h
  exact hQ e _ he h.markFailed

theorem wp_assemble (hreads : σ.Reads request.workspaceId request.sessionId session) :
    (assemble (dependencies settings) request session).wp (serviceMachine env) F
      (fun r σ₁ => match r with
        | .ok (s3Path, finalSize) => ∃ chunks, Assembled request session chunks σ σ₁ ∧
            s3Path = S3StorageClient.s3Path settings (fileKey request) ∧
            finalSize = chunks.flatten.length
        | .error e => e.isException = true ∧ Unpublished request session σ σ₁ ∧
            Obstacle env settings F σ request session ∧ Leftover F request session σ σ₁) σ := by
  rw [assemble, Program.wp_bind, retrieveChunks]
  refine wp_retrieveAll _ (fun chunks hchunks => ?_) (fun ⟨c, hc, hnone⟩ e he => ?_)
    fun hcan e he => ⟨he, .refl, .fault _ (by simp) hcan, .inl rfl⟩
  -- a chunk that is not there any more
  rotate_left
  · refine ⟨?_, .refl, .chunkMissing c ((List.mem_insertionSort _).mp hc) hnone, .inl rfl⟩
    cases e <;> first | rfl | cases he
  dsimp only
  rw [Program.wp_bind]
  refine Program.wp_mono S3StorageClient.wp_assembleFile fun r σ₁ hr => ?_
  cases hr with
  | failed e uploads nextUpload he why =>
      exact ⟨he, ⟨.inl rfl, .inl rfl, rfl, rfl, rfl, rfl, rfl, rfl, rfl⟩,
        .assembly chunks hchunks why, .inl rfl⟩
  | corrupt e uploads nextUpload he habsent hsha hcan =>
      exact ⟨he, ⟨.inl rfl, .inr ⟨habsent, _, rfl⟩, rfl, rfl, rfl, rfl, rfl, rfl, rfl⟩,
        .assembly chunks hchunks (.inr (.inr (.inl hsha))), .inr (.inl hcan)⟩
  | assembled uploads nextUpload habsent hsha hvalid =>
      set σ₁ := (σ.withUploads uploads nextUpload).setObject ⟨request.workspaceId,
        request.sessionId⟩ (some chunks.flatten) with hσ₁
      -- from here on there is an object, and nothing but that
      have hunpublished : Unpublished request session σ σ₁ :=
        ⟨.inl rfl, .inr ⟨habsent, _, rfl⟩, rfl, rfl, rfl, rfl, rfl, rfl, rfl⟩
      have hassemblable : Assemblable σ request session chunks :=
        ⟨hchunks, habsent, hsha, hvalid⟩
      have hleftover : ∀ σ', Leftover F request session σ σ' :=
        fun _ => .inr (.inr ⟨chunks, hassemblable⟩)
      dsimp only
      rw [Program.wp_bind]
      refine wp_checkDuplicate (fun hnone => ?_) (fun hdup metadata => ?_) fun hwhy e he => ?_
      · exact ⟨chunks, ⟨hassemblable, hnone, uploads, nextUpload, hσ₁⟩, rfl, rfl⟩
      · refine wp_markFailed ?_ hreads hunpublished fun e' σ' he' h' =>
          ⟨he', h', .duplicate hdup, hleftover σ'⟩
        unfold Exc.duplicateFile
        split
        · rfl
        · split <;> rfl
      · refine ⟨he, hunpublished, ?_, hleftover σ₁⟩
        rcases hwhy with (hw | hcan) | hdup
        · exact absurd hw hreads.valid.1
        · exact .fault _ (by simp) hcan
        · exact .duplicate hdup

theorem wp_publish {chunks : List Bytes}
    (hreads : σ.Reads request.workspaceId request.sessionId session)
    (h : Assembled request session chunks σ σ₁) :
    (publish (dependencies settings) request session
        (S3StorageClient.s3Path settings (fileKey request)) chunks.flatten.length).wp
      (serviceMachine env) F
      (fun r σ₂ => match r with
        | .ok _ => Published env settings request session chunks σ σ₂ ∧
            σ₂.sessions = σ.sessions ∧ σ₂.chunks = σ.chunks ∧ σ₂.counters = σ.counters ∧
            σ₂.dedup = σ.dedup
        | .error e => e.isException = true ∧ Unpublished request session σ σ₂ ∧
            Obstacle env settings F σ request session ∧ Leftover F request session σ σ₂) σ₁ := by
  obtain ⟨uploads, nextUpload, hσ₁⟩ := h.frame
  have hreadsEq : σ₁.clockReads = σ.clockReads := by rw [hσ₁]; rfl
  rw [publish, Program.wp_bind]
  refine wp_send_runtime rfl ?_
  simp only [Command.act]
  rw [Program.wp_bind]
  refine wp_send_runtime rfl ?_
  simp only [Command.act]
  -- two readings of the clock later
  set σ₂ : World := { σ₁ with clockReads := σ₁.clockReads + 1 + 1 } with hσ₂
  have hunpublished : Unpublished request session σ σ₂ :=
    { h.unpublished with }
  have hleftover : ∀ σ', Leftover F request session σ σ' :=
    fun _ => .inr (.inr ⟨chunks, h.toAssemblable⟩)
  rw [hreadsEq]
  refine wp_ofExcept_bind (fun event hevent => ?_) fun e he =>
    ⟨Exc.isException_of_isPlain (FileLoadCompletedEvent.raises_new (fun _ => rfl) _ e he),
      hunpublished, .event chunks e h.retrieved he, hleftover σ₂⟩
  rw [wp_tryExcept]
  refine wp_send ?_ fun hcan e he _ => ⟨fun _ => ?_, fun _ => ?_⟩
  · simp only [Command.act]
    refine ⟨⟨h.retrieved, h.absent, h.sha, h.unregistered, ?_, ⟨event, ?_, ?_⟩, ?_, ?_, ?_⟩,
      ?_, ?_, ?_, ?_⟩ <;> first
        | exact FileLoadCompletedEvent.new_eq_ok_iff.mp hevent
        | (rw [hσ₂, hσ₁]; rfl)
  · exact wp_markFailed he hreads hunpublished fun e' σ' he' h' =>
      ⟨he', h', .fault .publisher (by simp) hcan, hleftover σ'⟩
  · exact ⟨he, hunpublished, .fault .publisher (by simp) hcan, hleftover σ₂⟩

/-! ## After the event -/

/-- The session is COMPLETE and its traces are cleared away. -/
structure Completed (F : Fault → Prop) (request : CompleteUploadRequest) (session : UploadSession)
    (σ σ' : World) : Prop where
  sessions : σ'.sessions = (σ.putSession (session.withStatus .complete)).sessions
  counters : Released F σ request.workspaceId σ'.counters
  chunks : ∀ key, σ'.chunks key = σ.chunks key ∨
    (key.workspaceId = request.workspaceId ∧ key.sessionId = request.sessionId)
  dedup : ∀ w sha256, w ≠ request.workspaceId ∨ sha256 ≠ session.sha256Checksum.value →
    σ'.dedup w sha256 = σ.dedup w sha256
  registered : ¬ CanFail F .dedupRegister →
    σ'.dedup request.workspaceId session.sha256Checksum.value ≠ none
  objects : σ'.objects = σ.objects
  published : σ'.published = σ.published
  clock : σ'.clock = σ.clock
  expiry : σ'.expiry = σ.expiry
  drawn : σ'.drawn = σ.drawn

/-- How the steps after the event may end. -/
inductive FinishOutcome (F : Fault → Prop) (request : CompleteUploadRequest)
    (session : UploadSession) (s3Path : String) (finalSize : ℤ) (σ : World) :
    Except Exc CompleteUploadResponse → World → Prop
  | uncommitted (e : Exc) (hcan : CanFail F .sessions) :
      FinishOutcome F request session s3Path finalSize σ (.error e) σ
  | unreleased (e : Exc) (counters : UUID → Option ℤ) (hcan : CanFail F .counters)
      (hcounters : Released F σ request.workspaceId counters) :
      FinishOutcome F request session s3Path finalSize σ (.error e)
        { σ.putSession (session.withStatus .complete) with counters }
  | completed (σ' : World) (h : Completed F request session σ σ') :
      FinishOutcome F request session s3Path finalSize σ
        (.ok ⟨request.sessionId, s3Path, finalSize⟩) σ'

/-- Registering the fingerprint touches nothing else. -/
theorem wp_register {s3Path : String} {finalSize : ℤ} {Q : Except Exc Unit → World → Prop}
    (hpath : isBlank s3Path = false) (hsize : 0 ≤ finalSize)
    (hworkspace : request.workspaceId.int ≠ 0#128)
    (hok : ∀ dedup clockReads, (∀ w sha256, w ≠ request.workspaceId ∨
        sha256 ≠ session.sha256Checksum.value → dedup w sha256 = σ.dedup w sha256) →
      (¬ CanFail F .dedupRegister →
        dedup request.workspaceId session.sha256Checksum.value ≠ none) →
      Q (.ok ()) { σ with dedup, clockReads }) :
    (tryExcept (register (dependencies settings) request session s3Path finalSize)
      Exc.isException fun _ => pure ()).wp (serviceMachine env) F Q σ := by
  refine wp_swallow ?_
  rw [register, Program.wp_bind]
  refine wp_send_runtime rfl ?_
  simp only [Command.act]
  have hmetadata : ∀ t, MetadataFields.postInit
      ⟨request.sessionId, s3Path, finalSize, .utc t⟩ = .ok () := fun t => by
    simp [MetadataFields.postInit, raiseIf, hpath, not_lt.mpr hsize, DateTime.utc, pure,
      Except.pure, bind, Except.bind]
  rw [FileMetadata.new_of_valid (hmetadata _)]
  refine wp_registerFile ?_ fun hwhy e he => ?_
  · refine hok _ (σ.clockReads + 1) (fun w sha256 hne => ?_) fun _ => by simp
    by_cases hw : w = request.workspaceId
    · subst hw
      simp [Function.update_of_ne (hne.resolve_left (not_not_intro rfl))]
    · simp [Function.update_of_ne hw]
  · exact ⟨he, hok σ.dedup (σ.clockReads + 1) (fun _ _ _ => rfl)
      (absurd (hwhy.resolve_left hworkspace))⟩

theorem wp_finish {s3Path : String} {finalSize : ℤ} (hpath : isBlank s3Path = false)
    (hsize : 0 ≤ finalSize) (hkey : session.key = ⟨request.workspaceId, request.sessionId⟩)
    (hvalid : session.key.Valid) (hlive : σ.session? session.key ≠ none)
    (hstatus : session.status = .inProgress) (hoffset : session.offset = session.size) :
    (finish (dependencies settings) request session s3Path finalSize).wp (serviceMachine env) F
      (FinishOutcome F request session s3Path finalSize σ) σ := by
  refine wp_ofExcept_bind (fun session' hmark => ?_) fun e he =>
    nomatch (UploadSession.markComplete_eq hstatus hoffset).symm.trans he
  cases (UploadSession.markComplete_eq hstatus hoffset).symm.trans hmark
  set done := session.withStatus .complete with hdone
  have hworkspace : request.workspaceId.int ≠ 0#128 := (hkey ▸ hvalid : SessionKey.Valid _).1
  have hne : s3Path ≠ "" := fun h => by simp [h, isBlank] at hpath
  rw [Program.wp_bind]
  refine wp_updateSession (show done.key.Valid from hvalid) hlive ?_
    fun hcan e _ => .uncommitted e hcan
  -- registration and cleaning up are best effort, after either end of the decrement
  have hrest : ∀ counters, Released F σ request.workspaceId counters →
      (do
        tryExcept (register (dependencies settings) request done s3Path finalSize)
          Exc.isException fun _ => pure ()
        tryExcept (cleanupChunks (dependencies settings) request.workspaceId request.sessionId
          done.chunkManifest) Exc.isException fun _ => pure ()
        MonadExcept.ofExcept (CompleteUploadResponse.new request.sessionId s3Path finalSize) :
          Service CompleteUploadResponse).wp (serviceMachine env) F
        (FinishOutcome F request session s3Path finalSize σ)
        { σ.putSession done with counters } := by
    intro counters hcounters
    rw [Program.wp_bind]
    refine wp_register hpath hsize hworkspace fun dedup clockReads hdedup hregistered => ?_
    dsimp only
    rw [Program.wp_bind]
    refine wp_swallow (wp_cleanupChunks _ fun σ' hσ' => ?_)
    obtain ⟨⟨chunks, rfl⟩, hchunks⟩ := hσ'
    have hresponse : CompleteUploadResponse.new request.sessionId s3Path finalSize =
        .ok ⟨request.sessionId, s3Path, finalSize⟩ := by
      simp [CompleteUploadResponse.new, raiseIf, hne, not_lt.mpr hsize, pure, Except.pure, bind,
        Except.bind]
    rw [hresponse]
    exact .completed _ ⟨rfl, hcounters, hchunks, hdedup, hregistered, rfl, rfl, rfl, rfl, rfl⟩
  dsimp only
  rw [Program.wp_bind, wp_tryExcept]
  refine wp_decrement (hrest _ (.inl rfl)) fun hwhy e _ => ?_
  have hcan : CanFail F .counters := hwhy.resolve_left (hkey ▸ hvalid : SessionKey.Valid _).1
  refine ⟨⟨fun _ => hrest _ (.inr ⟨hcan, .inl rfl⟩), fun _ => ?_⟩, fun hlt =>
    ⟨fun _ => hrest _ (.inr ⟨hcan, .inr ⟨hlt, rfl⟩⟩), fun _ => ?_⟩⟩
  · exact .unreleased e _ hcan (.inr ⟨hcan, .inl rfl⟩)
  · exact .unreleased e _ hcan (.inr ⟨hcan, .inr ⟨hlt, rfl⟩⟩)

/-! ## The whole call -/

theorem isBlank_s3Path (request : CompleteUploadRequest) :
    isBlank (S3StorageClient.s3Path settings (fileKey request)) = false := by
  simp [S3StorageClient.s3Path, ToString.toString, isBlank, isSpace]

/-- The outcomes of a completion. -/
inductive Outcome (env : Environment) (settings : Settings) (F : Fault → Prop)
    (request : CompleteUploadRequest) (σ : World) :
    Except Exc CompleteUploadResponse → World → Prop
  | notReady (e : Exc) : Outcome env settings F request σ (.error e) σ
  | unpublished (e : Exc) (session : UploadSession) (σ' : World)
      (reads : σ.Reads request.workspaceId request.sessionId session)
      (ready : validateSession request session = .ok ())
      (obstacle : Obstacle env settings F σ request session)
      (h : Unpublished request session σ σ') :
      Outcome env settings F request σ (.error e) σ'
  | unsettled (e : Exc) (session : UploadSession) (chunks : List Bytes) (σ' : World)
      (reads : σ.Reads request.workspaceId request.sessionId session)
      (ready : validateSession request session = .ok ())
      (published : Published env settings request session chunks σ σ')
      (why : CanFail F .sessions ∨ CanFail F .counters)
      (sessions : σ'.sessions = σ.sessions ∨ ∃ status, SessionStatus.Terminal status ∧
        σ'.sessions = (σ.putSession (session.withStatus status)).sessions)
      (hchunks : σ'.chunks = σ.chunks) :
      Outcome env settings F request σ (.error e) σ'
  | completed (session : UploadSession) (chunks : List Bytes) (σ₁ σ' : World)
      (reads : σ.Reads request.workspaceId request.sessionId session)
      (ready : validateSession request session = .ok ())
      (published : Published env settings request session chunks σ σ₁)
      (frame : σ₁.sessions = σ.sessions ∧ σ₁.chunks = σ.chunks ∧ σ₁.counters = σ.counters ∧
        σ₁.dedup = σ.dedup)
      (completed : Completed F request session σ₁ σ') :
      Outcome env settings F request σ
        (.ok ⟨request.sessionId, S3StorageClient.s3Path settings (fileKey request),
          chunks.flatten.length⟩) σ'

/-- The handlers let the exceptions of the validation pass. -/
theorem raises_validateSession : Raises passes (validateSession request session) := by
  refine raises_bind (raises_raiseIf ?_) fun _ => raises_bind (raises_raiseIf rfl) fun _ =>
    raises_bind ?_ fun _ => raises_raiseIf rfl
  · rfl
  · exact raises_bind (raises_raiseIf rfl) fun _ => raises_bind (raises_raiseIf rfl) fun _ =>
      raises_raiseIf rfl

/-- The handlers raise the exception they were given, and at most mark the session FAILED. -/
theorem wp_settle {e : Exc} {Q : Except Exc CompleteUploadResponse → World → Prop}
    (hvalid : session.key.Valid) (hlive : σ.session? session.key ≠ none)
    (hsame : passes e = true ∨ CanFail F .sessions ∨ e.isException = false → Q (.error e) σ)
    (hmarked : marks e = true → Q (.error e) (σ.putSession session.markFailed)) :
    (settle (dependencies settings) session e).wp (serviceMachine env) F Q σ := by
  rw [settle_eq]
  split
  · next hmarks =>
      rw [Program.wp_bind]
      refine wp_swallow (wp_updateSession hvalid hlive (hmarked hmarks) fun hcan e' he' => ?_)
      exact ⟨he', hsame (.inr (.inl hcan))⟩
  · next hmarks =>
      refine hsame ?_
      by_cases hpass : passes e = true
      · exact .inl hpass
      · right; right
        simpa [marks, hpass] using hmarks

/-- The `try` block of a session that is ready: no event comes out, or the event is out and
something fails later, or all goes well. -/
theorem wp_settled {Q : Except Exc CompleteUploadResponse → World → Prop}
    (hreads : σ.Reads request.workspaceId request.sessionId session)
    (hready : validateSession request session = .ok ())
    (hunpublished : ∀ e σ', Obstacle env settings F σ request session →
      Unpublished request session σ σ' → Leftover F request session σ σ' → Q (.error e) σ')
    (hunsettled : ∀ e chunks σ', Published env settings request session chunks σ σ' →
      CanFail F .sessions ∨ CanFail F .counters →
      (σ'.sessions = σ.sessions ∨ ∃ status, SessionStatus.Terminal status ∧
        σ'.sessions = (σ.putSession (session.withStatus status)).sessions) →
      σ'.chunks = σ.chunks → Q (.error e) σ')
    (hcompleted : ∀ chunks σ₁ σ', Published env settings request session chunks σ σ₁ →
      (σ₁.sessions = σ.sessions ∧ σ₁.chunks = σ.chunks ∧ σ₁.counters = σ.counters ∧
        σ₁.dedup = σ.dedup) → Completed F request session σ₁ σ' →
      Q (.ok ⟨request.sessionId, S3StorageClient.s3Path settings (fileKey request),
        chunks.flatten.length⟩) σ') :
    (tryCatch (body (dependencies settings) request session)
      (settle (dependencies settings) session)).wp (serviceMachine env) F Q σ := by
  have hvalid : session.key.Valid := hreads.key_eq ▸ hreads.valid
  obtain ⟨hstatus, hoffset, -⟩ := validateSession_eq_ok hready
  rw [Program.wp_tryCatch, body]
  refine wp_ofExcept_bind (fun _ _ => ?_) fun e he => nomatch hready.symm.trans he
  -- a failure before the event is out
  have hfailed : ∀ e σ₁, Unpublished request session σ σ₁ →
      Obstacle env settings F σ request session ∧ Leftover F request session σ σ₁ →
      (settle (dependencies settings) session e).wp (serviceMachine env) F Q σ₁ :=
    fun e σ₁ h ⟨hobstacle, hleftover⟩ => wp_settle hvalid (h.live hreads)
      (fun _ => hunpublished e σ₁ hobstacle h hleftover)
      fun _ => hunpublished e _ hobstacle h.markFailed hleftover
  rw [Program.wp_bind]
  refine Program.wp_mono (wp_assemble hreads) fun r σ₁ hr => ?_
  cases r with
  | error e => exact hfailed e σ₁ hr.2.1 hr.2.2
  | ok file =>
      obtain ⟨s3Path, finalSize⟩ := file
      obtain ⟨chunks, hassembled, rfl, rfl⟩ := hr
      dsimp only
      rw [Program.wp_bind]
      refine Program.wp_mono (wp_publish hreads hassembled) fun r σ₂ hr => ?_
      cases r with
      | error e => exact hfailed e σ₂ hr.2.1 hr.2.2
      | ok _ =>
          obtain ⟨hpublished, hframe⟩ := hr
          have hlive : σ₂.session? session.key ≠ none := by
            rw [session?_congr hframe.1 hpublished.clock]
            exact live_of_reads hreads
          refine Program.wp_mono (wp_finish (isBlank_s3Path request) (Int.natCast_nonneg _)
            hreads.key_eq hvalid hlive hstatus hoffset) fun r σ₃ hr => ?_
          cases hr with
          | completed σ' h => exact hcompleted chunks σ₂ _ hpublished hframe h
          | uncommitted e hcan =>
              refine wp_settle hvalid hlive (fun _ => ?_) fun _ => ?_
              · exact hunsettled e chunks _ hpublished (.inl hcan) (.inl hframe.1) hframe.2.1
              · refine hunsettled e chunks _ { hpublished with } (.inl hcan)
                  (.inr ⟨.failed, by decide, ?_⟩) hframe.2.1
                exact sessions_putSession_congr hframe.1 hpublished.clock
          | unreleased e counters hcan hcounters =>
              have hcomplete : (σ₂.putSession (session.withStatus .complete)).sessions =
                  (σ.putSession (session.withStatus .complete)).sessions :=
                sessions_putSession_congr hframe.1 hpublished.clock
              refine wp_settle hvalid ?_ (fun _ => ?_) fun _ => ?_
              · have hput : (σ₂.putSession (session.withStatus .complete)).session? session.key =
                    some _ := World.session?_putSession rfl
                refine ne_of_eq_of_ne hput (Option.some_ne_none _)
              · exact hunsettled e chunks _ { hpublished with } (.inr hcan)
                  (.inr ⟨.complete, by decide, hcomplete⟩) hframe.2.1
              · refine hunsettled e chunks _ { hpublished with } (.inr hcan)
                  (.inr ⟨.failed, by decide, ?_⟩) hframe.2.1
                refine Eq.trans ?_ (sessions_putSession_congr (t := session.markFailed) hframe.1
                  hpublished.clock)
                exact sessions_putSession_putSession (t := session.withStatus .complete) rfl

theorem wp_execute (request : CompleteUploadRequest)
    (hσ : σ.StoredWell ⟨request.workspaceId, request.sessionId⟩) :
    (execute (dependencies settings) request).wp (serviceMachine env) F
      (Outcome env settings F request σ) σ := by
  rw [execute, Program.wp_bind]
  refine wp_getSession hσ (fun session hreads => ?_) (fun _ => .notReady _)
    fun _ e _ => .notReady e
  dsimp only
  cases hready : validateSession request session with
  | ok _ =>
      exact wp_settled hreads hready
        (fun e σ' hobstacle h _ => .unpublished e session σ' hreads hready hobstacle h)
        (fun e chunks σ' hpublished why hs hchunks =>
          .unsettled e session chunks σ' hreads hready hpublished why hs hchunks)
        fun chunks σ₁ σ' hpublished hframe h =>
          .completed session chunks σ₁ σ' hreads hready hpublished hframe h
  | error e =>
      have hpass : passes e = true := raises_validateSession e hready
      rw [Program.wp_tryCatch, body, hready]
      change (settle (dependencies settings) session e).wp _ _ _ _
      rw [settle_eq, if_neg (by simp [marks, hpass])]
      exact .notReady e

/-- With nothing in the way and the stores at its service, a ready session becomes COMPLETE. -/
theorem wp_execute_of_ready (hreads : σ.Reads request.workspaceId request.sessionId session)
    (hready : validateSession request session = .ok ())
    (hobstacle : ¬ Obstacle env settings F σ request session)
    (hcan : ∀ area ∈ [Area.sessions, .counters], ¬ CanFail F area) :
    (execute (dependencies settings) request).wp (serviceMachine env) F
      (fun r σ' => r.isOk = true ∧ σ'.Reads request.workspaceId request.sessionId
        (session.withStatus .complete)) σ := by
  have hsessions : ¬ CanFail F .sessions := hcan _ (by simp)
  rw [execute, Program.wp_bind]
  refine wp_getSession hreads.storedWell (fun session' hreads' => ?_) (fun hnone => ?_)
    fun hwhy => ?_
  · obtain rfl := RedisSessionStore.serialize_injective
      (Option.some.inj (hreads'.stored.symm.trans hreads.stored))
    refine wp_settled hreads hready (fun _ _ h _ _ => absurd h hobstacle)
      (fun _ _ _ _ why _ _ => ?_) fun chunks σ₁ σ' hpublished hframe h => ⟨rfl, ?_⟩
    · exact why.elim (fun h => absurd h hsessions) fun h => absurd h (hcan _ (by simp))
    · refine ⟨hreads.valid, hreads.key_eq, ?_⟩
      rw [session?_congr h.sessions h.clock]
      exact World.session?_putSession hreads.key_eq
  · exact nomatch hnone.symm.trans hreads.stored
  · exact hwhy.elim (absurd hreads.valid) fun h => absurd h hsessions

end RagFileUploader.CompleteUploadUseCase
